import DeviceScript.Proofs.Emission.Agreement
import DeviceScript.Proofs.Emission.Refusal

/-! How emission depends on the depth of nesting. Only a function that stands outside all braces is
translated, so a node without one is translated alike outside braces and inside.
-/

namespace DeviceScript

/-- A node holds no function outside of its own braces. -/
def Node.HasNoOpenFunction (node : Node) : Prop :=
  ∀ inner, node.Reaches (fun _ => True) false false inner → inner.kind? ≠ some .function

/-- A part that is not enclosed has no open function if the node has none. -/
theorem Node.HasNoOpenFunction.part {node : Node} (h : node.HasNoOpenFunction) {part : Part}
    (hm : part ∈ node.parts) (he : part.enclosed = false)
    : part.node.HasNoOpenFunction := by
  intro inner hbelow
  refine h inner (.part hm trivial ?_)
  rwa [he]

namespace Fragment

/-- A node is written alike at two depths if both or neither of them are inside braces, or if it
holds no function that the braces matter to, by induction over the size of the node: what it puts
into braces is inside them at both depths. -/
theorem layout_eq_of_depth (style : Style) (node : Node) {depth depth' : Nat}
    (h : (depth > 0 ↔ depth' > 0) ∨ node.HasNoOpenFunction)
    : layout style depth node = layout style depth' node := by
  refine layout_congr ?_ (fun _ _ => rfl) (.refl style depth node) fun part hm => ?_
  -- The node itself is reached without braces, so it is no function if the depths differ.
  · intro hk
    rcases h with h | h
    · exact h
    · exact absurd hk (h node (.self node false))
  · have hpart : (depth + part.enclosed.toNat > 0 ↔ depth' + part.enclosed.toNat > 0)
        ∨ part.node.HasNoOpenFunction := by
      cases he : part.enclosed with
      | true => exact .inl (iff_of_true (Nat.succ_pos _) (Nat.succ_pos _))
      | false => exact h.imp id fun h => h.part hm he
    exact layout_eq_of_depth style part.node hpart
termination_by sizeOf node
decreasing_by exact Node.sizeOf_part hm

/-- A node without open functions has one text outside of all braces and inside. -/
theorem text_eq_of_depth {node : Node} (h : node.HasNoOpenFunction) (style : Style)
    (depth depth' : Nat)
    : text style depth node = text style depth' node :=
  congrArg (Cpp.Tree.print style.indent) (layout_eq_of_depth style node (.inr h))

end Fragment

end DeviceScript
