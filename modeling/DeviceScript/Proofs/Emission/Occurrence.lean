import DeviceScript.Proofs.Cpp.Action
import DeviceScript.Proofs.Emission.Refusal

/-! Occurrences of calls, assignments and updates in a program, each with the way that leads to it
and with the number of times that translation writes it.
-/

namespace DeviceScript

/-- A node that stands somewhere below another one, with the parts on the way to it. -/
structure Occurrence where
  node : Node
  path : List Part

namespace Occurrence

/-- The number of braced blocks that come to stand around the node. -/
def depth (occurrence : Occurrence) : Nat :=
  occurrence.path.foldr (fun part count => part.enclosed.toNat + count) 0

/-- How often the node is written: every part on the way multiplies the copies. -/
def copies (occurrence : Occurrence) : Nat :=
  occurrence.path.foldr (fun part count => part.copies * count) 1

/-- An occurrence in a part as one in the node that the part stands in. -/
def within (part : Part) (occurrence : Occurrence) : Occurrence :=
  { occurrence with path := part :: occurrence.path }

/-- An occurrence lies one deeper within an enclosed part. -/
theorem depth_within (part : Part) (occurrence : Occurrence)
    : (occurrence.within part).depth = part.enclosed.toNat + occurrence.depth := rfl

/-- The copies of a part and of what is in it multiply. -/
theorem copies_within (part : Part) (occurrence : Occurrence)
    : (occurrence.within part).copies = part.copies * occurrence.copies := rfl

/-- A node is written once exactly if nothing on the way to it is left out or repeated. -/
theorem copies_eq_one_iff (occurrence : Occurrence)
    : occurrence.copies = 1 ↔ ∀ part ∈ occurrence.path, part.copies = 1 := by
  obtain ⟨node, path⟩ := occurrence
  induction path with
  | nil => exact ⟨fun _ => nofun, fun _ => rfl⟩
  | cons part path ih =>
      change part.copies * (Occurrence.mk node path).copies = 1 ↔ _
      rw [List.forall_mem_cons, ← ih]
      constructor
      · intro h
        exact ⟨Nat.eq_one_of_mul_eq_one_right h, Nat.eq_one_of_mul_eq_one_left h⟩
      · rintro ⟨hp, ho⟩
        rw [hp, ho]

/-- A node is left out exactly if something on the way to it is left out. -/
theorem copies_eq_zero_iff (occurrence : Occurrence)
    : occurrence.copies = 0 ↔ ∃ part ∈ occurrence.path, part.copies = 0 := by
  obtain ⟨node, path⟩ := occurrence
  induction path with
  | nil => exact ⟨fun h => absurd h Nat.one_ne_zero, fun ⟨_, hm, _⟩ => absurd hm List.not_mem_nil⟩
  | cons part path ih =>
      change part.copies * (Occurrence.mk node path).copies = 0 ↔ _
      rw [Nat.mul_eq_zero, ih, List.exists_mem_cons_iff]

end Occurrence

namespace Node

/-- Tells whether a name replaces a node, of which the first part is not written then. -/
def isReplaced (shims : ShimTable) : Node → Bool
  | call callee _ _ =>
    callee.selected?.isNone && (Fragment.replacement? shims callee.dottedName?).isSome
  | member object (identifier name place) false location =>
    (Fragment.property? [] name).isNone && !Fragment.isDeferred name
      && (Fragment.replacement? shims
        (member object (identifier name place) false location).dottedName?).isSome
  | _ => false

/-- The parts of a node without those that a name replaces. -/
def remainingParts (shims : ShimTable) (node : Node) : List Part :=
  if node.isReplaced shims then node.parts.tail else node.parts

/-- Tells whether a node acts: it is a call, an assignment or an update, or selects a method that
acts as soon as it is selected. -/
def isAction : Node → Bool
  | call _ _ _ | assignment _ _ _ _ | update _ _ _ _ => true
  | member _ (identifier name _) false _ => name ∈ (["pop", "shift", "reverse"] : List Text)
  | _ => false

/-- What remains of the parts is among them. -/
theorem mem_parts_of_remaining {shims : ShimTable} {node : Node} {part : Part}
    (h : part ∈ node.remainingParts shims)
    : part ∈ node.parts := by
  unfold remainingParts at h
  split at h
  · exact List.mem_of_mem_tail h
  · exact h

/-- Tells whether a node is a call, an assignment or an update. -/
def isEffect : Node → Bool
  | call _ _ _ | assignment _ _ _ _ | update _ _ _ _ => true
  | _ => false

/-- The actions in a node with the way to each, the outer ones in front of the inner ones. -/
def occurrences (shims : ShimTable) (node : Node) : List Occurrence :=
  (if node.isAction then [{ node, path := [] }] else [])
    ++ (node.remainingParts shims).attach.flatMap fun part =>
      (occurrences shims part.1.node).map (Occurrence.within part.1)
termination_by sizeOf node
decreasing_by exact sizeOf_part (mem_parts_of_remaining part.2)

/-- The occurrences in a node are its own, if it is an action, and those within its
remaining parts. -/
theorem occurrences_eq (shims : ShimTable) (node : Node)
    : node.occurrences shims
      = (if node.isAction then [{ node, path := [] }] else [])
          ++ (node.remainingParts shims).flatMap fun part =>
            (part.node.occurrences shims).map (Occurrence.within part) := by
  rw [occurrences, List.flatMap_subtype, List.unattach_attach]
  exact fun _ _ => rfl

/-- An action occurs in itself. -/
theorem occurrence_self (shims : ShimTable) {node : Node} (h : node.isAction = true)
    : { node, path := [] } ∈ node.occurrences shims := by
  rw [occurrences_eq, h]
  exact List.mem_cons_self

/-- What occurs in a part that remains occurs in the node. -/
theorem occurrence_within {shims : ShimTable} (node : Node) {part : Part}
    (hm : part ∈ node.remainingParts shims) {occurrence : Occurrence}
    (h : occurrence ∈ part.node.occurrences shims)
    : occurrence.within part ∈ node.occurrences shims := by
  rw [occurrences_eq]
  exact List.mem_append_right _ (List.mem_flatMap.mpr ⟨part, hm, List.mem_map_of_mem h⟩)

/-- A chain of names holds no effects, by induction over the way to a node in it. -/
theorem isEffect_dotted {through : Part → Prop} {outer inner : Node} {enclosed enclosed' : Bool}
    (h : outer.Reaches through enclosed enclosed' inner) (hd : outer.dottedName?.isSome = true)
    : inner.isEffect = false := by
  induction h with
  | self node enclosed =>
      cases node with
      | identifier _ _ | member _ _ _ _ => rfl
      | _ => cases hd
  | @part outer inner enclosed enclosed' part hm _ _ ih =>
      cases outer with
      | identifier name location => exact absurd hm List.not_mem_nil
      | member object property computed location =>
          cases property with
          | identifier name place =>
              cases computed with
              | true => cases hd
              | false =>
                  rw [List.mem_singleton.mp hm] at ih
                  refine ih ?_
                  simpa only [dottedName?, Option.isSome_map] using hd
          | _ => cases hd
      | _ => cases hd

/-- Only a name can be replaced. -/
theorem dottedName?_of_replaced {shims : ShimTable} {name : Option Text}
    (h : (Fragment.replacement? shims name).isSome = true)
    : name.isSome = true := by
  cases name with
  | none => exact absurd h nofun
  | some name => rfl

/-- A part that a name replaces is a chain of names. -/
theorem remaining_or_dotted (shims : ShimTable) {node : Node} {part : Part} (h : part ∈ node.parts)
    : part ∈ node.remainingParts shims ∨ part.node.dottedName?.isSome = true := by
  unfold remainingParts
  split
  · rename_i hr
    cases node with
    | call callee arguments location =>
        simp only [isReplaced, Bool.and_eq_true, Option.isNone_iff_eq_none] at hr
        simp only [parts, hr.1, List.tail_cons] at h ⊢
        rcases List.mem_cons.mp h with rfl | h
        · exact .inr (dottedName?_of_replaced hr.2)
        · exact .inl h
    | member object property computed location =>
        cases property with
        | identifier name place =>
            cases computed with
            | true => cases hr
            | false =>
                simp only [isReplaced, Bool.and_eq_true] at hr
                have hname := dottedName?_of_replaced hr.2
                rw [List.mem_singleton.mp h]
                exact .inr (by simpa only [dottedName?, Option.isSome_map] using hname)
        | _ => cases hr
    | _ => cases hr
  · exact .inl h

/-- Every effect in a node has an occurrence, by induction over the way to it. -/
theorem exists_occurrence (shims : ShimTable) {outer inner : Node} {enclosed enclosed' : Bool}
    (h : outer.Reaches (fun _ => True) enclosed enclosed' inner) (hi : inner.isEffect = true)
    : ∃ occurrence ∈ outer.occurrences shims, occurrence.node = inner := by
  induction h with
  | self node enclosed =>
      have haction : node.isAction = true := by
        cases node with
        | call _ _ _ | assignment _ _ _ _ | update _ _ _ _ => rfl
        | _ => exact absurd hi nofun
      exact ⟨_, occurrence_self shims haction, rfl⟩
  | @part outer inner enclosed enclosed' part hm _ hbelow ih =>
      rcases remaining_or_dotted shims hm with hr | hd
      · obtain ⟨occurrence, ho, hn⟩ := ih hi
        exact ⟨occurrence.within part, occurrence_within _ hr ho, hn⟩
      · rw [isEffect_dotted hbelow hd] at hi
        exact absurd hi Bool.false_ne_true

end Node

end DeviceScript
