import DeviceScript.Proofs.Emission.Report
import DeviceScript.Proofs.Emission.Writing
import DeviceScript.Proofs.Syntax.Reading
import DeviceScript.Proofs.Syntax.Spelling

/-! Statements without content that are the whole body of a loop or a whole branch of a conditional.
They leave the same text as an empty block, but each of them is refused.
-/

namespace DeviceScript

open Emit

/-- A compound statement without one of the statements in it, which may be a block. -/
inductive BodySlot where
  | whileBody (test : Node) (location : Option Location)
  | forBody (initial test advance : Option Node) (location : Option Location)
  | thenBranch (test : Node) (alternate : Option Node) (location : Option Location)
  | elseBranch (test consequent : Node) (location : Option Location)

namespace BodySlot

/-- The compound statement with a statement in the free place. -/
def fill : BodySlot → Node → Node
  | whileBody test location, body => .whileLoop test body location
  | forBody initial test advance location, body => .forLoop initial test advance body location
  | thenBranch test alternate location, branch => .ifElse test branch alternate location
  | elseBranch test consequent location, branch => .ifElse test consequent (some branch) location

/-- The notes that are taken before those on the statement in the free place. -/
def notesBefore (style : Style) (depth : Nat) : BodySlot → List Note
  | whileBody test _ | thenBranch test _ _ => Fragment.notes style depth test
  | forBody initial test advance _ =>
    initial.elim [] (Fragment.headerNotes style depth) ++ test.elim [] (Fragment.notes style depth)
      ++ advance.elim [] (Fragment.notes style depth)
  | elseBranch test consequent _ =>
    Fragment.notes style depth test
      ++ consequent.inner.flatMap (Fragment.notes style (depth + 1))

/-- The notes that are taken after those on the statement in the free place. -/
def notesAfter (style : Style) (depth : Nat) : BodySlot → List Note
  | thenBranch _ alternate _ => alternate.elim [] (Fragment.alternateNotes style depth)
  | _ => []

variable (style : Style) (depth : Nat) (slot : BodySlot) {body body' : Node}

/-- The notes on a compound statement are those on its parts, in order. -/
theorem notes_fill (h : body.isIfElse = false)
    : Fragment.notes style depth (slot.fill body)
      = slot.notesBefore style depth ++ body.inner.flatMap (Fragment.notes style (depth + 1))
        ++ slot.notesAfter style depth := by
  cases slot with
  | whileBody test location =>
    rw [fill, Fragment.notes_whileLoop]
    exact (List.append_nil _).symm
  | forBody initial test advance location =>
    rw [fill, Fragment.notes_forLoop]
    exact (List.append_nil _).symm
  | thenBranch test alternate location =>
    rw [fill, Fragment.notes_ifElse]
    rfl
  | elseBranch test consequent location =>
    rw [fill, Fragment.notes_ifElse, Option.elim, Fragment.alternateNotes, h]
    exact (List.append_nil _).symm

/-- The text of a compound statement depends on the texts between its braces only. -/
theorem text_fill (h : body.isIfElse = false) (h' : body'.isIfElse = false)
    (ht : Fragment.present (body.inner.map (Fragment.text style (depth + 1)))
      = Fragment.present (body'.inner.map (Fragment.text style (depth + 1))))
    : Fragment.text style depth (slot.fill body) = Fragment.text style depth (slot.fill body') := by
  cases slot with
  | whileBody test location =>
    rw [fill, fill, Fragment.text_whileLoop, Fragment.text_whileLoop, ht]
  | forBody initial test advance location =>
    rw [fill, fill, Fragment.text_forLoop, Fragment.text_forLoop, ht]
  | thenBranch test alternate location =>
    rw [fill, fill, Fragment.text_ifElse, Fragment.text_ifElse, ht]
  | elseBranch test consequent location =>
    simp only [fill, Fragment.text_ifElse, Option.elim, Fragment.alternateText, h, h', ht,
      Bool.false_eq_true, if_false]

end BodySlot

namespace Estree

/-- The places in a tree for a statement that is no member of a body, each with the key under which
the statement stands. -/
def bodySlots (tree : Datum) : List (Text × BodySlot) :=
  match kind? tree with
  | some .whileLoop => [("body", .whileBody (child tree "test") (location? tree))]
  | some .forLoop =>
    [("body",
      .forBody (optional tree "init") (optional tree "test") (optional tree "update")
        (location? tree))]
  | some .ifElse =>
    [("consequent", .thenBranch (child tree "test") (optional tree "alternate") (location? tree)),
      ("alternate", .elseBranch (child tree "test") (child tree "consequent") (location? tree))]
  | _ => []

variable {tree : Datum} {key : Text} {slot : BodySlot}

/-- A tree with a statement in such a place is read as the compound statement around it. -/
theorem toNode_eq_fill (h : (key, slot) ∈ bodySlots tree) (hn : (tree.field key).isNull = false)
    : toNode tree = slot.fill (toNode (tree.field key)) := by
  have hsome : optional tree key = some (toNode (tree.field key)) := by
    rw [optional_eq_toNode?, toNode?, hn]
    rfl
  unfold bodySlots kind? at h
  rw [toNode.eq_def]
  -- The places and the reading are both by the kind, so one case analysis has to reach both.
  revert h
  cases type? tree with
  | none => exact fun h => absurd h List.not_mem_nil
  | some type =>
    dsimp only [Option.bind_some]
    cases NodeKind.all.find? fun kind => kind.name = type with
    | none => exact fun h => absurd h List.not_mem_nil
    | some kind =>
      cases kind with
      | whileLoop | forLoop =>
        intro h
        obtain ⟨rfl, rfl⟩ := Prod.mk.inj (List.mem_singleton.mp h)
        simp only [BodySlot.fill, child_eq_toNode]
      | ifElse =>
        intro h
        obtain he | h := List.mem_cons.mp h
        · obtain ⟨rfl, rfl⟩ := Prod.mk.inj he
          simp only [BodySlot.fill, child_eq_toNode]
        · obtain ⟨rfl, rfl⟩ := Prod.mk.inj (List.mem_singleton.mp h)
          simp only [BodySlot.fill, child_eq_toNode, hsome]
      | _ => exact fun h => absurd h List.not_mem_nil

/-- An empty statement is lowered to an unsupported node of its name. -/
theorem toNode_of_isEmptyStatement (h : isEmptyStatement tree)
    : toNode tree = .unsupported "EmptyStatement" [] (location? tree) := by
  have ht : type? tree = some (Text.ofString "EmptyStatement") :=
    type?_eq_emptyStatement_iff.mpr h
  have hk : NodeKind.all.find? (fun kind => kind.name = Text.ofString "EmptyStatement") = none := by
    decide
  rw [toNode.eq_def, ht]
  simp only [hk]

end Estree

namespace Fragment

open Cpp Estree

/-- An unsupported node has no text. -/
theorem text_unsupported (style : Style) (depth : Nat) (source detail : Text)
    (location : Option Location)
    : text style depth (.unsupported source detail location) = [] := by
  rw [text, layout, Tree.print_absent]

/-- A refused statement writes what an empty block writes, and its refusal is among the notes. -/
theorem emit_fill_unsupported (style : Style) (slot : BodySlot) (source detail : Text)
    (place place' : Option Location) (progress : Progress)
    : let refused := Node.unsupported source detail place
      let written := (emit style (slot.fill refused)).run progress
      let block := (emit style (slot.fill (.block [] place'))).run progress
      written.1 = block.1
        ∧ ∃ before after,
            written.2.diagnostics
              = before ++ (Finding.construct source detail).reportOn refused :: after
            ∧ block.2.diagnostics = before ++ after := by
  intro refused written block
  have htext (depth : Nat)
      : text style depth (slot.fill refused)
        = text style depth (slot.fill (.block [] place')) := by
    refine slot.text_fill style depth rfl rfl ?_
    -- What is refused has no text, so nothing stands between the braces in either case.
    change present [text style (depth + 1) refused] = []
    rw [text_unsupported]
    rfl
  simp only [written, block, emit_writes style _ progress]
  refine ⟨htext _, progress.diagnostics ++ reports (slot.notesBefore style progress.depth),
    reports (slot.notesAfter style progress.depth), ?_, ?_⟩
  · rw [Progress.diagnostics_eq_append_reports, slot.notes_fill _ _ rfl]
    simp only [refused, Node.inner, List.flatMap_cons, List.flatMap_nil, notes, reports,
      List.filterMap_append, List.append_assoc]
    rfl
  · rw [Progress.diagnostics_eq_append_reports, slot.notes_fill _ _ rfl]
    simp only [Node.inner, List.flatMap_nil, List.append_nil, reports, List.filterMap_append,
      List.append_assoc]

/-- The empty statements that are refused are exactly those that reading comes to outside the
bodies, and where one is the whole body of a loop or a branch of a conditional, it leaves the text
of an empty block there, and an error more than that. -/
theorem emptyStatement_refused (tree : Datum) {outer : Datum} {key : Text} {slot : BodySlot}
    (hs : (key, slot) ∈ bodySlots outer) (he : isEmptyStatement (outer.field key))
    (style : Style) (place : Option Location) (progress : Progress)
    : ((toNode tree).Refuses "EmptyStatement"
        ↔ isEmptyStatement tree
          ∨ ∃ inner, Reads tree inner ∧ ∃ item ∈ singles inner, isEmptyStatement item)
      ∧ let empty := (emit style (toNode outer)).run progress
        let block := (emit style (slot.fill (.block [] place))).run progress
        let refusal := (Finding.construct "EmptyStatement" []).reportOn (toNode (outer.field key))
        empty.1 = block.1
          ∧ refusal.isFatal = true
          ∧ ∃ before after,
              empty.2.diagnostics = before ++ refusal :: after
              ∧ block.2.diagnostics = before ++ after := by
  have hn : (outer.field key).isNull = false := by
    cases hv : outer.field key with
    | null =>
      rw [hv] at he
      exact absurd he (by decide)
    | _ => rfl
  refine ⟨refuses_emptyStatement_iff tree, ?_⟩
  rw [toNode_eq_fill hs hn, toNode_of_isEmptyStatement he]
  obtain ⟨htext, hreports⟩ := emit_fill_unsupported style slot "EmptyStatement" []
    (location? (outer.field key)) place progress
  exact ⟨htext, rfl, hreports⟩

/-- The tree of a loop over an empty statement. -/
def idleLoop : Datum :=
  ofNode (.whileLoop (.identifier "x" none) (.unsupported "EmptyStatement" [] none) none)

/-- The loop without its statement. -/
def idleLoopSlot : BodySlot := .whileBody (.identifier "x" none) none

/-- The body of the idle loop is a slot for a body. -/
theorem mem_bodySlots_idleLoop : (Text.ofString "body", idleLoopSlot) ∈ bodySlots idleLoop := by
  have hk : kind? idleLoop = some .whileLoop := by decide
  have htest : child idleLoop "test" = .identifier "x" none := by
    rw [child_eq_toNode]
    exact toNode_ofNode .identifier
  rw [bodySlots, hk, htest]
  exact List.mem_singleton_self _

/-- The idle loop is refused for its empty body and for nothing else. -/
theorem emptyStatement_refused_idleLoop
    : let style : Style := ⟨ShimTable.builtIn, "  "⟩
      let empty := (emit style (toNode idleLoop)).run {}
      let block := (emit style (idleLoopSlot.fill (.block [] none))).run {}
      let refusal := (Finding.construct "EmptyStatement" []).reportOn
        (toNode (idleLoop.field "body"))
      (Text.ofString "body", idleLoopSlot) ∈ bodySlots idleLoop
        ∧ isEmptyStatement (idleLoop.field "body")
        ∧ empty.1 = block.1
        ∧ refusal.isFatal = true
        ∧ ∃ before after,
            empty.2.diagnostics = before ++ refusal :: after
            ∧ block.2.diagnostics = before ++ after := by
  intro style empty block refusal
  have he : isEmptyStatement (idleLoop.field "body") := by decide
  exact ⟨mem_bodySlots_idleLoop, he,
    (emptyStatement_refused idleLoop mem_bodySlots_idleLoop he style none {}).2⟩

/-- The empty statement under the loop is read as a node of its own, and makes an error of a script
that has none with an empty block. -/
theorem refuses_idleLoop
    : let style : Style := ⟨ShimTable.builtIn, "  "⟩
      let empty := (emit style (toNode idleLoop)).run {}
      let block := (emit style (idleLoopSlot.fill (.block [] none))).run {}
      (toNode idleLoop).Refuses "EmptyStatement"
        ∧ hasFatal empty.2.diagnostics = true
        ∧ block.2.diagnostics = [] := by
  intro style empty block
  have hread : toNode idleLoop = idleLoopSlot.fill (.unsupported "EmptyStatement" [] none) := by
    rw [toNode_eq_fill mem_bodySlots_idleLoop rfl, toNode_of_isEmptyStatement (by decide)]
    rfl
  refine ⟨?_, ?_, rfl⟩
  · rw [hread]
    exact (Node.refuses_iff _).mpr (.inr ⟨_, List.mem_cons_of_mem _ List.mem_cons_self,
      (Node.refuses_unsupported _ _ _).mpr rfl⟩)
  · simp only [empty, hread]
    rfl

end Fragment

end DeviceScript
