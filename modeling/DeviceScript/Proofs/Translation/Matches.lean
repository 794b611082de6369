import DeviceScript.Proofs.Emission.Matches
import DeviceScript.Proofs.Emission.Wording
import DeviceScript.Proofs.Translation.Log

/-! The replaced names that the emission of a program logs, and those that come to stand in its
text. They are the same unless a replaced name stands in a longer chain that is replaced as well.
-/

namespace DeviceScript

/-- The replacement that an entry tells of. -/
def TraceEntry.substitution? : TraceEntry → Option (Text × Text)
  | shimMatch source target => some (source, target)
  | _ => none

/-- A note is logged as the substitution that it is. -/
theorem Note.substitution?_entry (note : Note) : note.entry.substitution? = note.substitution? := by
  cases note <;> rfl

/-- The replacements among some logged events. -/
def Trace.substitutions (events : List TraceEvent) : List (Text × Text) :=
  events.filterMap fun event => event.entry.substitution?

/-- No name of the table stands at the beginning of another one, in front of a point. -/
def ShimTable.IsSeparate (table : ShimTable) : Prop :=
  ∀ source ∈ table.sources, ∀ other ∈ table.sources, ¬ (other ++ "." : Text) <+: source

/-- What is left out of a list shows in what the list yields, by induction over the list. -/
theorem filterMap_filter_perm_iff {α β : Type} (list : List α) (keep : α → Bool)
    (f : α → Option β)
    : (list.filterMap f).Perm ((list.filter keep).filterMap f)
      ↔ ∀ a ∈ list, (f a).isSome = true → keep a = true := by
  constructor
  · intro h
    have hlength := h.length_eq
    clear h
    induction list with
    | nil => exact fun a hm => absurd hm List.not_mem_nil
    | cons head tail ih =>
        have hle : ((tail.filter keep).filterMap f).length ≤ (tail.filterMap f).length :=
          (tail.filter_sublist.filterMap f).length_le
        rw [List.forall_mem_cons]
        cases hf : f head with
        | none =>
            have htail : (tail.filterMap f).length = ((tail.filter keep).filterMap f).length := by
              rw [List.filterMap_cons_none hf] at hlength
              rw [hlength, List.filter_cons]
              split
              · rw [List.filterMap_cons_none hf]
              · rfl
            exact ⟨fun hsome => absurd hsome Bool.false_ne_true, ih htail⟩
        | some value =>
            rw [List.filterMap_cons_some hf, List.length_cons] at hlength
            cases hk : keep head with
            | true =>
                rw [List.filter_cons_of_pos hk, List.filterMap_cons_some hf, List.length_cons]
                  at hlength
                exact ⟨fun _ => rfl, ih (Nat.succ.inj hlength)⟩
            | false =>
                rw [List.filter_cons_of_neg (Bool.eq_false_iff.mp hk)] at hlength
                omega
  · intro h
    have hkeep : (list.filter keep).filterMap f = list.filterMap f := by
      rw [List.filterMap_filter]
      refine List.filterMap_congr fun a hm => ?_
      cases hk : keep a with
      | true => rfl
      | false =>
          have hnone : ¬ (f a).isSome = true := fun hsome => by
            rw [h a hm hsome] at hk
            cases hk
          exact (Option.not_isSome_iff_eq_none.mp hnone).symm
    rw [hkeep]

namespace Node

/-- The replacements at the nodes that come to stand in the text of a node. -/
def shownSubstitutions (shims : ShimTable) (node : Node) : List (Text × Text) :=
  ((node.visited shims).filter fun occurrence => occurrence.copies ≠ 0).filterMap
    fun occurrence => occurrence.node.substitution? shims

/-- A name is replaced in a longer chain that is replaced as well. -/
def HidesSubstitution (shims : ShimTable) (node : Node) : Prop :=
  ∃ inner ∈ node.visited shims, ∃ outer ∈ node.visited shims,
    inner.node.isReplaced shims = true ∧ outer.node.isReplacedChain shims = true
      ∧ inner.IsWithin outer

variable {shims : ShimTable} {node : Node}

/-- What is substituted is a source of the table. -/
theorem mem_sources {source target : Text} (h : node.substitution? shims = some (source, target))
    : source ∈ shims.sources := by
  obtain ⟨before, after, he, _⟩ := List.lookup_eq_some_iff.mp (soughtName?_of_substitution? h).2
  rw [ShimTable.sources, he, List.map_append]
  exact List.mem_append_right _ List.mem_cons_self

/-- A table without overlapping sources hides no substitution. -/
theorem not_hidesSubstitution (h : shims.IsSeparate) : ¬ node.HidesSubstitution shims := by
  rintro ⟨inner, hi, outer, ho, hreplaced, hchain, hwithin⟩
  obtain ⟨source, target, hs⟩ := exists_substitution (isReplaced_of_isReplacedChain hchain)
  obtain ⟨source', target', hs'⟩ := exists_substitution hreplaced
  have hbegins := source_within_chain ho hi hchain hwithin hs hs'
  exact h source (mem_sources hs) source' (mem_sources hs') hbegins

/-- The replacements at the nodes that emission comes to are all shown exactly if none is hidden. -/
theorem perm_shownSubstitutions_iff (shims : ShimTable) (node : Node)
    : ((node.visited shims).filterMap fun occurrence =>
        occurrence.node.substitution? shims).Perm (node.shownSubstitutions shims)
      ↔ ¬ node.HidesSubstitution shims := by
  rw [shownSubstitutions, filterMap_filter_perm_iff]
  simp only [isSome_substitution?, decide_eq_true_eq]
  constructor
  · rintro h ⟨inner, hi, outer, ho, hreplaced, hchain, hwithin⟩
    exact h inner hi hreplaced ((copies_visited hi).mpr ⟨outer, ho, hchain, hwithin⟩)
  · intro h inner hi hreplaced hcopies
    obtain ⟨outer, ho, hchain, hwithin⟩ := (copies_visited hi).mp hcopies
    exact h ⟨inner, hi, outer, ho, hreplaced, hchain, hwithin⟩

end Node

namespace Fragment

/-- Whether a node is refused does not depend on the names that are replaced. -/
theorem anyFatal_notes_style (style other : Style) (depth : Nat) (node : Node)
    : anyFatal (notes style depth node) = anyFatal (notes other depth node) :=
  Bool.eq_iff_iff.mpr
    ((anyFatal_notes_iff style depth node).trans (anyFatal_notes_iff other depth node).symm)

/-- The replacements that are noted on a node are those in its text exactly if none is hidden. -/
theorem substitutions_shown_iff (style : Style) (depth : Nat) {node : Node}
    (clean : anyFatal (notes style depth node) = false)
    : (substitutions (notes style depth node)).Perm (node.shownSubstitutions style.shims)
      ↔ ¬ node.HidesSubstitution style.shims := by
  have hall := substitutions_visited style depth clean
  rw [← Node.perm_shownSubstitutions_iff]
  exact ⟨hall.symm.trans, hall.trans⟩

/-- The events that the emission of a program adds to a log. -/
theorem trace_emitProgram (style : Style) (body : List Node) (location : Option Location)
    {progress : Progress} {trace : Trace} (traced : progress.trace = some trace)
    : ∃ added,
        ((emitProgram style body).run progress).2.trace
            = some { trace with events := trace.events ++ added }
          ∧ Trace.substitutions added = substitutions (notes style 0 (.program body location)) := by
  have hnotes : notes style 0 (.program body location) = body.flatMap (notes style 0) := by
    rw [notes]
  rw [hnotes]
  refine ⟨((body.flatMap (notes style 0)).map Note.entry).map (⟨·, trace.active.head?⟩), ?_, ?_⟩
  · rw [emitProgram_progress, Progress.trace_noteAll, traced, Option.map_some, Trace.logAll_eq]
  · rw [Trace.substitutions, List.filterMap_map, List.filterMap_map, substitutions]
    exact List.filterMap_congr fun note _ => note.substitution?_entry

/-- The emission of a program without an error logs one replacement for each node that it comes to
and at which a name is replaced. These are the replacements in the text exactly if no replaced name
stands in a longer chain that is replaced as well, and so they are with every table in which no
name stands at the beginning of another one. With any table for the same names, a code point that
is neither ASCII nor in the indentation stands in the text as often as in the wordings of these
nodes, each as often as it is written. -/
theorem substitutions_of_program (style : Style) (body : List Node) (location : Option Location)
    {progress : Progress} {trace : Trace} (traced : progress.trace = some trace)
    (clean : ((emitProgram style body).run progress).1.hasFatal = false)
    : let program := Node.program body location
      let visited := program.visited style.shims
      ∃ added,
        ((emitProgram style body).run progress).2.trace
            = some { trace with events := trace.events ++ added }
          ∧ (Trace.substitutions added).Perm
            (visited.filterMap fun occurrence => occurrence.node.substitution? style.shims)
          ∧ ((Trace.substitutions added).Perm (program.shownSubstitutions style.shims)
            ↔ ¬ program.HidesSubstitution style.shims)
          ∧ (style.shims.IsSeparate
            → (Trace.substitutions added).Perm (program.shownSubstitutions style.shims))
          ∧ ∀ table point, table.SameSources style.shims → point.isAscii = false
            → point ∉ style.indent
            → ((emitProgram ⟨table, style.indent⟩ body).run progress).1.text.count point
              = (visited.map fun occurrence =>
                occurrence.copies * (occurrence.node.wording table).count point).sum := by
  intro program visited
  obtain ⟨added, htrace, hadded⟩ := trace_emitProgram style body location traced
  have hclean : anyFatal (notes style 0 program) = false := by
    rw [hasFatal_emitProgram] at clean
    rw [notes, clean]
  have hshown := substitutions_shown_iff style 0 hclean
  rw [← hadded] at hshown
  refine ⟨added, htrace, ?_, hshown, ?_, ?_⟩
  · rw [hadded]
    exact substitutions_visited style 0 hclean
  · intro hseparate
    exact hshown.mpr (Node.not_hidesSubstitution hseparate)
  · intro table point hsources outside clear
    have hvisited : visited = program.visited table := (Node.visited_congr hsources program).symm
    rw [text_emitProgram _ _ location, hvisited]
    rw [anyFatal_notes_style style ⟨table, style.indent⟩] at hclean
    exact count_visited outside ⟨table, style.indent⟩ 0 clear hclean

/-- With the built-in table, what the log of a square root tells of is what stands in the text. -/
theorem substitutions_of_squareRoot
    : let root : Node := .member (.identifier "Math" none) (.identifier "sqrt" none) false none
      let body : List Node :=
        [.expressionStatement (.call root [.identifier "x" none] none) none]
      let result := (emitProgram ⟨ShimTable.builtIn, "    "⟩ body).run { trace := some {} }
      result.1.hasFatal = false
        ∧ result.1.text = "sqrt(x);"
        ∧ ∃ added, result.2.trace = some { events := added }
          ∧ (Trace.substitutions added).Perm
            ((Node.program body none).shownSubstitutions ShimTable.builtIn) := by
  intro root body result
  have hseparate : ShimTable.builtIn.IsSeparate := by
    unfold ShimTable.IsSeparate
    decide +kernel
  obtain ⟨added, htrace, _, _, hshown, _⟩ :=
    substitutions_of_program ⟨ShimTable.builtIn, "    "⟩ body none
      (rfl : ({ trace := some {} } : Progress).trace = some {}) rfl
  exact ⟨rfl, rfl, added, htrace, hshown hseparate⟩

/-- The log tells of a name that is replaced in a longer chain, of which the text shows nothing. -/
theorem logged_but_hidden
    : let style : Style := ⟨⟨[("a.b", "X"), ("a.b.c", "Y")]⟩, "    "⟩
      let object : Node := .member (.identifier "a" none) (.identifier "b" none) false none
      let chain : Node := .member object (.identifier "c" none) false none
      let body : List Node := [.expressionStatement chain none]
      let result := (emitProgram style body).run { trace := some {} }
      let events : List TraceEvent :=
        [⟨.shimMatch "a.b" "X", none⟩, ⟨.shimMatch "a.b.c" "Y", none⟩]
      result.1.hasFatal = false
        ∧ result.1.text = "Y;"
        ∧ result.2.trace = some { events := events }
        ∧ ¬ (Trace.substitutions events).Perm
          ((Node.program body none).shownSubstitutions style.shims) := by
  intro style object chain body result events
  let statement : Node := .expressionStatement chain none
  have htrace : result.2.trace = some { events := events } := rfl
  have hclean : anyFatal (notes style 0 (.program body none)) = false := by
    rw [notes, ← hasFatal_emitProgram style body {}]
    rfl
  obtain ⟨added, hadded, hsame⟩ := trace_emitProgram style body none
    (rfl : ({ trace := some {} } : Progress).trace = some {})
  have hevents : events = added :=
    congrArg Trace.events (Option.some.inj (htrace.symm.trans hadded))
  refine ⟨rfl, rfl, htrace, ?_⟩
  rw [hevents, hsame, substitutions_shown_iff style 0 hclean, not_not]
  -- The chain stands in the statement of the program, and the hidden name in the chain.
  have hstatement : ({ node := statement } : Part)
      ∈ (Node.program body none).visitedParts style.shims :=
    List.mem_cons_self
  have hchain : ({ node := chain } : Part) ∈ statement.visitedParts style.shims :=
    List.mem_cons_self
  have hobject : ({ node := object, copies := 0 } : Part) ∈ chain.visitedParts style.shims :=
    List.mem_cons_self
  have houter := Node.visited_within (.program body none) hstatement
    (Node.visited_within statement hchain (Node.visited_self style.shims chain))
  have hinner := Node.visited_within (.program body none) hstatement
    (Node.visited_within statement hchain
      (Node.visited_within chain hobject (Node.visited_self style.shims object)))
  exact ⟨_, hinner, _, houter, rfl, rfl, _, [], rfl⟩

end Fragment

end DeviceScript
