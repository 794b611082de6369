import DeviceScript.Proofs.Cpp.Reader
import DeviceScript.Proofs.Cpp.Scanning

/-! Reading back of spellings: from the spelling of an expression the reader gets the expression
without its parentheses.
-/

namespace DeviceScript.Cpp

namespace State

/-- Nothing that is open innermost is completed at a level. -/
def Waits (level : Nat) : List Frame → Prop
  | .leading _ :: _ => False
  | .binary operator _ :: _ => (Tree.binaryStrength? operator).getD 0 < level
  | .assign _ _ :: _ => 0 < level
  | _ => True

/-- Where nothing is completed, a value stays alone. -/
theorem settle_of_waits {level : Nat} {frames : List Frame} (h : Waits level frames) (value : Tree)
    : settle level value frames = (value, frames) := by
  cases frames with
  | nil => rfl
  | cons frame rest =>
      cases frame with
      | leading operator => exact h.elim
      | binary operator left => exact if_neg (Nat.not_le_of_lt h)
      | assign operator target => exact if_neg (Nat.ne_of_gt h)
      | _ => rfl

/-- What is not completed at one level is not completed at a higher one. -/
theorem Waits.mono {level level' : Nat} {frames : List Frame} (h : Waits level frames)
    (hle : level ≤ level')
    : Waits level' frames := by
  cases frames with
  | nil => trivial
  | cons frame rest =>
      cases frame with
      | leading operator => exact h
      | binary operator left => exact Nat.lt_of_lt_of_le h hle
      | assign operator target => exact Nat.lt_of_lt_of_le h hle
      | _ => trivial

/-- Reading the tokens of an expression leaves the expression behind, perhaps in parts that are
completed as soon as an operator follows that binds no tighter. -/
def Leaves (tree : Tree) (frames : List Frame) : Prop :=
  ∃ value frames', (operand frames).run tree.tokens = some (behind value frames')
    ∧ (∀ level ≤ tree.strength, settle level value frames' = settle level tree.bare frames)
    ∧ (12 ≤ tree.strength → value = tree.bare ∧ frames' = frames)

/-- What an expression may stand in: it is not taken apart by what is open around it. -/
def Admits (tree : Tree) (frames : List Frame) : Prop :=
  tree.strength ≤ 10 → Waits (max 1 tree.strength) frames

/-- An expression that is read in one piece is left behind. -/
theorem leaves_of_run {tree : Tree} {frames : List Frame}
    (h : (operand frames).run tree.tokens = some (behind tree.bare frames))
    : Leaves tree frames :=
  ⟨tree.bare, frames, h, fun _ _ => rfl, fun _ => ⟨rfl, rfl⟩⟩

/-- A strong expression is left behind in one piece. -/
theorem Leaves.run {tree : Tree} {frames : List Frame} (h : Leaves tree frames)
    (strong : 12 ≤ tree.strength)
    : (operand frames).run tree.tokens = some (behind tree.bare frames) := by
  obtain ⟨value, frames', hrun, _, hexact⟩ := h
  obtain ⟨rfl, rfl⟩ := hexact strong
  exact hrun

/-- A strong expression may stand in everything. -/
theorem admits_of_strong {tree : Tree} (frames : List Frame) (h : 11 ≤ tree.strength)
    : Admits tree frames := by
  intro hle
  omega

/-- A mark is read as a step. -/
theorem run_mark (state : State) (mark : Text) (rest : List Token)
    : state.run (.mark mark :: rest)
      = (state.step (.mark mark)).bind fun next => next.run rest := rfl

-----------------------------------------------------------------------------------------
-- What is open around an expression is completed at a mark behind it
-----------------------------------------------------------------------------------------

/-- An operator between two operands completes what binds as tightly, and opens an operation. -/
theorem readMark_binary {operator : Text} {level : Nat}
    (known : Tree.binaryStrength? operator = some level) (value : Tree) (frames : List Frame)
    : readMark operator value frames
      = some (operand (.binary operator (settle level value frames).1
          :: (settle level value frames).2)) := by
  obtain ⟨index, hi, rfl⟩ := Option.map_eq_some_iff.mp known
  obtain ⟨hlt, hm, _⟩ := List.findIdx?_eq_some_iff_getElem.mp hi
  have hother : ∀ operators ∈ Tree.binaryLevels, ∀ operator ∈ operators,
      operator ≠ "(" ∧ operator ≠ "[" ∧ operator ≠ "." ∧ operator ≠ "::"
        ∧ operator ∉ Tree.updateOperators ∧ operator ∉ Tree.assignOperators := by
    decide
  obtain ⟨h1, h2, h3, h4, h5, h6⟩ :=
    hother _ (List.getElem_mem hlt) operator (of_decide_eq_true hm)
  simp only [readMark, h1, h2, h3, h4, h5, h6, if_false, known]

/-- An assigning operator completes what binds tighter, and opens an assignment. -/
theorem readMark_assign {operator : Text} (known : operator ∈ Tree.assignOperators) (value : Tree)
    (frames : List Frame)
    : readMark operator value frames
      = some (operand (.assign operator (settle 1 value frames).1
          :: (settle 1 value frames).2)) := by
  have hother : ∀ operator ∈ Tree.assignOperators,
      operator ≠ "(" ∧ operator ≠ "[" ∧ operator ≠ "." ∧ operator ≠ "::"
        ∧ operator ∉ Tree.updateOperators := by
    decide
  obtain ⟨h1, h2, h3, h4, h5⟩ := hother operator known
  simp only [readMark, h1, h2, h3, h4, h5, if_false, known, if_true]

/-- An update behind an operand is completed at once. -/
theorem readMark_update {operator : Text} (known : operator ∈ Tree.updateOperators) (value : Tree)
    (frames : List Frame)
    : readMark operator value frames = some (behind (.update operator value false) frames) := by
  have hother : ∀ operator ∈ Tree.updateOperators,
      operator ≠ "(" ∧ operator ≠ "[" ∧ operator ≠ "." ∧ operator ≠ "::" := by
    decide
  obtain ⟨h1, h2, h3, h4⟩ := hother operator known
  simp only [readMark, h1, h2, h3, h4, if_false, known, if_true]

/-- An operator in front of an operand opens an operation. -/
theorem readOpening_leading {operator : Text}
    (known : operator ∈ Tree.unaryOperators ++ Tree.updateOperators) (frames : List Frame)
    : readOpening operator frames = some (operand (.leading operator :: frames)) := by
  have hother : ∀ operator ∈ Tree.unaryOperators ++ Tree.updateOperators,
      operator ≠ "(" ∧ operator ≠ "\x7b" := by
    decide
  obtain ⟨h1, h2⟩ := hother operator known
  simp only [readOpening, h1, h2, if_false, known, if_true]

/-- The marks that close what is open around an operand. -/
theorem readMark_closing {mark : Text} (h : mark ∈ ([",", ")", "]", "\x7d"] : List Text))
    (value : Tree) (frames : List Frame)
    : readMark mark value frames = readClosing mark value frames := by
  have hother : ∀ mark ∈ ([",", ")", "]", "\x7d"] : List Text),
      mark ≠ "(" ∧ mark ≠ "[" ∧ mark ≠ "." ∧ mark ≠ "::"
        ∧ mark ∉ Tree.updateOperators ∧ mark ∉ Tree.assignOperators
        ∧ Tree.binaryStrength? mark = none := by
    decide
  obtain ⟨h1, h2, h3, h4, h5, h6, h7⟩ := hother mark h
  simp only [readMark, h1, h2, h3, h4, h5, h6, h7, if_false]

/-- An operand in front of a closing mark. -/
theorem run_closing {tree : Tree} {frames : List Frame} {mark : Text} (rest : List Token)
    (h : Leaves tree frames) (known : mark ∈ ([",", ")", "]", "\x7d"] : List Text))
    : (operand frames).run (tree.tokens ++ .mark mark :: rest)
      = (readClosing mark tree.bare frames).bind fun next => next.run rest := by
  obtain ⟨value, frames', hrun, hsettle, _⟩ := h
  have hclose : readClosing mark value frames' = readClosing mark tree.bare frames := by
    simp only [readClosing, hsettle 0 (Nat.zero_le _)]
  rw [run_append, hrun, Option.bind_some, run_mark, step, readMark_closing known, hclose]

/-- The brace or bracket that ends a list is a mark of its own, and may end an empty list. -/
theorem closing_mem (callee : Option Tree)
    : Frame.closing callee ∈ ([",", ")", "]", "\x7d"] : List Text)
      ∧ Frame.closing callee ≠ ","
      ∧ ∀ frames, readOpening (Frame.closing callee) (.items callee [] :: frames)
        = some (behind (.gathered callee []) frames) := by
  have hmem : (")" : Text) ∈ ([",", ")", "]", "\x7d"] : List Text) ∧ ((")" : Text) ≠ ",") := by
    decide
  cases callee with
  | none => exact ⟨by decide, by decide, fun _ => rfl⟩
  | some callee => exact ⟨hmem.1, hmem.2, fun _ => rfl⟩

/-- The items of a list are read one after another, by induction over those that are still
to come. -/
theorem run_items (callee : Option Tree) {items : List Tree} (frames : List Frame)
    (rest : List Token) (done : List Tree)
    (h : ∀ item ∈ items, ∀ done, Leaves item (.items callee done :: frames))
    (start : items = [] → done = [])
    : (operand (.items callee done :: frames)).run
        (Tree.separated (items.map Tree.tokens) ++ .mark (Frame.closing callee) :: rest)
      = (behind (.gathered callee (done ++ items.map Tree.bare)) frames).run rest := by
  obtain ⟨hmem, hcomma, hopen⟩ := closing_mem callee
  induction items generalizing done with
  | nil =>
      rw [start rfl, List.map_nil, Tree.separated, List.nil_append, run_mark, step, hopen]
      rfl
  | cons first items ih =>
      cases items with
      | nil =>
          have hclose : readClosing (Frame.closing callee) first.bare (.items callee done :: frames)
              = some (behind (.gathered callee (done ++ [first.bare])) frames) := by
            simp only [readClosing, settle, hcomma, if_false, if_true]
          rw [List.map_cons, List.map_nil, Tree.separated,
            run_closing rest (h first List.mem_cons_self done) hmem, hclose]
          rfl
      | cons second items =>
          have hnext : readClosing "," first.bare (.items callee done :: frames)
              = some (operand (.items callee (done ++ [first.bare]) :: frames)) := by
            simp only [readClosing, settle, if_true]
          have hrest := ih (done ++ [first.bare])
            (fun item hm => h item (List.mem_cons_of_mem _ hm))
            fun hn => absurd hn (List.cons_ne_nil _ _)
          simp only [List.map_cons, Tree.separated, List.append_assoc] at *
          rw [List.singleton_append, run_closing _ (h first List.mem_cons_self done) (by decide),
            hnext, Option.bind_some, hrest]
          rfl

-----------------------------------------------------------------------------------------
-- Reading the tokens of an expression leaves the expression behind
-----------------------------------------------------------------------------------------

/-- Reading the tokens of an expression that can be read leaves it behind, by induction over the
expression. -/
theorem leaves_of_legible {indent : Text} {tree : Tree} (h : Tree.Legible indent tree)
    (frames : List Frame) (admits : Admits tree frames)
    : Leaves tree frames := by
  induction h generalizing frames with
  | word _ | number _ | string _ =>
      refine leaves_of_run ?_
      simp only [Tree.tokens, Tree.bare]
      rfl
  | list _ _ ih =>
      have hitems := run_items none frames [] [] (fun item hm done => ih item hm _ fun _ => trivial)
        fun _ => rfl
      refine leaves_of_run ?_
      simp only [Tree.tokens, Tree.bare, List.cons_append, List.nil_append]
      rw [run_mark]
      exact hitems
  | group _ ih =>
      have hinner := ih (.group :: frames) fun _ => trivial
      refine leaves_of_run ?_
      simp only [Tree.tokens, Tree.bare, List.cons_append, List.nil_append]
      rw [run_mark]
      exact run_closing [] hinner (by decide)
  | @binary operator level left right known _ strong _ strong' ih ih' =>
      obtain ⟨hpos, hle, _⟩ := Tree.binaryStrength?_le known
      have hstrength : (Tree.binary operator left right).strength = level := by
        simp only [Tree.strength, known, Option.getD_some]
      -- No operator on the left takes the first operand, as all of them bind more weakly.
      have hwaits : Waits level frames := by
        have hmax := admits (by omega)
        rwa [hstrength, Nat.max_eq_right hpos] at hmax
      obtain ⟨value, frames', hrun, hsettle, _⟩ := ih frames fun _ => hwaits.mono (by omega)
      have hleft : settle level value frames' = (left.bare, frames) :=
        (hsettle level strong).trans (settle_of_waits hwaits _)
      obtain ⟨value', frames'', hrun', hsettle', _⟩ := ih' (.binary operator left.bare :: frames)
        fun _ => by simp only [Waits, known, Option.getD_some]; omega
      refine ⟨value', frames'', ?_, ?_, ?_⟩
      · simp only [Tree.tokens, List.append_assoc, List.singleton_append]
        rw [run_append, hrun, Option.bind_some, run_mark, step, readMark_binary known, hleft]
        exact hrun'
      · intro level' hle'
        rw [hstrength] at hle'
        rw [hsettle' level' (by omega), Tree.bare, settle, known, Option.getD_some, if_pos hle']
      · intro h
        omega
  | @assign operator target value known _ strong _ ih ih' =>
      have hwaits : Waits 1 frames := admits (Nat.zero_le _)
      obtain ⟨value', frames', hrun, hsettle, _⟩ := ih frames fun _ => hwaits.mono (by omega)
      have htarget : settle 1 value' frames' = (target.bare, frames) :=
        (hsettle 1 strong).trans (settle_of_waits hwaits _)
      obtain ⟨value'', frames'', hrun', hsettle', _⟩ := ih' (.assign operator target.bare :: frames)
        fun _ => Nat.le_max_left 1 _
      refine ⟨value'', frames'', ?_, ?_, fun h => ?_⟩
      · simp only [Tree.tokens, List.append_assoc, List.singleton_append]
        rw [run_append, hrun, Option.bind_some, run_mark, step, readMark_assign known, htarget]
        exact hrun'
      · intro level hle
        obtain rfl := Nat.le_zero.mp hle
        rw [hsettle' 0 (Nat.zero_le _), Tree.bare, settle, if_pos rfl]
      · exact absurd (Nat.ble_eq_true_of_le h) Bool.false_ne_true
  | @unary operator operand known _ strong _ ih =>
      have hupdate : ∀ operator ∈ Tree.unaryOperators, operator ∉ Tree.updateOperators := by decide
      obtain ⟨value, frames', hrun, hsettle, _⟩ := ih (.leading operator :: frames)
        (admits_of_strong _ strong)
      refine ⟨value, frames', ?_, ?_, fun h => ?_⟩
      · simp only [Tree.tokens, List.singleton_append]
        rw [run_mark, step, readOpening_leading (List.mem_append_left _ known)]
        exact hrun
      · intro level hle
        rw [hsettle level (Nat.le_trans hle strong), Tree.bare, settle, Tree.applied,
          if_neg (hupdate operator known)]
      · exact absurd (Nat.ble_eq_true_of_le h) Bool.false_ne_true
  | @update operator operand leading known _ strong ih =>
      cases leading with
      | true =>
          obtain ⟨value, frames', hrun, hsettle, _⟩ := ih (.leading operator :: frames)
            (admits_of_strong _ (Nat.le_of_succ_le strong))
          refine ⟨value, frames', ?_, ?_, fun h => ?_⟩
          · simp only [Tree.tokens, if_true, List.singleton_append]
            rw [run_mark, step, readOpening_leading (List.mem_append_right _ known)]
            exact hrun
          · intro level hle
            have hle' : level ≤ operand.strength :=
              Nat.le_trans hle (Nat.le_of_succ_le strong)
            rw [hsettle level hle', Tree.bare, settle, Tree.applied, if_pos known]
          · exact absurd (Nat.ble_eq_true_of_le h) Bool.false_ne_true
      | false =>
          have hoperand := (ih frames (admits_of_strong _ (Nat.le_of_succ_le strong))).run strong
          refine leaves_of_run ?_
          simp only [Tree.tokens, Bool.false_eq_true, if_false, Tree.bare]
          rw [run_append, hoperand, Option.bind_some, run_mark, step, readMark_update known]
          rfl
  | @call callee arguments _ strong _ _ ih ih' =>
      have hcallee := (ih frames (admits_of_strong _ (Nat.le_of_succ_le strong))).run strong
      have hitems := run_items (some callee.bare) frames [] []
        (fun item hm done =>
          ih' item hm (.items (some callee.bare) done :: frames) fun _ => trivial)
        fun _ => rfl
      refine leaves_of_run ?_
      simp only [Tree.tokens, Tree.bare, List.append_assoc, List.singleton_append]
      rw [run_append, hcallee, Option.bind_some, List.cons_append, run_mark]
      exact hitems
  | @index object position _ strong _ ih ih' =>
      have hobject := (ih frames (admits_of_strong _ (Nat.le_of_succ_le strong))).run strong
      have hposition := ih' (.index object.bare :: frames) fun _ => trivial
      refine leaves_of_run ?_
      simp only [Tree.tokens, Tree.bare, List.append_assoc, List.singleton_append]
      rw [run_append, hobject, Option.bind_some, List.cons_append, run_mark]
      exact run_closing [] hposition (by decide)
  | dot _ strong _ _ ih | scope _ strong _ ih =>
      have hobject := (ih frames (admits_of_strong _ (Nat.le_of_succ_le strong))).run strong
      refine leaves_of_run ?_
      simp only [Tree.tokens, Tree.bare]
      rw [run_append, hobject]
      rfl

end State

/-- The spelling of an expression that can be read spells that expression, up to parentheses. -/
theorem read_print {indent : Text} {tree : Tree} (h : Tree.Legible indent tree)
    : read (tree.print indent) = some tree.bare := by
  have hscan := Tree.scans_print h [] nofun
  obtain ⟨value, frames, hrun, hsettle, _⟩ := State.leaves_of_legible h [] fun _ => trivial
  have htokens : tokens (tree.print indent) = some tree.tokens := by
    unfold Scans at hscan
    rw [List.append_nil] at hscan
    exact hscan.trans (congrArg some (List.append_nil _))
  simp only [read, htokens, Option.bind_eq_bind, Option.bind_some, hrun, State.result?,
    hsettle 0 (Nat.zero_le _)]
  rfl

end DeviceScript.Cpp
