import DeviceScript.Proofs.Cpp.Numeral
import DeviceScript.Proofs.Emission.Congruence

/-! Equality of trees and emission. Literals are compared by value and written by kind, so equal trees
are emitted alike where their literals are identical or are numbers of moderate size. Messages cite
literals by their spelling and, only where that is unknown, by their value. What is asked of a pair
of literals in each case is exactly that they have one code, and one citation.
-/

namespace DeviceScript

open Fragment

namespace Literal

/-- A whole number below `Nat.pow 10 21` as an integer. -/
def shortened : Literal → Literal
  | real number =>
    match number.toInt? with
    | some whole => if whole.natAbs < Nat.pow 10 21 then integer whole else real number
    | none => real number
  | value => value

/-- Identical literals and numbers below `Nat.pow 10 21`. -/
def IsWrittenAlike (value other : Literal) : Prop :=
  value = other
    ∨ value.isNumeric = true ∧ other.isNumeric = true
      ∧ ∀ whole ∈ value.toInt?, whole.natAbs < Nat.pow 10 21

/-- Tells whether a message cites a spelling rather than a value. -/
def isCitable (raw : Option Text) : Bool := raw.any (· ≠ [])

/-- Literals of one spelling that are written alike and, unless they are identical, stand in
messages by that spelling. -/
def IsCitedAlike (value : Literal) (raw : Option Text) (other : Literal) : Prop :=
  value.IsWrittenAlike other ∧ (value = other ∨ isCitable raw = true)

end Literal

namespace Binary64

-----------------------------------------------------------------------------------------
-- Equal doubles are identical, but for zeros
-----------------------------------------------------------------------------------------

/-- Doubles of one value are identical, unless they are zeros. -/
theorem eq_or_zero_of_sameValue {number other : Binary64} (h : number.sameValue other = true)
    : number = other ∨ number.toInt? = some 0 ∧ other.toInt? = some 0 := by
  cases number with
  | nan => cases h
  | infinity negative =>
      cases other with
      | infinity negative' => exact .inl (congrArg infinity (of_decide_eq_true h))
      | _ => cases h
  | finite negative size =>
      cases other with
      | finite negative' size' =>
          simp only [sameValue, Bool.and_eq_true, Bool.or_eq_true, decide_eq_true_eq] at h
          obtain ⟨rfl, rfl | hzero⟩ := h
          · exact .inl rfl
          · have hunits : size.units = 0 := by rw [Magnitude.units, hzero, Nat.zero_mul]
            refine .inr ⟨?_, ?_⟩ <;>
              simp [toInt?, Magnitude.isWhole, Magnitude.floor, hunits]
      | _ => cases h

/-- A whole number is finite. -/
theorem isFinite_of_toInt? {number : Binary64} {whole : Int} (h : number.toInt? = some whole)
    : number.isFinite = true := by
  cases number with
  | finite negative size => rfl
  | _ => exact absurd h nofun

/-- Zeros of two signs are equal, but they are cited with their signs. -/
theorem eq_of_sameValue_of_spelling {number other : Binary64} (h : number.sameValue other = true)
    (hs : Numeral.ofBinary64 number = Numeral.ofBinary64 other) : number = other := by
  cases number with
  | nan => cases h
  | infinity negative =>
      cases other with
      | infinity negative' => exact congrArg infinity (of_decide_eq_true h)
      | _ => cases h
  | finite negative size =>
      cases other with
      | finite negative' size' =>
          simp only [sameValue, Bool.and_eq_true, decide_eq_true_eq] at h
          obtain ⟨rfl, -⟩ := h
          have hlength := congrArg List.length hs
          cases negative <;> cases negative' <;>
            first | rfl | simp [Numeral.ofBinary64, Text.ofString] at hlength
      | _ => cases h

end Binary64

namespace Numeral

/-- A decimal has a point or an exponent. -/
theorem exists_mark_of_ofDecimal (layout : Layout) (decimal : Decimal)
    : ∃ mark ∈ ofDecimal layout decimal, mark = '.' ∨ mark = 'e' := by
  simp only [ofDecimal]
  split
  · refine ⟨'.', ?_, .inl rfl⟩
    unfold positional
    split <;> simp
  · refine ⟨'e', ?_, .inr rfl⟩
    simp [scientific]

/-- No finite double is spelled like an integer. -/
theorem ofBinary64_ne_ofInt (negative : Bool) (size : Magnitude) (whole : Int)
    : ofBinary64 (.finite negative size) ≠ Text.ofInt whole := by
  -- A spelling of a double has a point or an exponent, and an integer has neither.
  intro heq
  obtain ⟨mark, hm, h⟩ := exists_mark_of_ofDecimal layout size.shortest
  have hspelled : CodePoint.scalar mark ∈ ofBinary64 (.finite negative size) :=
    List.mem_append_right _ (List.mem_map_of_mem hm)
  have hinteger : CodePoint.scalar mark ∉ Text.ofInt whole := by
    rcases h with rfl | rfl <;> exact Text.not_mem_ofInt rfl (by decide) whole
  exact hinteger (heq ▸ hspelled)

end Numeral

namespace Literal

-----------------------------------------------------------------------------------------
-- Equal literals share a form where they are written or cited alike
-----------------------------------------------------------------------------------------

/-- Equal literals are identical, unless they are whole as numbers. -/
theorem eq_or_toInt?_of_same {value other : Literal} (h : value.same other = true)
    : value = other
      ∨ ∃ whole, value.toInt? = some whole ∧ other.toInt? = some whole := by
  unfold same at h
  split at h
  · exact .inl (congrArg text (of_decide_eq_true h))
  · exact .inl rfl
  · rename_i number number'
    rcases Binary64.eq_or_zero_of_sameValue h with rfl | ⟨hv, ho⟩
    · exact .inl rfl
    · exact .inr ⟨0, hv, ho⟩
  · split at h
    · rename_i left right hv ho
      exact .inr ⟨left, hv, of_decide_eq_true h ▸ ho⟩
    · exact absurd h nofun

/-- A number of moderate size is shortened to the integer that it equals. -/
theorem shortened_of_toInt? {value : Literal} {whole : Int} (hn : value.isNumeric = true)
    (h : value.toInt? = some whole) (hw : whole.natAbs < Nat.pow 10 21)
    : value.shortened = integer whole := by
  cases value with
  | integer value => exact congrArg integer (Option.some.inj h)
  | real number =>
      have hnumber : number.toInt? = some whole := h
      simp only [shortened, hnumber, hw, if_true]
  | _ => exact absurd hn nofun

/-- Equal literals that are written alike are one when they are shortened. -/
theorem shortened_eq {value other : Literal} (hs : value.same other = true)
    (h : value.IsWrittenAlike other) : value.shortened = other.shortened := by
  rcases h with rfl | ⟨hn, hn', hw⟩
  · rfl
  · rcases eq_or_toInt?_of_same hs with rfl | ⟨whole, hv, ho⟩
    · rfl
    · rw [shortened_of_toInt? hn hv (hw whole hv), shortened_of_toInt? hn' ho (hw whole hv)]

/-- A literal is written like its shortened form. -/
theorem literalTree_shortened (value : Literal)
    : literalTree value.shortened = literalTree value := by
  cases value with
  | real number =>
      cases hi : number.toInt? with
      | none => simp only [shortened, hi]
      | some whole =>
          by_cases hw : whole.natAbs < Nat.pow 10 21
          · simp only [shortened, hi, hw, if_true, literalTree, Fragment.real,
              Binary64.isFinite_of_toInt? hi]
          · simp only [shortened, hi, hw, if_false]
  | _ => rfl

/-- A literal that equals an integer is a truth value, that integer, or a finite double. -/
theorem cases_of_toInt? {value : Literal} {whole : Int} (h : value.toInt? = some whole)
    : (∃ truth : Bool, value = boolean truth ∧ whole = if truth then 1 else 0)
      ∨ value = integer whole
      ∨ ∃ negative size, value = real (.finite negative size)
        ∧ (Binary64.finite negative size).toInt? = some whole := by
  cases value with
  | text value | null => exact absurd h nofun
  | boolean truth => exact .inl ⟨truth, rfl, (Option.some.inj h).symm⟩
  | integer value => exact .inr (.inl (congrArg integer (Option.some.inj h)))
  | real number =>
      cases number with
      | finite negative size => exact .inr (.inr ⟨negative, size, rfl, h⟩)
      | _ => exact absurd h nofun

/-- A double that is not below `Nat.pow 10 21` is not written like an integer. -/
theorem literalTree_finite_ne {negative : Bool} {size : Magnitude} {whole : Int}
    (h : (Binary64.finite negative size).toInt? = some whole) (hw : ¬whole.natAbs < Nat.pow 10 21)
    (other : Int)
    : literalTree (real (.finite negative size)) ≠ literalTree (integer other) := by
  intro heq
  have hspelling : Fragment.real (.finite negative size) = Text.ofInt other :=
    Cpp.Tree.number.inj heq
  rw [Fragment.real, h] at hspelling
  simp only [hw, if_false] at hspelling
  exact Numeral.ofBinary64_ne_ofInt negative size other hspelling

/-- Equal literals have one code only if they are written alike, by cases over their kinds. -/
theorem isWrittenAlike_iff {value other : Literal} (hs : value.same other = true)
    : value.IsWrittenAlike other ↔ literalTree value = literalTree other := by
  constructor
  · intro h
    rw [← literalTree_shortened value, shortened_eq hs h, literalTree_shortened]
  intro ht
  rcases eq_or_toInt?_of_same hs with rfl | ⟨whole, hv, ho⟩
  · exact .inl rfl
  have numbers (hn : value.isNumeric = true) (hn' : other.isNumeric = true)
      (hw : whole.natAbs < Nat.pow 10 21) : value.IsWrittenAlike other :=
    .inr ⟨hn, hn', fun _ hm => Option.some.inj (hv.symm.trans hm) ▸ hw⟩
  rcases cases_of_toInt? hv with ⟨truth, rfl, hone⟩ | rfl | ⟨negative, size, rfl, hsize⟩ <;>
    rcases cases_of_toInt? ho with ⟨truth', rfl, hone'⟩ | rfl | ⟨negative', size', rfl, hsize'⟩
  · have heq : truth = truth' := by
      cases truth <;> cases truth' <;> simp_all
    exact .inl (congrArg boolean heq)
  -- A truth value is a word in the code.
  · exact absurd ht nofun
  · exact absurd ht nofun
  · exact absurd ht nofun
  · exact .inl rfl
  · exact numbers rfl rfl (Decidable.byContradiction fun hw =>
      literalTree_finite_ne hsize' hw whole ht.symm)
  · exact absurd ht nofun
  · exact numbers rfl rfl (Decidable.byContradiction fun hw =>
      literalTree_finite_ne hsize hw whole ht)
  · have hvalue : (Binary64.finite negative size).sameValue (.finite negative' size') = true := hs
    rcases Binary64.eq_or_zero_of_sameValue hvalue with heq | ⟨hzero, -⟩
    · exact .inl (congrArg real heq)
    · refine numbers rfl rfl ?_
      obtain rfl := Option.some.inj (hzero.symm.trans hsize)
      decide

/-- A literal with a spelling is cited by it, whatever its value is. -/
theorem citedAs_of_isCitable {raw : Option Text} (h : isCitable raw = true)
    (value other : Literal)
    : value.citedAs raw = other.citedAs raw := by
  match raw, h with
  | some (point :: spelling), _ => rfl

/-- A literal without a spelling is cited by its value. -/
theorem citedAs_of_not_isCitable {raw : Option Text} (h : ¬isCitable raw = true)
    (value : Literal)
    : value.citedAs raw = value.cited := by
  match raw, h with
  | none, _ | some [], _ => rfl
  | some (point :: spelling), h => exact absurd rfl h

/-- Equal literals that have one code are cited by their values alike only if they are identical. -/
theorem eq_of_cited {value other : Literal} (hs : value.same other = true)
    (hw : value.IsWrittenAlike other) (hc : value.cited = other.cited) : value = other := by
  rcases hw with rfl | ⟨hn, hn', -⟩
  · rfl
  cases value with
  | integer value =>
      cases other with
      | integer other => exact congrArg integer (of_decide_eq_true hs)
      | real number =>
          cases number with
          | finite negative size =>
              exact absurd hc.symm (Numeral.ofBinary64_ne_ofInt negative size value)
          | _ => exact absurd hs nofun
      | _ => exact absurd hn' nofun
  | real number =>
      cases other with
      | integer other =>
          cases number with
          | finite negative size =>
              exact absurd hc (Numeral.ofBinary64_ne_ofInt negative size other)
          | _ => exact absurd hs nofun
      | real number' =>
          exact congrArg real (Binary64.eq_of_sameValue_of_spelling hs hc)
      | _ => exact absurd hn' nofun
  | _ => exact absurd hn nofun

/-- Equal literals of one spelling have one code and one citation only if they are cited alike. -/
theorem isCitedAlike_iff {value other : Literal} {raw : Option Text}
    (hs : value.same other = true)
    : value.IsCitedAlike raw other
      ↔ literalTree value = literalTree other ∧ value.citedAs raw = other.citedAs raw := by
  rw [IsCitedAlike, isWrittenAlike_iff hs]
  refine and_congr_right fun ht => ?_
  constructor
  · rintro (rfl | hc)
    · rfl
    · exact citedAs_of_isCitable hc value other
  · intro hcited
    by_cases hc : isCitable raw = true
    · exact .inr hc
    · rw [citedAs_of_not_isCitable hc, citedAs_of_not_isCitable hc] at hcited
      exact .inl (eq_of_cited hs ((isWrittenAlike_iff hs).mpr ht) hcited)

/-- A literal and its shortened form have one type. -/
theorem ofLiteral_shortened (value : Literal)
    : ElementType.ofLiteral value.shortened = ElementType.ofLiteral value := by
  cases value with
  | real number =>
      simp only [shortened]
      split
      · split <;> rfl
      · rfl
  | _ => rfl

/-- The form of a literal in the code. -/
theorem isUnwritten_shortened : IsUnwritten fun value _ => value.shortened :=
  ⟨fun value _ => literalTree_shortened value, fun value _ => ofLiteral_shortened value⟩

/-- The form of a literal in the code and in messages. -/
def cleared (value : Literal) (raw : Option Text) : Literal :=
  if isCitable raw then value.shortened else value

/-- Equal literals that are written and cited alike are one when they are cleared. -/
theorem cleared_eq {value other : Literal} {raw : Option Text} (hs : value.same other = true)
    (h : value.IsCitedAlike raw other) : value.cleared raw = other.cleared raw := by
  obtain ⟨hw, rfl | hc⟩ := h
  · rfl
  · simp only [cleared, hc, if_true, shortened_eq hs hw]

/-- The cleared form of a literal shows neither in the code nor in messages. -/
theorem isUnseen_cleared : IsUnseen cleared where
  tree value raw := by
    unfold cleared
    split
    · exact literalTree_shortened value
    · rfl
  type value raw := by
    unfold cleared
    split
    · exact ofLiteral_shortened value
    · rfl
  cited value raw := by
    unfold cleared
    split
    -- A spelling that is there is cited whatever the value is.
    · rename_i hc
      match raw, hc with
      | some (point :: spelling), _ => rfl
    · rfl

end Literal

namespace Diagnostic

-----------------------------------------------------------------------------------------
-- Equal trees share a text and their reports
-----------------------------------------------------------------------------------------

/-- A report without the place that it points to. -/
def unplaced (diagnostic : Diagnostic) : Diagnostic :=
  { diagnostic with line := none, column := none }

end Diagnostic

/-- A normal form has no place. -/
theorem Node.location_normal (form : Literal → Option Text → Literal) (node : Node)
    : (node.normal form).location = none := by
  cases node <;> rfl

/-- A report on a normal form is that on the node, without its place. -/
theorem Finding.reportOn_normal (finding : Finding) (form : Literal → Option Text → Literal)
    (node : Node)
    : finding.reportOn (node.normal form) = (finding.reportOn node).unplaced := by
  have hkind : finding.nodeKind (node.normal form) = finding.nodeKind node := by
    unfold Finding.nodeKind
    split <;> simp only [Node.kindName_normal]
  simp only [Finding.reportOn, hkind, Node.location_normal]
  rfl

/-- Notes on normal forms are reported without places. -/
theorem reports_normal (form : Literal → Option Text → Literal) (notes : List Note)
    : reports (notes.map (Note.normal form)) = (reports notes).map Diagnostic.unplaced := by
  rw [reports, reports, List.filterMap_map, List.map_filterMap]
  congr 1
  funext note
  cases note with
  | report finding node => exact congrArg some (finding.reportOn_normal form node)
  | replacement source target => rfl

namespace Fragment

variable (style : Style) {left right : Node} {depth : Nat} (hs : left.same right = true)
include hs

/-- Equal trees have one text if their literals are written alike. -/
theorem text_eq_of_same
    (hw : List.Forall₂ (fun literal other => literal.1.IsWrittenAlike other.1)
      left.literals right.literals)
    : text style depth left = text style depth right := by
  -- Both are written like their common normal form.
  have hnormal : left.normal (fun value _ => value.shortened)
      = right.normal fun value _ => value.shortened :=
    Node.normal_eq_of_same hs (hw.imp fun _ _ hw hs _ => Literal.shortened_eq hs hw)
  rw [← text_normal Literal.isUnwritten_shortened left, hnormal,
    text_normal Literal.isUnwritten_shortened right]

/-- Equal trees have the same reports but for their places if their literals are also
cited alike. -/
theorem reports_eq_of_same
    (hc : List.Forall₂ (fun literal other => literal.1.IsCitedAlike literal.2 other.1)
      left.literals right.literals)
    : (reports (notes style depth left)).map Diagnostic.unplaced
      = (reports (notes style depth right)).map Diagnostic.unplaced := by
  have hnormal : left.normal Literal.cleared = right.normal Literal.cleared :=
    Node.normal_eq_of_same hs (hc.imp fun _ _ hc hs hraw => hraw ▸ Literal.cleared_eq hs hc)
  rw [← reports_normal Literal.cleared, ← reports_normal Literal.cleared,
    ← notes_normal Literal.isUnseen_cleared, hnormal, notes_normal Literal.isUnseen_cleared]

end Fragment

/-- Equal trees are emitted alike at one depth: with the same text if their literals are written
alike, and with the same reports but for their places if their literals are also cited alike. -/
theorem emit_eq_of_same (style : Style) {left right : Node} {progress progress' : Progress}
    (hs : left.same right = true) (hd : progress.depth = progress'.depth)
    : (List.Forall₂ (fun literal other => literal.1.IsWrittenAlike other.1)
          left.literals right.literals
        → ((emit style left).run progress).1 = ((emit style right).run progress').1)
      ∧ (List.Forall₂ (fun literal other => literal.1.IsCitedAlike literal.2 other.1)
          left.literals right.literals
        → ∃ found found' : List Diagnostic,
            ((emit style left).run progress).2.diagnostics = progress.diagnostics ++ found
              ∧ ((emit style right).run progress').2.diagnostics = progress'.diagnostics ++ found'
              ∧ found.map Diagnostic.unplaced = found'.map Diagnostic.unplaced) := by
  rw [emit_writes style left progress, emit_writes style right progress', ← hd]
  constructor
  · exact text_eq_of_same style hs
  · intro hc
    exact ⟨_, _, Progress.diagnostics_eq_append_reports _ _,
      Progress.diagnostics_eq_append_reports _ _, reports_eq_of_same style hs hc⟩

/-- A declaration of an array of a text and of another element. -/
def mixedArray (element : Node) (location : Option Location) : Node :=
  .declarator (.identifier "xs" none)
    (some (.array [some (.literal (.text "x") none none), some element] location)) location

/-- The double that equals the integer 1. -/
def Binary64.unit : Binary64 :=
  .finite false ⟨Nat.pow 2 52, 1022, by decide, by decide, by decide⟩

/-- Two equal arrays at two places, with an integer and a double in them, are emitted alike. -/
theorem emit_mixedArray
    : let left := mixedArray (.literal (.integer 1) (some "1.0") none) none
      let right := mixedArray (.literal (.real .unit) (some "1.0") none) (some ⟨1, 5⟩)
      let emitted (node : Node) := (emit ⟨.builtIn, "  "⟩ node).run {}
      left.same right = true
        ∧ (emitted left).1 = (emitted right).1
        ∧ ∃ found found' : List Diagnostic,
          (emitted left).2.diagnostics = [] ++ found
            ∧ (emitted right).2.diagnostics = [] ++ found'
            ∧ found.map Diagnostic.unplaced = found'.map Diagnostic.unplaced := by
  have hs : (mixedArray (.literal (.integer 1) (some "1.0") none) none).same
      (mixedArray (.literal (.real .unit) (some "1.0") none) (some ⟨1, 5⟩)) = true := by
    decide +kernel
  have hw : (Literal.integer 1).IsWrittenAlike (.real .unit) := by
    refine .inr ⟨rfl, rfl, ?_⟩
    rintro whole ⟨⟩
    decide
  obtain ⟨htext, hreports⟩ := emit_eq_of_same ⟨.builtIn, "  "⟩ hs (Eq.refl (Progress.depth {}))
  exact ⟨hs, htext (.cons (.inl rfl) (.cons hw .nil)),
    hreports (.cons ⟨.inl rfl, .inl rfl⟩ (.cons ⟨hw, .inr rfl⟩ .nil))⟩

/-- The double that equals the least integer that is written differently. -/
def Binary64.large : Binary64 :=
  .finite false ⟨7629394531250000, 1091, by decide, by decide, by decide⟩

/-- Equal literals may differ in the code: a truth value from a number, and a large integer from a
large double. In a message they may differ if no spelling of them is known. -/
theorem emit_ne_of_same
    : let literal (value : Literal) := Node.literal value none none
      let whole := literal (.integer 1)
      let double := literal (.real .unit)
      let emitted (node : Node) := (emit ⟨.builtIn, "  "⟩ node).run {}
      (whole.same (literal (.boolean true)) = true
          ∧ (emitted whole).1 ≠ (emitted (literal (.boolean true))).1)
        ∧ ((literal (.integer (Nat.pow 10 21))).same (literal (.real .large)) = true
          ∧ (emitted (literal (.integer (Nat.pow 10 21)))).1 ≠ (emitted (literal (.real .large))).1)
        ∧ (mixedArray whole none).same (mixedArray double none) = true
        ∧ (emitted (mixedArray whole none)).2.diagnostics.map Diagnostic.unplaced
          ≠ (emitted (mixedArray double none)).2.diagnostics.map Diagnostic.unplaced := by
  decide +kernel
end DeviceScript
