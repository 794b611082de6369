import DeviceScript.Proofs.Cpp.Legible
import DeviceScript.Translation.Fragment

/-! Spellings of numbers as single tokens: natural numbers, and finite doubles that are not negative,
with or without an exponent.
-/

namespace DeviceScript.Text

/-- A natural number is spelled with digits. -/
theorem exists_of_mem_ofNat {number : Nat} {point : CodePoint} (h : point ∈ ofNat number)
    : ∃ char : Char, point = .scalar char ∧ char.isDigit = true := by
  obtain ⟨char, hc, rfl⟩ := List.mem_map.mp h
  exact ⟨char, rfl, Nat.isDigit_of_mem_toDigits (by decide) (by decide) hc⟩

/-- Only digits and a sign stand in an integer. -/
theorem not_mem_ofInt {mark : Char} (hdigit : mark.isDigit = false) (hsign : mark ≠ '-')
    (whole : Int)
    : .scalar mark ∉ ofInt whole := by
  have hdigits (number : Nat) : .scalar mark ∉ ofNat number := by
    intro hm
    obtain ⟨char, heq, hd⟩ := exists_of_mem_ofNat hm
    obtain rfl := CodePoint.scalar.inj heq
    exact Bool.false_ne_true (hdigit.symm.trans hd)
  cases whole with
  | ofNat number => exact hdigits number
  | negSucc number =>
      intro hm
      rcases List.mem_cons.mp hm with he | hm
      · exact hsign (CodePoint.scalar.inj he)
      · exact hdigits _ hm

end DeviceScript.Text

namespace DeviceScript.Cpp

/-- A number goes on with every code point of a text. -/
def ExtendsBy (spelling parts : Text) : Prop :=
  ∀ before point after, parts = before ++ point :: after
    → extendsNumber (spelling ++ before) point = true

/-- Nothing goes on with a number without changing it. -/
theorem extendsBy_nil (spelling : Text) : ExtendsBy spelling [] := by
  intro before point after h
  exact absurd h.symm (List.append_ne_nil_of_right_ne_nil _ (List.cons_ne_nil _ _))

/-- A number goes on with one code point and then with others. -/
theorem ExtendsBy.cons {spelling parts : Text} {point : CodePoint}
    (h : extendsNumber spelling point = true) (h' : ExtendsBy (spelling ++ [point]) parts)
    : ExtendsBy spelling (point :: parts) := by
  intro before next after heq
  cases before with
  | nil =>
      obtain ⟨rfl, _⟩ := List.cons.inj heq
      rwa [List.append_nil]
  | cons first before =>
      obtain ⟨rfl, hrest⟩ := List.cons.inj heq
      rw [List.append_cons]
      exact h' before next after hrest

/-- The code points with which a number goes on wherever it stands. -/
def goesOn (point : CodePoint) : Bool := point.isDecimal || point = '.'

/-- A number goes on with digits and points, by induction over them. -/
theorem ExtendsBy.append {parts : Text} (h : ∀ point ∈ parts, goesOn point = true)
    (spelling : Text) {rest : Text} (h' : ExtendsBy (spelling ++ parts) rest)
    : ExtendsBy spelling (parts ++ rest) := by
  induction parts generalizing spelling with
  | nil => rwa [List.append_nil] at h'
  | cons point parts ih =>
      refine .cons ?_ (ih (fun point hm => h point (List.mem_cons_of_mem _ hm)) _ ?_)
      · have hpoint := h point List.mem_cons_self
        simp only [goesOn, Bool.or_eq_true] at hpoint
        simp only [extendsNumber, isWordPart, Bool.or_eq_true]
        rcases hpoint with hd | hp
        · exact .inl (.inl (.inr hd))
        · exact .inl (.inr hp)
      · rwa [List.append_assoc]

/-- A number that ends in a digit or a point does not wait for a sign. -/
theorem awaitsSign_of_last {spelling : Text} {last : CodePoint} (h : spelling.getLast? = some last)
    (hl : goesOn last = true)
    : awaitsSign spelling = false := by
  cases ha : awaitsSign spelling with
  | false => rfl
  | true =>
      simp only [awaitsSign, h, List.map_cons, List.map_nil] at ha
      simp only [Text.ofString, List.mem_cons, List.not_mem_nil, or_false, decide_eq_true_eq] at ha
      rcases ha with ha | ha | ha | ha <;> obtain rfl := Option.some.inj ha <;>
        exact absurd hl (by decide)

/-- A digit with what goes on with it is a numeral, if its end does not wait for a sign. -/
theorem isNumeral_of_extends {first last : CodePoint} {rest : Text} (hf : first.isDecimal = true)
    (h : ExtendsBy [first] rest) (hlast : (first :: rest).getLast? = some last)
    (hl : goesOn last = true)
    : IsNumeral (first :: rest) :=
  ⟨first, rest, rfl, hf, h, awaitsSign_of_last hlast hl⟩

/-- Digits and points behind a first digit make a number. -/
theorem isNumeral_of_goesOn {first : CodePoint} {rest : Text} (hf : first.isDecimal = true)
    (h : ∀ point ∈ rest, goesOn point = true)
    : IsNumeral (first :: rest) := by
  have hall : ∀ point ∈ first :: rest, goesOn point = true := by
    intro point hm
    rcases List.mem_cons.mp hm with rfl | hm
    · exact Bool.or_eq_true_iff.mpr (.inl hf)
    · exact h point hm
  have hextends := ExtendsBy.append h [first] (extendsBy_nil _)
  rw [List.append_nil] at hextends
  exact isNumeral_of_extends hf hextends List.getLast?_cons
    (hall _ (List.mem_of_getLast? List.getLast?_cons))

-----------------------------------------------------------------------------------------
-- Integers and decimals are numerals
-----------------------------------------------------------------------------------------

/-- A number goes on with an exponent that has a sign and some digits. -/
theorem isNumeral_exponent {first sign digit : CodePoint} {rest digits : Text}
    (hf : first.isDecimal = true) (h : ∀ point ∈ rest, goesOn point = true)
    (hs : sign = '+' ∨ sign = '-') (hd : ∀ point ∈ digit :: digits, goesOn point = true)
    : IsNumeral (first :: rest ++ .scalar 'e' :: sign :: digit :: digits) := by
  have hletter : ∀ spelling, extendsNumber spelling 'e' = true := fun _ => rfl
  have hsign : ∀ spelling : Text, extendsNumber (spelling ++ [.scalar 'e']) sign = true := by
    intro spelling
    have hawaits : awaitsSign (spelling ++ [.scalar 'e']) = true := by
      simp only [awaitsSign, List.getLast?_concat]
      rfl
    simp only [extendsNumber, hawaits, Bool.and_true, Bool.or_eq_true, decide_eq_true_eq]
    exact .inr hs
  have hdigits := fun spelling =>
    ExtendsBy.append hd spelling (extendsBy_nil (spelling ++ digit :: digits))
  simp only [List.append_nil] at hdigits
  have hexponent := fun spelling =>
    ExtendsBy.cons (hletter spelling) (.cons (hsign spelling) (hdigits _))
  have hlast : (first :: (rest ++ .scalar 'e' :: sign :: digit :: digits)).getLast?
      = some ((digit :: digits).getLast (List.cons_ne_nil _ _)) := by
    rw [List.getLast?_eq_some_getLast (List.cons_ne_nil _ _)]
    simp only [List.getLast_cons, List.getLast_append_of_ne_nil, ne_eq,
      List.cons_ne_nil, not_false_eq_true, List.append_eq_nil_iff, and_false]
  rw [List.cons_append]
  exact isNumeral_of_extends hf (ExtendsBy.append h [first] (hexponent _)) hlast
    (hd _ (List.getLast_mem _))

/-- A digit as a code point. -/
theorem isDecimal_of_isDigit {char : Char} (h : char.isDigit = true)
    : (CodePoint.scalar char).isDecimal = true := by
  obtain ⟨hl, hu⟩ := Char.isDigit_iff_toNat.mp h
  have hbetween : (CodePoint.scalar char).between 0x30 0x39 = true := by
    rw [CodePoint.between, Bool.and_eq_true, decide_eq_true_eq, decide_eq_true_eq]
    exact ⟨hl, hu⟩
  rw [CodePoint.isDecimal, CodePoint.decimal?, if_pos hbetween]
  rfl

/-- A number goes on with a digit. -/
theorem goesOn_of_isDigit {char : Char} (h : char.isDigit = true)
    : goesOn (.scalar char) = true :=
  Bool.or_eq_true_iff.mpr (.inl (isDecimal_of_isDigit h))

/-- The digits of a number are digits. -/
theorem isDigit_toDigits {number : Nat} {char : Char} (h : char ∈ Nat.toDigits 10 number)
    : char.isDigit = true :=
  Nat.isDigit_of_mem_toDigits (by decide) (by decide) h

/-- A natural number is a numeral. -/
theorem isNumeral_ofNat (number : Nat) : IsNumeral (Text.ofNat number) := by
  obtain ⟨first, rest, h⟩ := List.exists_cons_of_ne_nil (Nat.toDigits_ne_nil (n := number) (b := 10))
  have hdigit : ∀ char ∈ first :: rest, char.isDigit = true := fun char hm =>
    isDigit_toDigits (h ▸ hm)
  rw [Text.ofNat, h]
  refine isNumeral_of_goesOn (isDecimal_of_isDigit (hdigit first List.mem_cons_self)) ?_
  intro point hm
  obtain ⟨char, hc, rfl⟩ := List.mem_map.mp hm
  exact goesOn_of_isDigit (hdigit char (List.mem_cons_of_mem _ hc))

/-- An integer that is not negative is a numeral. -/
theorem isNumeral_ofInt {number : Int} (h : 0 ≤ number) : IsNumeral (Text.ofInt number) := by
  obtain ⟨number, rfl⟩ := Int.eq_ofNat_of_zero_le h
  exact isNumeral_ofNat number

/-- Characters of which the first is a digit and the others are digits or points. -/
theorem isNumeral_of_chars {chars : List Char} (h : ∀ char ∈ chars, char.isDigit ∨ char = '.')
    (hf : ∃ first ∈ chars.head?, first.isDigit = true)
    : IsNumeral (chars.map CodePoint.scalar) := by
  obtain ⟨first, hm, hd⟩ := hf
  obtain ⟨rest, rfl⟩ := List.head?_eq_some_iff.mp hm
  refine isNumeral_of_goesOn (isDecimal_of_isDigit hd) ?_
  intro point hm
  obtain ⟨char, hc, rfl⟩ := List.mem_map.mp hm
  rcases h char (List.mem_cons_of_mem _ hc) with hd | rfl
  · exact goesOn_of_isDigit hd
  · rfl

/-- Between the zeros that fill them up, the digits of a number are digits. -/
theorem isDigit_filled {digits : List Char} (h : ∀ char ∈ digits, char.isDigit = true)
    {count : Nat} {char : Char} (hm : char ∈ List.replicate count '0' ++ digits)
    : char.isDigit = true := by
  rcases List.mem_append.mp hm with hm | hm
  · rw [List.eq_of_mem_replicate hm]
    rfl
  · exact h char hm

/-- Digits with a point among them are a numeral. -/
theorem isNumeral_positional {digits : List Char} (h : ∀ char ∈ digits, char.isDigit = true)
    (hne : digits ≠ []) (exponent : Int)
    : IsNumeral ((Numeral.positional digits exponent).map CodePoint.scalar) := by
  obtain ⟨first, rest, rfl⟩ := List.exists_cons_of_ne_nil hne
  unfold Numeral.positional
  split
  · refine isNumeral_of_chars ?_ ⟨first, rfl, h first List.mem_cons_self⟩
    intro char hm
    simp only [List.mem_append, List.mem_cons, List.not_mem_nil, or_false] at hm
    rcases hm with (hm | hm) | rfl | rfl
    · exact .inl (h char (List.mem_cons.mpr hm))
    · refine .inl (isDigit_filled (fun _ hn => ?_) (List.mem_append_left [] hm))
      exact absurd hn List.not_mem_nil
    · exact .inr rfl
    · exact .inl rfl
  · simp only
    have hlength : (List.replicate ((-exponent).toNat + 1 - (first :: rest).length) '0'
        ++ first :: rest).length ≥ (-exponent).toNat + 1 := by
      simp only [List.length_append, List.length_replicate]
      omega
    have hfilled : ∀ char ∈ List.replicate ((-exponent).toNat + 1 - (first :: rest).length) '0'
        ++ first :: rest, char.isDigit = true := fun char hm => isDigit_filled h hm
    generalize List.replicate ((-exponent).toNat + 1 - (first :: rest).length) '0'
        ++ first :: rest = filled at hlength hfilled
    refine isNumeral_of_chars ?_ ?_
    · intro char hm
      simp only [List.mem_append, List.mem_cons, List.not_mem_nil, or_false] at hm
      rcases hm with (hm | hm) | hm
      · exact .inl (hfilled char (List.mem_of_mem_take hm))
      · exact .inr hm
      · exact .inl (hfilled char (List.mem_of_mem_drop hm))
    · cases filled with
      | nil => exact absurd hlength (Nat.not_succ_le_zero _)
      | cons char filled =>
          have hwhole : (char :: filled).length - (-exponent).toNat
              = (char :: filled).length - (-exponent).toNat - 1 + 1 := by
            omega
          rw [hwhole, List.take_succ_cons]
          exact ⟨char, rfl, hfilled char List.mem_cons_self⟩

/-- Digits with an exponent are a numeral. -/
theorem isNumeral_scientific {digits : List Char} (h : ∀ char ∈ digits, char.isDigit = true)
    (hne : digits ≠ []) (width : Nat) (power : Int)
    : IsNumeral ((Numeral.scientific width digits power).map CodePoint.scalar) := by
  obtain ⟨first, rest, rfl⟩ := List.exists_cons_of_ne_nil hne
  have hexponent : ∀ char ∈ List.replicate (width - (Nat.toDigits 10 power.natAbs).length) '0'
      ++ Nat.toDigits 10 power.natAbs, char.isDigit = true := fun char hm =>
    isDigit_filled (fun _ => isDigit_toDigits) hm
  have hsome : List.replicate (width - (Nat.toDigits 10 power.natAbs).length) '0'
      ++ Nat.toDigits 10 power.natAbs ≠ [] :=
    List.append_ne_nil_of_right_ne_nil _ Nat.toDigits_ne_nil
  have hlayout : Numeral.scientific width (first :: rest) power
      = first :: (if (first :: rest).length ≤ 1 then [] else '.' :: rest)
          ++ 'e' :: (if power < 0 then '-' else '+')
          :: (List.replicate (width - (Nat.toDigits 10 power.natAbs).length) '0'
            ++ Nat.toDigits 10 power.natAbs) := by
    simp only [Numeral.scientific, List.take_succ_cons, List.take_zero, List.drop_succ_cons,
      List.drop_zero, List.append_assoc]
    rfl
  rw [hlayout]
  generalize List.replicate (width - (Nat.toDigits 10 power.natAbs).length) '0'
    ++ Nat.toDigits 10 power.natAbs = exponent at hexponent hsome
  obtain ⟨digit, exponent, rfl⟩ := List.exists_cons_of_ne_nil hsome
  simp only [List.map_append, List.map_cons]
  refine isNumeral_exponent (isDecimal_of_isDigit (h first List.mem_cons_self)) ?_ ?_ ?_
  · intro point hm
    obtain ⟨char, hc, rfl⟩ := List.mem_map.mp hm
    split at hc
    · exact absurd hc List.not_mem_nil
    · rcases List.mem_cons.mp hc with rfl | hc
      · rfl
      · exact goesOn_of_isDigit (h char (List.mem_cons_of_mem _ hc))
  · split
    · exact .inr rfl
    · exact .inl rfl
  · intro point hm
    rw [← List.map_cons] at hm
    obtain ⟨char, hc, rfl⟩ := List.mem_map.mp hm
    exact goesOn_of_isDigit (hexponent char hc)

/-- A decimal is a numeral in every layout. -/
theorem isNumeral_ofDecimal (layout : Numeral.Layout) (decimal : Decimal)
    : IsNumeral ((Numeral.ofDecimal layout decimal).map CodePoint.scalar) := by
  simp only [Numeral.ofDecimal]
  split
  · exact isNumeral_positional (fun _ => isDigit_toDigits) Nat.toDigits_ne_nil _
  · exact isNumeral_scientific (fun _ => isDigit_toDigits) Nat.toDigits_ne_nil _ _

/-- A finite double that is not negative is spelled as one number. -/
theorem isNumeral_real {negative : Bool} (size : Magnitude)
    (h : negative = true → size.significand = 0)
    : IsNumeral (Fragment.real (.finite negative size)) := by
  have hdecimal := isNumeral_ofDecimal Numeral.layout size.shortest
  cases negative with
  | false =>
      unfold Fragment.real
      split
      · rename_i whole hw
        split
        · simp only [Binary64.toInt?] at hw
          split at hw
          · obtain rfl := Option.some.inj hw
            exact isNumeral_ofInt (Int.natCast_nonneg _)
          · exact absurd hw nofun
        · exact hdecimal
      · exact hdecimal
  | true =>
      -- Only zero has two signs, and neither of them is written.
      have hzero : (Binary64.finite true size).toInt? = some 0 := by
        simp only [Binary64.toInt?, Magnitude.isWhole, Magnitude.floor, Magnitude.units, h rfl,
          Nat.zero_mul, Nat.zero_mod, Nat.zero_div, decide_true, if_true]
        rfl
      rw [Fragment.real, hzero]
      exact isNumeral_ofNat 0

end DeviceScript.Cpp
