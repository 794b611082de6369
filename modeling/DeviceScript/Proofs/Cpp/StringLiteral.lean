import DeviceScript.Proofs.Cpp.Token
import DeviceScript.Text.Quoted

/-! String literals of C++. They are read one code point after another up to the first quote that no
backslash escapes, with the states of the scanner. A text is read back from its literal whatever
stands behind the literal.
-/

namespace DeviceScript

namespace CodePoint

/-- The code point is a control code of ASCII. -/
def IsControl (point : CodePoint) : Prop := point.value < 0x20 ∨ point.value = 0x7F

instance : DecidablePred IsControl := fun _ => inferInstanceAs (Decidable (_ ∨ _))

/-- The number of a code point leads back to it. -/
theorem ofNat?_value (point : CodePoint) : ofNat? point.value = some point := by
  cases point with
  | scalar char =>
      have hvalid : char.toNat.isValidChar := char.valid
      rw [ofNat?, value, dif_pos hvalid]
      rfl
  | surrogate half =>
      have hlt := half.isLt
      have hinvalid : ¬ (0xD800 + half.val).isValidChar := by
        unfold Nat.isValidChar
        omega
      rw [ofNat?, value, dif_neg hinvalid, dif_pos (by omega)]
      simp only [Nat.add_sub_cancel_left]

end CodePoint

namespace Cpp

/-- A spelling stands for a code point inside a string: as an escaped letter, by its number, or
because it is the code point. -/
inductive Encodes (point : CodePoint) : Text → Prop where
  | letter {letter : CodePoint} (known : simpleEscape? letter = some point)
      (visible : ¬ letter.IsControl)
    : Encodes point ['\\', letter]
  | number (small : point.value < 128) : Encodes point ("\\" ++ Text.padded 8 3 point.value)
  | itself (apart : point ≠ '"') (apart' : point ≠ '\\') (visible : ¬ point.IsControl)
    : Encodes point [point]

/-- Each character is encoded as something that means it. -/
theorem encodes_encodePoint (point : CodePoint)
    : Encodes point (Text.Quoted.encodePoint point) := by
  unfold Text.Quoted.encodePoint
  split
  · subst point; exact .letter rfl (by decide)
  · split
    · subst point; exact .letter rfl (by decide)
    · split
      · subst point; exact .letter rfl (by decide)
      · split
        · subst point; exact .letter rfl (by decide)
        · split
          · subst point; exact .letter rfl (by decide)
          · rename_i hb hq _ _ _
            by_cases hcontrol : point.IsControl
            · have hsmall : point.value < 128 := by
                rcases hcontrol with hlow | hdelete <;> omega
              rw [if_pos (by simpa [CodePoint.IsControl] using hcontrol)]
              exact .number hsmall
            · rw [if_neg (by simpa [CodePoint.IsControl] using hcontrol)]
              exact .itself hq hb hcontrol

namespace Partial

/-- What has been read of a token behind some more code points, if they all belong to it. -/
def after? : Partial → Text → Option Partial
  | part, [] => some part
  | part, point :: rest => (part.extend? point).bind (after? · rest)

/-- The text of a string up to its closing quote, and what stands behind that quote. -/
def closing? : Partial → Text → Option (Text × Text)
  | closed value, rest => some (value, rest)
  | _, [] => none
  | part, point :: rest => (part.extend? point).bind (closing? · rest)

variable {part longer : Partial} {point : CodePoint} {text : Text}

/-- A part of a literal reads on with what it becomes by one character. -/
theorem after?_cons (rest : Text) (h : part.extend? point = some longer)
    : part.after? (point :: rest) = longer.after? rest := by
  rw [after?, h, Option.bind_some]

/-- A text that brings a string to its end is the whole string, by induction over the text. -/
theorem closing?_of_after? {value : Text} (rest : Text) (h : part.after? text = some (closed value))
    : part.closing? (text ++ rest) = some (value, rest) := by
  induction text generalizing part with
  | nil =>
      obtain rfl := Option.some.inj h
      cases rest <;> rfl
  | cons point text ih =>
      rw [after?] at h
      obtain ⟨longer, hextend, hafter⟩ := Option.bind_eq_some_iff.mp h
      cases part with
      | closed value => exact absurd hextend.symm (Option.some_ne_none longer)
      | _ => rw [List.cons_append, closing?, hextend, Option.bind_some, ih hafter]; exact nofun

end Partial

/-- The value of the string literal that a text begins with, and what stands behind it. -/
def stringLiteral? : Text → Option (Text × Text)
  | [] => none
  | point :: rest => if point = '"' then Partial.closing? (.string [] .plain) rest else none

/-- A scanner takes up what belongs to a token, by induction over it. -/
theorem scan_after {part longer : Partial} {text : Text} (rest : Text)
    (h : part.after? text = some longer)
    : scan part (text ++ rest) = scan longer rest := by
  induction text generalizing part with
  | nil =>
      obtain rfl := Option.some.inj h
      rfl
  | cons point text ih =>
      rw [Partial.after?] at h
      obtain ⟨next, hextend, hafter⟩ := Option.bind_eq_some_iff.mp h
      exact (scan_extend (text ++ rest) hextend).trans (ih hafter)

/-- The digits of an octal escape and the number that they stand for. -/
theorem octalDigits : ∀ code < 128,
    ∃ first ∈ (Text.padded 8 3 code)[0]?, ∃ second ∈ (Text.padded 8 3 code)[1]?,
      ∃ third ∈ (Text.padded 8 3 code)[2]?,
        Text.padded 8 3 code = [first, second, third]
          ∧ simpleEscape? first = none
          ∧ first.isOctal = true ∧ second.isOctal = true ∧ third.isOctal = true
          ∧ ((first.value - 0x30) * 8 + (second.value - 0x30)) * 8 + (third.value - 0x30)
            = code := by
  decide +kernel

namespace Partial

/-- An octal escape is read digit by digit. -/
theorem after?_octal (value rest : Text) {code : Nat} (h : code < 128)
    : after? (.string value .plain) ("\\" ++ Text.padded 8 3 code ++ rest)
      = after? (.string value (.octal 3 code)) rest := by
  obtain ⟨first, _, second, _, third, _, hd, he, h1, h2, h3, hcode⟩ := octalDigits code h
  have hstart : extend? (.string value .plain) '\\' = some (.string value .start) := rfl
  have hfirst : extend? (.string value .start) first
      = some (.string value (.octal 1 (first.value - 0x30))) := by
    simp only [extend?, extendString?, he, h1, if_true]
  have hnext : ∀ count code point, CodePoint.isOctal point = true → count < 3
      → extend? (.string value (.octal count code)) point
        = some (.string value (.octal (count + 1) (code * 8 + (point.value - 0x30)))) := by
    intro count code point hp hc
    simp only [extend?, extendString?, hp, hc, decide_true, Bool.and_true, if_true]
  rw [hd, ← hcode]
  exact (after?_cons _ hstart).trans <| (after?_cons _ hfirst).trans <|
    (after?_cons _ (hnext 1 _ second h2 (by decide))).trans <|
    after?_cons _ (hnext 2 _ third h3 (by decide))

/-- The code point that an octal escape stands for is read together with what follows it, even if
that is a digit, because three digits are as many as an escape can have. -/
theorem after?_escaped (value : Text) {point : CodePoint} {rest : Text} (h : rest ≠ [])
    : after? (.string value (.octal 3 point.value)) rest
      = after? (.string (value ++ [point]) .plain) rest := by
  obtain ⟨next, rest, rfl⟩ := List.exists_cons_of_ne_nil h
  have hextend : extend? (.string value (.octal 3 point.value)) next
      = extend? (.string (value ++ [point]) .plain) next := by
    simp only [extend?, extendString?, Nat.lt_irrefl, decide_false, Bool.and_false,
      Bool.false_eq_true, if_false, CodePoint.ofNat?_value, Option.bind_some]
  rw [after?, after?, hextend]

/-- The spelling of a code point in a string is read as that code point. -/
theorem after?_encodePoint (value : Text) (point : CodePoint) {rest : Text} (h : rest ≠ [])
    : after? (.string value .plain) (Text.Quoted.encodePoint point ++ rest)
      = after? (.string (value ++ [point]) .plain) rest := by
  have hspelled := encodes_encodePoint point
  generalize Text.Quoted.encodePoint point = spelling at hspelled
  cases hspelled with
  | @letter letter known visible =>
      have hstart : extend? (.string value .plain) '\\' = some (.string value .start) := rfl
      have hletter : extend? (.string value .start) letter
          = some (.string (value ++ [point]) .plain) := by
        simp only [extend?, extendString?, known]
      exact (after?_cons _ hstart).trans (after?_cons rest hletter)
  | number small => exact (after?_octal value rest small).trans (after?_escaped value h)
  | itself apart apart' visible =>
      have hline : point ≠ '\n' := by
        rintro rfl
        exact visible (by decide)
      refine after?_cons rest ?_
      simp only [extend?, extendString?, plain?, apart, apart', hline, if_false]

/-- The code points of a string are read into it, by induction over the string. The quote behind
them ends it, since each quote inside is escaped. -/
theorem after?_encoded (value text : Text)
    : after? (.string value .plain) (text.flatMap Text.Quoted.encodePoint ++ "\"")
      = some (.closed (value ++ text)) := by
  induction text generalizing value with
  | nil =>
      rw [List.append_nil]
      rfl
  | cons point text ih =>
      rw [List.flatMap_cons, List.append_assoc, after?_encodePoint, ih, List.append_assoc]
      · rfl
      · exact List.append_ne_nil_of_right_ne_nil _ (List.cons_ne_nil _ _)

end Partial

/-- A text is read back from its literal, and nothing behind the literal is read with it. -/
theorem stringLiteral?_encode (value rest : Text)
    : stringLiteral? (Text.Quoted.encode value ++ rest) = some (value, rest) := by
  have hopen : stringLiteral? (Text.Quoted.encode value ++ rest)
      = Partial.closing? (.string [] .plain)
          (value.flatMap Text.Quoted.encodePoint ++ "\"" ++ rest) := by
    rw [Text.Quoted.encode, List.append_assoc, List.append_assoc, List.append_assoc]
    rfl
  rw [hopen]
  exact Partial.closing?_of_after? rest (Partial.after?_encoded [] value)

end Cpp

end DeviceScript
