import DeviceScript.Proofs.Cpp.StringLiteral
import DeviceScript.Translation.Fragment

/-! String literals in the output. A text comes through translation unchanged, wherever its literal
stands, and no control code of it does.
-/

namespace DeviceScript

namespace Cpp

/-- A spelling inside a string is free of control codes: those of the text stand there
as numbers. -/
theorem Encodes.not_isControl {point point' : CodePoint} {spelling : Text}
    (h : Encodes point spelling) (hm : point' ∈ spelling)
    : ¬ point'.IsControl := by
  have hcodes : ∀ code < 128, ∀ point ∈ ("\\" ++ Text.padded 8 3 code : Text),
      ¬ point.IsControl := by
    decide +kernel
  cases h with
  | letter known visible =>
      rcases List.mem_cons.mp hm with rfl | hm
      · decide
      · rwa [List.mem_singleton.mp hm]
  | number small => exact hcodes point.value small point' hm
  | itself apart apart' visible => rwa [List.mem_singleton.mp hm]

end Cpp

/-- No control character is left in what is encoded. -/
theorem Text.Quoted.not_isControl {value : Text} {point : CodePoint} (hm : point ∈ encode value)
    : ¬ point.IsControl := by
  have hquote : ¬ CodePoint.IsControl '"' := by decide
  rw [encode, List.mem_append, List.mem_append] at hm
  rcases hm with (hm | hm) | hm
  · exact List.mem_singleton.mp hm ▸ hquote
  · obtain ⟨inner, _, hspelled⟩ := List.mem_flatMap.mp hm
    exact (Cpp.encodes_encodePoint inner).not_isControl hspelled
  · exact List.mem_singleton.mp hm ▸ hquote

namespace Fragment

/-- A string literal is emitted as one that is read back as the same text, whatever stands behind
it, and that has no control codes in it. -/
theorem emit_string (style : Style) (value : Text) (raw : Option Text) (location : Option Location)
    (progress : Progress)
    : let text := ((emit style (.literal (.text value) raw location)).run progress).1
      (∀ rest, Cpp.stringLiteral? (text ++ rest) = some (value, rest))
      ∧ ∀ point ∈ text, ¬ (point.value < 0x20 ∨ point.value = 0x7F) := by
  have hrun : ((emit style (.literal (.text value) raw location)).run progress).1
      = Text.Quoted.encode value := rfl
  simp only [hrun]
  constructor
  · intro rest
    exact Cpp.stringLiteral?_encode value rest
  · intro point hm
    exact Text.Quoted.not_isControl hm

/-- A control code in front of a digit, and a backslash in front of a quote. -/
example : Text.Quoted.encode "\x017\\\"" = "\"\\0017\\\\\\\"\"" := by decide +kernel

end Fragment

end DeviceScript
