import DeviceScript.Text.Basic

/-! Texts of characters alone, which have a form in UTF-8. -/

namespace DeviceScript.Text

/-- A text of characters alone, without half a surrogate pair. -/
def IsUnicode (text : Text) : Prop := ∀ point ∈ text, ∃ char, point = .scalar char

/-- Texts of characters are still such a text one after the other. -/
theorem IsUnicode.append {first second : Text} (h : first.IsUnicode) (h' : second.IsUnicode)
    : IsUnicode (first ++ second) := by
  intro point hm
  rcases List.mem_append.mp hm with hm | hm
  · exact h point hm
  · exact h' point hm

/-- The text of a string has no half of a surrogate pair. -/
theorem isUnicode_ofString (string : String) : IsUnicode (ofString string) := by
  intro point hm
  obtain ⟨char, _, rfl⟩ := List.mem_map.mp hm
  exact ⟨char, rfl⟩

end DeviceScript.Text
