import DeviceScript.Text.Basic

/-! Texts that are joined with a separator between neighbours. -/

namespace DeviceScript.Text

variable (separator : Text)

/-- A separator stands between the first text and the others. -/
theorem join_cons_cons (first second : Text) (rest : List Text)
    : join separator (first :: second :: rest)
      = first ++ separator ++ join separator (second :: rest) :=
  rfl

/-- Behind the first text, each one stands with a separator in front of it. -/
theorem join_cons (first : Text) (rest : List Text)
    : join separator (first :: rest) = first ++ rest.flatMap (separator ++ ·) := by
  induction rest generalizing first with
  | nil => exact (List.append_nil _).symm
  | cons second rest ih =>
      rw [join_cons_cons, ih, List.flatMap_cons, List.append_assoc, List.append_assoc]

/-- A separator stands between the last text and the others. -/
theorem join_concat (last : Text) {texts : List Text} (h : texts ≠ [])
    : join separator (texts ++ [last]) = join separator texts ++ (separator ++ last) := by
  obtain ⟨first, rest, rfl⟩ := List.exists_cons_of_ne_nil h
  rw [List.cons_append, join_cons, join_cons, List.flatMap_append, List.flatMap_singleton,
    List.append_assoc]

variable {separator}

/-- A check that the separator fails holds in a joined text where it holds in one of its parts. -/
theorem any_join {check : CodePoint → Bool} (h : separator.any check = false) (texts : List Text)
    : (join separator texts).any check = texts.any fun text => text.any check := by
  match texts with
  | [] => rfl
  | [text] => exact (Bool.or_false _).symm
  | first :: second :: rest =>
      rw [join_cons_cons, List.any_append, List.any_append, h, Bool.or_false, any_join h]
      rfl

/-- What is neither in the separator nor in a text is not in the whole. -/
theorem not_mem_join {point : CodePoint} (hs : point ∉ separator) {texts : List Text}
    (h : ∀ text ∈ texts, point ∉ text)
    : point ∉ join separator texts := by
  match texts with
  | [] => exact List.not_mem_nil
  | [text] => exact h text List.mem_cons_self
  | first :: second :: rest =>
      have hrest := not_mem_join hs fun text hm => h text (List.mem_cons_of_mem first hm)
      rw [join_cons_cons, List.mem_append, List.mem_append, not_or, not_or]
      exact ⟨⟨h first List.mem_cons_self, hs⟩, hrest⟩

end DeviceScript.Text
