import DeviceScript.Proofs.Console.Markup

/-! How a text is read for markup. Whatever is read as markup costs a text a backslash or a bracket,
so a text of which neither is missing has been read as plain text.
-/

namespace DeviceScript.Markup

/-- A bracket that is not read as one. -/
def escapedBracket : Text := [.scalar '\\', .scalar '[']

/-- Nothing in a text is read as markup. -/
structure IsFree (text : Text) : Prop where
  tagless : ∀ rest, rest <:+ text → tag? rest = none
  unescaped : ¬escapedBracket <:+: text

/-- The plain texts among some pieces, one after another. -/
def bare (list : List Piece) : Text :=
  list.flatMap fun
    | .plain text => text
    | .tag _ _ => []

variable {text word rest before : Text} {point : CodePoint}

section Reading

/-- Without a tag anywhere behind them, slashes stand in front of none. -/
theorem guardedTag?_of_tagless (h : ∀ rest, rest <:+ text → tag? rest = none)
    : guardedTag? text = none := by
  induction text with
  | nil => rfl
  | cons point text ih =>
      by_cases hp : point = '\\'
      · subst hp
        rw [guardedTag?_backslash, Option.map_eq_none_iff]
        exact ih fun rest hs => h rest (hs.trans (List.suffix_cons _ text))
      · rw [guardedTag?_of_ne hp, h _ List.suffix_rfl]
        rfl

/-- Where no tag stands behind slashes, none stands without them. -/
theorem tag?_of_guardedTag? (h : guardedTag? (point :: text) = none)
    : tag? (point :: text) = none := by
  by_cases hp : point = '\\'
  · exact tag?_of_ne (by rw [hp]; decide) text
  · rw [guardedTag?_of_ne hp, Option.map_eq_none_iff] at h
    exact h

/-- A bracket behind a text makes no tag of it, unless the text is nothing but backslashes: the tag
would have to end before the bracket. -/
theorem guardedTag?_append (h : guardedTag? text = none) (hne : text ≠ [])
    (hlast : text.getLast? ≠ some (.scalar '\\')) (rest : Text)
    : guardedTag? (text ++ .scalar '[' :: rest) = none := by
  induction text with
  | nil => exact absurd rfl hne
  | cons point text ih =>
      by_cases hp : point = '\\'
      · subst hp
        have hbehind : text ≠ [] := by
          rintro rfl
          exact hlast rfl
        rw [List.getLast?_cons_of_ne_nil hbehind] at hlast
        rw [guardedTag?_backslash, Option.map_eq_none_iff] at h
        rw [List.cons_append, guardedTag?_backslash, Option.map_eq_none_iff]
        exact ih h hbehind hlast
      · rw [List.cons_append, guardedTag?_of_ne hp, Option.map_eq_none_iff]
        by_cases hb : point = '['
        · subst hb
          cases text with
          | nil =>
              rw [List.nil_append, tag?_bracket, if_neg]
              rintro ⟨hstarts, -⟩
              exact absurd hstarts (by decide)
          | cons first text =>
              have hnone := tag?_of_guardedTag? h
              rw [List.cons_append, tag?_bracket, if_neg]
              rintro ⟨hstarts, hclosed⟩
              rw [List.find?_append] at hclosed
              -- The bracket behind closes no tag, so the one that does is in the text.
              have hfound : text.find? isBracket = some (.scalar ']') := by
                cases hf : text.find? isBracket with
                | none =>
                    rw [hf] at hclosed
                    exact absurd (Option.some.inj hclosed) (by decide)
                | some found => rwa [hf, Option.some_or] at hclosed
              rw [tag?_bracket, if_pos ⟨hstarts, hfound⟩] at hnone
              exact absurd hnone nofun
        · exact tag?_of_ne hb _

/-- What is behind a tag is a part of the text at its end. -/
theorem suffix_tagged (slashes : Nat) (word rest : Text) : rest <:+ tagged slashes word rest := by
  refine ⟨backslashes slashes ++ .scalar '[' :: (word ++ [.scalar ']']), ?_⟩
  simp only [tagged, List.append_assoc, List.cons_append, List.nil_append]

/-- A text that does not end in a code point has no part at its end that does. -/
theorem getLast?_suffix (hs : rest <:+ text) (hlast : text.getLast? ≠ some point)
    : rest.getLast? ≠ some point := by
  obtain ⟨front, rfl⟩ := hs
  intro h
  exact hlast (by rw [List.getLast?_append, h, Option.some_or])

/-- What is behind a part of a free text is free. -/
theorem IsFree.of_suffix (h : IsFree text) (hs : rest <:+ text) : IsFree rest where
  tagless inner hi := h.tagless inner (hi.trans hs)
  unescaped hi := h.unescaped (hi.trans hs.isInfix)

/-- A free text does not start with an escaped bracket. -/
theorem IsFree.not_escaped (h : IsFree (point :: rest))
    : ¬(point = '\\' ∧ rest.head? = some (.scalar '[')) := by
  rintro ⟨rfl, hhead⟩
  obtain ⟨behind, rfl⟩ := List.head?_eq_some_iff.mp hhead
  exact h.unescaped ⟨[], behind, rfl⟩

/-- Free text is one plain piece in front of the next bracket. -/
theorem IsFree.pieces_append (h : IsFree text) (hlast : text.getLast? ≠ some (.scalar '\\'))
    (position : Nat) (before rest : Text)
    : pieces position 0 before (text ++ .scalar '[' :: rest)
      = pieces (position + text.length) 0 (text.reverse ++ before) (.scalar '[' :: rest) := by
  refine pieces_append_of_none (fun point behind hs => ⟨?_, ?_⟩) position before
  · have hbehind := getLast?_suffix hs hlast
    have hnone := guardedTag?_of_tagless (h.of_suffix hs).tagless
    exact guardedTag?_append hnone (List.cons_ne_nil point behind) hbehind rest
  · rintro ⟨rfl, hhead⟩
    cases behind with
    | nil =>
        obtain ⟨front, rfl⟩ := hs
        exact hlast List.getLast?_concat
    | cons next behind => exact (h.of_suffix hs).not_escaped ⟨rfl, hhead⟩

/-- A free text is one plain piece, together with what stands before it. -/
theorem IsFree.pieces_eq (h : IsFree text) (position : Nat) (before : Text)
    : pieces position 0 before text = [.plain (before.reverse ++ text)] := by
  have hpieces : pieces position 0 before (text ++ [])
      = pieces (position + text.length) 0 (text.reverse ++ before) [] := by
    refine pieces_append_of_none (fun point behind hs => ?_) position before
    rw [List.append_nil]
    exact ⟨guardedTag?_of_tagless (h.of_suffix hs).tagless, (h.of_suffix hs).not_escaped⟩
  rw [List.append_nil] at hpieces
  rw [hpieces, pieces, List.reverse_append, List.reverse_reverse]

/-- A text without a tag at its front takes its first code point to the plain text before it, if
that is no backslash in front of a bracket. -/
theorem pieces_cons (h : guardedTag? (point :: rest) = none) (position : Nat) (before : Text)
    : pieces position 0 before (point :: rest)
      = pieces (position + 1) 0
          (if point = '\\' ∧ rest.head? = some (.scalar '[') then before else point :: before)
          rest := by
  rw [pieces, if_neg (fun hn => hn rfl), h]
  simp only [Bool.and_eq_true, decide_eq_true_eq]
  split <;> rfl

end Reading

section Counting

/-- A plain piece is shown as it is. -/
@[simp]
theorem bare_plain (text : Text) (list : List Piece)
    : bare (.plain text :: list) = text ++ bare list :=
  rfl

/-- The slashes of a tagged text are those in front of the tag, in its word and behind it. -/
theorem count_tagged_slash (slashes : Nat) (word rest : Text)
    : (tagged slashes word rest).count (.scalar '\\')
      = slashes + word.count (.scalar '\\') + rest.count (.scalar '\\') := by
  simp [tagged, backslashes, Nat.add_assoc]

/-- A tag has one opening bracket. -/
theorem count_tagged_bracket (h : IsTagWord word) (slashes : Nat) (rest : Text)
    : (tagged slashes word rest).count (.scalar '[') = rest.count (.scalar '[') + 1 := by
  have hword : word.count (.scalar '[') = 0 :=
    List.count_eq_zero.mpr fun hm => absurd (h.plain _ hm) (by decide)
  simp [tagged, backslashes, List.count_replicate, hword]

end Counting

end DeviceScript.Markup
