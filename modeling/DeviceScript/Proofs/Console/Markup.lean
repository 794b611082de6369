import DeviceScript.Console.Markup

/-! Text among markup. An escaped text has no tag in it, so a line of plain words and escaped texts
can be shown whatever the texts are.
-/

namespace DeviceScript.Markup

def isBracket (point : CodePoint) : Bool := point = '[' || point = ']'

/-- A tag in front of a text, with some backslashes in front of it. -/
def tagged (slashes : Nat) (word rest : Text) : Text :=
  backslashes slashes ++ .scalar '[' :: (word ++ .scalar ']' :: rest)

/-- What stands between the brackets of a tag. -/
structure IsTagWord (word : Text) : Prop where
  starts : word.head?.any startsTag = true
  plain : ∀ point ∈ word, isBracket point = false

variable {text word rest tail : Text} {point first : CodePoint} {slashes : Nat}

section Tags

/-- Behind the part that passes a check stands the first code point that fails it. -/
theorem head?_drop_takeWhile (check : CodePoint → Bool) (text : Text)
    : (text.drop (text.takeWhile check).length).head? = text.find? fun point => !check point := by
  induction text with
  | nil => rfl
  | cons point rest ih =>
      cases hc : check point with
      | true =>
          rw [List.takeWhile_cons_of_pos hc, List.length_cons, List.drop_succ_cons, ih,
            List.find?_cons, hc]
          rfl
      | false =>
          rw [List.takeWhile_cons_of_neg (by simp [hc]), List.find?_cons, hc]
          rfl

/-- Whether there is a tag is up to the code point behind the bracket and to the first bracket
behind that. -/
theorem tag?_bracket (first : CodePoint) (rest : Text)
    : tag? (.scalar '[' :: first :: rest)
      = if startsTag first ∧ rest.find? isBracket = some (.scalar ']') then
          some (first :: rest.takeWhile fun point => !isBracket point)
        else none := by
  have hcheck : (fun point : CodePoint => decide (point ≠ '[') && decide (point ≠ ']'))
      = fun point => !isBracket point := by
    funext point
    simp [isBracket]
  simp only [tag?, hcheck, head?_drop_takeWhile, Bool.not_not, Bool.and_eq_true,
    decide_eq_true_eq]

/-- The word of a tag ends at its bracket. -/
theorem takeWhile_word (h : ∀ point ∈ word, isBracket point = false) (rest : Text)
    : (word ++ .scalar ']' :: rest).takeWhile (fun point => !isBracket point) = word := by
  rw [List.takeWhile_append_of_pos (by simpa using h), List.takeWhile_cons_of_neg (by decide),
    List.append_nil]

/-- A tag starts with a bracket. -/
theorem tag?_of_ne (h : point ≠ '[') (rest : Text) : tag? (point :: rest) = none := by
  unfold tag?
  split
  · rename_i he
    exact absurd (List.cons.inj he).1 h
  · rfl

/-- One code point is no tag. -/
theorem tag?_single (point : CodePoint) : tag? [point] = none := by
  unfold tag?
  split
  · rename_i he
    exact absurd (List.cons.inj he).2 nofun
  · rfl

/-- No word of a tag starts with a bracket. -/
theorem startsTag_of_isBracket (h : isBracket point = true) : startsTag point = false := by
  simp only [isBracket, Bool.or_eq_true, decide_eq_true_eq] at h
  rcases h with rfl | rfl <;> rfl

/-- A tag has its word. -/
theorem tag?_tagged (h : IsTagWord word) (rest : Text) : tag? (tagged 0 word rest) = some word := by
  cases word with
  | nil => exact absurd h.starts nofun
  | cons first inner =>
      have hinner : ∀ point ∈ inner, isBracket point = false := fun point hm =>
        h.plain point (List.mem_cons_of_mem first hm)
      have hfind : (inner ++ .scalar ']' :: rest).find? isBracket = some (.scalar ']') :=
        List.find?_eq_some_iff_append.mpr ⟨rfl, inner, rest, rfl, by simpa using hinner⟩
      change tag? (.scalar '[' :: first :: (inner ++ .scalar ']' :: rest)) = _
      rw [tag?_bracket, if_pos ⟨h.starts, hfind⟩, takeWhile_word hinner]

/-- Where there is a tag, the text starts with its word in brackets. -/
theorem exists_of_tag? (h : tag? text = some word)
    : IsTagWord word ∧ ∃ rest, text = tagged 0 word rest := by
  match text with
  | [] => exact absurd h nofun
  | [point] => exact absurd ((tag?_single point).symm.trans h) nofun
  | point :: first :: rest =>
      by_cases hp : point = '['
      · subst hp
        rw [tag?_bracket] at h
        split at h
        · rename_i hfound
          obtain ⟨_, inner, behind, rfl, hinner⟩ := List.find?_eq_some_iff_append.mp hfound.2
          have hplain : ∀ point ∈ inner, isBracket point = false := by simpa using hinner
          rw [takeWhile_word hplain] at h
          obtain rfl := Option.some.inj h
          refine ⟨⟨hfound.1, ?_⟩, behind, rfl⟩
          intro point hm
          rcases List.mem_cons.mp hm with rfl | hm
          · cases hb : isBracket point with
            | false => rfl
            | true => exact absurd hfound.1 (by rw [startsTag_of_isBracket hb]; nofun)
          · exact hplain point hm
        · exact absurd h nofun
      · exact absurd ((tag?_of_ne hp _).symm.trans h) nofun

/-- A backslash in front of a text is one more in front of its tag. -/
theorem guardedTag?_backslash (text : Text)
    : guardedTag? (.scalar '\\' :: text)
      = (guardedTag? text).map fun found => (found.1 + 1, found.2) := by
  simp only [guardedTag?]
  rw [List.takeWhile_cons_of_pos (by decide), List.length_cons, List.drop_succ_cons,
    Option.map_map]
  rfl

/-- Without a slash in front of it, a tag is guarded by none. -/
theorem guardedTag?_of_ne (h : point ≠ '\\') (rest : Text)
    : guardedTag? (point :: rest) = (tag? (point :: rest)).map fun word => (0, word) := by
  simp only [guardedTag?]
  rw [List.takeWhile_cons_of_neg (by simpa using h)]
  rfl

/-- A tag behind slashes is found with their number. -/
theorem guardedTag?_tagged (h : IsTagWord word) (slashes : Nat) (rest : Text)
    : guardedTag? (tagged slashes word rest) = some (slashes, word) := by
  induction slashes with
  | zero =>
      have htag : guardedTag? (tagged 0 word rest)
          = (tag? (tagged 0 word rest)).map fun word => (0, word) :=
        guardedTag?_of_ne (by decide) _
      rw [htag, tag?_tagged h]
      rfl
  | succ slashes ih =>
      have hstep : tagged (slashes + 1) word rest = .scalar '\\' :: tagged slashes word rest := rfl
      rw [hstep, guardedTag?_backslash, ih]
      rfl

/-- A text with a guarded tag at its front consists of that tag and a rest, by induction over the
backslashes. -/
theorem exists_of_guardedTag? (h : guardedTag? text = some (slashes, word))
    : IsTagWord word ∧ ∃ rest, text = tagged slashes word rest := by
  induction text generalizing slashes with
  | nil => exact absurd h nofun
  | cons point text ih =>
      by_cases hp : point = '\\'
      · subst hp
        rw [guardedTag?_backslash] at h
        obtain ⟨⟨count, inner⟩, hfound, he⟩ := Option.map_eq_some_iff.mp h
        obtain ⟨rfl, rfl⟩ := Prod.mk.inj he
        obtain ⟨hword, rest, rfl⟩ := ih hfound
        exact ⟨hword, rest, rfl⟩
      · rw [guardedTag?_of_ne hp] at h
        obtain ⟨inner, hfound, he⟩ := Option.map_eq_some_iff.mp h
        obtain ⟨rfl, rfl⟩ := Prod.mk.inj he
        exact exists_of_tag? hfound

end Tags

-----------------------------------------------------------------------------------------
-- Escaping guards every tag of a text
-----------------------------------------------------------------------------------------

section Guard

/-- Guarding skips what has been read. -/
theorem guard_eq_drop (skip : Nat) (text : Text) : guard skip text = guard 0 (text.drop skip) := by
  induction text generalizing skip with
  | nil => rw [List.drop_nil]; rfl
  | cons point rest ih =>
      cases skip with
      | zero => rfl
      | succ skip => exact ih skip

/-- A code point in front of no tag stays as it is when tags are guarded. -/
theorem guard_of_none (h : guardedTag? (point :: rest) = none)
    : guard 0 (point :: rest) = point :: guard 0 rest := by
  rw [guard, if_neg (fun hn => hn rfl), h]

/-- A tag is as long as its slashes, its word and two brackets. -/
theorem length_tagged (slashes : Nat) (word rest : Text)
    : (tagged slashes word rest).length = slashes + word.length + 2 + rest.length := by
  simp only [tagged, backslashes, List.length_append, List.length_replicate, List.length_cons]
  omega

/-- Behind a tag is what follows it. -/
theorem drop_tagged (slashes : Nat) (word rest : Text)
    : (tagged slashes word rest).drop (slashes + word.length + 2) = rest := by
  have hsplit : tagged slashes word rest
      = (backslashes slashes ++ .scalar '[' :: (word ++ [.scalar ']'])) ++ rest := by
    simp only [tagged, List.append_assoc, List.cons_append, List.nil_append]
  rw [hsplit, List.drop_left']
  simp only [backslashes, List.length_append, List.length_replicate, List.length_cons,
    List.length_nil]
  omega

/-- A tag is guarded by more backslashes than stand in front of it already. -/
theorem guard_tagged (h : IsTagWord word) (slashes : Nat) (rest : Text)
    : guard 0 (tagged slashes word rest) = tagged (2 * slashes + 1) word (guard 0 rest) := by
  have hfound := guardedTag?_tagged h slashes rest
  have hdrop := drop_tagged slashes word rest
  cases ht : tagged slashes word rest with
  | nil => cases slashes <;> exact absurd ht nofun
  | cons point behind =>
      rw [ht] at hfound hdrop
      rw [guard, if_neg (fun hn => hn rfl), hfound]
      simp only [guard_eq_drop (slashes + word.length + 1)]
      rw [List.drop_succ_cons] at hdrop
      rw [hdrop]
      simp only [tagged, List.append_assoc]
      rfl

/-- Induction over a text that goes over each guarded tag at once. -/
theorem guard_induct {motive : Text → Prop} (nil : motive [])
    (tag : ∀ slashes word rest, IsTagWord word → motive rest → motive (tagged slashes word rest))
    (plain : ∀ point rest, guardedTag? (point :: rest) = none → motive rest
      → motive (point :: rest))
    (text : Text)
    : motive text := by
  match text with
  | [] => exact nil
  | point :: rest =>
      cases hfound : guardedTag? (point :: rest) with
      | none => exact plain point rest hfound (guard_induct nil tag plain rest)
      | some found =>
          obtain ⟨hword, behind, he⟩ := exists_of_guardedTag? hfound
          have hlength : behind.length < (point :: rest).length := by
            rw [he, length_tagged]
            omega
          rw [he]
          exact tag _ _ behind hword (guard_induct nil tag plain behind)
termination_by text.length
decreasing_by
  · exact Nat.lt_succ_self rest.length
  · exact hlength

/-- The first bracket of a text stays the first one. -/
theorem find?_guard (text : Text) : (guard 0 text).find? isBracket = text.find? isBracket := by
  have hslashes : ∀ slashes word rest, (tagged slashes word rest).find? isBracket
      = some (.scalar '[') := by
    intro slashes word rest
    refine List.find?_eq_some_iff_append.mpr ⟨rfl, backslashes slashes, _, rfl, ?_⟩
    intro point hm
    obtain rfl := List.eq_of_mem_replicate hm
    rfl
  induction text using guard_induct with
  | nil => rfl
  | tag slashes word rest hword ih => rw [guard_tagged hword, hslashes, hslashes]
  | plain point rest hnone ih => rw [guard_of_none hnone, List.find?_cons, List.find?_cons, ih]

/-- Without a bracket there is no tag. -/
theorem guardedTag?_of_not_mem (h : .scalar '[' ∉ text) : guardedTag? text = none := by
  cases hfound : guardedTag? text with
  | none => rfl
  | some found =>
      obtain ⟨_, rest, rfl⟩ := exists_of_guardedTag? hfound
      exact absurd (List.mem_append_right _ List.mem_cons_self) h

/-- Guarding what stands behind a bracket that opens no tag makes no tag of it: the first bracket
behind it stays the same, and a backslash that comes to stand behind it starts no word. -/
theorem tag?_guard (htail : ∀ point ∈ tail, isBracket point = false)
    (h : tag? (.scalar '[' :: rest) = none)
    : tag? (.scalar '[' :: (guard 0 rest ++ tail)) = none := by
  have hfindTail : tail.find? isBracket = none := List.find?_eq_none.mpr (by simpa using htail)
  have hend : ∀ tail : Text, tail.find? isBracket = none → tag? (.scalar '[' :: tail) = none := by
    intro tail hfind
    cases tail with
    | nil => exact tag?_single _
    | cons first behind =>
        rw [tag?_bracket, if_neg]
        rintro ⟨-, hclosed⟩
        rw [List.find?_cons] at hfind
        split at hfind
        · exact absurd hfind nofun
        · exact absurd (hfind.symm.trans hclosed) nofun
  cases rest with
  | nil => exact hend tail hfindTail
  | cons first behind =>
      -- Only a guarded tag right behind the bracket changes the code point that stands there.
      cases hfound : guardedTag? (first :: behind) with
      | some found =>
          obtain ⟨hword, behind', he⟩ := exists_of_guardedTag? hfound
          rw [he, guard_tagged hword]
          change tag? (.scalar '[' :: .scalar '\\' :: _) = none
          rw [tag?_bracket, if_neg]
          rintro ⟨hstarts, -⟩
          exact absurd hstarts (by decide)
      | none =>
          rw [guard_of_none hfound, List.cons_append, tag?_bracket, if_neg]
          rintro ⟨hstarts, hclosed⟩
          rw [List.find?_append, find?_guard, hfindTail, Option.or_none] at hclosed
          rw [tag?_bracket, if_pos ⟨hstarts, hclosed⟩] at h
          exact absurd h nofun

/-- Where a text has no tag at its front, it has none after guarding, by induction over the
backslashes at its front. -/
theorem guardedTag?_guard (htail : ∀ point ∈ tail, isBracket point = false)
    (h : guardedTag? text = none)
    : guardedTag? (guard 0 text ++ tail) = none := by
  induction text with
  | nil =>
      refine guardedTag?_of_not_mem fun hm => ?_
      exact absurd (htail _ hm) (by decide)
  | cons point rest ih =>
      rw [guard_of_none h, List.cons_append]
      by_cases hp : point = '\\'
      · subst hp
        rw [guardedTag?_backslash, Option.map_eq_none_iff] at h ⊢
        exact ih h
      · rw [guardedTag?_of_ne hp, Option.map_eq_none_iff] at h ⊢
        by_cases hb : point = '['
        · subst hb
          exact tag?_guard htail h
        · exact tag?_of_ne hb _

end Guard

-----------------------------------------------------------------------------------------
-- Guarded tags are plain text
-----------------------------------------------------------------------------------------

section Pieces

/-- The piece is no tag. -/
def Piece.IsPlain (piece : Piece) : Prop := ∃ text, piece = .plain text

/-- Reading skips what has been read. -/
theorem pieces_eq_drop (position skip : Nat) (before text : Text)
    : pieces position skip before text = pieces (position + skip) 0 before (text.drop skip) := by
  induction text generalizing position skip with
  | nil => rw [List.drop_nil]; rfl
  | cons point rest ih =>
      cases skip with
      | zero => rfl
      | succ skip =>
          rw [pieces, if_pos (Nat.succ_ne_zero skip), Nat.add_sub_cancel, ih, List.drop_succ_cons]
          congr 1
          omega

/-- A tag takes half of the backslashes in front of it for its own, and behind an odd number of them
it is plain text. -/
theorem pieces_guarded (h : IsTagWord word) (slashes position : Nat) (before rest : Text)
    : pieces position 0 before (tagged slashes word rest)
      = .plain before.reverse :: .plain (backslashes (slashes / 2))
        :: (if slashes % 2 = 1 then .plain ("[" ++ word ++ "]") else .tag (position + slashes) word)
        :: pieces (position + (slashes + word.length + 2)) 0 [] rest := by
  have hfound := guardedTag?_tagged h slashes rest
  have hdrop := drop_tagged slashes word rest
  cases ht : tagged slashes word rest with
  | nil => cases slashes <;> exact absurd ht nofun
  | cons point behind =>
      rw [ht] at hfound hdrop
      rw [List.drop_succ_cons] at hdrop
      rw [pieces, if_neg (fun hn => hn rfl), hfound]
      simp only [pieces_eq_drop (position + 1), hdrop]
      congr 4
      omega

/-- A tag behind an odd number of backslashes is shown as it is. -/
theorem pieces_tagged (h : IsTagWord word) (count position : Nat) (before rest : Text)
    : ∃ position' slashes,
        pieces position 0 before (tagged (2 * count + 1) word rest)
          = .plain before.reverse :: .plain slashes :: .plain ("[" ++ word ++ "]")
            :: pieces position' 0 [] rest := by
  have hodd : (2 * count + 1) % 2 = 1 := by omega
  exact ⟨_, _, (pieces_guarded h _ position before rest).trans (by rw [if_pos hodd])⟩

/-- Without a tag at its front, a text only adds to the plain text in front of it. -/
theorem pieces_of_none (h : guardedTag? (point :: rest) = none) (position : Nat) (before : Text)
    : ∃ before',
        pieces position 0 before (point :: rest) = pieces (position + 1) 0 before' rest := by
  rw [pieces, if_neg (fun hn => hn rfl), h]
  simp only
  split
  · exact ⟨before, rfl⟩
  · exact ⟨point :: before, rfl⟩

/-- Without a bracket there are plain pieces only. -/
theorem isPlain_pieces_of_not_mem (h : .scalar '[' ∉ text) (position : Nat) (before : Text)
    : ∀ piece ∈ pieces position 0 before text, piece.IsPlain := by
  induction text generalizing position before with
  | nil =>
      intro piece hm
      exact ⟨_, List.mem_singleton.mp hm⟩
  | cons point rest ih =>
      obtain ⟨before', he⟩ := pieces_of_none (guardedTag?_of_not_mem h) position before
      rw [he]
      exact ih (fun hm => h (List.mem_cons_of_mem point hm)) (position + 1) before'

/-- No piece of a guarded text is a tag, by induction over the text. -/
theorem isPlain_pieces_guard (htail : ∀ point ∈ tail, isBracket point = false) (text : Text)
    (position : Nat) (before : Text)
    : ∀ piece ∈ pieces position 0 before (guard 0 text ++ tail), piece.IsPlain := by
  induction text using guard_induct generalizing position before with
  | nil =>
      refine isPlain_pieces_of_not_mem (fun hm => ?_) position before
      exact absurd (htail _ hm) (by decide)
  | tag slashes word rest hword ih =>
      have happend : tagged (2 * slashes + 1) word (guard 0 rest) ++ tail
          = tagged (2 * slashes + 1) word (guard 0 rest ++ tail) := by
        simp only [tagged, List.append_assoc, List.cons_append]
      obtain ⟨position', shown, he⟩ := pieces_tagged hword slashes position before
        (guard 0 rest ++ tail)
      rw [guard_tagged hword, happend, he]
      intro piece hm
      simp only [List.mem_cons] at hm
      rcases hm with rfl | rfl | rfl | hm
      · exact ⟨_, rfl⟩
      · exact ⟨_, rfl⟩
      · exact ⟨_, rfl⟩
      · exact ih position' [] piece hm
  | plain point rest hnone ih =>
      have hguarded := guardedTag?_guard htail hnone
      rw [guard_of_none hnone, List.cons_append] at hguarded ⊢
      obtain ⟨before', he⟩ := pieces_of_none hguarded position before
      rw [he]
      exact ih (position + 1) before'

/-- A text is plain as a whole if no tag starts in it and none of its backslashes is in front of a
bracket. -/
theorem pieces_append_of_none
    (h
      : ∀ point behind, point :: behind <:+ text
          → guardedTag? (point :: (behind ++ rest)) = none
            ∧ ¬(point = '\\' ∧ (behind ++ rest).head? = some (.scalar '[')))
    (position : Nat) (before : Text)
    : pieces position 0 before (text ++ rest)
      = pieces (position + text.length) 0 (text.reverse ++ before) rest := by
  induction text generalizing position before with
  | nil => rfl
  | cons point text ih =>
      obtain ⟨hnone, hkept⟩ := h point text List.suffix_rfl
      rw [List.cons_append, pieces, if_neg (fun hn => hn rfl), hnone]
      simp only [Bool.and_eq_true, decide_eq_true_eq, hkept, if_false]
      rw [ih fun inner behind hs => h inner behind (hs.trans (List.suffix_cons point text)),
        List.length_cons, List.reverse_cons, List.append_assoc, Nat.add_right_comm, Nat.add_assoc]
      rfl

/-- Words without brackets and backslashes in front of a text are plain text before it. -/
theorem pieces_append {words : Text} (h : ∀ point ∈ words, point ≠ '[' ∧ point ≠ '\\')
    (position : Nat) (before text : Text)
    : pieces position 0 before (words ++ text)
      = pieces (position + words.length) 0 (words.reverse ++ before) text := by
  refine pieces_append_of_none (fun point behind hs => ?_) position before
  obtain ⟨hbracket, hslash⟩ := h point (hs.subset List.mem_cons_self)
  rw [guardedTag?_of_ne hslash, tag?_of_ne hbracket]
  exact ⟨rfl, fun hescaped => hslash hescaped.1⟩

/-- No piece of an escaped text is a tag, with words in front of it that are no markup. -/
theorem isPlain_pieces_escape {words : Text} (h : ∀ point ∈ words, point ≠ '[' ∧ point ≠ '\\')
    (text : Text)
    : ∀ piece ∈ pieces 0 0 [] (words ++ escape text), piece.IsPlain := by
  have hescape : ∃ tail : Text, (∀ point ∈ tail, isBracket point = false)
      ∧ escape text = guard 0 text ++ tail := by
    simp only [escape]
    split
    · exact ⟨"\\", by decide, rfl⟩
    · exact ⟨[], nofun, (List.append_nil _).symm⟩
  obtain ⟨tail, htail, he⟩ := hescape
  rw [pieces_append h, he]
  exact isPlain_pieces_guard htail text _ _

end Pieces

end DeviceScript.Markup
