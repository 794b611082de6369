import DeviceScript.Proofs.Console.Pieces

/-! Text that markup holds as it is: what stands between the tags of a style, and what has been
escaped. Names of pictures, tabs and control codes are shown otherwise also where there is no
markup.
-/

namespace DeviceScript

namespace Emoji

/-- Tells whether a text may name a picture: whether a colon in it has another one behind it, with
no blank between the two. -/
def mayName : Text → Bool
  | [] => false
  | point :: rest =>
    let next? := rest.find? fun (next : CodePoint) => next = ':' || next.isBlank
    (point = ':' && next? = some (.scalar ':')) || mayName rest

/-- A part of a text names no picture that the whole does not name, by induction over the text. -/
theorem mayName_of_infix {part text : Text} (hi : part <:+: text) (h : mayName text = false)
    : mayName part = false := by
  induction text generalizing part with
  | nil => rw [List.infix_nil.mp hi, mayName]
  | cons point text ih =>
      rw [mayName, Bool.or_eq_false_iff] at h
      rcases List.infix_cons_iff.mp hi with hp | hi
      · cases part with
        | nil => rfl
        | cons first part =>
            obtain ⟨rfl, behind, rfl⟩ := List.cons_prefix_cons.mp hp
            have hpart := ih ((List.prefix_append part behind).isInfix) h.2
            rw [mayName, hpart, Bool.or_false, ← h.1, List.find?_append]
            -- A colon that is found in the part is also the first one that is found behind it.
            cases hf : part.find? fun next => decide (next = .scalar ':') || next.isBlank with
            | none =>
                have hfirst := h.1
                rw [List.find?_append, hf] at hfirst
                rw [Option.none_or] at hfirst ⊢
                rw [hfirst]
                simp
            | some found => rfl
      · exact ih hi h.2

end Emoji

namespace Markup

variable {text word rest before : Text} {point : CodePoint}

-----------------------------------------------------------------------------------------
-- The texts that markup holds as they are
-----------------------------------------------------------------------------------------

/-- Tells whether a code point is shown as it is wherever it stands in a line. -/
def isVisible : CodePoint → Bool
  | .scalar char => isShown char && char ≠ '\t' && char ≠ '\n'
  | .surrogate _ => false

/-- A text stands for itself where no markup follows. -/
structure IsPlain (text : Text) : Prop where
  free : IsFree text
  unnamed : Emoji.mayName text = false
  visible : ∀ point ∈ text, isVisible point = true

/-- Words stand for themselves, whatever stands around them. -/
structure IsNeutral (words : Text) : Prop where
  literal : ∀ point ∈ words, point ≠ '[' ∧ point ≠ '\\'
  unnamed : ∀ text, Emoji.mayName (words ++ text) = Emoji.mayName text
  visible : ∀ point ∈ words, isVisible point = true

/-- A text stands for itself once it has been escaped, brackets included. Backslashes are another
matter: in front of a bracket that opens no tag one is lost, and at the end one is added. -/
structure IsLegible (text : Text) : Prop where
  slashless : .scalar '\\' ∉ text
  unnamed : Emoji.mayName text = false
  visible : ∀ point ∈ text, isVisible point = true ∨ point = '\n'

/-- Markup in which nothing but its tags is shown as something else. -/
structure IsReadable (markup : Text) : Prop where
  unnamed : ∀ text, .plain text ∈ pieces 0 0 [] markup → Emoji.mayName text = false
  visible : ∀ point ∈ markup, isVisible point = true

/-- Tells whether the tags among some pieces are words of small letters, and each closing tag names
the one that was opened last. -/
def isMatched (tags : List Text) : List Piece → Bool
  | [] => true
  | .plain _ :: list => isMatched tags list
  | .tag _ (.scalar '/' :: closed) :: list =>
    match tags with
    | [] => false
    | tag :: outer => tag = closed && isMatched outer list
  | .tag _ word :: list =>
    word.all (fun point => point.between 0x61 0x7A) && isMatched (word :: tags) list

/-- A tag of this style is closed by the tag with a slash. -/
structure IsStyleName (style : Text) : Prop where
  word : IsTagWord style
  letters : ∀ point ∈ style, point.between 0x61 0x7A = true

/-- Some texts in the markup of a style, each with the words behind it. -/
def enclosed (style : Text) (parts : List (Text × Text)) : Text :=
  parts.flatMap fun part =>
    tagged 0 style (part.1 ++ tagged 0 (.scalar '/' :: style) part.2)

/-- The same texts and words without the markup. -/
def revealed (parts : List (Text × Text)) : Text := parts.flatMap fun part => part.1 ++ part.2

section Words

variable {words words' : Text}

/-- Neutral words one after the other are neutral. -/
theorem IsNeutral.append (h : IsNeutral words) (h' : IsNeutral words')
    : IsNeutral (words ++ words') where
  literal := List.forall_mem_append.mpr ⟨h.literal, h'.literal⟩
  unnamed text := by rw [List.append_assoc, h.unnamed, h'.unnamed]
  visible := List.forall_mem_append.mpr ⟨h.visible, h'.visible⟩

/-- Neutral words come first among the pieces of what they stand in front of. -/
theorem IsNeutral.pieces_append (h : IsNeutral words) (text : Text)
    : pieces 0 0 [] (words ++ text) = pieces words.length 0 words.reverse text := by
  rw [Markup.pieces_append h.literal, Nat.zero_add, List.append_nil]

/-- No style is named by anything but letters. -/
theorem IsStyleName.not_mem (h : IsStyleName word) (hpoint : point.between 0x61 0x7A = false)
    : point ∉ word := by
  intro hm
  exact Bool.false_ne_true (hpoint.symm.trans (h.letters point hm))

/-- The word of a closing tag is a slash and the name of the style. -/
theorem IsStyleName.closing (h : IsStyleName word) : IsTagWord (.scalar '/' :: word) where
  starts := rfl
  plain point hm := by
    rcases List.mem_cons.mp hm with rfl | hm
    · rfl
    · exact h.word.plain point hm

/-- Without tags there is nothing to match. -/
theorem isMatched_of_isPlain {list : List Piece} (h : ∀ piece ∈ list, piece.IsPlain)
    (tags : List Text)
    : isMatched tags list = true := by
  induction list with
  | nil => rfl
  | cons piece list ih =>
      obtain ⟨text, rfl⟩ := h piece List.mem_cons_self
      exact ih fun inner hm => h inner (List.mem_cons_of_mem _ hm)

end Words

-----------------------------------------------------------------------------------------
-- What the pieces of a text are made of
-----------------------------------------------------------------------------------------

section Reading

variable {position : Nat} {words : Text}

/-- A plain piece is made of the text that is read, apart from the first, which the text before it
comes to. -/
theorem subset_of_plain_mem_pieces {part : Text} (h : .plain part ∈ pieces position 0 before text)
    : part ⊆ text ∨ ∃ behind, part = before.reverse ++ behind ∧ behind ⊆ text := by
  induction text using guard_induct generalizing position before with
  | nil =>
      refine .inr ⟨[], ?_, List.nil_subset _⟩
      rw [List.append_nil]
      exact Piece.plain.inj (List.mem_singleton.mp h)
  | tag slashes word rest hword ih =>
      have hrest : rest ⊆ tagged slashes word rest := (suffix_tagged slashes word rest).subset
      rw [pieces_guarded hword] at h
      simp only [List.mem_cons, Piece.plain.injEq] at h
      rcases h with rfl | rfl | hpart | hm
      · exact .inr ⟨[], (List.append_nil _).symm, List.nil_subset _⟩
      · refine .inl fun point hp => List.mem_append_left _ ?_
        obtain ⟨hne, rfl⟩ := List.mem_replicate.mp hp
        exact List.mem_replicate.mpr ⟨by omega, rfl⟩
      · split at hpart
        · obtain rfl := Piece.plain.inj hpart
          refine .inl fun point hp => List.mem_append_right _ ?_
          simp [Text.ofString] at hp ⊢
          exact hp.imp_right (Or.imp_right Or.inl)
        · cases hpart
      · rcases ih hm with hs | ⟨behind, rfl, hs⟩
        · exact .inl (List.Subset.trans hs hrest)
        · exact .inl (List.Subset.trans hs hrest)
  | plain point rest hnone ih =>
      have hrest : rest ⊆ point :: rest := List.subset_cons_self point rest
      rw [pieces_cons hnone] at h
      rcases ih h with hs | ⟨behind, rfl, hs⟩
      · exact .inl (List.Subset.trans hs hrest)
      · split
        · exact .inr ⟨behind, rfl, List.Subset.trans hs hrest⟩
        · refine .inr ⟨point :: behind, ?_, List.cons_subset_cons point hs⟩
          rw [List.reverse_cons, List.append_assoc, List.singleton_append]

/-- All that is left of a text without its tags is in the text. -/
theorem subset_bare_pieces (text : Text) : bare (pieces 0 0 [] text) ⊆ text := by
  intro point hm
  obtain ⟨piece, hpiece, hp⟩ := List.mem_flatMap.mp hm
  cases piece with
  | tag _ _ => cases hp
  | plain part =>
      rcases subset_of_plain_mem_pieces hpiece with hs | ⟨behind, rfl, hs⟩
      · exact hs hp
      · exact hs hp

end Reading

-----------------------------------------------------------------------------------------
-- Plain text behind words
-----------------------------------------------------------------------------------------

section Plain

variable {words : Text}

end Plain

-----------------------------------------------------------------------------------------
-- Text between the tags of a style
-----------------------------------------------------------------------------------------

section Lines

variable {style words : Text} {parts : List (Text × Text)}

/-- What is behind a tag is behind it in the whole text. -/
theorem tagged_append (slashes : Nat) (word rest rest' : Text)
    : tagged slashes word rest ++ rest' = tagged slashes word (rest ++ rest') := by
  simp only [tagged, List.append_assoc, List.cons_append]

/-- The markup of several texts begins with that of the first. -/
theorem enclosed_cons (style : Text) (part : Text × Text) (parts : List (Text × Text))
    : enclosed style (part :: parts)
      = tagged 0 style
          (part.1 ++ tagged 0 (.scalar '/' :: style) (part.2 ++ enclosed style parts)) := by
  rw [enclosed, List.flatMap_cons, tagged_append, List.append_assoc, tagged_append]
  rfl

/-- Without the markup, the first text is followed by its words. -/
theorem revealed_cons (part : Text × Text) (parts : List (Text × Text))
    : revealed (part :: parts) = part.1 ++ (part.2 ++ revealed parts) := by
  rw [revealed, List.flatMap_cons, List.append_assoc]
  rfl

/-- Enclosed texts cost two brackets each, and no backslash. -/
theorem count_enclosed (hs : IsStyleName style) (parts : List (Text × Text))
    : (enclosed style parts).count (.scalar '\\') = (revealed parts).count (.scalar '\\')
      ∧ (enclosed style parts).count (.scalar '[')
        = (revealed parts).count (.scalar '[') + 2 * parts.length := by
  induction parts with
  | nil => exact ⟨rfl, rfl⟩
  | cons part parts ih =>
      obtain ⟨hslashes, hbrackets⟩ := ih
      have hstyle : style.count (.scalar '\\') = 0 :=
        List.count_eq_zero.mpr (hs.not_mem (by decide))
      have hclosing : (.scalar '/' :: style : Text).count (.scalar '\\') = 0 := by
        rw [List.count_cons_of_ne (by decide), hstyle]
      rw [enclosed_cons, revealed_cons]
      simp only [count_tagged_slash, count_tagged_bracket hs.word, count_tagged_bracket hs.closing,
        List.count_append, List.length_cons, hclosing, hstyle, hslashes, hbrackets]
      omega

end Lines

end Markup

end DeviceScript
