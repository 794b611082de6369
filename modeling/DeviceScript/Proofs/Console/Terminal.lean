import DeviceScript.Console.Terminal
import DeviceScript.Proofs.Console.Verbatim
import DeviceScript.Proofs.Data.Steps
import DeviceScript.Proofs.Text.Lines
import DeviceScript.Proofs.Text.Unicode

/-! What is asked of a library that prints text with markup. Tags that match are printed without a
fault, the text between tags is shown as it is, in one line where it fits, and an escaped text has no
tags. The library that is there keeps to this.
-/

namespace DeviceScript

namespace Terminal

open Markup

/-- How many columns a console has for the lines of a message, and for the title of a table with
some cells. -/
structure Size where
  message : Nat
  title : List (List Text) → Nat

/-- A text fits in some columns, of which a code point takes two at most. -/
def Fits (width : Nat) (text : Text) : Prop := 2 * text.length ≤ width

/-- Lines without control codes, tabs and line feeds. -/
def IsClean (lines : List Text) : Prop :=
  ∀ line ∈ lines, ∀ point ∈ line, isShown point = true ∧ point ≠ '\t' ∧ point ≠ '\n'

/-- What a library says of itself, with a console of some size that takes all characters. -/
structure Lawful (terminal : Terminal) (size : Size) : Prop where
  /-- Only tags that do not match keep a message from being printed. -/
  matched : ∀ level markup, isMatched [] (pieces 0 0 [] markup) = true
    → ∃ lines, terminal.message level markup = .ok lines
  /-- A message shows the text between its tags, in one line if it fits. -/
  bare : ∀ level markup lines, terminal.message level markup = .ok lines
    → IsReadable markup → Fits size.message markup
    → lines = [Markup.bare (pieces 0 0 [] markup)]
  /-- Control codes are not shown, and spaces are put in the place of tabs. -/
  clean : ∀ level markup lines, terminal.message level markup = .ok lines → IsClean lines
  /-- Nothing in an escaped text is a tag. -/
  tagless : ∀ (words text : Text), (∀ point ∈ words, point ≠ '[' ∧ point ≠ '\\')
    → ∀ piece ∈ pieces 0 0 [] (words ++ terminal.escape text), piece.IsPlain
  /-- To escape a text is to put backslashes in it. -/
  slashes : ∀ text, ∀ point ∈ terminal.escape text, point ∈ text ∨ point = .scalar '\\'
  /-- An escaped text is shown as it is, line by line if the lines fit. -/
  escaped : ∀ level words text, IsNeutral words → IsLegible text
    → (∀ line ∈ (words ++ text).lines, Fits size.message line)
    → terminal.message level (words ++ terminal.escape text) = .ok (words ++ text).lines
  /-- A table of characters can be printed if all tags match in its title and in its cells. -/
  table : ∀ title rows, (∀ cell ∈ title :: rows.flatten,
      isMatched [] (pieces 0 0 [] cell) = true ∧ cell.IsUnicode)
    → ∃ shown, terminal.table title rows = .ok shown
  /-- A title shows the text between its tags, in one line if it fits. -/
  title : ∀ title rows lines cells, terminal.table title rows = .ok (lines, cells)
    → IsReadable title → Fits (size.title rows) title
    → lines = [Markup.bare (pieces 0 0 [] title)]
  cleanTitle : ∀ title rows lines cells, terminal.table title rows = .ok (lines, cells)
    → IsClean lines

end Terminal

-----------------------------------------------------------------------------------------
-- What the library that is there shows of the pieces that a text is read as
-----------------------------------------------------------------------------------------

/-- A text that names no picture has none put into it, by induction over the text. -/
theorem Emoji.replace_of_unnamed {text : Text} (h : mayName text = false) : replace text = text := by
  unfold replace
  induction text with
  | nil => rfl
  | cons point rest ih =>
      rw [mayName, Bool.or_eq_false_iff] at h
      have hcheck : (fun next : CodePoint => !(decide (next ≠ .scalar ':') && !next.isBlank))
          = fun next => decide (next = .scalar ':') || next.isBlank := by
        funext next
        simp
      have hnext := Markup.head?_drop_takeWhile
        (fun next : CodePoint => decide (next ≠ .scalar ':') && !next.isBlank) rest
      rw [List.head?_drop, hcheck] at hnext
      rw [replaceBehind, if_neg (fun hn => hn rfl)]
      simp only [hnext, h.1, Bool.false_eq_true, if_false, ih h.2]

/-- Without tabs, no spaces are put into a text. -/
theorem Text.expandTabs_of_not_mem {text : Text} (h : .scalar '\t' ∉ text) (column : Nat)
    : expandTabs column text = text := by
  fun_induction expandTabs column text with
  | case1 => rfl
  | case2 column rest next ih => exact absurd List.mem_cons_self h
  | case3 column rest ih => rw [ih (List.not_mem_of_not_mem_cons h)]
  | case4 column point rest _ _ ih => rw [ih (List.not_mem_of_not_mem_cons h)]

/-- Tabs are shown as spaces, and all else as it is. -/
theorem Text.mem_expandTabs {text : Text} {column : Nat} {point : CodePoint}
    (h : point ∈ expandTabs column text)
    : point = ' ' ∨ (point ∈ text ∧ point ≠ '\t') := by
  fun_induction expandTabs column text with
  | case1 => exact absurd h List.not_mem_nil
  | case2 column rest next ih =>
      rcases List.mem_append.mp h with hm | hm
      · exact .inl (List.eq_of_mem_replicate hm)
      · exact (ih hm).imp_right (And.imp_left (List.mem_cons_of_mem _))
  | case3 column rest ih =>
      rcases List.mem_cons.mp h with rfl | hm
      · exact .inr ⟨List.mem_cons_self, by decide⟩
      · exact (ih hm).imp_right (And.imp_left (List.mem_cons_of_mem _))
  | case4 column next rest htab _ ih =>
      rcases List.mem_cons.mp h with rfl | hm
      · exact .inr ⟨List.mem_cons_self, htab⟩
      · exact (ih hm).imp_right (And.imp_left (List.mem_cons_of_mem _))

namespace Markup

variable {text word before words : Text} {tags tags' : List Text} {list : List Piece}
  {position : Nat} {point : CodePoint}

section Showing

/-- What is shown of a plain part. -/
def display (text : Text) : Text := (Emoji.replace text).filter isShown

variable {shown' : Text}

/-- A plain piece is shown in front of what follows. -/
theorem shown_plain (tags : List Text) (text : Text) (list : List Piece)
    : shown tags (.plain text :: list) = (shown tags list).map (display text ++ ·) := by
  rw [shown]
  cases shown tags list <;> rfl

/-- A tag is not shown. -/
theorem shown_tag (h : follow tags position word = .ok tags') (list : List Piece)
    : shown tags (.tag position word :: list) = shown tags' list := by
  rw [shown, h]
  rfl

/-- Without names of pictures, the plain texts are shown but for control codes, whatever the tags
between them are. -/
theorem eq_filter_bare (hnamed : ∀ text, .plain text ∈ list → Emoji.mayName text = false)
    (h : shown tags list = .ok shown')
    : shown' = (bare list).filter isShown := by
  induction list generalizing tags shown' with
  | nil => exact (Except.ok.inj h).symm
  | cons piece list ih =>
      have hrest : ∀ text, .plain text ∈ list → Emoji.mayName text = false := fun text hm =>
        hnamed text (List.mem_cons_of_mem piece hm)
      cases piece with
      | plain text =>
          rw [shown_plain] at h
          cases hs : shown tags list with
          | error fault =>
              rw [hs] at h
              cases h
          | ok behind =>
              rw [hs] at h
              rw [← Except.ok.inj h, ih hrest hs, bare_plain, List.filter_append, display,
                Emoji.replace_of_unnamed (hnamed text List.mem_cons_self)]
      | tag position word =>
          cases hf : follow tags position word with
          | error fault =>
              rw [shown, hf] at h
              cases h
          | ok tags' =>
              rw [shown_tag hf] at h
              exact ih hrest h

/-- Control codes are never shown, by induction over the pieces. -/
theorem isShown_of_mem (h : shown tags list = .ok shown') (hm : point ∈ shown')
    : isShown point = true := by
  induction list generalizing tags shown' with
  | nil =>
      obtain rfl := Except.ok.inj h
      exact absurd hm List.not_mem_nil
  | cons piece list ih =>
      cases piece with
      | plain text =>
          rw [shown_plain] at h
          cases hs : shown tags list with
          | error fault => simp [hs, Except.map] at h
          | ok behind =>
              rw [hs] at h
              obtain rfl := Except.ok.inj h
              rcases List.mem_append.mp hm with hm | hm
              · exact (List.mem_filter.mp hm).2
              · exact ih hs hm
      | tag position word =>
          cases hf : follow tags position word with
          | error fault => simp [shown, hf, bind, Except.bind] at h
          | ok tags' =>
              rw [shown_tag hf] at h
              exact ih h hm

/-- What is visible is no control code, no tab and no line feed. -/
theorem shown_of_isVisible (h : isVisible point = true)
    : isShown point = true ∧ point ≠ '\t' ∧ point ≠ '\n' := by
  cases point with
  | surrogate half => cases h
  | scalar char =>
      simp only [isVisible, Bool.and_eq_true, decide_eq_true_eq] at h
      exact ⟨h.1.1, fun he => h.1.2 (CodePoint.scalar.inj he),
        fun he => h.2 (CodePoint.scalar.inj he)⟩

/-- Legible text is shown as it is, and so is every part of it. -/
theorem IsLegible.display_part (h : IsLegible text) {part : Text} (hi : part <:+: text)
    : display part = part := by
  rw [display, Emoji.replace_of_unnamed (Emoji.mayName_of_infix hi h.unnamed),
    List.filter_eq_self]
  intro point hm
  rcases h.visible point (hi.subset hm) with hvisible | rfl
  · exact (shown_of_isVisible hvisible).1
  · rfl

/-- What is behind a part of a legible text is legible. -/
theorem IsLegible.of_suffix {rest : Text} (h : IsLegible text) (hs : rest <:+ text)
    : IsLegible rest where
  slashless hm := h.slashless (hs.subset hm)
  unnamed := Emoji.mayName_of_infix hs.isInfix h.unnamed
  visible point hm := h.visible point (hs.subset hm)

/-- A guarded text is shown as it is, with the text before it: each tag in it is a piece of its own,
and what stands between two tags is another. By induction over the text. -/
theorem shown_guard (h : IsLegible text) (position : Nat) (before : Text)
    (hbefore : ∀ part, part <+: text → display (before.reverse ++ part) = before.reverse ++ part)
    : shown [] (pieces position 0 before (guard 0 text)) = .ok (before.reverse ++ text) := by
  induction text using guard_induct generalizing position before with
  | nil =>
      have hnone := hbefore [] List.prefix_rfl
      rw [List.append_nil] at hnone ⊢
      change shown [] [.plain before.reverse] = _
      rw [shown_plain, hnone]
      exact congrArg _ (List.append_nil _)
  | tag slashes word rest hword ih =>
      cases slashes with
      | succ slashes => exact absurd List.mem_cons_self h.slashless
      | zero =>
          have hshown : display ("[" ++ word ++ "]") = "[" ++ word ++ "]" := by
            refine h.display_part ⟨[], rest, ?_⟩
            simp [tagged, backslashes, Text.ofString]
          have hnone := hbefore [] (List.nil_prefix)
          have hrest := ih (h.of_suffix (suffix_tagged 0 word rest))
            (position + (1 + word.length + 2)) []
            fun part hp => h.display_part ((hp.isInfix).trans (suffix_tagged 0 word rest).isInfix)
          rw [List.append_nil] at hnone
          rw [guard_tagged hword, pieces_guarded hword]
          change shown [] (_ :: _ :: .plain ("[" ++ word ++ "]") :: _) = _
          rw [shown_plain, shown_plain, shown_plain, hshown, hnone, hrest]
          have hempty : display [] = [] := rfl
          simp [Except.map, hempty, tagged, backslashes, Text.ofString]
  | plain point rest hnone ih =>
      have hslash : point ≠ '\\' := fun hp => h.slashless (hp ▸ List.mem_cons_self)
      have hguarded : guardedTag? (guard 0 (point :: rest) ++ []) = none :=
        guardedTag?_guard (List.forall_mem_nil _) hnone
      rw [List.append_nil, guard_of_none hnone] at hguarded
      have hrest := ih (h.of_suffix (List.suffix_cons point rest)) (position + 1) (point :: before)
      rw [guard_of_none hnone, pieces_cons hguarded, if_neg fun he => hslash he.1, hrest]
      · rw [List.reverse_cons, List.append_assoc, List.singleton_append]
      · intro part hp
        rw [List.reverse_cons, List.append_assoc, List.singleton_append]
        exact hbefore _ (List.cons_prefix_cons.mpr ⟨rfl, hp⟩)

/-- Without backslashes in it, a text does not end with one after guarding. -/
theorem getLast?_guard (h : .scalar '\\' ∉ text)
    : (guard 0 text).getLast? ≠ some (.scalar '\\') := by
  induction text using guard_induct with
  | nil => nofun
  | tag slashes word rest hword ih =>
      have hrest := ih fun hm => h ((suffix_tagged slashes word rest).subset hm)
      have happend : tagged (2 * slashes + 1) word (guard 0 rest)
          = (backslashes (2 * slashes + 1) ++ .scalar '[' :: word)
            ++ .scalar ']' :: guard 0 rest := by
        simp only [tagged, List.append_assoc, List.cons_append]
      rw [guard_tagged hword, happend, List.getLast?_append, List.getLast?_cons, Option.some_or]
      cases hlast : (guard 0 rest).getLast? with
      | none => exact fun he => absurd (Option.some.inj he) (by decide)
      | some last => exact hlast ▸ hrest
  | plain point rest hnone ih =>
      obtain ⟨hpoint, hrest⟩ := List.ne_and_not_mem_of_not_mem_cons h
      rw [guard_of_none hnone, List.getLast?_cons]
      cases hlast : (guard 0 rest).getLast? with
      | none => exact fun he => hpoint (Option.some.inj he).symm
      | some last => exact hlast ▸ ih hrest

/-- Without backslashes there is none to add at the end of an escaped text. -/
theorem escape_eq_guard (h : .scalar '\\' ∉ text) : escape text = guard 0 text := by
  have hends : Text.endsWith (guard 0 text) "\\" = false := by
    rw [Text.endsWith, Bool.eq_false_iff, ne_eq, List.isSuffixOf_iff_suffix]
    rintro ⟨front, he⟩
    exact getLast?_guard h (by rw [← he]; exact List.getLast?_concat)
  simp only [escape, hends, Bool.false_and, Bool.false_eq_true, if_false]

/-- Escaping puts nothing but backslashes into a text, by induction over the text. -/
theorem mem_escape (h : point ∈ escape text) : point ∈ text ∨ point = '\\' := by
  have hguard : point ∈ guard 0 text → point ∈ text ∨ point = '\\' := by
    clear h
    intro h
    induction text using guard_induct with
    | nil => exact .inl h
    | tag slashes word rest hword ih =>
        rw [guard_tagged hword] at h
        simp only [tagged, backslashes, List.mem_append, List.mem_replicate, List.mem_cons] at h ⊢
        rcases h with ⟨-, h⟩ | h | h | h | h
        · exact .inr h
        · exact .inl (.inr (.inl h))
        · exact .inl (.inr (.inr (.inl h)))
        · exact .inl (.inr (.inr (.inr (.inl h))))
        · exact (ih h).imp_left fun hm => .inr (.inr (.inr (.inr hm)))
    | plain first rest hnone ih =>
        rw [guard_of_none hnone] at h
        rcases List.mem_cons.mp h with rfl | h
        · exact .inl List.mem_cons_self
        · exact (ih h).imp_left (List.mem_cons_of_mem first)
  unfold escape at h
  dsimp only at h
  split at h
  · rcases List.mem_append.mp h with h | h
    · exact hguard h
    · exact .inr (List.mem_singleton.mp h)
  · exact hguard h

end Showing

-----------------------------------------------------------------------------------------
-- Tags that match can be followed
-----------------------------------------------------------------------------------------

section Following

/-- The word is made of small letters. -/
def IsSmall (word : Text) : Prop := ∀ point ∈ word, point.between 0x61 0x7A = true

/-- A word of small letters is the name of its tag as a whole. -/
theorem IsSmall.name_eq (h : IsSmall word) : name word = word := by
  unfold name
  induction word with
  | nil => rfl
  | cons point word ih =>
      obtain ⟨hpoint, hword⟩ := List.forall_mem_cons.mp h
      have hne : ('=' : CodePoint) ≠ point := by
        rintro rfl
        exact Bool.false_ne_true hpoint
      have hprefix : List.isPrefixOf ("=" : Text) (point :: word) = false := by
        simp [Text.ofString, List.isPrefixOf, hne]
      rw [Text.before, hprefix, if_neg Bool.false_ne_true, ih hword]

/-- No small letter is blank. -/
theorem IsSmall.isBlank_eq (h : IsSmall word) (hm : point ∈ word) : point.isBlank = false := by
  have hpoint := h point hm
  simp only [CodePoint.between, Bool.and_eq_true, decide_eq_true_eq] at hpoint
  simp only [CodePoint.isBlank, CodePoint.between, Bool.or_eq_false_iff, Bool.and_eq_false_iff,
    decide_eq_false_iff_not]
  omega

/-- There are no blanks around a word of small letters. -/
theorem IsSmall.strip_eq (h : IsSmall word) : word.strip = word := by
  have hdrop : ∀ text : Text, (∀ point ∈ text, point.isBlank = false)
      → text.dropWhile CodePoint.isBlank = text := by
    intro text htext
    cases text with
    | nil => rfl
    | cons point text => rw [List.dropWhile_cons, htext point List.mem_cons_self]; rfl
  rw [Text.strip, hdrop word fun _ hm => h.isBlank_eq hm, hdrop, List.reverse_reverse]
  exact fun _ hm => h.isBlank_eq (List.mem_reverse.mp hm)

/-- An opening tag is open from then on. -/
theorem IsSmall.follow_open (h : IsSmall word) (tags : List Text) (position : Nat)
    : follow tags position word = .ok (ConsoleStyle.normalize word :: tags) := by
  unfold follow
  split
  · exact absurd (h _ List.mem_cons_self) Bool.false_ne_true
  · rw [h.name_eq]

/-- A closing tag closes the innermost open tag of its style, where there is one. -/
theorem IsSmall.follow_close_of_mem (h : IsSmall word) (hne : word ≠ [])
    (hm : ConsoleStyle.normalize word ∈ tags) (position : Nat)
    : follow tags position (.scalar '/' :: word)
      = .ok (tags.erase (ConsoleStyle.normalize word)) := by
  have hcontains : tags.contains (ConsoleStyle.normalize word) = true :=
    List.contains_iff_mem.mpr hm
  have hblank : word.isBlank = false := by
    obtain ⟨point, rest, rfl⟩ := List.exists_cons_of_ne_nil hne
    rw [Text.isBlank, List.all_cons, h.isBlank_eq List.mem_cons_self, Bool.false_and]
  simp only [follow, h.name_eq, h.strip_eq, hblank, Bool.false_eq_true, if_false, hcontains,
    if_true]

/-- A closing tag closes the tag that was opened last if both hold the same word, whatever style it
names. -/
theorem IsSmall.follow_close (h : IsSmall word) (tags : List Text) (position : Nat)
    : follow (ConsoleStyle.normalize word :: tags) position (.scalar '/' :: word) = .ok tags := by
  cases hw : word with
  | nil => rfl
  | cons point rest =>
      rw [← hw, h.follow_close_of_mem (hw ▸ List.cons_ne_nil point rest) List.mem_cons_self,
        List.erase_cons_head]

/-- Matched tags are followed to the end, by induction over the pieces. The open tags are words of
small letters all the while. -/
theorem exists_shown_of_isMatched (htags : ∀ tag ∈ tags, IsSmall tag)
    (h : isMatched tags list = true)
    : ∃ text, shown (tags.map ConsoleStyle.normalize) list = .ok text := by
  fun_induction isMatched tags list with
  | case1 => exact ⟨[], rfl⟩
  | case2 tags plain list ih =>
      obtain ⟨behind, hbehind⟩ := ih htags h
      rw [shown_plain, hbehind]
      exact ⟨_, rfl⟩
  | case3 => cases h
  | case4 position closed list tag outer ih =>
      obtain ⟨htag, houter⟩ := List.forall_mem_cons.mp htags
      simp only [Bool.and_eq_true, decide_eq_true_eq] at h
      obtain ⟨rfl, hmatched⟩ := h
      rw [List.map_cons, shown_tag (htag.follow_close _ _)]
      exact ih houter hmatched
  | case5 tags position word list hopen ih =>
      rw [Bool.and_eq_true, List.all_eq_true] at h
      rw [shown_tag (IsSmall.follow_open h.1 _ _), ← List.map_cons]
      exact ih (List.forall_mem_cons.mpr ⟨h.1, htags⟩) h.2

end Following

end Markup

-----------------------------------------------------------------------------------------
-- The library that is there
-----------------------------------------------------------------------------------------

namespace Terminal

open Markup

variable {markup text : Text}

/-- Markup with matched tags can be shown. -/
theorem exists_shownText (h : isMatched [] (pieces 0 0 [] markup) = true)
    : ∃ shown, shownText markup = .ok shown := by
  obtain ⟨rendered, hrender⟩ := exists_shown_of_isMatched (List.forall_mem_nil _) h
  have hrender : render markup = .ok rendered := hrender
  rw [shownText, hrender]
  exact ⟨_, rfl⟩

/-- What readable markup shows is the text between its tags, in one line. -/
theorem lines_shownText {shown : Text} (hreadable : IsReadable markup)
    (h : shownText markup = .ok shown)
    : shown.lines = [bare (pieces 0 0 [] markup)] := by
  have hvisible : ∀ point ∈ bare (pieces 0 0 [] markup), isVisible point = true := fun point hm =>
    hreadable.visible point (subset_bare_pieces markup hm)
  rw [shownText] at h
  cases hrender : render markup with
  | error fault =>
      rw [hrender] at h
      cases h
  | ok rendered =>
      rw [hrender] at h
      have hbare : rendered = bare (pieces 0 0 [] markup) := by
        rw [eq_filter_bare hreadable.unnamed hrender, List.filter_eq_self]
        exact fun point hm => (shown_of_isVisible (hvisible point hm)).1
      have htab : .scalar '\t' ∉ rendered := fun hm =>
        (shown_of_isVisible (hvisible _ (hbare ▸ hm))).2.1 rfl
      have hfeed : .scalar '\n' ∉ rendered := fun hm =>
        (shown_of_isVisible (hvisible _ (hbare ▸ hm))).2.2 rfl
      rw [← Except.ok.inj h, Text.expandTabs_of_not_mem htab, Text.lines,
        Text.splitAt_of_not_mem hfeed, hbare]

/-- The lines that markup shows are clean. -/
theorem isClean_shownText {shown : Text} (h : shownText markup = .ok shown)
    : IsClean shown.lines := by
  rw [shownText] at h
  cases hrender : render markup with
  | error fault =>
      rw [hrender] at h
      cases h
  | ok rendered =>
      rw [hrender] at h
      obtain rfl := Except.ok.inj h
      intro line hline point hm
      have hfeed : point ≠ '\n' := by
        rintro rfl
        exact Text.not_mem_of_mem_splitAt hline hm
      rcases Text.mem_expandTabs (Text.mem_of_mem_splitAt hline hm) with rfl | ⟨hm, htab⟩
      · exact ⟨by decide, by decide, hfeed⟩
      · exact ⟨isShown_of_mem hrender hm, htab, hfeed⟩

/-- An escaped text is shown as it is behind neutral words. -/
theorem shownText_escape {words : Text} (h : IsNeutral words) (ht : IsLegible text)
    : shownText (words ++ Markup.escape text) = .ok (words ++ text) := by
  have hdisplay : ∀ part, part <+: text
      → display (words.reverse.reverse ++ part) = words.reverse.reverse ++ part := by
    intro part hp
    rw [List.reverse_reverse, display, Emoji.replace_of_unnamed, List.filter_eq_self]
    · intro point hm
      rcases List.mem_append.mp hm with hm | hm
      · exact (shown_of_isVisible (h.visible point hm)).1
      · rcases ht.visible point (hp.subset hm) with hvisible | rfl
        · exact (shown_of_isVisible hvisible).1
        · rfl
    · rw [h.unnamed, Emoji.mayName_of_infix hp.isInfix ht.unnamed]
  have htab : .scalar '\t' ∉ words ++ text := by
    intro hm
    rcases List.mem_append.mp hm with hm | hm
    · exact (shown_of_isVisible (h.visible _ hm)).2.1 rfl
    · rcases ht.visible _ hm with hvisible | he
      · exact (shown_of_isVisible hvisible).2.1 rfl
      · exact absurd he (by decide)
  have hrender : render (words ++ Markup.escape text) = .ok (words ++ text) := by
    rw [render, h.pieces_append, escape_eq_guard ht.slashless,
      shown_guard ht words.length words.reverse hdisplay, List.reverse_reverse]
  rw [shownText, hrender]
  exact congrArg Except.ok (Text.expandTabs_of_not_mem htab 0)

/-- The lines of a message are those of what its markup shows. -/
theorem exists_of_message {level : LogLevel} {lines : List Text}
    (h : standard.message level markup = .ok lines)
    : ∃ shown, shownText markup = .ok shown ∧ lines = shown.lines := by
  cases hshown : shownText markup with
  | error fault => simp only [standard, hshown, Except.map, reduceCtorEq] at h
  | ok shown =>
      simp only [standard, hshown, Except.map, Except.ok.injEq] at h
      exact ⟨shown, rfl, h.symm⟩

/-- The lines of a title are those of what its markup shows. -/
theorem exists_of_table {title : Text} {rows cells : List (List Text)} {lines : List Text}
    (h : standard.table title rows = .ok (lines, cells))
    : ∃ shown, shownText title = .ok shown ∧ lines = shown.lines := by
  obtain ⟨shownRows, -, h⟩ := exists_of_bind_eq_ok h
  obtain ⟨shown, hshown, h⟩ := exists_of_bind_eq_ok h
  exact ⟨shown, hshown, (Prod.mk.inj (Except.ok.inj h)).1.symm⟩

/-- The library that is there keeps to all of this on a console of any size. -/
theorem standard_lawful (size : Size) : standard.Lawful size where
  matched level markup h := by
    obtain ⟨shown, hshown⟩ := exists_shownText h
    exact ⟨shown.lines, congrArg (Except.map Text.lines) hshown⟩
  bare level markup lines h hreadable _ := by
    obtain ⟨shown, hshown, rfl⟩ := exists_of_message h
    exact lines_shownText hreadable hshown
  clean level markup lines h := by
    obtain ⟨shown, hshown, rfl⟩ := exists_of_message h
    exact isClean_shownText hshown
  tagless words text h := isPlain_pieces_escape h text
  slashes text point hm := mem_escape hm
  escaped level words text h ht _ :=
    congrArg (Except.map Text.lines) (shownText_escape h ht)
  table title rows h := by
    obtain ⟨cells, hcells⟩ : ∃ cells, rows.mapM (fun row => row.mapM shownText) = .ok cells := by
      refine exists_mapM fun row hrow => exists_mapM fun cell hcell => exists_shownText ?_
      exact (h cell (List.mem_cons_of_mem _ (List.mem_flatten.mpr ⟨row, hrow, hcell⟩))).1
    obtain ⟨shown, hshown⟩ := exists_shownText (h title List.mem_cons_self).1
    simp only [standard, hcells, hshown]
    exact ⟨_, rfl⟩
  title title rows lines cells h hreadable _ := by
    obtain ⟨shown, hshown, rfl⟩ := exists_of_table h
    exact lines_shownText hreadable hshown
  cleanTitle title rows lines cells h := by
    obtain ⟨shown, hshown, rfl⟩ := exists_of_table h
    exact isClean_shownText hshown

end Terminal

end DeviceScript
