import DeviceScript.Proofs.Cpp.Container
import DeviceScript.Proofs.Cpp.Numeral
import DeviceScript.Proofs.Cpp.Scanning

/-! Phrases of C++: texts that stand on one line and hold no semicolon outside their strings, so that
a reader of lines can tell where they end.
-/

namespace DeviceScript.Cpp

/-- Where a reader stands: outside strings, in one, or behind a backslash in one. -/
inductive Place where
  | outside | inside | escaped
  deriving DecidableEq

def Place.next : Place → CodePoint → Place
  | outside, point => if point = '"' then inside else outside
  | inside, point =>
    if point = '"' then outside else if point = '\\' then escaped else inside
  | escaped, _ => inside

/-- The pieces of a text between the semicolons outside its strings. -/
def pieces (place : Place) : Text → List Text
  | [] => [[]]
  | point :: rest =>
    if place = .outside ∧ point = ';' then [] :: pieces .outside rest
    else (pieces (place.next point) rest).modifyHead (point :: ·)

/-- The place behind a text, unless there is a line feed in it or a semicolon outside
its strings. -/
def walk (place : Place) : Text → Option Place
  | [] => some place
  | point :: rest =>
    if point = '\n' ∨ place = .outside ∧ point = ';' then none
    else walk (place.next point) rest

/-- A text is walked through part by part. -/
theorem walk_append (place : Place) (first second : Text)
    : walk place (first ++ second) = (walk place first).bind (walk · second) := by
  induction first generalizing place with
  | nil => rfl
  | cons point rest ih =>
      rw [List.cons_append, walk, walk]
      split
      · rfl
      · exact ih _

/-- A text that can be walked over stands on one line, by induction over the text. -/
theorem not_mem_of_walk {place place' : Place} {text : Text} (h : walk place text = some place')
    : .scalar '\n' ∉ text := by
  induction text generalizing place with
  | nil => exact List.not_mem_nil
  | cons point rest ih =>
      rw [walk] at h
      split at h
      · exact absurd h nofun
      · rename_i hp
        rw [List.mem_cons, not_or]
        exact ⟨fun he => hp (.inl he.symm), ih h⟩

/-- A text that can be walked over is one piece, by induction over the text. -/
theorem pieces_of_walk {place place' : Place} {text : Text} (h : walk place text = some place')
    : pieces place text = [text] := by
  induction text generalizing place with
  | nil => rfl
  | cons point rest ih =>
      rw [walk] at h
      split at h
      · exact absurd h nofun
      · rename_i hp
        rw [pieces, if_neg fun hs => hp (.inr hs), ih h]
        rfl

/-- A semicolon behind a text that leads out of strings ends a piece, by induction over the text. -/
theorem pieces_append {place : Place} {text : Text} (h : walk place text = some .outside)
    (rest : Text)
    : pieces place (text ++ .scalar ';' :: rest) = text :: pieces .outside rest := by
  induction text generalizing place with
  | nil =>
      obtain rfl := Option.some.inj h
      rw [List.nil_append, pieces, if_pos ⟨rfl, rfl⟩]
  | cons point tail ih =>
      rw [walk] at h
      split at h
      · exact absurd h nofun
      · rename_i hp
        rw [List.cons_append, pieces, if_neg fun hs => hp (.inr hs), ih h]
        rfl

-----------------------------------------------------------------------------------------
-- Texts without a semicolon outside their strings
-----------------------------------------------------------------------------------------

/-- A text that does not end in a semicolon. -/
def IsUnended (text : Text) : Prop := text.getLast? ≠ some (.scalar ';')

/-- Nothing is dropped from a text that does not end in the mark. -/
theorem IsUnended.dropTrailing_eq {text : Text} (h : IsUnended text)
    : Text.dropTrailing ';' text = text := by
  rw [IsUnended, List.getLast?_eq_head?_reverse] at h
  rw [Text.dropTrailing]
  cases hr : text.reverse with
  | nil => exact (List.reverse_eq_nil_iff.mp hr).symm
  | cons last before =>
      rw [hr] at h
      have hlast : last ≠ .scalar ';' := fun he => h (congrArg some he)
      rw [List.dropWhile_cons_of_neg (by simpa using hlast), ← hr, List.reverse_reverse]

/-- A text on one line whose strings all end, without a semicolon outside them. -/
def IsQuiet (text : Text) : Prop := walk .outside text = some .outside

instance : DecidablePred IsQuiet := fun text =>
  inferInstanceAs (Decidable (walk .outside text = some .outside))

/-- Two quiet texts are quiet side by side. -/
theorem IsQuiet.append {first second : Text} (h : IsQuiet first) (h' : IsQuiet second)
    : IsQuiet (first ++ second) := by
  rw [IsQuiet, walk_append, h]
  exact h'

/-- A quiet text has no line feed. -/
theorem IsQuiet.not_mem {text : Text} (h : IsQuiet text) : .scalar '\n' ∉ text := not_mem_of_walk h

/-- A quiet text does not end in a semicolon. -/
theorem IsQuiet.isUnended {text : Text} (h : IsQuiet text) : IsUnended text := by
  intro hl
  obtain ⟨before, rfl⟩ := List.getLast?_eq_some_iff.mp hl
  rw [IsQuiet, walk_append] at h
  obtain ⟨place, _, hp⟩ := Option.bind_eq_some_iff.mp h
  cases place <;> exact absurd hp (by decide)

/-- A quiet text is all of one piece. -/
theorem IsQuiet.pieces_eq {text : Text} (h : IsQuiet text) : pieces .outside text = [text] :=
  pieces_of_walk h

/-- A code point that neither ends a statement or a line nor starts a string. -/
def IsPlain (point : CodePoint) : Prop := point ≠ '"' ∧ point ≠ ';' ∧ point ≠ '\n'

/-- A text without quotes, semicolons and line feeds is quiet. -/
theorem isQuiet_of_isPlain {text : Text} (h : ∀ point ∈ text, IsPlain point) : IsQuiet text := by
  induction text with
  | nil => rfl
  | cons point rest ih =>
      obtain ⟨hquote, hsemicolon, hfeed⟩ := h point List.mem_cons_self
      rw [IsQuiet, walk, if_neg (not_or.mpr ⟨hfeed, fun hs => hsemicolon hs.2⟩), Place.next,
        if_neg hquote]
      exact ih fun point hm => h point (List.mem_cons_of_mem _ hm)

/-- Quiet texts behind a quiet separator each are quiet. -/
theorem isQuiet_flatMap {separator : Text} (hs : IsQuiet separator) {texts : List Text}
    (h : ∀ text ∈ texts, IsQuiet text)
    : IsQuiet (texts.flatMap (separator ++ ·)) := by
  induction texts with
  | nil => rfl
  | cons first rest ih =>
      rw [List.flatMap_cons]
      refine (hs.append (h first List.mem_cons_self)).append (ih fun text hm => ?_)
      exact h text (List.mem_cons_of_mem _ hm)

/-- Quiet texts with a quiet separator between them are quiet. -/
theorem isQuiet_join {separator : Text} (hs : IsQuiet separator) {texts : List Text}
    (h : ∀ text ∈ texts, IsQuiet text)
    : IsQuiet (Text.join separator texts) := by
  cases texts with
  | nil => rfl
  | cons first rest =>
      rw [Text.join_cons]
      refine (h first List.mem_cons_self).append (isQuiet_flatMap hs fun text hm => ?_)
      exact h text (List.mem_cons_of_mem _ hm)

-----------------------------------------------------------------------------------------
-- Quiet texts that start with something that can be seen
-----------------------------------------------------------------------------------------

/-- A text without the blanks in front of it. -/
def trimmed (text : Text) : Text := text.dropWhile isBlank

/-- A quiet text that starts with something that can be seen. -/
structure IsPhrase (text : Text) : Prop where
  quiet : IsQuiet text
  opens : text.head?.any (fun point => !isBlank point) = true

namespace IsPhrase

variable {text : Text} (h : IsPhrase text)

include h

/-- A phrase goes on with any quiet text. -/
theorem append {rest : Text} (h' : IsQuiet rest) : IsPhrase (text ++ rest) where
  quiet := h.quiet.append h'
  opens := by
    obtain ⟨_, opens⟩ := h
    cases text with
    | nil => exact absurd opens Bool.false_ne_true
    | cons point tail => exact opens

/-- A phrase is not empty. -/
theorem ne_nil : text ≠ [] := by
  rintro rfl
  exact absurd h.opens Bool.false_ne_true

/-- No blanks are in front of a phrase. -/
theorem trimmed_append (rest : Text) : trimmed (text ++ rest) = text ++ rest := by
  obtain ⟨_, opens⟩ := h
  cases text with
  | nil => exact absurd opens Bool.false_ne_true
  | cons point tail =>
      refine List.dropWhile_cons_of_neg fun hb => ?_
      have hpoint : (!isBlank point) = true := opens
      rw [hb] at hpoint
      exact Bool.false_ne_true hpoint

/-- A phrase is trimmed as it is. -/
theorem trimmed_eq : trimmed text = text := by
  have happend := h.trimmed_append []
  rwa [List.append_nil] at happend

/-- A blank in front of a phrase is all that is trimmed. -/
theorem trimmed_blank : trimmed (" " ++ text) = text := h.trimmed_eq

end IsPhrase

/-- A phrase, or nothing. -/
structure IsSlot (text : Text) : Prop where
  quiet : IsQuiet text
  trimmed_eq : trimmed text = text

/-- Nothing may stand in a slot. -/
theorem isSlot_nil : IsSlot [] := ⟨rfl, rfl⟩

/-- A phrase may stand in a slot. -/
theorem IsPhrase.isSlot {text : Text} (h : IsPhrase text) : IsSlot text :=
  ⟨h.quiet, h.trimmed_eq⟩

/-- Only parts of words stand in a word. -/
theorem isWordPart_of_mem {name : Text} (h : IsWord name) {point : CodePoint} (hm : point ∈ name)
    : isWordPart point = true := by
  obtain ⟨first, rest, rfl, hf, hr⟩ := h
  rcases List.mem_cons.mp hm with rfl | hm
  · exact Bool.or_eq_true_iff.mpr (.inl hf)
  · exact hr point hm

/-- A word is a phrase. -/
theorem isPhrase_word {name : Text} (h : IsWord name) : IsPhrase name := by
  constructor
  · refine isQuiet_of_isPlain fun point hm => ?_
    have hpart := isWordPart_of_mem h hm
    refine ⟨?_, ?_, ?_⟩ <;> rintro rfl <;> exact absurd hpart (by decide)
  · obtain ⟨first, rest, rfl, hf, _⟩ := h
    change (!isBlank first) = true
    rw [isBlank_eq_false (.inl hf)]
    rfl

/-- A numeral is a phrase. -/
theorem isPhrase_numeral {spelling : Text} (h : IsNumeral spelling) : IsPhrase spelling := by
  obtain ⟨first, rest, rfl, hf, hr, _⟩ := h
  have hplain : ∀ spelling point, extendsNumber spelling point = true → IsPlain point := by
    intro spelling point hp
    refine ⟨?_, ?_, ?_⟩ <;> rintro rfl <;> exact absurd hp (by simp [extendsNumber]; decide)
  constructor
  · refine isQuiet_of_isPlain fun point hm => ?_
    rcases List.mem_cons.mp hm with rfl | hm
    · refine ⟨?_, ?_, ?_⟩ <;> rintro rfl <;> exact absurd hf (by decide)
    · obtain ⟨before, after, he⟩ := List.append_of_mem hm
      exact hplain _ point (hr before point after he)
  · change (!isBlank first) = true
    rw [isBlank_eq_false (.inr hf)]
    rfl

/-- An integer is a phrase. -/
theorem isPhrase_ofInt (number : Int) : IsPhrase (Text.ofInt number) := by
  cases number with
  | ofNat number => exact isPhrase_numeral (isNumeral_ofNat number)
  | negSucc number =>
      have hsign : IsPhrase "-" := ⟨rfl, rfl⟩
      exact hsign.append (isPhrase_numeral (isNumeral_ofNat (number + 1))).quiet

/-- A finite double is a phrase. -/
theorem isPhrase_real (negative : Bool) (size : Magnitude)
    : IsPhrase (Fragment.real (.finite negative size)) := by
  have hdecimal := isPhrase_numeral (isNumeral_ofDecimal Numeral.layout size.shortest)
  have hspelling : IsPhrase (Numeral.ofBinary64 (.finite negative size)) := by
    cases negative with
    | false => exact hdecimal
    | true =>
        have hsign : IsPhrase "-" := ⟨rfl, rfl⟩
        exact hsign.append hdecimal.quiet
  unfold Fragment.real
  split
  · split
    · exact isPhrase_ofInt _
    · exact hspelling
  · exact hspelling

/-- The spelling of a code point in a string ends in that string. -/
theorem walk_encodePoint (point : CodePoint)
    : walk .inside (Text.Quoted.encodePoint point) = some .inside := by
  have hcodes : ∀ code < 128, walk .inside ("\\" ++ Text.padded 8 3 code) = some .inside := by
    decide +kernel
  have hline : CodePoint.IsControl '\n' := by decide
  have hspelled := encodes_encodePoint point
  generalize Text.Quoted.encodePoint point = spelling at hspelled
  cases hspelled with
  | @letter letter known visible =>
      have hl : letter ≠ '\n' := fun he => visible (he ▸ hline)
      have hbehind : walk .escaped [letter] = some .inside := by
        rw [walk, if_neg (not_or.mpr ⟨hl, fun hs => nomatch hs.1⟩)]
        rfl
      exact hbehind
  | number small => exact hcodes point.value small
  | itself apart apart' visible =>
      have hp : point ≠ '\n' := fun he => visible (he ▸ hline)
      rw [walk, if_neg (not_or.mpr ⟨hp, fun hs => nomatch hs.1⟩), Place.next, if_neg apart,
        if_neg apart']
      rfl

/-- A string is a phrase, whatever is in it. -/
theorem isPhrase_string (value : Text) : IsPhrase (Text.Quoted.encode value) := by
  have hinside : walk .inside (value.flatMap Text.Quoted.encodePoint) = some .inside := by
    induction value with
    | nil => rfl
    | cons point rest ih => rw [List.flatMap_cons, walk_append, walk_encodePoint, Option.bind_some, ih]
  refine ⟨?_, rfl⟩
  rw [Text.Quoted.encode, List.append_assoc, IsQuiet, walk_append]
  change walk .inside (value.flatMap Text.Quoted.encodePoint ++ "\"") = some .outside
  rw [walk_append, hinside]
  rfl

end DeviceScript.Cpp
