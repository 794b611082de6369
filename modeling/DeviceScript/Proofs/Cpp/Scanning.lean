import DeviceScript.Proofs.Cpp.Legible
import DeviceScript.Proofs.Cpp.StringLiteral

/-! Scanning of spellings: the tokens of the spelling of an expression are the tokens of the
expression, whatever text follows that does not go on with the last of them.
-/

namespace DeviceScript.Cpp

/-- A text in front of another one has the given tokens. -/
def Scans (text : Text) (tokens : List Token) (rest : Text) : Prop :=
  scan .idle (text ++ rest) = (tokens ++ ·) <$> scan .idle rest

/-- Texts are scanned one behind the other. -/
theorem Scans.append {first second rest : Text} {tokens tokens' : List Token}
    (h : Scans first tokens (second ++ rest)) (h' : Scans second tokens' rest)
    : Scans (first ++ second) (tokens ++ tokens') rest := by
  unfold Scans at *
  rw [List.append_assoc, h, h']
  cases scan .idle rest with
  | none => rfl
  | some tokens'' => exact congrArg some (List.append_assoc tokens tokens' tokens'').symm

/-- A code point that starts a token is scanned as its start. -/
theorem scan_start {point : CodePoint} {next : Partial} (rest : Text)
    (h : Partial.start? point = some next)
    : scan .idle (point :: rest) = scan next rest := by
  have hi : Partial.idle.extend? point = none := rfl
  have hf : Partial.idle.finish = some [] := rfl
  simp only [scan, hi, hf, h, Option.bind_eq_bind, Option.bind_some]
  cases scan next rest <;> rfl

/-- A blank in front of a text changes nothing in its tokens. -/
theorem Scans.blank {text rest : Text} {tokens : List Token} (h : Scans text tokens rest)
    : Scans (" " ++ text) tokens rest := by
  have hstart : scan .idle (.scalar ' ' :: (text ++ rest)) = scan .idle (text ++ rest) :=
    scan_start _ rfl
  exact hstart.trans h

-----------------------------------------------------------------------------------------
-- Words, numbers and marks
-----------------------------------------------------------------------------------------

/-- Parts of a word are read into it, by induction over them. -/
theorem scan_wordParts (name rest : Text) {parts : Text}
    (h : ∀ point ∈ parts, isWordPart point = true)
    : scan (.word name) (parts ++ rest) = scan (.word (name ++ parts)) rest := by
  induction parts generalizing name with
  | nil => rw [List.nil_append, List.append_nil]
  | cons point parts ih =>
      have hpoint : Partial.extend? (.word name) point = some (.word (name ++ [point])) :=
        if_pos (h point List.mem_cons_self)
      rw [List.cons_append, scan_extend _ hpoint,
        ih _ fun point hm => h point (List.mem_cons_of_mem _ hm), List.append_assoc]
      rfl

/-- Blanks start no word and no number. -/
theorem isBlank_eq_false {point : CodePoint}
    (h : isWordStart point = true ∨ point.isDecimal = true)
    : isBlank point = false := by
  cases hb : isBlank point with
  | false => rfl
  | true =>
      simp only [isBlank, Bool.or_eq_true, decide_eq_true_eq] at hb
      rcases hb with (rfl | rfl) | rfl <;> exact absurd h (by decide)

/-- A decimal digit is between zero and nine. -/
theorem value_of_isDecimal {point : CodePoint} (h : point.isDecimal = true)
    : 0x30 ≤ point.value ∧ point.value ≤ 0x39 := by
  unfold CodePoint.isDecimal CodePoint.decimal? at h
  split at h
  · rename_i hb
    simpa only [CodePoint.between, Bool.and_eq_true, decide_eq_true_eq] using hb
  · exact absurd h nofun

/-- A digit starts no word. -/
theorem isWordStart_of_isDecimal {point : CodePoint} (h : point.isDecimal = true)
    : isWordStart point = false := by
  obtain ⟨hl, hu⟩ := value_of_isDecimal h
  cases hw : isWordStart point with
  | false => rfl
  | true =>
      simp only [isWordStart, CodePoint.between, Bool.or_eq_true, Bool.and_eq_true,
        decide_eq_true_eq] at hw
      rcases hw with (((hw | hw) | rfl) | rfl) | hw
      · omega
      · omega
      · exact absurd h (by decide)
      · exact absurd h (by decide)
      · omega

/-- A word in front of something else is a word. -/
theorem scans_word {name rest : Text} (h : IsWord name)
    (apart : ∀ point ∈ rest.head?, isWordPart point = false)
    : Scans name [.word name] rest := by
  obtain ⟨first, parts, rfl, hf, hp⟩ := h
  have hblank : isBlank first = false := isBlank_eq_false (.inl hf)
  have hstart : Partial.start? first = some (.word [first]) := by
    simp only [Partial.start?, hblank, hf, Bool.false_eq_true, if_false, if_true]
  unfold Scans
  rw [List.cons_append, scan_start _ hstart, scan_wordParts [first] rest hp]
  refine scan_break rfl fun point hm => ?_
  exact if_neg (by rw [apart point hm]; exact Bool.false_ne_true)

/-- The rest of a number is read into it, by induction over that rest. -/
theorem scan_numberParts (spelling rest : Text) {parts : Text}
    (h : ∀ before point after, parts = before ++ point :: after
      → extendsNumber (spelling ++ before) point = true)
    : scan (.number spelling) (parts ++ rest) = scan (.number (spelling ++ parts)) rest := by
  induction parts generalizing spelling with
  | nil => rw [List.nil_append, List.append_nil]
  | cons point parts ih =>
      have hpoint : Partial.extend? (.number spelling) point
          = some (.number (spelling ++ [point])) := by
        have := h [] point parts rfl
        rw [List.append_nil] at this
        exact if_pos this
      rw [List.cons_append, scan_extend _ hpoint, ih, List.append_assoc]
      · rfl
      · intro before point' after heq
        rw [List.append_assoc]
        exact h (point :: before) point' after (by rw [heq]; rfl)

/-- A numeral in front of something else is a number. -/
theorem scans_number {spelling rest : Text} (h : IsNumeral spelling)
    (apart : ∀ point ∈ rest.head?, isWordPart point = false ∧ point ≠ '.')
    : Scans spelling [.number spelling] rest := by
  obtain ⟨first, parts, rfl, hf, hp, hs⟩ := h
  have hstart : Partial.start? first = some (.number [first]) := by
    simp only [Partial.start?, isBlank_eq_false (.inr hf), isWordStart_of_isDecimal hf, hf,
      Bool.false_eq_true, if_false, if_true]
  unfold Scans
  rw [List.cons_append, scan_start _ hstart, scan_numberParts [first] rest hp]
  refine scan_break rfl fun point hm => if_neg ?_
  obtain ⟨hw, hd⟩ := apart point hm
  change ¬ extendsNumber (first :: parts) point = true
  simp only [extendsNumber, hw, hd, hs, Bool.and_false, Bool.or_false, decide_false,
    Bool.false_eq_true, not_false_eq_true]

/-- A mark that nothing goes on with. -/
abbrev IsClosed (mark : Text) : Prop := mark ≠ "." ∧ ∀ longer ∈ marks, longer.dropLast ≠ mark

/-- The rest of a mark is read into it, by induction over that rest. -/
theorem scan_markParts (mark rest : Text) {parts : Text}
    (h : ∀ count < parts.length, mark ++ parts.take (count + 1) ∈ marks)
    : scan (.mark mark) (parts ++ rest) = scan (.mark (mark ++ parts)) rest := by
  induction parts generalizing mark with
  | nil => rw [List.nil_append, List.append_nil]
  | cons point parts ih =>
      have hpoint : Partial.extend? (.mark mark) point = some (.mark (mark ++ [point])) :=
        if_pos (h 0 (Nat.succ_pos _))
      rw [List.cons_append, scan_extend _ hpoint, ih, List.append_assoc]
      · rfl
      · intro count hlt
        rw [List.append_assoc]
        exact h (count + 1) (Nat.succ_lt_succ hlt)

/-- A mark is read as one mark, as all its beginnings are marks. -/
theorem scan_mark {mark : Text} (rest : Text) (h : mark ∈ marks)
    : scan .idle (mark ++ rest) = scan (.mark mark) rest := by
  have hbeginnings : ∀ mark ∈ marks, ∀ count < mark.tail.length,
      mark.take 1 ++ mark.tail.take (count + 1) ∈ marks := by
    decide
  have hstart : ∀ mark ∈ marks, ∀ first ∈ mark.head?,
      Partial.start? first = some (.mark [first]) := by
    decide
  cases mark with
  | nil => exact absurd h (by decide)
  | cons first parts =>
      rw [List.cons_append, scan_start _ (hstart _ h first rfl)]
      exact scan_markParts [first] rest (hbeginnings _ h)

/-- A mark in front of what does not go on with it is that mark. -/
theorem scans_mark {mark rest : Text} (h : mark ∈ marks)
    (apart : ∀ point ∈ rest.head?,
      mark ++ [point] ∉ marks ∧ (mark = "." → point.isDecimal = false))
    : Scans mark [.mark mark] rest := by
  unfold Scans
  rw [scan_mark rest h]
  refine scan_break rfl fun point hm => ?_
  obtain ⟨hl, hd⟩ := apart point hm
  simp only [Partial.extend?, hl, if_false]
  refine if_neg ?_
  rw [Bool.and_eq_true, decide_eq_true_eq]
  rintro ⟨rfl, hpoint⟩
  exact Bool.false_ne_true ((hd rfl).symm.trans hpoint)

/-- A mark that nothing goes on with is that mark, whatever follows. -/
theorem scans_closed {mark : Text} (known : mark ∈ marks) (closed : IsClosed mark) (rest : Text)
    : Scans mark [.mark mark] rest := by
  refine scans_mark known fun point _ => ⟨fun hm => ?_, fun he => absurd he closed.1⟩
  exact closed.2 _ hm List.dropLast_concat

/-- The marks around and between parts of an expression, which nothing goes on with. -/
def brackets : List Text := ["\x7b", "\x7d", "(", ")", "[", "]", "::"]

/-- A bracket is a mark, whatever follows. -/
theorem scans_bracket {mark : Text} (h : mark ∈ brackets) (rest : Text)
    : Scans mark [.mark mark] rest := by
  have hclosed : ∀ mark ∈ brackets, mark ∈ marks ∧ IsClosed mark := by decide
  exact scans_closed (hclosed mark h).1 (hclosed mark h).2 rest

/-- A mark ends in front of a blank. -/
theorem Scans.spaced {mark text rest : Text} {tokens : List Token} (h : Scans text tokens rest)
    (known : mark ∈ marks)
    : Scans (mark ++ (" " ++ text)) (.mark mark :: tokens) rest := by
  refine (scans_mark known ?_).append h.blank
  rintro point ⟨⟩
  have hnone : ∀ mark ∈ marks, mark.getLast? ≠ some (.scalar ' ') := by decide
  exact ⟨fun hl => hnone _ hl List.getLast?_concat, fun _ => rfl⟩

/-- An encoded text is a string, whatever follows. -/
theorem scans_string (value rest : Text)
    : Scans (Text.Quoted.encode value) [.string value] rest := by
  have hopen : scan .idle (Text.Quoted.encode value ++ rest)
      = scan (.string [] .plain)
          (value.flatMap Text.Quoted.encodePoint ++ "\"" ++ rest) := by
    rw [Text.Quoted.encode, List.append_assoc, List.append_assoc, List.append_assoc]
    exact scan_start _ rfl
  unfold Scans
  rw [hopen, scan_after rest (Partial.after?_encoded [] value)]
  exact scan_break rfl fun _ _ => rfl

namespace Tree

/-- The operators between two operands are marks of ten levels. -/
theorem binaryStrength?_le {operator : Text} {level : Nat}
    (h : binaryStrength? operator = some level)
    : 1 ≤ level ∧ level ≤ 10 ∧ operator ∈ marks := by
  obtain ⟨index, hi, rfl⟩ := Option.map_eq_some_iff.mp h
  obtain ⟨hlt, hm, _⟩ := List.findIdx?_eq_some_iff_getElem.mp hi
  have hmarks : ∀ operators ∈ binaryLevels, ∀ operator ∈ operators, operator ∈ marks := by decide
  have hlength : binaryLevels.length = 10 := rfl
  exact ⟨Nat.succ_pos _, by omega,
    hmarks _ (List.getElem_mem hlt) operator (of_decide_eq_true hm)⟩

/-- Only a number itself ends in a number without an operator in front of it. -/
theorem endsInNumber_of_strength {indent : Text} {tree : Tree} (h : Legible indent tree)
    (strong : 12 ≤ tree.strength) (apart : tree.isNumber = false)
    : tree.endsInNumber = false := by
  cases h with
  | number _ => exact absurd apart nofun
  | binary known _ _ _ _ =>
      have hle := (binaryStrength?_le known).2.1
      simp only [strength, known, Option.getD_some] at strong
      omega
  | assign _ _ _ _ => exact absurd strong (Nat.not_succ_le_zero _)
  | unary _ _ _ _ => exact absurd strong (Nat.lt_irrefl 11)
  | @update operator operand leading _ _ _ =>
      cases leading with
      | true => exact absurd strong (Nat.lt_irrefl 11)
      | false => rfl
  | _ => rfl

-----------------------------------------------------------------------------------------
-- Where the spelling of an expression may stand
-----------------------------------------------------------------------------------------

/-- A text that starts with a code point which goes on with no operator but itself. -/
def StartsApart (text : Text) : Prop :=
  ∃ point rest, text = point :: rest ∧ point ≠ '=' ∧ point ≠ '>'

/-- What starts apart does so with anything behind it. -/
theorem StartsApart.append {text : Text} (h : StartsApart text) (rest : Text)
    : StartsApart (text ++ rest) := by
  obtain ⟨point, rest', rfl, he, hg⟩ := h
  exact ⟨point, rest' ++ rest, rfl, he, hg⟩

/-- An operator in front of an operand starts apart. -/
theorem startsApart_of_mem {operator : Text} (h : operator ∈ unaryOperators ++ updateOperators)
    (rest : Text)
    : StartsApart (operator ++ rest) := by
  have hoperators : ∀ operator ∈ unaryOperators ++ updateOperators,
      ∃ point ∈ operator.head?, point ≠ '=' ∧ point ≠ '>' := by
    decide
  obtain ⟨point, hp, he, hg⟩ := hoperators operator h
  cases operator with
  | nil => exact absurd hp nofun
  | cons first parts =>
      obtain rfl := Option.some.inj hp
      exact ⟨first, parts ++ rest, rfl, he, hg⟩

/-- The spelling of an expression never makes an operator in front of it longer, unless it starts
with that operator. -/
theorem startsApart_print {indent : Text} {tree : Tree} (h : Legible indent tree)
    : StartsApart (tree.print indent) := by
  induction h with
  | word isWord =>
      obtain ⟨first, rest, rfl, hf, _⟩ := isWord
      simp only [print]
      refine ⟨first, rest, rfl, ?_, ?_⟩ <;> rintro rfl <;> exact absurd hf (by decide)
  | number isNumeral =>
      obtain ⟨first, rest, rfl, hf, _⟩ := isNumeral
      simp only [print]
      refine ⟨first, rest, rfl, ?_, ?_⟩ <;> rintro rfl <;> exact absurd hf (by decide)
  | string value =>
      simp only [print]
      exact ⟨'"', _, rfl, by decide, by decide⟩
  | list _ _ _ =>
      simp only [print]
      split <;> exact ⟨'\x7b', _, rfl, by decide, by decide⟩
  | group _ _ =>
      simp only [print]
      exact ⟨'(', _, rfl, by decide, by decide⟩
  | unary known _ _ _ _ =>
      simp only [print]
      exact startsApart_of_mem (List.mem_append_left _ known) _
  | @update operator operand leading known _ _ ih =>
      simp only [print]
      split
      · exact startsApart_of_mem (List.mem_append_right _ known) _
      · exact ih.append _
  | binary _ _ _ _ _ ih _ | assign _ _ _ _ ih _ | index _ _ _ ih _ =>
      simp only [print, List.append_assoc]
      exact ih.append _
  | call _ _ _ _ ih _ | dot _ _ _ _ ih | scope _ _ _ ih =>
      simp only [print, List.append_assoc]
      exact ih.append _

/-- A text that goes on with no expression in front of it. -/
def Separates (text : Text) : Prop :=
  ∃ point rest, text = point :: rest ∧ isWordPart point = false ∧ point ≠ '.'

/-- What separates follows any tree. -/
theorem Separates.follows {text : Text} (h : Separates text) (tree : Tree) (rest : Text)
    : tree.Follows (text ++ rest) := by
  obtain ⟨point, tail, rfl, hw, hp⟩ := h
  rintro next ⟨⟩
  exact ⟨hw, fun he => absurd he hp⟩

-----------------------------------------------------------------------------------------
-- The tokens of an expression are those of its parts
-----------------------------------------------------------------------------------------

/-- An expression in front of a text that does not go on with it. -/
theorem scans_before {indent : Text} {tree : Tree} {text rest : Text} {after : List Token}
    (expression : ∀ rest, tree.Follows rest → Scans (tree.print indent) tree.tokens rest)
    (h : Scans text after rest) (apart : Separates text)
    : Scans (tree.print indent ++ text) (tree.tokens ++ after) rest :=
  (expression _ (apart.follows tree rest)).append h

/-- A point follows what does not end in a number. -/
theorem follows_point {tree : Tree} (h : tree.endsInNumber = false) (rest : Text)
    : tree.Follows ("." ++ rest) := by
  rintro point ⟨⟩
  exact ⟨by decide, fun _ => h⟩

/-- A point in front of a word, which is no digit. -/
theorem scans_point {name : Text} (h : IsWord name) (rest : Text)
    : Scans "." [.mark "."] (name ++ rest) := by
  obtain ⟨first, parts, rfl, hf, _⟩ := h
  refine scans_mark (by decide) ?_
  rintro point ⟨⟩
  constructor
  · have hlonger : ∀ longer ∈ marks, longer.dropLast = "." → longer.getLast? = some '*' := by
      decide
    intro hm
    have hlast := hlonger _ hm List.dropLast_concat
    rw [List.getLast?_concat] at hlast
    rw [Option.some.inj hlast] at hf
    exact absurd hf (by decide)
  · intro _
    cases hd : first.isDecimal with
    | false => rfl
    | true => exact absurd ((isWordStart_of_isDecimal hd).symm.trans hf) Bool.false_ne_true

/-- An operator in front of an operand that does not start with it. -/
theorem scans_unary {indent : Text} {operator : Text} {operand : Tree}
    (known : operator ∈ unaryOperators) (h : Legible indent operand)
    (apart : (operand.print indent).startsWith operator = false) (rest : Text)
    : Scans operator [.mark operator] (operand.print indent ++ rest) := by
  obtain ⟨point, tail, hprint, he, hg⟩ := startsApart_print h
  have hlonger : ∀ operator ∈ unaryOperators, operator ∈ marks ∧ operator ≠ "."
      ∧ ∀ longer ∈ marks, longer.dropLast = operator
        → longer.getLast? = some '=' ∨ longer.getLast? = some '>'
          ∨ longer.getLast?.toList = operator := by
    decide
  obtain ⟨hmark, hpoint, hlast⟩ := hlonger operator known
  refine scans_mark hmark fun next hm => ⟨fun hin => ?_, fun he => absurd he hpoint⟩
  rw [hprint] at hm apart
  obtain rfl := Option.some.inj hm
  have hcases := hlast _ hin List.dropLast_concat
  rw [List.getLast?_concat] at hcases
  rcases hcases with hcase | hcase | hcase
  · exact he (Option.some.inj hcase)
  · exact hg (Option.some.inj hcase)
  · subst operator
    exact Bool.false_ne_true (apart.symm.trans
      (List.isPrefixOf_iff_prefix.mpr ⟨tail, rfl⟩))

/-- The tokens of a list of expressions in front of the mark that closes it, by induction over the
list. -/
theorem scans_separated {indent : Text} {trees : List Tree} {text rest : Text} {after : List Token}
    (h : ∀ tree ∈ trees, ∀ rest, tree.Follows rest → Scans (tree.print indent) tree.tokens rest)
    (close : Scans text after rest) (apart : Separates text)
    : Scans (Text.join ", " (trees.map (print indent)) ++ text)
        (separated (trees.map tokens) ++ after) rest := by
  match trees, h with
  | [], _ => exact close
  | [tree], h => exact scans_before (h tree List.mem_cons_self) close apart
  | first :: second :: trees, h =>
      have hrest := scans_separated (fun tree hm => h tree (List.mem_cons_of_mem _ hm)) close apart
      have hcomma := hrest.spaced (by decide : (",": Text) ∈ marks)
      have hall := scans_before (h first List.mem_cons_self) hcomma
        ⟨',', _, rfl, by decide, by decide⟩
      simp only [List.map_cons, Text.join, separated, List.append_assoc] at *
      exact hall

/-- The tokens of the spelling of an expression, by induction over the expression. -/
theorem scans_print {indent : Text} {tree : Tree} (h : Legible indent tree) (rest : Text)
    (follows : tree.Follows rest)
    : Scans (tree.print indent) tree.tokens rest := by
  induction h generalizing rest with
  | word isWord =>
      simp only [print, tokens]
      exact scans_word isWord fun point hm => (follows point hm).1
  | number isNumeral =>
      simp only [print, tokens]
      exact scans_number isNumeral fun point hm =>
        ⟨(follows point hm).1, fun he => Bool.noConfusion ((follows point hm).2 he)⟩
  | string value =>
      simp only [print, tokens]
      exact scans_string value rest
  | @list elements _ _ ih =>
      have hopen : ∀ rest, Scans "\x7b" [.mark "\x7b"] rest := scans_bracket (by decide)
      have hclose : ∀ rest, Scans "\x7d" [.mark "\x7d"] rest := scans_bracket (by decide)
      simp only [print, tokens]
      split
      · subst elements
        exact (hopen _).append (hclose rest)
      · have hall := scans_separated ih (hclose rest).blank
          ⟨' ', _, rfl, by decide, by decide⟩
        have hlist := (hopen _).append hall.blank
        simp only [List.append_assoc] at *
        exact hlist
  | group _ ih =>
      have hinner := scans_before ih (scans_bracket (by decide : (")" : Text) ∈ brackets) rest)
        ⟨')', _, rfl, by decide, by decide⟩
      simp only [print, tokens, List.append_assoc]
      exact (scans_bracket (by decide : ("(" : Text) ∈ brackets) _).append hinner
  | @binary operator level left right known _ _ _ _ ih ih' =>
      have hmark := (binaryStrength?_le known).2.2
      have hoperation := ((ih' rest follows).spaced hmark).blank
      have hall := scans_before ih hoperation ⟨' ', _, rfl, by decide, by decide⟩
      simp only [print, tokens, List.append_assoc]
      exact hall
  | @assign operator target value known _ _ _ ih ih' =>
      have hmark : ∀ operator ∈ assignOperators, operator ∈ marks := by decide
      have hoperation := ((ih' rest follows).spaced (hmark operator known)).blank
      have hall := scans_before ih hoperation ⟨' ', _, rfl, by decide, by decide⟩
      simp only [print, tokens, List.append_assoc]
      exact hall
  | unary known legible _ apart ih =>
      simp only [print, tokens]
      exact (scans_unary known legible apart rest).append (ih rest follows)
  | @update operator operand leading known legible _ ih =>
      have hoperators : ∀ operator ∈ updateOperators, operator ∈ marks ∧ IsClosed operator
          ∧ ∃ point ∈ operator.head?, isWordPart point = false ∧ point ≠ '.' := by
        decide
      obtain ⟨hmark, hclosed, hhead⟩ := hoperators operator known
      simp only [print, tokens]
      cases leading with
      | true => exact (scans_closed hmark hclosed _).append (ih rest follows)
      | false =>
          obtain ⟨point, hp, hw, hd⟩ := hhead
          obtain ⟨more, rfl⟩ := List.head?_eq_some_iff.mp hp
          exact scans_before ih (scans_closed hmark hclosed rest) ⟨point, more, rfl, hw, hd⟩
  | call _ _ _ _ ih ih' =>
      have hall := scans_separated ih' (scans_bracket (by decide : (")" : Text) ∈ brackets) rest)
        ⟨')', _, rfl, by decide, by decide⟩
      have hlist := (scans_bracket (by decide : ("(" : Text) ∈ brackets) _).append hall
      have hcall := scans_before ih hlist ⟨'(', _, rfl, by decide, by decide⟩
      simp only [print, tokens, List.append_assoc] at *
      exact hcall
  | index _ _ _ ih ih' =>
      have hposition := scans_before ih' (scans_bracket (by decide : ("]" : Text) ∈ brackets) rest)
        ⟨']', _, rfl, by decide, by decide⟩
      have hlist := (scans_bracket (by decide : ("[" : Text) ∈ brackets) _).append hposition
      have hindex := scans_before ih hlist ⟨'[', _, rfl, by decide, by decide⟩
      simp only [print, tokens, List.append_assoc] at *
      exact hindex
  | @dot object name legible strong apart isWord ih =>
      have hname := (scans_point isWord rest).append
        (scans_word isWord fun point hm => (follows point hm).1)
      -- A point behind a number would be part of it, so there must not be any.
      have hobject : Scans (object.print indent) object.tokens ("." ++ name ++ rest) :=
        ih _ (follows_point (endsInNumber_of_strength legible strong apart) (name ++ rest))
      simp only [print, tokens, List.append_assoc]
      exact hobject.append hname
  | scope _ _ isWord ih =>
      have hname := (scans_bracket (by decide : ("::" : Text) ∈ brackets) _).append
        (scans_word isWord fun point hm => (follows point hm).1)
      have hall := scans_before ih hname ⟨':', _, rfl, by decide, by decide⟩
      simp only [print, tokens, List.append_assoc]
      exact hall

end Tree

end DeviceScript.Cpp
