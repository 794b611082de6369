import DeviceScript.Proofs.Cpp.Numeral
import DeviceScript.Proofs.Cpp.Scanning
import DeviceScript.Proofs.Text.Lines

/-! Numbers that consist of digits alone, among the tokens of a text. Such a number comes of a
numeral in the text only: whatever goes on with a word or with another number has a code point that
is no digit.
-/

namespace DeviceScript.Text

/-- The spelling of a natural number consists of digits. -/
theorem isDecimal_ofNat (number : Nat) : (ofNat number).all CodePoint.isDecimal = true := by
  rw [ofNat, List.all_map, List.all_eq_true]
  exact fun char hm => Cpp.isDecimal_of_isDigit (Cpp.isDigit_toDigits hm)

/-- The value of a digit among hexadecimal digits is its value as a decimal digit. -/
theorem hexadecimal?_of_isDigit {char : Char} (h : char.isDigit = true)
    : (CodePoint.scalar char).hexadecimal? = some (char.toNat - '0'.toNat) := by
  obtain ⟨hl, hu⟩ := Char.isDigit_iff_toNat.mp h
  have hbetween : (CodePoint.scalar char).between 0x30 0x39 = true := by
    rw [CodePoint.between, Bool.and_eq_true, decide_eq_true_eq, decide_eq_true_eq]
    exact ⟨hl, hu⟩
  rw [CodePoint.hexadecimal?, if_pos hbetween]
  rfl

/-- The value of the digits of a number is the number, by induction over the digits. -/
theorem toNat_ofNat (number : Nat) : (ofNat number).toNat 10 = number := by
  have hdigits : ∀ (chars : List Char) (total : Nat), (∀ char ∈ chars, char.isDigit = true)
      → (chars.map CodePoint.scalar).foldl
          (fun total digit => total * 10 + digit.hexadecimal?.getD 0) total
        = Nat.ofDigitChars 10 chars total := by
    intro chars
    induction chars with
    | nil => exact fun _ _ => rfl
    | cons char chars ih =>
      intro total h
      rw [List.map_cons, List.foldl_cons, Nat.ofDigitChars_cons,
        hexadecimal?_of_isDigit (h char List.mem_cons_self), Option.getD_some, Nat.mul_comm]
      exact ih _ fun other hm => h other (List.mem_cons_of_mem _ hm)
  exact (hdigits _ 0 fun _ hm => Cpp.isDigit_toDigits hm).trans
    (Nat.ofDigitChars_toDigits (by decide) (by decide))

/-- Only zero is spelled with a zero in front, by induction over the digits of the number. -/
theorem eq_zero_of_head?_ofNat {number : Nat} (h : (ofNat number).head? = some '0')
    : number = 0 := by
  have hfirst : (Nat.toDigits 10 number).head? = some '0' := by
    rw [ofNat, List.head?_map] at h
    obtain ⟨first, hf, he⟩ := Option.map_eq_some_iff.mp h
    exact hf.trans (congrArg some (CodePoint.scalar.inj he))
  clear h
  induction number using Nat.strongRecOn with
  | ind number ih =>
    by_cases hs : number < 10
    · have hsingle : ∀ digit < 10, Nat.digitChar digit = '0' → digit = 0 := by decide
      rw [Nat.toDigits_of_lt_base hs] at hfirst
      exact hsingle number hs (Option.some.inj hfirst)
    · have hhead := List.head?_eq_some_head (Nat.toDigits_ne_nil (n := number / 10) (b := 10))
      rw [Nat.toDigits_of_base_le (by decide) (Nat.le_of_not_lt hs), List.head?_append, hhead,
        Option.some_or] at hfirst
      have hzero := ih (number / 10) (by omega) (hhead.trans hfirst)
      omega

end DeviceScript.Text

namespace DeviceScript.Cpp

-----------------------------------------------------------------------------------------
-- Which numbers a text spells, and how reading goes on from point to point
-----------------------------------------------------------------------------------------

/-- The spelling of a number that consists of digits alone. -/
def Token.digits? : Token → Option Text
  | number spelling => if spelling.all CodePoint.isDecimal then some spelling else none
  | _ => none

/-- A natural number is a number that consists of digits alone. -/
theorem Token.digits?_ofNat (value : Nat)
    : (number (Text.ofNat value)).digits? = some (Text.ofNat value) :=
  if_pos (Text.isDecimal_ofNat value)

/-- The numbers among some tokens that consist of digits alone. -/
def digits (tokens : List Token) : List Text := tokens.filterMap Token.digits?

/-- The numbers among tokens are found in one part after the other. -/
theorem digits_append (first second : List Token)
    : digits (first ++ second) = digits first ++ digits second :=
  List.filterMap_append

namespace Partial

/-- The tokens that one more code point completes, and what a scanner has read of the next one. -/
def step? (part : Partial) (point : CodePoint) : Option (List Token × Partial) :=
  match part.extend? point with
  | some longer => some ([], longer)
  | none => part.finish.bind fun tokens => (start? point).map fun next => (tokens, next)

/-- The tokens that a text completes, and what a scanner has read of the next one behind it. -/
def run? : Partial → Text → Option (List Token × Partial)
  | part, [] => some ([], part)
  | part, point :: rest =>
    (part.step? point).bind fun (tokens, next) =>
      (next.run? rest).map fun (more, last) => (tokens ++ more, last)

/-- The number that a scanner has read, if it consists of digits alone. -/
def pending (part : Partial) : List Text := digits (part.finish.getD [])

/-- What a scanner has read of a token may be all of it. -/
def IsWhole (part : Partial) : Prop := part.finish.isSome

/-- A word, or a number with something else than digits. -/
inductive IsTainted : Partial → Prop where
  | word (name : Text) : IsTainted (.word name)
  | number {spelling : Text} (h : spelling.all CodePoint.isDecimal = false)
    : IsTainted (.number spelling)

/-- What has been read does not change a numeral that starts here, except by making it part of a
number with something else than digits. -/
inductive IsOpen : Partial → Prop where
  | idle : IsOpen .idle
  | mark (spelling : Text) : IsOpen (.mark spelling)
  | closed (value : Text) : IsOpen (.closed value)
  | number {spelling : Text} (h : spelling.all CodePoint.isDecimal = false)
    : IsOpen (.number spelling)

/-- A word, or a number with something else than digits, is complete as it is. -/
theorem IsTainted.isWhole {part : Partial} (h : part.IsTainted) : part.IsWhole := by
  cases h <;> rfl

/-- What leaves a numeral as it is behind it is complete. -/
theorem IsOpen.isWhole {part : Partial} (h : part.IsOpen) : part.IsWhole := by
  cases h <;> rfl

/-- A number with something else than digits is not waited for. -/
theorem pending_number {spelling : Text} (h : spelling.all CodePoint.isDecimal = false)
    : pending (.number spelling) = [] := by
  change digits [.number spelling] = []
  simp [digits, Token.digits?, h]

/-- No number of digits alone is left to come of a tainted token. -/
theorem IsTainted.pending_eq {part : Partial} (h : part.IsTainted) : part.pending = [] := by
  cases h with
  | word name => rfl
  | number h => exact pending_number h

/-- No number of digits alone is left to come of an open token. -/
theorem IsOpen.pending_eq {part : Partial} (h : part.IsOpen) : part.pending = [] := by
  cases h with
  | number h => exact pending_number h
  | _ => rfl

variable {part next : Partial} {point : CodePoint}

/-- A code point that goes on with a token completes none. -/
theorem step?_of_extend (h : part.extend? point = some next)
    : part.step? point = some ([], next) := by
  simp only [step?, h]

/-- A code point that does not go on with a token completes it and starts the next one. -/
theorem step?_of_break {tokens : List Token} (h : part.extend? point = none)
    (complete : part.finish = some tokens) (started : start? point = some next)
    : part.step? point = some (tokens, next) := by
  simp only [step?, h, complete, started, Option.bind_some, Option.map_some]

/-- A text is read part by part. -/
theorem run?_append (part : Partial) (first second : Text)
    : part.run? (first ++ second)
      = (part.run? first).bind fun (tokens, next) =>
          (next.run? second).map fun (more, last) => (tokens ++ more, last) := by
  induction first generalizing part with
  | nil =>
    simp [run?]
  | cons point first ih =>
    simp only [List.cons_append, run?, ih]
    cases part.step? point with
    | none => rfl
    | some result =>
      obtain ⟨tokens, next⟩ := result
      simp only [Option.bind_some]
      cases next.run? first with
      | none => rfl
      | some result =>
        obtain ⟨more, last⟩ := result
        simp only [Option.bind_some, Option.map_some, Option.map_map]
        congr 1
        funext result
        simp [List.append_assoc]

end Partial

/-- A scan is a run of the scanner whose last token is complete, by induction over the text. -/
theorem scan_eq_run? (part : Partial) (text : Text)
    : scan part text
      = (part.run? text).bind fun (tokens, last) => last.finish.map (tokens ++ ·) := by
  induction text generalizing part with
  | nil => simp [scan, Partial.run?]
  | cons point rest ih =>
    rw [scan, Partial.run?, Partial.step?]
    cases part.extend? point with
    | some longer => simp [ih]
    | none =>
      cases part.finish with
      | none => rfl
      | some tokens =>
        cases Partial.start? point with
        | none => rfl
        | some next =>
          simp only [ih, Option.bind_eq_bind, Option.bind_some, Option.map_some]
          cases next.run? rest with
          | none => rfl
          | some result =>
            obtain ⟨more, last⟩ := result
            cases hf : last.finish <;> simp [hf]

-----------------------------------------------------------------------------------------
-- The numbers that a text spells are those that its parts spell
-----------------------------------------------------------------------------------------

/-- A text leads a scanner from a state to one of a kind, and of the numbers that consist of digits
alone it yields the written ones at most, in their order. -/
def Leads (part : Partial) (after : Partial → Prop) (text : Text) (written : List Text) : Prop :=
  ∃ tokens last, part.run? text = some (tokens, last) ∧ after last
    ∧ (digits tokens ++ last.pending).Sublist (part.pending ++ written)

/-- A text leads a scanner from every state of one kind to a state of another. -/
def Yields (before after : Partial → Prop) (text : Text) (written : List Text) : Prop :=
  ∀ part, before part → Leads part after text written

/-- A text yields the written numbers at most where no digits stand directly in front of it. -/
abbrev YieldsApart (text : Text) (written : List Text) : Prop :=
  Yields Partial.IsOpen Partial.IsWhole text written

namespace Yields

open Partial

variable {before between after : Partial → Prop} {first second text : Text}
  {written written' : List Text}

/-- Nothing to read yields nothing. -/
theorem nil : Yields before before [] [] := by
  intro part h
  refine ⟨[], part, rfl, h, ?_⟩
  rw [List.append_nil]
  exact List.Sublist.refl _

/-- What two texts yield one after the other is yielded by both of them together. -/
theorem append (h : Yields before between first written) (h' : Yields between after second written')
    : Yields before after (first ++ second) (written ++ written') := by
  intro part hpart
  obtain ⟨tokens, next, hrun, hnext, hsub⟩ := h part hpart
  obtain ⟨more, last, hrun', hlast, hsub'⟩ := h' next hnext
  refine ⟨tokens ++ more, last, ?_, hlast, ?_⟩
  · simp only [run?_append, hrun, hrun', Option.bind_some, Option.map_some]
  · have hall := (hsub'.append_left (digits tokens)).trans
      ((List.append_assoc _ _ _) ▸ hsub.append_right written')
    simpa only [digits_append, List.append_assoc] using hall

/-- More numbers may be listed than a text yields. -/
theorem mono (h : Yields before after text written) (hs : written.Sublist written')
    : Yields before after text written' := by
  intro part hpart
  obtain ⟨tokens, last, hrun, hlast, hsub⟩ := h part hpart
  exact ⟨tokens, last, hrun, hlast, hsub.trans (hs.append_left _)⟩

/-- Less may be known before, and more afterwards. -/
theorem imp {before' after' : Partial → Prop} (h : Yields before after text written)
    (hb : ∀ part, before' part → before part) (ha : ∀ part, after part → after' part)
    : Yields before' after' text written := by
  intro part hpart
  obtain ⟨tokens, last, hrun, hlast, hsub⟩ := h part (hb part hpart)
  exact ⟨tokens, last, hrun, ha last hlast, hsub⟩

/-- A text of which every code point keeps a kind of state keeps it, by induction over the text. -/
theorem of_points (h : ∀ point ∈ text, Yields before before [point] [])
    : Yields before before text [] := by
  induction text with
  | nil => exact nil
  | cons point text ih =>
    exact (h point List.mem_cons_self).append
      (ih fun other hm => h other (List.mem_cons_of_mem _ hm))

end Yields

/-- Tells whether a code point is a blank or a mark of its own. -/
def isConnective (point : CodePoint) : Bool := isBlank point || [point] ∈ marks

/-- Tells whether a code point is neither a digit nor a quote. -/
def isInert (point : CodePoint) : Bool := isConnective point || isWordStart point

/-- Marks have no code points that words have. -/
theorem isWordPart_of_mem_mark {mark : Text} (hm : mark ∈ marks) {point : CodePoint}
    (hp : point ∈ mark)
    : isWordPart point = false := by
  have hall : ∀ mark ∈ marks, ∀ point ∈ mark, isWordPart point = false := by decide
  exact hall mark hm point hp

/-- The signs between expressions have no code points that words have. -/
theorem isWordPart_of_isConnective {point : CodePoint} (h : isConnective point = true)
    : isWordPart point = false := by
  rcases Bool.or_eq_true_iff.mp h with hb | hm
  · simp only [isBlank, Bool.or_eq_true, decide_eq_true_eq] at hb
    rcases hb with (rfl | rfl) | rfl <;> decide
  · exact isWordPart_of_mem_mark (of_decide_eq_true hm) List.mem_cons_self

/-- What is no part of a word, or starts one, is no digit. -/
theorem isDecimal_eq_false {point : CodePoint}
    (h : isWordPart point = false ∨ isWordStart point = true)
    : point.isDecimal = false := by
  cases hd : point.isDecimal with
  | false => rfl
  | true =>
    rcases h with h | h
    · rw [isWordPart, hd, Bool.or_true] at h
      exact h
    · exact absurd ((isWordStart_of_isDecimal hd).symm.trans h) Bool.false_ne_true

/-- A text that ends with something else than a digit does not consist of digits. -/
theorem all_isDecimal_concat {spelling : Text} {point : CodePoint} (h : point.isDecimal = false)
    : (spelling ++ [point]).all CodePoint.isDecimal = false := by
  simp [h]

section Points

open Partial

variable {part next : Partial} {after : Partial → Prop} {point : CodePoint}

/-- A code point that goes on with what has been read, after which no digits are pending. -/
theorem leads_of_extend (h : part.extend? point = some next) (ha : after next)
    (hp : next.pending = [])
    : Leads part after [point] [] := by
  refine ⟨[], next, ?_, ha, ?_⟩
  · simp only [run?, step?_of_extend h, Option.bind_some, Option.map_some, List.append_nil]
  · rw [hp]
    exact List.nil_sublist _

/-- A code point that starts something new, in which no digits are pending. -/
theorem leads_of_break (whole : part.IsWhole) (h : part.extend? point = none)
    (hs : start? point = some next) (ha : after next) (hp : next.pending = [])
    : Leads part after [point] [] := by
  obtain ⟨tokens, complete⟩ := Option.isSome_iff_exists.mp whole
  refine ⟨tokens, next, ?_, ha, ?_⟩
  · simp only [run?, step?_of_break h complete hs, Option.bind_some, Option.map_some,
      List.append_nil]
  · rw [hp, pending, complete]
    exact List.Sublist.refl _

/-- A sign starts a token that leaves a numeral behind it as it is. -/
theorem start?_of_isConnective (h : isConnective point = true)
    : ∃ next, start? point = some next ∧ next.IsOpen := by
  by_cases hb : isBlank point = true
  · exact ⟨.idle, if_pos hb, .idle⟩
  · have hm : [point] ∈ marks := of_decide_eq_true ((Bool.or_eq_true_iff.mp h).resolve_left hb)
    have hq : point ≠ '"' := by
      rintro rfl
      exact absurd hm (by decide)
    have hpart := isWordPart_of_isConnective h
    have hw : isWordStart point = false := (Bool.or_eq_false_iff.mp hpart).1
    have hd := isDecimal_eq_false (.inl hpart)
    refine ⟨.mark [point], ?_, .mark _⟩
    simp only [start?, hb, hw, hd, hq, hm, if_true, if_false, Bool.false_eq_true]

/-- A blank or a mark makes a longer mark of what is in front of it, or a number with something else
than digits, or nothing of it. -/
theorem isOpen_of_extend (h : isConnective point = true) (whole : part.IsWhole)
    (hx : part.extend? point = some next)
    : next.IsOpen := by
  have hpart := isWordPart_of_isConnective h
  have hd := isDecimal_eq_false (.inl hpart)
  cases part with
  | idle => cases hx
  | word name =>
    rw [extend?, hpart] at hx
    cases hx
  | number spelling =>
    rw [extend?] at hx
    split at hx
    · obtain rfl := Option.some.inj hx
      exact .number (all_isDecimal_concat hd)
    · cases hx
  | mark spelling =>
    rw [extend?, hd, Bool.and_false] at hx
    split at hx
    · obtain rfl := Option.some.inj hx
      exact .mark _
    · cases hx
  | string value escape => cases whole
  | closed value => cases hx

/-- Signs yield no numbers, and what is behind them starts anew. -/
theorem yields_connective (h : isConnective point = true) : Yields IsWhole IsOpen [point] [] := by
  intro part whole
  cases hx : part.extend? point with
  | some next =>
    have hopen := isOpen_of_extend h whole hx
    exact leads_of_extend hx hopen hopen.pending_eq
  | none =>
    obtain ⟨next, hs, hopen⟩ := start?_of_isConnective h
    exact leads_of_break whole hx hs hopen hopen.pending_eq

/-- The start of a word makes a word or a number with something else than digits. -/
theorem isTainted_of_extend (h : isWordStart point = true) (whole : part.IsWhole)
    (hx : part.extend? point = some next)
    : next.IsTainted := by
  have hd := isDecimal_eq_false (.inr h)
  have hpart : isWordPart point = true := Bool.or_eq_true_iff.mpr (.inl h)
  cases part with
  | idle => cases hx
  | word name =>
    rw [extend?, hpart] at hx
    obtain rfl := Option.some.inj hx
    exact .word _
  | number spelling =>
    rw [extend?] at hx
    split at hx
    · obtain rfl := Option.some.inj hx
      exact .number (all_isDecimal_concat hd)
    · cases hx
  | mark spelling =>
    rw [extend?, hd, Bool.and_false] at hx
    split at hx
    · rename_i hm
      have := isWordPart_of_mem_mark hm (List.mem_append_right _ List.mem_cons_self)
      exact absurd (this.symm.trans hpart) Bool.false_ne_true
    · cases hx
  | string value escape => cases whole
  | closed value => cases hx

/-- The start of a word taints the token. -/
theorem yields_wordStart (h : isWordStart point = true) : Yields IsWhole IsTainted [point] [] := by
  intro part whole
  cases hx : part.extend? point with
  | some next =>
    have htainted := isTainted_of_extend h whole hx
    exact leads_of_extend hx htainted htainted.pending_eq
  | none =>
    have hs : start? point = some (.word [point]) := by
      simp only [start?, isBlank_eq_false (.inl h), h, if_true, if_false, Bool.false_eq_true]
    exact leads_of_break whole hx hs (.word _) rfl

/-- A word stays tainted as it goes on. -/
theorem yields_wordPart (h : isWordPart point = true) : Yields IsTainted IsTainted [point] [] := by
  intro part tainted
  cases tainted with
  | word name => exact leads_of_extend (if_pos h) (.word (name ++ [point])) rfl
  | @number spelling hn =>
    have hx : extendsNumber spelling point = true := by
      rw [extendsNumber, h, Bool.true_or, Bool.true_or]
    have hlonger : (spelling ++ [point]).all CodePoint.isDecimal = false := by
      rw [List.all_append, hn, Bool.false_and]
    exact leads_of_extend (if_pos hx) (.number hlonger) (pending_number hlonger)

end Points

-----------------------------------------------------------------------------------------
-- Words, strings and numerals in front of other text
-----------------------------------------------------------------------------------------

section Texts

open Partial

variable {text : Text}

/-- A word yields no number. -/
theorem yields_word {name : Text} (h : IsWord name) : Yields IsWhole IsWhole name [] := by
  obtain ⟨first, rest, rfl, hf, hr⟩ := h
  have hrest : Yields IsTainted IsTainted rest [] :=
    .of_points fun point hm => yields_wordPart (hr point hm)
  exact ((yields_wordStart hf).append hrest).imp (fun _ h => h) fun _ h => h.isWhole

/-- A text of blanks, marks and words without digits. -/
theorem yields_inert (h : text.all isInert = true) : Yields IsWhole IsWhole text [] := by
  refine .of_points fun point hm => ?_
  rcases Bool.or_eq_true_iff.mp (List.all_eq_true.mp h point hm) with hc | hw
  · exact (yields_connective hc).imp (fun _ h => h) fun _ h => h.isWhole
  · exact (yields_wordStart hw).imp (fun _ h => h) fun _ h => h.isWhole

/-- A text of blanks, marks and words without digits that ends in a blank or a mark. -/
structure IsClosing (text : Text) : Prop where
  inert : text.all isInert = true
  ends : text.getLast?.any isConnective = true

/-- A text that ends with a sign yields no number, and what is behind it starts anew. -/
theorem yields_closing (h : IsClosing text) : Yields IsWhole IsOpen text [] := by
  obtain ⟨last, hlast, hc⟩ := (Option.any_eq_true _ _).mp h.ends
  obtain ⟨rest, rfl⟩ := List.getLast?_eq_some_iff.mp hlast
  have hinert := h.inert
  rw [List.all_append, Bool.and_eq_true] at hinert
  exact (yields_inert hinert.1).append (yields_connective hc)

section Sequences

variable {before after : Partial → Prop} {first second : Text} {written written' : List Text}

/-- What is open behind a text is complete. -/
theorem Yields.whole (h : Yields before IsOpen first written)
    : Yields before IsWhole first written :=
  h.imp (fun _ h => h) fun _ h => h.isWhole

/-- A text that is read behind anything is also read behind an open token. -/
theorem Yields.apart {after : Partial → Prop} (h : Yields IsWhole after first written)
    : Yields IsOpen after first written :=
  h.imp (fun _ h => h.isWhole) fun _ h => h

/-- Whatever follows the text is apart from it. -/
theorem Yields.closed (h : Yields before IsWhole first written) (hc : IsClosing text)
    : Yields before IsOpen (first ++ text) written := by
  have hall := h.append (yields_closing hc)
  rwa [List.append_nil] at hall

/-- A sign in front of a text changes nothing in what the text yields. -/
theorem Yields.opened (h : Yields IsOpen after second written) (hc : IsClosing text)
    : Yields IsOpen after (text ++ second) written :=
  (yields_closing hc).apart.append h

/-- Signs around a text change nothing in what the text yields. -/
theorem Yields.enclosed {opening closing : Text} (h : YieldsApart second written)
    (ho : IsClosing opening) (hc : IsClosing closing)
    : YieldsApart (opening ++ second ++ closing) written :=
  ((h.opened ho).closed hc).whole

/-- Two texts with one between them that keeps them apart. -/
theorem Yields.between (h : Yields before IsWhole first written) (hc : IsClosing text)
    (h' : Yields IsOpen after second written')
    : Yields before after (first ++ text ++ second) (written ++ written') :=
  (h.closed hc).append h'

variable {α : Type} {list : List α} {f : α → Text} {g : α → List Text} {separator : Text}

/-- Texts that each stand behind a separator, by induction over them. -/
theorem yields_separated (hs : IsClosing separator)
    (h : ∀ member ∈ list, YieldsApart (f member) (g member))
    : Yields IsWhole IsWhole ((list.map f).flatMap (separator ++ ·)) (list.flatMap g) := by
  induction list with
  | nil => exact Yields.nil
  | cons member list ih =>
    have hmember := (yields_closing hs).append (h member List.mem_cons_self)
    exact hmember.append (ih fun other hm => h other (List.mem_cons_of_mem _ hm))

/-- Texts with separators between them. -/
theorem yields_join (hs : IsClosing separator)
    (h : ∀ member ∈ list, YieldsApart (f member) (g member))
    : YieldsApart (Text.join separator (list.map f)) (list.flatMap g) := by
  cases list with
  | nil => exact Yields.nil.imp (fun _ h => h) fun _ h => h.isWhole
  | cons member list =>
    have hrest := yields_separated hs fun other hm => h other (List.mem_cons_of_mem _ hm)
    rw [List.map_cons, Text.join_cons]
    exact (h member List.mem_cons_self).append hrest

end Sequences

/-- Code points that belong to what is being read are read into it. -/
theorem run?_of_after? {part longer : Partial} (h : part.after? text = some longer)
    : part.run? text = some ([], longer) := by
  induction text generalizing part with
  | nil =>
    obtain rfl := Option.some.inj h
    rfl
  | cons point text ih =>
    rw [after?] at h
    obtain ⟨next, hx, hafter⟩ := Option.bind_eq_some_iff.mp h
    simp only [run?, step?_of_extend hx, ih hafter, Option.bind_some, Option.map_some,
      List.append_nil]

/-- A code point that is in no word and ends no mark goes on with nothing but strings. -/
theorem extend?_eq_none {part : Partial} {point : CodePoint} (whole : part.IsWhole)
    (hw : isWordPart point = false) (hm : ∀ mark ∈ marks, mark.getLast? ≠ some point)
    : part.extend? point = none := by
  cases part with
  | idle => rfl
  | word name => rw [extend?, hw, if_neg Bool.false_ne_true]
  | number spelling =>
    have hsigns : ∀ mark ∈ ([".", "+", "-"] : List Text), mark ∈ marks := by decide
    have hpoint : point ≠ '.' := fun he => hm "." (hsigns _ (by decide)) (he ▸ rfl)
    have hplus : point ≠ '+' := fun he => hm "+" (hsigns _ (by decide)) (he ▸ rfl)
    have hminus : point ≠ '-' := fun he => hm "-" (hsigns _ (by decide)) (he ▸ rfl)
    simp [extend?, extendsNumber, hw, hpoint, hplus, hminus]
  | mark spelling =>
    have hlonger : spelling ++ [point] ∉ marks := fun h => hm _ h List.getLast?_concat
    have hd := isDecimal_eq_false (.inl hw)
    rw [extend?, if_neg hlonger, hd, Bool.and_false, if_neg Bool.false_ne_true]
  | string value escape => cases whole
  | closed value => rfl

/-- A string yields no number, whatever is in it. -/
theorem yields_string (value : Text) : Yields IsWhole IsWhole (Text.Quoted.encode value) [] := by
  intro part whole
  obtain ⟨tokens, complete⟩ := Option.isSome_iff_exists.mp whole
  have hx : part.extend? '"' = none := extend?_eq_none whole (by decide) (by decide)
  have hstart : part.step? '"' = some (tokens, .string [] .plain) := step?_of_break hx complete rfl
  have hstring : (Partial.string [] .plain).run? (value.flatMap Text.Quoted.encodePoint ++ "\"")
      = some ([], .closed ([] ++ value)) :=
    run?_of_after? (after?_encoded [] value)
  refine ⟨tokens, .closed value, ?_, rfl, ?_⟩
  · have hopen : Text.Quoted.encode value
        = .scalar '"' :: (value.flatMap Text.Quoted.encodePoint ++ ("\"" : Text)) := by
      rw [Text.Quoted.encode, List.append_assoc]
      rfl
    simp only [hopen, run?, hstart, hstring, Option.bind_some, Option.map_some, List.nil_append,
      List.append_nil]
  · have hpending : part.pending = digits tokens := by rw [pending, complete, Option.getD_some]
    rw [hpending]
    exact List.Sublist.refl _

/-- Blanks leave nothing that a scanner could go on with. -/
theorem yields_blank {point : CodePoint} (h : isBlank point = true)
    : Yields IsWhole (· = .idle) [point] [] := by
  intro part whole
  have hnone : ∀ mark ∈ marks, ∀ point ∈ mark.getLast?, isBlank point = false := by decide
  have hw := isWordPart_of_isConnective (Bool.or_eq_true_iff.mpr (.inl h))
  have hx : part.extend? point = none := by
    refine extend?_eq_none whole hw fun mark hm hl => ?_
    exact Bool.false_ne_true ((hnone mark hm point hl).symm.trans h)
  exact leads_of_break whole hx (if_pos h) rfl rfl

/-- Whether a number goes on depends on its last code point alone. -/
theorem extendsNumber_append (before : Text) {spelling : Text} (hne : spelling ≠ [])
    (point : CodePoint)
    : extendsNumber (before ++ spelling) point = extendsNumber spelling point := by
  have hlast : (before ++ spelling).getLast? = spelling.getLast? := by
    rw [List.getLast?_append, List.getLast?_eq_some_getLast hne, Option.some_or]
  rw [extendsNumber, extendsNumber, awaitsSign, awaitsSign, hlast]

/-- The rest of a number is read into it, by induction over that rest. -/
theorem after?_number {spelling parts : Text} (h : ExtendsBy spelling parts)
    : (Partial.number spelling).after? parts = some (.number (spelling ++ parts)) := by
  induction parts generalizing spelling with
  | nil => rw [after?, List.append_nil]
  | cons point parts ih =>
    have hx : (Partial.number spelling).extend? point = some (.number (spelling ++ [point])) := by
      have hpoint := h [] point parts rfl
      rw [List.append_nil] at hpoint
      exact if_pos hpoint
    have hparts : ExtendsBy (spelling ++ [point]) parts := by
      intro before next after heq
      rw [List.append_assoc]
      exact h (point :: before) next after (by rw [heq]; rfl)
    rw [after?_cons _ hx, ih hparts, List.append_assoc]
    rfl

/-- A digit starts a number, or goes on with one that does not consist of digits alone. -/
theorem exists_step_of_isDecimal {part : Partial} (hopen : part.IsOpen) {digit : CodePoint}
    (hd : digit.isDecimal = true)
    : ∃ tokens before,
        part.step? digit = some (tokens, .number (before ++ [digit]))
          ∧ digits tokens = []
          ∧ (before = [] ∨ before.all CodePoint.isDecimal = false) := by
  have hs : start? digit = some (.number [digit]) := by
    simp only [start?, isBlank_eq_false (.inr hd), isWordStart_of_isDecimal hd, hd,
      Bool.false_eq_true, if_false, if_true]
  cases hopen with
  | idle => exact ⟨[], [], step?_of_break rfl rfl hs, rfl, .inl rfl⟩
  | closed value => exact ⟨[.string value], [], step?_of_break rfl rfl hs, rfl, .inl rfl⟩
  | mark spelling =>
    have hlonger : spelling ++ [digit] ∉ marks := by
      intro hm
      have hpart := isWordPart_of_mem_mark hm (List.mem_append_right _ List.mem_cons_self)
      exact Bool.false_ne_true ((isDecimal_eq_false (.inl hpart)).symm.trans hd)
    -- A digit behind a point makes a number of the point, which is no number of digits alone.
    by_cases hpoint : spelling = "."
    · subst hpoint
      have hx : (Partial.mark ".").extend? digit = some (.number ("." ++ [digit])) := by
        rw [extend?, if_neg hlonger, hd]
        rfl
      exact ⟨[], ".", step?_of_extend hx, rfl, .inr rfl⟩
    · have hx : (Partial.mark spelling).extend? digit = none := by
        rw [extend?, if_neg hlonger, decide_eq_false hpoint, Bool.false_and,
          if_neg Bool.false_ne_true]
      exact ⟨[.mark spelling], [], step?_of_break hx rfl hs, rfl, .inl rfl⟩
  | @number spelling hn =>
    have hx : extendsNumber spelling digit = true := by
      rw [extendsNumber, isWordPart, hd, Bool.or_true, Bool.true_or, Bool.true_or]
    exact ⟨[], spelling, step?_of_extend (if_pos hx), rfl, .inr hn⟩

/-- A numeral is one number, or the rest of one that does not consist of digits alone. -/
theorem yields_numeral {spelling : Text} (h : IsNumeral spelling)
    : YieldsApart spelling (digits [.number spelling]) := by
  obtain ⟨first, rest, rfl, hf, hr, _⟩ := h
  intro part hopen
  obtain ⟨tokens, before, hstep, hnone, hbefore⟩ := exists_step_of_isDecimal hopen hf
  have hextends : ExtendsBy (before ++ [first]) rest := by
    intro parts point after heq
    rw [List.append_assoc, List.singleton_append,
      extendsNumber_append _ (List.cons_ne_nil first parts)]
    exact hr parts point after heq
  have hrest := run?_of_after? (after?_number hextends)
  rw [List.append_assoc, List.singleton_append] at hrest
  refine ⟨tokens, .number (before ++ first :: rest), ?_, rfl, ?_⟩
  · simp only [run?, hstep, hrest, Option.bind_some, Option.map_some, List.append_nil]
  · -- The numeral is the whole number, or something that is no digit stands in front of it.
    rw [hnone, hopen.pending_eq]
    rcases hbefore with rfl | hb
    · exact List.Sublist.refl _
    · rw [pending_number (by rw [List.all_append, hb, Bool.false_and])]
      exact List.nil_sublist _

end Texts

-----------------------------------------------------------------------------------------
-- Lines, each of which is read from its beginning
-----------------------------------------------------------------------------------------

section Lines

open Partial

/-- The tokens of a text, of which those that are numbers of digits alone are among the written
ones, in their order. -/
def Spells (text : Text) (written : List Text) : Prop := Yields (· = .idle) IsWhole text written

variable {text line : Text} {lines : List Text} {written written' : List Text}

/-- A text that yields numbers wherever it stands spells them. -/
theorem Yields.spells (h : YieldsApart text written) : Spells text written :=
  h.imp (fun _ he => he ▸ .idle) fun _ h => h

/-- No text spells no numbers. -/
theorem spells_nil : Spells [] [] := Yields.nil.imp (fun _ h => h) fun _ h => h ▸ rfl

/-- A text that spells numbers is read to tokens with no other numbers of digits alone. -/
theorem Spells.exists_tokens (h : Spells text written)
    : ∃ found, tokens text = some found ∧ (digits found).Sublist written := by
  obtain ⟨completed, last, hrun, whole, hsub⟩ := h .idle rfl
  obtain ⟨more, complete⟩ := Option.isSome_iff_exists.mp whole
  refine ⟨completed ++ more, ?_, ?_⟩
  · simp only [tokens, scan_eq_run?, hrun, complete, Option.bind_some, Option.map_some]
  · rw [pending, complete, Option.getD_some] at hsub
    rw [digits_append]
    exact hsub

/-- Texts with a blank between them. -/
theorem Spells.blank {blank : CodePoint} (h : Spells line written) (hb : isBlank blank = true)
    (h' : Spells text written')
    : Spells (line ++ blank :: text) (written ++ written') :=
  h.append ((yields_blank hb).append h')

/-- Lines spell what the first line and the others do. -/
theorem Spells.unlines_cons (h : Spells line written) (h' : Spells (Text.unlines lines) written')
    : Spells (Text.unlines (line :: lines)) (written ++ written') := by
  cases lines with
  | nil => exact h.mono (List.sublist_append_left _ _)
  | cons next lines =>
    rw [Text.unlines_cons _ (List.cons_ne_nil _ _), List.append_assoc]
    exact h.blank rfl h'

/-- Nothing goes on with a token behind a line feed, not even a string. -/
theorem extend?_lineFeed (part : Partial) : part.extend? '\n' = none := by
  cases part with
  | string value escape =>
    cases escape with
    | plain => rfl
    | start => rfl
    | octal count code =>
      have hd : CodePoint.isOctal '\n' = false := by decide
      simp only [extend?, extendString?, hd, Bool.false_and, Bool.false_eq_true, if_false]
      cases CodePoint.ofNat? code <;> rfl
  | _ => exact extend?_eq_none rfl (by decide) (by decide)

/-- The first line of a text and the others have tokens of their own. -/
theorem Spells.split (h : Spells (line ++ .scalar '\n' :: text) written)
    : ∃ first rest, Spells line first ∧ Spells text rest ∧ (first ++ rest).Sublist written := by
  obtain ⟨tokens, last, hrun, whole, hsub⟩ := h .idle rfl
  rw [run?_append] at hrun
  obtain ⟨⟨completed, next⟩, hline, hrest⟩ := Option.bind_eq_some_iff.mp hrun
  obtain ⟨⟨more, last'⟩, hfeed, heq⟩ := Option.map_eq_some_iff.mp hrest
  obtain ⟨rfl, rfl⟩ := Prod.mk.inj heq
  rw [run?] at hfeed
  obtain ⟨⟨_, start⟩, hstep, hmore⟩ := Option.bind_eq_some_iff.mp hfeed
  obtain ⟨⟨later, last⟩, htext, heq⟩ := Option.map_eq_some_iff.mp hmore
  obtain ⟨rfl, rfl⟩ := Prod.mk.inj heq
  -- The line feed completes what is in front of it, so that had to be complete.
  simp only [step?, extend?_lineFeed] at hstep
  obtain ⟨ended, complete, hstart⟩ := Option.bind_eq_some_iff.mp hstep
  obtain ⟨rfl, rfl⟩ := Prod.mk.inj (Option.some.inj hstart)
  refine ⟨digits completed ++ next.pending, digits later ++ last.pending, ?_, ?_, ?_⟩
  · rintro _ rfl
    refine ⟨completed, next, hline, ?_, List.Sublist.refl _⟩
    rw [IsWhole, complete]
    rfl
  · rintro _ rfl
    exact ⟨later, last, htext, whole, List.Sublist.refl _⟩
  · have hpending : next.pending = digits ended := by rw [pending, complete, Option.getD_some]
    have hidle : idle.pending ++ written = written := rfl
    simpa only [hidle, hpending, digits_append, List.append_assoc] using hsub

/-- The lines of a text have tokens of their own, which are those of the text together. -/
def SpellsEach : List Text → List Text → Prop
  | [], _ => True
  | line :: lines, written =>
    ∃ first rest, Spells line first ∧ SpellsEach lines rest ∧ (first ++ rest).Sublist written

/-- Lines may be said to spell more numbers than they do. -/
theorem SpellsEach.mono (h : SpellsEach lines written) (hs : written.Sublist written')
    : SpellsEach lines written' := by
  cases lines with
  | nil => trivial
  | cons line lines =>
    obtain ⟨first, rest, hf, hr, hsub⟩ := h
    exact ⟨first, rest, hf, hr, hsub.trans hs⟩

/-- Two groups of lines spell what each of them does. -/
theorem SpellsEach.append {lines' : List Text} (h : SpellsEach lines written)
    (h' : SpellsEach lines' written')
    : SpellsEach (lines ++ lines') (written ++ written') := by
  induction lines generalizing written with
  | nil => exact h'.mono (List.sublist_append_right _ _)
  | cons line lines ih =>
    obtain ⟨first, rest, hf, hr, hsub⟩ := h
    refine ⟨first, rest ++ written', hf, ih hr, ?_⟩
    rw [← List.append_assoc]
    exact hsub.append_right _

/-- Lines spell, one below the other, what each of them spells. -/
theorem SpellsEach.unlines (h : SpellsEach lines written)
    : Spells (Text.unlines lines) written := by
  induction lines generalizing written with
  | nil => exact spells_nil.mono (List.nil_sublist _)
  | cons line lines ih =>
    obtain ⟨first, rest, hf, hr, hsub⟩ := h
    exact (hf.unlines_cons (ih hr)).mono hsub

/-- Lines that spell numbers one below the other spell them each for itself. -/
theorem Spells.each_of_unlines (h : Spells (Text.unlines lines) written)
    : SpellsEach lines written := by
  induction lines generalizing written with
  | nil => trivial
  | cons line lines ih =>
    cases lines with
    | nil => exact ⟨written, [], h, trivial, List.append_nil _ ▸ List.Sublist.refl _⟩
    | cons next lines =>
      rw [Text.unlines_cons _ (List.cons_ne_nil _ _), List.append_assoc] at h
      obtain ⟨first, rest, hf, hr, hsub⟩ := Spells.split h
      exact ⟨first, rest, hf, ih hr, hsub⟩

/-- The lines of a text spell what the text does. -/
theorem spellsEach_lines (h : Spells text written) : SpellsEach text.lines written :=
  Spells.each_of_unlines (by rwa [Text.unlines_lines])

/-- Blanks in front of a line make no difference to its tokens. -/
theorem Spells.indentedLine {indent : Text} (hi : ∀ point ∈ indent, isBlank point = true)
    (h : Spells line written)
    : Spells (Fragment.indentedLine indent line) written := by
  unfold Fragment.indentedLine
  split
  · exact h
  · refine Yields.append (Yields.of_points fun point hm => ?_) h
    exact (yields_blank (hi point hm)).imp (fun _ he => he ▸ rfl) fun _ he => he

/-- Indentation adds no number to what lines spell. -/
theorem SpellsEach.indented {indent : Text} (hi : ∀ point ∈ indent, isBlank point = true)
    (h : SpellsEach lines written)
    : SpellsEach (lines.map (Fragment.indentedLine indent)) written := by
  induction lines generalizing written with
  | nil => trivial
  | cons line lines ih =>
    obtain ⟨first, rest, hf, hr, hsub⟩ := h
    exact ⟨first, rest, hf.indentedLine hi, ih hr, hsub⟩

/-- Fragments between braces, behind a line that opens them. -/
theorem spells_innerLines {indent header : Text} (hi : ∀ point ∈ indent, isBlank point = true)
    {fragments : List Text} (hh : Spells header written)
    (h : SpellsEach (fragments.flatMap Text.lines) written')
    : Spells (Text.unlines (header :: Fragment.innerLines indent fragments))
        (written ++ written') := by
  have hclose : SpellsEach ["\x7d"] [] := by
    refine ⟨[], [], ?_, trivial, List.Sublist.refl _⟩
    exact (yields_inert (by decide)).imp (fun _ he => he ▸ rfl) fun _ h => h
  have hbody := (h.indented hi).append hclose
  rw [List.append_nil] at hbody
  exact hh.unlines_cons hbody.unlines

end Lines

end DeviceScript.Cpp
