import DeviceScript.Proofs.Text.Joining
import DeviceScript.Translation.Fragment

/-! Lines of texts, and above all of fragments between braces. -/

namespace DeviceScript

namespace Text

/-- A split text has at least one part. -/
theorem splitAt_ne_nil (separator : CodePoint) (text : Text) : splitAt separator text ≠ [] := by
  fun_cases splitAt separator text <;> exact List.cons_ne_nil _ _

/-- A text in front of a separator has its own pieces, by induction along the search for
separators. -/
theorem splitAt_append (separator : CodePoint) (first second : Text)
    : splitAt separator (first ++ separator :: second)
      = splitAt separator first ++ splitAt separator second := by
  fun_induction splitAt separator first with
  | case1 =>
      rw [List.nil_append, splitAt, if_pos rfl]
      rfl
  | case2 rest ih =>
      rw [List.cons_append, splitAt, if_pos rfl, ih]
      rfl
  | case3 point rest _ h => exact absurd h (splitAt_ne_nil separator rest)
  | case4 point rest hp piece pieces h ih =>
      rw [List.cons_append, splitAt, if_neg hp, ih, h]
      rfl

/-- A text without separators is one piece, by induction over the text. -/
theorem splitAt_of_not_mem {separator : CodePoint} {text : Text} (h : separator ∉ text)
    : splitAt separator text = [text] := by
  induction text with
  | nil => rfl
  | cons point rest ih =>
      rw [List.mem_cons, not_or] at h
      rw [splitAt, if_neg (Ne.symm h.1), ih h.2]

/-- Pieces are made of the text, by induction along the search for separators. -/
theorem mem_of_mem_splitAt {separator point : CodePoint} {text piece : Text}
    (h : piece ∈ splitAt separator text) (hm : point ∈ piece)
    : point ∈ text := by
  fun_induction splitAt separator text generalizing piece with
  | case1 =>
      rw [List.mem_singleton.mp h] at hm
      exact absurd hm List.not_mem_nil
  | case2 rest ih =>
      rcases List.mem_cons.mp h with rfl | h
      · exact absurd hm List.not_mem_nil
      · exact List.mem_cons_of_mem _ (ih h hm)
  | case3 first rest hp _ =>
      rw [List.mem_singleton.mp h, List.mem_singleton] at hm
      exact hm ▸ List.mem_cons_self
  | case4 first rest hp piece' pieces hs ih =>
      rcases List.mem_cons.mp h with rfl | h
      · rcases List.mem_cons.mp hm with rfl | hm
        · exact List.mem_cons_self
        · exact List.mem_cons_of_mem _ (ih (hs ▸ List.mem_cons_self) hm)
      · exact List.mem_cons_of_mem _ (ih (hs ▸ List.mem_cons_of_mem _ h) hm)

/-- Pieces hold no separators. -/
theorem not_mem_of_mem_splitAt {separator : CodePoint} {text piece : Text}
    (h : piece ∈ splitAt separator text)
    : separator ∉ piece := by
  fun_induction splitAt separator text generalizing piece with
  | case1 =>
      rw [List.mem_singleton.mp h]
      exact List.not_mem_nil
  | case2 rest ih =>
      rcases List.mem_cons.mp h with rfl | h
      · exact List.not_mem_nil
      · exact ih h
  | case3 point rest hp _ =>
      rw [List.mem_singleton.mp h, List.mem_singleton]
      exact fun he => hp he.symm
  | case4 point rest hp first pieces hs ih =>
      rcases List.mem_cons.mp h with rfl | h
      · rw [List.mem_cons, not_or]
        exact ⟨fun he => hp he.symm, ih (hs ▸ List.mem_cons_self)⟩
      · exact ih (hs ▸ List.mem_cons_of_mem _ h)

/-- The first line is followed by a line feed and the other lines. -/
theorem unlines_cons (first : Text) {rest : List Text} (hne : rest ≠ [])
    : unlines (first :: rest) = first ++ "\n" ++ unlines rest := by
  obtain ⟨second, rest, rfl⟩ := List.exists_cons_of_ne_nil hne
  simp only [unlines, join]

/-- The last line follows the other lines and a line feed. -/
theorem unlines_concat (last : Text) {texts : List Text} (hne : texts ≠ [])
    : unlines (texts ++ [last]) = unlines texts ++ "\n" ++ last := by
  rw [unlines, join_concat _ _ hne, ← List.append_assoc]
  rfl

/-- Texts that are put together have the lines of each of them, by induction over the texts. -/
theorem lines_unlines {texts : List Text} (hne : texts ≠ [])
    : lines (unlines texts) = texts.flatMap lines := by
  match texts with
  | [] => exact absurd rfl hne
  | [text] => exact (List.append_nil _).symm
  | first :: second :: rest =>
      have hrest := lines_unlines (List.cons_ne_nil second rest)
      rw [lines, unlines_cons _ (List.cons_ne_nil second rest), List.append_assoc,
        List.flatMap_cons, ← hrest]
      exact splitAt_append '\n' first _

/-- A text is put together from its lines, by induction along the search for line feeds. -/
theorem unlines_lines (text : Text) : unlines text.lines = text := by
  unfold lines
  fun_induction splitAt '\n' text with
  | case1 => rfl
  | case2 rest ih =>
      rw [unlines_cons _ (splitAt_ne_nil _ rest), ih]
      rfl
  | case3 point rest _ h => exact absurd h (splitAt_ne_nil _ rest)
  | case4 point rest hp piece pieces h ih =>
      rw [h] at ih
      cases pieces with
      | nil => exact congrArg (point :: ·) ih
      | cons next pieces => exact congrArg (point :: ·) ih

/-- Texts of one line each are their own lines. -/
theorem flatMap_lines {texts : List Text} (h : ∀ text ∈ texts, .scalar '\n' ∉ text)
    : texts.flatMap lines = texts := by
  induction texts with
  | nil => rfl
  | cons first rest ih =>
      rw [List.flatMap_cons, lines, splitAt_of_not_mem (h first List.mem_cons_self),
        ih fun text hm => h text (List.mem_cons_of_mem _ hm)]
      rfl

/-- Where two texts meet, the last line of the one and the first of the other become one line, by
induction along the search for line feeds. -/
theorem lines_append {first second : Text} {before after : List Text} {last next : Text}
    (h : lines first = before ++ [last]) (h' : lines second = next :: after)
    : lines (first ++ second) = before ++ (last ++ next) :: after := by
  unfold lines at *
  fun_induction splitAt '\n' first generalizing before last with
  | case1 =>
      cases before with
      | nil =>
          obtain ⟨rfl, _⟩ := List.cons.inj h
          exact h'
      | cons line before => exact absurd (List.cons.inj h).2.symm (by simp)
  | case2 rest ih =>
      rw [List.cons_append, splitAt, if_pos rfl]
      cases before with
      | nil => exact absurd (List.cons.inj h).2 (splitAt_ne_nil _ rest)
      | cons line before =>
          obtain ⟨rfl, hrest⟩ := List.cons.inj h
          rw [ih hrest]
          rfl
  | case3 point rest _ hs => exact absurd hs (splitAt_ne_nil _ rest)
  | case4 point rest hp piece pieces hs ih =>
      rw [List.cons_append, splitAt, if_neg hp]
      cases before with
      | nil =>
          obtain ⟨rfl, hnone⟩ := List.cons.inj h
          have hrest : splitAt '\n' rest = [] ++ [piece] := by
            rw [hs, hnone]
            rfl
          rw [ih hrest]
          rfl
      | cons line before =>
          obtain ⟨rfl, hrest⟩ := List.cons.inj h
          have hrest' : splitAt '\n' rest = (piece :: before) ++ [last] := by
            rw [hs, hrest]
            rfl
          rw [ih hrest']
          rfl

/-- There is a first line. -/
theorem exists_lines_cons (text : Text) : ∃ first rest, text.lines = first :: rest :=
  List.exists_cons_of_ne_nil (splitAt_ne_nil _ text)

/-- There is a last line. -/
theorem exists_lines_concat (text : Text) : ∃ before last, text.lines = before ++ [last] := by
  rcases List.eq_nil_or_concat text.lines with h | ⟨before, last, h⟩
  · exact absurd h (splitAt_ne_nil _ text)
  · exact ⟨before, last, h.trans List.concat_eq_append⟩

/-- A code point that is no line feed is a part of the first line. -/
theorem lines_cons {point : CodePoint} (hp : point ≠ '\n') {text first : Text} {rest : List Text}
    (h : text.lines = first :: rest)
    : lines (point :: text) = (point :: first) :: rest := by
  rw [lines, splitAt, if_neg hp, ← lines, h]

/-- A line feed ends an empty first line. -/
theorem lines_feed (text : Text) : lines (.scalar '\n' :: text) = [] :: text.lines := by
  rw [lines, splitAt, if_pos rfl, lines]

/-- What is in front of the first line is in front of all lines. -/
theorem unlines_append_cons (first second : Text) (rest : List Text)
    : unlines ((first ++ second) :: rest) = first ++ unlines (second :: rest) := by
  cases rest with
  | nil => rfl
  | cons third rest => simp only [unlines, join, List.append_assoc]

/-- A text with something behind each of its line breaks. -/
def withMargins (text margin : Text) : Text :=
  text.flatMap fun point => if point = .scalar '\n' then .scalar '\n' :: margin else [point]

/-- A text on one line has no margins put into it. -/
theorem withMargins_of_not_mem (margin : Text) {text : Text} (h : .scalar '\n' ∉ text)
    : text.withMargins margin = text := by
  induction text with
  | nil => rfl
  | cons point rest ih =>
      rw [List.mem_cons, not_or] at h
      rw [withMargins, List.flatMap_cons, if_neg (Ne.symm h.1)]
      exact congrArg (point :: ·) (ih h.2)

/-- Lines further inside, the first one apart, by induction along the search for line feeds. -/
theorem unlines_map_append (margin : Text) {text first : Text} {rest : List Text}
    (h : text.lines = first :: rest)
    : unlines (first :: rest.map (margin ++ ·)) = text.withMargins margin := by
  induction text generalizing first rest with
  | nil =>
      obtain ⟨rfl, rfl⟩ := List.cons.inj h
      rfl
  | cons point text ih =>
      obtain ⟨next, after, hnext⟩ := exists_lines_cons text
      rw [withMargins, List.flatMap_cons]
      by_cases hp : point = '\n'
      · subst hp
        rw [lines_feed, hnext] at h
        obtain ⟨rfl, rfl⟩ := List.cons.inj h
        rw [List.map_cons, unlines_cons _ (List.cons_ne_nil _ _), unlines_append_cons, ih hnext,
          if_pos rfl]
        rfl
      · rw [lines_cons hp hnext] at h
        obtain ⟨rfl, rfl⟩ := List.cons.inj h
        rw [if_neg hp]
        exact (unlines_append_cons [point] next _).trans (congrArg (point :: ·) (ih hnext))

/-- A text that stands on one line, or has no empty lines. -/
def IsFull (text : Text) : Prop := .scalar '\n' ∈ text → [] ∉ text.lines

/-- A full text that is not empty has no empty line. -/
theorem nil_not_mem_lines {text : Text} (h : text.IsFull) (hne : text ≠ []) : [] ∉ text.lines := by
  by_cases hfeed : .scalar '\n' ∈ text
  · exact h hfeed
  · rw [lines, splitAt_of_not_mem hfeed, List.mem_singleton]
    exact hne.symm

/-- Two full texts are full side by side. -/
theorem IsFull.append {first second : Text} (h : first.IsFull) (h' : second.IsFull)
    : (first ++ second).IsFull := by
  intro hfeed
  obtain ⟨before, last, hf⟩ := first.exists_lines_concat
  obtain ⟨next, after, hs⟩ := second.exists_lines_cons
  rw [IsFull, hf, List.mem_append, List.mem_singleton, not_or] at h
  rw [IsFull, hs, List.mem_cons, not_or] at h'
  rw [lines_append hf hs, List.mem_append, List.mem_cons, not_or, not_or, List.nil_eq,
    List.append_eq_nil_iff, not_and]
  by_cases hfirst : .scalar '\n' ∈ first <;> by_cases hsecond : .scalar '\n' ∈ second
  · exact ⟨(h hfirst).1, fun _ he => (h' hsecond).1 he.symm, (h' hsecond).2⟩
  · -- The second text is one line, which goes on with the last line of the first.
    rw [lines, splitAt_of_not_mem hsecond] at hs
    obtain ⟨rfl, rfl⟩ := List.cons.inj hs
    exact ⟨(h hfirst).1, fun he => absurd he.symm (h hfirst).2, List.not_mem_nil⟩
  · have hone : before ++ [last] = [] ++ [first] := hf.symm.trans (splitAt_of_not_mem hfirst)
    obtain ⟨rfl, _⟩ := List.append_inj' hone rfl
    exact ⟨List.not_mem_nil, fun _ he => (h' hsecond).1 he.symm, (h' hsecond).2⟩
  · exact absurd (List.mem_append.mp hfeed) (not_or.mpr ⟨hfirst, hsecond⟩)

/-- Only the last line of a text matters for what is put at its end. -/
theorem IsFull.append_of_append {text ending behind : Text} (h : (text ++ ending).IsFull)
    (he : .scalar '\n' ∉ ending) (hb : .scalar '\n' ∉ behind) (hne : behind ≠ [])
    : (text ++ behind).IsFull := by
  intro hfeed
  obtain ⟨before, last, ht⟩ := exists_lines_concat text
  have htext : .scalar '\n' ∈ text := (List.mem_append.mp hfeed).resolve_right hb
  have hfull := h (List.mem_append_left ending htext)
  rw [lines_append ht (splitAt_of_not_mem he), List.mem_append, not_or] at hfull
  rw [lines_append ht (splitAt_of_not_mem hb), List.mem_append, not_or, List.mem_singleton,
    List.nil_eq, List.append_eq_nil_iff, not_and]
  exact ⟨hfull.1, fun _ => hne⟩

/-- What stands in front of a line at a depth of nesting. -/
def margin (indent : Text) (depth : Nat) : Text := (List.replicate depth indent).flatten

/-- A margin of no indentation is nothing. -/
@[simp]
theorem margin_nil (depth : Nat) : margin [] depth = [] := List.flatten_replicate_nil

/-- Outside of blocks there is no margin. -/
@[simp]
theorem margin_zero (indent : Text) : indent.margin 0 = [] := rfl

/-- One block deeper there is one more unit of indentation. -/
theorem margin_succ (indent : Text) (depth : Nat)
    : indent.margin (depth + 1) = indent ++ indent.margin depth := by
  rw [margin, List.replicate_succ, List.flatten_cons, margin]

/-- Margins have no line feeds. -/
theorem not_mem_margin {indent : Text} (h : .scalar '\n' ∉ indent) (depth : Nat)
    : .scalar '\n' ∉ indent.margin depth := by
  intro hm
  obtain ⟨unit, hu, hm⟩ := List.mem_flatten.mp hm
  exact h (List.eq_of_mem_replicate hu ▸ hm)

end Text

namespace Fragment

/-- A line that stands further inside. -/
def indentedLine (indent line : Text) : Text := if line = [] then line else indent ++ line

/-- The lines of some fragments, further inside, and the brace behind them. -/
def innerLines (indent : Text) (fragments : List Text) : List Text :=
  (fragments.flatMap Text.lines).map (indentedLine indent) ++ ([("\x7d" : Text)])

/-- What stands in braces is a line with the brace and the lines further inside. -/
theorem enclosed_eq (indent : Text) (fragments : List Text)
    : enclosed indent fragments = Text.unlines (("\x7b" : Text) :: innerLines indent fragments) := by
  unfold enclosed innerLines
  split
  · subst fragments
    rfl
  · rename_i hne
    have hlines : (fragments.flatMap Text.lines).map (indentedLine indent) ≠ [] := by
      obtain ⟨first, rest, rfl⟩ := List.exists_cons_of_ne_nil hne
      rw [List.flatMap_cons, ne_eq, List.map_eq_nil_iff, List.append_eq_nil_iff, not_and]
      exact fun h => absurd h (Text.splitAt_ne_nil _ first)
    rw [Text.unlines_cons _ (List.append_ne_nil_of_left_ne_nil hlines _),
      Text.unlines_concat _ hlines, indented]
    simp only [List.append_assoc]
    rfl

/-- The lines of fragments between braces, where the first brace stands behind another text. -/
theorem lines_enclosed {indent lead : Text} (hindent : .scalar '\n' ∉ indent)
    (hlead : .scalar '\n' ∉ lead) (fragments : List Text)
    : Text.lines (lead ++ enclosed indent fragments)
      = (lead ++ ("\x7b" : Text)) :: innerLines indent fragments := by
  have hlines : Text.lines (enclosed indent fragments)
      = ("\x7b" : Text) :: innerLines indent fragments := by
    rw [enclosed_eq, Text.lines_unlines (List.cons_ne_nil _ _)]
    refine Text.flatMap_lines fun line hm => ?_
    simp only [innerLines, List.mem_cons, List.mem_append, List.mem_map, List.mem_flatMap,
      List.not_mem_nil, or_false] at hm
    rcases hm with rfl | ⟨inner, ⟨fragment, _, hl⟩, rfl⟩ | rfl
    · decide
    · have hinner := Text.not_mem_of_mem_splitAt hl
      unfold indentedLine
      split
      · exact hinner
      · rw [List.mem_append, not_or]
        exact ⟨hindent, hinner⟩
    · decide
  have hlead' : Text.lines lead = [] ++ [lead] := Text.splitAt_of_not_mem hlead
  exact Text.lines_append hlead' hlines

/-- A compound statement opens its brace on the line of its header. -/
theorem lines_compound {indent header : Text} (hindent : .scalar '\n' ∉ indent)
    (hheader : .scalar '\n' ∉ header) (fragments : List Text)
    : Text.lines (compound indent header fragments)
      = (header ++ " \x7b") :: innerLines indent fragments := by
  have hlead : .scalar '\n' ∉ header ++ (" " : Text) := by
    rw [List.mem_append, not_or]
    exact ⟨hheader, by decide⟩
  rw [compound, lines_enclosed hindent hlead, List.append_assoc]
  rfl

/-- What follows a compound statement goes on with the line of its closing brace. -/
theorem lines_compound_append {indent header : Text} (hindent : .scalar '\n' ∉ indent)
    (hheader : .scalar '\n' ∉ header) (fragments : List Text) {behind next : Text}
    {after : List Text} (h : Text.lines behind = next :: after)
    : Text.lines (compound indent header fragments ++ behind)
      = (header ++ " \x7b")
          :: ((fragments.flatMap Text.lines).map (indentedLine indent)
            ++ (("\x7d" : Text) ++ next) :: after) := by
  have hfirst : Text.lines (compound indent header fragments)
      = (header ++ " \x7b") :: (fragments.flatMap Text.lines).map (indentedLine indent)
          ++ [("\x7d" : Text)] :=
    lines_compound hindent hheader fragments
  exact Text.lines_append hfirst h

end Fragment

end DeviceScript
