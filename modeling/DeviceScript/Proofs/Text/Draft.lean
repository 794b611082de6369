import DeviceScript.Proofs.Text.Lines
import Mathlib.Data.List.DropRight

/-! Texts whose indentation is still open. A draft tells of each of its line breaks how many braced
blocks the line behind it lies in, and the text that it becomes starts that line with as many units
of indentation.
-/

namespace DeviceScript

/-- A code point of a draft, or a line break with the number of braced blocks around the line behind
it. -/
inductive Stroke where
  | code (point : CodePoint)
  | feed (depth : Nat)
  deriving DecidableEq

namespace Stroke

def depth? : Stroke → Option Nat
  | code _ => none
  | feed depth => some depth

/-- A stroke inside one more block. -/
def deeper : Stroke → Stroke
  | code point => .code point
  | feed depth => .feed (depth + 1)

/-- What a text has for a stroke. -/
def written (indent : Text) : Stroke → Text
  | code point => [point]
  | feed depth => .scalar '\n' :: indent.margin depth

end Stroke

abbrev Draft := List Stroke

namespace Draft

/-- A text without line breaks as a draft. -/
def ofText (text : Text) : Draft := text.map .code

instance : Coe Text Draft := ⟨ofText⟩

/-- The text that a draft becomes. -/
def text (indent : Text) (draft : Draft) : Text := draft.flatMap (Stroke.written indent)

/-- The depths of the lines behind the line breaks. -/
def feeds (draft : Draft) : List Nat := draft.filterMap Stroke.depth?

/-- The number of braced blocks around each line. -/
def depths (draft : Draft) : List Nat := 0 :: draft.feeds

def join (separator : Draft) : List Draft → Draft
  | [] => []
  | [draft] => draft
  | draft :: rest => draft ++ separator ++ join separator rest

/-- Drafts one below another. -/
def unlines (drafts : List Draft) : Draft := join [Stroke.feed 0] drafts

/-- Drafts between braces on lines of their own. -/
def enclosed (drafts : List Draft) : Draft :=
  if drafts = [] then "\x7b" ++ [Stroke.feed 0] ++ "\x7d"
  else "\x7b" ++ [Stroke.feed 1] ++ (unlines drafts).map Stroke.deeper ++ [Stroke.feed 0] ++ "\x7d"

def compound (header : Draft) (drafts : List Draft) : Draft :=
  header ++ " " ++ enclosed drafts

def present (drafts : List Draft) : List Draft := drafts.filter (· ≠ [])

def terminated (draft : Draft) : Draft := if draft = [] then [] else draft ++ ";"

def dropTrailing (point : CodePoint) (draft : Draft) : Draft :=
  draft.rdropWhile (· = .code point)

section Text

variable (indent : Text)

/-- A text without line breaks becomes itself. -/
@[simp]
theorem text_ofText (text : Text) : (ofText text).text indent = text := by
  rw [ofText, Draft.text, List.flatMap_map]
  exact List.flatMap_singleton' text

/-- Drafts side by side become texts side by side. -/
@[simp]
theorem text_append (first second : Draft)
    : (first ++ second).text indent = first.text indent ++ second.text indent :=
  List.flatMap_append

/-- A line break becomes a line feed and the margin of the line behind it. -/
theorem text_feed (depth : Nat)
    : text indent [.feed depth] = .scalar '\n' :: indent.margin depth :=
  List.append_nil _

/-- Only the empty draft becomes nothing. -/
theorem text_eq_nil {draft : Draft} : draft.text indent = [] ↔ draft = [] := by
  cases draft with
  | nil => exact iff_of_true rfl rfl
  | cons stroke rest => cases stroke <;> exact iff_of_false nofun nofun

/-- Joined drafts become joined texts. -/
@[simp]
theorem text_join (separator : Draft) (drafts : List Draft)
    : (join separator drafts).text indent
      = Text.join (separator.text indent) (drafts.map (text indent)) := by
  fun_induction join separator drafts with
  | case1 => rfl
  | case2 draft => rfl
  | case3 draft rest hne ih =>
      obtain ⟨second, rest, rfl⟩ := List.exists_cons_of_ne_nil hne
      rw [text_append, text_append, ih]
      rfl

/-- Drafts one below the other become texts one below the other. -/
theorem text_unlines (drafts : List Draft)
    : (unlines drafts).text indent = Text.unlines (drafts.map (text indent)) :=
  text_join indent [.feed 0] drafts

/-- The drafts with something in them become the texts with something in them. -/
theorem map_text_present (drafts : List Draft)
    : (present drafts).map (text indent) = Fragment.present (drafts.map (text indent)) := by
  rw [present, Fragment.present, List.filter_map]
  refine congrArg _ (List.filter_congr fun draft _ => ?_)
  simp only [Function.comp_apply, ne_eq, text_eq_nil]

/-- A draft with a semicolon becomes its text with a semicolon. -/
theorem text_terminated (draft : Draft)
    : draft.terminated.text indent = Fragment.terminated (draft.text indent) := by
  simp only [terminated, Fragment.terminated, text_eq_nil]
  split
  · rfl
  · simp only [text_append, text_ofText]

end Text

-----------------------------------------------------------------------------------------
-- The lines of a draft and the blocks around them
-----------------------------------------------------------------------------------------

/-- A text without line breaks has no lines behind them. -/
@[simp]
theorem feeds_ofText (text : Text) : (ofText text).feeds = [] := by
  rw [feeds, ofText, List.filterMap_map]
  exact List.filterMap_eq_nil_iff.mpr fun point _ => rfl

/-- The line breaks of two drafts are those of the first one and of the second one. -/
@[simp]
theorem feeds_append (first second : Draft)
    : (first ++ second).feeds = first.feeds ++ second.feeds :=
  List.filterMap_append

/-- A draft without lines inside braces becomes one text with any indentation. -/
theorem text_eq_of_feeds {draft : Draft} (h : ∀ depth ∈ draft.feeds, depth = 0)
    (indent indent' : Text)
    : draft.text indent = draft.text indent' := by
  refine List.flatMap_congr fun stroke hm => ?_
  cases stroke with
  | code point => rfl
  | feed depth =>
      obtain rfl := h depth (List.mem_filterMap.mpr ⟨_, hm, rfl⟩)
      rfl

/-- What a text begins with does not depend on the indentation, which only stands behind line
breaks. -/
theorem startsWith_text {opening : Text} (h : .scalar '\n' ∉ opening) (draft : Draft)
    (indent indent' : Text)
    : (draft.text indent).startsWith opening = (draft.text indent').startsWith opening := by
  induction draft generalizing opening with
  | nil => rfl
  | cons stroke rest ih =>
      cases opening with
      | nil => simp only [Text.startsWith, List.isPrefixOf_nil_left]
      | cons first opening =>
          rw [List.mem_cons, not_or] at h
          cases stroke with
          | code point => exact congrArg (first == point && ·) (ih h.2)
          | feed depth =>
              have hfirst : (first == CodePoint.scalar '\n') = false := beq_false_of_ne (Ne.symm h.1)
              have hnone : ∀ behind : Text,
                  Text.startsWith (.scalar '\n' :: behind) (first :: opening) = false := by
                intro behind
                rw [Text.startsWith, List.isPrefixOf, hfirst, Bool.false_and]
              exact (hnone _).trans (hnone _).symm

section Lines

variable {draft : Draft} {indent : Text}

/-- The lines of a text, by induction over the draft: each of them is the line of the draft without
any indentation, behind as many units of indentation as there are blocks around it. -/
theorem lines_text (hdraft : .code '\n' ∉ draft) (hindent : .scalar '\n' ∉ indent)
    : (draft.text indent).lines
      = List.zipWith (fun depth line => indent.margin depth ++ line) draft.depths
          (draft.text []).lines := by
  induction draft with
  | nil => rfl
  | cons stroke rest ih =>
      rw [List.mem_cons, not_or] at hdraft
      obtain ⟨first, more, hplain⟩ := Text.exists_lines_cons (text [] rest)
      have hrest : (text indent rest).lines
          = first
              :: List.zipWith (fun depth line => indent.margin depth ++ line) (feeds rest) more := by
        rw [ih hdraft.2, hplain]
        rfl
      cases stroke with
      | code point =>
          have hp : point ≠ '\n' := fun he => hdraft.1 (he ▸ rfl)
          have hcons : ∀ indent, text indent (.code point :: rest) = point :: text indent rest :=
            fun _ => rfl
          rw [hcons, hcons, Text.lines_cons hp hrest, Text.lines_cons hp hplain]
          rfl
      | feed depth =>
          -- What stands behind the line break goes on with the first line of the rest.
          have hcons : ∀ indent, text indent (.feed depth :: rest)
              = .scalar '\n' :: (indent.margin depth ++ text indent rest) := fun _ => rfl
          have hmargin : (indent.margin depth).lines = [] ++ [indent.margin depth] :=
            Text.splitAt_of_not_mem (Text.not_mem_margin hindent depth)
          rw [hcons, hcons, Text.margin_nil, Text.lines_feed, Text.lines_feed,
            Text.lines_append hmargin hrest]
          simp only [List.nil_append, hplain]
          rfl

/-- Indentation makes no line empty. -/
theorem nil_not_mem_lines (hdraft : .code '\n' ∉ draft) (hindent : .scalar '\n' ∉ indent)
    (h : [] ∉ (draft.text []).lines)
    : [] ∉ (draft.text indent).lines := by
  rw [lines_text hdraft hindent, ← List.map_uncurry_zip_eq_zipWith, List.mem_map]
  rintro ⟨⟨depth, line⟩, hm, he⟩
  have hline : line = [] := (List.append_eq_nil_iff.mp he).2
  exact h (hline ▸ (List.of_mem_zip hm).2)

/-- There are as many depths as lines. -/
theorem length_depths (hdraft : .code '\n' ∉ draft)
    : draft.depths.length = (draft.text []).lines.length := by
  induction draft with
  | nil => rfl
  | cons stroke rest ih =>
      rw [List.mem_cons, not_or] at hdraft
      have hrest := ih hdraft.2
      cases stroke with
      | code point =>
          obtain ⟨first, more, hplain⟩ := Text.exists_lines_cons (text [] rest)
          have hp : point ≠ '\n' := fun he => hdraft.1 (he ▸ rfl)
          have hlines : (text [] (.code point :: rest)).lines = (point :: first) :: more :=
            Text.lines_cons hp hplain
          rw [hplain] at hrest
          rw [hlines]
          exact hrest
      | feed depth =>
          have hcons : text [] (.feed depth :: rest) = .scalar '\n' :: text [] rest := by
            rw [text, List.flatMap_cons, Stroke.written, Text.margin_nil]
            rfl
          rw [hcons, Text.lines_feed, List.length_cons, ← hrest]
          rfl

end Lines

-----------------------------------------------------------------------------------------
-- Drafts that can stand anywhere
-----------------------------------------------------------------------------------------

/-- What holds of drafts and of what stands between them holds of all of it. -/
theorem join_induct {motive : Draft → Prop} (nil : motive [])
    (append : ∀ first second, motive first → motive second → motive (first ++ second))
    {separator : Draft} (hs : motive separator) {drafts : List Draft}
    (h : ∀ draft ∈ drafts, motive draft)
    : motive (join separator drafts) := by
  fun_induction join separator drafts with
  | case1 => exact nil
  | case2 draft => exact h draft List.mem_cons_self
  | case3 draft rest _ ih =>
      have hrest := ih fun inner hm => h inner (List.mem_cons_of_mem _ hm)
      exact append _ _ (append _ _ (h draft List.mem_cons_self) hs) hrest

/-- The last line of the draft lies outside of its braces. -/
def Closes (draft : Draft) : Prop := ∀ depth ∈ draft.feeds.getLast?, depth = 0

/-- Two drafts side by side end outside of their braces if both do. -/
theorem Closes.append {first second : Draft} (h : first.Closes) (h' : second.Closes)
    : Closes (first ++ second) := by
  intro depth hd
  rw [feeds_append, List.getLast?_append] at hd
  cases hs : second.feeds.getLast? with
  | none => exact h depth (by rwa [hs] at hd)
  | some last => exact h' depth (by rwa [hs] at hd ⊢)

/-- A text on one line ends outside of braces. -/
theorem closes_ofText (text : Text) : (ofText text).Closes := by
  rw [Closes, feeds_ofText]
  exact nofun

/-- A line break outside of braces ends outside of them. -/
theorem closes_feed : Closes [.feed 0] := by
  intro depth hd
  exact (Option.some.inj hd).symm

/-- A draft that can stand anywhere: its code points stand on one line each, no line is empty unless
there is one line only, and its last line lies outside of its braces. -/
structure IsSolid (draft : Draft) : Prop where
  clean : .code '\n' ∉ draft
  full : (draft.text []).IsFull
  closes : draft.Closes

/-- A text without line feeds has none in its draft. -/
theorem clean_ofText {text : Text} (h : .scalar '\n' ∉ text) : .code '\n' ∉ ofText text := by
  intro hm
  obtain ⟨point, hp, he⟩ := List.mem_map.mp hm
  exact h (Stroke.code.inj he ▸ hp)

/-- A text on one line can stand anywhere. -/
theorem isSolid_ofText {text : Text} (h : .scalar '\n' ∉ text) : (ofText text).IsSolid where
  clean := clean_ofText h
  full := by
    rw [text_ofText]
    exact fun hm => absurd hm h
  closes := closes_ofText text

/-- Nothing can stand anywhere. -/
theorem isSolid_nil : IsSolid [] := isSolid_ofText List.not_mem_nil

/-- Two drafts without line feeds have none side by side. -/
theorem clean_append {first second : Draft} (h : .code '\n' ∉ first) (h' : .code '\n' ∉ second)
    : .code '\n' ∉ first ++ second := by
  rw [List.mem_append, not_or]
  exact ⟨h, h'⟩

/-- Two drafts that can stand anywhere can do so side by side. -/
theorem IsSolid.append {first second : Draft} (h : first.IsSolid) (h' : second.IsSolid)
    : IsSolid (first ++ second) where
  clean := clean_append h.clean h'.clean
  full := by
    rw [text_append]
    exact h.full.append h'.full
  closes := h.closes.append h'.closes

/-- Drafts that can stand anywhere can do so with a separator between them. -/
theorem IsSolid.join {separator : Draft} (hs : separator.IsSolid) {drafts : List Draft}
    (h : ∀ draft ∈ drafts, draft.IsSolid)
    : (join separator drafts).IsSolid :=
  join_induct isSolid_nil (fun _ _ => IsSolid.append) hs h

/-- A draft that can stand anywhere can do so with a semicolon behind it. -/
theorem IsSolid.terminated {draft : Draft} (h : draft.IsSolid) : draft.terminated.IsSolid := by
  unfold Draft.terminated
  split
  · exact isSolid_nil
  · exact h.append (isSolid_ofText (by decide))

/-- Strokes inside one more block stand for the text with one more unit of indentation behind each
of its line breaks. -/
theorem text_deeper {draft : Draft} (hdraft : .code '\n' ∉ draft) {indent : Text}
    (hindent : .scalar '\n' ∉ indent)
    : text indent (draft.map Stroke.deeper) = (draft.text indent).withMargins indent := by
  rw [text, text, List.flatMap_map, Text.withMargins, List.flatMap_assoc]
  refine List.flatMap_congr fun stroke hm => ?_
  cases stroke with
  | code point =>
      have hp : point ≠ '\n' := fun he => hdraft (he ▸ hm)
      rw [Stroke.deeper, Stroke.written, List.flatMap_singleton, if_neg hp]
  | feed depth =>
      have hmargin := Text.withMargins_of_not_mem indent (Text.not_mem_margin hindent depth)
      rw [Text.withMargins] at hmargin
      rw [Stroke.deeper, Stroke.written, Stroke.written, List.flatMap_cons, if_pos rfl, hmargin,
        Text.margin_succ]
      rfl

-----------------------------------------------------------------------------------------
-- Drafts between braces can stand anywhere, too
-----------------------------------------------------------------------------------------

section Bodies

variable {drafts : List Draft} (h : ∀ draft ∈ drafts, draft.IsSolid ∧ draft ≠ [])

include h

/-- No line of drafts one below another is empty. -/
theorem nil_not_mem_lines_unlines (hne : drafts ≠ []) : [] ∉ ((unlines drafts).text []).lines := by
  rw [text_unlines, Text.lines_unlines (by simpa using hne), List.mem_flatMap]
  rintro ⟨text, hm, hnil⟩
  obtain ⟨draft, hd, rfl⟩ := List.mem_map.mp hm
  obtain ⟨hsolid, hsome⟩ := h draft hd
  exact Text.nil_not_mem_lines hsolid.full (mt (text_eq_nil []).mp hsome) hnil

/-- Drafts one below the other have no line feeds of their own. -/
theorem clean_unlines : .code '\n' ∉ unlines drafts :=
  join_induct List.not_mem_nil (fun _ _ => clean_append) (by decide)
    fun draft hd => (h draft hd).1.clean

/-- Drafts that can stand anywhere can do so one below the other. -/
theorem isSolid_unlines : (unlines drafts).IsSolid where
  clean := clean_unlines h
  full := by
    by_cases hne : drafts = []
    · subst hne
      exact isSolid_nil.full
    · exact fun _ => nil_not_mem_lines_unlines h hne
  closes :=
    join_induct (closes_ofText []) (fun _ _ => Closes.append) closes_feed
      fun draft hd => (h draft hd).1.closes

/-- The lines of drafts one below another are put further inside by one unit each, since none of
them is empty. -/
theorem text_enclosed {indent : Text} (hindent : .scalar '\n' ∉ indent)
    : (enclosed drafts).text indent = Fragment.enclosed indent (drafts.map (text indent)) := by
  by_cases hne : drafts = []
  · subst hne
    rfl
  have hclean := clean_unlines h
  have htexts : drafts.map (text indent) ≠ [] := by simpa using hne
  have hfull := nil_not_mem_lines hclean hindent (nil_not_mem_lines_unlines h hne)
  have hlines : (drafts.map (text indent)).flatMap Text.lines
      = ((unlines drafts).text indent).lines := by
    rw [text_unlines, Text.lines_unlines htexts]
  -- An empty line would stay where it is, but there is none.
  have hinner : ((unlines drafts).text indent).lines.map (Fragment.indentedLine indent)
      = ((unlines drafts).text indent).lines.map (indent ++ ·) := by
    refine List.map_congr_left fun line hm => if_neg ?_
    rintro rfl
    exact hfull hm
  obtain ⟨first, rest, hcons⟩ := Text.exists_lines_cons ((unlines drafts).text indent)
  have hmargins := Text.unlines_map_append indent hcons
  rw [Fragment.enclosed_eq, Fragment.innerLines, hlines, hinner, hcons, List.map_cons,
    List.cons_append, Text.unlines_cons _ (List.cons_ne_nil _ _), ← List.cons_append,
    Text.unlines_concat _ (List.cons_ne_nil _ _), Text.unlines_append_cons, hmargins,
    ← text_deeper hclean hindent, enclosed, if_neg hne]
  simp only [text_append, text_ofText, text_feed, Text.margin_succ, Text.margin_zero,
    List.append_nil, List.append_assoc]
  rfl

/-- Drafts that can stand anywhere can do so in braces. -/
theorem isSolid_enclosed : (enclosed drafts).IsSolid where
  clean := by
    unfold enclosed
    split
    · decide
    · have hdeeper : .code '\n' ∉ (unlines drafts).map Stroke.deeper := by
        intro hm
        obtain ⟨stroke, hd, he⟩ := List.mem_map.mp hm
        cases stroke with
        | code point => exact clean_unlines h (he ▸ hd)
        | feed depth => exact absurd he nofun
      have hopen : .code '\n' ∉ ofText "\x7b" ++ [Stroke.feed 1] := by decide
      have hfeed : .code '\n' ∉ [Stroke.feed 0] := by decide
      exact clean_append (clean_append (clean_append hopen hdeeper) hfeed) (clean_ofText (by decide))
  full := by
    intro _ hnil
    have hlines : (Fragment.enclosed [] (drafts.map (text []))).lines
        = ("\x7b" : Text) :: Fragment.innerLines [] (drafts.map (text [])) :=
      @Fragment.lines_enclosed [] [] List.not_mem_nil List.not_mem_nil _
    rw [text_enclosed h List.not_mem_nil, hlines, Fragment.innerLines, List.mem_cons,
      List.mem_append, List.mem_map] at hnil
    rcases hnil with he | ⟨line, hm, he⟩ | he
    · exact absurd he (by decide)
    · have hline : line = [] := by
        unfold Fragment.indentedLine at he
        split at he <;> exact he
      subst hline
      by_cases hne : drafts = []
      · subst hne
        exact absurd hm List.not_mem_nil
      · rw [← Text.lines_unlines (by simpa using hne), ← text_unlines] at hm
        exact nil_not_mem_lines_unlines h hne hm
    · exact absurd he (by decide)
  closes := by
    unfold enclosed
    split
    · exact ((closes_ofText "\x7b").append closes_feed).append (closes_ofText "\x7d")
    · intro depth hd
      rw [feeds_append, feeds_ofText, List.append_nil, feeds_append, List.getLast?_append] at hd
      exact (Option.some.inj hd).symm

end Bodies

section Slot

variable {draft : Draft} (h : draft.Closes) {point : CodePoint} (hp : point ≠ '\n')

include h hp

/-- Nothing of the indentation of the last line can be dropped with what stands at its end, because
the line has none, by induction from the end of the draft. -/
theorem text_dropTrailing (indent : Text)
    : (draft.dropTrailing point).text indent = (draft.text indent).dropTrailing point := by
  have hdrop : ∀ text : Text, text.dropTrailing point = List.rdropWhile (· = point) text :=
    fun _ => rfl
  rw [hdrop, dropTrailing]
  induction draft using List.reverseRecOn with
  | nil => rfl
  | append_singleton draft stroke ih =>
      cases stroke with
      | code last =>
          have hcloses : Closes draft := by
            rwa [Closes, feeds_append, show feeds [.code last] = [] from rfl, List.append_nil] at h
          rw [text_append]
          by_cases hl : last = point
          · subst hl
            rw [List.rdropWhile_concat_pos _ _ _ (by simp), ih hcloses]
            exact (List.rdropWhile_concat_pos _ _ _ (by simp)).symm
          · rw [List.rdropWhile_concat_neg _ _ _ (by simpa using hl), text_append]
            exact (List.rdropWhile_concat_neg _ _ _ (by simpa using hl)).symm
      | feed depth =>
          -- The last line is empty and not indented, so its line break is the end of the text.
          have hdepth : depth = 0 := h depth (by simp [feeds, Stroke.depth?])
          subst hdepth
          rw [List.rdropWhile_concat_neg _ _ _ (by simp), text_append]
          exact (List.rdropWhile_concat_neg _ _ _ (by simpa using Ne.symm hp)).symm

end Slot

/-- A draft with something else at its end is solid, even if nothing is left of its last line. -/
theorem IsSolid.dropTrailing_append {draft : Draft} (h : draft.IsSolid) {point : CodePoint}
    (hp : point ≠ '\n') {behind : Text} (hb : .scalar '\n' ∉ behind) (hne : behind ≠ [])
    : IsSolid (draft.dropTrailing point ++ ofText behind) := by
  -- All that is dropped stands on the last line.
  obtain ⟨ending, hdraft, hending⟩ : ∃ ending : Text,
      draft.dropTrailing point ++ ofText ending = draft ∧ .scalar '\n' ∉ ending := by
    have htaken : ∀ stroke ∈ draft.rtakeWhile (· = .code point), stroke = .code point := by
      intro stroke hm
      simpa using List.mem_rtakeWhile_imp hm
    refine ⟨List.replicate (draft.rtakeWhile (· = .code point)).length point, ?_, ?_⟩
    · rw [ofText, List.map_replicate, ← List.eq_replicate_of_mem htaken, dropTrailing,
        List.rdropWhile_append_rtakeWhile]
    · exact fun hm => hp (List.eq_of_mem_replicate hm).symm
  have hfull := h.full
  have hcloses := h.closes
  rw [← hdraft, text_append, text_ofText] at hfull
  rw [← hdraft, Closes, feeds_append, feeds_ofText, List.append_nil] at hcloses
  constructor
  · exact clean_append (fun hm => h.clean ((List.rdropWhile_prefix _ _).subset hm)) (clean_ofText hb)
  · rw [text_append, text_ofText]
    exact hfull.append_of_append hending hb hne
  · exact Closes.append hcloses (closes_ofText behind)

/-- What is written with any indentation comes of one draft, which can stand anywhere. -/
structure Becomes (draft : Draft) (write : Text → Text) : Prop where
  solid : draft.IsSolid
  written : ∀ indent, .scalar '\n' ∉ indent → write indent = draft.text indent

/-- A text on one line is written alike with any indentation. -/
theorem becomes_ofText {text : Text} (h : .scalar '\n' ∉ text)
    : (ofText text).Becomes fun _ => text where
  solid := isSolid_ofText h
  written indent _ := (text_ofText indent text).symm

/-- What is written side by side comes of drafts side by side. -/
theorem Becomes.append {first second : Draft} {write write' : Text → Text} (h : first.Becomes write)
    (h' : second.Becomes write')
    : Becomes (first ++ second) fun indent => write indent ++ write' indent where
  solid := h.solid.append h'.solid
  written indent hi := by rw [text_append, h.written indent hi, h'.written indent hi]

/-- What is written with a semicolon comes of a draft with a semicolon. -/
theorem Becomes.terminated {draft : Draft} {write : Text → Text} (h : draft.Becomes write)
    : draft.terminated.Becomes fun indent => Fragment.terminated (write indent) where
  solid := h.solid.terminated
  written indent hi := by rw [text_terminated, h.written indent hi]

end Draft

end DeviceScript
