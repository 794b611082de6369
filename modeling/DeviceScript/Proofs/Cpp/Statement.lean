import DeviceScript.Proofs.Cpp.Phrase
import DeviceScript.Proofs.Text.Lines
import Mathlib.Data.List.Basic

/-! A reader of C++ statements that goes from line to line. A line opens or closes a brace, does both,
or holds statements that end in semicolons. The expressions in the statements are left as they are
spelled.
-/

namespace DeviceScript.Cpp

/-- The structure of a statement above the texts of its expressions. -/
inductive Statement where
  /-- A statement that ends in a semicolon, without the semicolon. -/
  | simple (text : Text)
  | block (body : List Statement)
  | conditional (test : Text) (body : List Statement) (alternative : Option Statement)
  | whileLoop (test : Text) (body : List Statement)
  | forLoop (initial test advance : Text) (body : List Statement)
  | function (name : Text) (parameters : List Text) (body : List Statement)

/-- The tests and bodies of some branches of a conditional. -/
abbrev Branches := List (Text × List Statement)

/-- A conditional with further branches in front of it. -/
def Statement.chain (branches : Branches) (last : Statement) : Statement :=
  branches.foldr (fun branch rest => conditional branch.1 branch.2 (some rest)) last

/-- What a brace is opened for. A branch of a conditional comes with the branches in front of it. -/
inductive Opening where
  | block
  | conditional (earlier : Branches) (test : Text)
  | otherwise (earlier : Branches)
  | whileLoop (test : Text)
  | forLoop (initial test advance : Text)
  | function (name : Text) (parameters : List Text)

/-- The part of a line between a beginning and an end. -/
def between? (opening ending line : Text) : Option Text :=
  (line.dropPrefix? opening).bind (·.dropSuffix? ending)

namespace Opening

/-- The statement that ends with a closing brace. -/
def close (body : List Statement) : Opening → Statement
  | block => .block body
  | conditional earlier test => .chain earlier (.conditional test body none)
  | otherwise earlier => .chain earlier (.block body)
  | whileLoop test => .whileLoop test body
  | forLoop initial test advance => .forLoop initial test advance body
  | function name parameters => .function name parameters body

/-- What is opened behind an `else`, where another test may stand. -/
def alternate? (test : Option Text) (body : List Statement) : Opening → Option Opening
  | conditional earlier before =>
    let branches := earlier ++ [(before, body)]
    some (test.elim (otherwise branches) (conditional branches))
  | _ => none

/-- A loop header of three slots. -/
def loop? (header : Text) : Option Opening :=
  match pieces .outside header with
  | [initial, test, advance] => some (forLoop (trimmed initial) (trimmed test) (trimmed advance))
  | _ => none

/-- The name of a function and its parameters. -/
def signature (text : Text) : Opening :=
  let list := (text.dropWhile (· ≠ .scalar '(')).drop 1
  function (text.takeWhile (· ≠ .scalar '('))
    (if list = [] then [] else (Text.splitAt ',' list).map trimmed)

/-- What a line opens that closes nothing. -/
def read? (line : Text) : Option Opening :=
  if line = "\x7b" then some block
  else
    match between? "if (" ") \x7b" line with
    | some test => some (conditional [] test)
    | none =>
      match between? "while (" ") \x7b" line with
      | some test => some (whileLoop test)
      | none =>
        match between? "for (" ") \x7b" line with
        | some header => loop? header
        | none => (between? "void " ") \x7b" line).map signature

end Opening

/-- The statements on a line that ends in a semicolon. -/
def statements? (line : Text) : Option (List Statement) :=
  let parts := pieces .outside line
  if parts.getLast? = some [] then some (parts.dropLast.map fun part => .simple (trimmed part))
  else none

/-- What has been read of a text. -/
structure Reading where
  /-- The open braces, innermost first, each with the statements in front of it. -/
  levels : List (Opening × List Statement) := []
  /-- The statements behind the innermost open brace. -/
  done : List Statement := []

namespace Reading

def add (reading : Reading) (statements : List Statement) : Reading :=
  { reading with done := reading.done ++ statements }

def enter (reading : Reading) (opening : Opening) : Reading where
  levels := (opening, reading.done) :: reading.levels

def leave? (reading : Reading) : Option Reading :=
  match reading.levels with
  | [] => none
  | (opening, before) :: levels =>
    some { levels, done := before ++ [opening.close reading.done] }

def alternate? (reading : Reading) (test : Option Text) : Option Reading :=
  match reading.levels with
  | [] => none
  | (opening, before) :: levels =>
    (opening.alternate? test reading.done).map fun next => { levels := (next, before) :: levels }

end Reading

/-- Reads one more line. Blanks in front of it do not count. -/
def readLine (reading : Reading) (line : Text) : Option Reading :=
  let line := trimmed line
  if line = [] then some reading
  else if line.getLast? = some (.scalar ';') then (statements? line).map reading.add
  else if line = "\x7d" then reading.leave?
  else if line = "\x7d else \x7b" then reading.alternate? none
  else
    match between? "\x7d else if (" ") \x7b" line with
    | some test => reading.alternate? test
    | none => (Opening.read? line).map reading.enter

/-- Reads the statements of a text to its end, where no brace may be open. -/
def readStatements (text : Text) : Option (List Statement) := do
  let reading ← text.lines.foldlM readLine {}
  if reading.levels.isEmpty then some reading.done else none

-----------------------------------------------------------------------------------------
-- What a single line is read as
-----------------------------------------------------------------------------------------

/-- A chain of branches grows by one branch at its end. -/
theorem Statement.chain_concat (branches : Branches) (test : Text) (body : List Statement)
    (last : Statement)
    : chain (branches ++ [(test, body)]) last
      = chain branches (conditional test body (some last)) :=
  List.foldr_append

/-- What is between an opening and an ending is found there, and nothing else. -/
theorem between?_eq_some_iff {opening ending line part : Text}
    : between? opening ending line = some part ↔ line = opening ++ part ++ ending := by
  simp only [between?, Option.bind_eq_some_iff, List.dropPrefix?_eq_some_iff,
    List.dropSuffix?_eq_some_iff, beq_iff_eq]
  constructor
  · rintro ⟨rest, ⟨opening, rfl, rfl⟩, ending, rfl, rfl⟩
    exact (List.append_assoc _ _ _).symm
  · rintro rfl
    exact ⟨part ++ ending, ⟨opening, List.append_assoc _ _ _, rfl⟩, ending, rfl, rfl⟩

/-- The part between a keyword and an opening brace is found. -/
theorem between?_header (keyword part : Text)
    : between? keyword ") \x7b" (keyword ++ part ++ ")" ++ " \x7b") = some part :=
  between?_eq_some_iff.mpr (List.append_assoc _ _ _)

/-- A line that starts with another code point does not have a beginning. -/
theorem between?_eq_none {opening line ending : Text} {first first' : CodePoint}
    (h : opening.head? = some first) (h' : line.head? = some first') (apart : first' ≠ first)
    : between? opening ending line = none := by
  cases hb : between? opening ending line with
  | none => rfl
  | some part =>
      rw [between?_eq_some_iff.mp hb, List.append_assoc, List.head?_append, h] at h'
      exact absurd (Option.some.inj h').symm apart

/-- A line that opens a brace and closes none is read as what it opens. -/
theorem readLine_opening (reading : Reading) {line : Text} {first : CodePoint}
    (hf : line.head? = some first) (seen : isBlank first = false) (apart : first ≠ '\x7d')
    (hl : line.getLast? = some (.scalar '\x7b'))
    : readLine reading line = (Opening.read? line).map reading.enter := by
  have htrim : trimmed line = line := by
    obtain ⟨rest, rfl⟩ := List.head?_eq_some_iff.mp hf
    exact List.dropWhile_cons_of_neg (ne_true_of_eq_false seen)
  have hhead : line.head? ≠ some (.scalar '\x7d') := by
    rw [hf]
    exact fun he => apart (Option.some.inj he)
  simp only [readLine, htrim]
  rw [if_neg, if_neg, if_neg, if_neg, between?_eq_none rfl hf apart]
  · rintro rfl
    exact hhead rfl
  · rintro rfl
    exact hhead rfl
  · rw [hl]
    decide
  · rintro rfl
    exact absurd hl nofun

/-- A line that starts with a word and ends with a brace is read as what it opens. -/
theorem readLine_compound (reading : Reading) {keyword middle : Text} {first : CodePoint}
    (hk : keyword.head? = some first) (seen : isBlank first = false) (apart : first ≠ '\x7d')
    : readLine reading (keyword ++ middle ++ ")" ++ " \x7b")
      = (Opening.read? (keyword ++ middle ++ ")" ++ " \x7b")).map reading.enter := by
  refine readLine_opening reading ?_ seen apart ?_
  · rw [List.append_assoc, List.append_assoc, List.head?_append, hk]
    rfl
  · rw [List.getLast?_append]
    rfl

/-- The first line of a conditional opens one. -/
theorem readLine_conditional (reading : Reading) (test : Text)
    : readLine reading ("if (" ++ test ++ ")" ++ " \x7b")
      = some (reading.enter (.conditional [] test)) := by
  have hread : Opening.read? ("if (" ++ test ++ ")" ++ " \x7b") = some (.conditional [] test) := by
    rw [Opening.read?, if_neg nofun, between?_header]
  rw [readLine_compound reading rfl rfl (by decide), hread]
  rfl

/-- The test behind an `else` belongs to the next branch of the conditional. -/
theorem readLine_alternate (reading : Reading) (test : Text)
    : readLine reading ("\x7d else if (" ++ test ++ ")" ++ " \x7b")
      = reading.alternate? (some test) := by
  have htrim : trimmed ("\x7d else if (" ++ test ++ ")" ++ " \x7b")
      = "\x7d else if (" ++ test ++ ")" ++ " \x7b" := rfl
  have hlast : ("\x7d else if (" ++ test ++ ")" ++ " \x7b" : Text).getLast?
      = some (.scalar '\x7b') := by
    rw [List.getLast?_append]
    rfl
  have hne : ∀ line : Text, line.length ≤ 8
      → "\x7d else if (" ++ test ++ ")" ++ " \x7b" ≠ line := by
    rintro line hle rfl
    simp only [List.length_append] at hle
    change 11 + _ + _ + _ ≤ 8 at hle
    omega
  simp only [readLine, htrim]
  rw [if_neg (hne _ (by decide)), if_neg (by rw [hlast]; decide), if_neg (hne _ (by decide)),
    if_neg (hne _ (by decide)), between?_header]

/-- The first line of a loop opens one. -/
theorem readLine_whileLoop (reading : Reading) (test : Text)
    : readLine reading ("while (" ++ test ++ ")" ++ " \x7b")
      = some (reading.enter (.whileLoop test)) := by
  have hread : Opening.read? ("while (" ++ test ++ ")" ++ " \x7b") = some (.whileLoop test) := by
    rw [Opening.read?, if_neg nofun, between?_eq_none rfl rfl (by decide), between?_header]
  rw [readLine_compound reading rfl rfl (by decide), hread]
  rfl

/-- The first line of a loop with a header opens one, with the three parts of the header. -/
theorem readLine_forLoop (reading : Reading) {initial test advance : Text}
    (hi : IsSlot initial) (ht : IsSlot test) (ha : IsSlot advance)
    : readLine reading ("for (" ++ (initial ++ "; " ++ test ++ "; " ++ advance) ++ ")" ++ " \x7b")
      = some (reading.enter (.forLoop initial test advance)) := by
  have hblank : IsQuiet " " := rfl
  have hpieces : pieces .outside (initial ++ "; " ++ test ++ "; " ++ advance)
      = [initial, " " ++ test, " " ++ advance] := by
    simp only [List.append_assoc]
    refine (pieces_append hi.quiet _).trans (congrArg (initial :: ·) ?_)
    refine (pieces_append (hblank.append ht.quiet) _).trans (congrArg ((" " ++ test) :: ·) ?_)
    exact (hblank.append ha.quiet).pieces_eq
  have hblank' : ∀ text, trimmed (" " ++ text) = trimmed text := fun _ => rfl
  have hloop : Opening.loop? (initial ++ "; " ++ test ++ "; " ++ advance)
      = some (.forLoop initial test advance) := by
    simp only [Opening.loop?, hpieces, hblank', hi.trimmed_eq, ht.trimmed_eq, ha.trimmed_eq]
  have hread : Opening.read?
        ("for (" ++ (initial ++ "; " ++ test ++ "; " ++ advance) ++ ")" ++ " \x7b")
      = some (.forLoop initial test advance) := by
    rw [Opening.read?, if_neg nofun, between?_eq_none rfl rfl (by decide),
      between?_eq_none rfl rfl (by decide), between?_header]
    exact hloop
  rw [readLine_compound reading rfl rfl (by decide), hread]
  rfl

/-- A blank in front of a list does not change its members. -/
theorem map_trimmed_splitAt_blank (text : Text)
    : (Text.splitAt ',' (" " ++ text)).map trimmed = (Text.splitAt ',' text).map trimmed := by
  obtain ⟨piece, pieces, hs⟩ := List.exists_cons_of_ne_nil (Text.splitAt_ne_nil ',' text)
  have hblank : Text.splitAt ',' (" " ++ text) = (" " ++ piece) :: pieces := by
    change Text.splitAt ',' (.scalar ' ' :: text) = _
    rw [Text.splitAt, if_neg (by decide), hs]
    rfl
  rw [hblank, hs]
  rfl

/-- The members of a list with commas between them are read from it, by induction over the list. -/
theorem map_trimmed_splitAt_join {texts : List Text} (hne : texts ≠ [])
    (h : ∀ text ∈ texts, IsPhrase text ∧ .scalar ',' ∉ text)
    : (Text.splitAt ',' (Text.join ", " texts)).map trimmed = texts := by
  match texts, h with
  | [], _ => exact absurd rfl hne
  | [text], h =>
      obtain ⟨hp, hm⟩ := h text List.mem_cons_self
      rw [Text.join, Text.splitAt_of_not_mem hm, List.map_singleton, hp.trimmed_eq]
  | first :: second :: rest, h =>
      obtain ⟨hp, hm⟩ := h first List.mem_cons_self
      have hrest := map_trimmed_splitAt_join (List.cons_ne_nil second rest)
        fun text hm => h text (List.mem_cons_of_mem _ hm)
      have hsplit : Text.splitAt ',' (Text.join ", " (first :: second :: rest))
          = [first] ++ Text.splitAt ',' (" " ++ Text.join ", " (second :: rest)) := by
        rw [Text.join, List.append_assoc]
        · refine (Text.splitAt_append ',' first _).trans ?_
          rw [Text.splitAt_of_not_mem hm]
          rfl
        · exact List.cons_ne_nil _ _
      rw [hsplit, List.map_append, map_trimmed_splitAt_blank, hrest, List.map_singleton,
        hp.trimmed_eq]
      rfl

/-- The parameters of a function are read from the list of them. -/
theorem signature_eq {name : Text} {parameters : List Text} (hn : .scalar '(' ∉ name)
    (hp : ∀ parameter ∈ parameters, IsPhrase parameter ∧ .scalar ',' ∉ parameter)
    : Opening.signature (name ++ "(" ++ Text.join ", " parameters)
      = .function name parameters := by
  have hname : ∀ point ∈ name, (decide (point ≠ .scalar '(')) = true := by
    intro point hm
    rw [decide_eq_true_eq]
    rintro rfl
    exact hn hm
  have hlist : ((name ++ "(" ++ Text.join ", " parameters).dropWhile (· ≠ .scalar '(')).drop 1
      = Text.join ", " parameters := by
    rw [List.append_assoc, List.dropWhile_append_of_pos hname]
    rfl
  have htake : (name ++ "(" ++ Text.join ", " parameters).takeWhile (· ≠ .scalar '(') = name := by
    rw [List.append_assoc, List.takeWhile_append_of_pos hname]
    exact List.append_nil name
  rw [Opening.signature, hlist, htake]
  cases parameters with
  | nil => rfl
  | cons first rest =>
      have hne : Text.join ", " (first :: rest) ≠ [] := by
        rw [Text.join_cons]
        exact List.append_ne_nil_of_left_ne_nil (hp first List.mem_cons_self).1.ne_nil _
      rw [if_neg hne, map_trimmed_splitAt_join (List.cons_ne_nil _ _) hp]

/-- The first line of a function opens one, with its name and its parameters. -/
theorem readLine_function (reading : Reading) {name : Text} {parameters : List Text}
    (hn : .scalar '(' ∉ name)
    (hp : ∀ parameter ∈ parameters, IsPhrase parameter ∧ .scalar ',' ∉ parameter)
    : readLine reading ("void " ++ (name ++ "(" ++ Text.join ", " parameters) ++ ")" ++ " \x7b")
      = some (reading.enter (.function name parameters)) := by
  have hread : Opening.read? ("void " ++ (name ++ "(" ++ Text.join ", " parameters) ++ ")" ++ " \x7b")
      = some (.function name parameters) := by
    rw [Opening.read?, if_neg nofun, between?_eq_none rfl rfl (by decide),
      between?_eq_none rfl rfl (by decide), between?_eq_none rfl rfl (by decide), between?_header,
      Option.map_some, signature_eq hn hp]
  rw [readLine_compound reading rfl rfl (by decide), hread]
  rfl

/-- A statement with its semicolon. -/
def ended (text : Text) : Text := text ++ ";"

/-- Each statement on a line is a piece, and nothing stands behind the last semicolon. -/
theorem pieces_ended {first : Text} {rest : List Text} (hf : IsQuiet first)
    (hr : ∀ text ∈ rest, IsQuiet text)
    : pieces .outside (ended first ++ (rest.map ended).flatMap ((" " : Text) ++ ·))
      = first :: rest.map (" " ++ ·) ++ [[]] := by
  induction rest generalizing first with
  | nil => exact (congrArg _ (List.append_nil _)).trans (pieces_append hf [])
  | cons second rest ih =>
      have hblank : IsQuiet " " := rfl
      have hsecond := hblank.append (hr second List.mem_cons_self)
      have hrest := ih hsecond fun text hm => hr text (List.mem_cons_of_mem _ hm)
      rw [ended, List.append_assoc, List.map_cons, List.flatMap_cons]
      exact (pieces_append hf _).trans (congrArg (first :: ·) hrest)

/-- Statements with semicolons that stand side by side end with one. -/
theorem getLast?_ended (first : Text) (rest : List Text)
    : (ended first ++ (rest.map ended).flatMap ((" " : Text) ++ ·)).getLast? = some (.scalar ';') := by
  induction rest generalizing first with
  | nil => exact (congrArg _ (List.append_nil _)).trans List.getLast?_concat
  | cons second rest ih =>
      have hrest := ih (ended first ++ " " ++ second)
      rw [List.map_cons, List.flatMap_cons, ← List.append_assoc]
      exact (congrArg _ (by simp only [ended, List.append_assoc])).trans hrest

/-- The statements on a line are read in their order. -/
theorem readLine_statements (reading : Reading) {texts : List Text} (hne : texts ≠ [])
    (h : ∀ text ∈ texts, IsPhrase text)
    : readLine reading (Text.join " " (texts.map ended))
      = some (reading.add (texts.map .simple)) := by
  obtain ⟨first, rest, rfl⟩ := List.exists_cons_of_ne_nil hne
  have hf := h first List.mem_cons_self
  have hr : ∀ text ∈ rest, IsPhrase text := fun text hm => h text (List.mem_cons_of_mem _ hm)
  have hparts := pieces_ended hf.quiet fun text hm => (hr text hm).quiet
  have hstatements : statements? (ended first ++ (rest.map ended).flatMap ((" " : Text) ++ ·))
      = some ((first :: rest).map .simple) := by
    have hmembers : (first :: rest.map (" " ++ ·)).map (fun part => Statement.simple (trimmed part))
        = (first :: rest).map .simple := by
      rw [List.map_cons, hf.trimmed_eq, List.map_map]
      refine congrArg (Statement.simple first :: ·) (List.map_congr_left fun text hm => ?_)
      exact congrArg Statement.simple (hr text hm).trimmed_blank
    rw [statements?, hparts, if_pos List.getLast?_concat, List.dropLast_concat, hmembers]
  rw [List.map_cons, Text.join_cons]
  have hseen : trimmed (ended first ++ (rest.map ended).flatMap ((" " : Text) ++ ·))
      = ended first ++ (rest.map ended).flatMap ((" " : Text) ++ ·) := by
    rw [ended, List.append_assoc, hf.trimmed_append]
  simp only [readLine, hseen]
  rw [if_neg, if_pos (getLast?_ended first rest), hstatements]
  · rfl
  · intro hnil
    have hlast := getLast?_ended first rest
    rw [hnil] at hlast
    exact absurd hlast nofun

/-- No statements change nothing in what is read. -/
@[simp]
theorem Reading.add_nil (reading : Reading) : reading.add [] = reading :=
  congrArg (Reading.mk reading.levels) (List.append_nil reading.done)

/-- Statements are added one group after the other. -/
theorem Reading.add_add (reading : Reading) (first second : List Statement)
    : (reading.add first).add second = reading.add (first ++ second) :=
  congrArg (Reading.mk reading.levels) (List.append_assoc reading.done first second)

-----------------------------------------------------------------------------------------
-- Lines that hold statements, wherever they stand
-----------------------------------------------------------------------------------------

/-- Lines that hold some statements, wherever they stand. -/
def Reads (lines : List Text) (statements : List Statement) : Prop :=
  ∀ reading : Reading, lines.foldlM readLine reading = some (reading.add statements)

/-- Lines behind the brace of a branch of a conditional that hold the rest of it, whatever branches
stand in front. -/
def Continues (test : Text) (lines : List Text) (statement : Statement) : Prop :=
  ∀ (reading : Reading) (earlier : Branches),
    lines.foldlM readLine (reading.enter (.conditional earlier test))
      = some (reading.add [.chain earlier statement])

/-- Lines of which the first opens a conditional and the others hold the rest of it. -/
def ReadsConditional (lines : List Text) (statement : Statement) : Prop :=
  ∃ (test : Text) (after : List Text),
    lines = ("if (" ++ test ++ ")" ++ " \x7b") :: after ∧ Continues test after statement

/-- No lines hold no statements. -/
theorem reads_nil : Reads [] [] := fun reading => congrArg some reading.add_nil.symm

/-- Lines one below the other hold the statements of both. -/
theorem Reads.append {first second : List Text} {statements statements' : List Statement}
    (h : Reads first statements) (h' : Reads second statements')
    : Reads (first ++ second) (statements ++ statements') := by
  intro reading
  rw [List.foldlM_append, h]
  exact (h' _).trans (congrArg some (reading.add_add _ _))

/-- A line that is read to statements holds them. -/
theorem reads_single {line : Text} {statements : List Statement}
    (h : ∀ reading, readLine reading line = some (reading.add statements))
    : Reads [line] statements := by
  intro reading
  rw [List.foldlM_cons, h]
  rfl

/-- Statements on one line, each with its semicolon. -/
theorem reads_statements {texts : List Text} (hne : texts ≠ []) (h : ∀ text ∈ texts, IsPhrase text)
    : Reads (Text.lines (Text.join " " (texts.map ended))) (texts.map .simple) := by
  have hline : .scalar '\n' ∉ Text.join " " (texts.map ended) := by
    refine Text.not_mem_join (by decide) fun text hm => ?_
    obtain ⟨statement, hs, rfl⟩ := List.mem_map.mp hm
    rw [ended, List.mem_append, not_or]
    exact ⟨(h statement hs).quiet.not_mem, by decide⟩
  rw [Text.lines, Text.splitAt_of_not_mem hline]
  exact reads_single fun reading => readLine_statements reading hne h

/-- A phrase with a semicolon is a simple statement. -/
theorem reads_ended {text : Text} (h : IsPhrase text)
    : Reads (Text.lines (ended text)) [.simple text] :=
  reads_statements (List.cons_ne_nil text []) fun _ hm => List.mem_singleton.mp hm ▸ h

/-- The lines of fragments hold what the fragments hold. Fragments without a text hold nothing, so
it makes no difference whether they are left out. -/
theorem reads_present {α : Type} {list : List α} {text : α → Text} {statements : α → List Statement}
    (h : ∀ a ∈ list, Reads (text a).lines (statements a))
    : Reads ((Fragment.present (list.map text)).flatMap Text.lines) (list.flatMap statements) := by
  induction list with
  | nil => exact reads_nil
  | cons a rest ih =>
      have hrest := ih fun b hm => h b (List.mem_cons_of_mem _ hm)
      have ha := h a List.mem_cons_self
      rw [List.map_cons, Fragment.present, List.filter_cons, List.flatMap_cons]
      split
      · exact ha.append hrest
      · rename_i hnil
        have hnil : text a = [] := by simpa using hnil
        have hnone : statements a = [] := by
          have hread := ha {}
          rw [hnil] at hread
          exact (congrArg Reading.done (Option.some.inj hread)).symm
        rw [hnone]
        exact hrest

-----------------------------------------------------------------------------------------
-- Lines between braces hold what they hold on their own
-----------------------------------------------------------------------------------------

section Braces

variable {indent : Text} (hindent : ∀ point ∈ indent, isBlank point = true)

include hindent

/-- Indented lines hold the same statements. -/
theorem Reads.indented {lines : List Text} {statements : List Statement}
    (h : Reads lines statements)
    : Reads (lines.map (Fragment.indentedLine indent)) statements := by
  have hline : (fun reading line => readLine reading (Fragment.indentedLine indent line))
      = readLine := by
    funext reading line
    have htrim : trimmed (Fragment.indentedLine indent line) = trimmed line := by
      unfold Fragment.indentedLine
      split
      · rfl
      · exact List.dropWhile_append_of_pos hindent
    unfold readLine
    rw [htrim]
  intro reading
  rw [List.foldlM_map, hline]
  exact h reading

variable {fragments : List Text} {body : List Statement}
  (h : Reads (fragments.flatMap Text.lines) body)

include h

/-- The lines between braces are read up to the closing brace. -/
theorem foldlM_body (reading : Reading) (opening : Opening)
    : ((fragments.flatMap Text.lines).map (Fragment.indentedLine indent)).foldlM readLine
          (reading.enter opening)
      = some ((reading.enter opening).add body) :=
  h.indented hindent _

/-- The lines of a body and its brace close what has been opened, with the statements of
the body. -/
theorem foldlM_innerLines (reading : Reading) (opening : Opening)
    : (Fragment.innerLines indent fragments).foldlM readLine (reading.enter opening)
      = some (reading.add [opening.close body]) := by
  rw [Fragment.innerLines, List.foldlM_append, foldlM_body hindent h]
  rfl

/-- A line that opens a statement holds it together with the lines of its body. -/
theorem reads_braced {header : Text} {opening : Opening}
    (hheader : ∀ reading : Reading, readLine reading header = some (reading.enter opening))
    : Reads (header :: Fragment.innerLines indent fragments) [opening.close body] := by
  intro reading
  rw [List.foldlM_cons, hheader]
  exact foldlM_innerLines hindent h reading opening

/-- A conditional may end with the brace of any of its branches. -/
theorem continues_closed (test : Text)
    : Continues test (Fragment.innerLines indent fragments) (.conditional test body none) :=
  fun reading _ => foldlM_innerLines hindent h reading _

/-- A conditional goes on with the braces behind an `else`. -/
theorem continues_otherwise (test : Text) {fragments' : List Text} {body' : List Statement}
    (h' : Reads (fragments'.flatMap Text.lines) body')
    : Continues test
        ((fragments.flatMap Text.lines).map (Fragment.indentedLine indent)
          ++ ("\x7d else \x7b" : Text) :: Fragment.innerLines indent fragments')
        (.conditional test body (some (.block body'))) := by
  intro reading earlier
  have helse : readLine ((reading.enter (.conditional earlier test)).add body) "\x7d else \x7b"
      = some (reading.enter (.otherwise (earlier ++ [(test, body)]))) := rfl
  rw [List.foldlM_append, foldlM_body hindent h]
  change List.foldlM readLine ((reading.enter (.conditional earlier test)).add body) _ = _
  rw [List.foldlM_cons, helse, ← Statement.chain_concat]
  exact foldlM_innerLines hindent h' reading _

/-- A conditional goes on with another one behind an `else`. -/
theorem continues_chain (test : Text) {test' : Text} {lines : List Text} {alternative : Statement}
    (h' : Continues test' lines alternative)
    : Continues test
        ((fragments.flatMap Text.lines).map (Fragment.indentedLine indent)
          ++ ("\x7d else if (" ++ test' ++ ")" ++ " \x7b") :: lines)
        (.conditional test body (some alternative)) := by
  intro reading earlier
  rw [List.foldlM_append, foldlM_body hindent h]
  change List.foldlM readLine ((reading.enter (.conditional earlier test)).add body) _ = _
  rw [List.foldlM_cons, readLine_alternate, ← Statement.chain_concat]
  exact h' reading (earlier ++ [(test, body)])

end Braces

/-- The lines of a conditional hold it. -/
theorem ReadsConditional.reads {lines : List Text} {statement : Statement}
    (h : ReadsConditional lines statement)
    : Reads lines [statement] := by
  obtain ⟨test, after, rfl, hafter⟩ := h
  intro reading
  rw [List.foldlM_cons, readLine_conditional]
  exact hafter reading []

/-- Fragments one below another, of which each is complete, read as what they hold together. -/
theorem readStatements_unlines {fragments : List Text} {statements : List Statement}
    (h : Reads (fragments.flatMap Text.lines) statements)
    : readStatements (Text.unlines fragments) = some statements := by
  have hlines : (Text.unlines fragments).lines.foldlM readLine {}
      = some (Reading.add {} statements) := by
    cases fragments with
    | nil => exact h {}
    | cons first rest =>
        rw [Text.lines_unlines (List.cons_ne_nil first rest)]
        exact h {}
  rw [readStatements, hlines]
  rfl

end DeviceScript.Cpp
