import DeviceScript.Proofs.Cpp.Statement
import DeviceScript.Proofs.Emission.Phrase
import DeviceScript.Proofs.Emission.Program

/-! Emission of statements keeps their structure: whatever is emitted for a program without an error
reads back as the statements of the program, level by level.
-/

namespace DeviceScript

open Cpp (IsPhrase IsQuiet Statement)

namespace Fragment

mutual

/-- The statements that a node stands for, where a declaration is a statement for each name. -/
def outline (style : Style) (depth : Nat) : Node → List Statement
  | .declaration declarations _ _ =>
    declarations.map fun node => .simple (text style depth node)
  | node => [statement style depth node]
termination_by node => (sizeOf node, 1)

/-- The statement that a node stands for, unless it is a declaration. -/
def statement (style : Style) (depth : Nat) : Node → Statement
  | .expressionStatement expression _ => .simple (text style depth expression)
  | .returning argument _ =>
    .simple (argument.elim "return" fun value => "return " ++ text style depth value)
  | .block body _ => .block (body.flatMap (outline style (depth + 1)))
  | .ifElse test consequent alternate _ =>
    .conditional (text style depth test)
      (consequent.inner.attach.flatMap fun node => outline style (depth + 1) node.1)
      (match alternate with
        | none => none
        | some node =>
          if node.isIfElse then some (statement style depth node)
          else
            some (.block (node.inner.attach.flatMap fun node => outline style (depth + 1) node.1)))
  | .whileLoop test body _ =>
    .whileLoop (text style depth test)
      (body.inner.attach.flatMap fun node => outline style (depth + 1) node.1)
  | .forLoop initial test advance body _ =>
    .forLoop (initial.elim [] (headerText style depth)) (test.elim [] (text style depth))
      (advance.elim [] (text style depth))
      (body.inner.attach.flatMap fun node => outline style (depth + 1) node.1)
  | .function name parameters body _ =>
    .function (text style depth name) (parameters.map (text style depth))
      (body.inner.attach.flatMap fun node => outline style (depth + 1) node.1)
  | _ => .simple []
termination_by node => (sizeOf node, 0)
decreasing_by
  all_goals try decreasing_tactic
  all_goals
    have hle := Node.sizeOf_inner_le node.2
    apply Prod.Lex.left
    simp only [Node.ifElse.sizeOf_spec, Node.whileLoop.sizeOf_spec, Node.forLoop.sizeOf_spec,
      Node.function.sizeOf_spec, Option.some.sizeOf_spec]
    omega

end

variable (style : Style) (depth : Nat)

/-- The alternative of a conditional is a conditional itself, or a block of what stands in it. -/
def alternative (node : Node) : Statement :=
  if node.isIfElse then statement style depth node
  else .block (node.inner.flatMap (outline style (depth + 1)))

-----------------------------------------------------------------------------------------
-- The statement that a node stands for, kind by kind
-----------------------------------------------------------------------------------------

/-- A block is the statements in it, one block deeper. -/
theorem statement_block (body : List Node) (location : Option Location)
    : statement style depth (.block body location)
      = .block (body.flatMap (outline style (depth + 1))) := by
  rw [statement.eq_def]

/-- A conditional is its test, its statements and its second branch. -/
theorem statement_ifElse (test consequent : Node) (alternate : Option Node)
    (location : Option Location)
    : statement style depth (.ifElse test consequent alternate location)
      = .conditional (text style depth test)
          (consequent.inner.flatMap (outline style (depth + 1)))
          (alternate.map (alternative style depth)) := by
  rw [statement.eq_def]
  simp only [List.flatMap_subtype, List.unattach_attach]
  cases alternate with
  | none => rfl
  | some node =>
      simp only [Option.map_some, alternative]
      split <;> rfl

/-- A loop is its test and its statements. -/
theorem statement_whileLoop (test body : Node) (location : Option Location)
    : statement style depth (.whileLoop test body location)
      = .whileLoop (text style depth test) (body.inner.flatMap (outline style (depth + 1))) := by
  rw [statement.eq_def]
  simp only [List.flatMap_subtype, List.unattach_attach]

/-- A loop with a header is the three parts of the header and its statements. -/
theorem statement_forLoop (initial test advance : Option Node) (body : Node)
    (location : Option Location)
    : statement style depth (.forLoop initial test advance body location)
      = .forLoop (initial.elim [] (headerText style depth)) (test.elim [] (text style depth))
          (advance.elim [] (text style depth))
          (body.inner.flatMap (outline style (depth + 1))) := by
  rw [statement.eq_def]
  simp only [List.flatMap_subtype, List.unattach_attach]

/-- A function is its name, its parameters and its statements. -/
theorem statement_function (name : Node) (parameters : List Node) (body : Node)
    (location : Option Location)
    : statement style depth (.function name parameters body location)
      = .function (text style depth name) (parameters.map (text style depth))
          (body.inner.flatMap (outline style (depth + 1))) := by
  rw [statement.eq_def]
  simp only [List.flatMap_subtype, List.unattach_attach]

-----------------------------------------------------------------------------------------
-- Declarators and the slots of loop headers are phrases
-----------------------------------------------------------------------------------------

section Leaves

variable {style : Style} (hshims : style.shims.IsQualified) (depth : Nat)

/-- A type that is declared is a phrase. -/
theorem isPhrase_declaredType (initial : Option Node) : IsPhrase (declaredType initial) := by
  have hvector : ∀ type : ElementType, IsPhrase ("std::vector<" ++ type.spelling ++ ">") := by
    intro type
    cases type <;> exact ⟨rfl, rfl⟩
  unfold declaredType
  split
  · exact hvector _
  · exact ⟨rfl, rfl⟩
  · exact ⟨rfl, rfl⟩

include hshims

/-- The parts of a declarator without an error are phrases. -/
theorem isPhrase_declarator {node : Node} (h : node.IsCleanDeclarator)
    : IsPhrase (text style depth node) ∧ IsPhrase (continuedText style depth node) := by
  cases h with
  | @declarator target initial location isClean isClean' =>
      have hblank : IsQuiet " " := rfl
      have hequal : IsQuiet " = " := rfl
      have htarget := isPhrase_text hshims depth isClean
      have hinitial : IsQuiet (initial.elim [] fun value => " = " ++ text style depth value) := by
        cases initial with
        | none => rfl
        | some value => exact hequal.append (isPhrase_text hshims depth (isClean' value rfl)).quiet
      rw [text_declarator, continuedText_declarator]
      exact ⟨(((isPhrase_declaredType initial).append hblank).append htarget.quiet).append hinitial,
        htarget.append hinitial⟩

/-- Each name of a declaration is a statement of its own. -/
theorem reads_declaration {node : Node} (h : node.IsCleanDeclaration)
    : Cpp.Reads (text style depth node).lines (outline style depth node) := by
  cases h with
  | @declaration first rest keyword location isClean =>
      have hphrase : ∀ text' ∈ (first :: rest).map (text style depth), IsPhrase text' := by
        intro text' hm
        obtain ⟨node, hn, rfl⟩ := List.mem_map.mp hm
        exact (isPhrase_declarator hshims depth (isClean node hn)).1
      have hpresent : present ((first :: rest).map (text style depth))
          = (first :: rest).map (text style depth) :=
        List.filter_eq_self.mpr fun text' hm => decide_eq_true (hphrase text' hm).ne_nil
      have hended : ((first :: rest).map (text style depth)).map terminated
          = ((first :: rest).map (text style depth)).map Cpp.ended :=
        List.map_congr_left fun text' hm => if_neg (hphrase text' hm).ne_nil
      have houtline : outline style depth (.declaration (first :: rest) keyword location)
          = ((first :: rest).map (text style depth)).map .simple := by
        rw [outline, List.map_map]
        rfl
      rw [text_declaration, hpresent, hended, houtline]
      exact Cpp.reads_statements (List.cons_ne_nil _ _) hphrase

omit hshims in
/-- An expression in the first slot of a loop header is written as it is, but for a
last semicolon. -/
theorem headerText_expression {node : Node} (h : node.IsCleanExpression)
    : headerText style depth node = Text.dropTrailing ';' (text style depth node) := by
  cases h <;> simp only [headerText, headerLayout, Cpp.Tree.print, text]

/-- The first slot of a loop header holds a phrase, even if it introduces several names. -/
theorem isPhrase_headerText {node : Node} (h : node.IsCleanDeclaration ∨ node.IsCleanExpression)
    : IsPhrase (headerText style depth node) := by
  rcases h with h | h
  · cases h with
    | @declaration first rest keyword location isClean =>
        have hfirst := (isPhrase_declarator hshims depth (isClean first List.mem_cons_self)).1
        have hcomma : IsQuiet ", " := rfl
        have hpresent : present (text style depth first :: rest.map (continuedText style depth))
            = text style depth first :: present (rest.map (continuedText style depth)) :=
          List.filter_cons_of_pos (decide_eq_true hfirst.ne_nil)
        rw [headerText_declaration, hpresent, Text.join_cons]
        refine hfirst.append (Cpp.isQuiet_flatMap hcomma fun text' hm => ?_)
        obtain ⟨node, hn, rfl⟩ := List.mem_map.mp (List.mem_of_mem_filter hm)
        have hnode := isClean node (List.mem_cons_of_mem _ hn)
        exact (isPhrase_declarator hshims depth hnode).2.quiet
  · have hphrase := isPhrase_text hshims depth h
    rw [headerText_expression depth h, hphrase.quiet.isUnended.dropTrailing_eq]
    exact hphrase

end Leaves

/-- A parameter without errors is a phrase without a comma. -/
theorem isPhrase_parameter {style : Style} (depth : Nat) {node : Node} (h : node.IsCleanParameter)
    : IsPhrase (text style depth node) ∧ .scalar ',' ∉ text style depth node := by
  cases h with
  | parameter isWord =>
      have htype : IsPhrase "auto " := ⟨rfl, rfl⟩
      rw [text_parameter, List.mem_append, not_or]
      exact ⟨htype.append (Cpp.isPhrase_word isWord).quiet, by decide,
        fun hm => absurd (Cpp.isWordPart_of_mem isWord hm) (by decide)⟩

/-- A slot of a loop header holds a phrase, if it is not empty. -/
theorem isSlot_optional {node : Option Node} {f : Node → Text} (h : ∀ inner ∈ node, IsPhrase (f inner))
    : Cpp.IsSlot (node.elim [] f) := by
  cases node with
  | none => exact Cpp.isSlot_nil
  | some node => exact (h node rfl).isSlot

/-- Lines are indented with spaces or tabs. -/
def IsMargin (indent : Text) : Prop := ∀ point ∈ indent, point = ' ' ∨ point = '\t'

/-- A margin consists of blanks. -/
theorem IsMargin.isBlank {indent : Text} (h : IsMargin indent)
    : ∀ point ∈ indent, Cpp.isBlank point = true := by
  intro point hm
  rcases h point hm with rfl | rfl <;> rfl

/-- A margin has no line feed. -/
theorem IsMargin.not_mem {indent : Text} (h : IsMargin indent) : .scalar '\n' ∉ indent := by
  intro hm
  rcases h _ hm with he | he <;> exact absurd he (by decide)

/-- The settings of a conversion ask for spaces. -/
theorem isMargin_indent (settings : Settings) : IsMargin settings.indent :=
  fun _ hm => .inl (List.eq_of_mem_replicate hm)

section Compound

variable {indent : Text} (hindent : IsMargin indent) {fragments : List Text} {body : List Statement}
  (h : Cpp.Reads (fragments.flatMap Text.lines) body)

include hindent h

/-- A header that opens a statement is read with the statements in braces behind it. -/
theorem reads_compound {header : Text} {opening : Cpp.Opening} (hheader : .scalar '\n' ∉ header)
    (hread : ∀ reading, Cpp.readLine reading (header ++ " \x7b") = some (reading.enter opening))
    : Cpp.Reads (compound indent header fragments).lines [opening.close body] := by
  rw [lines_compound hindent.not_mem hheader]
  exact Cpp.reads_braced hindent.isBlank h hread

/-- Statements in braces are read as a block. -/
theorem reads_enclosed : Cpp.Reads (enclosed indent fragments).lines [.block body] := by
  have hopening : ∀ reading : Cpp.Reading,
      Cpp.readLine reading "\x7b" = some (reading.enter .block) := fun _ => rfl
  have hlines : Text.lines ([] ++ enclosed indent fragments)
      = ("\x7b" : Text) :: innerLines indent fragments :=
    lines_enclosed hindent.not_mem List.not_mem_nil fragments
  rw [List.nil_append] at hlines
  rw [hlines]
  exact Cpp.reads_braced hindent.isBlank h hopening

end Compound

/-- The header of a conditional or of a loop with a test stands on one line. -/
theorem not_mem_header {keyword middle : Text} (hk : .scalar '\n' ∉ keyword)
    (hm : .scalar '\n' ∉ middle)
    : .scalar '\n' ∉ keyword ++ middle ++ (")" : Text) := by
  rw [List.mem_append, List.mem_append, not_or, not_or]
  exact ⟨⟨hk, hm⟩, by decide⟩

-----------------------------------------------------------------------------------------
-- Each kind of statement reads as what it stands for
-----------------------------------------------------------------------------------------

section Statements

variable {style : Style} {depth : Nat}

/-- The statements between the braces around a body, as they are written and as they are read. -/
def ReadsInner (style : Style) (depth : Nat) (nodes : List Node) : Prop :=
  Cpp.Reads ((present (nodes.map (text style (depth + 1)))).flatMap Text.lines)
    (nodes.flatMap (outline style (depth + 1)))

/-- A return is read as what it is. -/
theorem reads_returning {argument : Option Node} (location : Option Location)
    (h : ∀ value ∈ argument, IsPhrase (text style depth value))
    : Cpp.Reads (text style depth (.returning argument location)).lines
        (outline style depth (.returning argument location)) := by
  have hkeyword : IsPhrase "return" := ⟨rfl, rfl⟩
  have hspaced : IsPhrase "return " := ⟨rfl, rfl⟩
  rw [text_returning, outline, statement]
  · cases argument with
    | none => exact Cpp.reads_ended hkeyword
    | some value => exact Cpp.reads_ended (hspaced.append (h value rfl).quiet)
  · exact nofun

variable (hindent : IsMargin style.indent)

include hindent

/-- A loop with a header is read with the three parts of the header. -/
theorem reads_forLoop {initial test advance : Option Node} {body : Node}
    (location : Option Location) (hi : Cpp.IsSlot (initial.elim [] (headerText style depth)))
    (ht : Cpp.IsSlot (test.elim [] (text style depth)))
    (ha : Cpp.IsSlot (advance.elim [] (text style depth))) (h : ReadsInner style depth body.inner)
    : Cpp.Reads (text style depth (.forLoop initial test advance body location)).lines
        (outline style depth (.forLoop initial test advance body location)) := by
  have hmiddle : .scalar '\n' ∉ initial.elim [] (headerText style depth) ++ "; "
      ++ test.elim [] (text style depth) ++ "; " ++ advance.elim [] (text style depth) := by
    simp only [List.mem_append, not_or]
    exact ⟨⟨⟨⟨hi.quiet.not_mem, by decide⟩, ht.quiet.not_mem⟩, by decide⟩, ha.quiet.not_mem⟩
  have hheader : "for (" ++ initial.elim [] (headerText style depth) ++ "; "
        ++ test.elim [] (text style depth) ++ "; " ++ advance.elim [] (text style depth) ++ ")"
      = "for (" ++ (initial.elim [] (headerText style depth) ++ "; "
          ++ test.elim [] (text style depth) ++ "; " ++ advance.elim [] (text style depth))
          ++ (")" : Text) := by
    simp only [List.append_assoc]
  rw [text_forLoop, outline, statement_forLoop, hheader]
  · exact reads_compound hindent h (not_mem_header (by decide) hmiddle)
      fun reading => Cpp.readLine_forLoop reading hi ht ha
  · exact nofun

/-- A function outside of blocks is read with its name and its parameters. -/
theorem reads_function {name : Node} {parameters : List Node} {body : Node}
    (location : Option Location) (outermost : depth = 0)
    (hn : IsQuiet (text style depth name)) (hname : .scalar '(' ∉ text style depth name)
    (hp : ∀ node ∈ parameters,
      IsPhrase (text style depth node) ∧ .scalar ',' ∉ text style depth node)
    (h : ReadsInner style depth body.inner)
    : Cpp.Reads (text style depth (.function name parameters body location)).lines
        (outline style depth (.function name parameters body location)) := by
  have hparameters : ∀ parameter ∈ parameters.map (text style depth),
      IsPhrase parameter ∧ .scalar ',' ∉ parameter := by
    intro parameter hm
    obtain ⟨node, hn, rfl⟩ := List.mem_map.mp hm
    exact hp node hn
  have hopen : IsQuiet "(" := rfl
  have hcomma : IsQuiet ", " := rfl
  have hmiddle : IsQuiet
      (text style depth name ++ "(" ++ Text.join ", " (parameters.map (text style depth))) :=
    (hn.append hopen).append
      (Cpp.isQuiet_join hcomma fun parameter hm => (hparameters parameter hm).1.quiet)
  have hheader : "void " ++ text style depth name ++ "("
        ++ Text.join ", " (parameters.map (text style depth)) ++ ")"
      = "void " ++ (text style depth name ++ "("
          ++ Text.join ", " (parameters.map (text style depth))) ++ (")" : Text) := by
    simp only [List.append_assoc]
  rw [text_function, if_neg (by omega), outline, statement_function, hheader]
  · exact reads_compound hindent h (not_mem_header (by decide) hmiddle.not_mem)
      fun reading => Cpp.readLine_function reading hname hparameters
  · exact nofun

/-- The branches of a conditional are read one after another. -/
theorem readsConditional_ifElse {test consequent : Node} {alternate : Option Node}
    (location : Option Location) (ht : IsQuiet (text style depth test))
    (h : ReadsInner style depth consequent.inner)
    (hchains : ∀ node ∈ alternate, node.isIfElse = true
      → Cpp.ReadsConditional (text style depth node).lines (statement style depth node))
    (hcloses : ∀ node ∈ alternate, node.isIfElse = false → ReadsInner style depth node.inner)
    : Cpp.ReadsConditional (text style depth (.ifElse test consequent alternate location)).lines
        (statement style depth (.ifElse test consequent alternate location)) := by
  have hheader : .scalar '\n' ∉ "if (" ++ text style depth test ++ (")" : Text) :=
    not_mem_header (by decide) ht.not_mem
  refine ⟨text style depth test, ?_⟩
  rw [text_ifElse, statement_ifElse]
  cases alternate with
  | none =>
      refine ⟨_, ?_, Cpp.continues_closed hindent.isBlank h _⟩
      exact (congrArg Text.lines (List.append_nil _)).trans
        (lines_compound hindent.not_mem hheader _)
  | some node =>
      simp only [Option.elim, Option.map_some, alternateText, alternative]
      cases hi : node.isIfElse with
      | true =>
        obtain ⟨test', after, hlines, hafter⟩ := hchains node rfl hi
        have hword : Text.lines " else " = [] ++ [(" else " : Text)] := rfl
        have helse : Text.lines (" else " ++ text style depth node)
            = (" else " ++ ("if (" ++ test' ++ ")" ++ " \x7b")) :: after :=
          Text.lines_append hword hlines
        rw [if_pos rfl, if_pos rfl, lines_compound_append hindent.not_mem hheader _ helse]
        exact ⟨_, rfl, Cpp.continues_chain hindent.isBlank h _ hafter⟩
      | false =>
        have hword : .scalar '\n' ∉ (" else " : Text) := by decide
        have helse : Text.lines (" " ++ compound style.indent "else"
              (present (node.inner.map (text style (depth + 1)))))
            = (" else \x7b" : Text)
              :: innerLines style.indent (present (node.inner.map (text style (depth + 1)))) :=
          lines_enclosed hindent.not_mem hword _
        rw [if_neg Bool.false_ne_true, if_neg Bool.false_ne_true,
          lines_compound_append hindent.not_mem hheader _ helse]
        exact ⟨_, rfl, Cpp.continues_otherwise hindent.isBlank h _ (hcloses node rfl hi)⟩

end Statements

-----------------------------------------------------------------------------------------
-- Programs read as their statements
-----------------------------------------------------------------------------------------

/-- The text of a statement without an error reads as what it stands for, by induction over the
statement. That of a conditional also goes on where an `else` stands in front. -/
theorem reads_text {style : Style} (hshims : style.shims.IsQualified)
    (hindent : IsMargin style.indent) {depth : Nat} {node : Node} (h : node.IsCleanStatement depth)
    : Cpp.Reads (text style depth node).lines (outline style depth node)
      ∧ (node.isIfElse = true
        → Cpp.ReadsConditional (text style depth node).lines (statement style depth node)) := by
  induction h with
  | @expressionStatement depth expression location isClean =>
      have hphrase := isPhrase_text hshims depth isClean
      rw [text_expressionStatement, terminated, if_neg hphrase.ne_nil, outline, statement]
      · exact ⟨Cpp.reads_ended hphrase, nofun⟩
      · exact nofun
  | declaration isClean =>
      refine ⟨reads_declaration hshims _ isClean, ?_⟩
      cases isClean
      exact nofun
  | @block depth body location _ ih =>
      have hinner : ReadsInner style depth body := Cpp.reads_present fun node hm => (ih node hm).1
      rw [text_block, outline, statement_block]
      · exact ⟨reads_enclosed hindent hinner, nofun⟩
      · exact nofun
  | @ifElse depth test consequent alternate location isClean _ _ _ ih hchains hcloses =>
      have htest := isPhrase_text hshims depth isClean
      have hinner : ReadsInner style depth consequent.inner :=
        Cpp.reads_present fun inner hm => (ih inner hm).1
      have hconditional := readsConditional_ifElse hindent location htest.quiet hinner
        (fun node hn hi => (hchains node hn hi).2 hi)
        (fun node hn hi => Cpp.reads_present fun inner hm => (hcloses node hn hi inner hm).1)
      rw [outline]
      · exact ⟨hconditional.reads, fun _ => hconditional⟩
      · exact nofun
  | @whileLoop depth test body location isClean _ ih =>
      have htest := isPhrase_text hshims depth isClean
      have hinner : ReadsInner style depth body.inner :=
        Cpp.reads_present fun inner hm => (ih inner hm).1
      rw [text_whileLoop, outline, statement_whileLoop]
      · exact ⟨reads_compound hindent hinner (not_mem_header (by decide) htest.quiet.not_mem)
          fun reading => Cpp.readLine_whileLoop reading _, nofun⟩
      · exact nofun
  | @forLoop depth initial test advance body location opens tests advances _ ih =>
      have hinner : ReadsInner style depth body.inner :=
        Cpp.reads_present fun inner hm => (ih inner hm).1
      refine ⟨reads_forLoop hindent location ?_ ?_ ?_ hinner, nofun⟩
      · exact isSlot_optional fun node hn => isPhrase_headerText hshims _ (opens node hn)
      · exact isSlot_optional fun node hn => isPhrase_text hshims _ (tests node hn)
      · exact isSlot_optional fun node hn => isPhrase_text hshims _ (advances node hn)
  | @function name place parameters body location isWord isClean _ ih =>
      have hname : text style 0 (.identifier name place) = name := text_identifier _ _ _ _
      have hinner : ReadsInner style 0 body.inner :=
        Cpp.reads_present fun inner hm => (ih inner hm).1
      refine ⟨reads_function hindent location rfl ?_ ?_ ?_ hinner, nofun⟩
      · rw [hname]
        exact (Cpp.isPhrase_word isWord).quiet
      · rw [hname]
        exact fun hm => absurd (Cpp.isWordPart_of_mem isWord hm) (by decide)
      · exact fun node hn => isPhrase_parameter 0 (isClean node hn)
  | returning isClean =>
      refine ⟨reads_returning _ fun value hv => ?_, nofun⟩
      exact isPhrase_text hshims _ (isClean value hv)

/-- The text of a program without an error reads as the statements of the program, in their order
and nested as they are. The expressions in them are spelled as emission spells them on their own. -/
theorem readStatements_emitProgram (style : Style) (hshims : style.shims.IsQualified)
    (hindent : IsMargin style.indent) {body : List Node} (h : ∀ node ∈ body, node.IsStatement)
    (progress : Progress)
    (clean : ((emitProgram style body).run progress).1.hasFatal = false)
    : Cpp.readStatements ((emitProgram style body).run progress).1.text
        = some (body.flatMap (outline style 0))
      ∧ (∀ node progress, ((emit style node).run progress).1 = text style progress.depth node)
      ∧ ∀ initial progress,
          ((emitHeader style initial).run progress).1
            = initial.elim [] (headerText style progress.depth) := by
  refine ⟨?_, fun node progress => ?_, fun initial progress => ?_⟩
  · rw [hasFatal_emitProgram, anyFatal_flatMap, List.any_eq_false] at clean
    have hnodes : Cpp.Reads ((present (body.map (text style 0))).flatMap Text.lines)
        (body.flatMap (outline style 0)) :=
      Cpp.reads_present fun node hm =>
        (reads_text hshims hindent ((h node hm).isClean (Bool.eq_false_iff.mpr (clean node hm)))).1
    rw [text_emitProgram style body none, text_program]
    exact Cpp.readStatements_unlines hnodes
  · rw [emit_writes style node progress]
  · rw [emitHeader_writes (fun _ _ inner _ => emit_writes style inner) progress]

/-- Declarations, a chain of conditionals and a loop with every slot filled. -/
def nestedStatements : List Node :=
  [.declaration
    [.declarator (.identifier "a" none) (some (.literal (.integer 1) none none)) none,
      .declarator (.identifier "s" none) (some (.literal (.text "x;y") none none)) none]
    "var" none,
  .ifElse (.identifier "a" none) (.expressionStatement (.identifier "s" none) none)
    (some (.ifElse (.identifier "s" none) (.block [] none)
      (some (.forLoop
        (some (.declaration
          [.declarator (.identifier "i" none) (some (.literal (.integer 0) none none)) none,
            .declarator (.identifier "n" none) (some (.identifier "a" none)) none] "let" none))
        (some (.binary "<" (.identifier "i" none) (.identifier "n" none) none))
        (some (.update "++" (.identifier "i" none) false none))
        (.block [.block [.expressionStatement (.identifier "a" none) none] none] none) none))
      none))
    none]

/-- All of the nested statements are statements. -/
theorem isStatement_nestedStatements : ∀ node ∈ nestedStatements, node.IsStatement := by
  have hname : ∀ {name : Text} {location : Option Location}, Cpp.IsWord name
      → (Node.identifier name location).IsLexical := .identifier
  have hinitial : ∀ {name : Text} {value : Node}, Cpp.IsWord name → value.IsLexical
      → (Node.declarator (.identifier name none) (some value) none).IsDeclarator :=
    fun hn hv => .declarator (hname hn) fun _ hm => Option.some.inj hm ▸ hv
  have hfirst : (Node.expressionStatement (.identifier "a" none) none).IsStatement :=
    .expressionStatement (hname (by decide))
  have hsecond : (Node.expressionStatement (.identifier "s" none) none).IsStatement :=
    .expressionStatement (hname (by decide))
  simp only [nestedStatements, List.forall_mem_cons, List.not_mem_nil, false_implies, implies_true,
    and_true]
  constructor
  · refine .declaration (.declaration ?_)
    simp only [List.forall_mem_cons, List.not_mem_nil, false_implies, implies_true, and_true]
    exact ⟨hinitial (by decide) .literal, hinitial (by decide) .literal⟩
  · refine .ifElse (hname (by decide)) hsecond fun _ hm => Option.some.inj hm ▸ ?_
    refine .ifElse (hname (by decide)) (.block nofun) fun _ hm => Option.some.inj hm ▸ ?_
    refine .forLoop (fun _ hm => Option.some.inj hm ▸ .inl (.declaration ?_))
      (fun _ hm => Option.some.inj hm ▸ ?_) (fun _ hm => Option.some.inj hm ▸ ?_) ?_
    · simp only [List.forall_mem_cons, List.not_mem_nil, false_implies, implies_true, and_true]
      exact ⟨hinitial (by decide) .literal, hinitial (by decide) (hname (by decide))⟩
    · exact .binary (by decide) (hname (by decide)) (hname (by decide))
    · exact .update (by decide) (hname (by decide))
    · refine .block fun _ hm => List.mem_singleton.mp hm ▸ .block fun _ hm => ?_
      exact List.mem_singleton.mp hm ▸ hfirst

/-- The text of nested statements is read as these statements, which are spelled out here. -/
theorem readStatements_nestedStatements
    : Cpp.readStatements
          (((emitProgram ⟨ShimTable.builtIn, "  "⟩ nestedStatements).run {}).1.text)
        = some (nestedStatements.flatMap (outline ⟨ShimTable.builtIn, "  "⟩ 0))
      ∧ Cpp.readStatements
          (((emitProgram ⟨ShimTable.builtIn, "  "⟩ nestedStatements).run {}).1.text)
        = some [.simple "auto a = 1", .simple "std::string s = \"x;y\"",
            .conditional "a" [.simple "s"]
              (some (.conditional "s" []
                (some (.block
                  [.forLoop "auto i = 0, n = a" "i < n" "i++" [.block [.simple "a"]]]))))] := by
  have hindent : IsMargin "  " := by
    unfold IsMargin
    decide
  exact ⟨(readStatements_emitProgram ⟨ShimTable.builtIn, "  "⟩ ShimTable.isQualified_builtIn hindent
    isStatement_nestedStatements {} rfl).1, rfl⟩

end Fragment

end DeviceScript
