import DeviceScript.Proofs.Emission.Program
import DeviceScript.Proofs.Files.Calls
import DeviceScript.Proofs.Syntax.Estree

/-! What becomes of a program that has no translation: the run fails, and nothing is written. -/

namespace DeviceScript

open Fragment

/-- Emission reaches a node in a program that it refuses. -/
def Node.Untranslatable (body : List Node) : Prop :=
  ∃ statement ∈ body, ∃ enclosed faulty,
    statement.Reaches Part.IsWritten false enclosed faulty ∧ faulty.isFaulty enclosed = true

/-- Emission is fatal exactly if the program cannot be translated. -/
theorem hasFatal_emitProgram_iff (style : Style) (body : List Node) (progress : Progress)
    : ((emitProgram style body).run progress).1.hasFatal = true ↔ Node.Untranslatable body := by
  rw [hasFatal_emitProgram, anyFatal_flatMap, List.any_eq_true]
  constructor
  · rintro ⟨statement, hm, h⟩
    exact ⟨statement, hm, (anyFatal_notes_iff style 0 statement).mp h⟩
  · rintro ⟨statement, hm, h⟩
    exact ⟨statement, hm, (anyFatal_notes_iff style 0 statement).mpr h⟩

namespace Translator

variable (translator : Translator)

/-- The reports that decide on a run hold an error if emission reported one. -/
theorem hasFatal_judge (settings : Settings) {diagnostics : List Diagnostic}
    (h : hasFatal diagnostics = true) : hasFatal (judge settings diagnostics) = true := by
  unfold judge
  split
  · obtain ⟨diagnostic, hm, hf⟩ := List.any_eq_true.mp h
    exact List.any_eq_true.mpr ⟨diagnostic.promote, List.mem_map_of_mem hm, rfl⟩
  · exact h

/-- The emission phase is fatal exactly if the program cannot be translated. -/
theorem hasFatal_emission (body : List Node) (trace : Trace)
    : (translator.emission body trace).1.hasFatal = true ↔ Node.Untranslatable body :=
  hasFatal_emitProgram_iff translator.template.toStyle body
    { trace := some (trace.startPhase "Emit" "AST -> C++") }

/-- A run on a program that is refused fails and yields no code. -/
theorem conclude_untranslatable {body : List Node} (location : Option Location) (trace : Trace)
    (h : Node.Untranslatable body)
    : (translator.conclude (.ok (.program body location)) trace).success = false
      ∧ (translator.conclude (.ok (.program body location)) trace).code = [] := by
  have hf := hasFatal_judge translator.settings
    ((hasFatal_emission translator body
      (trace.startPhase "Parse" "esprima -> ts2cpp AST").endPhase).mpr h)
  simp only [conclude, Node.statements, hf]
  exact ⟨rfl, rfl⟩

/-- A run from file to file that fails leaves all files as they are. -/
theorem runFile_failed {input output : Option Path} {files : FileSystem} {content : List UInt8}
    {text : Text} {conversion : Trace → Conversion}
    (hread : files.read (input.getD translator.settings.inputPath) = .ok (some content))
    (hdecode : Utf8.decode content = .ok text)
    (hrun : ∀ trace, translator.translate text.withLineFeeds trace = .ok (conversion trace))
    (hfail : ∀ trace, (conversion trace).success = false)
    : ∃ trace, (translator.runFile input output : StateM FileSystem _).run files
      = (.ok (conversion trace), files) := by
  refine ⟨accessPhase {} "Read" "read" (input.getD translator.settings.inputPath), ?_⟩
  simp only [runFile, deliver, StateM.run_bind, FileSystem.run_read, hread, hdecode, hrun, hfail]
  rfl

end Translator

/-- A program is refused exactly if emission reaches a node in it that has no translation. A run on
such a program fails without code, and from file to file it leaves all files as they are. -/
theorem program_refused_iff (body : List Node) (location : Option Location)
    : (∀ (style : Style) (progress : Progress),
        ((emitProgram style body).run progress).1.hasFatal = true ↔ Node.Untranslatable body)
      ∧ (Node.Untranslatable body →
        ∀ translator : Translator,
          (∀ trace : Trace,
            (translator.conclude (.ok (.program body location)) trace).success = false
              ∧ (translator.conclude (.ok (.program body location)) trace).code = [])
          ∧ ∀ (input output : Option Path) (files : FileSystem) (content : List UInt8) (text : Text),
              files.read (input.getD translator.settings.inputPath) = .ok (some content)
              → Utf8.decode content = .ok text
              → translator.read text.withLineFeeds = .ok (.program body location)
              → ∃ conversion : Conversion,
                  conversion.success = false
                    ∧ (translator.runFile input output : StateM FileSystem _).run files
                      = (.ok conversion, files)) := by
  refine ⟨fun style progress => hasFatal_emitProgram_iff style body progress, ?_⟩
  intro h translator
  have hfail := fun trace => translator.conclude_untranslatable location trace h
  refine ⟨hfail, ?_⟩
  intro input output files content text hcontent hdecode hread
  have hrun : ∀ trace, translator.translate text.withLineFeeds trace
      = .ok (translator.conclude (.ok (.program body location)) trace) := by
    intro trace
    simp only [Translator.translate, hread]
  obtain ⟨trace, hfiles⟩ := translator.runFile_failed hcontent hdecode hrun fun trace =>
    (hfail trace).1
  exact ⟨_, (hfail trace).1, hfiles⟩

/-- A translator that reads every text as a program that consists of one class. -/
def classTranslator : Translator :=
  { read := fun _ => .ok (.program [.unsupported "ClassDeclaration" [] none] none) }

/-- Files that hold one script. -/
def scriptFiles : FileSystem where
  entries := [([("main.ts" : Text)], .file [0x3B])]
  working := []

/-- A file whose script holds a class keeps the run from writing anything. -/
theorem class_program_refused
    : ∃ conversion : Conversion,
        conversion.success = false
          ∧ (classTranslator.runFile none none : StateM FileSystem _).run scriptFiles
            = (.ok conversion, scriptFiles) := by
  have huntranslatable : Node.Untranslatable [.unsupported "ClassDeclaration" [] none] :=
    ⟨_, List.mem_singleton.mpr rfl, false, _, .self _ _, rfl⟩
  exact ((program_refused_iff [.unsupported "ClassDeclaration" [] none] none).2
    huntranslatable classTranslator).2 none none scriptFiles [0x3B] ";" rfl rfl rfl

/-- The tree of the method `pop` of an object. -/
def poppedMember : Datum :=
  .table [("type", .text "MemberExpression"),
    ("object", .table [("type", .text "Identifier"), ("name", .text "a")]),
    ("property", .table [("type", .text "Identifier"), ("name", .text "pop")])]

/-- The tree of a program that calls `pop` with a class. -/
def poppedClass : Datum :=
  .table [("type", .text "Program"), ("body", .list [
    .table [("type", .text "ExpressionStatement"), ("expression",
      .table [("type", .text "CallExpression"), ("callee", poppedMember),
        ("arguments", .list [.table [("type", .text "ClassExpression")]])])]])]

/-- The method that is not called is lowered to the member it is. -/
theorem toNode_poppedMember
    : Estree.toNode poppedMember
      = .member (.identifier "a" none) (.identifier "pop" none) false none := by
  rw [Estree.toNode.eq_def]
  change Node.member (Estree.child poppedMember "object") (Estree.child poppedMember "property")
    false none = _
  rw [Estree.child_eq rfl, Estree.child_eq rfl, Estree.toNode.eq_def, Estree.toNode.eq_def]
  rfl

/-- The tree is read from the outside in, one kind of node after another. -/
theorem toNode_poppedClass
    : Estree.toNode poppedClass
      = .program [.expressionStatement
          (.call (.member (.identifier "a" none) (.identifier "pop" none) false none)
            [.unsupported "ClassExpression" [] none] none) none] none := by
  have hclass : Estree.toNode (.table [("type", .text "ClassExpression")])
      = .unsupported "ClassExpression" [] none := by
    rw [Estree.toNode.eq_def]
    rfl
  rw [Estree.toNode.eq_def]
  change Node.program (Estree.statements poppedClass) none = _
  rw [Estree.statements_eq rfl]
  change Node.program [Estree.toNode _] none = _
  rw [Estree.toNode.eq_def]
  change Node.program [.expressionStatement (Estree.child _ "expression") none] none = _
  rw [Estree.child_eq rfl, Estree.toNode.eq_def]
  change Node.program [.expressionStatement
    (.call (Estree.child _ "callee") (Estree.children _ "arguments") none) none] none = _
  rw [Estree.child_eq rfl, Estree.children_eq rfl, toNode_poppedMember]
  change Node.program [.expressionStatement (.call _ [Estree.toNode _] none) none] none = _
  rw [hclass]

/-- An argument of `pop` is left out without an error, though nothing translates it. -/
theorem popped_class_not_refused
    : ∃ body, Estree.toNode poppedClass = .program body none
      ∧ (∃ statement ∈ body, ∃ enclosed source detail location,
        statement.Reaches (fun _ => True) false enclosed (.unsupported source detail location))
      ∧ ∀ (style : Style) (progress : Progress),
        ((emitProgram style body).run progress).1.hasFatal = false := by
  refine ⟨_, toNode_poppedClass, ⟨_, List.mem_singleton.mpr rfl, false, "ClassExpression", [],
    none, ?_⟩, fun _ _ => rfl⟩
  refine .part (List.mem_singleton.mpr rfl) trivial ?_
  refine .part (List.mem_cons_of_mem _ List.mem_cons_self) trivial ?_
  exact .self _ _

end DeviceScript
