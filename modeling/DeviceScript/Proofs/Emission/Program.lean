import DeviceScript.Proofs.Emission.Refusal
import DeviceScript.Translation.FileRun

/-! Emission of whole programs, from the texts of and the notes on their statements.
A program is refused if and only if emission reaches something in it that has no translation, and no
code comes of a program that is refused.
-/

namespace DeviceScript

namespace Fragment

open Emit

/-- The fragments of the statements of a program that have one, and whether each is a function. -/
def pieces (style : Style) (body : List Node) : List (Bool × Text) :=
  (body.map fun node => (decide (node.kind? = some .function), text style 0 node)).filter
    fun piece => piece.2 ≠ []

/-- From the outermost depth, a program adds its notes to the progress and leaves the
depth alone. -/
theorem emitPieces_writes (style : Style) (body : List Node) (progress : Progress)
    (h : progress.depth = 0)
    : (emitPieces style body).run progress
      = (pieces style body, progress.noteAll (body.flatMap (notes style 0))) := by
  induction body generalizing progress with
  | nil => rfl
  | cons node nodes ih =>
      have hs := ih (progress.noteAll (notes style 0 node)) ((progress.depth_noteAll _).trans h)
      simp only [emitPieces, StateM.run_bind, StateM.run_pure, emit_writes style node _, h, hs,
        Progress.noteAll_noteAll, List.flatMap_cons, pieces, List.map_cons, List.filter_cons]
      by_cases ht : text style 0 node = []
      · simp only [ht, ne_eq, not_true_eq_false, decide_false, if_true, if_false,
          Bool.false_eq_true]
      · simp only [ht, ne_eq, not_false_eq_true, decide_true, if_true, if_false]

/-- What the emission of a program yields, whatever has been emitted before. -/
theorem emitProgram_run (style : Style) (body : List Node) (progress : Progress)
    : ((emitProgram style body).run progress).1 = {
        text := Text.unlines ((pieces style body).map Prod.snd)
        functions := ((pieces style body).filter fun piece => piece.1).map Prod.snd
        statements := ((pieces style body).filter fun piece => !piece.1).map Prod.snd
        diagnostics :=
          (({ progress with depth := 0, diagnostics := [] } : Progress).noteAll
            (body.flatMap (notes style 0))).diagnostics } := by
  have hp := emitPieces_writes style body { progress with depth := 0, diagnostics := [] } rfl
  have hr : reset.run progress = ((), { progress with depth := 0, diagnostics := [] }) := rfl
  have hg : ∀ progress : Progress, (get : Emit Progress).run progress = (progress, progress) :=
    fun _ => rfl
  simp only [emitProgram, StateM.run_bind, StateM.run_pure, hr, hp, hg]

/-- The text of a program is the spelling of its tree. -/
theorem text_emitProgram (style : Style) (body : List Node) (location : Option Location)
    (progress : Progress)
    : ((emitProgram style body).run progress).1.text = text style 0 (.program body location) := by
  rw [emitProgram_run, text_program, pieces, present, List.filter_map]
  simp only [List.map_map, List.filter_map]
  rfl

/-- An emission is fatal exactly if a note on the program is. -/
theorem hasFatal_emitProgram (style : Style) (body : List Node) (progress : Progress)
    : ((emitProgram style body).run progress).1.hasFatal
      = anyFatal (body.flatMap (notes style 0)) := by
  rw [emitProgram_run]
  exact (Progress.hasFatal_noteAll _ _).trans (Bool.false_or _)

end Fragment

namespace Template

variable (template : Template)

/-- What a program yields, with its C++ file as the text. -/
def filed (emission : Emission) : Emission :=
  { emission with text := template.render emission.functions emission.statements }

/-- Assembly files what emission gives. -/
theorem assemble_eq_map (body : List Node)
    : template.assemble body = template.filed <$> Fragment.emitProgram template.toStyle body :=
  rfl

end Template

end DeviceScript
