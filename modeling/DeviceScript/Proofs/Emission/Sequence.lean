import DeviceScript.Proofs.Emission.Report

/-! Statements one after another. What emission makes of a statement does not depend on the
statements in front of it, so two programs that are joined yield what each of them yields, in order.
-/

namespace DeviceScript.Fragment

/-- The fragments of some statements, each of them emitted before anything else has been. -/
def freshFragments (style : Style) (nodes : List Node) : List Text :=
  present (nodes.map fun node => ((emit style node).run {}).1)

variable (style : Style)

/-- A fresh fragment is the text at the outermost depth, since emission writes. -/
theorem freshFragments_eq (nodes : List Node)
    : freshFragments style nodes = present (nodes.map (text style 0)) := by
  have htext : ∀ node ∈ nodes, ((emit style node).run {}).1 = text style 0 node := by
    intro node _
    rw [emit_writes style node]
  rw [freshFragments, List.map_congr_left htext]

/-- The fresh fragments of two lists are those of the first and of the second. -/
theorem freshFragments_append (first second : List Node)
    : freshFragments style (first ++ second)
      = freshFragments style first ++ freshFragments style second := by
  rw [freshFragments, List.map_append]
  exact List.filter_append _ _

/-- The pieces of two lists are those of the first and of the second. -/
theorem pieces_append (first second : List Node)
    : pieces style (first ++ second) = pieces style first ++ pieces style second := by
  rw [pieces, List.map_append]
  exact List.filter_append _ _

/-- The text of a program is made of the fresh fragments of its statements. -/
theorem text_emitProgram_eq_unlines (body : List Node) (progress : Progress)
    : ((emitProgram style body).run progress).1.text
      = Text.unlines (freshFragments style body) := by
  rw [text_emitProgram style body none, text_program, freshFragments_eq]

/-- Emission of joined programs, whatever has been emitted before each of them: fragments and
reports are those of the first and then those of the second. A program as a node, outside all
braces, has the same text and adds the same reports. -/
theorem emitProgram_append (first second : List Node) (location : Option Location)
    (progress progress' progress'' : Progress)
    : let left := ((emitProgram style first).run progress).1
      let right := ((emitProgram style second).run progress').1
      let whole := ((emitProgram style (first ++ second)).run progress'').1
      let node :=
        (emit style (.program (first ++ second) location)).run { progress with depth := 0 }
      whole.functions = left.functions ++ right.functions
        ∧ whole.statements = left.statements ++ right.statements
        ∧ whole.diagnostics = left.diagnostics ++ right.diagnostics
        ∧ whole.text
          = Text.unlines (freshFragments style first ++ freshFragments style second)
        ∧ node.1 = whole.text
        ∧ node.2.diagnostics = progress.diagnostics ++ whole.diagnostics := by
  intro left right whole node
  have hnode : node = (text style 0 (.program (first ++ second) location),
      ({ progress with depth := 0 } : Progress).noteAll
        ((first ++ second).flatMap (notes style 0))) := by
    have hnotes : notes style 0 (.program (first ++ second) location)
        = (first ++ second).flatMap (notes style 0) := by
      rw [notes]
    rw [← hnotes]
    exact emit_writes style _ _
  refine ⟨?_, ?_, ?_, ?_, ?_, ?_⟩
  · simp only [whole, left, right, emitProgram_run, pieces_append, List.filter_append,
      List.map_append]
  · simp only [whole, left, right, emitProgram_run, pieces_append, List.filter_append,
      List.map_append]
  · simp only [whole, left, right, diagnostics_emitProgram, List.flatMap_append, reports,
      List.filterMap_append]
  · rw [← freshFragments_append]
    exact text_emitProgram_eq_unlines style _ progress''
  · rw [hnode]
    exact (text_emitProgram style _ location progress'').symm
  · rw [hnode, diagnostics_emitProgram]
    exact Progress.diagnostics_eq_append_reports _ _

end DeviceScript.Fragment
