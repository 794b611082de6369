import DeviceScript.Proofs.Emission.Equality
import DeviceScript.Proofs.Syntax.Places
import DeviceScript.Proofs.Syntax.Spelling

/-! Emission of trees that differ in their places only. Neither the code nor the fragments show a
place, and a report shows it only as the place that it points to.
-/

namespace DeviceScript

namespace Node

variable (node : Node)

/-- The kind of a node does not depend on its location. -/
theorem kind?_unplaced : node.unplaced.kind? = node.kind? := by
  cases node <;> rfl

/-- The statements of a tree without locations are those of the tree, without locations. -/
theorem statements_unplaced : node.unplaced.statements = node.statements.map unplaced := by
  cases node with
  | program body location | block body location => exact normalEach_eq_map _ body
  | _ => rfl

end Node

/-- Places are gone, but every literal is written and cited like before. -/
theorem Literal.isUnseen_self : IsUnseen fun value _ => value where
  tree _ _ := rfl
  type _ _ := rfl
  cited _ _ := rfl

/-- What a program yields, without the places that its reports point to. -/
def Emission.unplaced (emission : Emission) : Emission :=
  { emission with diagnostics := emission.diagnostics.map Diagnostic.unplaced }

section Unplaced

variable (style : Style)

/-- The pieces of a program do not depend on locations. -/
theorem Fragment.pieces_unplaced (body : List Node)
    : pieces style (body.map Node.unplaced) = pieces style body := by
  -- Neither the kind of a statement nor its text shows a place.
  rw [pieces, pieces, List.map_map]
  congr 1
  refine List.map_congr_left fun node _ => ?_
  simp only [Function.comp_apply, node.kind?_unplaced]
  exact congrArg _ (text_normal Literal.isUnseen_self.toIsUnwritten node 0)

/-- The reports on a program without locations are those on the program, without locations. -/
theorem Fragment.reports_unplaced (body : List Node)
    : reports ((body.map Node.unplaced).flatMap (notes style 0))
      = (reports (body.flatMap (notes style 0))).map Diagnostic.unplaced := by
  have hnotes : ∀ node ∈ body,
      notes style 0 node.unplaced
        = (notes style 0 node).map (Note.normal fun value _ => value) :=
    fun node _ => notes_normal Literal.isUnseen_self node 0
  rw [← reports_normal fun value _ => value, ← flatMap_normal hnotes]
  rfl

/-- A program without places yields what the program yields, but for the places of the reports. -/
theorem Fragment.emitProgram_unplaced (body : List Node) (progress progress' : Progress)
    : ((emitProgram style (body.map Node.unplaced)).run progress).1
      = ((emitProgram style body).run progress').1.unplaced := by
  rw [emitProgram_run, emitProgram_run, Emission.unplaced, pieces_unplaced,
    Progress.diagnostics_eq_append_reports, Progress.diagnostics_eq_append_reports]
  exact congrArg (Emission.mk _ _ _) (reports_unplaced style body)

/-- A file that is assembled from a program without locations is the one from the program, with
reports that have no locations. -/
theorem Template.assemble_unplaced (template : Template) (body : List Node)
    (progress progress' : Progress)
    : ((template.assemble (body.map Node.unplaced)).run progress).1
      = ((template.assemble body).run progress').1.unplaced := by
  rw [assemble_eq_map, assemble_eq_map]
  exact congrArg template.filed
    (Fragment.emitProgram_unplaced template.toStyle body progress progress')

end Unplaced

/-- Trees that differ in their places only are read as nodes that differ in their places only.
These are equal, unless they hold a literal that is not equal to itself. Emission of their
statements, after whatever has been emitted before, yields the same text, the same fragments and
the same reports, but for the places that the reports point to; so does emission into a C++ file. -/
theorem emission_eq_of_unplaced_eq (template : Template) {left right : Datum}
    (h : Estree.unplaced left = Estree.unplaced right) (progress progress' : Progress)
    : let node := Estree.toNode left
      let other := Estree.toNode right
      let emitted (node : Node) (progress : Progress) :=
        ((Fragment.emitProgram template.toStyle node.statements).run progress).1
      let assembled (node : Node) (progress : Progress) :=
        ((template.assemble node.statements).run progress).1
      node.unplaced = other.unplaced
        ∧ (node.same other = true ↔ Node.AreComparable node.literals)
        ∧ (emitted node progress).unplaced = (emitted other progress').unplaced
        ∧ (assembled node progress).unplaced = (assembled other progress').unplaced := by
  intro node other emitted assembled
  have hnodes : node.unplaced = other.unplaced := by
    rw [← Estree.toNode_unplaced, ← Estree.toNode_unplaced, h]
  have hstatements : node.statements.map Node.unplaced = other.statements.map Node.unplaced := by
    rw [← node.statements_unplaced, hnodes, other.statements_unplaced]
  -- Each side yields what the common program without places yields.
  refine ⟨hnodes, node.compares other hnodes, ?_, ?_⟩
  · have hemitted : ∀ (node : Node) progress,
        ((Fragment.emitProgram template.toStyle (node.statements.map Node.unplaced)).run {}).1
          = (emitted node progress).unplaced :=
      fun node => Fragment.emitProgram_unplaced template.toStyle node.statements {}
    rw [← hemitted, hstatements, hemitted]
  · have hassembled : ∀ (node : Node) progress,
        ((template.assemble (node.statements.map Node.unplaced)).run {}).1
          = (assembled node progress).unplaced :=
      fun node => template.assemble_unplaced node.statements {}
    rw [← hassembled, hstatements, hassembled]

/-- A program that is refused where it stands. -/
def refusedProgram (location : Option Location) : Node :=
  .program [.unsupported "ClassDeclaration" [] location] location

/-- A program that is refused with a location is refused without one in the same words. -/
theorem emission_eq_of_refusedProgram
    : let emitted (tree : Datum) :=
        ((Fragment.emitProgram ⟨.builtIn, "  "⟩ (Estree.toNode tree).statements).run {}).1
      let left := Estree.ofNode (refusedProgram (some ⟨1, 5⟩))
      let right := Estree.ofNode (refusedProgram none)
      Estree.unplaced left = Estree.unplaced right
        ∧ (emitted left).unplaced = (emitted right).unplaced := by
  intro emitted left right
  have h : Estree.unplaced left = Estree.unplaced right := rfl
  obtain ⟨_, _, hemitted, _⟩ :=
    emission_eq_of_unplaced_eq ⟨⟨.builtIn, "  "⟩, "basic.cpp"⟩ h {} {}
  exact ⟨h, hemitted⟩

/-- A literal that is no number. -/
def notANumber (location : Option Location) : Node := .literal (.real .nan) (some "NaN") location

/-- Trees that differ in their places only are not always read as equal nodes: what is no number is
not even equal to itself. -/
theorem not_same_of_unplaced_eq
    : let left := Estree.ofNode (notANumber none)
      let right := Estree.ofNode (notANumber (some ⟨1, 1⟩))
      Estree.unplaced left = Estree.unplaced right
        ∧ (Estree.toNode left).same (Estree.toNode right) = false := by
  have hread : ∀ location, Estree.toNode (Estree.ofNode (notANumber location))
      = notANumber location := by
    intro location
    refine Estree.toNode_ofNode (.literal ?_)
    rintro number spelling ⟨⟩ _ _
    rfl
  refine ⟨rfl, ?_⟩
  rw [hread, hread]
  rfl

end DeviceScript
