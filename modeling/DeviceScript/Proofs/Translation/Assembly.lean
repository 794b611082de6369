import DeviceScript.Proofs.Emission.Depth
import DeviceScript.Proofs.Emission.Sequence
import DeviceScript.Proofs.Text.Lines

/-! The C++ file of a program. Its functions stand in front of the entry point and its other
statements in it, each of them in the order of the program, and nothing else of that order matters.
-/

namespace DeviceScript

namespace Node

def isFunction (node : Node) : Bool := node.kind? = some .function

/-- A program has the functions and the other statements of another one, each of them in the
order of that program. -/
structure Reorders (body body' : List Node) : Prop where
  functions : body.filter isFunction = body'.filter isFunction
  others : body.filter (fun node => !node.isFunction) = body'.filter fun node => !node.isFunction

/-- A node in which no function stands open is none itself. -/
theorem HasNoOpenFunction.isFunction {node : Node} (h : node.HasNoOpenFunction)
    : node.isFunction = false :=
  decide_eq_false (h node (.self node false))

end Node

namespace Fragment

variable (style : Style) (body : List Node)

/-- The pieces on one side of a program are the fresh fragments of the statements on that side. -/
theorem map_pieces_filter (isChosen : Bool → Bool)
    : ((pieces style body).filter fun piece => isChosen piece.1).map Prod.snd
      = freshFragments style (body.filter fun node => isChosen node.isFunction) := by
  rw [freshFragments_eq, pieces, present, List.filter_map, List.filter_map, List.filter_map,
    List.map_map, List.filter_filter, List.filter_filter]
  -- A piece is chosen for its node and left out for its text, in either order.
  congr 1
  exact List.filter_congr fun node _ => Bool.and_comm _ _

/-- Every fragment of a program is that of a function or that of another statement. -/
theorem freshFragments_perm
    : (freshFragments style (body.filter Node.isFunction)
        ++ freshFragments style (body.filter fun node => !node.isFunction)).Perm
      (freshFragments style body) := by
  rw [← freshFragments_append]
  exact ((List.filter_append_perm Node.isFunction body).map _).filter _

/-- The fragments of an emission are the fresh ones of its functions and of its other statements. -/
theorem emitProgram_fragments (progress : Progress)
    : let emission := ((emitProgram style body).run progress).1
      emission.functions = freshFragments style (body.filter Node.isFunction)
        ∧ emission.statements
          = freshFragments style (body.filter fun node => !node.isFunction) := by
  rw [emitProgram_run]
  exact ⟨map_pieces_filter style body id, map_pieces_filter style body (!·)⟩

/-- Statements without open functions have the same lines between braces as in the entry point. -/
theorem text_block_eq_unlines {body : List Node} (h : ∀ node ∈ body, node.HasNoOpenFunction)
    (depth : Nat) (location : Option Location)
    : text style depth (.block body location)
      = Text.unlines (("\x7b" : Text) :: innerLines style.indent (freshFragments style body)) := by
  have hbody : body.map (text style (depth + 1)) = body.map (text style 0) :=
    List.map_congr_left fun node hm => text_eq_of_depth (h node hm) style _ _
  rw [text_block, hbody, enclosed_eq, freshFragments_eq]

end Fragment

open Fragment

/-- An assembled file has the fresh fragments of its functions and of its other statements. -/
theorem Template.text_assemble (template : Template) (body : List Node) (progress : Progress)
    : ((template.assemble body).run progress).1.text
      = template.render (freshFragments template.toStyle (body.filter Node.isFunction))
          (freshFragments template.toStyle (body.filter fun node => !node.isFunction)) := by
  obtain ⟨hfunctions, hstatements⟩ := emitProgram_fragments template.toStyle body progress
  rw [assemble_eq_map, ← hfunctions, ← hstatements]
  rfl

/-- The C++ file of a program. The fragments of the program are those of its functions and those
of its other statements, each of them in the order of the program. The file has the included file
first, then every function behind an empty line, and then the entry point with the lines of the
other statements further inside, where only empty lines stay as they are. These lines are also
those of the program as a block, if none of its functions stands outside all braces. They do not
change when functions and other statements change places with each other. -/
theorem Template.assemble_hoists (template : Template) (body : List Node) (progress : Progress)
    : let style := template.toStyle
      let emission := ((emitProgram style body).run progress).1
      let assembled := ((template.assemble body).run progress).1.text
      let functions := freshFragments style (body.filter Node.isFunction)
      let statements := freshFragments style (body.filter fun node => !node.isFunction)
      let inner := (statements.flatMap Text.lines).map (indentedLine template.indent)
      (emission.functions = functions
          ∧ emission.statements = statements
          ∧ (functions ++ statements).Perm (freshFragments style body))
        ∧ assembled
          = Text.unlines
              (("#include \"" ++ template.runtime ++ "\"")
                :: functions.flatMap (fun function => [[], function])
                ++ (if functions = [] then [] else [[]])
                ++ ("int main() \x7b" : Text) :: inner ++ [template.indent ++ "return 0;", "\x7d"])
            ++ "\n"
        ∧ ((∀ node ∈ body, node.HasNoOpenFunction)
          → ∀ location progress,
            ((emit style (.block body location)).run progress).1
              = Text.unlines (("\x7b" : Text) :: inner ++ [("\x7d" : Text)]))
        ∧ ∀ body' progress', Node.Reorders body body'
          → ((template.assemble body').run progress').1.text = assembled := by
  intro style emission assembled functions statements inner
  obtain ⟨hfunctions, hstatements⟩ := emitProgram_fragments style body progress
  refine ⟨⟨hfunctions, hstatements, freshFragments_perm style body⟩, ?_, ?_, ?_⟩
  · have htext : assembled = template.render functions statements :=
      template.text_assemble body progress
    rw [htext, render, head, entryPoint]
    simp only [List.append_assoc, List.cons_append]
    rfl
  · intro h location progress
    -- Without functions nothing is left out of the entry point.
    have hall : body.filter (fun node => !node.isFunction) = body := by
      refine List.filter_eq_self.mpr fun node hm => ?_
      rw [(h node hm).isFunction]
      rfl
    have hinner : innerLines style.indent (freshFragments style body)
        = inner ++ [("\x7d" : Text)] := by
      simp only [inner, statements, hall]
      rfl
    rw [emit_writes style, List.cons_append, ← hinner]
    exact text_block_eq_unlines style h progress.depth location
  · intro body' progress' h
    rw [template.text_assemble, ← h.functions, ← h.others]
    exact (template.text_assemble body progress).symm

/-- A function and a statement change places, and the statement alone stands in a block. -/
theorem Template.assemble_hoists_function
    : let template : Template := ⟨⟨.builtIn, "    "⟩, "basic.cpp"⟩
      let access : Node := .expressionStatement (.identifier "x" none) none
      let function : Node := .function (.identifier "hi" none) [] (.block [] none) none
      let assembled (body : List Node) := ((template.assemble body).run {}).1.text
      (Node.Reorders [access, function] [function, access]
          ∧ assembled [function, access] = assembled [access, function])
        ∧ (∀ node ∈ [access], node.HasNoOpenFunction)
        ∧ ((emit template.toStyle (.block [access] none)).run {}).1 = "\x7b\n    x;\n\x7d" := by
  intro template access function assembled
  have hreorders : Node.Reorders [access, function] [function, access] := ⟨rfl, rfl⟩
  have hclosed : ∀ node ∈ [access], node.HasNoOpenFunction := by
    intro node hm inner hreaches
    obtain rfl := List.mem_singleton.mp hm
    -- Nothing but the name stands in the statement, and nothing in the name.
    cases hreaches with
    | self => exact nofun
    | part hpart _ hbelow =>
        obtain rfl := List.mem_singleton.mp hpart
        cases hbelow with
        | self => exact nofun
        | part hnone _ _ => exact absurd hnone List.not_mem_nil
  obtain ⟨_, _, _, hshuffled⟩ := template.assemble_hoists [access, function] {}
  obtain ⟨_, _, hblock, _⟩ := template.assemble_hoists [access] {}
  refine ⟨⟨hreorders, hshuffled _ {} hreorders⟩, hclosed, ?_⟩
  rw [hblock hclosed none {}]
  decide +kernel

/-- A template with a C++ name of three lines, of which the second is empty. -/
def Template.gapped : Template where
  shims := .ofExtras [("m.x", "a\n\nb")]
  indent := "    "
  runtime := "basic.cpp"

/-- Not every line of a statement is moved further inside: an empty one is not. -/
theorem Template.assemble_ne_of_emptyLine
    : let access : Node := .member (.identifier "m" none) (.identifier "x" none) false none
      let assembled := ((gapped.assemble [.expressionStatement access none]).run {}).1
      assembled.functions = [] ∧ assembled.statements = [("a\n\nb;" : Text)]
        ∧ assembled.text
          ≠ Text.unlines
              (("#include \"basic.cpp\"" : Text) :: "int main() \x7b"
                :: (assembled.statements.flatMap Text.lines).map (gapped.indent ++ ·)
                ++ [("    return 0;" : Text), "\x7d"])
            ++ "\n" := by
  decide +kernel

end DeviceScript
