import DeviceScript.Translation.Fragment

/-! Whole programs: the fragments of a script, and the C++ file they are put into. Functions stand
in front of the entry point, because C++ does not nest them, and everything else stands in it.
-/

namespace DeviceScript

/-- What the emission of a program yields. -/
structure Emission where
  text : Text
  /-- The fragments of the function declarations. -/
  functions : List Text
  /-- The fragments of all other statements. -/
  statements : List Text
  diagnostics : List Diagnostic

namespace Emission

def hasFatal (emission : Emission) : Bool := DeviceScript.hasFatal emission.diagnostics

end Emission

namespace Fragment

/-- Forgets the reports and the nesting of earlier programs, but not the log. -/
def reset : Emit Unit :=
  modify fun progress => { progress with depth := 0, diagnostics := [] }

/-- The fragments of the statements of a program that have one, and whether each is a function. -/
def emitPieces (style : Style) : List Node → Emit (List (Bool × Text))
  | [] => return []
  | node :: nodes => do
    let text ← emit style node
    let pieces ← emitPieces style nodes
    return if text = [] then pieces else (node.kind? = some .function, text) :: pieces

/-- Emits the statements of a program, each of them once. -/
def emitProgram (style : Style) (body : List Node) : Emit Emission := do
  reset
  let pieces ← emitPieces style body
  return {
    text := Text.unlines (pieces.map Prod.snd)
    functions := (pieces.filter fun piece => piece.1).map Prod.snd
    statements := (pieces.filter fun piece => !piece.1).map Prod.snd
    diagnostics := (← get).diagnostics }

end Fragment

/-- How a C++ file is written. -/
structure Template extends Style where
  /-- The file that is included at the top. -/
  runtime : Text

namespace Template

/-- The lines in front of the entry point: the included file and the functions, with empty lines
between. -/
def head (template : Template) (functions : List Text) : List Text :=
  ("#include \"" ++ template.runtime ++ "\"")
    :: functions.flatMap (fun function => [[], function]) ++ (if functions = [] then [] else [[]])

/-- The lines of the entry point around the statements of a program. -/
def entryPoint (template : Template) (statements : List Text) : List Text :=
  ("int main() \x7b" : Text)
    :: (statements.flatMap Text.lines).map (fun line =>
      if line = [] then line else template.indent ++ line)
    ++ [template.indent ++ "return 0;", "\x7d"]

/-- The C++ file around the fragments of a program. -/
def render (template : Template) (functions statements : List Text) : Text :=
  Text.unlines (template.head functions ++ template.entryPoint statements) ++ "\n"

/-- Emits a program and puts it into its C++ file. -/
def assemble (template : Template) (body : List Node) : Emit Emission := do
  let emission ← Fragment.emitProgram template.toStyle body
  return { emission with text := template.render emission.functions emission.statements }

end Template

end DeviceScript
