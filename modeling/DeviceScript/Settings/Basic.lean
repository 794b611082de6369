import DeviceScript.Data.Datum
import DeviceScript.Files.Path
import DeviceScript.Text.Blank
import DeviceScript.Translation.ShimTable

/-! The settings of a translation, and the conditions that they meet. -/

namespace DeviceScript

/-- The settings of a translation. -/
structure Settings where
  inputPath : Path := "main.ts"
  outputPath : Path := "main.cpp"
  /-- The C++ file that a generated program includes. -/
  runtimeInclude : Text := "basic.cpp"
  /-- Whether warnings are errors as well. -/
  isStrict : Bool := false
  /-- The number of blanks for a nesting level. -/
  indentWidth : Nat := 4
  /-- Names that are replaced besides the built-in ones. -/
  extraShims : List (Text × Text) := []
  deriving DecidableEq

namespace Settings

/-- One nesting level. -/
def indent (settings : Settings) : Text := List.replicate settings.indentWidth ' '

def shims (settings : Settings) : ShimTable := ShimTable.ofExtras settings.extraShims

/-- The endings of the names of C++ files. -/
def suffixes : List Text := [".cpp", ".h", ".hpp"]

/-- The name of a C++ file without the blanks around it, or what is wrong with it. -/
def includeFile (name : Text) : Except Text Text :=
  let file := name.strip
  if suffixes.any file.endsWith then .ok file
  else .error ("runtime_include must name a C++ file (" ++ Text.join ", " suffixes
    ++ "), got '" ++ name ++ "'")

/-- The least and the greatest number of blanks for a nesting level. -/
def widths : Int × Int := (0, 8)

/-- What is wrong with a replacement, if anything is. -/
def shimReason? (source target : Text) : Option Text :=
  if !source.contains (.scalar '.') then
    some ("Shim source '" ++ source ++ "' must be a dotted name (e.g. 'Math.sqrt')")
  else if target.isBlank then some ("Shim target for '" ++ source ++ "' is blank")
  else none

/-- Replacements in which nothing is wrong, or what is wrong with the first that is. -/
def checkedShims (shims : List (Text × Text)) : Except Text (List (Text × Text)) :=
  match shims.findSome? fun shim => shimReason? shim.1 shim.2 with
  | none => .ok shims
  | some reason => .error reason

/-- Values for the settings, before they are checked. -/
structure Values where
  inputPath : Option Path := none
  outputPath : Option Path := none
  runtimeInclude : Option Datum := none
  isStrict : Option Datum := none
  indentWidth : Option Datum := none
  extraShims : Option Datum := none

end Settings

end DeviceScript
