import DeviceScript.Data.Toml.Document
import DeviceScript.Files.FileSystem
import DeviceScript.Settings.Validation
import DeviceScript.Text.Utf8

/-! Settings in layers: defaults, below a section of the nearest project file, below explicit
values. Only one project file counts: the nearest one that has the section at all.
-/

namespace DeviceScript

/-- Values that were given explicitly, and the directory where the search for a project file
starts. -/
structure Overrides where
  inputPath : Option Path := none
  outputPath : Option Path := none
  runtimeInclude : Option Text := none
  isStrict : Option Bool := none
  start : Option Path := none

/-- A use of a value that its shape does not allow. -/
inductive Misuse where
  | noAttribute (value : Datum)
  | noMembers (value : Datum)
  | noKeys (value : Datum)
  | noPath (value : Datum)

namespace Misuse

def message : Misuse → Text
  | noAttribute value => "'" ++ value.typeName ++ "' object has no attribute 'get'"
  | noMembers value => "argument of type '" ++ value.typeName ++ "' is not iterable"
  | noKeys (.text _) => "string indices must be integers, not 'str'"
  | noKeys value => value.shapeName ++ " indices must be integers or slices, not str"
  | noPath value => "expected str, bytes or os.PathLike object, not " ++ value.shapeName

end Misuse

/-- Why there are no settings. -/
inductive LoadFault where
  /-- A project file is no TOML document. -/
  | malformed (path : Path) (reason : Text)
  /-- The reader of project files gives up on one. -/
  | abandoned (reason : Text)
  /-- A project file is no text. -/
  | undecodable (content : List UInt8) (malformed : Utf8.Malformed)
  /-- A value in a project file has a shape for which there is no check. -/
  | misuse (misuse : Misuse)
  | rejected (rejections : List Rejection)
  /-- The system does not tell about a directory or a project file, or does not let it be read. -/
  | unreachable (error : FileError)

namespace Settings

/-- What loading leaves to libraries: reading TOML documents and checking values. -/
structure Library where
  read : Text → Except Toml.Failure Toml.Table := Toml.read
  validation : Validation := .standard

/-- The complaint about a project file that is no TOML document. -/
def malformedMessage (path : Path) (reason : Text) : Text :=
  "Invalid TOML in " ++ path.text ++ ": " ++ reason

/-- A section of a project file and the directory of that file. -/
structure Layer where
  values : Datum := .table []
  directory : Option Path := none

/-- What the failure of a reader means for the settings. -/
def LoadFault.ofFailure (path : Path) : Toml.Failure → LoadFault
  | .malformed reason => .malformed path reason
  | .abandoned reason => .abandoned reason

/-- The section of a project file that belongs to this program, if it has one. -/
def sectionOf (library : Library) (path : Path) (content : List UInt8)
    : Except LoadFault (Option Datum) := do
  let text ← (Utf8.decode content).mapError (.undecodable content)
  let table ← (library.read text).mapError (LoadFault.ofFailure path)
  match table.lookup ("tool" : Text) with
  | none => return none
  | some (.table tools) => return tools.lookup ("ts2cpp" : Text)
  | some value => throw (.misuse (.noAttribute value))

/-- The layer of the first of some directories whose project file has the section. -/
def findLayer {m : Type → Type} [Monad m] [FileAccess m] (library : Library)
    : List FileLocation → m (Except LoadFault Layer)
  | [] => return .ok {}
  | place :: places => do
    let path := place.toPath.join "pyproject.toml"
    match ← FileAccess.read path with
    | .error error => return .error (.unreachable error)
    | .ok none => findLayer library places
    | .ok (some content) =>
      match sectionOf library path content with
      | .error fault => return .error fault
      | .ok none => findLayer library places
      | .ok (some values) => return .ok ⟨values, some place.toPath⟩

namespace Layer

/-- The value of a section under a key that is looked for among its members. -/
def member? (layer : Layer) (key : Text) : Except LoadFault (Option Datum) :=
  match layer.values with
  | .table entries => .ok (entries.lookup key)
  | .text text => if text.includes key then .error (.misuse (.noKeys layer.values)) else .ok none
  | .list items =>
    let isKey : Datum → Bool
      | .text item => item = key
      | _ => false
    if items.any isKey then .error (.misuse (.noKeys layer.values)) else .ok none
  | value => .error (.misuse (.noMembers value))

/-- The value of a section under a key, which only a table can be asked for. -/
def value? (layer : Layer) (key : Text) : Except LoadFault (Option Datum) :=
  match layer.values with
  | .table entries => .ok (entries.lookup key)
  | value => .error (.misuse (.noAttribute value))

/-- A path of a section, seen from the directory of its file. -/
def path? (layer : Layer) (key : Text) : Except LoadFault (Option Path) := do
  match ← layer.value? key with
  | none => return none
  | some (.text path) => return some ((layer.directory.getD "").join (Path.ofText path))
  | some value => throw (.misuse (.noPath value))

end Layer

/-- An explicit value, or else the one of a layer. -/
def preferred {α β : Type} (given : Option α) (layer : Except β (Option α)) : Except β (Option α) :=
  match given with
  | some value => .ok (some value)
  | none => layer

/-- The values of a layer under the explicit ones; an empty name of a file counts as none. -/
def mergedValues (overrides : Overrides) (layer : Layer) : Except LoadFault Values := do
  let width ← layer.member? "indent_width"
  let shims ← layer.member? "extra_shims"
  let input ← preferred overrides.inputPath (layer.path? "input_path")
  let output ← preferred overrides.outputPath (layer.path? "output_path")
  let given := overrides.runtimeInclude.filter fun name => name ≠ []
  let runtime ← preferred (given.map Datum.text) (layer.value? "runtime_include")
  let strict ← preferred (overrides.isStrict.map Datum.boolean) (layer.member? "strict_mode")
  return ⟨input, output, runtime, strict, width, shims⟩

/-- The settings of a layer under explicit values. -/
def ofLayer (library : Library) (overrides : Overrides) (layer : Layer)
    : Except LoadFault Settings := do
  (library.validation.construct (← mergedValues overrides layer)).mapError .rejected

/-- The first directory on the way along some names about which the system cannot be asked; `above`
holds the names before them. -/
def obstacle? (anchor : Path.Anchor) (above : List Text) : List Text → Option FileError
  | [] => none
  | name :: names =>
    if name = ".." then
      let isAbove := anchor = .working && above.all (· = "..")
      obstacle? anchor (if isAbove then above ++ [name] else above.dropLast) names
    else
      let path : Path := ⟨anchor, above ++ [name]⟩
      match path.fault? with
      | some fault => some { fault, path }
      | none => obstacle? anchor path.names names

/-- The place of a directory. The system is asked for the working directory only where the path
starts there. -/
def resolve {m : Type → Type} [Monad m] [FileAccess m] (start : Path)
    : m (Except FileError FileLocation) := do
  match obstacle? (if start.isAbsolute then .root else .working) [] start.names with
  | some error => return .error error
  | none =>
    if start.isAbsolute then return .ok (FileLocation.ofPath [] start)
    return (← FileAccess.working).map fun working => FileLocation.ofPath working start

/-- The settings that hold at a directory, or at the working directory. -/
def load {m : Type → Type} [Monad m] [FileAccess m] (overrides : Overrides)
    (library : Library := {}) : m (Except LoadFault Settings) := do
  match ← resolve (overrides.start.getD "") with
  | .error error => return .error (.unreachable error)
  | .ok place => return (← findLayer library place.ancestry).bind (ofLayer library overrides)

end Settings

end DeviceScript
