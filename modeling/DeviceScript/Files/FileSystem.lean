import DeviceScript.Data.Keyed
import DeviceScript.Files.Path
import DeviceScript.Text.Cited
import DeviceScript.Text.Utf8

/-! Files and directories, and what a program may ask of them. A program is written for any
`FileAccess`, so that it runs on the files of a machine and, the same program, on a file system that
is a value.
-/

namespace DeviceScript

/-- Why a file or directory cannot be had. -/
inductive FileFault where
  | missing | exists | notDirectory | isDirectory | nameTooLong
  /-- Another fault of the system, by its number and its text: what may not be touched, a disk that
  is full or broken, and whatever else a system knows. -/
  | other (number : Nat) (text : Text)
  /-- A path with a null character, at which it would end for the system. -/
  | nullInside
  /-- A path with a surrogate that stands for no byte. -/
  | unencodable
  deriving DecidableEq

namespace FileFault

def reason : FileFault → Text
  | missing => "No such file or directory"
  | «exists» => "File exists"
  | notDirectory => "Not a directory"
  | isDirectory => "Is a directory"
  | nameTooLong => "File name too long"
  | other _ text => text
  | nullInside => "embedded null byte"
  | unencodable => "surrogates not allowed"

/-- The number of a fault among those of the system, if it is one of them. -/
def number? : FileFault → Option Nat
  | missing => some 2
  | «exists» => some 17
  | notDirectory => some 20
  | isDirectory => some 21
  | nameTooLong => some 36
  | other number _ => some number
  | nullInside | unencodable => none

def isOfSystem (fault : FileFault) : Bool := fault.number?.isSome

/-- The numbers of the faults that tell of a path that it leads to nothing. -/
def absenceNumbers : List Nat := [2, 9, 20, 40]

/-- Tells whether a fault is taken for the answer that there is nothing at a path. -/
def isAbsence (fault : FileFault) : Bool :=
  match fault.number? with
  | some number => absenceNumbers.contains number
  | none => true

end FileFault

namespace Path

/-- The surrogates that stand for single bytes, which are no text. -/
def standsForByte (point : CodePoint) : Bool := point.between 0xDC80 0xDCFF

/-- The number of bytes of a name or a written path. -/
def byteCount (text : Text) : Nat :=
  (text.map fun point =>
    if standsForByte point then 1 else (Utf8.encodeValue point.value).length).foldr (· + ·) 0

/-- The fault of a path about which the system cannot even be asked. -/
def fault? (path : Path) : Option FileFault :=
  if path.text.any fun point => point.between 0xD800 0xDFFF && !standsForByte point then
    some .unencodable
  else if path.text.any fun point => point.value = 0 then some .nullInside
  else none

end Path

/-- A fault and the path at which it was met. -/
structure FileError where
  fault : FileFault
  path : Path
  /-- Whether the system was given the path, and not a file that was open already. -/
  isNamed : Bool := true
  deriving DecidableEq

namespace FileError

def message (error : FileError) : Text :=
  match error.fault.number? with
  | some number =>
    "[Errno " ++ Text.ofNat number ++ "] " ++ error.fault.reason
      ++ if error.isNamed then ": " ++ Text.Cited.encode error.path.text else []
  | none =>
    if error.fault = .unencodable then Utf8.surrogateMessage Path.standsForByte error.path.text
    else error.fault.reason

/-- What the system says of a fault, or the whole message where it says nothing. -/
def reason (error : FileError) : Text :=
  if error.fault.reason = [] then error.message else error.fault.reason

end FileError

/-- What a path can lead to. -/
inductive FileKind where
  | directory | file
  deriving DecidableEq

/-- What a program may ask of the files around it. Every request may meet a fault. -/
class FileAccess (m : Type → Type) where
  /-- The place from which relative paths lead. -/
  working : m (Except FileError FileLocation)
  /-- What a path leads to. -/
  status : Path → m (Except FileFault FileKind)
  /-- The content of a file. -/
  content : Path → m (Except FileError (List UInt8))
  /-- Creates a directory inside one that is there. -/
  makeDirectory : Path → m (Option FileFault)
  /-- Creates a file, or empties one, and then fills it. A fault may leave it as it was, or with a
  part of the content. -/
  write : Path → List UInt8 → m (Option FileError)

namespace FileAccess

variable {m : Type → Type} [Monad m] [FileAccess m]

/-- Tells whether a path leads to something of a kind, unless the system refuses to tell. -/
def leadsTo (kind : FileKind) (path : Path) : m (Except FileError Bool) := do
  match ← status path with
  | .ok found => return .ok (found = kind)
  | .error fault =>
    return if fault.isAbsence then .ok false else .error { fault, path }

/-- The content of a file, if a path leads to one. -/
def read (path : Path) : m (Except FileError (Option (List UInt8))) := do
  match ← leadsTo .file path with
  | .error error => return .error error
  | .ok false => return .ok none
  | .ok true => return (← content path).map some

/-- Creates a directory, unless it is there, inside one that must be. -/
def ensureDirectory (path : Path) : m (Option FileError) := do
  match ← makeDirectory path with
  | none => return none
  | some fault =>
    if fault = .missing then return some { fault, path }
    match ← leadsTo .directory path with
    | .error error => return some error
    | .ok true => return none
    | .ok false => return some { fault, path }

/-- Creates the directory of names in reverse, and those above it that are missing. -/
def ensureNames (anchor : Path.Anchor) : List Text → m (Option FileError)
  | [] => ensureDirectory ⟨anchor, []⟩
  | name :: above => do
    let path : Path := ⟨anchor, (name :: above).reverse⟩
    match ← ensureDirectory path with
    | none => return none
    | some error =>
      if error.fault ≠ .missing then return some error
      match ← ensureNames anchor above with
      | some error => return some error
      | none => ensureDirectory path

/-- Creates a directory and those above it, as far as they are missing. -/
def ensureDirectories (path : Path) : m (Option FileError) :=
  ensureNames path.anchor path.names.reverse

/-- Writes a file into a directory that is created first, where it is missing. -/
def store (path : Path) (content : List UInt8) : m (Option FileError) := do
  match ← ensureDirectories path.parent with
  | some error => return some error
  | none => write path content

end FileAccess

/-- What stands at a place. -/
inductive FileEntry where
  | directory
  | file (content : List UInt8)
  deriving DecidableEq

def FileEntry.kind : FileEntry → FileKind
  | directory => .directory
  | file _ => .file

/-- What is at the places of a file system, apart from the root. -/
abbrev FileEntries := List (FileLocation × FileEntry)

/-- A call of the system. -/
inductive FileCall where
  | working
  | status (path : Path)
  /-- Opening of a file that is to be read. -/
  | opening (path : Path)
  | reading (path : Path)
  | makeDirectory (path : Path)
  /-- Opening of a file that is to be written, by which it is created or emptied. -/
  | creating (path : Path)
  | writing (path : Path) (content : List UInt8)

/-- The path that a call is about. -/
def FileCall.path? : FileCall → Option Path
  | working => none
  | status path | opening path | reading path | makeDirectory path | creating path
  | writing path _ => some path

/-- What a call of the system meets that has nothing to do with what is at the places. -/
structure Trouble where
  fault : FileFault
  /-- The number of bytes that have come through, if some were to be written. -/
  passed : Nat := 0
  ofSystem : fault.isOfSystem = true
  /-- Whether there is something at a path is told by the places alone. -/
  noAbsence : fault.isAbsence = false

/-- Files and directories by their places, and the directory from which relative paths lead. -/
structure FileSystem where
  entries : FileEntries
  working : FileLocation
  /-- The trouble that a call meets when the places have come to be as they are. -/
  trouble : FileEntries → FileCall → Option Trouble := fun _ _ => none

namespace FileSystem

/-- What stands at a place; at the root there is always a directory. -/
def entry? (files : FileSystem) (place : FileLocation) : Option FileEntry :=
  if place = [] then some .directory else files.entries.lookup place

/-- Tells why names cannot lead on from a place, if they cannot. -/
def blocked? (files : FileSystem) (place : FileLocation) : Option FileFault :=
  match files.entry? place with
  | some .directory => none
  | some (.file _) => some .notDirectory
  | none => some .missing

/-- The greatest number of bytes of a name. -/
def nameLimit : Nat := 255

/-- The greatest number of bytes of a written path. -/
def pathLimit : Nat := 4095

/-- The place that names lead to; all directories on the way must be there. -/
def walk (files : FileSystem) (place : FileLocation) : List Text → Except FileFault FileLocation
  | [] => .ok place
  | name :: names =>
    match files.blocked? place with
    | some fault => .error fault
    | none =>
      if nameLimit < Path.byteCount name then .error .nameTooLong
      else walk files (FileLocation.follow place [name]) names

/-- The place that a path leads to, at which nothing needs to be. -/
def locate (files : FileSystem) (path : Path) : Except FileFault FileLocation :=
  match path.fault? with
  | some fault => .error fault
  | none =>
    if pathLimit < Path.byteCount path.text then .error .nameTooLong
    else files.walk (if path.isAbsolute then [] else files.working) path.names

/-- What a path leads to. -/
def find? (files : FileSystem) (path : Path) : Option FileEntry :=
  match files.locate path with
  | .ok place => files.entry? place
  | .error _ => none

def put (files : FileSystem) (place : FileLocation) (entry : FileEntry) : FileSystem :=
  { files with entries := Keyed.put place entry files.entries }

/-- The trouble that a call meets now. -/
def trouble? (files : FileSystem) (call : FileCall) : Option Trouble :=
  files.trouble files.entries call

/-- The place that a call with a path leads to. A path that cannot be spelled is noticed before the
system is called. -/
def reach (files : FileSystem) (call : FileCall) (path : Path) : Except FileFault FileLocation :=
  match path.fault?, files.trouble? call with
  | some fault, _ => .error fault
  | none, some trouble => .error trouble.fault
  | none, none => files.locate path

/-- The directory from which relative paths lead, if it is still there. -/
def workingDirectory (files : FileSystem) : Except FileError FileLocation :=
  match files.trouble? .working with
  | some trouble => .error { fault := trouble.fault, path := "", isNamed := false }
  | none =>
    if files.entry? files.working = some .directory then .ok files.working
    else .error { fault := .missing, path := "", isNamed := false }

def status (files : FileSystem) (path : Path) : Except FileFault FileKind := do
  match files.entry? (← files.reach (.status path) path) with
  | some entry => return entry.kind
  | none => throw .missing

def content (files : FileSystem) (path : Path) : Except FileError (List UInt8) := do
  let place ← (files.reach (.opening path) path).mapError fun fault => { fault, path }
  match files.entry? place with
  | none => throw { fault := .missing, path }
  | some .directory => throw { fault := .isDirectory, path }
  | some (.file content) =>
    match files.trouble? (.reading path) with
    | some trouble => throw { fault := trouble.fault, path, isNamed := false }
    | none => return content

/-- A file system with a new directory. -/
def makeDirectory (files : FileSystem) (path : Path) : Except FileFault FileSystem := do
  let place ← files.reach (.makeDirectory path) path
  if (files.entry? place).isSome then throw .exists
  return files.put place .directory

/-- The place of a file that may be written into. -/
def create (files : FileSystem) (path : Path) : Except FileFault FileLocation := do
  let place ← files.reach (.creating path) path
  if files.entry? place = some .directory then throw .isDirectory
  return place

/-- What writing into a new or emptied file leaves at its place. -/
def fill (files : FileSystem) (place : FileLocation) (path : Path) (content : List UInt8)
    : Option FileError × FileSystem :=
  match (files.put place (.file [])).trouble? (.writing path content) with
  | none => (none, files.put place (.file content))
  | some trouble =>
    (some { fault := trouble.fault, path, isNamed := false },
      files.put place (.file (content.take trouble.passed)))

/-- The files after writing into one of them, and the fault that kept its content from
being whole. -/
def write (files : FileSystem) (path : Path) (content : List UInt8)
    : Option FileError × FileSystem :=
  match files.create path with
  | .error fault => (some { fault, path }, files)
  | .ok place => files.fill place path content

instance : FileAccess (StateM FileSystem) where
  working := return (← get).workingDirectory
  status path := return (← get).status path
  content path := return (← get).content path
  makeDirectory path := modifyGet fun files =>
    match files.makeDirectory path with
    | .ok made => (none, made)
    | .error fault => (some fault, files)
  write path content := modifyGet fun files => files.write path content

end FileSystem

end DeviceScript
