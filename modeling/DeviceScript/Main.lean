import DeviceScript.Command.Program

/-! The program on the files of a machine. -/

namespace DeviceScript.Main

/-- A text as a string, in which nothing can stand for a surrogate. -/
def display (text : Text) : String :=
  String.ofList (text.map fun
    | .scalar char => char
    | .surrogate _ => '\ufffd')

/-- The fault with a number among those of the system. -/
def faultOfNumber (number : UInt32) (text : String) : FileFault :=
  let known : List FileFault := [.missing, .exists, .notDirectory, .isDirectory, .nameTooLong]
  (known.find? fun fault => fault.number? = some number.toNat).getD
    (.other number.toNat (Text.ofString text))

/-- The fault behind an error of the system. -/
def faultOf : IO.Error → FileFault
  | .alreadyExists _ number text | .otherError number text | .resourceBusy number text
  | .resourceVanished number text | .unsupportedOperation number text | .hardwareFault number text
  | .unsatisfiedConstraints number text | .illegalOperation number text
  | .protocolError number text | .timeExpired number text | .interrupted _ number text
  | .noFileOrDirectory _ number text | .invalidArgument _ number text
  | .permissionDenied _ number text | .resourceExhausted _ number text
  | .inappropriateType _ number text | .noSuchThing _ number text => faultOfNumber number text
  | .unexpectedEof => .other 5 "Input/output error"
  | .userError text => .other 5 (Text.ofString text)

/-- Does something with the system and yields the fault that it meets. -/
def attempt {α : Type} (action : IO α) : IO (Except FileFault α) := do
  try return .ok (← action)
  catch error => return .error (faultOf error)

/-- Asks the system about a path, if the path can be spelled. -/
def ask {α : Type} (path : Path) (action : String → IO α) : IO (Except FileFault α) :=
  match path.fault? with
  | some fault => return .error fault
  | none => attempt (action (display path.text))

/-- What a path leads to, which for most programs is a file or a directory. -/
def status (path : Path) : IO (Except FileFault FileKind) := do
  match ← ask path fun name => return (← ((← IO.currentDir) / name).metadata).type with
  | .ok .dir => return .ok .directory
  | .ok .file => return .ok .file
  | .ok _ => return .error .missing
  | .error fault => return .error fault

/-- Fills a file that has been opened. -/
def fill (path : Path) (handle : IO.FS.Handle) (content : List UInt8) : IO (Option FileError) := do
  match ← attempt (do handle.write (ByteArray.mk content.toArray); handle.flush) with
  | .ok () => return none
  | .error fault => return some { fault, path, isNamed := false }

instance : FileAccess IO where
  working := do
    match ← attempt IO.currentDir with
    | .ok name => return .ok (FileLocation.ofPath [] (Path.ofText (toString name)))
    | .error fault => return .error { fault, path := "", isNamed := false }
  status := status
  content path := do
    match ← ask path fun name => IO.FS.readBinFile name with
    | .ok content => return .ok content.toList
    | .error fault => return .error { fault, path }
  makeDirectory path := do
    match ← ask path fun name => IO.FS.createDir name with
    | .ok () => return none
    | .error fault => return some fault
  write path content := do
    match ← ask path fun name => IO.FS.Handle.mk name .write with
    | .ok handle => fill path handle content
    | .error fault => return some { fault, path }

/-- Prints one item: a message, or a table with its cells one behind the other. -/
def print : ConsoleItem → IO Unit
  | .message level lines =>
    (ConsoleItem.messageLines level lines).forM fun line => IO.println (display line)
  | .table title rows => do
    title.forM fun line => IO.println (display line)
    rows.forM fun row => IO.println (display (Text.join " | " row))

/-- Identifiers that no other run uses, and the time of this one. -/
def stamps : IO (Nat → Stamp) := do
  let run ← IO.rand 0 (Nat.pow 2 64 - 1)
  let time := Binary64.ofQuotient false (← IO.monoNanosNow) (Nat.pow 10 9)
  return fun position => ⟨Text.padded 16 16 run ++ "-" ++ Text.ofNat position, time⟩

/-- Reports the end of a program, and answers with its exit code. -/
def finish : Command.Ending → IO UInt32
  | .finished code => return UInt32.ofNat code
  | .crashed crash => do
    IO.eprintln (display (crash.message {}))
    return 1
  | .shown text => do
    IO.print (display text)
    return 0
  | .refused complaint => do
    IO.eprintln (display complaint)
    return 2

end DeviceScript.Main

open DeviceScript in
/-- Carries out a command line on the files of the machine. -/
def main (arguments : List String) : IO UInt32 := do
  let (items, ending) ← Command.execute (← Main.stamps) (arguments.map Text.ofString)
  items.forM Main.print
  Main.finish ending
