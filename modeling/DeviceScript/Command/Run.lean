import DeviceScript.Console.Terminal
import DeviceScript.Settings.Layered
import DeviceScript.Translation.Conversion

/-! What a command can do besides asking for files: print, and break off. -/

namespace DeviceScript.Command

/-- What a command leaves to libraries: reading of scripts, settings, and printing. -/
structure Libraries where
  read : Text → Except Unreadable Node := Script.toNode
  settings : Settings.Library := {}
  terminal : Terminal := .standard

/-- What makes a command break off without an exit code. -/
inductive Crash where
  | load (fault : LoadFault)
  | run (failure : Failure)
  | file (error : FileError)
  | print (fault : PrintFault)

/-- What is said of a crash. -/
def Crash.message (libraries : Libraries) : Crash → Text
  | load (.malformed path reason) => Settings.malformedMessage path reason
  | load (.abandoned reason) => reason
  | load (.undecodable content malformed) => malformed.message content
  | load (.misuse misuse) => misuse.message
  | load (.rejected rejections) => libraries.settings.validation.report rejections
  | load (.unreachable error) => error.message
  | run failure => failure.message
  | file error => error.message
  | print fault => fault.message

/-- A command: what it printed is kept, whether it comes to its end or not. -/
abbrev Run (m : Type → Type) := ExceptT Crash (StateT (List ConsoleItem) m)

namespace Run

variable {m : Type → Type} [Monad m]

/-- Does something that cannot print. -/
def lift {α : Type} (action : m α) : Run m α := ExceptT.lift (StateT.lift action)

/-- Prints an item, unless the library fails at it. -/
def print (item : Except PrintFault ConsoleItem) : Run m Unit := do
  match item with
  | .ok item => modify (· ++ [item])
  | .error fault => throw (.print fault)

/-- Prints a message with markup. -/
def say (terminal : Terminal) (level : LogLevel) (text : Text) : Run m Unit :=
  print (terminal.messageItem level text)

end Run

/-- A path in the markup for paths. -/
def pathMarkup (path : Path) : Text := "[path]" ++ path.text ++ "[/path]"

/-- The complaint about settings that are not accepted, as far as there is one. -/
def settingsMessage? (validation : Settings.Validation) : LoadFault → Option Text
  | .malformed path reason => some (Settings.malformedMessage path reason)
  | .rejected rejections => some (validation.report rejections)
  | _ => none

/-- Goes on with the settings, or says why there are none and ends with a failure. -/
def withSettings {m : Type → Type} [Monad m] [FileAccess m] (libraries : Libraries)
    (overrides : Overrides) (use : Settings → Run m Nat) : Run m Nat := do
  match ← Run.lift (Settings.load overrides libraries.settings : m _) with
  | .ok settings => use settings
  | .error fault =>
    match settingsMessage? libraries.settings.validation fault with
    | none => throw (.load fault)
    | some message =>
      Run.say libraries.terminal .error
        ("Invalid configuration: " ++ libraries.terminal.escape message)
      return 1

end DeviceScript.Command
