import DeviceScript.Command.Convert
import DeviceScript.Command.Invocation
import DeviceScript.Command.Shims

/-! The program: a command line, what it prints, and how it ends. -/

namespace DeviceScript.Command

variable {m : Type → Type} [Monad m] [FileAccess m]

/-- Writes the file that generated programs include. -/
def runtime (directory name : Path) (libraries : Libraries := {}) : Run m Nat := do
  match ← Run.lift (SupportUnit.write directory name : m _) with
  | .error error => throw (.file error)
  | .ok path =>
    Run.say libraries.terminal .success ("Runtime support unit written to " ++ pathMarkup path)
    return 0

/-- Carries out a command. -/
def perform (stamps : Nat → Stamp) (libraries : Libraries) : Invocation → Run m Nat
  | .convert input output strict file trace =>
    convert stamps input output strict file trace libraries
  | .shims directory => shims directory libraries
  | .runtime directory name => runtime directory name libraries

/-- How the program ends. -/
inductive Ending where
  | finished (code : Nat)
  | crashed (crash : Crash)
  | shown (text : Text)
  | refused (complaint : Text)

/-- What a person who asks for help is told. -/
def usage (program : Text) : Text := "usage: " ++ program ++ " [-h] ...\n"

/-- The end of a program whose command line asks for no command. -/
def Ending.ofRefusal (refusal : Invocation.Refusal) : Ending :=
  match refusal.stop with
  | .help => shown (usage refusal.program)
  | .version => shown (Invocation.program ++ " " ++ SupportUnit.version ++ "\n")
  | .fault fault => refused (refusal.program ++ ": error: " ++ fault.message)

/-- Carries out a command line; the answer is what was printed and how the program ended. -/
def execute (stamps : Nat → Stamp) (arguments : List Text) (libraries : Libraries := {})
    : m (List ConsoleItem × Ending) := do
  match Invocation.parse arguments with
  | .error refusal => return ([], .ofRefusal refusal)
  | .ok invocation =>
    match ← ((perform stamps libraries invocation : Run m Nat).run.run []) with
    | (.ok code, items) => return (items, .finished code)
    | (.error crash, items) => return (items, .crashed crash)

end DeviceScript.Command
