import DeviceScript.Command.Arguments
import DeviceScript.Files.Path
import DeviceScript.Translation.SupportUnit

/-! The commands of the program, and the command lines that ask for them. -/

namespace DeviceScript

/-- What the program is asked to do. -/
inductive Invocation where
  | convert (input output : Option Path) (strict : Option Bool) (runtime : Option Text)
    (trace : Option Path)
  | shims (directory : Option Path)
  | runtime (directory : Path) (name : Path)

namespace Invocation

open Command

def helpSwitch : Switch := ⟨["-h", "--help"], .help⟩
def versionSwitch : Switch := ⟨["--version"], .version⟩
def outSwitch : Switch := ⟨["--out"], .value⟩
def strictSwitch : Switch := ⟨["--strict"], .flag⟩
def includeSwitch : Switch := ⟨["--include"], .value⟩
def traceSwitch : Switch := ⟨["--json-trace"], .value⟩
def configSwitch : Switch := ⟨["--config-dir"], .value⟩
def directorySwitch : Switch := ⟨["--out-dir"], .value⟩
def nameSwitch : Switch := ⟨["--name"], .value⟩

def program : Text := "ts2cpp"

/-- The command line of the program itself. -/
def grammar : Grammar := ⟨[helpSwitch, versionSwitch], .command⟩

/-- What follows the names of the commands. -/
def commands : List (Text × Grammar) := [
  ("convert", ⟨[helpSwitch, outSwitch, strictSwitch, includeSwitch, traceSwitch], .one⟩),
  ("shims", ⟨[helpSwitch, configSwitch], .none⟩),
  ("runtime", ⟨[helpSwitch, directorySwitch, nameSwitch], .none⟩)]

/-- The invocation of a command with what was read behind its name. -/
def ofReading (command : Text) (reading : Reading) : Invocation :=
  let path? (switch : Switch) : Option Path := (reading.value? switch).map Path.ofText
  if command = "convert" then
    convert (reading.operand?.map Path.ofText) (path? outSwitch)
      ((reading.value? strictSwitch).map fun _ => true) (reading.value? includeSwitch)
      (path? traceSwitch)
  else if command = "shims" then shims (path? configSwitch)
  else
    runtime ((path? directorySwitch).getD ".")
      ((path? nameSwitch).getD (Path.ofText SupportUnit.fileName))

/-- What ends a command line without an invocation, and the program or command that it concerns. -/
structure Refusal where
  program : Text
  stop : Stop

/-- The invocation that a command line asks for. -/
def parse (arguments : List Text) : Except Refusal Invocation := do
  let refuse (fault : UsageFault) : Refusal := ⟨program, .fault fault⟩
  let outer ← (grammar.read arguments).mapError (Refusal.mk program)
  match outer.operands with
  | some (command :: rest) =>
    match commands.lookup command with
    | none => throw (refuse (.unknownCommand command (commands.map Prod.fst)))
    | some inner =>
      let reading ← (inner.read rest).mapError (Refusal.mk (program ++ " " ++ command))
      match outer.extras ++ reading.extras with
      | [] => return ofReading command reading
      | extras => throw (refuse (.unrecognized extras))
  | _ => throw (refuse .commandMissing)

end Invocation

end DeviceScript
