import DeviceScript.Command.Run

/-! The command that shows which names are replaced. -/

namespace DeviceScript.Command

variable {m : Type → Type} [Monad m] [FileAccess m]

/-- Where a replacement comes from. -/
def origin (settings : Settings) (source : Text) : Text :=
  if (settings.extraShims.lookup source).isNone then "built-in"
  else if ShimTable.builtIn.contains source then "config (overrides built-in)"
  else "config"

/-- The table of the names that are replaced under some settings. -/
def shimTable (terminal : Terminal) (settings : Settings) : Except PrintFault ConsoleItem :=
  let row (shim : Text × Text) : List Text := [shim.1, shim.2, origin settings shim.1]
  terminal.tableItem "Shim Table" (["Source", "C++", "Origin"] :: settings.shims.items.map row)

/-- Shows which names are replaced under the settings that hold at a directory. -/
def shims (directory : Option Path) (libraries : Libraries := {}) : Run m Nat :=
  withSettings libraries { start := directory } fun settings => do
    Run.print (shimTable libraries.terminal settings)
    return 0

end DeviceScript.Command
