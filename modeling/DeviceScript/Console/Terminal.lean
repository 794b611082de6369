import DeviceScript.Console.Columns
import DeviceScript.Console.Markup

/-! What is printed on the console, messages with a level and tables, and the library that prints
it.
-/

namespace DeviceScript

/-- The level of a message. -/
inductive LogLevel where
  | info | success | warning | error
  deriving DecidableEq

namespace LogLevel

def name : LogLevel → Text
  | info => "INFO"
  | success => "SUCCESS"
  | warning => "WARNING"
  | error => "ERROR"

/-- The sign in front of a message. -/
def sign : LogLevel → Text
  | info => "ℹ️  "
  | success => "✅ "
  | warning => "⚠️  "
  | error => "❌ "

end LogLevel

/-- Something that is printed, without its markup: the lines of a message, or those of a title and
the cells below it. -/
inductive ConsoleItem where
  | message (level : LogLevel) (lines : List Text)
  | table (title : List Text) (rows : List (List Text))
  deriving DecidableEq

/-- What a library raises that cannot print something. -/
structure PrintFault where
  name : Text
  message : Text
  deriving DecidableEq

/-- A library that prints text with markup. -/
structure Terminal where
  /-- The markup that shows a text as it is. -/
  escape : Text → Text
  /-- The lines that a message with markup is printed in. -/
  message : LogLevel → Text → Except PrintFault (List Text)
  /-- The lines of the title and the cells of a table that has markup in both. -/
  table : Text → List (List Text) → Except PrintFault (List Text × List (List Text))

namespace Terminal

variable (terminal : Terminal)

/-- A message with markup behind the sign of its level. -/
def messageItem (level : LogLevel) (markup : Text) : Except PrintFault ConsoleItem :=
  (terminal.message level (level.sign ++ markup)).map (.message level)

/-- A table whose title and cells have markup. -/
def tableItem (title : Text) (rows : List (List Text)) : Except PrintFault ConsoleItem :=
  (terminal.table title rows).map fun (title, rows) => .table title rows

/-- The text that markup shows on a console of any width. -/
def shownText (markup : Text) : Except PrintFault Text :=
  match Markup.render markup with
  | .ok text => .ok (Text.expandTabs 0 text)
  | .error fault => .error ⟨"MarkupError", fault.message⟩

/-- A library that never breaks a line. -/
def standard : Terminal where
  escape := Markup.escape
  message _ markup := (shownText markup).map Text.lines
  table title rows := do
    let rows ← rows.mapM fun row => row.mapM shownText
    return (Text.lines (← shownText title), rows)

end Terminal

namespace ConsoleItem

/-- The lines of a message, behind the name of its level in a column of its own. -/
def messageLines (level : LogLevel) : List Text → List Text :=
  let column (name : Text) : Text := name ++ List.replicate (9 - name.length) (.scalar ' ')
  fun
    | [] => []
    | first :: rest => (column level.name ++ first) :: rest.map fun line => column [] ++ line

end ConsoleItem

end DeviceScript
