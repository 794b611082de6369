import DeviceScript.Data.Datum
import DeviceScript.Number.Numeral
import DeviceScript.Text.Cited

/-! The way a value is cited in a message, and the name of its shape there. -/

namespace DeviceScript.Datum

/-- The name of the shape of a value. -/
def shapeName : Datum → Text
  | null => "NoneType"
  | boolean _ => "bool"
  | integer _ => "int"
  | real _ => "float"
  | text _ => "str"
  | moment value => value.kindName
  | list _ => "list"
  | table _ => "dict"

/-- The name of the shape of a value, behind that of the module that it comes from. -/
def typeName : Datum → Text
  | moment value => "datetime." ++ value.kindName
  | value => value.shapeName

mutual

/-- A value as it is cited in a message. -/
def cited : Datum → Text
  | null => "None"
  | boolean value => if value then "True" else "False"
  | integer value => Text.ofInt value
  | real value => Numeral.ofBinary64 value
  | text value => Text.Cited.encode value
  | moment value => value.cited
  | list items => "[" ++ Text.join ", " (citedItems items) ++ "]"
  | table entries => "\x7b" ++ Text.join ", " (citedEntries entries) ++ "\x7d"

def citedItems : List Datum → List Text
  | [] => []
  | item :: items => cited item :: citedItems items

def citedEntries : List (Text × Datum) → List Text
  | [] => []
  | entry :: entries => citedEntry entry :: citedEntries entries

def citedEntry : Text × Datum → Text
  | (key, value) => Text.Cited.encode key ++ ": " ++ cited value

end

/-- Texts in round brackets, where a single one keeps a comma behind it. -/
def citedGroup : List Text → Text
  | [item] => "(" ++ item ++ ",)"
  | items => "(" ++ Text.join ", " items ++ ")"

end DeviceScript.Datum
