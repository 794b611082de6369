import DeviceScript.Data.Keyed
import DeviceScript.Text.Basic

/-! The table of dotted script names that have a C++ name of their own. -/

namespace DeviceScript

/-- Script names and the C++ names that replace them, in the order in which they were first
entered. -/
structure ShimTable where
  entries : List (Text × Text)

namespace ShimTable

/-- The names of the runtime support unit and of the mathematics header. -/
def builtIn : ShimTable where
  entries := [
    ("basic.showAkhila", "basic::showAkhila"), ("basic.showString", "basic::showString"),
    ("basic.showNumber", "basic::showNumber"), ("led.on", "led::on"), ("Math.sqrt", "sqrt"),
    ("Math.pow", "pow"), ("Math.abs", "abs"), ("Math.floor", "floor"), ("Math.ceil", "ceil"),
    ("Math.round", "round"), ("Math.sin", "sin"), ("Math.cos", "cos"), ("Math.tan", "tan"),
    ("Math.asin", "asin"), ("Math.acos", "acos"), ("Math.atan2", "atan2")]

/-- A table with further entries, of which the last for a source holds. -/
def overlay (table : ShimTable) (extras : List (Text × Text)) : ShimTable where
  entries := Keyed.putAll table.entries extras

/-- The built-in table with further entries. -/
def ofExtras (extras : List (Text × Text)) : ShimTable := builtIn.overlay extras

def lookup? (table : ShimTable) (source : Text) : Option Text := table.entries.lookup source

def contains (table : ShimTable) (source : Text) : Bool := (table.lookup? source).isSome

def size (table : ShimTable) : Nat := table.entries.length

/-- The source names in the order of the table. -/
def sources (table : ShimTable) : List Text := table.entries.map Prod.fst

/-- The entries in the order of their source names. -/
def items (table : ShimTable) : List (Text × Text) :=
  table.entries.mergeSort fun left right => !right.1.precedes left.1

/-- The C++ spelling of a name that is in no table: its parts joined by the scope operator. -/
def scopedName (object property : Text) : Text := object ++ "::" ++ property

end ShimTable

end DeviceScript
