import DeviceScript.Data.Moment
import DeviceScript.Number.Binary64
import DeviceScript.Text.Basic

/-! Values without a fixed shape: parsed scripts, settings files and settings given by hand. -/

namespace DeviceScript

/-- A value of a data format. A table keeps the order of its keys. -/
inductive Datum where
  | null
  | boolean (value : Bool)
  | integer (value : Int)
  | real (value : Binary64)
  | text (value : Text)
  | moment (value : Moment)
  | list (items : List Datum)
  | table (entries : List (Text × Datum))

namespace Datum

instance : Inhabited Datum := ⟨null⟩

/-- The value under a key of a table. -/
def field? : Datum → Text → Option Datum
  | table entries, key => entries.lookup key
  | _, _ => none

/-- The value under a key, where a missing one is null. -/
def field (datum : Datum) (key : Text) : Datum := (datum.field? key).getD null

/-- The text under a key, where anything else is the empty text. -/
def textField (datum : Datum) (key : Text) : Text :=
  match datum.field? key with
  | some (text value) => value
  | _ => []

def isNull : Datum → Bool
  | null => true
  | _ => false

/-- Null, `false`, zero and whatever is empty count as absent. -/
def isPresent : Datum → Bool
  | null => false
  | boolean value => value
  | integer value => value ≠ 0
  | real value => value.toInt? ≠ some 0
  | text value => value ≠ []
  | moment _ => true
  | list items => !items.isEmpty
  | table entries => !entries.isEmpty

/-- What is found under a key is smaller than the entries. -/
theorem sizeOf_lt_of_lookup {entries : List (Text × Datum)} {key : Text} {value : Datum}
    (h : entries.lookup key = some value) : sizeOf value < sizeOf entries := by
  induction entries with
  | nil => simp at h
  | cons entry entries ih =>
      obtain ⟨name, item⟩ := entry
      simp only [List.lookup_cons] at h
      split at h
      · simp only [Option.some.injEq] at h
        subst h
        simp only [List.cons.sizeOf_spec, Prod.mk.sizeOf_spec]
        omega
      · have := ih h
        simp only [List.cons.sizeOf_spec]
        omega

/-- A field is smaller than the datum that has it. -/
theorem sizeOf_field?_lt {datum value : Datum} {key : Text} (h : datum.field? key = some value)
    : sizeOf value < sizeOf datum := by
  cases datum with
  | table entries =>
      have := sizeOf_lt_of_lookup h
      simp only [table.sizeOf_spec]
      omega
  | _ => simp [field?] at h

end Datum

end DeviceScript
