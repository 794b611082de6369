import DeviceScript.Command.Convert
import DeviceScript.Proofs.Console.Terminal
import DeviceScript.Proofs.Cpp.Numeral
import DeviceScript.Proofs.Files.Storing

/-! What commands print. A command breaks off at the first item that the console does not take.
Escaped texts are always taken, so of all that is said about a translation only the items with paths
in them can be refused.
-/

namespace DeviceScript

namespace Terminal

open Markup

variable {terminal : Terminal} {size : Size}

/-- A message with matched tags can be printed. -/
theorem Lawful.exists_messageItem (h : terminal.Lawful size) {level : LogLevel} {markup : Text}
    (hmatched : isMatched [] (pieces 0 0 [] (level.sign ++ markup)) = true)
    : ∃ item, terminal.messageItem level markup = .ok item := by
  obtain ⟨lines, hlines⟩ := h.matched level _ hmatched
  exact ⟨.message level lines, congrArg (Except.map (ConsoleItem.message level)) hlines⟩

/-- A message of plain words and an escaped text can be printed. -/
theorem Lawful.exists_messageItem_escape (h : terminal.Lawful size) (level : LogLevel)
    {words : Text} (hwords : ∀ point ∈ words, point ≠ '[' ∧ point ≠ '\\') (text : Text)
    : ∃ item, terminal.messageItem level (words ++ terminal.escape text) = .ok item := by
  have hsign : ∀ point ∈ level.sign, point ≠ '[' ∧ point ≠ '\\' := by
    cases level <;> decide
  refine h.exists_messageItem ?_
  rw [← List.append_assoc]
  exact isMatched_of_isPlain
    (h.tagless _ text (List.forall_mem_append.mpr ⟨hsign, hwords⟩)) []

end Terminal

namespace Command

/-- An item for the console, or what the console raises in its place. -/
abbrev Printed := Except PrintFault ConsoleItem

/-- The console takes the item. -/
def IsPrintable (item : Printed) : Prop := ∃ shown, item = .ok shown

namespace Run

variable {α β : Type} {first : Run (StateM FileSystem) α} {next : α → Run (StateM FileSystem) β}
  {shown shown' : List ConsoleItem} {files files' : FileSystem}

/-- How a command ends, what it has printed by then, and which files it leaves behind. -/
def outcome (command : Run (StateM FileSystem) α) (shown : List ConsoleItem) (files : FileSystem)
    : (Except Crash α × List ConsoleItem) × FileSystem :=
  (command.run.run shown).run files

/-- What cannot print changes nothing but the files. -/
theorem outcome_lift (action : StateM FileSystem α)
    : outcome (Run.lift action) shown files
      = ((.ok (action.run files).1, shown), (action.run files).2) :=
  rfl

/-- A command that comes to its end is followed by the next one. -/
theorem outcome_bind_of_ok {value : α}
    (h : first.outcome shown files = ((.ok value, shown'), files'))
    : outcome (first >>= next) shown files = (next value).outcome shown' files' := by
  unfold outcome at h
  rw [outcome, ExceptT.run_bind, StateT.run_bind, StateM.run_bind, h]
  rfl

/-- Nothing follows a command that breaks off. -/
theorem outcome_bind_of_error {crash : Crash}
    (h : first.outcome shown files = ((.error crash, shown'), files'))
    : outcome (first >>= next) shown files = ((.error crash, shown'), files') := by
  unfold outcome at h
  rw [outcome, ExceptT.run_bind, StateT.run_bind, StateM.run_bind, h]
  rfl

/-- What follows on a command depends on how that command ends, and on nothing else about it. -/
theorem outcome_bind_congr {second : Run (StateM FileSystem) α} {shown'' : List ConsoleItem}
    {files'' : FileSystem} (h : first.outcome shown files = second.outcome shown'' files'')
    : outcome (first >>= next) shown files = outcome (second >>= next) shown'' files'' := by
  rcases hfirst : first.outcome shown files with ⟨⟨crash | value, shown'⟩, files'⟩
  · rw [outcome_bind_of_error hfirst, outcome_bind_of_error (h.symm.trans hfirst)]
  · rw [outcome_bind_of_ok hfirst, outcome_bind_of_ok (h.symm.trans hfirst)]

end Run

-----------------------------------------------------------------------------------------
-- Commands that do nothing but print
-----------------------------------------------------------------------------------------

/-- The first fault that the console raises at some items. -/
def firstFault? (items : List Printed) : Option PrintFault :=
  items.findSome? fun
    | .ok _ => none
    | .error fault => some fault

/-- Items have no fault exactly if each of them can be printed. -/
theorem firstFault?_eq_none_iff {items : List Printed}
    : firstFault? items = none ↔ ∀ item ∈ items, IsPrintable item := by
  unfold firstFault?
  rw [List.findSome?_eq_none_iff]
  refine forall₂_congr fun item _ => ?_
  cases item with
  | ok shown => exact iff_of_true rfl ⟨shown, rfl⟩
  | error fault => exact iff_of_false nofun nofun

/-- How a command ends that yields a value unless an item that it prints is faulty. -/
def spoken {α : Type} (items : List Printed) (value : α) : Except Crash α :=
  match firstFault? items with
  | none => .ok value
  | some fault => .error (.print fault)

/-- A command that says something comes to its end exactly if all of it can be printed. -/
theorem spoken_eq_ok_iff {α : Type} {items : List Printed}
    {value value' : α}
    : spoken items value = .ok value' ↔ value' = value ∧ ∀ item ∈ items, IsPrintable item := by
  rw [← firstFault?_eq_none_iff, spoken]
  cases firstFault? items with
  | none => simp [eq_comm]
  | some fault => simp

/-- What is said breaks off exactly if something in it cannot be printed. -/
theorem spoken_eq_error_iff {α : Type} {items : List Printed} {value : α}
    : (∃ fault, spoken items value = .error (.print fault))
      ↔ ¬∀ item ∈ items, IsPrintable item := by
  rw [← firstFault?_eq_none_iff, spoken]
  cases firstFault? items with
  | none => exact iff_of_false nofun (fun h => h rfl)
  | some fault => exact iff_of_true ⟨fault, rfl⟩ nofun

/-- The items in front of the first faulty one. -/
def printed : List Printed → List ConsoleItem
  | [] => []
  | .ok item :: items => item :: printed items
  | .error _ :: _ => []

/-- What is printed of two lists of items, by induction over the first. -/
theorem printed_append (items items' : List Printed)
    : printed (items ++ items')
      = printed items ++ if (firstFault? items).isSome then [] else printed items' := by
  induction items with
  | nil => rfl
  | cons item items ih =>
      cases item with
      | error fault => rfl
      | ok item => exact congrArg (item :: ·) ih

/-- The command asks for no files. It prints some items one after another, up to the first faulty
one, and yields a value if there is none. -/
def Says {α : Type} (command : Run (StateM FileSystem) α)
    (items : List Printed) (value : α)
    : Prop :=
  ∀ shown files,
    command.outcome shown files = ((spoken items value, shown ++ printed items), files)

section Says

variable {α β : Type} {first : Run (StateM FileSystem) α} {next : α → Run (StateM FileSystem) β}
  {items items' : List Printed} {value : α} {value' : β}

/-- To yield a value is to say nothing. -/
theorem says_pure (value : α) : Says (pure value) [] value := by
  intro shown files
  rw [printed, List.append_nil]
  rfl

/-- To print an item is to say it. -/
theorem says_print (item : Printed) : Says (Run.print item) [item] () := by
  intro shown files
  cases item with
  | ok item => rfl
  | error fault =>
      rw [printed, List.append_nil]
      rfl

/-- One command after another prints the items of both. -/
theorem Says.bind (h : Says first items value) (h' : Says (next value) items' value')
    : Says (first >>= next) (items ++ items') value' := by
  intro shown files
  have hfirst := h shown files
  have happend : firstFault? (items ++ items') = (firstFault? items).or (firstFault? items') :=
    List.findSome?_append
  unfold spoken at hfirst
  cases hfault : firstFault? items with
  | some fault =>
      rw [hfault] at hfirst
      rw [Run.outcome_bind_of_error hfirst, spoken, happend, printed_append, hfault,
        Option.some_or, Option.isSome_some, if_pos rfl, List.append_nil]
  | none =>
      rw [hfault] at hfirst
      rw [Run.outcome_bind_of_ok hfirst, h', spoken, spoken, happend, printed_append, hfault,
        Option.none_or, Option.isSome_none, if_neg Bool.false_ne_true, List.append_assoc]

/-- A command for each member of a list prints an item for each, by induction over the list. -/
theorem says_forM {command : α → Run (StateM FileSystem) Unit}
    {item : α → Printed} (h : ∀ value, Says (command value) [item value] ())
    (list : List α)
    : Says (list.forM command) (list.map item) () := by
  induction list with
  | nil => exact says_pure ()
  | cons value list ih => exact (h value).bind ih

end Says

-----------------------------------------------------------------------------------------
-- Of what is printed about a translation, only the paths can be faulty
-----------------------------------------------------------------------------------------

section Conversions

variable (terminal : Terminal) (settings : Settings) (conversion : Conversion)

/-- What is printed at the end of a translation that succeeded. -/
def successLine : Text :=
  "Transpiled: " ++ pathMarkup settings.inputPath ++ " -> "
    ++ pathMarkup (conversion.outputPath.getD settings.outputPath)

/-- What is printed at the end of a translation that failed. -/
def failureLine : Text :=
  "Translation failed with " ++ Text.ofNat conversion.errors.length ++ " error(s); "
    ++ pathMarkup settings.outputPath ++ " not written."

/-- The table of problems, where there are any. -/
def titleItems : List Printed :=
  if conversion.diagnostics.isEmpty then []
  else [diagnosticTable terminal settings.inputPath conversion.diagnostics]

/-- The warnings of which there are messages. -/
def toldWarnings : List Text := if conversion.success then conversion.warnings else []

/-- The last message about a translation. -/
def verdictItem : Printed :=
  if conversion.success then terminal.messageItem .success (successLine settings conversion)
  else terminal.messageItem .error (failureLine settings conversion)

/-- The messages about warnings, which are escaped. -/
def warningItems : List Printed :=
  (toldWarnings conversion).map fun warning =>
    terminal.messageItem .warning (terminal.escape warning)

/-- What is printed about a translation, in order. -/
def conversionItems : List Printed :=
  titleItems terminal settings conversion ++ warningItems terminal conversion
    ++ [verdictItem terminal settings conversion]

/-- A report on a translation prints its items, and yields the exit code. -/
theorem says_reportConversion
    : Says (reportConversion terminal settings conversion)
        (conversionItems terminal settings conversion) (if conversion.success then 0 else 1) := by
  have hverdict : Says
      (do
        if !conversion.success then
          Run.say terminal .error (failureLine settings conversion)
          return 1
        conversion.warnings.forM fun warning =>
          Run.say terminal .warning (terminal.escape warning)
        Run.say terminal .success (successLine settings conversion)
        return 0)
      (warningItems terminal conversion ++ [verdictItem terminal settings conversion])
      (if conversion.success then 0 else 1) := by
    unfold warningItems toldWarnings verdictItem
    cases conversion.success with
    | true =>
        have hwarnings := says_forM (fun warning : Text => says_print
          (terminal.messageItem .warning (terminal.escape warning))) conversion.warnings
        exact hwarnings.bind ((says_print _).bind (says_pure 0))
    | false => exact (says_print _).bind (says_pure 1)
  have hitems : conversionItems terminal settings conversion
      = titleItems terminal settings conversion
        ++ (warningItems terminal conversion ++ [verdictItem terminal settings conversion]) :=
    List.append_assoc _ _ _
  rw [hitems, reportConversion, titleItems]
  cases conversion.diagnostics.isEmpty with
  | true => exact hverdict
  | false => exact (says_print _).bind hverdict

/-- Messages about warnings can always be printed. -/
theorem printable_warningItems {size : Terminal.Size} (h : terminal.Lawful size)
    : ∀ item ∈ warningItems terminal conversion, IsPrintable item := by
  intro item hm
  obtain ⟨warning, _, rfl⟩ := List.mem_map.mp hm
  exact h.exists_messageItem_escape .warning (List.forall_mem_nil _) warning

end Conversions

end Command

end DeviceScript
