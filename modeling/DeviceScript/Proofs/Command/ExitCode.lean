import DeviceScript.Proofs.Command.Printing
import DeviceScript.Proofs.Files.Keeping
import DeviceScript.Proofs.Settings.Loading
import DeviceScript.Proofs.Syntax.Estree
import DeviceScript.Proofs.Translation.FileOutcome

/-! The exit code of a translation. A run from file to file either stops in a way that is foreseen,
or comes to an outcome; then the log is saved, where that is asked for, and the outcome is told. The
code is zero where the output holds the translation, and one where no file but the log has changed,
unless the system has failed while the output was written.
-/

namespace DeviceScript

open FileSystem (KeepsDirectories SameFiles)

namespace Translator

-----------------------------------------------------------------------------------------
-- Where a run from file to file can end
-----------------------------------------------------------------------------------------

/-- What the end of a run from file to file means for the files. -/
structure Finishes (target : Path) (before : FileSystem) (outcome : Except Failure Conversion)
    (after : FileSystem) : Prop where
  directories : before.KeepsDirectories after
  stopped : ∀ failure, outcome = .error failure → failure.isUnforeseen = false
    → ∀ place, (place = FileLocation.ofPath before.working target
      → ∀ fault, ¬before.Troubles target fault)
    → ∀ content,
      after.entry? place = some (.file content) ↔ before.entry? place = some (.file content)
  refused : ∀ conversion, outcome = .ok conversion → conversion.success = false
    → before.SameFiles after
  delivered : ∀ conversion, outcome = .ok conversion → conversion.success = true
    → ∃ bytes, Utf8.encode? conversion.code = some bytes
      ∧ after.find? target = some (.file bytes)

/-- No run takes a directory away: the output is all that it stores. -/
theorem keepsDirectories_runFile (translator : Translator) (files : FileSystem)
    : files.KeepsDirectories
        ((translator.runFile none none : StateM FileSystem _).run files).2 := by
  simp only [runFile, StateM.run_bind, FileSystem.run_read, Option.getD_none]
  split
  · exact KeepsDirectories.refl files
  · exact KeepsDirectories.refl files
  · split
    · exact KeepsDirectories.refl files
    · split
      · exact KeepsDirectories.refl files
      · rename_i conversion _
        have hkeeps := FileSystem.keepsDirectories_store translator.settings.outputPath
          ((Utf8.encode? conversion.code).getD []) files
        unfold deliver
        cases conversion.success with
        | false => exact KeepsDirectories.refl files
        | true =>
            simp only [Bool.not_true, Bool.false_eq_true, if_false, StateM.run_bind, run_store]
            split <;> exact hkeeps

/-- A run stops before it changes any file but the output, or ends with an outcome that is delivered
only if it is a success. By cases on how it ends. -/
theorem finishes_runFile (translator : Translator) (files : FileSystem)
    : Finishes translator.settings.outputPath files
        ((translator.runFile none none : StateM FileSystem _).run files).1
        ((translator.runFile none none : StateM FileSystem _).run files).2 := by
  have hdirectories := translator.keepsDirectories_runFile files
  have hends := translator.runFile_ends none none files
  rw [Option.getD_none, Option.getD_none] at hends
  generalize (translator.runFile none none : StateM FileSystem _).run files = result
    at hdirectories hends ⊢
  obtain ⟨outcome, after⟩ := result
  dsimp only at hdirectories hends ⊢
  have hstopped {failure : Failure} {after : FileSystem} (hkeeps : files.KeepsDirectories after)
      (hsame : failure.isUnforeseen = false
        → ∀ place, (place = FileLocation.ofPath files.working translator.settings.outputPath
          → ∀ fault, ¬files.Troubles translator.settings.outputPath fault)
        → ∀ content,
          after.entry? place = some (.file content) ↔ files.entry? place = some (.file content))
      : Finishes translator.settings.outputPath files (.error failure) after := by
    refine ⟨hkeeps, ?_, fun _ h => absurd h nofun, fun _ h => absurd h nofun⟩
    rintro _ ⟨⟩ hforeseen
    exact hsame hforeseen
  cases hends with
  | missingInput | undecodable | unreachableInput | unreadableInput | strayTemplate =>
      exact hstopped hdirectories fun _ place _ => SameFiles.refl files place
  | unwritable _ _ _ hsame | unreachableOutput _ _ _ hsame =>
      exact hstopped hdirectories fun _ place _ => hsame place
  | brokenOff _ _ _ _ htrouble hbegun =>
      exact hstopped hdirectories fun _ place hplace =>
        hbegun.elsewhere place fun hp => hplace hp _ htrouble
  | unencodable => exact hstopped hdirectories fun hforeseen => absurd hforeseen nofun
  | unsuccessful _ hfailure _ =>
      refine ⟨hdirectories, fun _ h => absurd h nofun, fun _ _ _ => SameFiles.refl files, ?_⟩
      rintro _ ⟨⟩ hsuccess
      exact absurd (hfailure.symm.trans hsuccess) Bool.false_ne_true
  | written _ hsuccess hencoded _ hwritten _ =>
      refine ⟨hdirectories, fun _ h => absurd h nofun, ?_, ?_⟩
      · rintro _ ⟨⟩ hfailure
        exact absurd (hfailure.symm.trans hsuccess) Bool.false_ne_true
      · rintro _ ⟨⟩ _
        exact ⟨_, hencoded, hwritten.found⟩

end Translator

namespace Command

-----------------------------------------------------------------------------------------
-- The command, taken apart into steps
-----------------------------------------------------------------------------------------

/-- A translation from file to file under some settings. -/
def translated (libraries : Libraries) (settings : Settings) (files : FileSystem)
    : Except Failure Conversion × FileSystem :=
  (({ settings, read := libraries.read } : Translator).runFile none none :
    StateM FileSystem _).run files

/-- A translation under some settings finishes as any run from file to file. -/
theorem finishes_translated (libraries : Libraries) (settings : Settings) (files : FileSystem)
    : Translator.Finishes settings.outputPath files (translated libraries settings files).1
        (translated libraries settings files).2 :=
  Translator.finishes_runFile { settings, read := libraries.read } files

/-- What is done once the settings are known. -/
def convertUnder (libraries : Libraries) (stamps : Nat → Stamp) (trace : Option Path)
    (settings : Settings) : Run (StateM FileSystem) Nat := do
  let translator : Translator := { settings, read := libraries.read }
  match ← Run.lift (translator.runFile none none : StateM FileSystem _) with
  | .error failure =>
    if failure.isUnforeseen then throw (.run failure)
    Run.say libraries.terminal .error (libraries.terminal.escape failure.message)
    return 1
  | .ok conversion =>
    if let some path := trace then
      saveTrace libraries.terminal stamps path conversion.trace
    reportConversion libraries.terminal settings conversion

/-- Saving of a log, where that is asked for. -/
def storedTrace (stamps : Nat → Stamp) (trace : Option Path) (log : Trace) (files : FileSystem)
    : Option FileError × FileSystem :=
  match trace with
  | none => (none, files)
  | some path =>
    (FileAccess.store path ((Utf8.encode? (log.document stamps)).getD []) :
      StateM FileSystem _).run files

/-- What is printed when a log has been saved. -/
def traceLine (path : Path) : Text := "Trace saved to " ++ pathMarkup path

/-- The message about a saved log, where one is asked for. -/
def traceItems (terminal : Terminal) (trace : Option Path) : List Printed :=
  trace.toList.map fun path => terminal.messageItem .info (traceLine path)

/-- All that is printed about a translation that comes to an outcome, in order. -/
def outcomeItems (terminal : Terminal) (settings : Settings) (trace : Option Path)
    (conversion : Conversion) : List Printed :=
  traceItems terminal trace ++ conversionItems terminal settings conversion

/-- What is printed with paths in it. -/
def pathItems (terminal : Terminal) (settings : Settings) (trace : Option Path)
    (conversion : Conversion) : List Printed :=
  traceItems terminal trace ++ titleItems terminal settings conversion
    ++ [verdictItem terminal settings conversion]

/-- The exit code for an outcome. -/
def exitCode (conversion : Conversion) : Nat := if conversion.success then 0 else 1

-----------------------------------------------------------------------------------------
-- What each step makes of the end of a command
-----------------------------------------------------------------------------------------

section Outcomes

variable {libraries : Libraries} {size : Terminal.Size} {stamps : Nat → Stamp}
  {trace : Option Path} {settings : Settings} {overrides : Overrides}
  {use : Settings → Run (StateM FileSystem) Nat} {shown : List ConsoleItem}
  {files after : FileSystem} {conversion : Conversion} {failure : Failure}

/-- A message of words and an escaped text, and then a value: the message is always printed. -/
theorem outcome_complaint (hlawful : libraries.terminal.Lawful size) (words : Text)
    (hwords : ∀ point ∈ words, point ≠ '[' ∧ point ≠ '\\') (text : Text)
    : ∃ item, libraries.terminal.messageItem .error (words ++ libraries.terminal.escape text)
        = .ok item
      ∧ Run.outcome
        (do
          Run.say libraries.terminal .error (words ++ libraries.terminal.escape text)
          return 1)
        shown files = ((.ok 1, shown ++ [item]), files) := by
  obtain ⟨item, hitem⟩ := hlawful.exists_messageItem_escape .error hwords text
  have hspoken : Says
      (do
        Run.say libraries.terminal .error (words ++ libraries.terminal.escape text)
        return 1)
      [libraries.terminal.messageItem .error (words ++ libraries.terminal.escape text)] 1 :=
    (says_print _).bind (says_pure 1)
  refine ⟨item, hitem, (hspoken shown files).trans ?_⟩
  rw [hitem]
  rfl

/-- Loading of settings changes no file and prints nothing. -/
theorem outcome_load {result : Except LoadFault Settings}
    (h : Settings.loaded libraries.settings overrides files = result)
    : (Run.lift (Settings.load overrides libraries.settings :
        StateM FileSystem _)).outcome shown files
      = ((.ok result, shown), files) := by
  rw [Run.outcome_lift, Settings.run_load, h]

/-- With settings, a command goes on with them. -/
theorem outcome_withSettings_ok
    (h : Settings.loaded libraries.settings overrides files = .ok settings)
    : (withSettings libraries overrides use).outcome shown files
      = (use settings).outcome shown files := by
  rw [withSettings, Run.outcome_bind_of_ok (outcome_load h)]

/-- Settings that are not accepted are complained about, which is always possible. -/
theorem outcome_withSettings_rejected (hlawful : libraries.terminal.Lawful size)
    {fault : LoadFault} {message : Text}
    (h : Settings.loaded libraries.settings overrides files = .error fault)
    (hmessage : settingsMessage? libraries.settings.validation fault = some message)
    (use : Settings → Run (StateM FileSystem) Nat) (shown : List ConsoleItem)
    : ∃ item, libraries.terminal.messageItem .error
          ("Invalid configuration: " ++ libraries.terminal.escape message) = .ok item
      ∧ (withSettings libraries overrides use).outcome shown files
        = ((.ok 1, shown ++ [item]), files) := by
  obtain ⟨item, hitem, houtcome⟩ :=
    outcome_complaint hlawful "Invalid configuration: " (by decide) message
  refine ⟨item, hitem, ?_⟩
  rw [withSettings, Run.outcome_bind_of_ok (outcome_load h)]
  simp only [hmessage]
  exact houtcome

/-- A run from file to file prints nothing. -/
theorem outcome_run {result : Except Failure Conversion}
    (h : translated libraries settings files = (result, after))
    : (Run.lift (({ settings, read := libraries.read } : Translator).runFile none none :
        StateM FileSystem _)).outcome shown files = ((.ok result, shown), after) := by
  rw [Run.outcome_lift]
  exact congrArg (fun ran : _ × _ => ((Except.ok ran.1, shown), ran.2)) h

/-- Storing of a log prints nothing. -/
theorem outcome_store {path : Path} {result : Option FileError} {saved : FileSystem}
    (h : storedTrace stamps (some path) conversion.trace after = (result, saved))
    : (Run.lift (FileAccess.store path
        ((Utf8.encode? (conversion.trace.document stamps)).getD []) :
          StateM FileSystem _)).outcome shown after
      = ((.ok result, shown), saved) := by
  rw [Run.outcome_lift]
  exact congrArg (fun ran : _ × _ => ((Except.ok ran.1, shown), ran.2)) h

/-- A run that stops is told in a message, unless nobody foresees that it can stop so. -/
theorem outcome_convertUnder_stopped (hlawful : libraries.terminal.Lawful size)
    (h : translated libraries settings files = (.error failure, after))
    (hforeseen : failure.isUnforeseen = false)
    : ∃ item, libraries.terminal.messageItem .error (libraries.terminal.escape failure.message)
          = .ok item
      ∧ (convertUnder libraries stamps trace settings).outcome shown files
        = ((.ok 1, shown ++ [item]), after) := by
  obtain ⟨item, hitem, houtcome⟩ :=
    outcome_complaint hlawful [] (List.forall_mem_nil _) failure.message
  refine ⟨item, hitem, ?_⟩
  rw [convertUnder]
  simp only [Run.outcome_bind_of_ok (outcome_run h), hforeseen]
  exact houtcome

/-- A failure that nobody foresees breaks the command off without a word. -/
theorem outcome_convertUnder_unforeseen
    (h : translated libraries settings files = (.error failure, after))
    (hunforeseen : failure.isUnforeseen = true)
    : (convertUnder libraries stamps trace settings).outcome shown files
      = ((.error (.run failure), shown), after) := by
  rw [convertUnder]
  simp only [Run.outcome_bind_of_ok (outcome_run h), hunforeseen]
  rfl

/-- With an outcome, the log is saved before anything is printed. -/
theorem outcome_convertUnder_told {saved : FileSystem}
    (h : translated libraries settings files = (.ok conversion, after))
    (hstored : storedTrace stamps trace conversion.trace after = (none, saved))
    : (convertUnder libraries stamps trace settings).outcome shown files
      = ((spoken (outcomeItems libraries.terminal settings trace conversion) (exitCode conversion),
          shown ++ printed (outcomeItems libraries.terminal settings trace conversion)),
        saved) := by
  have hreport := says_reportConversion libraries.terminal settings conversion
  rw [convertUnder]
  simp only [Run.outcome_bind_of_ok (outcome_run h)]
  cases trace with
  | none =>
      obtain rfl : after = saved := congrArg Prod.snd hstored
      exact hreport shown after
  | some path =>
      -- The line about the saved log comes first among those that are printed.
      have hsave : (saveTrace libraries.terminal stamps path conversion.trace).outcome shown after
          = (Run.say libraries.terminal .info (traceLine path)).outcome shown saved := by
        rw [saveTrace, Run.outcome_bind_of_ok (outcome_store hstored)]
        rfl
      have htold : Says
          (do
            Run.say libraries.terminal .info (traceLine path)
            reportConversion libraries.terminal settings conversion)
          (outcomeItems libraries.terminal settings (some path) conversion)
          (exitCode conversion) :=
        (says_print _).bind hreport
      exact (Run.outcome_bind_congr hsave).trans (htold shown saved)

/-- A log that cannot be saved breaks a translation off before anything is printed. -/
theorem outcome_convertUnder_unsaved {error : FileError} {saved : FileSystem}
    (h : translated libraries settings files = (.ok conversion, after))
    (hstored : storedTrace stamps trace conversion.trace after = (some error, saved))
    : (convertUnder libraries stamps trace settings).outcome shown files
      = ((.error (.file error), shown), saved) := by
  cases trace with
  | none => exact absurd (congrArg Prod.fst hstored) nofun
  | some path =>
      have hsave : (saveTrace libraries.terminal stamps path conversion.trace).outcome shown after
          = ((.error (.file error), shown), saved) := by
        rw [saveTrace, Run.outcome_bind_of_ok (outcome_store hstored)]
        rfl
      rw [convertUnder]
      simp only [Run.outcome_bind_of_ok (outcome_run h)]
      exact Run.outcome_bind_of_error hsave

end Outcomes

-----------------------------------------------------------------------------------------
-- Exit codes tell how the translation ended
-----------------------------------------------------------------------------------------

/-- What makes a translation break off once the settings are known: a failure that nobody foresees,
a log that cannot be stored where it is to be saved, or something with a path in it that the console
does not take. -/
inductive BreaksOff (libraries : Libraries) (stamps : Nat → Stamp) (settings : Settings)
    (trace : Option Path) : Except Failure Conversion → FileSystem → Prop where
  | unforeseen {failure : Failure} {files : FileSystem} (unforeseen : failure.isUnforeseen = true)
      : BreaksOff libraries stamps settings trace (.error failure) files
  | unsaved {conversion : Conversion} {path : Path} {error : FileError} {files : FileSystem}
      (asked : trace = some path)
      (unsaved : (storedTrace stamps trace conversion.trace files).1 = some error)
      (cause : ¬files.IsOpen path ∨ files.Troubles path error.fault)
      : BreaksOff libraries stamps settings trace (.ok conversion) files
  | refused {conversion : Conversion} {fault : PrintFault} {files : FileSystem}
      (refused : .error fault ∈ pathItems libraries.terminal settings trace conversion)
      : BreaksOff libraries stamps settings trace (.ok conversion) files

/-- What the end of a command tells about the translation under some settings. -/
structure Exits (libraries : Libraries) (stamps : Nat → Stamp) (settings : Settings)
    (trace : Option Path) (before : FileSystem) (outcome : Except Crash Nat) (after : FileSystem)
    : Prop where
  breaksOff : (∃ crash, outcome = .error crash)
    ↔ BreaksOff libraries stamps settings trace (translated libraries settings before).1
        (translated libraries settings before).2
  closed : ∀ path, trace = some path → ¬(translated libraries settings before).2.IsOpen path
    → ∀ code, outcome = .ok code → ∃ failure, (translated libraries settings before).1
      = .error failure
  code : ∀ code, outcome = .ok code → code = 0 ∨ code = 1
  success
    : (∀ path ∈ trace, FileLocation.ofPath before.working path
        ≠ FileLocation.ofPath before.working settings.outputPath)
      → ∀ code, outcome = .ok code
      → (code = 0
        ↔ ∃ conversion bytes, (translated libraries settings before).1 = .ok conversion
          ∧ conversion.success = true ∧ Utf8.encode? conversion.code = some bytes
          ∧ after.find? settings.outputPath = some (.file bytes))
  failure
    : outcome = .ok 1
      → ∀ place, (∀ path ∈ trace, place ≠ FileLocation.ofPath before.working path)
      → (place = FileLocation.ofPath before.working settings.outputPath
        → ∀ fault, ¬before.Troubles settings.outputPath fault)
      → ∀ content,
        after.entry? place = some (.file content) ↔ before.entry? place = some (.file content)

section Exits

variable {libraries : Libraries} {size : Terminal.Size} {stamps : Nat → Stamp}
  {trace : Option Path} {settings : Settings} {log : Trace} {files after : FileSystem}
  {conversion : Conversion} {failure : Failure}

/-- A log is stored only where a file can be, and is not stored only where none can be or in
trouble. -/
theorem storedTrace_cases (stamps : Nat → Stamp) (trace : Option Path) (log : Trace)
    (files : FileSystem)
    : ((storedTrace stamps trace log files).1 = none
        ∧ ∀ path, trace = some path → files.IsOpen path)
      ∨ ∃ path error, trace = some path ∧ (storedTrace stamps trace log files).1 = some error
        ∧ (¬files.IsOpen path ∨ files.Troubles path error.fault) := by
  cases trace with
  | none => exact .inl ⟨rfl, nofun⟩
  | some path =>
      have hstored := FileSystem.stored path ((Utf8.encode? (log.document stamps)).getD []) files
      simp only [storedTrace, Option.some.injEq, forall_eq', exists_and_left]
      generalize (FileAccess.store path ((Utf8.encode? (log.document stamps)).getD []) :
        StateM FileSystem _).run files = result at hstored ⊢
      obtain ⟨error?, after⟩ := result
      cases hstored with
      | written isOpen _ => exact .inl ⟨rfl, isOpen⟩
      | refused cause _ _ => exact .inr ⟨path, rfl, _, rfl, cause⟩
      | brokenOff _ trouble _ => exact .inr ⟨path, rfl, _, rfl, .inr trouble⟩

/-- No file changes with the saving of a log but the one it is saved to. -/
theorem file_storedTrace_iff {place : FileLocation}
    (h : ∀ path ∈ trace, place ≠ FileLocation.ofPath files.working path) (content : List UInt8)
    : FileSystem.entry? (storedTrace stamps trace log files).2 place = some (.file content)
      ↔ files.entry? place = some (.file content) := by
  cases trace with
  | none => exact .rfl
  | some path => exact FileSystem.file_store_iff (h path rfl) _ content

/-- A file is still found behind the saving of a log to another place. -/
theorem find?_storedTrace {target : Path} {content : List UInt8}
    (hf : files.find? target = some (.file content))
    (h : ∀ path ∈ trace, FileLocation.ofPath files.working path
      ≠ FileLocation.ofPath files.working target)
    : (storedTrace stamps trace log files).2.find? target = some (.file content) := by
  cases trace with
  | none => exact hf
  | some path => exact FileSystem.find?_store hf (h path rfl).symm _

/-- All that is printed about an outcome can be printed if what has paths in it can be. -/
theorem printable_outcomeItems_iff (hlawful : libraries.terminal.Lawful size)
    (settings : Settings) (trace : Option Path) (conversion : Conversion)
    : (∀ item ∈ outcomeItems libraries.terminal settings trace conversion, IsPrintable item)
      ↔ ∀ item ∈ pathItems libraries.terminal settings trace conversion, IsPrintable item := by
  have hwarnings := printable_warningItems libraries.terminal conversion hlawful
  simp only [outcomeItems, pathItems, conversionItems, List.forall_mem_append]
  constructor
  · rintro ⟨htrace, ⟨htitle, -⟩, hverdict⟩
    exact ⟨⟨htrace, htitle⟩, hverdict⟩
  · rintro ⟨⟨htrace, htitle⟩, hverdict⟩
    exact ⟨htrace, ⟨htitle, hwarnings⟩, hverdict⟩

/-- Items cannot all be printed exactly if the console raises something in the place of one. -/
theorem not_printable_iff {items : List Printed}
    : (¬∀ item ∈ items, IsPrintable item) ↔ ∃ fault, .error fault ∈ items := by
  constructor
  · intro h
    obtain ⟨item, hm, hrefused⟩ : ∃ item ∈ items, ¬IsPrintable item := by
      simpa only [not_forall, exists_prop] using h
    cases item with
    | ok shown => exact absurd ⟨shown, rfl⟩ hrefused
    | error fault => exact ⟨fault, hm⟩
  · rintro ⟨fault, hm⟩ h
    obtain ⟨shown, hshown⟩ := h _ hm
    exact nomatch hshown

/-- A command that breaks off tells nothing more. -/
theorem exits_crash (crash : Crash)
    (h : BreaksOff libraries stamps settings trace (translated libraries settings files).1
      (translated libraries settings files).2)
    : Exits libraries stamps settings trace files (.error crash) after where
  breaksOff := iff_of_true ⟨crash, rfl⟩ h
  closed _ _ _ _ hcode := absurd hcode nofun
  code _ hcode := absurd hcode nofun
  success _ _ hcode := absurd hcode nofun
  failure hcode := absurd hcode nofun

/-- A run that stops in a way that is foreseen ends with the code for a failure. -/
theorem exits_stopped (h : translated libraries settings files = (.error failure, after))
    (hforeseen : failure.isUnforeseen = false)
    : Exits libraries stamps settings trace files (.ok 1) after := by
  have hfinishes := finishes_translated libraries settings files
  rw [h] at hfinishes
  constructor
  · rw [h]
    refine iff_of_false nofun ?_
    rintro ⟨hunforeseen⟩
    exact Bool.false_ne_true (hforeseen.symm.trans hunforeseen)
  · rw [h]
    exact fun _ _ _ _ _ => ⟨failure, rfl⟩
  · rintro _ ⟨⟩
    exact .inr rfl
  · rintro _ _ ⟨⟩
    rw [h]
    exact iff_of_false nofun nofun
  · intro _ place _ hplace
    exact hfinishes.stopped failure rfl hforeseen place hplace

/-- Once the log has been stored, an outcome breaks off exactly where the console does not take
something with a path in it. -/
theorem breaksOff_told_iff (hlawful : libraries.terminal.Lawful size)
    (hstored : (storedTrace stamps trace conversion.trace after).1 = none)
    : (∃ crash, spoken (outcomeItems libraries.terminal settings trace conversion)
          (exitCode conversion) = .error crash)
      ↔ BreaksOff libraries stamps settings trace (.ok conversion) after := by
  have hitems := printable_outcomeItems_iff hlawful settings trace conversion
  by_cases hall : ∀ item ∈ pathItems libraries.terminal settings trace conversion,
      IsPrintable item
  · rw [spoken_eq_ok_iff.mpr ⟨rfl, hitems.mpr hall⟩]
    refine iff_of_false nofun ?_
    rintro (_ | ⟨_, hunsaved, _⟩ | ⟨hrefused⟩)
    · exact nomatch hstored.symm.trans hunsaved
    · exact not_printable_iff.mpr ⟨_, hrefused⟩ hall
  · obtain ⟨fault, hm⟩ := not_printable_iff.mp hall
    refine iff_of_true ?_ (.refused hm)
    obtain ⟨raised, hspoken⟩ := spoken_eq_error_iff.mpr fun hprintable =>
      hall (hitems.mp hprintable)
    exact ⟨_, hspoken⟩

/-- An outcome is told with its exit code once the log has been stored, unless the console does not
take something with a path in it. -/
theorem exits_told (hlawful : libraries.terminal.Lawful size)
    (h : translated libraries settings files = (.ok conversion, after))
    (hstored : (storedTrace stamps trace conversion.trace after).1 = none)
    (hopen : ∀ path, trace = some path → after.IsOpen path)
    : Exits libraries stamps settings trace files
        (spoken (outcomeItems libraries.terminal settings trace conversion) (exitCode conversion))
        (storedTrace stamps trace conversion.trace after).2 := by
  have hfinishes := finishes_translated libraries settings files
  rw [h] at hfinishes
  have hworking : after.working = files.working := hfinishes.directories.working
  constructor
  · rw [h]
    exact breaksOff_told_iff hlawful hstored
  · rw [h]
    exact fun path asked isClosed => absurd (hopen path asked) isClosed
  · intro code hcode
    rw [(spoken_eq_ok_iff.mp hcode).1, exitCode]
    cases conversion.success with
    | true => exact .inl rfl
    | false => exact .inr rfl
  · intro hapart code hcode
    rw [(spoken_eq_ok_iff.mp hcode).1, h, exitCode]
    cases hs : conversion.success with
    | true =>
        refine iff_of_true rfl ?_
        obtain ⟨bytes, hencoded, hfound⟩ := hfinishes.delivered conversion rfl hs
        -- The log is saved after the output, and only elsewhere.
        refine ⟨conversion, bytes, rfl, hs, hencoded, find?_storedTrace hfound ?_⟩
        rwa [hworking]
    | false =>
        refine iff_of_false nofun ?_
        rintro ⟨_, _, ⟨⟩, hsuccess, _⟩
        exact Bool.false_ne_true (hs.symm.trans hsuccess)
  · intro hcode place hplace _ content
    have hs : conversion.success = false := by
      have hone := (spoken_eq_ok_iff.mp hcode).1
      cases hs : conversion.success with
      | true => exact absurd (hone.trans (if_pos hs)) nofun
      | false => rfl
    rw [file_storedTrace_iff (hworking ▸ hplace)]
    exact hfinishes.refused conversion rfl hs place content

/-- What is done once the settings are known ends with an exit code or breaks off, by cases on the
run from file to file and on the storing of its log. -/
theorem exits_convertUnder (hlawful : libraries.terminal.Lawful size)
    : Exits libraries stamps settings trace files
        ((convertUnder libraries stamps trace settings).outcome [] files).1.1
        ((convertUnder libraries stamps trace settings).outcome [] files).2 := by
  rcases hran : translated libraries settings files with ⟨failure | conversion, after⟩
  · cases hunforeseen : failure.isUnforeseen with
    | true =>
        rw [outcome_convertUnder_unforeseen hran hunforeseen]
        refine exits_crash _ ?_
        rw [hran]
        exact .unforeseen hunforeseen
    | false =>
        obtain ⟨item, -, houtcome⟩ :=
          outcome_convertUnder_stopped hlawful hran hunforeseen
        rw [houtcome]
        exact exits_stopped hran hunforeseen
  · rcases storedTrace_cases stamps trace conversion.trace after with
      ⟨hstored, hopen⟩ | ⟨path, error, asked, hunsaved, cause⟩
    · rw [outcome_convertUnder_told hran (Prod.ext hstored rfl)]
      exact exits_told hlawful hran hstored hopen
    · rw [outcome_convertUnder_unsaved hran (Prod.ext hunsaved rfl)]
      refine exits_crash _ ?_
      rw [hran]
      exact .unsaved asked hunsaved cause

end Exits

end Command

namespace Script

-----------------------------------------------------------------------------------------
-- An empty script, whose log may not be saved
-----------------------------------------------------------------------------------------

/-- The tree of a script with nothing in it. -/
def emptyTree : Datum :=
  .table [("type", .text "Program"),
    ("loc", .table [("start", .table [("line", .integer 0), ("column", .integer 0)])]),
    ("body", .list [])]

/-- Nothing is read as a program with nothing in it. -/
theorem toNode_nil : toNode [] = .ok (.program [] (some ⟨0, 1⟩)) := by
  have hparse : parse [] = .ok emptyTree := rfl
  have htree : Estree.toNode emptyTree = .program [] (some ⟨0, 1⟩) := by
    rw [Estree.toNode.eq_def]
    change Node.program (Estree.statements emptyTree) (some ⟨0, 1⟩) = _
    rw [Estree.statements_eq rfl]
    rfl
  rw [toNode, toNodeBy, hparse]
  simp only [bind, Except.bind, htree, pure, Except.pure]

end Script

namespace Command

/-- An empty script, and a directory in the place where its log is to be saved. -/
def occupied : FileSystem where
  entries := [([("main.ts" : Text)], .file []), ([("logs" : Text)], .directory)]
  working := []

/-- A run on an empty script ends with the delivery of an empty program. -/
theorem translated_nil {settings : Settings} {files : FileSystem}
    (h : files.read settings.inputPath = .ok (some []))
    : translated {} settings files
      = (Translator.deliver settings.outputPath
          (({ settings } : Translator).conclude (.ok (.program [] (some ⟨0, 1⟩)))
            (Translator.accessPhase {} "Read" "read" settings.inputPath)) :
        StateM FileSystem _).run files := by
  have htranslate : ∀ trace, ({ settings } : Translator).translate [] trace
      = .ok (({ settings } : Translator).conclude (.ok (.program [] (some ⟨0, 1⟩))) trace) := by
    intro trace
    have hread : ({ settings } : Translator).read [] = .ok (.program [] (some ⟨0, 1⟩)) :=
      Script.toNode_nil
    rw [Translator.translate, hread]
  rw [translated, Translator.runFile, StateM.run_bind, FileSystem.run_read]
  simp only [Option.getD_none, h]
  change StateT.run (match ({ settings } : Translator).translate [] _ with
    | .error failure => _
    | .ok conversion => _) files = _
  rw [htranslate]

/-- The empty script is translated without any report. -/
theorem translated_occupied
    : ∃ conversion after, translated {} {} occupied = (.ok conversion, after)
      ∧ conversion.success = true ∧ conversion.diagnostics = []
      ∧ conversion.outputPath = some ("main.cpp" : Path) := by
  rw [translated_nil rfl]
  exact ⟨_, _, rfl, rfl, rfl, rfl⟩

/-- However a translation ends, by cases on the settings and then on the run from file to file. -/
theorem convert_exits (libraries : Libraries) (size : Terminal.Size)
    (hlawful : libraries.terminal.Lawful size) (stamps : Nat → Stamp)
    (input output : Option Path) (strict : Option Bool) (runtime : Option Text)
    (trace : Option Path) (files : FileSystem)
    : let overrides : Overrides := ⟨input, output, runtime, strict, input.map Path.parent⟩
      let loading := Settings.loaded libraries.settings overrides files
      let ending :=
        (convert stamps input output strict runtime trace libraries).outcome [] files
      (∀ fault, loading = .error fault
        → (settingsMessage? libraries.settings.validation fault).isSome
        → ending.1.1 = .ok 1 ∧ ending.2 = files)
      ∧ ∀ settings, loading = .ok settings
        → Exits libraries stamps settings trace files ending.1.1 ending.2 := by
  intro overrides loading ending
  constructor
  · intro fault hloaded hmessage
    obtain ⟨message, hmessage⟩ := Option.isSome_iff_exists.mp hmessage
    obtain ⟨item, -, houtcome⟩ := outcome_withSettings_rejected hlawful hloaded hmessage
      (convertUnder libraries stamps trace) []
    have hending : ending = ((.ok 1, [item]), files) := houtcome
    rw [hending]
    exact ⟨rfl, rfl⟩
  · intro settings hloaded
    have hending : ending = (convertUnder libraries stamps trace settings).outcome [] files :=
      outcome_withSettings_ok hloaded
    rw [hending]
    exact exits_convertUnder hlawful

/-- The empty script is translated with the code for a success, and its output is there. -/
theorem convert_exits_occupied
    : let stamps : Nat → Stamp := fun _ => ⟨[], .finite false .zero⟩
      let ending := (convert stamps (some "main.ts") none none none none).outcome [] occupied
      ending.1.1 = .ok 0
      ∧ ∃ conversion bytes, (translated {} {} occupied).1 = .ok conversion
        ∧ conversion.success = true ∧ Utf8.encode? conversion.code = some bytes
        ∧ ending.2.find? "main.cpp" = some (.file bytes) := by
  intro stamps ending
  let size : Terminal.Size := ⟨80, fun _ => 80⟩
  have hlawful : Terminal.Lawful .standard size := Terminal.standard_lawful size
  obtain ⟨conversion, after, hran, hsuccess, hsilent, hplace⟩ := translated_occupied
  have hexits : Exits {} stamps {} none occupied ending.1.1 ending.2 :=
    (convert_exits {} size hlawful stamps (some "main.ts") none none none none occupied).2 {} rfl
  have hending : ending = (convertUnder {} stamps none {}).outcome [] occupied :=
    outcome_withSettings_ok rfl
  have hafter : ending.2 = after := by
    rw [hending, outcome_convertUnder_told hran rfl]
  have hfinishes := finishes_translated {} {} occupied
  rw [hran] at hfinishes
  obtain ⟨bytes, hencoded, hfound⟩ := hfinishes.delivered conversion rfl hsuccess
  have hwritten : ∃ conversion bytes, (translated {} {} occupied).1 = .ok conversion
      ∧ conversion.success = true ∧ Utf8.encode? conversion.code = some bytes
      ∧ ending.2.find? "main.cpp" = some (.file bytes) := by
    rw [hafter, hran]
    exact ⟨conversion, bytes, rfl, hsuccess, hencoded, hfound⟩
  refine ⟨?_, hwritten⟩
  -- There is one line, about two paths that read as plain text, so nothing breaks the command off.
  have hline : Markup.isMatched [] (Markup.pieces 0 0 []
      (LogLevel.success.sign ++ successLine {} conversion)) = true := by
    rw [successLine, hplace]
    decide +kernel
  obtain ⟨item, hitem⟩ := hlawful.exists_messageItem hline
  have hitems : pathItems .standard {} none conversion = [.ok item] := by
    rw [pathItems, titleItems, verdictItem, hsilent, List.isEmpty_nil, if_pos rfl, if_pos hsuccess,
      hitem]
    rfl
  cases hcode : ending.1.1 with
  | ok code =>
      rw [(hexits.success (fun path hm => absurd hm (Option.not_mem_none path)) code hcode).mpr
        hwritten]
  | error crash =>
      have hbreaks := hexits.breaksOff.mp ⟨crash, hcode⟩
      rw [hran] at hbreaks
      rcases hbreaks with _ | ⟨asked, _, _⟩ | ⟨hrefused⟩
      · cases asked
      · rw [hitems] at hrefused
        cases List.mem_singleton.mp hrefused

/-- A translation breaks off though its settings are accepted and its output has been written. -/
theorem convert_occupied
    : let stamps : Nat → Stamp := fun _ => ⟨[], .finite false .zero⟩
      let overrides : Overrides := ⟨some "main.ts", none, none, none, some (Path.parent "main.ts")⟩
      let ending :=
        (convert stamps (some "main.ts") none none none (some "logs")).outcome [] occupied
      Settings.loaded {} overrides occupied = .ok {}
      ∧ (∃ error, ending.1.1 = .error (.file error))
      ∧ ∃ conversion bytes, (translated {} {} occupied).1 = .ok conversion
        ∧ conversion.success = true ∧ Utf8.encode? conversion.code = some bytes
        ∧ ending.2.find? "main.cpp" = some (.file bytes) := by
  intro stamps overrides ending
  obtain ⟨conversion, after, hran, hsuccess, _, _⟩ := translated_occupied
  have hloaded : Settings.loaded {} overrides occupied = .ok {} := rfl
  have hfinishes := finishes_translated {} {} occupied
  rw [hran] at hfinishes
  have hworking : after.working = [] := hfinishes.directories.working
  have hdirectory : after.entry? [("logs" : Text)] = some .directory :=
    hfinishes.directories.directory _ rfl
  have hclosed : ¬after.IsOpen "logs" := by
    intro isOpen
    refine isOpen.vacant ?_
    rw [hworking]
    exact hdirectory
  have hending : ending = (convertUnder {} stamps (some "logs") {}).outcome [] occupied :=
    outcome_withSettings_ok hloaded
  rcases storedTrace_cases stamps (some "logs") conversion.trace after with
    ⟨_, hopen⟩ | ⟨_, error, _, hunsaved, _⟩
  · exact absurd (hopen "logs" rfl) hclosed
  · rw [hending, outcome_convertUnder_unsaved hran (Prod.ext hunsaved rfl)]
    obtain ⟨bytes, hencoded, hfound⟩ := hfinishes.delivered conversion rfl hsuccess
    refine ⟨hloaded, ⟨error, rfl⟩, conversion, bytes, congrArg Prod.fst hran, hsuccess,
      hencoded, ?_⟩
    refine find?_storedTrace hfound ?_
    rintro _ ⟨⟩
    rw [hworking]
    decide

end Command

end DeviceScript
