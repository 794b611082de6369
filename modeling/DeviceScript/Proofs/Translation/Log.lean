import DeviceScript.Proofs.Emission.Anchor
import DeviceScript.Proofs.Translation.Brackets
import DeviceScript.Proofs.Translation.FileOutcome
import DeviceScript.Proofs.Translation.Session

/-! The logs of runs. A run logs that it reads its text and, if it can be read, that it emits it; all
reports and replaced names are logged in the order in which emission comes to them. A run from file
to file logs the access to the input in front of that, and the one to the output behind it.
-/

namespace DeviceScript

open Fragment

/-- What a note is logged as. -/
def Note.entry : Note → TraceEntry
  | report finding node => .diagnostic (finding.reportOn node).text
  | replacement source target => .shimMatch source target

/-- What a fragment notes neither begins a phase nor ends one. -/
theorem Note.isBoundary_entry (note : Note) : note.entry.isBoundary = false := by
  cases note <;> rfl

namespace Trace

def logAll (trace : Trace) (entries : List TraceEntry) : Trace := entries.foldl log trace

/-- Logging leaves the phases as they are, by induction over the entries. -/
theorem logAll_eq (trace : Trace) (entries : List TraceEntry)
    : trace.logAll entries
      = { trace with events := trace.events ++ entries.map (⟨·, trace.active.head?⟩) } := by
  induction entries generalizing trace with
  | nil => rw [List.map_nil, List.append_nil]; rfl
  | cons entry entries ih =>
      change (trace.log entry).logAll entries = _
      rw [ih, log, List.append_assoc]
      rfl

/-- A whole phase of a log without an active one. -/
theorem endPhase_logAll {trace : Trace} (h : trace.active = []) (name detail : Text)
    (entries : List TraceEntry)
    : ((trace.startPhase name detail).logAll entries).endPhase
      = ⟨trace.events ++ phase trace.events.length name detail entries, []⟩ := by
  rw [logAll_eq, startPhase, h]
  simp only [endPhase, phase, List.head?_cons, List.append_assoc, List.cons_append,
    List.nil_append, List.head?_nil]

/-- The descriptions of the entries of one kind. -/
def described (kind : Text) (entries : List TraceEntry) : List Text :=
  (entries.filter fun entry => entry.kind = kind).map TraceEntry.description

/-- The entries of one kind in two traces are those of the first and of the second. -/
theorem described_append (kind : Text) (entries entries' : List TraceEntry)
    : described kind (entries ++ entries')
      = described kind entries ++ described kind entries' := by
  simp only [described, List.filter_append, List.map_append]

/-- A phase adds its beginning and its end to the entries of one kind that are in it. -/
theorem described_phase (kind : Text) (start : Nat) (name detail : Text)
    (entries : List TraceEntry)
    : described kind ((phase start name detail entries).map TraceEvent.entry)
      = described kind [.phaseStart name detail] ++ described kind entries
          ++ described kind [.phaseEnd] := by
  have hentries : (phase start name detail entries).map TraceEvent.entry
      = [.phaseStart name detail] ++ entries ++ [.phaseEnd] := by
    simp only [phase, List.map_cons, List.map_append, List.map_map, List.map_nil]
    exact congrArg (fun entries => _ :: entries ++ _) entries.map_id
  rw [hentries, described_append, described_append]

end Trace

/-- Notes are logged one after another, by induction over the notes. -/
theorem Progress.trace_noteAll (progress : Progress) (notes : List Note)
    : (progress.noteAll notes).trace
      = progress.trace.map fun trace => trace.logAll (notes.map Note.entry) := by
  induction notes generalizing progress with
  | nil => exact Option.map_id'.symm
  | cons head tail ih =>
      change ((progress.note head).noteAll tail).trace = _
      rw [ih]
      cases head <;> exact Option.map_map _ _ progress.trace

namespace Translator

variable (translator : Translator)

-----------------------------------------------------------------------------------------
-- What a translation logs, behind whatever has been logged before
-----------------------------------------------------------------------------------------

/-- What is logged while a program is emitted. -/
def emissionEntries (statements : List Node) : List TraceEntry :=
  (statements.flatMap (notes translator.template.toStyle 0)).map Note.entry

/-- What the translation of a text is logged as, behind a number of other events. -/
def logged (start : Nat) : Except SyntaxReport Node → List TraceEvent
  | .error report =>
    Trace.phase start "Parse" "esprima -> ts2cpp AST" []
      ++ [⟨.diagnostic report.diagnostic.text, none⟩]
  | .ok node =>
    Trace.phase start "Parse" "esprima -> ts2cpp AST" []
      ++ Trace.phase (start + 2) "Emit" "AST -> C++" (translator.emissionEntries node.statements)

/-- What access to a file is logged as. -/
def accessed (start : Nat) (name action : Text) (path : Path) : List TraceEvent :=
  Trace.phase start name path.text [.fileAccess action path.text]

/-- Access to a file is one phase behind the events so far. -/
theorem accessPhase_eq {trace : Trace} (h : trace.active = []) (name action : Text) (path : Path)
    : accessPhase trace name action path
      = ⟨trace.events ++ accessed trace.events.length name action path, []⟩ :=
  Trace.endPhase_logAll h name path.text [.fileAccess action path.text]

/-- Emission is one phase behind the events so far. -/
theorem trace_emission (statements : List Node) {trace : Trace} (h : trace.active = [])
    : (translator.emission statements trace).2
      = ⟨trace.events ++ Trace.phase trace.events.length "Emit" "AST -> C++"
          (translator.emissionEntries statements), []⟩ := by
  let started : Trace := trace.startPhase "Emit" "AST -> C++"
  have hprogress := emitProgram_progress translator.template.toStyle statements
    { trace := some started }
  have htrace : ((translator.template.assemble statements).run { trace := some started }).2.trace
      = some (started.logAll (translator.emissionEntries statements)) := by
    rw [Template.assemble_eq_map, StateM.run_map, hprogress, Progress.trace_noteAll]
    rfl
  rw [← Trace.endPhase_logAll h]
  exact congrArg (fun trace : Option Trace => (trace.getD started).endPhase) htrace

/-- From the parser's answer on, a run adds its log to the events so far. -/
theorem trace_conclude (reading : Except SyntaxReport Node) {trace : Trace}
    (h : trace.active = [])
    : (translator.conclude reading trace).trace
      = ⟨trace.events ++ translator.logged trace.events.length reading, []⟩ := by
  let parsed : Trace :=
    ⟨trace.events ++ Trace.phase trace.events.length "Parse" "esprima -> ts2cpp AST" [], []⟩
  have hparsed : (trace.startPhase "Parse" "esprima -> ts2cpp AST").endPhase = parsed :=
    Trace.endPhase_logAll h "Parse" "esprima -> ts2cpp AST" []
  cases reading with
  | error report =>
      simp only [conclude, hparsed, Trace.log, logged, parsed, List.append_assoc, List.head?_nil]
  | ok node =>
      have hactive : parsed.active = [] := rfl
      simp only [conclude, hparsed, translator.trace_emission node.statements hactive]
      simp only [logged, parsed, List.append_assoc, List.length_append]
      rfl

/-- A translation is logged behind other events as it is on its own. -/
theorem map_behind_logged (count : Nat) (reading : Except SyntaxReport Node)
    : (translator.logged 0 reading).map (TraceEvent.behind count)
      = translator.logged count reading := by
  cases reading <;>
    simp only [logged, List.map_append, Trace.map_behind_phase, Nat.zero_add, Nat.add_comm 2 count]
  rfl

/-- A translation whose reading does not break off, on its own or behind other work and with strict
settings or lenient ones, concludes on what has been read. -/
theorem exists_reading {code : Text} {trace : Trace} {conversion : Conversion}
    (h : translator.translate code trace = .ok conversion)
    : ∃ reading : Except SyntaxReport Node, reading.isOk = (translator.read code).isOk
        ∧ ∀ isStrict trace, (translator.withStrictness isStrict).translate code trace
          = .ok ((translator.withStrictness isStrict).conclude reading trace) := by
  have hread : ∀ isStrict, (translator.withStrictness isStrict).read code
      = translator.read code := fun _ => rfl
  simp only [translate, hread] at h ⊢
  cases hr : translator.read code with
  | ok node => exact ⟨.ok node, rfl, fun _ _ => rfl⟩
  | error reason =>
      cases reason with
      | refused error => exact ⟨.error error.report, rfl, fun _ _ => rfl⟩
      | reported report => exact ⟨.error report, rfl, fun _ _ => rfl⟩
      | strayTemplate => simp only [hr, Unreadable.report?, reduceCtorEq] at h

-----------------------------------------------------------------------------------------
-- Phases, diagnostics and replaced names in the log of a translation
-----------------------------------------------------------------------------------------

/-- What an emission logs as diagnostics are its reports, by induction over the notes. -/
theorem described_diagnostics (notes : List Note)
    : Trace.described "diagnostic" (notes.map Note.entry)
      = (reports notes).map Diagnostic.text := by
  induction notes with
  | nil => rfl
  | cons note notes ih =>
      cases note with
      | report finding node => exact congrArg ((finding.reportOn node).text :: ·) ih
      | replacement source target => exact ih

/-- A fragment notes no phase. -/
theorem described_phases (notes : List Note)
    : Trace.described "phase_start" (notes.map Note.entry) = [] := by
  induction notes with
  | nil => rfl
  | cons note notes ih => cases note <;> exact ih

/-- The phases of a translation, of which the second one needs a text that can be read. -/
theorem described_phases_logged (start : Nat) (reading : Except SyntaxReport Node)
    : Trace.described "phase_start" ((translator.logged start reading).map TraceEvent.entry)
      = (if reading.isOk then ["Parse", "Emit"] else ["Parse"] : List Text) := by
  cases reading with
  | error report => rfl
  | ok node =>
      have hnone : Trace.described "phase_start" (translator.emissionEntries node.statements) = [] :=
        described_phases _
      rw [logged, List.map_append, Trace.described_append, Trace.described_phase,
        Trace.described_phase, hnone]
      rfl

/-- The diagnostics of a translation are those of the lenient run. -/
theorem described_diagnostics_logged (start : Nat) (reading : Except SyntaxReport Node)
    : Trace.described "diagnostic" ((translator.logged start reading).map TraceEvent.entry)
      = ((translator.withStrictness false).conclude reading {}).diagnostics.map
          Diagnostic.text := by
  cases reading with
  | error report => rfl
  | ok node =>
      have hentries : Trace.described "diagnostic" (translator.emissionEntries node.statements)
          = (reports (node.statements.flatMap (notes translator.template.toStyle 0))).map
              Diagnostic.text :=
        described_diagnostics _
      have hreports : ((translator.withStrictness false).conclude (.ok node) {}).diagnostics
          = reports (node.statements.flatMap (notes translator.template.toStyle 0)) :=
        (translator.withStrictness false).diagnostics_emission node.statements _
      rw [hreports, ← hentries, logged, List.map_append, Trace.described_append,
        Trace.described_phase, Trace.described_phase]
      exact List.append_nil _

/-- Strictness acts on the reports at the end alone, by their judgement. -/
theorem judge_conclude (reading : Except SyntaxReport Node) (trace : Trace)
    : (translator.conclude reading trace).diagnostics
      = judge translator.settings
          ((translator.withStrictness false).conclude reading {}).diagnostics := by
  cases reading with
  | error report =>
      change [report.diagnostic] = judge translator.settings [report.diagnostic]
      unfold judge
      split <;> rfl
  | ok node =>
      have hlenient := (translator.withStrictness false).diagnostics_emission node.statements
      exact congrArg (judge translator.settings)
        ((translator.diagnostics_emission node.statements _).trans (hlenient _).symm)

/-- Phases of a translation behind other phases. -/
theorem isBracketed_logged {events : List TraceEvent} (h : Trace.IsBracketed events none)
    (reading : Except SyntaxReport Node)
    : Trace.IsBracketed (events ++ translator.logged events.length reading) none := by
  have hparse : Trace.IsBracketed
      (events ++ Trace.phase events.length "Parse" "esprima -> ts2cpp AST" []) none :=
    h.phase "Parse" "esprima -> ts2cpp AST" nofun
  cases reading with
  | error report =>
      rw [logged, ← List.append_assoc]
      exact hparse.log rfl
  | ok node =>
      have hentries : ∀ entry ∈ translator.emissionEntries node.statements,
          entry.isBoundary = false := by
        intro entry hm
        obtain ⟨note, _, rfl⟩ := List.mem_map.mp hm
        exact note.isBoundary_entry
      have hemit := hparse.phase "Emit" "AST -> C++" hentries
      rw [List.length_append, List.append_assoc] at hemit
      exact hemit

/-- A replaced name that an emission logs is in the table. -/
theorem lookup?_of_mem_emissionEntries {statements : List Node} {source target : Text}
    (h : .shimMatch source target ∈ translator.emissionEntries statements)
    : translator.shims.lookup? source = some target := by
  obtain ⟨note, hm, he⟩ := List.mem_map.mp h
  obtain ⟨node, _, hnote⟩ := List.mem_flatMap.mp hm
  cases note with
  | report finding node => exact absurd he nofun
  | replacement source' target' =>
      obtain ⟨rfl, rfl⟩ := TraceEntry.shimMatch.inj he
      exact (anchored translator.template.toStyle node 0).each _ hnote

/-- A name is replaced only in the phase of emission, and by its entry in the table. -/
theorem replaced_inside {before behind : List TraceEvent} {reading : Except SyntaxReport Node}
    (h : Trace.IsBracketed (before ++ translator.logged before.length reading ++ behind) none)
    (hquiet : ∀ source target parent, ⟨.shimMatch source target, parent⟩ ∉ before ++ behind)
    {position : Nat} {source target : Text} {parent : Option Nat}
    (hp : (before ++ translator.logged before.length reading ++ behind)[position]?
      = some ⟨.shimMatch source target, parent⟩)
    : translator.shims.lookup? source = some target
        ∧ ∃ start stop, parent = some start ∧ start < position ∧ position < stop
          ∧ Trace.StartsAt (before ++ translator.logged before.length reading ++ behind) start "Emit"
          ∧ Trace.EndsAt (before ++ translator.logged before.length reading ++ behind) start stop := by
  have hm : ⟨.shimMatch source target, parent⟩ ∈ translator.logged before.length reading := by
    have hmem := List.mem_of_getElem? hp
    rw [List.mem_append, List.mem_append] at hmem
    rcases hmem with (hmem | hmem) | hmem
    · exact absurd (List.mem_append_left _ hmem) (hquiet source target parent)
    · exact hmem
    · exact absurd (List.mem_append_right _ hmem) (hquiet source target parent)
  cases reading with
  | error report =>
      rw [logged, List.mem_append, Trace.mem_phase_iff rfl] at hm
      rcases hm with ⟨hm, _⟩ | hm
      · exact absurd hm List.not_mem_nil
      · exact absurd (List.mem_singleton.mp hm) nofun
  | ok node =>
      rw [logged, List.mem_append, Trace.mem_phase_iff rfl, Trace.mem_phase_iff rfl] at hm
      rcases hm with ⟨hm, _⟩ | ⟨hm, rfl⟩
      · exact absurd hm List.not_mem_nil
      · have hstarts : Trace.StartsAt
            (before ++ translator.logged before.length (.ok node) ++ behind) (before.length + 2)
            "Emit" := by
          have hstart := Trace.startsAt_phase
            (before ++ Trace.phase before.length "Parse" "esprima -> ts2cpp AST" []) behind
            "Emit" "AST -> C++" (translator.emissionEntries node.statements)
          rw [List.length_append, List.append_assoc before] at hstart
          exact hstart
        obtain ⟨stop, _, hstop, _⟩ := h.closed _ _ hstarts nofun
        obtain ⟨hlt, hle⟩ := h.inside _ position _ hp rfl
        refine ⟨translator.lookup?_of_mem_emissionEntries hm, _, stop, rfl, hlt, ?_, hstarts, hstop⟩
        -- The phase ends with an event of its own.
        refine Nat.lt_of_le_of_ne (hle stop hstop) ?_
        rintro rfl
        exact absurd (hp.symm.trans hstop) nofun

/-- The names of the phases in which a text is translated. -/
def phases (code : Text) : List Text :=
  if (translator.read code).isOk then ["Parse", "Emit"] else ["Parse"]

/-- The log of an outcome that the translation of a text leads to. Its phases are the given ones and
stand one after another, its diagnostics are those of the lenient run in their order, and every
replaced name in it has been replaced in the phase of emission, by its entry in the table. -/
structure Logs (code : Text) (phases : List Text) (conversion : Conversion) : Prop where
  bracketed : Trace.IsBracketed conversion.trace.events none
  phases
    : Trace.described "phase_start" (conversion.trace.events.map TraceEvent.entry) = phases
  diagnostics
    : ∃ lenient, (translator.withStrictness false).run code = .ok lenient
        ∧ conversion.diagnostics = judge translator.settings lenient.diagnostics
        ∧ Trace.described "diagnostic" (conversion.trace.events.map TraceEvent.entry)
          = lenient.diagnostics.map Diagnostic.text
  replacements
    : ∀ (position : Nat) (source target : Text) (parent : Option Nat),
        conversion.trace.events[position]? = some ⟨.shimMatch source target, parent⟩
        → translator.shims.lookup? source = some target
          ∧ ∃ start stop, parent = some start ∧ start < position ∧ position < stop
            ∧ Trace.StartsAt conversion.trace.events start "Emit"
            ∧ Trace.EndsAt conversion.trace.events start stop

-----------------------------------------------------------------------------------------
-- Access to files is logged before and behind a translation
-----------------------------------------------------------------------------------------

/-- Access to a file is logged without diagnostics and without replaced names. -/
theorem not_mem_accessed (start : Nat) (name action : Text) (path : Path) (source target : Text)
    (parent : Option Nat)
    : ⟨.shimMatch source target, parent⟩ ∉ accessed start name action path := by
  rw [accessed, Trace.mem_phase_iff rfl]
  rintro ⟨hm, _⟩
  exact absurd (List.mem_singleton.mp hm) nofun

/-- Access to a file behind other phases. -/
theorem isBracketed_accessed {events : List TraceEvent} (h : Trace.IsBracketed events none)
    (name action : Text) (path : Path)
    : Trace.IsBracketed (events ++ accessed events.length name action path) none :=
  h.phase name path.text fun _ hm => List.mem_singleton.mp hm ▸ rfl

/-- A conversion is delivered without code, or its code is written and that is logged. -/
theorem deliver_ok {target : Path} {files after : FileSystem} {conversion delivered : Conversion}
    (h : (deliver target conversion : StateM FileSystem _).run files = (.ok delivered, after))
    : (conversion.success = false ∧ delivered = conversion ∧ after = files)
      ∨ (conversion.success = true
        ∧ delivered = { conversion with
            trace := accessPhase conversion.trace "Write" "write" target
            outputPath := some target }
        ∧ ∃ bytes, Utf8.encode? conversion.code = some bytes
          ∧ FileSystem.Written target bytes files after) := by
  unfold deliver at h
  cases hs : conversion.success with
  | false =>
      simp only [hs, Bool.not_false, if_true] at h
      obtain ⟨hdelivered, hafter⟩ := Prod.mk.inj h
      exact .inl ⟨rfl, (Except.ok.inj hdelivered).symm, hafter.symm⟩
  | true =>
      simp only [hs, Bool.not_true, Bool.false_eq_true, if_false, StateM.run_bind,
        run_store] at h
      have hstored := FileSystem.stored target ((Utf8.encode? conversion.code).getD []) files
      generalize (FileAccess.store target ((Utf8.encode? conversion.code).getD []) :
        StateM FileSystem _).run files = result at hstored h
      obtain ⟨failure, stored⟩ := result
      cases hstored with
      | refused cause sameFiles ofSystem => exact absurd (Prod.mk.inj h).1 nofun
      | brokenOff isOpen trouble begun => exact absurd (Prod.mk.inj h).1 nofun
      | written isOpen written =>
          cases he : Utf8.encode? conversion.code with
          | none =>
              rw [he] at h
              exact absurd (Prod.mk.inj h).1 nofun
          | some bytes =>
              rw [he] at h written
              obtain ⟨hdelivered, rfl⟩ := Prod.mk.inj h
              exact .inr ⟨rfl, (Except.ok.inj hdelivered).symm, bytes, rfl, written⟩

/-- A run from file to file that yields an outcome has read a text and translated it. -/
theorem runFile_ok {input output : Option Path} {files after : FileSystem}
    {conversion : Conversion}
    (h : (translator.runFile input output : StateM FileSystem _).run files
      = (.ok conversion, after))
    : ∃ text translated,
        files.Holds (input.getD translator.settings.inputPath) text
          ∧ translator.translate text.withLineFeeds
              (accessPhase {} "Read" "read" (input.getD translator.settings.inputPath))
            = .ok translated
          ∧ (deliver (output.getD translator.settings.outputPath) translated :
              StateM FileSystem _).run files
            = (.ok conversion, after) := by
  simp only [runFile, StateM.run_bind, FileSystem.run_read] at h
  cases hread : files.read (input.getD translator.settings.inputPath) with
  | error fault =>
      rw [hread] at h
      cases h
  | ok found =>
      rw [hread] at h
      cases found with
      | none => cases h
      | some content =>
          cases hdecode : Utf8.decode content with
          | error malformed =>
              simp only [hdecode] at h
              cases h
          | ok text =>
              simp only [hdecode] at h
              refine ⟨text, ?_⟩
              have hholds : files.Holds (input.getD translator.settings.inputPath) text :=
                ⟨content, FileSystem.find?_of_read hread, hdecode⟩
              split at h
              · cases h
              · rename_i translated htranslate
                exact ⟨translated, hholds, htranslate, h⟩

/-- The log of the translation of a text, between phases in which nothing is emitted. -/
theorem logs_of_events {code : Text} {reading : Except SyntaxReport Node}
    {conversion : Conversion} {before behind : List TraceEvent} {first last : List Text}
    (hread : reading.isOk = (translator.read code).isOk)
    (hrun : (translator.withStrictness false).run code
      = .ok ((translator.withStrictness false).conclude reading {}))
    (hevents : conversion.trace.events
      = before ++ translator.logged before.length reading ++ behind)
    (hdiagnostics : conversion.diagnostics = (translator.conclude reading {}).diagnostics)
    (hbracketed : Trace.IsBracketed conversion.trace.events none)
    (hquiet : ∀ source target parent, ⟨.shimMatch source target, parent⟩ ∉ before ++ behind)
    (hsilent : Trace.described "diagnostic" (before.map TraceEvent.entry) = []
      ∧ Trace.described "diagnostic" (behind.map TraceEvent.entry) = [])
    (hfirst : Trace.described "phase_start" (before.map TraceEvent.entry) = first)
    (hlast : Trace.described "phase_start" (behind.map TraceEvent.entry) = last)
    : translator.Logs code (first ++ translator.phases code ++ last) conversion where
  bracketed := hbracketed
  phases := by
    rw [hevents, List.map_append, List.map_append, Trace.described_append,
      Trace.described_append, described_phases_logged, hread, phases, hfirst, hlast]
  diagnostics := by
    refine ⟨_, hrun, hdiagnostics.trans (translator.judge_conclude reading {}), ?_⟩
    rw [hevents, List.map_append, List.map_append, Trace.described_append,
      Trace.described_append, described_diagnostics_logged, hsilent.1, hsilent.2, List.nil_append,
      List.append_nil]
  replacements := by
    rw [hevents] at hbracketed ⊢
    exact fun _ _ _ _ hp => translator.replaced_inside hbracketed hquiet hp

/-- What a run from file to file leaves of the run on the text of the file: the same outcome, a log
that has the access to the input in front, and with success, the output and the access to it. -/
structure Delivers (source target : Path) (before after : FileSystem)
    (outcome conversion : Conversion)
    : Prop where
  agrees : conversion.Agrees outcome
  events
    : conversion.trace.events
      = accessed 0 "Read" "read" source ++ outcome.trace.events.map (TraceEvent.behind 3)
        ++ if conversion.success then
            accessed (3 + outcome.trace.events.length) "Write" "write" target
          else []
  written
    : if conversion.success then
        conversion.outputPath = some target
          ∧ ∃ bytes, Utf8.encode? conversion.code = some bytes
            ∧ FileSystem.Written target bytes before after
      else conversion.outputPath = none ∧ after = before

/-- The log of a translation behind the access to its input. -/
theorem trace_conclude_accessed (reading : Except SyntaxReport Node) (source : Path)
    : (translator.conclude reading (accessPhase {} "Read" "read" source)).trace
      = ⟨accessed 0 "Read" "read" source ++ translator.logged 3 reading, []⟩ := by
  rw [accessPhase_eq rfl]
  exact translator.trace_conclude reading rfl

/-- The events of a translation on its own. -/
theorem events_conclude (reading : Except SyntaxReport Node)
    : (translator.conclude reading {}).trace.events = translator.logged 0 reading := by
  have htrace : (translator.conclude reading {}).trace = ⟨translator.logged 0 reading, []⟩ :=
    translator.trace_conclude reading rfl
  rw [htrace]

/-- The log of a read run is as long as its read phase and the trace of the rest. -/
theorem length_read_logged (reading : Except SyntaxReport Node) (source : Path)
    : (accessed 0 "Read" "read" source ++ translator.logged 3 reading).length
      = 3 + (translator.conclude reading {}).trace.events.length := by
  rw [List.length_append, events_conclude, ← map_behind_logged, List.length_map]
  rfl

/-- Delivering a translation leaves the log of it between the accesses to the files. -/
theorem delivers_of_deliver {source target : Path} {before after : FileSystem}
    {reading : Except SyntaxReport Node} {conversion : Conversion}
    (h : (deliver target (translator.conclude reading (accessPhase {} "Read" "read" source)) :
        StateM FileSystem _).run before
      = (.ok conversion, after))
    : Delivers source target before after (translator.conclude reading {}) conversion := by
  have htrace := translator.trace_conclude_accessed reading source
  have hagrees := translator.agrees_conclude reading (accessPhase {} "Read" "read" source) {}
  have hshifted : (translator.conclude reading {}).trace.events.map (TraceEvent.behind 3)
      = translator.logged 3 reading := by
    rw [events_conclude, map_behind_logged]
  rcases deliver_ok h with ⟨hs, rfl, rfl⟩ | ⟨hs, rfl, hwritten⟩
  · refine ⟨hagrees, ?_, ?_⟩
    · rw [hs, if_neg Bool.false_ne_true, htrace, hshifted, List.append_nil]
    · rw [hs, if_neg Bool.false_ne_true]
      cases reading <;> exact ⟨rfl, rfl⟩
  · refine ⟨⟨hagrees.success, hagrees.code, hagrees.diagnostics⟩, ?_, ?_⟩
    · have hwrite : accessPhase (translator.conclude reading
            (accessPhase {} "Read" "read" source)).trace "Write" "write" target
          = ⟨accessed 0 "Read" "read" source ++ translator.logged 3 reading
              ++ accessed (3 + (translator.conclude reading {}).trace.events.length) "Write" "write"
                target, []⟩ := by
        rw [htrace, accessPhase_eq rfl, length_read_logged]
      rw [hs, if_pos rfl, hshifted]
      exact congrArg Trace.events hwrite
    · rw [hs, if_pos rfl]
      exact ⟨rfl, hwritten⟩

/-- The log of a run from file to file, from what the run leaves of the one on the text. -/
theorem Delivers.logs {source target : Path} {before after : FileSystem} {code : Text}
    {reading : Except SyntaxReport Node} {conversion : Conversion}
    (h : Delivers source target before after (translator.conclude reading {}) conversion)
    (hread : reading.isOk = (translator.read code).isOk)
    (hrun : (translator.withStrictness false).run code
      = .ok ((translator.withStrictness false).conclude reading {}))
    : translator.Logs code
        ([("Read" : Text)] ++ translator.phases code
          ++ (if conversion.success then ["Write"] else [] : List Text))
        conversion := by
  have hevents := h.events
  have hbracketed := translator.isBracketed_logged
    (isBracketed_accessed Trace.isBracketed_nil "Read" "read" source) reading
  rw [events_conclude, map_behind_logged] at hevents
  cases hs : conversion.success with
  | false =>
      rw [hs, if_neg Bool.false_ne_true] at hevents
      rw [if_neg Bool.false_ne_true]
      refine translator.logs_of_events hread hrun hevents h.agrees.diagnostics ?_ ?_ ⟨rfl, rfl⟩ rfl
        rfl
      · rwa [hevents, List.append_nil]
      · rw [List.append_nil]
        exact not_mem_accessed 0 "Read" "read" source
  | true =>
      rw [hs, if_pos rfl] at hevents
      rw [if_pos rfl]
      refine translator.logs_of_events hread hrun hevents h.agrees.diagnostics ?_ ?_ ⟨rfl, rfl⟩ rfl
        rfl
      · have hwritten := isBracketed_accessed hbracketed "Write" "write" target
        rw [hevents, ← events_conclude, ← translator.length_read_logged reading source]
        exact hwritten
      · intro source target parent hm
        rcases List.mem_append.mp hm with hm | hm
        · exact not_mem_accessed _ _ _ _ _ _ _ hm
        · exact not_mem_accessed _ _ _ _ _ _ _ hm

/-- The log of every run is complete: its phases stand one after another and are the ones that the
run has come to, every report and every replaced name is in it, and a run from file to file logs the
run on the text of the file between the accesses to the input and, if it has been written, the
output. -/
theorem run_logs
    : (∀ code conversion, translator.run code = .ok conversion
        → translator.Logs code (translator.phases code) conversion)
      ∧ ∀ (input output : Option Path) (before after : FileSystem) (conversion : Conversion),
        (translator.runFile input output : StateM FileSystem _).run before
            = (.ok conversion, after)
        → let source := input.getD translator.settings.inputPath
          let target := output.getD translator.settings.outputPath
          ∃ text outcome, before.Holds source text
            ∧ translator.run text.withLineFeeds = .ok outcome
            ∧ translator.Logs text.withLineFeeds
              ([("Read" : Text)] ++ translator.phases text.withLineFeeds
                ++ (if conversion.success then ["Write"] else [] : List Text))
              conversion
            ∧ Delivers source target before after outcome conversion := by
  constructor
  · intro code conversion hrun
    obtain ⟨reading, hread, hconclude⟩ := translator.exists_reading hrun
    have hown : translator.run code = .ok (translator.conclude reading {}) :=
      hconclude translator.settings.isStrict {}
    obtain rfl := Except.ok.inj (hrun.symm.trans hown)
    have hevents : (translator.conclude reading {}).trace.events
        = [] ++ translator.logged 0 reading ++ [] := by
      rw [events_conclude, List.append_nil, List.nil_append]
    have hbracketed : Trace.IsBracketed (translator.conclude reading {}).trace.events none := by
      rw [events_conclude]
      exact translator.isBracketed_logged Trace.isBracketed_nil reading
    have hlogs := translator.logs_of_events hread (hconclude false {}) hevents rfl hbracketed
      (fun _ _ _ => List.not_mem_nil) ⟨rfl, rfl⟩ rfl rfl
    rwa [Trace.described, List.map_nil, List.filter_nil, List.map_nil, List.nil_append,
      List.append_nil] at hlogs
  · intro input output before after conversion hrun source target
    obtain ⟨text, translated, hholds, htranslate, hdeliver⟩ := translator.runFile_ok hrun
    obtain ⟨reading, hread, hconclude⟩ := translator.exists_reading htranslate
    have hown : ∀ trace, translator.translate text.withLineFeeds trace
        = .ok (translator.conclude reading trace) :=
      hconclude translator.settings.isStrict
    obtain rfl := Except.ok.inj (htranslate.symm.trans (hown _))
    have hdelivers := translator.delivers_of_deliver hdeliver
    exact ⟨text, _, hholds, hown {}, hdelivers.logs translator hread (hconclude false {}), hdelivers⟩

/-- A square root is taken from file to file: the log tells the four phases and the
replaced name. -/
theorem run_logs_squareRoot
    : let root : Node := .member (.identifier "Math" none) (.identifier "sqrt" none) false none
      let program : Node := .program [.expressionStatement (.call root [.identifier "x" none] none)
        none] none
      let translator : Translator := { read := fun _ => .ok program }
      ∃ conversion after, (translator.runFile none none : StateM FileSystem _).run rerun
          = (.ok conversion, after)
        ∧ conversion.success = true
        ∧ Trace.described "phase_start" (conversion.trace.events.map TraceEvent.entry)
          = ["Read", "Parse", "Emit", "Write"]
        ∧ Trace.described "shim_match" (conversion.trace.events.map TraceEvent.entry)
          = ["Mapped Math.sqrt -> sqrt"] := by
  intro root program translator
  obtain ⟨conversion, after, hrun, hs, hmatch⟩ : ∃ conversion after,
      (translator.runFile none none : StateM FileSystem _).run rerun = (.ok conversion, after)
        ∧ conversion.success = true
        ∧ Trace.described "shim_match" (conversion.trace.events.map TraceEvent.entry)
          = ["Mapped Math.sqrt -> sqrt"] := by
    refine ⟨_, _, rfl, ?_, ?_⟩
    · decide +kernel
    · decide +kernel
  obtain ⟨_, hfile⟩ := translator.run_logs
  obtain ⟨text, outcome, _, _, hlogs, _⟩ := hfile none none rerun after conversion hrun
  refine ⟨conversion, after, hrun, hs, ?_, hmatch⟩
  rw [hlogs.phases, hs]
  rfl

end Translator

end DeviceScript
