import DeviceScript.Proofs.Data.Steps
import DeviceScript.Proofs.Emission.Report
import DeviceScript.Translation.Session

/-! Sessions with any history. Every piece of work begins and ends outside all braces, and it yields
and reports what it would yield and report as the first one, with or without a log.
-/

namespace DeviceScript

namespace Emit

variable {α β : Type}

/-- From this progress on, the action does what it does at the very beginning. The reports that are
there already stay in front of its own, or are forgotten if the action starts over. -/
structure ResumesFrom (startsOver : Bool) (action : Emit α) (progress : Progress) : Prop where
  value : (action.run progress).1 = (action.run {}).1
  depth : (action.run progress).2.depth = 0
  diagnostics
    : (action.run progress).2.diagnostics
      = (if startsOver then [] else progress.diagnostics) ++ (action.run {}).2.diagnostics

/-- The action does the same wherever it begins outside all braces, whatever has been logged. -/
def Resumes (startsOver : Bool) (action : Emit α) : Prop :=
  ∀ progress : Progress, progress.depth = 0 → ResumesFrom startsOver action progress

/-- What becomes of the value does not bear on where an action resumes. -/
theorem Resumes.map {startsOver : Bool} {action : Emit α} (h : Resumes startsOver action)
    (f : α → β)
    : Resumes startsOver (f <$> action) := by
  intro progress hd
  obtain ⟨hvalue, hdepth, hdiagnostics⟩ := h progress hd
  exact ⟨congrArg f hvalue, hdepth, hdiagnostics⟩

/-- What only writes goes on from the reports that are there. -/
theorem Writes.resumes {action : Emit α} {value : Nat → α} {notes : Nat → List Note}
    (h : Writes action value notes)
    : Resumes false action := by
  intro progress hd
  have hrun : action.run progress = (value 0, progress.noteAll (notes 0)) := hd ▸ h progress
  have hfirst : action.run {} = (value 0, ({} : Progress).noteAll (notes 0)) := h {}
  constructor
  · rw [hrun, hfirst]
  · rw [hrun]
    exact (progress.depth_noteAll _).trans hd
  · rw [hrun, hfirst]
    exact progress.diagnostics_noteAll (notes 0)

/-- A change of the log is no matter of emission. -/
theorem resumes_onTrace (change : Trace → Trace) : Resumes false (Session.onTrace change) := by
  intro progress hd
  exact ⟨rfl, hd, (List.append_nil _).symm⟩

end Emit

namespace Fragment

open Emit

/-- A reset forgets all reports and does nothing else. -/
theorem resumes_reset : Resumes true reset := fun _ _ => ⟨rfl, rfl, rfl⟩

/-- What the emission of a program leaves behind is made of notes on its statements alone. -/
theorem emitProgram_progress (style : Style) (body : List Node) (progress : Progress)
    : ((emitProgram style body).run progress).2
      = ({ progress with depth := 0, diagnostics := [] } : Progress).noteAll
          (body.flatMap (notes style 0)) :=
  have hwrites := emitPieces_writes style body { progress with depth := 0, diagnostics := [] } rfl
  congrArg Prod.snd hwrites

/-- A program is emitted the same after any reports, all of which it forgets. -/
theorem resumes_emitProgram (style : Style) (body : List Node)
    : Resumes true (emitProgram style body) := by
  intro progress _
  constructor
  · exact emitProgram_eq style body progress {}
  · rw [emitProgram_progress, Progress.depth_noteAll]
  · rw [emitProgram_progress, emitProgram_progress, Progress.diagnostics_noteAll,
      Progress.diagnostics_noteAll]
    rfl

end Fragment

/-- A program is emitted into its file like the program alone, apart from the text. -/
theorem Template.resumes_assemble (template : Template) (body : List Node)
    : Emit.Resumes true (template.assemble body) := by
  rw [assemble_eq_map]
  exact (Fragment.resumes_emitProgram template.toStyle body).map template.filed

-----------------------------------------------------------------------------------------
-- One piece of work
-----------------------------------------------------------------------------------------

/-- Tells whether a piece of work begins by forgetting all reports. A program that cannot be read
does not get that far. -/
def Work.startsOver (parse : Text → Except Unreadable Node) : Work → Bool
  | emitProgram source | assemble source => (source.read parse).isOk
  | reset => true
  | _ => false

namespace Session

variable {parse : Text → Except Unreadable Node}

/-- A source that gives a program can be read. -/
theorem isOk_of_statements {source : Source} {body : List Node}
    (h : source.statements parse = .ok body)
    : (source.read parse).isOk = true := by
  obtain ⟨node, hread, _⟩ := exists_of_bind_eq_ok h
  rw [hread]
  rfl

/-- Every piece of work that can be begun resumes, by cases on the work. -/
theorem resumes_perform {template : Template} {work : Work} {action : Emit Yield}
    (h : perform parse template work = .ok action)
    : Emit.Resumes (work.startsOver parse) action := by
  have hemit := Fragment.emit_writes template.toStyle
  cases work with
  | emit source =>
      obtain ⟨node, _, hread⟩ := exists_of_bind_eq_ok h
      obtain rfl := Except.ok.inj hread
      have hresumes : Emit.Resumes false (Fragment.emitOptional template.toStyle node) :=
        (Fragment.emitOptional_writes fun inner _ => hemit inner).resumes
      exact hresumes.map Yield.text
  | emitHeader source =>
      obtain ⟨node, _, hread⟩ := exists_of_bind_eq_ok h
      obtain rfl := Except.ok.inj hread
      have hresumes : Emit.Resumes false (Fragment.emitHeader template.toStyle node) :=
        (Fragment.emitHeader_writes fun _ _ inner _ => hemit inner).resumes
      exact hresumes.map Yield.text
  | emitProgram source =>
      obtain ⟨body, hbody, hread⟩ := exists_of_bind_eq_ok h
      obtain rfl := Except.ok.inj hread
      rw [Work.startsOver, isOk_of_statements hbody]
      exact (Fragment.resumes_emitProgram template.toStyle body).map Yield.emission
  | assemble source =>
      obtain ⟨body, hbody, hread⟩ := exists_of_bind_eq_ok h
      obtain rfl := Except.ok.inj hread
      rw [Work.startsOver, isOk_of_statements hbody]
      exact (template.resumes_assemble body).map Yield.emission
  | render functions statements =>
      obtain rfl := Except.ok.inj h
      exact fun progress hd => ⟨rfl, hd, (List.append_nil _).symm⟩
  | reset =>
      obtain rfl := Except.ok.inj h
      exact Fragment.resumes_reset.map _
  | startPhase name detail =>
      obtain rfl := Except.ok.inj h
      exact (Emit.resumes_onTrace (·.startPhase name detail)).map _
  | endPhase =>
      obtain rfl := Except.ok.inj h
      exact (Emit.resumes_onTrace Trace.endPhase).map _
  | log entry =>
      obtain rfl := Except.ok.inj h
      exact (Emit.resumes_onTrace (·.log entry)).map _

/-- A piece of work that cannot be begun starts nothing over. -/
theorem startsOver_of_perform_error {template : Template} {work : Work} {error : Unreadable}
    (h : perform parse template work = .error error)
    : work.startsOver parse = false := by
  cases work with
  | emitProgram source | assemble source =>
      cases hread : source.read parse with
      | error error =>
          change (source.read parse).isOk = false
          rw [hread]
          rfl
      | ok node =>
          have hbody : source.statements parse = .ok ((node.map Node.statements).getD []) := by
            rw [Source.statements, hread]
            rfl
          simp only [perform, hbody] at h
          exact absurd h nofun
  | emit source | emitHeader source => rfl
  | _ => exact absurd h nofun

section Steps

variable (session : Session) (work : Work)

/-- A piece of work that cannot be begun leaves the session as it was. -/
theorem step_of_error {error : Unreadable}
    (h : perform session.parse session.template work = .error error)
    : session.step work = (.error error, session) := by
  rw [step, h]

/-- A piece of work that can be begun changes the progress alone. -/
theorem step_of_ok {action : Emit Yield}
    (h : perform session.parse session.template work = .ok action)
    : session.step work
      = (.ok (action.run session.progress).1,
        { session with progress := (action.run session.progress).2 }) := by
  rw [step, h]
  rfl

/-- No piece of work changes how a session reads and writes. -/
theorem step_keeps
    : (session.step work).2.template = session.template
      ∧ (session.step work).2.parse = session.parse := by
  cases h : perform session.parse session.template work with
  | error error =>
      rw [session.step_of_error work h]
      exact ⟨rfl, rfl⟩
  | ok action =>
      rw [session.step_of_ok work h]
      exact ⟨rfl, rfl⟩

/-- One piece of work on a session that stands outside all braces: it yields what a session
without a past yields, leaves the session outside all braces, and adds the reports of its own to
those that it keeps. -/
theorem step_resumes (hd : session.progress.depth = 0)
    : let first := fresh session.template false session.parse
      (session.step work).1 = (first.step work).1
        ∧ (session.step work).2.progress.depth = 0
        ∧ (session.step work).2.progress.diagnostics
          = (if work.startsOver session.parse then [] else session.progress.diagnostics)
              ++ (first.step work).2.progress.diagnostics := by
  intro first
  cases h : perform session.parse session.template work with
  | error error =>
      have hfirst : first.step work = (.error error, first) := first.step_of_error work h
      rw [session.step_of_error work h, hfirst, startsOver_of_perform_error h]
      exact ⟨rfl, hd, (List.append_nil _).symm⟩
  | ok action =>
      have hfirst : first.step work
          = (.ok (action.run {}).1, { first with progress := (action.run {}).2 }) :=
        first.step_of_ok work h
      obtain ⟨hvalue, hdepth, hdiagnostics⟩ := resumes_perform h session.progress hd
      rw [session.step_of_ok work h, hfirst]
      exact ⟨congrArg Except.ok hvalue, hdepth, hdiagnostics⟩

end Steps

-----------------------------------------------------------------------------------------
-- Any number of pieces of work, one after another
-----------------------------------------------------------------------------------------

/-- A session after some pieces of work, one after another. -/
def after (session : Session) (history : List Work) : Session :=
  history.foldl (fun session work => (session.step work).2) session

/-- A session with another log in the place of its own. -/
def withTrace (session : Session) (trace : Option Trace) : Session :=
  { session with progress := { session.progress with trace := trace } }

/-- No history changes how a session reads and writes, by induction over the pieces of work. -/
theorem after_keeps (session : Session) (history : List Work)
    : (session.after history).template = session.template
      ∧ (session.after history).parse = session.parse := by
  induction history generalizing session with
  | nil => exact ⟨rfl, rfl⟩
  | cons work history ih =>
      obtain ⟨htemplate, hparse⟩ := session.step_keeps work
      obtain ⟨htemplates, hparses⟩ := ih (session.step work).2
      exact ⟨htemplates.trans htemplate, hparses.trans hparse⟩

/-- No history leaves a session inside braces, by induction over the pieces of work. -/
theorem depth_after {session : Session} (hd : session.progress.depth = 0) (history : List Work)
    : (session.after history).progress.depth = 0 := by
  induction history generalizing session with
  | nil => exact hd
  | cons work history ih =>
      obtain ⟨_, hdepth, _⟩ := session.step_resumes work hd
      exact ih hdepth

/-- The same history leaves the same reports in two sessions that differ in their logs, by induction
over the pieces of work. -/
theorem diagnostics_after {session other : Session} (ht : session.template = other.template)
    (hp : session.parse = other.parse) (hd : session.progress.depth = 0)
    (hd' : other.progress.depth = 0)
    (h : session.progress.diagnostics = other.progress.diagnostics) (history : List Work)
    : (session.after history).progress.diagnostics
      = (other.after history).progress.diagnostics := by
  induction history generalizing session other with
  | nil => exact h
  | cons work history ih =>
      obtain ⟨_, hdepth, hdiagnostics⟩ := session.step_resumes work hd
      obtain ⟨_, hdepth', hdiagnostics'⟩ := other.step_resumes work hd'
      obtain ⟨htemplate, hparse⟩ := session.step_keeps work
      obtain ⟨htemplate', hparse'⟩ := other.step_keeps work
      -- Both steps add the reports of the same first step to what they keep.
      refine ih ?_ ?_ hdepth hdepth' ?_
      · rw [htemplate, htemplate', ht]
      · rw [hparse, hparse', hp]
      · rw [hdiagnostics, hdiagnostics', h, ht, hp]

/-- A session carries nothing from one piece of work to the next but the reports that are not
forgotten. After any history, with any parser and with any log in the place of its own, it stands
outside all braces with the reports that the history leaves without a log, and it yields what a
session without a past and without a log yields; the reports of that session are added to those
that are kept. A script that cannot be read leaves the session as it was. -/
theorem step_after (parse : Text → Except Unreadable Node) (template : Template)
    (isTraced : Bool) (history : List Work) (trace : Option Trace) (work : Work)
    : let session := ((fresh template isTraced parse).after history).withTrace trace
      let first := fresh template false parse
      session.progress.depth = 0
        ∧ session.progress.diagnostics = (first.after history).progress.diagnostics
        ∧ (session.step work).2.progress.depth = 0
        ∧ (session.step work).1 = (first.step work).1
        ∧ (session.step work).2.progress.diagnostics
          = (if work.startsOver parse then [] else session.progress.diagnostics)
              ++ (first.step work).2.progress.diagnostics
        ∧ ∀ error, (session.step work).1 = .error error → (session.step work).2 = session := by
  intro session first
  obtain ⟨htemplate, hparse⟩ : session.template = template ∧ session.parse = parse :=
    (fresh template isTraced parse).after_keeps history
  have hstart : (fresh template isTraced parse).progress.depth = 0 := rfl
  have hd : session.progress.depth = 0 := depth_after hstart history
  obtain ⟨hvalue, hdepth, hdiagnostics⟩ := session.step_resumes work hd
  have hnone : (fresh template isTraced parse).progress.diagnostics = first.progress.diagnostics :=
    rfl
  have hkept : session.progress.diagnostics = (first.after history).progress.diagnostics := by
    apply diagnostics_after _ _ hstart _ hnone history
    · rfl
    · rfl
    · rfl
  rw [htemplate, hparse] at hvalue hdiagnostics
  refine ⟨hd, hkept, hdepth, hvalue, hdiagnostics, ?_⟩
  intro error herror
  cases h : perform session.parse session.template work with
  | error error' => rw [session.step_of_error work h]
  | ok action =>
      rw [session.step_of_ok work h] at herror
      exact absurd herror nofun

end Session

end DeviceScript
