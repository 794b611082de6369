import DeviceScript.Translation.Source
import DeviceScript.Translation.Unit

/-! A translator that is kept for several pieces of work.
Reports add up until the next whole program starts, and the log goes on from one piece to the next.
-/

namespace DeviceScript

/-- One piece of work. -/
inductive Work where
  | emit (source : Source)
  | emitHeader (source : Source)
  | emitProgram (source : Source)
  | assemble (source : Source)
  | render (functions statements : List Text)
  | reset
  | startPhase (name detail : Text)
  | endPhase
  | log (entry : TraceEntry)

/-- What a piece of work yields. -/
inductive Yield where
  | nothing
  | text (text : Text)
  | emission (emission : Emission)

/-- A translator: how it writes, what its work has left behind, and how it reads scripts. -/
structure Session where
  template : Template
  progress : Progress
  parse : Text → Except Unreadable Node

namespace Session

/-- A translator before its first piece of work, which may keep a log. -/
def fresh (template : Template) (traced : Bool)
    (parse : Text → Except Unreadable Node := Script.toNode) : Session where
  template := template
  progress := { trace := if traced then some {} else none }
  parse := parse

/-- Applies a change to the log, if one is kept. -/
def onTrace (change : Trace → Trace) : Emit Unit :=
  modify fun progress => { progress with trace := progress.trace.map change }

/-- The work on a session; a script that cannot be read leaves everything as it was. -/
def perform (parse : Text → Except Unreadable Node) (template : Template)
    : Work → Except Unreadable (Emit Yield)
  | .emit source => do
    let node ← source.read parse
    return Yield.text <$> Fragment.emitOptional template.toStyle node
  | .emitHeader source => do
    let node ← source.read parse
    return Yield.text <$> Fragment.emitHeader template.toStyle node
  | .emitProgram source => do
    let statements ← source.statements parse
    return Yield.emission <$> Fragment.emitProgram template.toStyle statements
  | .assemble source => do
    let statements ← source.statements parse
    return Yield.emission <$> template.assemble statements
  | .render functions statements => return return .text (template.render functions statements)
  | .reset => return (fun _ => .nothing) <$> Fragment.reset
  | .startPhase name detail => return (fun _ => .nothing) <$> onTrace (·.startPhase name detail)
  | .endPhase => return (fun _ => .nothing) <$> onTrace Trace.endPhase
  | .log entry => return (fun _ => .nothing) <$> onTrace (·.log entry)

/-- Does one piece of work. -/
def step (session : Session) (work : Work) : Except Unreadable Yield × Session :=
  match perform session.parse session.template work with
  | .error error => (.error error, session)
  | .ok action =>
    let (result, progress) := action.run session.progress
    (.ok result, { session with progress := progress })

end Session

end DeviceScript
