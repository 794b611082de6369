import DeviceScript.Text.Basic

/-! The log of a translation run: phases that nest, and what happened inside them. -/

namespace DeviceScript

/-- What happened. -/
inductive TraceEntry where
  | phaseStart (name detail : Text)
  | phaseEnd
  | shimMatch (source target : Text)
  | diagnostic (message : Text)
  | fileAccess (action path : Text)
  deriving DecidableEq

namespace TraceEntry

def kind : TraceEntry → Text
  | phaseStart _ _ => "phase_start"
  | phaseEnd => "phase_end"
  | shimMatch _ _ => "shim_match"
  | diagnostic _ => "diagnostic"
  | fileAccess _ _ => "file_io"

def description : TraceEntry → Text
  | phaseStart name _ => name
  | phaseEnd => "End Phase"
  | shimMatch source target => "Mapped " ++ source ++ " -> " ++ target
  | diagnostic message => message
  | fileAccess action path => action ++ " " ++ path

/-- The named details of an entry. -/
def details : TraceEntry → List (Text × Text)
  | phaseStart _ detail => [("detail", detail)]
  | phaseEnd => []
  | shimMatch source target => [("source", source), ("target", target)]
  | diagnostic _ => [("level", "warning")]
  | fileAccess action path => [("action", action), ("path", path)]

end TraceEntry

/-- An entry with the position in the log of the phase it belongs to. -/
structure TraceEvent where
  entry : TraceEntry
  parent : Option Nat
  deriving DecidableEq

/-- A log and the positions of its open phases, the innermost first. -/
structure Trace where
  events : List TraceEvent := []
  active : List Nat := []
  deriving DecidableEq

namespace Trace

/-- Adds an entry to the innermost open phase. -/
def log (trace : Trace) (entry : TraceEntry) : Trace :=
  { trace with events := trace.events ++ [⟨entry, trace.active.head?⟩] }

/-- Opens a phase inside the innermost open one. -/
def startPhase (trace : Trace) (name detail : Text) : Trace where
  events := trace.events ++ [⟨.phaseStart name detail, trace.active.head?⟩]
  active := trace.events.length :: trace.active

/-- Closes the innermost open phase, if there is one. -/
def endPhase (trace : Trace) : Trace :=
  match trace.active with
  | [] => trace
  | phase :: active => ⟨trace.events ++ [⟨.phaseEnd, some phase⟩], active⟩

end Trace

end DeviceScript
