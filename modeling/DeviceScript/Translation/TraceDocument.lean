import DeviceScript.Data.Json
import DeviceScript.Translation.Trace

/-! The JSON document of a log. In a document the events name each other by identifiers and carry
times, which do not belong to the log.
-/

namespace DeviceScript

/-- What a document adds to an event. -/
structure Stamp where
  identifier : Text
  time : Binary64

namespace Trace

/-- An event with its stamp, and with the identifier of its phase in the place of a position. -/
def eventDatum (stamps : Nat → Stamp) (position : Nat) (event : TraceEvent) : Datum :=
  .table [("id", .text (stamps position).identifier), ("type", .text event.entry.kind),
    ("timestamp", .real (stamps position).time),
    ("description", .text event.entry.description),
    ("parent_id", (event.parent.map fun parent => .text (stamps parent).identifier).getD .null),
    ("metadata", .table (event.entry.details.map fun detail => (detail.1, .text detail.2)))]

/-- The document of a log. -/
def document (trace : Trace) (stamps : Nat → Stamp) : Text :=
  Json.document (.list (trace.events.mapIdx (eventDatum stamps)))

end Trace

end DeviceScript
