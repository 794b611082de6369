import DeviceScript.Proofs.Translation.Brackets

/-! Logs after any calls. Phases nest, in whatever order a log is called: what ends is the innermost
of the phases that are open, and all that is logged belongs to it.
-/

namespace DeviceScript

/-- Tells whether an entry begins a phase. -/
def TraceEntry.beginsPhase : TraceEntry → Bool
  | phaseStart _ _ => true
  | _ => false

namespace Trace

/-- A call to a log. -/
inductive Call where
  | startPhase (name detail : Text)
  | endPhase
  | logMatch (source target : Text)
  | logDiagnostic (message : Text)
  | logAccess (action path : Text)

/-- What a call is logged as. -/
def Call.entry : Call → TraceEntry
  | startPhase name detail => .phaseStart name detail
  | endPhase => .phaseEnd
  | logMatch source target => .shimMatch source target
  | logDiagnostic message => .diagnostic message
  | logAccess action path => .fileAccess action path

/-- What a call adds to a log with the given innermost phase. Where no phase is open, none ends. -/
def Call.additions (call : Call) (innermost : Option Nat) : List TraceEvent :=
  match call, innermost with
  | endPhase, none => []
  | call, innermost => [⟨call.entry, innermost⟩]

/-- The log behind a call. -/
def perform (trace : Trace) : Call → Trace
  | .startPhase name detail => trace.startPhase name detail
  | .endPhase => trace.endPhase
  | call => trace.log call.entry

/-- The log behind some calls, one after another. -/
def performAll (trace : Trace) (calls : List Call) : Trace := calls.foldl perform trace

/-- The positions of the phases that have begun and not ended, the outermost first. -/
def openPhases (events : List TraceEvent) : List Nat :=
  (List.range events.length).filter fun start =>
    events[start]?.any (·.entry.beginsPhase) ∧ ⟨.phaseEnd, some start⟩ ∉ events

/-- What every log keeps, whatever is called. -/
structure IsNested (trace : Trace) : Prop where
  /-- The log knows which phases are open. -/
  active : trace.active = (openPhases trace.events).reverse
  /-- An event belongs to the innermost phase that was open when it was logged. -/
  innermost
    : ∀ (position : Nat) (event : TraceEvent), trace.events[position]? = some event
        → event.parent = (openPhases (trace.events.take position)).getLast?
  /-- Nothing ends where no phase is open. -/
  ended : ∀ parent, ⟨.phaseEnd, parent⟩ ∈ trace.events → parent ≠ none
  /-- As many phases are open as have begun and not ended. -/
  counted
    : trace.active.length + trace.events.countP (·.entry = .phaseEnd)
        = trace.events.countP (·.entry.beginsPhase)

-----------------------------------------------------------------------------------------
-- One call keeps the phases nested
-----------------------------------------------------------------------------------------

section Steps

variable {events : List TraceEvent} {trace : Trace} {start stop stop' position : Nat}
  {event : TraceEvent} {entry : TraceEntry} {parent : Option Nat}

/-- A phase is open if it has started and no event ends it. -/
theorem mem_openPhases
    : start ∈ openPhases events
      ↔ (∃ name, StartsAt events start name) ∧ ⟨.phaseEnd, some start⟩ ∉ events := by
  have hstarts : events[start]?.any (·.entry.beginsPhase) = true
      ↔ ∃ name, StartsAt events start name := by
    cases he : events[start]? with
    | none => simp [StartsAt, he]
    | some event =>
        obtain ⟨entry, parent⟩ := event
        cases entry <;> simp [StartsAt, he, TraceEntry.beginsPhase]
  rw [openPhases, List.mem_filter, decide_eq_true_eq, hstarts, List.mem_range]
  exact ⟨And.right, fun h => ⟨h.1.elim fun _ hs => hs.lt_length, h⟩⟩

/-- One more event closes the phase that it ends, and opens the one that it begins. -/
theorem openPhases_concat (events : List TraceEvent) (last : TraceEvent)
    : openPhases (events ++ [last])
      = (openPhases events).filter (fun start => last ≠ ⟨.phaseEnd, some start⟩)
          ++ if last.entry.beginsPhase ∧ ⟨.phaseEnd, some events.length⟩ ∉ events
            then [events.length] else [] := by
  have hmem (start : Nat) : ⟨.phaseEnd, some start⟩ ∉ events ++ [last]
      ↔ ⟨.phaseEnd, some start⟩ ∉ events ∧ last ≠ ⟨.phaseEnd, some start⟩ := by
    rw [List.mem_append, List.mem_singleton, not_or, eq_comm]
  unfold openPhases
  rw [List.length_append, List.length_singleton, List.range_succ, List.filter_append,
    List.filter_filter]
  congr 1
  · refine List.filter_congr fun start hm => ?_
    rw [List.getElem?_append_left (List.mem_range.mp hm), ← Bool.decide_and, decide_eq_decide,
      hmem, ← and_assoc, and_comm]
  · have hlast : last.entry.beginsPhase = true → last ≠ ⟨.phaseEnd, some events.length⟩ := by
      rintro hb rfl
      exact absurd hb nofun
    simp only [List.filter_cons, List.filter_nil, List.getElem?_concat_length, hmem,
      Option.any_some, decide_eq_true_eq]
    refine ite_congr (propext ⟨?_, ?_⟩) (fun _ => rfl) fun _ => rfl
    · exact fun h => ⟨h.1, h.2.1⟩
    · exact fun h => ⟨h.1, h.2, hlast h.1⟩

/-- A phase that starts is open behind all others. -/
theorem openPhases_begin (name detail : Text) (parent : Option Nat)
    (h : ⟨.phaseEnd, some events.length⟩ ∉ events)
    : openPhases (events ++ [⟨.phaseStart name detail, parent⟩])
      = openPhases events ++ [events.length] := by
  rw [openPhases_concat, if_pos ⟨rfl, h⟩, List.filter_eq_self.mpr]
  exact fun _ _ => decide_eq_true nofun

/-- An event that is no boundary leaves the open phases as they are. -/
theorem openPhases_log (h : entry.isBoundary = false) (parent : Option Nat)
    : openPhases (events ++ [⟨entry, parent⟩]) = openPhases events := by
  rw [openPhases_concat, if_neg, List.append_nil, List.filter_eq_self.mpr]
  · refine fun _ _ => decide_eq_true fun he => ?_
    obtain rfl := (TraceEvent.mk.inj he).1
    exact absurd h nofun
  · rintro ⟨hb, _⟩
    cases entry <;> contradiction

/-- The end of the last open phase leaves the others open. -/
theorem openPhases_end (h : (openPhases events).getLast? = some start)
    : openPhases (events ++ [⟨.phaseEnd, some start⟩]) = (openPhases events).dropLast := by
  have hnodup : (openPhases events).Nodup := List.nodup_range.filter _
  obtain ⟨outer, hsplit⟩ := List.getLast?_eq_some_iff.mp h
  rw [hsplit, List.nodup_append] at hnodup
  have houter : ∀ other ∈ outer, start ≠ other := fun other hm he =>
    hnodup.2.2 other hm start (List.mem_singleton_self start) he.symm
  rw [openPhases_concat, if_neg (fun hb => absurd hb.1 nofun), List.append_nil, hsplit,
    List.dropLast_concat, List.filter_append]
  simp only [ne_eq, TraceEvent.mk.injEq, Option.some.injEq, true_and]
  rw [List.filter_eq_self.mpr fun other hm => decide_eq_true (houter other hm)]
  simp

/-- What an event belongs to is a phase that began before. -/
theorem IsNested.startsAt (h : IsNested trace) (he : trace.events[position]? = some event)
    (hp : event.parent = some start)
    : start < position ∧ ∃ name, StartsAt trace.events start name := by
  have hm : start ∈ openPhases (trace.events.take position) :=
    List.mem_of_getLast? ((h.innermost position event he).symm.trans hp)
  obtain ⟨⟨name, hs⟩, _⟩ := mem_openPhases.mp hm
  have hlt := hs.lt_length
  rw [List.length_take] at hlt
  have hstart := hs.append (trace.events.drop position)
  rw [List.take_append_drop] at hstart
  exact ⟨by omega, name, hstart⟩

/-- No phase ends twice, because it is no longer open when it has ended. -/
theorem IsNested.endsAt_unique (h : IsNested trace) (he : EndsAt trace.events start stop)
    (he' : EndsAt trace.events start stop')
    : stop = stop' := by
  -- Behind its first end, a phase is not among the open ones, and only those can end.
  have hle : ∀ {first second}, EndsAt trace.events start first → EndsAt trace.events start second
      → ¬first < second := by
    intro first second hfirst hsecond hlt
    have hm : start ∈ openPhases (trace.events.take second) :=
      List.mem_of_getLast? (h.innermost second _ hsecond).symm
    have htake := (List.getElem?_take_of_lt hlt).trans hfirst
    exact (mem_openPhases.mp hm).2 (List.mem_of_getElem? htake)
  exact Nat.le_antisymm (Nat.le_of_not_lt (hle he' he)) (Nat.le_of_not_lt (hle he he'))

/-- What is logged next belongs to the innermost open phase, and all before it stays as it was. -/
theorem IsNested.innermost_concat (h : IsNested trace) (entry : TraceEntry)
    (he : (trace.log entry).events[position]? = some event)
    : event.parent = (openPhases ((trace.log entry).events.take position)).getLast? := by
  rcases getElem?_concat.mp he with he | ⟨rfl, rfl⟩
  · rw [Trace.log, List.take_append_of_le_length (Nat.le_of_lt (lt_length_of_getElem? he))]
    exact h.innermost position event he
  · rw [Trace.log, List.take_left, h.active, List.head?_reverse]

/-- The start of a phase keeps a trace nested. -/
theorem IsNested.startPhase (h : IsNested trace) (name detail : Text)
    : IsNested (trace.startPhase name detail) where
  active := by
    -- Nothing refers to a position ahead of itself, so the new phase has not been ended yet.
    have hahead : ⟨.phaseEnd, some trace.events.length⟩ ∉ trace.events := by
      intro hm
      obtain ⟨position, he⟩ := List.mem_iff_getElem?.mp hm
      have hlt := (h.startsAt he rfl).1
      exact Nat.lt_asymm hlt (lt_length_of_getElem? he)
    simp only [Trace.startPhase]
    rw [openPhases_begin name detail _ hahead, List.reverse_concat, h.active]
  innermost _ _ he := h.innermost_concat _ he
  ended parent hm := by
    rcases List.mem_append.mp hm with hm | hm
    · exact h.ended parent hm
    · exact absurd (List.mem_singleton.mp hm) nofun
  counted := by
    have hcounted := h.counted
    simp only [Trace.startPhase, List.length_cons, List.countP_append, List.countP_singleton]
    change _ + 1 + (_ + 0) = _ + 1
    omega

/-- An event that is no boundary keeps a trace nested. -/
theorem IsNested.log (h : IsNested trace) (hb : entry.isBoundary = false)
    : IsNested (trace.log entry) where
  active := h.active.trans (congrArg List.reverse (openPhases_log hb _).symm)
  innermost _ _ he := h.innermost_concat _ he
  ended parent hm := by
    rcases List.mem_append.mp hm with hm | hm
    · exact h.ended parent hm
    · obtain rfl := (TraceEvent.mk.inj (List.mem_singleton.mp hm)).1
      exact absurd hb nofun
  counted := by
    have hcounted := h.counted
    simp only [Trace.log, List.countP_append, List.countP_singleton]
    cases entry with
    | phaseStart _ _ | phaseEnd => exact absurd hb nofun
    | _ => exact hcounted

/-- The end of a phase keeps a trace nested, also where none is open. -/
theorem IsNested.endPhase (h : IsNested trace) : IsNested trace.endPhase := by
  obtain ⟨events, active⟩ := trace
  cases active with
  | nil => exact h
  | cons phase outer =>
      have hactive : openPhases events = outer.reverse ++ [phase] := by
        have hreverse : phase :: outer = (openPhases events).reverse := h.active
        rw [← List.reverse_cons, hreverse, List.reverse_reverse]
      refine ⟨?_, fun _ _ he => h.innermost_concat .phaseEnd he, fun parent hm => ?_, ?_⟩
      · simp only [Trace.endPhase]
        rw [openPhases_end (by rw [hactive, List.getLast?_concat]), hactive, List.dropLast_concat,
          List.reverse_reverse]
      · rcases List.mem_append.mp hm with hm | hm
        · exact h.ended parent hm
        · obtain rfl := (TraceEvent.mk.inj (List.mem_singleton.mp hm)).2
          exact nofun
      · have hcounted := h.counted
        simp only [Trace.endPhase, List.length_cons, List.countP_append, List.countP_singleton]
          at hcounted ⊢
        change _ + (_ + 1) = _ + 0
        omega

/-- Every call keeps the phases nested. -/
theorem IsNested.perform (h : IsNested trace) (call : Call) : IsNested (trace.perform call) := by
  cases call with
  | startPhase name detail => exact h.startPhase name detail
  | endPhase => exact h.endPhase
  | logMatch _ _ | logDiagnostic _ | logAccess _ _ => exact h.log rfl

/-- What a call adds stands behind all that has been logged. -/
theorem IsNested.events_perform (h : IsNested trace) (call : Call)
    : (trace.perform call).events
      = trace.events ++ call.additions (openPhases trace.events).getLast? := by
  rw [← List.head?_reverse, ← h.active]
  obtain ⟨events, active⟩ := trace
  cases call with
  | endPhase => cases active <;> simp [Trace.perform, Trace.endPhase, Call.additions, Call.entry]
  | _ => rfl

end Steps

-----------------------------------------------------------------------------------------
-- Any number of calls keeps the phases nested
-----------------------------------------------------------------------------------------

/-- The empty trace is nested. -/
theorem isNested_nil : IsNested {} where
  active := rfl
  innermost _ _ he := absurd he nofun
  ended _ hm := absurd hm List.not_mem_nil
  counted := rfl

/-- Calls keep the phases nested, by induction over the calls. -/
theorem IsNested.performAll {trace : Trace} (h : IsNested trace) (calls : List Call)
    : IsNested (trace.performAll calls) := by
  induction calls generalizing trace with
  | nil => exact h
  | cons call calls ih => exact ih (h.perform call)

/-- Calls leave what has been logged as it is, by induction over the calls. -/
theorem IsNested.events_prefix {trace : Trace} (h : IsNested trace) (calls : List Call)
    : trace.events <+: (trace.performAll calls).events := by
  induction calls generalizing trace with
  | nil => exact List.prefix_refl _
  | cons call calls ih =>
      refine List.IsPrefix.trans ?_ (ih (h.perform call))
      rw [h.events_perform]
      exact List.prefix_append _ _

/-- The phases of a log nest, whatever has been called. The log only ever grows at its end: a call
adds one event, which belongs to the innermost of the open phases, except that nothing is added
where a phase should end and none is open. What an event belongs to is a phase that began before and
that was the innermost open one when the event was logged; an event that ends a phase ends that one,
so no phase ends twice. As many phases are open as have begun and not ended. -/
theorem performAll_nests (calls : List Call)
    : let trace : Trace := performAll {} calls
      let phases := openPhases trace.events
      (∀ more, trace.events <+: (performAll {} (calls ++ more)).events)
        ∧ (∀ call, (performAll {} (calls ++ [call])).events
          = trace.events ++ call.additions phases.getLast?)
        ∧ (∀ (position : Nat) (event : TraceEvent), trace.events[position]? = some event
          → event.parent = (openPhases (trace.events.take position)).getLast?
            ∧ (event.entry = .phaseEnd → event.parent ≠ none)
            ∧ ∀ start, event.parent = some start
              → start < position ∧ ∃ name, StartsAt trace.events start name)
        ∧ (∀ start stop stop', EndsAt trace.events start stop → EndsAt trace.events start stop'
          → stop = stop')
        ∧ trace.active = phases.reverse
        ∧ phases.length + trace.events.countP (·.entry = .phaseEnd)
          = trace.events.countP (·.entry.beginsPhase) := by
  intro trace phases
  have h : IsNested trace := isNested_nil.performAll calls
  refine ⟨fun more => ?_, fun call => ?_, fun position event he => ⟨?_, ?_, ?_⟩, ?_, h.active, ?_⟩
  · rw [performAll, List.foldl_append]
    exact h.events_prefix more
  · rw [performAll, List.foldl_append]
    exact h.events_perform call
  · exact h.innermost position event he
  · obtain ⟨entry, parent⟩ := event
    rintro rfl
    exact h.ended parent (List.mem_of_getElem? he)
  · exact fun start hp => h.startsAt he hp
  · exact fun start stop stop' he he' => h.endsAt_unique he he'
  · have hcounted := h.counted
    rwa [h.active, List.length_reverse] at hcounted

end Trace

end DeviceScript
