import DeviceScript.Translation.Trace

/-! Logs in which phases stand one after another: each of them ends once, before the next one begins,
and what is logged in between belongs to it.
-/

namespace DeviceScript

/-- Tells whether an entry begins or ends a phase. -/
def TraceEntry.isBoundary : TraceEntry → Bool
  | phaseStart _ _ | phaseEnd => true
  | _ => false

/-- The event of a log that is put behind others. -/
def TraceEvent.behind (count : Nat) (event : TraceEvent) : TraceEvent :=
  { event with parent := event.parent.map (· + count) }

namespace Trace

/-- A phase begins at a position. -/
def StartsAt (events : List TraceEvent) (start : Nat) (name : Text) : Prop :=
  ∃ detail parent, events[start]? = some ⟨.phaseStart name detail, parent⟩

/-- The phase that begins at one position ends at another. -/
def EndsAt (events : List TraceEvent) (start stop : Nat) : Prop :=
  events[stop]? = some ⟨.phaseEnd, some start⟩

/-- The phases of a log stand one after another, and only the active one has not ended. -/
structure IsBracketed (events : List TraceEvent) (active : Option Nat) : Prop where
  /-- No phase stands inside another one. -/
  outermost
    : ∀ (start : Nat) (name detail : Text) (parent : Option Nat),
        events[start]? = some ⟨.phaseStart name detail, parent⟩ → parent = none
  /-- A phase that is not active has exactly one end, which is behind its beginning. -/
  closed
    : ∀ start name, StartsAt events start name → some start ≠ active
        → ∃ stop, start < stop ∧ EndsAt events start stop
          ∧ ∀ other, EndsAt events start other → other = stop
  /-- Whatever ends is a phase that began before. -/
  opened
    : ∀ (stop : Nat) (parent : Option Nat), events[stop]? = some ⟨.phaseEnd, parent⟩
        → ∃ start name, parent = some start ∧ start < stop ∧ StartsAt events start name
  /-- Up to the end of a phase, no other one begins or ends, and all that is logged belongs
  to it. -/
  apart
    : ∀ (start stop position : Nat) (event : TraceEvent), EndsAt events start stop
        → start < position → position < stop → events[position]? = some event
        → event.parent = some start ∧ event.entry.isBoundary = false
  /-- What belongs to a phase stands behind its beginning and not behind its end. -/
  inside
    : ∀ (start position : Nat) (event : TraceEvent), events[position]? = some event
        → event.parent = some start
        → start < position ∧ ∀ stop, EndsAt events start stop → position ≤ stop
  /-- The active phase began, and all that is logged since then belongs to it. -/
  running
    : ∀ start ∈ active, (∃ name, StartsAt events start name)
        ∧ ∀ (position : Nat) (event : TraceEvent), start < position → events[position]? = some event
          → event.parent = some start ∧ event.entry.isBoundary = false

section Steps

variable {events : List TraceEvent} {active : Option Nat} {start stop position : Nat}
  {name : Text} {event last : TraceEvent}

/-- An event of a longer log is one of the log before or the last one. -/
theorem getElem?_concat
    : (events ++ [last])[position]? = some event
      ↔ events[position]? = some event ∨ position = events.length ∧ last = event := by
  rcases Nat.lt_trichotomy position events.length with h | rfl | h
  · rw [List.getElem?_append_left h]
    exact ⟨.inl, fun h' => h'.resolve_right fun he => absurd he.1 (Nat.ne_of_lt h)⟩
  · simp
  · have hnone : events[position]? = none := List.getElem?_eq_none (Nat.le_of_lt h)
    have hnone' : (events ++ [last])[position]? = none := by
      refine List.getElem?_eq_none ?_
      rwa [List.length_append, List.length_singleton]
    rw [hnone, hnone']
    exact iff_of_false nofun (by rintro (h' | ⟨rfl, _⟩) <;> simp_all)

/-- An event that is there has its position in the trace. -/
theorem lt_length_of_getElem? (h : events[position]? = some event) : position < events.length :=
  (List.getElem?_eq_some_iff.mp h).1

/-- A phase starts inside its trace. -/
theorem StartsAt.lt_length (h : StartsAt events start name) : start < events.length := by
  obtain ⟨_, _, h⟩ := h
  exact lt_length_of_getElem? h

/-- A phase still starts where it did when events are added. -/
theorem StartsAt.append (h : StartsAt events start name) (rest : List TraceEvent)
    : StartsAt (events ++ rest) start name := by
  obtain ⟨detail, parent, h⟩ := h
  refine ⟨detail, parent, ?_⟩
  rwa [List.getElem?_append_left (lt_length_of_getElem? h)]

/-- A phase still ends where it did when events are added. -/
theorem EndsAt.append (h : EndsAt events start stop) (rest : List TraceEvent)
    : EndsAt (events ++ rest) start stop := by
  unfold EndsAt
  rwa [List.getElem?_append_left (lt_length_of_getElem? h)]

/-- Only an event that ends a phase makes it end. -/
theorem EndsAt.of_concat (h : EndsAt (events ++ [last]) start stop)
    (hlast : last ≠ ⟨.phaseEnd, some start⟩)
    : EndsAt events start stop :=
  (getElem?_concat.mp h).resolve_right fun hl => hlast hl.2

/-- An event that is no boundary ends no phase. -/
theorem EndsAt.of_log {entry : TraceEntry} {parent : Option Nat}
    (h : EndsAt (events ++ [⟨entry, parent⟩]) start stop) (hb : entry.isBoundary = false)
    : EndsAt events start stop := by
  refine h.of_concat fun he => ?_
  obtain rfl := (TraceEvent.mk.inj he).1
  exact absurd hb nofun

/-- The empty trace is in brackets, with no phase open. -/
theorem isBracketed_nil : IsBracketed [] none where
  outermost _ _ _ _ h := absurd h nofun
  closed _ _ h := absurd h nofun
  opened _ _ h := absurd h nofun
  apart _ _ _ _ h := absurd h nofun
  inside _ _ _ h := absurd h nofun
  running _ h := absurd h nofun

/-- An event that ends no phase keeps the ends that there are. -/
theorem IsBracketed.closed_concat (h : IsBracketed events active)
    (hlast : last.entry ≠ .phaseEnd) (hs : StartsAt events start name) (hne : some start ≠ active)
    : ∃ stop, start < stop ∧ EndsAt (events ++ [last]) start stop
        ∧ ∀ other, EndsAt (events ++ [last]) start other → other = stop := by
  obtain ⟨stop, hlt, hstop, hunique⟩ := h.closed start name hs hne
  refine ⟨stop, hlt, hstop.append _, fun other hother => hunique other ?_⟩
  exact hother.of_concat fun he => hlast (congrArg TraceEvent.entry he)

/-- The active phase has not ended. -/
theorem IsBracketed.not_endsAt (h : IsBracketed events (some start)) (stop : Nat)
    : ¬EndsAt events start stop := by
  intro hstop
  obtain ⟨start', _, hp, hlt, _⟩ := h.opened stop (some start) hstop
  obtain rfl := Option.some.inj hp
  obtain ⟨_, hb⟩ := (h.running start rfl).2 stop _ hlt hstop
  exact absurd hb nofun

/-- A phase may start where none is open. -/
theorem IsBracketed.startPhase (h : IsBracketed events none) (name detail : Text)
    : IsBracketed (events ++ [⟨.phaseStart name detail, none⟩]) (some events.length) where
  outermost start name' detail' parent hs := by
    rcases getElem?_concat.mp hs with hs | ⟨_, hlast⟩
    · exact h.outermost start name' detail' parent hs
    · exact (TraceEvent.mk.inj hlast).2.symm
  closed start name' hs hne := by
    obtain ⟨detail', parent, hs⟩ := hs
    rcases getElem?_concat.mp hs with hs | ⟨rfl, _⟩
    · exact h.closed_concat nofun ⟨detail', parent, hs⟩ nofun
    · exact absurd rfl hne
  opened stop parent hstop := by
    rcases getElem?_concat.mp hstop with hstop | ⟨_, hstop⟩
    · obtain ⟨start, name', hp, hlt, hs⟩ := h.opened stop parent hstop
      exact ⟨start, name', hp, hlt, hs.append _⟩
    · exact absurd hstop nofun
  apart start stop position event hstop hlt hlt' hevent := by
    have hstop' := hstop.of_concat nofun
    rw [List.getElem?_append_left (Nat.lt_trans hlt' (lt_length_of_getElem? hstop'))] at hevent
    exact h.apart start stop position event hstop' hlt hlt' hevent
  inside start position event hevent hp := by
    rcases getElem?_concat.mp hevent with hevent | ⟨_, rfl⟩
    · obtain ⟨hlt, hle⟩ := h.inside start position event hevent hp
      exact ⟨hlt, fun stop hstop => hle stop (hstop.of_concat nofun)⟩
    · exact absurd hp nofun
  running start hm := by
    obtain rfl := Option.some.inj hm
    refine ⟨⟨name, detail, none, List.getElem?_concat_length⟩, fun position event hlt hevent => ?_⟩
    have hle := lt_length_of_getElem? hevent
    rw [List.length_append, List.length_singleton] at hle
    omega

/-- What is logged belongs to the active phase, if there is one. -/
theorem IsBracketed.log (h : IsBracketed events active) {entry : TraceEntry}
    (hb : entry.isBoundary = false)
    : IsBracketed (events ++ [⟨entry, active⟩]) active where
  outermost start name detail parent hs := by
    rcases getElem?_concat.mp hs with hs | ⟨_, hs⟩
    · exact h.outermost start name detail parent hs
    · obtain rfl := (TraceEvent.mk.inj hs).1
      exact absurd hb nofun
  closed start name hs hne := by
    obtain ⟨detail, parent, hs⟩ := hs
    rcases getElem?_concat.mp hs with hs | ⟨_, hs⟩
    · refine h.closed_concat ?_ ⟨detail, parent, hs⟩ hne
      rintro rfl
      exact absurd hb nofun
    · obtain rfl := (TraceEvent.mk.inj hs).1
      exact absurd hb nofun
  opened stop parent hstop := by
    rcases getElem?_concat.mp hstop with hstop | ⟨_, hstop⟩
    · obtain ⟨start, name, hp, hlt, hs⟩ := h.opened stop parent hstop
      exact ⟨start, name, hp, hlt, hs.append _⟩
    · obtain rfl := (TraceEvent.mk.inj hstop).1
      exact absurd hb nofun
  apart start stop position event hstop hlt hlt' hevent := by
    have hstop' := hstop.of_log hb
    rw [List.getElem?_append_left (Nat.lt_trans hlt' (lt_length_of_getElem? hstop'))] at hevent
    exact h.apart start stop position event hstop' hlt hlt' hevent
  inside start position event hevent hp := by
    rcases getElem?_concat.mp hevent with hevent | ⟨rfl, rfl⟩
    · obtain ⟨hlt, hle⟩ := h.inside start position event hevent hp
      exact ⟨hlt, fun stop hstop => hle stop (hstop.of_log hb)⟩
    · obtain rfl : active = some start := hp
      obtain ⟨⟨_, hs⟩, _⟩ := h.running start rfl
      exact ⟨hs.lt_length, fun stop hstop => absurd (hstop.of_log hb) (h.not_endsAt stop)⟩
  running start hm := by
    obtain ⟨⟨name, hs⟩, hsince⟩ := h.running start hm
    refine ⟨⟨name, hs.append _⟩, fun position event hlt hevent => ?_⟩
    rcases getElem?_concat.mp hevent with hevent | ⟨_, rfl⟩
    · exact hsince position event hlt hevent
    · exact ⟨hm, hb⟩

/-- The open phase may end. -/
theorem IsBracketed.endPhase (h : IsBracketed events (some start))
    : IsBracketed (events ++ [⟨.phaseEnd, some start⟩]) none where
  outermost start' name detail parent hs := by
    rcases getElem?_concat.mp hs with hs | ⟨_, hs⟩
    · exact h.outermost start' name detail parent hs
    · exact absurd hs nofun
  closed start' name hs _ := by
    obtain ⟨detail, parent, hs⟩ := hs
    rcases getElem?_concat.mp hs with hold | ⟨_, hlast⟩
    -- The phase that was running has its one end here, and every other one keeps its own.
    · by_cases he : start' = start
      · subst he
        refine ⟨events.length, lt_length_of_getElem? hold, List.getElem?_concat_length, ?_⟩
        intro other hother
        rcases getElem?_concat.mp hother with hother | ⟨rfl, _⟩
        · exact absurd hother (h.not_endsAt other)
        · rfl
      · obtain ⟨stop, hlt, hstop, hunique⟩ :=
          h.closed start' name ⟨detail, parent, hold⟩ fun hp => he (Option.some.inj hp)
        refine ⟨stop, hlt, hstop.append _, fun other hother => hunique other ?_⟩
        refine hother.of_concat fun hl => he ?_
        exact (Option.some.inj (TraceEvent.mk.inj hl).2).symm
    · exact absurd hlast nofun
  opened stop parent hstop := by
    rcases getElem?_concat.mp hstop with hstop | ⟨rfl, hlast⟩
    · obtain ⟨start', name, hp, hlt, hs⟩ := h.opened stop parent hstop
      exact ⟨start', name, hp, hlt, hs.append _⟩
    · obtain ⟨⟨name, hs⟩, _⟩ := h.running start rfl
      exact ⟨start, name, (TraceEvent.mk.inj hlast).2.symm, hs.lt_length, hs.append _⟩
  apart start' stop position event hstop hlt hlt' hevent := by
    rcases getElem?_concat.mp hstop with hstop | ⟨rfl, hlast⟩
    · rw [List.getElem?_append_left (Nat.lt_trans hlt' (lt_length_of_getElem? hstop))] at hevent
      exact h.apart start' stop position event hstop hlt hlt' hevent
    · obtain rfl := Option.some.inj (TraceEvent.mk.inj hlast).2
      rw [List.getElem?_append_left hlt'] at hevent
      exact (h.running start rfl).2 position event hlt hevent
  inside start' position event hevent hp := by
    have hle : position ≤ events.length := by
      have hlt := lt_length_of_getElem? hevent
      rw [List.length_append, List.length_singleton] at hlt
      omega
    rcases getElem?_concat.mp hevent with hold | ⟨hlast, rfl⟩
    · obtain ⟨hlt, hbefore⟩ := h.inside start' position event hold hp
      refine ⟨hlt, fun stop hstop => ?_⟩
      rcases getElem?_concat.mp hstop with hstop | ⟨rfl, _⟩
      · exact hbefore stop hstop
      · exact hle
    · obtain rfl := Option.some.inj hp
      obtain ⟨⟨_, hs⟩, _⟩ := h.running start rfl
      refine ⟨hlast ▸ hs.lt_length, fun stop hstop => ?_⟩
      rcases getElem?_concat.mp hstop with hstop | ⟨rfl, _⟩
      · exact absurd hstop (h.not_endsAt stop)
      · exact hle
  running _ hm := absurd hm nofun

/-- Several entries in a row, by induction over the entries. -/
theorem IsBracketed.logAll (h : IsBracketed events active) {entries : List TraceEntry}
    (hb : ∀ entry ∈ entries, entry.isBoundary = false)
    : IsBracketed (events ++ entries.map (⟨·, active⟩)) active := by
  induction entries generalizing events with
  | nil => rwa [List.map_nil, List.append_nil]
  | cons entry entries ih =>
      have hrest := ih (h.log (hb entry List.mem_cons_self))
        fun entry hm => hb entry (List.mem_cons_of_mem _ hm)
      rwa [List.append_assoc] at hrest

end Steps

/-- The events of a phase that begins at a position. -/
def phase (start : Nat) (name detail : Text) (entries : List TraceEntry) : List TraceEvent :=
  ⟨.phaseStart name detail, none⟩ :: entries.map (⟨·, some start⟩) ++ [⟨.phaseEnd, some start⟩]

/-- A log without an active phase may go on with a whole phase. -/
theorem IsBracketed.phase {events : List TraceEvent} (h : IsBracketed events none)
    (name detail : Text) {entries : List TraceEntry}
    (hb : ∀ entry ∈ entries, entry.isBoundary = false)
    : IsBracketed (events ++ phase events.length name detail entries) none := by
  have hphase := ((h.startPhase name detail).logAll hb).endPhase
  rwa [List.append_assoc, List.append_assoc] at hphase

/-- A phase begins where its events do. -/
theorem startsAt_phase (events rest : List TraceEvent) (name detail : Text)
    (entries : List TraceEntry)
    : StartsAt (events ++ phase events.length name detail entries ++ rest) events.length name := by
  refine StartsAt.append ⟨detail, none, ?_⟩ rest
  rw [List.getElem?_append_right (Nat.le_refl _), Nat.sub_self]
  rfl

/-- Only what is logged in a phase stands between its beginning and its end. -/
theorem mem_phase_iff {start : Nat} {name detail : Text} {entries : List TraceEntry}
    {entry : TraceEntry} {parent : Option Nat} (hb : entry.isBoundary = false)
    : ⟨entry, parent⟩ ∈ phase start name detail entries
      ↔ entry ∈ entries ∧ parent = some start := by
  have hstart : (⟨entry, parent⟩ : TraceEvent) ≠ ⟨.phaseStart name detail, none⟩ := by
    rintro ⟨⟩
    exact absurd hb nofun
  have hend : (⟨entry, parent⟩ : TraceEvent) ≠ ⟨.phaseEnd, some start⟩ := by
    rintro ⟨⟩
    exact absurd hb nofun
  simp only [phase, List.mem_append, List.mem_cons, List.mem_map, hstart, hend, false_or, or_false,
    List.not_mem_nil]
  constructor
  · rintro ⟨_, hm, ⟨⟩⟩
    exact ⟨hm, rfl⟩
  · rintro ⟨hm, rfl⟩
    exact ⟨entry, hm, rfl⟩

/-- Phases behind other events are the same phases. -/
theorem map_behind_phase (count start : Nat) (name detail : Text) (entries : List TraceEntry)
    : (phase start name detail entries).map (TraceEvent.behind count)
      = phase (start + count) name detail entries := by
  simp only [phase, List.map_cons, List.map_append, List.map_map, List.map_nil]
  rfl

end Trace

end DeviceScript
