import DeviceScript.Proofs.Data.Steps
import DeviceScript.Proofs.Files.Location

/-! What the calls of a file system answer. A call that comes through answers from the entries
alone; a call that does not either tells what the entries keep it from, or has met trouble.
-/

namespace DeviceScript

/-- One path leads to the directory of the other, or to one above it, or is the other. -/
structure Path.IsAbove (above path : Path) : Prop where
  anchor : above.anchor = path.anchor
  names : above.names <+: path.names

namespace Path.IsAbove

variable {above path : Path}

/-- A path is above itself. -/
theorem refl (path : Path) : path.IsAbove path := ⟨rfl, List.prefix_rfl⟩

/-- The directory of a path is above it. -/
theorem parent (path : Path) : path.parent.IsAbove path := ⟨rfl, List.dropLast_prefix path.names⟩

/-- What is above a path above another one is above that one. -/
theorem trans {middle : Path} (h : above.IsAbove middle) (h' : middle.IsAbove path)
    : above.IsAbove path :=
  ⟨h.anchor.trans h'.anchor, h.names.trans h'.names⟩

end Path.IsAbove

namespace FileSystem

open FileAccess (leadsTo)

variable {files made after : FileSystem} {path : Path} {place : FileLocation} {call : FileCall}
  {fault : FileFault} {error : FileError} {kind : FileKind} {content : List UInt8}

/-- A fault is trouble that calls about a path, or about a directory above it, can meet. -/
def Troubles (files : FileSystem) (path : Path) (fault : FileFault) : Prop :=
  ∃ entries call above trouble, call.path? = some above ∧ above.IsAbove path
    ∧ files.trouble entries call = some trouble ∧ trouble.fault = fault

/-- Trouble on the way to a path is trouble for the path. -/
theorem Troubles.below {above : Path} (h : files.Troubles above fault) (ha : above.IsAbove path)
    : files.Troubles path fault := by
  obtain ⟨entries, call, higher, trouble, hc, hh, ht, hf⟩ := h
  exact ⟨entries, call, higher, trouble, hc, hh.trans ha, ht, hf⟩

/-- Trouble is no matter of the entries, so it is met before exactly where it is met behind. -/
theorem Troubles.of_trouble_eq (h : after.Troubles path fault)
    (he : after.trouble = files.trouble) : files.Troubles path fault := by
  unfold Troubles at h
  rwa [he] at h

/-- What a call about a path meets now is trouble for the path. -/
theorem troubles_of_trouble? {trouble : Trouble} (hc : call.path? = some path)
    (h : files.trouble? call = some trouble) : files.Troubles path trouble.fault :=
  ⟨files.entries, call, path, trouble, hc, .refl path, h, rfl⟩

/-- Trouble is a fault of the system. -/
theorem Troubles.isOfSystem (h : files.Troubles path fault) : fault.isOfSystem = true := by
  obtain ⟨_, _, _, trouble, _, _, _, rfl⟩ := h
  exact trouble.ofSystem

/-- A call about a path comes through where the path leads on and nothing troubles the call. -/
theorem reach_eq_ok_iff
    : files.reach call path = .ok place
      ↔ files.trouble? call = none ∧ files.locate path = .ok place := by
  unfold reach
  cases hf : path.fault? with
  | some fault =>
      refine iff_of_false nofun fun h => ?_
      exact nomatch hf.symm.trans (locate_eq_ok_iff.mp h.2).1.spelled
  | none => cases files.trouble? call <;> simp

/-- A call about a path fails where the path does not lead on, or meets trouble. -/
theorem reach_eq_error (hc : call.path? = some path) (h : files.reach call path = .error fault)
    : files.locate path = .error fault ∨ files.Troubles path fault := by
  unfold reach at h
  cases hf : path.fault? with
  | some unspelled =>
      rw [hf] at h
      rw [locate, hf]
      exact .inl h
  | none =>
      rw [hf] at h
      cases ht : files.trouble? call with
      | none =>
          rw [ht] at h
          exact .inl h
      | some trouble =>
          rw [ht] at h
          obtain rfl := Except.error.inj h
          exact .inr (troubles_of_trouble? hc ht)

-----------------------------------------------------------------------------------------
-- Asking for what a path leads to
-----------------------------------------------------------------------------------------

/-- The system tells of a path what it leads to, or meets trouble. -/
theorem status_eq_ok_iff
    : files.status path = .ok kind
      ↔ files.trouble? (.status path) = none
        ∧ ∃ entry, files.find? path = some entry ∧ entry.kind = kind := by
  unfold status find?
  cases hr : files.reach (.status path) path with
  | error fault =>
      refine iff_of_false (by simp [bind, Except.bind]) ?_
      rintro ⟨ht, entry, hf, -⟩
      split at hf
      · rename_i place hl
        exact nomatch hr.symm.trans (reach_eq_ok_iff.mpr ⟨ht, hl⟩)
      · cases hf
  | ok place =>
      obtain ⟨ht, hl⟩ := reach_eq_ok_iff.mp hr
      simp only [bind, Except.bind, hl, ht, true_and]
      cases files.entry? place <;> simp [pure, Except.pure, throw, throwThe, MonadExceptOf.throw]

/-- Where the system does not tell what a path leads to, there is nothing, or the path does not lead
on, or there is trouble. -/
theorem status_eq_error (h : files.status path = .error fault)
    : (fault = .missing ∧ files.find? path = none) ∨ files.locate path = .error fault
      ∨ files.Troubles path fault := by
  unfold status at h
  cases hr : files.reach (.status path) path with
  | error blocking =>
      obtain rfl : blocking = fault := by simpa [hr, bind, Except.bind] using h
      exact .inr (reach_eq_error rfl hr)
  | ok place =>
      cases he : files.entry? place with
      | some entry => simp [hr, he, bind, Except.bind, pure, Except.pure] at h
      | none =>
          refine .inl ⟨?_, ?_⟩
          · simpa [hr, he, bind, Except.bind, throw, throwThe, MonadExceptOf.throw, eq_comm] using h
          · rw [find?, (reach_eq_ok_iff.mp hr).2]
            exact he

/-- Tells whether a path leads to something of a kind, unless the system refuses to tell. -/
def leadsTo (files : FileSystem) (kind : FileKind) (path : Path) : Except FileError Bool :=
  match files.status path with
  | .ok found => .ok (found = kind)
  | .error fault => if fault.isAbsence then .ok false else .error { fault, path }

/-- The content of a file, if a path leads to one. -/
def read (files : FileSystem) (path : Path) : Except FileError (Option (List UInt8)) :=
  match files.leadsTo .file path with
  | .error error => .error error
  | .ok false => .ok none
  | .ok true => (files.content path).map some

/-- A refusal to tell comes of a path that is too long for the system, or is trouble. -/
theorem leadsTo_eq_error (h : files.leadsTo kind path = .error error)
    : (error = { fault := .nameTooLong, path } ∧ files.locate path = .error .nameTooLong)
      ∨ files.Troubles path error.fault := by
  unfold leadsTo at h
  cases hs : files.status path with
  | ok found => simp [hs] at h
  | error fault =>
      cases ha : fault.isAbsence with
      | true => simp [hs, ha] at h
      | false =>
          obtain rfl : { fault, path } = error := by simpa [hs, ha] using h
          rcases status_eq_error hs with ⟨rfl, _⟩ | hl | ht
          · exact absurd ha (by decide)
          · obtain rfl := nameTooLong_of_locate_error ha hl
            exact .inl ⟨rfl, hl⟩
          · exact .inr ht

/-- A path is told to lead to something of a kind only where it does. -/
theorem kind_of_leadsTo (h : files.leadsTo kind path = .ok true)
    : ∃ entry, files.find? path = some entry ∧ entry.kind = kind := by
  unfold leadsTo at h
  cases hs : files.status path with
  | ok found =>
      obtain rfl : found = kind := by simpa [hs] using h
      exact (status_eq_ok_iff.mp hs).2
  | error fault => cases ha : fault.isAbsence <;> simp [hs, ha] at h

/-- A path is told to lead to nothing of a kind only where it does not. -/
theorem not_kind_of_leadsTo (h : files.leadsTo kind path = .ok false)
    : ∀ entry, files.find? path = some entry → entry.kind ≠ kind := by
  unfold leadsTo at h
  rintro entry hf rfl
  cases hs : files.status path with
  | ok found =>
      obtain ⟨_, other, hf', hk⟩ := status_eq_ok_iff.mp hs
      obtain rfl := Option.some.inj (hf.symm.trans hf')
      simp [hs, hk] at h
  | error fault =>
      cases ha : fault.isAbsence with
      | false => simp [hs, ha] at h
      | true =>
          rcases status_eq_error hs with ⟨_, hn⟩ | hl | ⟨_, _, _, trouble, _, _, _, rfl⟩
          · exact nomatch hf.symm.trans hn
          · rw [find?, hl] at hf
            exact absurd hf nofun
          -- Trouble is never taken for an absence.
          · exact nomatch ha.symm.trans trouble.noAbsence

/-- What is read stands at the path. -/
theorem find?_of_content (h : files.content path = .ok content)
    : files.find? path = some (.file content) := by
  unfold FileSystem.content at h
  cases hr : files.reach (.opening path) path with
  | error fault => simp [hr, Except.mapError, bind, Except.bind] at h
  | ok place =>
      rw [find?, (reach_eq_ok_iff.mp hr).2]
      simp only [hr, Except.mapError, bind, Except.bind] at h ⊢
      split at h
      · cases h
      · cases h
      · rename_i found he
        split at h
        · cases h
        · obtain rfl := Except.ok.inj h
          exact he

/-- A file that is there can be read unless there is trouble. -/
theorem troubles_of_content (hf : files.find? path = some (.file content))
    (h : files.content path = .error error) : files.Troubles path error.fault := by
  unfold FileSystem.content at h
  unfold find? at hf
  cases hl : files.locate path with
  | error fault =>
      rw [hl] at hf
      exact absurd hf nofun
  | ok place =>
      rw [hl] at hf
      simp only at hf
      cases hr : files.reach (.opening path) path with
      | error fault =>
          obtain rfl : { fault, path } = error := by
            simpa [hr, Except.mapError, bind, Except.bind] using h
          exact (reach_eq_error rfl hr).resolve_left fun he => nomatch hl.symm.trans he
      | ok place' =>
          obtain rfl := Except.ok.inj (hl.symm.trans (reach_eq_ok_iff.mp hr).2)
          simp only [hr, Except.mapError, bind, Except.bind, hf] at h
          split at h
          · rename_i trouble ht
            obtain rfl := Except.error.inj h
            exact troubles_of_trouble? rfl ht
          · cases h

/-- A content is read where the path leads to it. -/
theorem find?_of_read (h : files.read path = .ok (some content))
    : files.find? path = some (.file content) := by
  unfold read at h
  split at h
  · cases h
  · cases h
  · cases hc : files.content path with
    | error error => simp [hc, Except.map] at h
    | ok found =>
        obtain rfl : found = content := by simpa [hc, Except.map] using h
        exact find?_of_content hc

/-- Nothing is read only where the path leads to no file. -/
theorem not_file_of_read (h : files.read path = .ok none)
    : ∀ content, files.find? path ≠ some (.file content) := by
  unfold read at h
  split at h
  · cases h
  · rename_i hleads
    exact fun content hf => not_kind_of_leadsTo hleads _ hf rfl
  · cases hc : files.content path <;> simp [hc, Except.map] at h

/-- Reading fails at a path that is too long for the system, or in trouble. -/
theorem read_eq_error (h : files.read path = .error error)
    : (error = { fault := .nameTooLong, path } ∧ files.locate path = .error .nameTooLong)
      ∨ files.Troubles path error.fault := by
  unfold read at h
  split at h
  · rename_i failure hleads
    obtain rfl := Except.error.inj h
    exact leadsTo_eq_error hleads
  · cases h
  · rename_i hleads
    cases hc : files.content path with
    | ok found => simp [hc, Except.map] at h
    | error failure =>
        obtain rfl : failure = error := by simpa [hc, Except.map] using h
        obtain ⟨entry, hf, hk⟩ := kind_of_leadsTo hleads
        cases entry with
        | directory => exact absurd hk nofun
        | file content => exact .inr (troubles_of_content hf hc)

-----------------------------------------------------------------------------------------
-- Creating directories and writing files
-----------------------------------------------------------------------------------------

/-- A directory is created at a place that is free, unless there is trouble. -/
theorem makeDirectory_eq_ok_iff
    : files.makeDirectory path = .ok made
      ↔ files.trouble? (.makeDirectory path) = none
        ∧ ∃ place, files.locate path = .ok place ∧ files.entry? place = none
          ∧ made = files.put place .directory := by
  unfold makeDirectory
  cases hr : files.reach (.makeDirectory path) path with
  | error fault =>
      refine iff_of_false (by simp [bind, Except.bind]) ?_
      rintro ⟨ht, place, hl, -⟩
      exact nomatch hr.symm.trans (reach_eq_ok_iff.mpr ⟨ht, hl⟩)
  | ok place =>
      obtain ⟨ht, hl⟩ := reach_eq_ok_iff.mp hr
      cases he : files.entry? place with
      | none => simp [bind, Except.bind, ht, hl, he, pure, Except.pure, eq_comm]
      | some entry => simp [bind, Except.bind, hl, he, throw, throwThe, MonadExceptOf.throw]

/-- A directory cannot be created where the path does not lead or where something is already, or in
trouble. -/
theorem makeDirectory_eq_error (h : files.makeDirectory path = .error fault)
    : files.locate path = .error fault ∨ files.Troubles path fault
      ∨ fault = .exists
        ∧ ∃ place entry, files.locate path = .ok place ∧ files.entry? place = some entry := by
  unfold makeDirectory at h
  cases hr : files.reach (.makeDirectory path) path with
  | error blocking =>
      obtain rfl : blocking = fault := by simpa [hr, bind, Except.bind] using h
      exact (reach_eq_error rfl hr).imp_right .inl
  | ok place =>
      cases he : files.entry? place with
      | none => simp [hr, he, bind, Except.bind, pure, Except.pure] at h
      | some entry =>
          refine .inr (.inr ⟨?_, place, entry, (reach_eq_ok_iff.mp hr).2, he⟩)
          simpa [hr, he, bind, Except.bind, throw, throwThe, MonadExceptOf.throw, eq_comm] using h

/-- A file can be created or emptied where the path leads and no directory stands, unless there is
trouble. -/
theorem create_eq_ok_iff
    : files.create path = .ok place
      ↔ files.trouble? (.creating path) = none ∧ files.locate path = .ok place
        ∧ files.entry? place ≠ some .directory := by
  unfold create
  cases hr : files.reach (.creating path) path with
  | error fault =>
      refine iff_of_false (by simp [bind, Except.bind]) ?_
      rintro ⟨ht, hl, -⟩
      exact nomatch hr.symm.trans (reach_eq_ok_iff.mpr ⟨ht, hl⟩)
  | ok there =>
      obtain ⟨ht, hl⟩ := reach_eq_ok_iff.mp hr
      by_cases he : files.entry? there = some .directory
      · refine iff_of_false
          (by simp [bind, Except.bind, he, throw, throwThe, MonadExceptOf.throw]) ?_
        rintro ⟨-, hl', he'⟩
        exact he' (Except.ok.inj (hl.symm.trans hl') ▸ he)
      · simp only [bind, Except.bind, he, if_false, pure, Except.pure, Except.ok.injEq, ht, hl,
          true_and]
        exact ⟨fun h => ⟨h, h ▸ he⟩, fun h => h.1⟩

/-- A file cannot be created where the path does not lead or where a directory stands, or
in trouble. -/
theorem create_eq_error (h : files.create path = .error fault)
    : files.locate path = .error fault ∨ files.Troubles path fault
      ∨ fault = .isDirectory
        ∧ ∃ place, files.locate path = .ok place ∧ files.entry? place = some .directory := by
  unfold create at h
  cases hr : files.reach (.creating path) path with
  | error blocking =>
      obtain rfl : blocking = fault := by simpa [hr, bind, Except.bind] using h
      exact (reach_eq_error rfl hr).imp_right .inl
  | ok place =>
      by_cases he : files.entry? place = some .directory
      · refine .inr (.inr ⟨?_, place, (reach_eq_ok_iff.mp hr).2, he⟩)
        simpa [hr, he, bind, Except.bind, throw, throwThe, MonadExceptOf.throw, eq_comm] using h
      · simp [hr, he, bind, Except.bind, pure, Except.pure] at h

/-- A place is filled with the whole content, or in trouble with what comes in front. -/
theorem fill_cases (files : FileSystem) (place : FileLocation) (path : Path)
    (content : List UInt8)
    : files.fill place path content = (none, files.put place (.file content))
      ∨ ∃ error passed, files.fill place path content
          = (some error, files.put place (.file (content.take passed)))
        ∧ files.Troubles path error.fault := by
  unfold fill
  cases ht : (files.put place (.file [])).trouble? (.writing path content) with
  | none => exact .inl rfl
  | some trouble =>
      exact .inr ⟨_, trouble.passed, rfl, (troubles_of_trouble? rfl ht).of_trouble_eq rfl⟩

-----------------------------------------------------------------------------------------
-- Runs of the calls
-----------------------------------------------------------------------------------------

/-- Asking changes nothing. -/
theorem run_leadsTo (kind : FileKind) (path : Path) (files : FileSystem)
    : (FileAccess.leadsTo kind path : StateM FileSystem _).run files
      = (files.leadsTo kind path, files) := by
  have hstatus : (FileAccess.status path : StateM FileSystem _).run files
      = (files.status path, files) := rfl
  simp only [FileAccess.leadsTo, StateM.run_bind, hstatus, FileSystem.leadsTo]
  cases files.status path <;> rfl

/-- Reading changes nothing. -/
theorem run_read (path : Path) (files : FileSystem)
    : (FileAccess.read path : StateM FileSystem _).run files = (files.read path, files) := by
  simp only [FileAccess.read, StateM.run_bind, run_leadsTo, FileSystem.read]
  rcases files.leadsTo .file path with error | (_ | _) <;> rfl

/-- A directory is created, or all stays as it is. -/
theorem run_makeDirectory (path : Path) (files : FileSystem)
    : (FileAccess.makeDirectory path : StateM FileSystem _).run files
      = match files.makeDirectory path with
        | .ok made => (none, made)
        | .error fault => (some fault, files) :=
  rfl

end FileSystem

end DeviceScript
