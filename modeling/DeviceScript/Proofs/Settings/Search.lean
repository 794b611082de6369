import DeviceScript.Proofs.Settings.Loading

/-! The search for the section of a project file. Directories are asked one after the other, the
nearest first, until one does not stay silent, and that one decides alone.
-/

namespace DeviceScript

/-- Files, the paths that were looked at, and those of the files that were opened to read them, the
first of them first. -/
structure ReadLog where
  files : FileSystem
  seen : List Path := []
  opened : List Path := []

namespace ReadLog

/-- An action on the files that is neither looking nor reading. -/
def onFiles {α : Type} (action : StateM FileSystem α) : StateM ReadLog α := fun log =>
  let (value, files) := action.run log.files
  (value, { log with files })

instance : FileAccess (StateM ReadLog) where
  working := onFiles FileAccess.working
  status path := fun log => (log.files.status path, { log with seen := log.seen ++ [path] })
  content path := fun log => (log.files.content path, { log with opened := log.opened ++ [path] })
  makeDirectory path := onFiles (FileAccess.makeDirectory path)
  write path content := onFiles (FileAccess.write path content)

/-- Reading looks at a path, and opens it if it leads to a file. -/
theorem run_read (path : Path) (log : ReadLog)
    : ∃ opened, opened.Sublist [path]
      ∧ (FileAccess.read path : StateM ReadLog _).run log
        = (log.files.read path,
          { log with seen := log.seen ++ [path], opened := log.opened ++ opened }) := by
  have hstatus : (FileAccess.status path : StateM ReadLog _).run log
      = (log.files.status path, { log with seen := log.seen ++ [path] }) := rfl
  simp only [FileAccess.read, FileAccess.leadsTo, StateM.run_bind, hstatus, FileSystem.read,
    FileSystem.leadsTo]
  cases log.files.status path with
  | error fault =>
      refine ⟨[], List.nil_sublist _, ?_⟩
      rw [List.append_nil]
      cases hf : fault.isAbsence <;> simp only [hf, StateM.run_pure] <;> rfl
  | ok kind =>
      cases kind with
      | directory =>
          refine ⟨[], List.nil_sublist _, ?_⟩
          rw [List.append_nil]
          rfl
      | file => exact ⟨[path], List.Sublist.refl _, rfl⟩

end ReadLog

namespace Settings

variable (library : Library)

/-- A text of ASCII characters as the content of a file. -/
def contentOf (text : String) : List UInt8 := text.toList.map fun char => UInt8.ofNat char.toNat

/-- Where a directory has its project file. -/
def projectFile (place : FileLocation) : Path := place.toPath.join "pyproject.toml"

/-- What one directory has to say in the search. -/
def sectionAt (files : FileSystem) (place : FileLocation) : Except LoadFault (Option Datum) :=
  match files.read (projectFile place) with
  | .error error => .error (.unreachable error)
  | .ok none => .ok none
  | .ok (some content) => sectionOf library (projectFile place) content

/-- Says of a directory that the search goes on behind it. -/
def IsSilent (files : FileSystem) (place : FileLocation) : Prop :=
  sectionAt library files place = .ok none

/-- The layer that the search finds in some directories. -/
def firstLayer (files : FileSystem) : List FileLocation → Except LoadFault Layer
  | [] => .ok {}
  | place :: places =>
    match sectionAt library files place with
    | .error fault => .error fault
    | .ok none => firstLayer files places
    | .ok (some values) => .ok ⟨values, some place.toPath⟩

/-- The directories that the search asks. -/
def asked (files : FileSystem) : List FileLocation → List FileLocation
  | [] => []
  | place :: places =>
    match sectionAt library files place with
    | .ok none => place :: asked files places
    | _ => [place]

/-- The layer that is found from a start. -/
def found (start : Option Path) (files : FileSystem) : Except LoadFault Layer :=
  match resolved (start.getD "") files with
  | .error error => .error (.unreachable error)
  | .ok place => firstLayer library files place.ancestry

variable {library} {start : Option Path} {files : FileSystem} {nearer : List FileLocation}

/-- The search finds the first layer, by induction over the places. -/
theorem findLayer_eq (places : List FileLocation) (files : FileSystem)
    : ((findLayer library places : StateM FileSystem _).run files).1
      = firstLayer library files places := by
  induction places with
  | nil => rfl
  | cons place places ih =>
      simp only [findLayer, StateM.run_bind, FileSystem.run_read, firstLayer, sectionAt,
        projectFile]
      cases files.read (place.toPath.join "pyproject.toml") with
      | error error => rfl
      | ok content? =>
          cases content? with
          | none => exact ih
          | some content =>
              cases hs : sectionOf library (place.toPath.join "pyproject.toml") content with
              | error fault => simp only [hs, StateM.run_pure]
              | ok values? =>
                  cases values? with
                  | none => simp only [hs, ih]
                  | some values => simp only [hs, StateM.run_pure]

/-- The search looks at the project files of the directories that it asks, and opens no other file,
by induction over the places. -/
theorem findLayer_reads (library : Library) (places : List FileLocation) (log : ReadLog)
    : ∃ opened, opened.Sublist ((asked library log.files places).map projectFile)
      ∧ (findLayer library places : StateM ReadLog _).run log
        = (firstLayer library log.files places,
          { log with
            seen := log.seen ++ (asked library log.files places).map projectFile
            opened := log.opened ++ opened }) := by
  induction places generalizing log with
  | nil =>
      refine ⟨[], List.nil_sublist _, ?_⟩
      simp only [findLayer, firstLayer, asked, StateM.run_pure, List.map_nil, List.append_nil]
  | cons place places ih =>
      obtain ⟨opened, hsub, hread⟩ := log.run_read (projectFile place)
      let next : ReadLog :=
        { log with seen := log.seen ++ [projectFile place], opened := log.opened ++ opened }
      -- Behind a silent directory the search goes on in the others.
      obtain ⟨later, hlater, hrest⟩ := ih next
      have hsilent : (opened ++ later).Sublist
          ((place :: asked library log.files places).map projectFile) := by
        exact hsub.append hlater
      rw [projectFile] at hread
      simp only [findLayer, StateM.run_bind, hread, firstLayer, asked, sectionAt, projectFile]
      cases hcontent : log.files.read (place.toPath.join "pyproject.toml") with
      | error error => exact ⟨opened, hsub, rfl⟩
      | ok content? =>
          cases content? with
          | none =>
              refine ⟨opened ++ later, hsilent, hrest.trans ?_⟩
              simp only [next, projectFile, List.map_cons, List.append_assoc, List.cons_append,
                List.nil_append]
          | some content =>
              cases hs : sectionOf library (place.toPath.join "pyproject.toml") content with
              | error fault =>
                  simp only [hs]
                  exact ⟨opened, hsub, rfl⟩
              | ok values? =>
                  cases values? with
                  | none =>
                      simp only [hs]
                      refine ⟨opened ++ later, hsilent, hrest.trans ?_⟩
                      simp only [next, projectFile, List.map_cons, List.append_assoc,
                        List.cons_append, List.nil_append]
                  | some values =>
                      simp only [hs]
                      exact ⟨opened, hsub, rfl⟩

/-- Silent directories leave the search to the ones behind them. -/
theorem firstLayer_append (h : ∀ near ∈ nearer, IsSilent library files near)
    (places : List FileLocation)
    : firstLayer library files (nearer ++ places) = firstLayer library files places := by
  induction nearer with
  | nil => rfl
  | cons near nearer ih =>
      rw [List.forall_mem_cons] at h
      have hnear : sectionAt library files near = .ok none := h.1
      rw [List.cons_append, firstLayer, hnear]
      exact ih h.2

/-- All silent directories are asked before the ones behind them. -/
theorem asked_append (h : ∀ near ∈ nearer, IsSilent library files near)
    (places : List FileLocation)
    : asked library files (nearer ++ places) = nearer ++ asked library files places := by
  induction nearer with
  | nil => rfl
  | cons near nearer ih =>
      rw [List.forall_mem_cons] at h
      have hnear : sectionAt library files near = .ok none := h.1
      rw [List.cons_append, asked, hnear]
      exact congrArg (near :: ·) (ih h.2)

/-- Either all directories are silent, or there is a first one that is not. -/
theorem silent_or_first (library : Library) (files : FileSystem) (places : List FileLocation)
    : (∀ place ∈ places, IsSilent library files place)
      ∨ ∃ nearer place farther, places = nearer ++ place :: farther
        ∧ (∀ near ∈ nearer, IsSilent library files near) ∧ ¬IsSilent library files place := by
  induction places with
  | nil => exact .inl nofun
  | cons place places ih =>
      by_cases hplace : IsSilent library files place
      · rcases ih with hall | ⟨nearer, first, farther, rfl, hnearer, hfirst⟩
        · exact .inl (List.forall_mem_cons.mpr ⟨hplace, hall⟩)
        · exact .inr ⟨place :: nearer, first, farther, rfl,
            List.forall_mem_cons.mpr ⟨hplace, hnearer⟩, hfirst⟩
      · exact .inr ⟨[], place, places, rfl, nofun, hplace⟩

/-- Reading a section makes no report on values. -/
theorem sectionOf_ne_rejected (path : Path) (content : List UInt8) (rejections : List Rejection)
    : sectionOf library path content ≠ .error (.rejected rejections) := by
  intro h
  unfold sectionOf at h
  cases hdecode : Utf8.decode content with
  | error malformed => simp [hdecode, Except.mapError, bind, Except.bind] at h
  | ok text =>
      cases hread : library.read text with
      | error failure =>
          cases failure <;>
            simp [hdecode, hread, Except.mapError, bind, Except.bind, LoadFault.ofFailure] at h
      | ok table =>
          simp only [hdecode, hread, Except.mapError, bind, Except.bind] at h
          split at h <;> cases h

/-- The search for a section makes no report on values. -/
theorem firstLayer_ne_rejected (places : List FileLocation) (rejections : List Rejection)
    : firstLayer library files places ≠ .error (.rejected rejections) := by
  induction places with
  | nil => exact nofun
  | cons place places ih =>
      unfold firstLayer
      cases hs : sectionAt library files place with
      | error fault =>
          rintro ⟨⟩
          unfold sectionAt at hs
          split at hs
          · cases hs
          · cases hs
          · exact sectionOf_ne_rejected _ _ rejections hs
      | ok values? =>
          cases values? with
          | none => exact ih
          | some values => exact nofun

/-- What is found, or not, is no report on values. -/
theorem found_ne_rejected (start : Option Path) (files : FileSystem) (rejections : List Rejection)
    : found library start files ≠ .error (.rejected rejections) := by
  unfold found
  split
  · exact nofun
  · exact firstLayer_ne_rejected _ rejections

/-- What is loaded comes from the layer that is found. -/
theorem loaded_eq (overrides : Overrides) (files : FileSystem)
    : loaded library overrides files
      = (found library overrides.start files).bind (ofLayer library overrides) := by
  simp only [loaded, load, StateM.run_bind, run_resolve, found]
  cases resolved (overrides.start.getD "") files with
  | error error => rfl
  | ok place =>
      exact congrArg (Except.bind · (ofLayer library overrides)) (findLayer_eq _ files)

/-- Loading looks at the project files of the directories that are asked, and opens no
other file. -/
theorem load_reads (library : Library) {overrides : Overrides} {place : FileLocation}
    (h : resolved (overrides.start.getD "") files = .ok place)
    : ∃ opened, opened.Sublist ((asked library files place.ancestry).map projectFile)
      ∧ (load overrides library : StateM ReadLog _).run { files }
        = (loaded library overrides files,
          { files, seen := (asked library files place.ancestry).map projectFile, opened }) := by
  have hresolve : (resolve (overrides.start.getD "") : StateM ReadLog _).run { files }
      = (resolved (overrides.start.getD "") files, { files }) :=
    run_resolve_of_working rfl _
  rw [h] at hresolve
  obtain ⟨opened, hsub, hfound⟩ := findLayer_reads library place.ancestry { files }
  refine ⟨opened, hsub, ?_⟩
  rw [loaded_eq, found, h]
  simp only [load, StateM.run_bind, hresolve]
  exact congrArg (fun found => (found.1.bind (ofLayer library overrides), found.2)) hfound

end Settings

end DeviceScript
