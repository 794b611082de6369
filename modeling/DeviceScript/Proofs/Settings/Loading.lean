import DeviceScript.Proofs.Files.Storing
import DeviceScript.Settings.Layered

/-! Loading of settings. Project files are read and never written, so the settings are a function of
the explicit values and of the files.
-/

namespace DeviceScript.Settings

variable (library : Library)

/-- The settings under explicit values, with the project files of a file system. -/
def loaded (overrides : Overrides) (files : FileSystem) : Except LoadFault Settings :=
  ((load overrides library : StateM FileSystem _).run files).1

/-- The place of a directory, or what keeps the system from telling it. -/
def resolved (start : Path) (files : FileSystem) : Except FileError FileLocation :=
  match obstacle? (if start.isAbsolute then .root else .working) [] start.names with
  | some error => .error error
  | none =>
    if start.isAbsolute then .ok (FileLocation.ofPath [] start)
    else files.workingDirectory.map fun working => FileLocation.ofPath working start

/-- The search for a place only asks for the working directory. -/
theorem run_resolve_of_working {σ : Type} [FileAccess (StateM σ)] {state : σ} {files : FileSystem}
    (hworking : (FileAccess.working : StateM σ _).run state = (files.workingDirectory, state))
    (start : Path)
    : (resolve start : StateM σ _).run state = (resolved start files, state) := by
  simp only [resolve, resolved]
  cases obstacle? (if start.isAbsolute then .root else .working) [] start.names with
  | some error => rfl
  | none =>
      by_cases habsolute : start.isAbsolute
      · simp only [if_pos habsolute]
        rfl
      · simp only [if_neg habsolute]
        exact congrArg (fun told => (told.1.map fun working => FileLocation.ofPath working start,
          told.2)) hworking

/-- The search for a place changes no file. -/
theorem run_resolve (start : Path) (files : FileSystem)
    : (resolve start : StateM FileSystem _).run files = (resolved start files, files) :=
  run_resolve_of_working rfl start

/-- The search for a project file changes no file, by induction over the places. -/
theorem run_findLayer (places : List FileLocation) (files : FileSystem)
    : ((findLayer library places : StateM FileSystem _).run files).2 = files := by
  induction places with
  | nil => rfl
  | cons place places ih =>
      simp only [findLayer, StateM.run_bind, FileSystem.run_read]
      split
      · rfl
      · exact ih
      · split
        · rfl
        · exact ih
        · rfl

/-- Loading changes no file. -/
theorem run_load (overrides : Overrides) (files : FileSystem)
    : (load overrides library : StateM FileSystem _).run files
      = (loaded library overrides files, files) := by
  refine Prod.ext rfl ?_
  simp only [load, StateM.run_bind, run_resolve]
  split
  · rfl
  · exact run_findLayer library _ files

end DeviceScript.Settings
