import DeviceScript.Proofs.Files.Storing

/-! What storing of one file leaves of the others. Paths lead where they led, because no directory
gives way to a file, so whatever was found at another place is still found there.
-/

namespace DeviceScript.FileSystem

variable {before after files first second third : FileSystem} {place : FileLocation}
  {places : List FileLocation} {path other : Path} {content : List UInt8}

/-- All directories are still there, and relative paths lead from the same one. -/
structure KeepsDirectories (before after : FileSystem) : Prop where
  working : after.working = before.working
  directory : ∀ place, before.entry? place = some .directory → after.entry? place = some .directory

/-- All directories are there where nothing is done. -/
theorem KeepsDirectories.refl (files : FileSystem) : files.KeepsDirectories files :=
  ⟨rfl, fun _ h => h⟩

/-- Keeping directories composes. -/
theorem KeepsDirectories.trans (h : first.KeepsDirectories second)
    (h' : second.KeepsDirectories third)
    : first.KeepsDirectories third where
  working := h'.working.trans h.working
  directory place hd := h'.directory place (h.directory place hd)

/-- New directories are no loss of old ones. -/
theorem Extends.keepsDirectories (h : Extends places before after)
    : before.KeepsDirectories after :=
  ⟨h.working, fun _ hd => h.directory hd⟩

/-- Only an entry in the place of a directory would take one away. -/
theorem keepsDirectories_put (h : files.entry? place ≠ some .directory) (entry : FileEntry)
    : files.KeepsDirectories (files.put place entry) := by
  refine ⟨rfl, fun passed hd => ?_⟩
  have hne : passed ≠ place := by
    rintro rfl
    exact h hd
  exact (entry_put_of_ne hne entry).trans hd

/-- A path leads on as long as the directories on its way are there. -/
theorem KeepsDirectories.locate (h : before.KeepsDirectories after)
    (hl : before.locate path = .ok place)
    : after.locate path = .ok place := by
  obtain ⟨hsay, hway, hplace⟩ := locate_eq_ok_iff.mp hl
  refine locate_eq_ok_iff.mpr ⟨hsay, ?_, ?_⟩ <;> rw [h.working]
  · exact fun passed hm => h.directory passed (hway passed hm)
  · exact hplace

/-- However storing a file ends, all directories stay. -/
theorem keepsDirectories_store (path : Path) (content : List UInt8) (files : FileSystem)
    : files.KeepsDirectories
        ((FileAccess.store path content : StateM FileSystem _).run files).2 := by
  have hprepared := (prepared_ensureDirectories path.parent files).extended.keepsDirectories
  rw [run_store]
  generalize (FileAccess.ensureDirectories path.parent : StateM FileSystem _).run files = prepared
    at hprepared ⊢
  obtain ⟨failure, made⟩ := prepared
  cases failure with
  | some error => exact hprepared
  | none =>
      simp only [if_true, write]
      cases hc : made.create path with
      | error fault => exact hprepared
      | ok place =>
          have hv := (create_eq_ok_iff.mp hc).2.2
          rcases made.fill_cases place path content with hfill | ⟨error, passed, hfill, _⟩
          · simp only [hfill]
            exact hprepared.trans (keepsDirectories_put hv _)
          · simp only [hfill]
            exact hprepared.trans (keepsDirectories_put hv _)

/-- However storing a file ends, no other place comes to hold a file or loses one. -/
theorem file_store_iff (hplace : place ≠ FileLocation.ofPath files.working path)
    (content content' : List UInt8)
    : entry? ((FileAccess.store path content : StateM FileSystem _).run files).2 place
          = some (.file content')
        ↔ files.entry? place = some (.file content') := by
  have hstored := stored path content files
  generalize (FileAccess.store path content : StateM FileSystem _).run files = result at hstored ⊢
  obtain ⟨failure, after⟩ := result
  cases hstored with
  | written _ hwritten => exact hwritten.elsewhere place hplace content'
  | refused _ hsame _ => exact hsame place content'
  | brokenOff _ _ hwritten => exact hwritten.elsewhere place hplace content'

/-- A file is still found behind storing another one. -/
theorem find?_store (hf : files.find? other = some (.file content))
    (hplace : FileLocation.ofPath files.working other ≠ FileLocation.ofPath files.working path)
    (content' : List UInt8)
    : ((FileAccess.store path content' : StateM FileSystem _).run files).2.find? other
      = some (.file content) := by
  unfold find? at hf
  cases hl : files.locate other with
  | error fault =>
      rw [hl] at hf
      exact absurd hf nofun
  | ok place =>
      simp only [hl] at hf
      obtain rfl := (locate_eq_ok_iff.mp hl).2.2
      rw [find?, (keepsDirectories_store path content' files).locate hl]
      exact (file_store_iff hplace content' content).mpr hf

end DeviceScript.FileSystem
