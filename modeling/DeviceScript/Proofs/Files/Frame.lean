import DeviceScript.Files.FileSystem
import Mathlib.Tactic.Common

/-! What access to a file system leaves as it was. Directories may come into being on the way to a
file; a file changes only where one is written, and then nowhere else.
-/

namespace DeviceScript

namespace FileSystem

variable {before after files first second third : FileSystem} {place other : FileLocation}
  {places wider : List FileLocation}

/-- A file system with all that was there before, and perhaps with new directories at
some places. -/
structure Extends (places : List FileLocation) (before after : FileSystem) : Prop where
  working : after.working = before.working
  trouble : after.trouble = before.trouble
  entry : ∀ place, after.entry? place = before.entry? place
    ∨ place ∈ places ∧ before.entry? place = none ∧ after.entry? place = some .directory

/-- The same files with the same contents. -/
def SameFiles (before after : FileSystem) : Prop :=
  ∀ place content,
    after.entry? place = some (.file content) ↔ before.entry? place = some (.file content)

/-- The same files with the same contents, apart from the place of a path, which leads to a file
with the given content. -/
structure Written (path : Path) (content : List UInt8) (before after : FileSystem) : Prop where
  found : after.find? path = some (.file content)
  elsewhere : ∀ place, place ≠ FileLocation.ofPath before.working path → ∀ content,
    after.entry? place = some (.file content) ↔ before.entry? place = some (.file content)

/-- Nothing that is done leaves all files the same. -/
theorem SameFiles.refl (files : FileSystem) : files.SameFiles files := fun _ _ => .rfl

/-- A file system extends itself, by the same entries. -/
theorem Extends.refl (places : List FileLocation) (files : FileSystem)
    : Extends places files files :=
  ⟨rfl, rfl, fun _ => .inl rfl⟩

/-- More places may be allowed for the new directories. -/
theorem Extends.mono (h : Extends places before after) (hw : places ⊆ wider)
    : Extends wider before after :=
  ⟨h.working, h.trouble, fun place => (h.entry place).imp_right (And.imp_left (@hw place))⟩

/-- Extensions compose, because a directory that the first one creates is no longer missing. -/
theorem Extends.trans (h : Extends places first second) (h' : Extends places second third)
    : Extends places first third := by
  refine ⟨h'.working.trans h.working, h'.trouble.trans h.trouble, fun place => ?_⟩
  rcases h'.entry place with he' | ⟨hm, hn, hd⟩
  · exact he' ▸ h.entry place
  · rcases h.entry place with he | ⟨_, _, hd'⟩
    · exact .inr ⟨hm, he ▸ hn, hd⟩
    · exact nomatch hn.symm.trans hd'

/-- New directories are no change of files. -/
theorem Extends.sameFiles (h : Extends places before after) : before.SameFiles after := by
  intro place content
  rcases h.entry place with he | ⟨_, hn, hd⟩
  · rw [he]
  · exact iff_of_false (fun hf => nomatch hd.symm.trans hf) (fun hf => nomatch hn.symm.trans hf)

/-- A directory stays one in an extension. -/
theorem Extends.directory (h : Extends places before after)
    (hd : before.entry? place = some .directory) : after.entry? place = some .directory := by
  rcases h.entry place with he | ⟨_, _, hd'⟩
  · exact he.trans hd
  · exact hd'

/-- An entry stands where it was put, unless that is the root. -/
theorem entry_put_self (h : place ≠ []) (entry : FileEntry)
    : entry? (files.put place entry) place = some entry := by
  rw [FileSystem.entry?, if_neg h]
  exact Keyed.lookup_put_self place entry files.entries

/-- An entry that is put changes no other place. -/
theorem entry_put_of_ne (h : other ≠ place) (entry : FileEntry)
    : entry? (files.put place entry) other = files.entry? other := by
  unfold entry?
  split
  · rfl
  · exact Keyed.lookup_put_of_ne h entry files.entries

/-- The root is always there, so a place where something else stands, or nothing, is not
the root. -/
theorem ne_root_of_vacant (h : files.entry? place ≠ some .directory) : place ≠ [] := by
  rintro rfl
  exact h rfl

/-- A new directory takes no place from a file. -/
theorem extends_put_directory (h : files.entry? place = none)
    : Extends [place] files (files.put place .directory) := by
  have hroot : place ≠ [] := ne_root_of_vacant fun hd => nomatch h.symm.trans hd
  refine ⟨rfl, rfl, fun other => ?_⟩
  by_cases ho : other = place
  · subst ho
    exact .inr ⟨List.mem_singleton_self _, h, entry_put_self hroot .directory⟩
  · exact .inl (entry_put_of_ne ho .directory)

end FileSystem

end DeviceScript
