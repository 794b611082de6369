import DeviceScript.Proofs.Files.Frame
import DeviceScript.Proofs.Text.Joining

/-! Where paths lead. A path leads somewhere exactly if the system can be asked about it and every
place on the way holds a directory.
-/

namespace DeviceScript

namespace FileLocation

/-- The places at which one stands before each of some names, the first of them first. -/
def way (start : FileLocation) : List Text → List FileLocation
  | [] => []
  | name :: names => start :: way (follow start [name]) names

/-- The places on the way to a path, without the place of the path itself. -/
def wayTo (working : FileLocation) (path : Path) : List FileLocation :=
  way (if path.isAbsolute then [] else working) path.names

/-- The way along one more name has the place behind the others at its end. -/
theorem way_concat (start : FileLocation) (names : List Text) (name : Text)
    : way start (names ++ [name]) = way start names ++ [follow start names] := by
  induction names generalizing start with
  | nil => rfl
  | cons head tail ih => exact congrArg (start :: ·) (ih (follow start [head]))

end FileLocation

namespace Path

variable {path : Path} {anchor : Anchor} {names : List Text} {name : Text}

/-- A check that slashes and points fail holds inside a path where it holds inside a name. -/
theorem any_text {check : CodePoint → Bool} (hslash : check '/' = false) (hpoint : check '.' = false)
    : path.text.any check = path.names.any fun name => name.any check := by
  have hanchor : path.anchor.text.any check = false := by
    cases path.anchor with
    | working => rfl
    | root | doubleRoot => simp [Anchor.text, Text.ofString, hslash]
  have hseparator : (Text.ofString "/").any check = false := by simp [Text.ofString, hslash]
  unfold text
  split
  · rename_i h
    simp [h.2, Text.ofString, hpoint]
  · rw [List.any_append, hanchor, Bool.false_or]
    exact Text.any_join hseparator path.names

/-- Tells whether the system can be asked about a path with a point in it. -/
def isSpelled (point : CodePoint) : Bool :=
  !(point.between 0xD800 0xDFFF && !standsForByte point) && point.value ≠ 0

/-- A path has no fault if all of its names can be spelled. -/
theorem fault?_eq_none_iff : path.fault? = none ↔ ∀ name ∈ path.names, name.all isSpelled := by
  unfold fault?
  rw [any_text (by decide) (by decide), any_text (by decide) (by decide)]
  simp only [List.all_eq_true, isSpelled]
  grind

/-- The bytes of joined texts are those of the texts and of the separators. -/
theorem byteCount_append (left right : Text)
    : byteCount (left ++ right) = byteCount left + byteCount right := by
  unfold byteCount
  rw [List.map_append]
  exact List.sum_append

/-- A path about which the system can be asked: it can be spelled in bytes, and it is not
too long. -/
structure IsSayable (path : Path) : Prop where
  spelled : path.fault? = none
  length : byteCount path.text ≤ FileSystem.pathLimit
  names : ∀ name ∈ path.names, byteCount name ≤ FileSystem.nameLimit

/-- The written form of a directory is no longer than that of what is in it. -/
theorem length_above
    (h : byteCount (text ⟨anchor, names ++ [name]⟩) ≤ FileSystem.pathLimit)
    : byteCount (text ⟨anchor, names⟩) ≤ FileSystem.pathLimit := by
  by_cases hpoint : anchor = .working ∧ names = []
  -- The working directory is written as a single point.
  · rw [text, if_pos hpoint]
    decide
  · rw [text, if_neg fun hn => List.concat_ne_nil name names hn.2] at h
    rw [text, if_neg hpoint]
    simp only [byteCount_append] at h ⊢
    by_cases hn : names = []
    · subst hn
      exact Nat.le_trans (Nat.le_add_right _ _) h
    · rw [Text.join_concat _ _ hn, byteCount_append] at h
      omega

/-- A path whose names are among those of a path without a fault has none either. -/
theorem spelled_of_subset {other : Path} (h : path.fault? = none)
    (hs : other.names ⊆ path.names) : other.fault? = none :=
  fault?_eq_none_iff.mpr fun _ hm => fault?_eq_none_iff.mp h _ (hs hm)

/-- With a path, the system can be asked about the directory that it is in. -/
theorem IsSayable.above (h : IsSayable ⟨anchor, names ++ [name]⟩) : IsSayable ⟨anchor, names⟩ where
  spelled := spelled_of_subset h.spelled (List.subset_append_left _ _)
  length := length_above h.length
  names _ hm := h.names _ (List.mem_append_left _ hm)

/-- A path with names is its parent and its last name. -/
theorem eq_concat (h : path.names ≠ [])
    : path = ⟨path.anchor, path.parent.names ++ [path.names.getLast h]⟩ := by
  rw [parent, List.dropLast_concat_getLast]

end Path

namespace FileSystem

variable {before after files : FileSystem} {start place : FileLocation} {names : List Text}
  {places : List FileLocation} {path : Path} {fault : FileFault}

/-- Nothing blocks the way at a directory, and only there. -/
theorem blocked?_eq_none_iff
    : files.blocked? place = none ↔ files.entry? place = some .directory := by
  unfold blocked?
  split <;> simp_all

/-- Names lead on exactly where every place on their way holds a directory, by induction over the
names. -/
theorem walk_eq_ok_iff
    : files.walk start names = .ok place
      ↔ (∀ name ∈ names, Path.byteCount name ≤ nameLimit)
        ∧ (∀ passed ∈ FileLocation.way start names, files.entry? passed = some .directory)
        ∧ place = FileLocation.follow start names := by
  induction names generalizing start with
  | nil => simp [walk, FileLocation.way, FileLocation.follow, eq_comm]
  | cons name names ih =>
      have hfollow : FileLocation.follow start (name :: names)
          = FileLocation.follow (FileLocation.follow start [name]) names := rfl
      -- The first name is followed from a directory, the others from where it leads.
      rw [walk, FileLocation.way, List.forall_mem_cons, List.forall_mem_cons, hfollow,
        ← blocked?_eq_none_iff]
      cases files.blocked? start with
      | some fault => simp
      | none =>
          by_cases hlong : nameLimit < Path.byteCount name
          · simp [hlong, Nat.not_le.mpr hlong]
          · simp [hlong, Nat.le_of_not_lt hlong, ih]

/-- Where no file stands on the way and no name is too long, only a directory can be missing. -/
theorem walk_error (hshort : ∀ name ∈ names, Path.byteCount name ≤ nameLimit)
    (hway : ∀ passed ∈ FileLocation.way start names, ∀ content,
      files.entry? passed ≠ some (.file content))
    (h : files.walk start names = .error fault) : fault = .missing := by
  induction names generalizing start with
  | nil => exact absurd h nofun
  | cons name names ih =>
      rw [List.forall_mem_cons] at hshort
      rw [FileLocation.way, List.forall_mem_cons] at hway
      rw [walk, blocked?] at h
      cases he : files.entry? start with
      | none => simpa [he, eq_comm] using h
      | some entry =>
          cases entry with
          | file content => exact absurd he (hway.1 content)
          | directory =>
              simp only [he, Nat.not_lt.mpr hshort.1, if_false] at h
              exact ih hshort.2 hway.2 h

/-- A path is located exactly if it can be said and each place on its way is a directory. -/
theorem locate_eq_ok_iff
    : files.locate path = .ok place
      ↔ path.IsSayable
        ∧ (∀ passed ∈ FileLocation.wayTo files.working path, files.entry? passed = some .directory)
        ∧ place = FileLocation.ofPath files.working path := by
  unfold locate
  cases hf : path.fault? with
  | some fault => exact iff_of_false nofun fun h => nomatch hf.symm.trans h.1.spelled
  | none =>
      by_cases hlong : pathLimit < Path.byteCount path.text
      · exact iff_of_false (by simp [hlong]) fun h => Nat.not_lt.mpr h.1.length hlong
      · simp only [hlong, if_false, walk_eq_ok_iff]
        constructor
        · rintro ⟨hshort, hway, hplace⟩
          exact ⟨⟨hf, Nat.le_of_not_lt hlong, hshort⟩, hway, hplace⟩
        · rintro ⟨hsay, hway, hplace⟩
          exact ⟨hsay.names, hway, hplace⟩

/-- Where the system can be asked about a path, and no file stands on the way, only a directory can
be missing. -/
theorem locate_error (hsay : path.IsSayable)
    (hway : ∀ passed ∈ FileLocation.wayTo files.working path, ∀ content,
      files.entry? passed ≠ some (.file content))
    (h : files.locate path = .error fault) : fault = .missing := by
  rw [locate, hsay.spelled] at h
  simp only [Nat.not_lt.mpr hsay.length, if_false] at h
  exact walk_error hsay.names hway h

/-- Whatever stops a walk is a fault of the system. -/
theorem isOfSystem_of_walk_error (h : files.walk start names = .error fault)
    : fault.isOfSystem = true := by
  induction names generalizing start with
  | nil => exact absurd h nofun
  | cons name names ih =>
      rw [walk, blocked?] at h
      split at h
      · rename_i blocking hb
        obtain rfl := Except.error.inj h
        split at hb <;> cases hb <;> rfl
      · split at h
        · obtain rfl := Except.error.inj h
          rfl
        · exact ih h

/-- What keeps a path from leading on is a fault of the system, unless the path cannot
be spelled. -/
theorem isOfSystem_of_locate_error (hspell : path.fault? = none)
    (h : files.locate path = .error fault) : fault.isOfSystem = true := by
  rw [locate, hspell] at h
  simp only at h
  split at h
  · obtain rfl := Except.error.inj h
    rfl
  · exact isOfSystem_of_walk_error h

/-- Where names do not lead on, there is nothing at a path, unless one of them is too long. -/
theorem nameTooLong_of_walk_error (ha : fault.isAbsence = false)
    (h : files.walk start names = .error fault) : fault = .nameTooLong := by
  induction names generalizing start with
  | nil => exact absurd h nofun
  | cons name names ih =>
      rw [walk, blocked?] at h
      split at h
      · rename_i blocking hb
        obtain rfl := Except.error.inj h
        split at hb <;> cases hb <;> exact absurd ha (by decide)
      · split at h
        · exact (Except.error.inj h).symm
        · exact ih h

/-- Where a path does not lead on, there is nothing, unless the path or a name is too long. -/
theorem nameTooLong_of_locate_error (ha : fault.isAbsence = false)
    (h : files.locate path = .error fault) : fault = .nameTooLong := by
  unfold locate at h
  cases hf : path.fault? with
  | some unspelled =>
      rw [hf] at h
      obtain rfl := Except.error.inj h
      unfold Path.fault? at hf
      split at hf
      · cases hf
        exact absurd ha (by decide)
      · split at hf <;> cases hf
        exact absurd ha (by decide)
  | none =>
      rw [hf] at h
      simp only at h
      split at h
      · exact (Except.error.inj h).symm
      · exact nameTooLong_of_walk_error ha h

/-- New directories leave the places where they are to which paths led. -/
theorem Extends.locate (h : Extends places before after) (hl : before.locate path = .ok place)
    : after.locate path = .ok place := by
  rw [locate_eq_ok_iff, h.working] at *
  exact ⟨hl.1, fun passed hm => h.directory (hl.2.1 passed hm), hl.2.2⟩

end FileSystem

end DeviceScript
