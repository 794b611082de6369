import DeviceScript.Proofs.Files.Calls

/-! Storing of files. The directories on the way to a file are created first, as far as they are
missing, so a file can be stored wherever neither a file stands on the way nor a directory at its
place.
-/

namespace DeviceScript

namespace FileSystem

open FileAccess (ensureDirectory ensureNames ensureDirectories store)

variable {before after files made : FileSystem} {place : FileLocation} {path : Path}
  {fault : FileFault} {content : List UInt8}

/-- A directory is provided as soon as it is created, or is told to be there already. -/
theorem run_ensureDirectory (path : Path) (files : FileSystem)
    : (ensureDirectory path : StateM FileSystem _).run files
      = match files.makeDirectory path with
        | .ok made => (none, made)
        | .error fault =>
          (if fault = .missing then some { fault, path }
            else match files.leadsTo .directory path with
              | .error error => some error
              | .ok true => none
              | .ok false => some { fault, path }, files) := by
  simp only [ensureDirectory, StateM.run_bind, run_makeDirectory]
  cases files.makeDirectory path with
  | ok made => rfl
  | error fault =>
      by_cases hf : fault = .missing
      · simp only [hf, if_true, StateM.run_pure]
      · simp only [hf, if_false, StateM.run_bind, run_leadsTo]
        rcases files.leadsTo .directory path with error | (_ | _) <;> rfl

/-- What keeps a directory from being provided: the path does not lead there, a file is there, or
there is trouble. Then nothing has changed. -/
theorem ensureDirectory_eq_some {error : FileError}
    (h : ((ensureDirectory path : StateM FileSystem _).run files).1 = some error)
    : ((ensureDirectory path : StateM FileSystem _).run files).2 = files
      ∧ (files.locate path = .error error.fault ∨ files.Troubles path error.fault
        ∨ error.fault = .exists
          ∧ ∃ place content, files.locate path = .ok place
            ∧ files.entry? place = some (.file content)) := by
  rw [run_ensureDirectory] at h ⊢
  cases hm : files.makeDirectory path with
  | ok made => simp [hm] at h
  | error fault =>
      refine ⟨rfl, ?_⟩
      simp only [hm] at h
      have hmade := makeDirectory_eq_error hm
      by_cases hmissing : fault = .missing
      · obtain rfl : { fault, path } = error := by simpa [hmissing] using h
        refine hmade.imp_right (Or.imp_right fun hexists => ?_)
        exact nomatch hmissing.symm.trans hexists.1
      · rw [if_neg hmissing] at h
        cases hleads : files.leadsTo .directory path with
        | error refusal =>
            obtain rfl : refusal = error := by simpa [hleads] using h
            rcases leadsTo_eq_error hleads with ⟨rfl, hl⟩ | ht
            · exact .inl hl
            · exact .inr (.inl ht)
        | ok isThere =>
            cases isThere with
            | true => simp [hleads] at h
            | false =>
                obtain rfl : { fault, path } = error := by simpa [hleads] using h
                refine hmade.imp_right (Or.imp_right ?_)
                rintro ⟨hexists, place, entry, hl, he⟩
                refine ⟨hexists, place, ?_⟩
                cases entry with
                | file content => exact ⟨content, hl, he⟩
                | directory =>
                    refine absurd rfl (not_kind_of_leadsTo hleads .directory ?_)
                    rw [find?, hl]
                    exact he

/-- A directory that is provided is found. -/
theorem extends_ensureDirectory (path : Path) (files : FileSystem)
    : Extends [FileLocation.ofPath files.working path] files
          ((ensureDirectory path : StateM FileSystem _).run files).2
        ∧ (((ensureDirectory path : StateM FileSystem _).run files).1 = none
          → ((ensureDirectory path : StateM FileSystem _).run files).2.find? path
            = some .directory) := by
  rw [run_ensureDirectory]
  cases hm : files.makeDirectory path with
  | ok made =>
      obtain ⟨_, place, hl, he, rfl⟩ := makeDirectory_eq_ok_iff.mp hm
      obtain rfl := (locate_eq_ok_iff.mp hl).2.2
      have hextends := extends_put_directory he
      refine ⟨hextends, fun _ => ?_⟩
      rw [find?, hextends.locate hl]
      have hvacant : files.entry? (FileLocation.ofPath files.working path) ≠ some .directory := by
        rw [he]
        exact (Option.some_ne_none _).symm
      exact entry_put_self (ne_root_of_vacant hvacant) .directory
  | error fault =>
      refine ⟨Extends.refl _ files, fun hn => ?_⟩
      by_cases hmissing : fault = .missing
      · simp [hmissing] at hn
      · cases hleads : files.leadsTo .directory path with
        | error refusal => simp [hmissing, hleads] at hn
        | ok isThere =>
            cases isThere with
            | false => simp [hmissing, hleads] at hn
            | true =>
                obtain ⟨entry, hf, hk⟩ := kind_of_leadsTo hleads
                cases entry with
                | directory => exact hf
                | file content => cases hk

-----------------------------------------------------------------------------------------
-- Providing a directory leaves nothing behind but directories on its way
-----------------------------------------------------------------------------------------

/-- What an attempt to provide a directory may leave behind: new directories at some places, and a
fault of the system if it failed at a path that can be spelled. -/
structure Prepared (places : List FileLocation) (path : Path) (before : FileSystem)
    (outcome : Option FileError × FileSystem) : Prop where
  extended : Extends places before outcome.2
  found : outcome.1 = none → outcome.2.find? path = some .directory
  ofSystem : path.fault? = none → ∀ error ∈ outcome.1, error.fault.isOfSystem = true

/-- One attempt at a directory leaves at most that directory behind. -/
theorem prepared_ensureDirectory (path : Path) (files : FileSystem)
    : Prepared [FileLocation.ofPath files.working path] path files
        ((ensureDirectory path : StateM FileSystem _).run files) where
  extended := (extends_ensureDirectory path files).1
  found := (extends_ensureDirectory path files).2
  ofSystem hspell error hm := by
    rcases (ensureDirectory_eq_some hm).2 with hl | ht | ⟨he, _⟩
    · exact isOfSystem_of_locate_error hspell hl
    · exact ht.isOfSystem
    · rw [he]
      rfl

/-- A directory that is missing with those above it comes into being after them. -/
theorem run_ensureNames_cons (anchor : Path.Anchor) (name : Text) (above : List Text)
    (files : FileSystem)
    : (ensureNames anchor (name :: above) : StateM FileSystem _).run files
      = let path : Path := ⟨anchor, above.reverse ++ [name]⟩
        let first := (ensureDirectory path : StateM FileSystem _).run files
        if ∃ error ∈ first.1, error.fault = .missing then
          let between := (ensureNames anchor above : StateM FileSystem _).run first.2
          if between.1 = none then (ensureDirectory path : StateM FileSystem _).run between.2
          else between
        else first := by
  simp only [ensureNames, List.reverse_cons, StateM.run_bind]
  rcases (ensureDirectory ⟨anchor, above.reverse ++ [name]⟩ : StateM FileSystem _).run files
    with ⟨_ | error, first⟩
  · rw [if_neg (by simp)]
    rfl
  · by_cases hf : error.fault = .missing
    · simp only [hf, ne_eq, not_true_eq_false, if_false, StateM.run_bind, Option.mem_some_iff,
        exists_eq_left', if_true]
      rcases (ensureNames anchor above : StateM FileSystem _).run first with ⟨_ | _, _⟩ <;> rfl
    · rw [if_neg (by simpa using hf)]
      simp only [ne_eq, hf, not_false_eq_true, if_true, StateM.run_pure]

/-- The places on the way to a path, and its own. -/
def placesOf (files : FileSystem) (path : Path) : List FileLocation :=
  FileLocation.wayTo files.working path ++ [FileLocation.ofPath files.working path]

/-- The places on the way to a path stay where they are when files are added. -/
theorem Extends.placesOf {places : List FileLocation} (h : Extends places before after)
    (path : Path) : after.placesOf path = before.placesOf path := by
  rw [FileSystem.placesOf, h.working]
  rfl

/-- The way to a path with one more name passes the places of the path without it. -/
theorem wayTo_concat (files : FileSystem) (anchor : Path.Anchor) (names : List Text)
    (name : Text)
    : FileLocation.wayTo files.working ⟨anchor, names ++ [name]⟩
      = files.placesOf ⟨anchor, names⟩ :=
  FileLocation.way_concat _ names name

/-- An attempt at a directory can come behind other attempts at places on the same way. -/
theorem prepared_after {places : List FileLocation} (h : Extends places before after)
    (hplaces : places ⊆ before.placesOf path)
    : Prepared (before.placesOf path) path before
        ((ensureDirectory path : StateM FileSystem _).run after) := by
  have hdirectory := prepared_ensureDirectory path after
  rw [h.working] at hdirectory
  exact {
    extended := (h.mono hplaces).trans
      (hdirectory.extended.mono (List.subset_append_right _ _))
    found := hdirectory.found
    ofSystem := hdirectory.ofSystem }

/-- Nothing comes into being but directories at the places of a path, by induction over the names,
the last of them first. -/
theorem prepared_ensureNames (anchor : Path.Anchor) (names : List Text) (files : FileSystem)
    : Prepared (files.placesOf ⟨anchor, names.reverse⟩) ⟨anchor, names.reverse⟩ files
        ((ensureNames anchor names : StateM FileSystem _).run files) := by
  induction names generalizing files with
  | nil => exact prepared_after (Extends.refl [] files) (List.nil_subset _)
  | cons name above ih =>
      let path : Path := ⟨anchor, above.reverse ++ [name]⟩
      let first := (ensureDirectory path : StateM FileSystem _).run files
      let between := (ensureNames anchor above : StateM FileSystem _).run first.2
      have hfirst : Prepared (files.placesOf path) path files first :=
        prepared_after (Extends.refl [] files) (List.nil_subset _)
      have habove := ih first.2
      rw [hfirst.extended.placesOf] at habove
      have hbetween : Extends (files.placesOf path) files between.2 := by
        refine hfirst.extended.trans (habove.extended.mono ?_)
        rw [← files.wayTo_concat anchor above.reverse name]
        exact List.subset_append_left _ _
      rw [run_ensureNames_cons, List.reverse_cons]
      dsimp only
      split
      · split
        -- The second attempt at the directory comes behind those at the directories above it.
        · exact prepared_after hbetween (List.Subset.refl _)
        · rename_i hfailed
          refine ⟨hbetween, fun hnone => absurd hnone hfailed, fun hspell => ?_⟩
          exact habove.ofSystem (Path.spelled_of_subset hspell (List.subset_append_left _ _))
      · exact hfirst

-----------------------------------------------------------------------------------------
-- A directory can be provided wherever no file is in the way
-----------------------------------------------------------------------------------------

/-- A path at which a file can be stored: the system can be asked about it, no file stands on the
way, and its own place neither holds a directory nor lies on the way itself. -/
structure IsOpen (files : FileSystem) (path : Path) : Prop where
  sayable : path.IsSayable
  named : path.names ≠ []
  passable : ∀ place ∈ FileLocation.wayTo files.working path, ∀ content,
    files.entry? place ≠ some (.file content)
  apart : FileLocation.ofPath files.working path ∉ FileLocation.wayTo files.working path
  vacant : files.entry? (FileLocation.ofPath files.working path) ≠ some .directory

/-- Where a path leads on to no file, only trouble keeps a directory from being provided. -/
theorem ensureDirectory_troubles {error : FileError} (hl : files.locate path = .ok place)
    (hp : ∀ content, files.entry? place ≠ some (.file content))
    (h : ((ensureDirectory path : StateM FileSystem _).run files).1 = some error)
    : files.Troubles path error.fault := by
  rcases (ensureDirectory_eq_some h).2 with hl' | ht | ⟨_, place', content, hl', he⟩
  · exact nomatch hl.symm.trans hl'
  · exact ht
  · obtain rfl := Except.ok.inj (hl.symm.trans hl')
    exact absurd he (hp content)

/-- The places of a path are those on the way to it and its own. -/
theorem mem_placesOf {other : FileLocation}
    : other ∈ files.placesOf path
      ↔ other ∈ FileLocation.wayTo files.working path
        ∨ other = FileLocation.ofPath files.working path := by
  rw [placesOf, List.mem_append, List.mem_singleton]

/-- All places of a directory that is found are directories. -/
theorem directory_of_find? (h : files.find? path = some .directory)
    : path.IsSayable ∧ ∀ place ∈ files.placesOf path, files.entry? place = some .directory := by
  unfold find? at h
  cases hl : files.locate path with
  | error fault => simp [hl] at h
  | ok place =>
      simp only [hl] at h
      obtain ⟨hsay, hway, rfl⟩ := locate_eq_ok_iff.mp hl
      refine ⟨hsay, fun other hm => ?_⟩
      rcases mem_placesOf.mp hm with hm | rfl
      · exact hway other hm
      · exact h

/-- Where no file stands on the way or at its place, only trouble keeps a directory from being
provided, by induction over the names, the last of them first. -/
theorem ensureNames_troubles (anchor : Path.Anchor) (names : List Text) (files : FileSystem)
    (hsay : Path.IsSayable ⟨anchor, names.reverse⟩)
    (hpass : ∀ place ∈ files.placesOf ⟨anchor, names.reverse⟩, ∀ content,
      files.entry? place ≠ some (.file content))
    : ∀ error ∈ ((ensureNames anchor names : StateM FileSystem _).run files).1,
        files.Troubles ⟨anchor, names.reverse⟩ error.fault := by
  induction names generalizing files with
  | nil =>
      intro error
      refine ensureDirectory_troubles (locate_eq_ok_iff.mpr ⟨hsay, nofun, rfl⟩) ?_
      exact hpass _ (List.mem_append_right _ (List.mem_singleton_self _))
  | cons name above ih =>
      rw [List.reverse_cons] at hsay hpass ⊢
      have hway : ∀ place ∈ files.placesOf ⟨anchor, above.reverse⟩, ∀ content,
          files.entry? place ≠ some (.file content) := by
        rw [← files.wayTo_concat anchor above.reverse name]
        exact fun place hm => hpass place (mem_placesOf.mpr (.inl hm))
      let path : Path := ⟨anchor, above.reverse ++ [name]⟩
      have habove : Path.IsAbove ⟨anchor, above.reverse⟩ path := ⟨rfl, List.prefix_append _ _⟩
      have hpath := hpass _ (mem_placesOf.mpr (.inr rfl))
      rw [run_ensureNames_cons]
      dsimp only
      split
      · rename_i hmissing
        obtain ⟨missing, hfirst, hm⟩ := hmissing
        obtain ⟨hunchanged, hcause⟩ := ensureDirectory_eq_some hfirst
        rw [hunchanged]
        have hprepared := prepared_ensureNames anchor above files
        split
        -- Behind the directories above it, the directory has its place free.
        · rename_i hnone
          have hdirectories := (directory_of_find? (hprepared.found hnone)).2
          rw [← FileSystem.wayTo_concat _ anchor above.reverse name] at hdirectories
          intro error herror
          refine (ensureDirectory_troubles (locate_eq_ok_iff.mpr ⟨hsay, hdirectories, rfl⟩) ?_
            herror).of_trouble_eq hprepared.extended.trouble
          intro content hf
          rw [hprepared.extended.working] at hf
          exact hpath content ((hprepared.extended.sameFiles _ content).mp hf)
        · exact fun error herror => (ih files hsay.above hway error herror).below habove
      · rename_i hpresent
        intro error herror
        rcases (ensureDirectory_eq_some herror).2 with hl | ht | ⟨_, place, content, hl, he⟩
        · have hmissing := locate_error hsay
            (fun place hm => hpass _ (mem_placesOf.mpr (.inl hm))) hl
          exact absurd ⟨error, herror, hmissing⟩ hpresent
        · exact ht
        · obtain rfl := (locate_eq_ok_iff.mp hl).2.2
          exact absurd he (hpath content)

-----------------------------------------------------------------------------------------
-- A file is stored where a directory can be provided
-----------------------------------------------------------------------------------------

/-- How storing a content at a path ends: where the path is open, it leads to the content
afterwards, and everywhere else all files stay as they were. In trouble it may end before the file
is touched, or with no more than the front of the content in it. -/
inductive Stored (path : Path) (content : List UInt8) (before : FileSystem)
    : Option FileError → FileSystem → Prop where
  | written {after : FileSystem} (isOpen : before.IsOpen path)
      (written : Written path content before after)
      : Stored path content before none after
  | refused {after : FileSystem} {error : FileError}
      (cause : ¬before.IsOpen path ∨ before.Troubles path error.fault)
      (sameFiles : before.SameFiles after)
      (ofSystem : path.fault? = none → error.fault.isOfSystem = true)
      : Stored path content before (some error) after
  | brokenOff {after : FileSystem} {error : FileError} {passed : Nat}
      (isOpen : before.IsOpen path)
      (trouble : before.Troubles path error.fault)
      (written : Written path (content.take passed) before after)
      : Stored path content before (some error) after

/-- Storing writes into the file once its directory is there. -/
theorem run_store (path : Path) (content : List UInt8) (files : FileSystem)
    : (store path content : StateM FileSystem _).run files
      = let prepared := (ensureDirectories path.parent : StateM FileSystem _).run files
        if prepared.1 = none then prepared.2.write path content else prepared := by
  simp only [store, StateM.run_bind]
  rcases (ensureDirectories path.parent : StateM FileSystem _).run files with ⟨_ | error, made⟩ <;>
    rfl

/-- A file that is written where paths lead stands there, and no other place changes. -/
theorem written_put (content : List UInt8) (hl : files.locate path = .ok place)
    (hp : place ∉ FileLocation.wayTo files.working path)
    (hv : files.entry? place ≠ some .directory)
    : Written path content files (files.put place (.file content)) := by
  have hroot : place ≠ [] := ne_root_of_vacant hv
  obtain ⟨hsay, hway, hplace⟩ := locate_eq_ok_iff.mp hl
  have hlocate : (files.put place (.file content)).locate path = .ok place := by
    refine locate_eq_ok_iff.mpr ⟨hsay, fun passed hm => ?_, hplace⟩
    rw [entry_put_of_ne fun (he : passed = place) => hp (he ▸ hm)]
    exact hway passed hm
  refine ⟨?_, fun other ho content' => ?_⟩
  · rw [find?, hlocate]
    exact entry_put_self hroot (.file content)
  · rw [entry_put_of_ne (hplace ▸ ho)]

/-- What an attempt at a directory and those above it leaves behind. -/
theorem prepared_ensureDirectories (path : Path) (files : FileSystem)
    : Prepared (files.placesOf path) path files
        ((ensureDirectories path : StateM FileSystem _).run files) := by
  have hnames := prepared_ensureNames path.anchor path.names.reverse files
  rwa [List.reverse_reverse] at hnames

/-- The way to a path ends at its directory. -/
theorem wayTo_eq_placesOf (files : FileSystem) (h : path.names ≠ [])
    : FileLocation.wayTo files.working path = files.placesOf path.parent := by
  have hconcat := files.wayTo_concat path.anchor path.parent.names (path.names.getLast h)
  rwa [← Path.eq_concat h] at hconcat

namespace IsOpen

variable (h : files.IsOpen path)
include h

/-- Only trouble keeps the directory of an open path from being provided. -/
theorem ensureDirectories_troubles
    : ∀ error ∈ ((ensureDirectories path.parent : StateM FileSystem _).run files).1,
        files.Troubles path error.fault := by
  have hsay := h.sayable
  have hway := h.passable
  rw [Path.eq_concat h.named] at hsay
  rw [files.wayTo_eq_placesOf h.named] at hway
  have hnames := ensureNames_troubles path.parent.anchor path.parent.names.reverse files
  rw [List.reverse_reverse] at hnames
  exact fun error hm => (hnames hsay.above hway error hm).below (.parent path)

/-- An open path can be written to as soon as the directory it is in is there, unless there is
trouble. -/
theorem create_troubles (hp : Prepared (files.placesOf path.parent) path.parent files (none, made))
    (hc : made.create path = .error fault)
    : files.Troubles path fault := by
  have hworking : made.working = files.working := hp.extended.working
  have hdirectories := (directory_of_find? (hp.found rfl)).2
  rw [← made.wayTo_eq_placesOf h.named] at hdirectories
  have hlocate := locate_eq_ok_iff.mpr ⟨h.sayable, hdirectories, rfl⟩
  rcases create_eq_error hc with hl | ht | ⟨rfl, place, hl, hd⟩
  · exact nomatch hlocate.symm.trans hl
  · exact ht.of_trouble_eq hp.extended.trouble
  · obtain rfl := Except.ok.inj (hlocate.symm.trans hl)
    rw [hworking] at hd
    -- Of the new directories none is at the place of the path, which lies apart from its way.
    rcases hp.extended.entry (FileLocation.ofPath files.working path) with he | ⟨hm, _, _⟩
    · exact absurd (he.symm.trans hd) h.vacant
    · exact absurd (files.wayTo_eq_placesOf h.named ▸ hm) h.apart

end IsOpen

/-- Where writing succeeds behind the preparation of a directory, the path was open before. -/
theorem isOpen_of_create (hp : Prepared (files.placesOf path.parent) path.parent files (none, made))
    (hl : made.locate path = .ok place) (hv : made.entry? place ≠ some .directory)
    : files.IsOpen path := by
  have hworking : made.working = files.working := hp.extended.working
  have hfound := hp.found rfl
  obtain ⟨hsay, hway, rfl⟩ := locate_eq_ok_iff.mp hl
  rw [hworking] at hway hv
  exact {
    sayable := hsay
    named := by
      intro hn
      -- A path without names is in itself, and then it leads to a directory.
      have hparent : path.parent = path := by
        rw [Path.parent, hn, List.dropLast_nil, ← hn]
      rw [hparent, find?, hl, hworking] at hfound
      exact hv hfound
    passable := fun passed hm content hf =>
      nomatch ((hp.extended.sameFiles passed content).mpr hf).symm.trans (hway passed hm)
    apart := fun hm => hv (hway _ hm)
    vacant := fun hd => hv (hp.extended.directory hd) }

/-- New directories on the way to a file are no change of files. -/
theorem Written.behind {places : List FileLocation} (h : Written path content made after)
    (he : Extends places files made) : Written path content files after where
  found := h.found
  elsewhere other ho content' := by
    rw [h.elsewhere other (he.working ▸ ho) content']
    exact he.sameFiles other content'

/-- A file is stored exactly at an open path, unless there is trouble. Otherwise all files stay as
they were, but for the one that may have been begun, and the system tells why, unless the path
cannot even be spelled. -/
theorem stored (path : Path) (content : List UInt8) (files : FileSystem)
    : Stored path content files ((store path content : StateM FileSystem _).run files).1
        ((store path content : StateM FileSystem _).run files).2 := by
  have hp := prepared_ensureDirectories path.parent files
  have hopen (h : files.IsOpen path) := h.ensureDirectories_troubles
  have hparent (hspell : path.fault? = none) : path.parent.fault? = none :=
    Path.spelled_of_subset hspell (List.dropLast_subset _)
  rw [run_store]
  generalize (ensureDirectories path.parent : StateM FileSystem _).run files = prepared
    at hp hopen ⊢
  obtain ⟨failure, made⟩ := prepared
  cases failure with
  | some error =>
      refine .refused ?_ hp.extended.sameFiles fun hspell => hp.ofSystem (hparent hspell) error rfl
      exact Classical.or_iff_not_imp_left.mpr fun h => hopen (not_not.mp h) error rfl
  | none =>
      simp only [if_true, write]
      cases hc : made.create path with
      | error fault =>
          refine .refused ?_ hp.extended.sameFiles fun hspell => ?_
          · exact Classical.or_iff_not_imp_left.mpr fun h => (not_not.mp h).create_troubles hp hc
          · rcases create_eq_error hc with hl | ht | ⟨rfl, _⟩
            · exact isOfSystem_of_locate_error hspell hl
            · exact ht.isOfSystem
            · rfl
      | ok place =>
          obtain ⟨_, hl, hv⟩ := create_eq_ok_iff.mp hc
          have hway := (locate_eq_ok_iff.mp hl).2.1
          have hisOpen := isOpen_of_create hp hl hv
          have hput (content : List UInt8) :=
            (written_put content hl (fun hm => hv (hway _ hm)) hv).behind hp.extended
          rcases made.fill_cases place path content with hfill | ⟨error, passed, hfill, htrouble⟩
          · simp only [hfill]
            exact .written hisOpen (hput content)
          · simp only [hfill]
            exact .brokenOff hisOpen (htrouble.of_trouble_eq hp.extended.trouble) (hput _)

end FileSystem

end DeviceScript
