import DeviceScript.Proofs.Settings.Search
import DeviceScript.Proofs.Settings.Typed

/-! Settings come from the nearest section. Directories without a project file and project files
without the section are passed over, and whatever lies behind the first section is not even read.
-/

namespace DeviceScript.Settings

variable {library : Library} {overrides : Overrides} {files : FileSystem}
  {nearer farther : List FileLocation} {here place near : FileLocation}
  {entries : List (Text × Datum)} {values : SectionValues}

/-- Says of a directory that it has a project file, with a table in it. -/
def HasProject (library : Library) (files : FileSystem) (place : FileLocation)
    (table : List (Text × Datum)) : Prop :=
  ∃ content text, files.read (projectFile place) = .ok (some content)
    ∧ Utf8.decode content = .ok text ∧ library.read text = .ok table

/-- Says of a directory that it has no project file, or one without the section. -/
inductive LacksSection (library : Library) (files : FileSystem) (place : FileLocation) : Prop where
  | noFile (h : files.read (projectFile place) = .ok none)
  | noTools {table : List (Text × Datum)} (hp : HasProject library files place table)
    (h : table.lookup ("tool" : Text) = none)
  | noSection {table tools : List (Text × Datum)} (hp : HasProject library files place table)
    (ht : table.lookup ("tool" : Text) = some (.table tools))
    (h : tools.lookup ("ts2cpp" : Text) = none)

/-- Says of a directory that its project file has the section, with some entries. -/
def HasSection (library : Library) (files : FileSystem) (place : FileLocation)
    (entries : List (Text × Datum)) : Prop :=
  ∃ table tools, HasProject library files place table
    ∧ table.lookup ("tool" : Text) = some (.table tools)
    ∧ tools.lookup ("ts2cpp" : Text) = some (.table entries)

/-- Says of a directory that its project file is a text, but no document. -/
def IsMalformed (library : Library) (files : FileSystem) (place : FileLocation) (reason : Text)
    : Prop :=
  ∃ content text, files.read (projectFile place) = .ok (some content)
    ∧ Utf8.decode content = .ok text ∧ library.read text = .error (.malformed reason)

/-- A project file with a table says what its section is. -/
theorem sectionAt_of_project {table : List (Text × Datum)}
    (h : HasProject library files place table)
    : sectionAt library files place
      = match table.lookup ("tool" : Text) with
        | none => .ok none
        | some (.table tools) => .ok (tools.lookup ("ts2cpp" : Text))
        | some value => .error (.misuse (.noAttribute value)) := by
  obtain ⟨content, text, hread, hdecode, htoml⟩ := h
  simp only [sectionAt, hread, sectionOf, hdecode, Except.mapError, bind, Except.bind, htoml]
  rfl

/-- A project file for which the reader fails says why. -/
theorem sectionAt_of_failure {content : List UInt8} {text : Text} {failure : Toml.Failure}
    (hread : files.read (projectFile place) = .ok (some content))
    (hdecode : Utf8.decode content = .ok text) (hfail : library.read text = .error failure)
    : sectionAt library files place
      = .error (LoadFault.ofFailure (projectFile place) failure) := by
  simp only [sectionAt, hread, sectionOf, hdecode, Except.mapError, bind, Except.bind, hfail]

/-- The search goes on behind a directory without the section. -/
theorem LacksSection.isSilent (h : LacksSection library files place)
    : IsSilent library files place := by
  cases h with
  | noFile h => simp only [IsSilent, sectionAt, h]
  | noTools hp h => simp only [IsSilent, sectionAt_of_project hp, h]
  | noSection hp ht h => simp only [IsSilent, sectionAt_of_project hp, ht, h]

/-- A project file that is no document says so. -/
theorem sectionAt_of_malformed {reason : Text} (h : IsMalformed library files place reason)
    : sectionAt library files place = .error (.malformed (projectFile place) reason) := by
  obtain ⟨content, text, hread, hdecode, hfail⟩ := h
  exact sectionAt_of_failure hread hdecode hfail

/-- All that a directory can have to say in the search. -/
inductive Says (library : Library) (files : FileSystem) (place : FileLocation)
    : Except LoadFault (Option Datum) → Prop where
  | lacks (h : LacksSection library files place) : Says library files place (.ok none)
  | values {table tools : List (Text × Datum)} {values : Datum}
    (hp : HasProject library files place table)
    (ht : table.lookup ("tool" : Text) = some (.table tools))
    (hs : tools.lookup ("ts2cpp" : Text) = some values)
    : Says library files place (.ok (some values))
  | malformed {reason : Text} (h : IsMalformed library files place reason)
    : Says library files place (.error (.malformed (projectFile place) reason))
  | abandoned {content : List UInt8} {text reason : Text}
    (hr : files.read (projectFile place) = .ok (some content))
    (hd : Utf8.decode content = .ok text) (ha : library.read text = .error (.abandoned reason))
    : Says library files place (.error (.abandoned reason))
  | unreachable {error : FileError} (h : files.read (projectFile place) = .error error)
    : Says library files place (.error (.unreachable error))
  | undecodable {content : List UInt8} {malformed : Utf8.Malformed}
    (hr : files.read (projectFile place) = .ok (some content))
    (hd : Utf8.decode content = .error malformed)
    : Says library files place (.error (.undecodable content malformed))
  | tools {table : List (Text × Datum)} {value : Datum}
    (hp : HasProject library files place table)
    (hl : table.lookup ("tool" : Text) = some value) (hv : ∀ tools, value ≠ .table tools)
    : Says library files place (.error (.misuse (.noAttribute value)))

/-- A directory has one of these things to say. -/
theorem says_sectionAt (library : Library) (files : FileSystem) (place : FileLocation)
    : Says library files place (sectionAt library files place) := by
  cases hread : files.read (projectFile place) with
  | error error =>
      simp only [sectionAt, hread]
      exact .unreachable hread
  | ok content? =>
      cases content? with
      | none =>
          simp only [sectionAt, hread]
          exact .lacks (.noFile hread)
      | some content =>
          cases hdecode : Utf8.decode content with
          | error malformed =>
              simp only [sectionAt, hread, sectionOf, hdecode, Except.mapError, bind, Except.bind]
              exact .undecodable hread hdecode
          | ok text =>
              cases hfail : library.read text with
              | error failure =>
                  rw [sectionAt_of_failure hread hdecode hfail]
                  cases failure with
                  | malformed reason => exact .malformed ⟨content, text, hread, hdecode, hfail⟩
                  | abandoned reason => exact .abandoned hread hdecode hfail
              | ok table =>
                  have hp : HasProject library files place table :=
                    ⟨content, text, hread, hdecode, hfail⟩
                  rw [sectionAt_of_project hp]
                  split
                  · exact .lacks (.noTools hp ‹_›)
                  · rename_i tools ht
                    cases hs : tools.lookup ("ts2cpp" : Text) with
                    | none => exact .lacks (.noSection hp ht hs)
                    | some values => exact .values hp ht hs
                  · exact .tools hp ‹_› ‹_›

/-- A silent directory has no section. -/
theorem lacksSection_of_isSilent (h : IsSilent library files place)
    : LacksSection library files place := by
  have hsays := says_sectionAt library files place
  rw [IsSilent] at h
  rw [h] at hsays
  cases hsays
  assumption

/-- A directory with the section has its entries to say. -/
theorem sectionAt_of_section (h : HasSection library files place entries)
    : sectionAt library files place = .ok (some (.table entries)) := by
  obtain ⟨table, tools, hp, ht, hs⟩ := h
  simp only [sectionAt_of_project hp, ht, hs]

/-- A document that cannot be read ends the search, by induction over the directories in front of
it. -/
theorem firstLayer_of_malformed (farther : List FileLocation) {reason : Text}
    (hnearer : ∀ near ∈ nearer,
      LacksSection library files near ∨ ∃ reason, IsMalformed library files near reason)
    (hplace : IsMalformed library files place reason)
    : ∃ first ∈ nearer ++ [place], ∃ reason, IsMalformed library files first reason
      ∧ firstLayer library files (nearer ++ place :: farther)
        = .error (.malformed (projectFile first) reason) := by
  induction nearer with
  | nil =>
      refine ⟨place, List.mem_singleton_self place, reason, hplace, ?_⟩
      rw [List.nil_append, firstLayer, sectionAt_of_malformed hplace]
  | cons near nearer ih =>
      rw [List.forall_mem_cons] at hnearer
      rcases hnearer.1 with hlacks | ⟨reason, hnear⟩
      · obtain ⟨first, hm, reason, hfirst, hlayer⟩ := ih hnearer.2
        have hsilent : sectionAt library files near = .ok none := hlacks.isSilent
        refine ⟨first, List.mem_cons_of_mem near hm, reason, hfirst, ?_⟩
        rw [List.cons_append, firstLayer, hsilent]
        exact hlayer
      · refine ⟨near, List.mem_cons_self, reason, hnear, ?_⟩
        rw [List.cons_append, firstLayer, sectionAt_of_malformed hnear]

/-- From a start that is known, what is loaded comes from the first layer on the way up. -/
theorem loaded_of_start (hstart : resolved (overrides.start.getD "") files = .ok here)
    : loaded library overrides files
      = (firstLayer library files here.ancestry).bind (ofLayer library overrides) := by
  rw [loaded_eq, found, hstart]

/-- The nearest section makes the settings, together with explicit values. -/
theorem loaded_of_section (hlawful : library.validation.Lawful)
    (hstart : resolved (overrides.start.getD "") files = .ok here)
    (hway : here.ancestry = nearer ++ place :: farther)
    (hnearer : ∀ near ∈ nearer, LacksSection library files near)
    (hplace : HasSection library files place entries) (hfill : values.Fill entries)
    : (choice overrides place.toPath values).IsLoaded library.validation
        (loaded library overrides files) := by
  have hloaded : loaded library overrides files
      = ofLayer library overrides ⟨.table entries, some place.toPath⟩ := by
    rw [loaded_of_start hstart, hway, firstLayer_append fun near hm => (hnearer near hm).isSilent,
      firstLayer, sectionAt_of_section hplace]
    rfl
  rw [hloaded]
  exact isLoaded_ofLayer ⟨.table entries, some place.toPath⟩ hlawful rfl hfill

/-- The directories that are asked end with the first one that has the section. -/
theorem asked_of_section (hnearer : ∀ near ∈ nearer, LacksSection library files near)
    (hplace : HasSection library files place entries)
    : asked library files (nearer ++ place :: farther) = nearer ++ [place] := by
  rw [asked_append fun near hm => (hnearer near hm).isSilent, asked, sectionAt_of_section hplace]

/-- Without a section there are the explicit values and the defaults. -/
theorem loaded_of_none (hlawful : library.validation.Lawful)
    (hstart : resolved (overrides.start.getD "") files = .ok here)
    (hall : ∀ place ∈ here.ancestry, LacksSection library files place)
    : (choice overrides "" {}).IsLoaded library.validation (loaded library overrides files) := by
  have hlayer := firstLayer_append (fun place hm => (hall place hm).isSilent) []
  have hloaded : loaded library overrides files = ofLayer library overrides {} := by
    rw [loaded_of_start hstart, ← List.append_nil here.ancestry, hlayer]
    rfl
  rw [hloaded]
  exact isLoaded_ofLayer {} hlawful rfl ⟨rfl, rfl, rfl, rfl, rfl, rfl, nofun⟩

/-- The nearest section alone makes the settings. Nothing behind it is looked at, and only a project
file in front of it can be complained about. -/
theorem loaded_nearest (library : Library) (hlawful : library.validation.Lawful)
    (overrides : Overrides) (files : FileSystem) (here : FileLocation)
    (hstart : resolved (overrides.start.getD "") files = .ok here)
    : (∀ nearer place farther entries values,
        here.ancestry = nearer ++ place :: farther
        → (∀ near ∈ nearer, LacksSection library files near)
        → HasSection library files place entries
        → values.Fill entries
        → (choice overrides place.toPath values).IsLoaded library.validation
            (loaded library overrides files)
          ∧ ∃ opened, opened.Sublist ((nearer ++ [place]).map projectFile)
            ∧ (load overrides library : StateM ReadLog _).run { files }
              = (loaded library overrides files,
                { files, seen := (nearer ++ [place]).map projectFile, opened }))
      ∧ (∀ nearer place farther reason,
        here.ancestry = nearer ++ place :: farther
        → (∀ near ∈ nearer,
          LacksSection library files near ∨ ∃ reason, IsMalformed library files near reason)
        → IsMalformed library files place reason
        → ∃ first ∈ nearer ++ [place], ∃ reason, IsMalformed library files first reason
          ∧ loaded library overrides files = .error (.malformed (projectFile first) reason))
      ∧ ((∀ place ∈ here.ancestry, LacksSection library files place)
        → (choice overrides "" {}).IsLoaded library.validation (loaded library overrides files)
          ∧ ∀ settings, loaded library overrides files = .ok settings
            → settings.IsDefault overrides) := by
  refine ⟨?_, ?_, ?_⟩
  · intro nearer place farther entries values hway hnearer hplace hfill
    refine ⟨loaded_of_section hlawful hstart hway hnearer hplace hfill, ?_⟩
    have hreads := load_reads library hstart
    rwa [hway, asked_of_section hnearer hplace] at hreads
  · intro nearer place farther reason hway hnearer hplace
    obtain ⟨first, hm, reason, hfirst, hlayer⟩ :=
      firstLayer_of_malformed farther hnearer hplace
    refine ⟨first, hm, reason, hfirst, ?_⟩
    rw [loaded_of_start hstart, hway, hlayer]
    rfl
  · intro hall
    have hloaded := loaded_of_none hlawful hstart hall
    refine ⟨hloaded, fun settings h => ?_⟩
    rw [hloaded.eq_settings h]
    exact isDefault_choice overrides ""

/-- Two directories, one in the other, below a project file that is no document. -/
def nested : FileSystem where
  entries :=
    [([("pyproject.toml" : Text)], .file (contentOf "[tool")),
      ([("home" : Text)], .directory),
      ([("home" : Text), ("pyproject.toml" : Text)],
        .file (contentOf "[tool.ts2cpp]\ninput_path = 'a.ts'\noutput_path = '/b.cpp'")),
      ([("home" : Text), ("app" : Text)], .directory),
      ([("home" : Text), ("app" : Text), ("pyproject.toml" : Text)],
        .file (contentOf "[project]\nreleased = 2024-01-01"))]
  working := [("home" : Text), ("app" : Text)]

/-- The outer directory has the section. -/
theorem hasSection_nested
    : HasSection {} nested [("home" : Text)]
        [("input_path", .text "a.ts"), ("output_path", .text "/b.cpp")] :=
  ⟨_, _, ⟨contentOf "[tool.ts2cpp]\ninput_path = 'a.ts'\noutput_path = '/b.cpp'",
    "[tool.ts2cpp]\ninput_path = 'a.ts'\noutput_path = '/b.cpp'", rfl, rfl, rfl⟩, rfl, rfl⟩

/-- The inner directory has a document with a date in it, and without the section. -/
theorem lacksSection_nested : LacksSection {} nested [("home" : Text), ("app" : Text)] := by
  let released : Day := ⟨2024, 1, 1⟩
  have hproject : HasProject {} nested [("home" : Text), ("app" : Text)]
      [("project", .table [("released", .moment (.day released))])] :=
    ⟨contentOf "[project]\nreleased = 2024-01-01", "[project]\nreleased = 2024-01-01",
      rfl, rfl, rfl⟩
  exact .noTools hproject rfl

/-- The section of the outer directory is found, and the file behind it, which is no document, does
no harm. -/
theorem loaded_nested
    : loaded {} {} nested = .ok { inputPath := "/home/a.ts", outputPath := "/b.cpp" }
      ∧ ((load {} : StateM ReadLog _).run { files := nested }).2.seen
        = [("/home/app/pyproject.toml" : Path), ("/home/pyproject.toml" : Path)] := by
  obtain ⟨hloaded, opened, _, hreads⟩ :=
    (loaded_nearest {} Validation.standard_lawful {} nested [("home" : Text), ("app" : Text)] rfl).1
      [[("home" : Text), ("app" : Text)]] [("home" : Text)] [[]] _
      ⟨some "a.ts", some "/b.cpp", none, none, none, none⟩ rfl
      (List.forall_mem_singleton.mpr lacksSection_nested) hasSection_nested
      ⟨rfl, rfl, rfl, rfl, rfl, rfl, nofun⟩
  refine ⟨hloaded.accepted ⟨rfl, by decide, by decide, by decide, nofun⟩, ?_⟩
  exact congrArg (fun loading => loading.2.seen) hreads

end DeviceScript.Settings
