/-! Lists of values under keys, in the order in which the keys first came. -/

namespace DeviceScript.Keyed

variable {κ α : Type} [DecidableEq κ]

/-- Enters a value under a key; a key that is there already keeps its place. -/
def put (key : κ) (value : α) : List (κ × α) → List (κ × α)
  | [] => [(key, value)]
  | entry :: entries =>
    if entry.1 = key then (key, value) :: entries else entry :: put key value entries

/-- Enters several values, of which the last for a key holds. -/
def putAll (entries extras : List (κ × α)) : List (κ × α) :=
  extras.foldl (fun entries extra => put extra.1 extra.2 entries) entries

variable [BEq κ] [LawfulBEq κ]

/-- What is put under a key is found there. -/
theorem lookup_put_self (key : κ) (value : α) (entries : List (κ × α))
    : (put key value entries).lookup key = some value := by
  induction entries with
  | nil => simp [put]
  | cons entry entries ih =>
      obtain ⟨name, item⟩ := entry
      by_cases h : name = key
      · simp [put, h]
      · simp [put, h, List.lookup_cons, ih, beq_false_of_ne (Ne.symm h)]

/-- What is found under another key stays as it is. -/
theorem lookup_put_of_ne {key other : κ} (h : other ≠ key) (value : α) (entries : List (κ × α))
    : (put key value entries).lookup other = entries.lookup other := by
  induction entries with
  | nil => simp [put, List.lookup_cons, beq_false_of_ne h]
  | cons entry entries ih =>
      obtain ⟨name, item⟩ := entry
      by_cases hk : name = key
      · subst hk
        simp [put, List.lookup_cons, beq_false_of_ne h]
      · simp [put, hk, List.lookup_cons, ih]

end DeviceScript.Keyed
