import DeviceScript.Translation.ShimTable
import Mathlib.Data.Finset.Card
import Mathlib.Data.List.Lex
import Mathlib.Data.List.Perm.Basic

/-! Tables of names with further entries on top. The last entry for a name holds, a name keeps the
place where it first came, and the listing of a table is its entries in the order of their names.
-/

namespace DeviceScript

namespace Keyed

variable {κ α : Type} [DecidableEq κ] [BEq κ] [LawfulBEq κ]

/-- An entry that is put keeps the order of the keys, and a new key goes to the end. -/
theorem keys_put (key : κ) (value : α) (entries : List (κ × α))
    : (put key value entries).map Prod.fst
      = if key ∈ entries.map Prod.fst then entries.map Prod.fst
        else entries.map Prod.fst ++ [key] := by
  induction entries with
  | nil => rfl
  | cons entry entries ih =>
      by_cases h : entry.1 = key
      · simp [put, h]
      · rw [put, if_neg h, List.map_cons, ih, List.map_cons]
        by_cases hm : key ∈ entries.map Prod.fst
        · rw [if_pos hm, if_pos (List.mem_cons_of_mem entry.1 hm)]
        · rw [if_neg hm, if_neg (List.not_mem_cons_of_ne_of_not_mem (Ne.symm h) hm),
            List.cons_append]

/-- Keys that are distinct stay so when an entry is put. -/
theorem nodup_keys_put {entries : List (κ × α)} (h : (entries.map Prod.fst).Nodup) (key : κ)
    (value : α)
    : ((put key value entries).map Prod.fst).Nodup := by
  rw [keys_put]
  split
  · exact h
  · rename_i hm
    refine List.nodup_append.mpr ⟨h, List.nodup_singleton key, ?_⟩
    rintro other ho _ hkey rfl
    exact hm (List.mem_singleton.mp hkey ▸ ho)

/-- Keys that are distinct stay so when entries are put one by one. -/
theorem nodup_keys_putAll {entries : List (κ × α)} (h : (entries.map Prod.fst).Nodup)
    (extras : List (κ × α))
    : ((putAll entries extras).map Prod.fst).Nodup := by
  induction extras generalizing entries with
  | nil => exact h
  | cons extra extras ih => exact ih (nodup_keys_put h extra.1 extra.2)

/-- New keys come behind the others in the order in which they first occur, by induction over what
is entered. -/
theorem keys_putAll (entries extras : List (κ × α))
    : (putAll entries extras).map Prod.fst
      = entries.map Prod.fst
        ++ ((extras.map Prod.fst).filter (· ∉ entries.map Prod.fst)).eraseDups := by
  induction extras generalizing entries with
  | nil => simp [putAll]
  | cons extra extras ih =>
      have hstep : (putAll entries (extra :: extras)).map Prod.fst
          = (putAll (put extra.1 extra.2 entries) extras).map Prod.fst :=
        rfl
      rw [hstep, ih, keys_put, List.map_cons]
      by_cases hm : extra.1 ∈ entries.map Prod.fst
      · rw [if_pos hm, List.filter_cons_of_neg (by simpa using hm)]
      · rw [if_neg hm, List.filter_cons_of_pos (by simpa using hm), List.eraseDups_cons,
          List.append_assoc, List.singleton_append, List.filter_filter]
        -- A key that has been entered counts as known from then on.
        congr 4
        funext key
        by_cases hk : key = extra.1 <;> simp [hk, beq_false_of_ne]

/-- The last value that is entered under a key holds, by induction over what is entered. -/
theorem lookup_putAll (entries extras : List (κ × α)) (key : κ)
    : (putAll entries extras).lookup key
      = (extras.reverse.lookup key).or (entries.lookup key) := by
  induction extras generalizing entries with
  | nil => rfl
  | cons extra extras ih =>
      have hstep : (putAll entries (extra :: extras)).lookup key
          = (putAll (put extra.1 extra.2 entries) extras).lookup key :=
        rfl
      rw [hstep, ih, List.reverse_cons, List.lookup_append, Option.or_assoc]
      congr 1
      by_cases hk : key = extra.1
      · subst hk
        rw [lookup_put_self, List.lookup_cons_self, Option.some_or]
      · rw [lookup_put_of_ne hk, List.lookup_cons, beq_false_of_ne hk]
        rfl

/-- A lookup finds something exactly if the key is there. -/
theorem isSome_lookup_iff {entries : List (κ × α)} {key : κ}
    : (entries.lookup key).isSome ↔ key ∈ entries.map Prod.fst := by
  induction entries with
  | nil => simp
  | cons entry entries ih =>
      by_cases hk : key = entry.1
      · simp [hk]
      · rw [List.lookup_cons, beq_false_of_ne hk, List.map_cons, List.mem_cons, or_iff_right hk]
        exact ih

/-- Where keys are distinct, the entries are exactly what a lookup finds. -/
theorem mem_iff_lookup_of_nodup {entries : List (κ × α)} (h : (entries.map Prod.fst).Nodup)
    {key : κ} {value : α}
    : (key, value) ∈ entries ↔ entries.lookup key = some value := by
  induction entries with
  | nil => simp
  | cons entry entries ih =>
      obtain ⟨hnew, hrest⟩ := List.nodup_cons.mp h
      by_cases hk : key = entry.1
      · subst hk
        have hnot : (entry.1, value) ∉ entries := fun hm =>
          hnew (List.mem_map.mpr ⟨_, hm, rfl⟩)
        rw [List.lookup_cons, beq_self_eq_true, List.mem_cons, or_iff_left hnot, Prod.ext_iff,
          and_iff_right rfl, Option.some.injEq, eq_comm]
      · rw [List.lookup_cons, beq_false_of_ne hk, List.mem_cons,
          or_iff_right fun he => hk (congrArg Prod.fst he)]
        exact ih hrest

end Keyed

/-- A code point is determined by its value. -/
theorem CodePoint.value_injective : Function.Injective value := by
  intro left right h
  cases left with
  | scalar left =>
      cases right with
      | scalar right => exact congrArg _ (Char.ext (UInt32.toNat.inj h))
      | surrogate half =>
          have hvalid := left.valid
          simp only [value, Char.toNat] at h
          simp only [UInt32.isValidChar, Nat.isValidChar] at hvalid
          omega
  | surrogate half =>
      cases right with
      | scalar right =>
          have hvalid := right.valid
          simp only [value, Char.toNat] at h
          simp only [UInt32.isValidChar, Nat.isValidChar] at hvalid
          omega
      | surrogate half' =>
          exact congrArg _ (Fin.ext (Nat.add_left_cancel h))

/-- One text precedes another if its numbers do so, compared from the first one on. -/
theorem Text.precedes_iff {left right : Text}
    : left.precedes right = true ↔ left.map CodePoint.value < right.map CodePoint.value := by
  induction left generalizing right with
  | nil => cases right <;> simp [precedes]
  | cons point left ih =>
      cases right with
      | nil => simp [precedes]
      | cons point' right =>
          simp only [precedes, List.map_cons, List.cons_lt_cons_iff, Bool.or_eq_true,
            Bool.and_eq_true, decide_eq_true_eq, ih]

namespace ShimTable

/-- The listing of entries in the order of their names, each of them once. -/
structure IsListing (entries items : List (Text × Text)) : Prop where
  perm : items.Perm entries
  increasing
    : items.Pairwise fun left right =>
        left.1.map CodePoint.value < right.1.map CodePoint.value

/-- A table consists of another one and further entries on top of it. -/
structure IsOverlay (base : ShimTable) (extras : List (Text × Text)) (table : ShimTable)
    : Prop where
  /-- The last of the further entries for a name holds, and without one that of the base. -/
  lookup
    : ∀ source,
        table.lookup? source = (extras.reverse.lookup source).or (base.lookup? source)
  contains : ∀ source, table.contains source = true ↔ table.lookup? source ≠ none
  member : ∀ source, table.contains source = true ↔ source ∈ table.sources
  entries : ∀ source target, (source, target) ∈ table.entries ↔ table.lookup? source = some target
  /-- New names stand behind those of the base, in the order in which they first occur. -/
  sources
    : table.sources
      = base.sources ++ ((extras.map Prod.fst).filter (· ∉ base.sources)).eraseDups
  size : table.size = (base.sources ++ extras.map Prod.fst).toFinset.card
  items : ∀ list, IsListing table.entries list ↔ list = table.items

variable {base : ShimTable}

/-- The listing of a table goes by name, as the comparison that sorts it is a linear one. -/
theorem pairwise_items (table : ShimTable)
    : table.items.Pairwise fun left right =>
        left.1.map CodePoint.value ≤ right.1.map CodePoint.value := by
  let le (left right : Text × Text) : Bool := !right.1.precedes left.1
  have hle : ∀ left right, le left right = true
      ↔ left.1.map CodePoint.value ≤ right.1.map CodePoint.value := by
    intro left right
    rw [Bool.not_eq_true', ← Bool.not_eq_true, Text.precedes_iff, not_lt]
  have htrans : ∀ first second third, le first second = true → le second third = true
      → le first third = true := by
    intro first second third h h'
    exact (hle first third).mpr (le_trans ((hle first second).mp h) ((hle second third).mp h'))
  have htotal : ∀ left right, (le left right || le right left) = true := by
    intro left right
    rw [Bool.or_eq_true, hle, hle]
    exact le_total _ _
  have hpairwise := List.pairwise_mergeSort htrans htotal table.entries
  exact hpairwise.imp fun {left right} => (hle left right).mp

/-- Names that are all different have one listing: of two different names one precedes the other. -/
theorem isListing_iff {table : ShimTable} (h : table.sources.Nodup) (list : List (Text × Text))
    : IsListing table.entries list ↔ list = table.items := by
  have hperm : table.items.Perm table.entries := List.mergeSort_perm table.entries _
  have hdistinct : table.items.Pairwise fun left right => left.1 ≠ right.1 :=
    List.pairwise_map.mp ((hperm.map Prod.fst).nodup_iff.mpr h)
  have hstrict : table.items.Pairwise fun left right =>
      left.1.map CodePoint.value < right.1.map CodePoint.value := by
    refine ((pairwise_items table).and hdistinct).imp ?_
    rintro left right ⟨hle, hne⟩
    refine lt_of_le_of_ne hle fun he => ?_
    exact hne (List.map_injective_iff.mpr CodePoint.value_injective he)
  constructor
  · intro hlisting
    -- Two lists of the same entries that both increase are one list.
    exact List.Perm.eq_of_pairwise (fun _ _ _ _ h h' => absurd h' (lt_asymm h))
      hlisting.increasing hstrict (hlisting.perm.trans hperm.symm)
  · rintro rfl
    exact ⟨hperm, hstrict⟩

/-- The sources of a table with extras are distinct if those of the table are. -/
theorem nodup_sources_overlay (h : base.sources.Nodup) (extras : List (Text × Text))
    : (base.overlay extras).sources.Nodup :=
  Keyed.nodup_keys_putAll h extras

/-- A table has as many entries as there are different names in it. -/
theorem size_overlay (h : base.sources.Nodup) (extras : List (Text × Text))
    : (base.overlay extras).size = (base.sources ++ extras.map Prod.fst).toFinset.card := by
  have hnames : (base.sources ++ extras.map Prod.fst).toFinset
      = (base.overlay extras).sources.toFinset := by
    ext source
    have hsources : (base.overlay extras).sources = base.sources ++ _ :=
      Keyed.keys_putAll base.entries extras
    rw [hsources]
    simp only [List.mem_toFinset, List.mem_append, List.mem_eraseDups, List.mem_filter,
      decide_eq_true_eq]
    tauto
  rw [hnames, List.toFinset_card_of_nodup (nodup_sources_overlay h extras), sources,
    List.length_map, size]

/-- A table contains a source exactly if the source is listed. -/
theorem contains_iff_mem_sources (table : ShimTable) (source : Text)
    : table.contains source = true ↔ source ∈ table.sources :=
  Keyed.isSome_lookup_iff

/-- The table with extras is the overlay of the extras on the table. -/
theorem isOverlay_overlay (h : base.sources.Nodup) (extras : List (Text × Text))
    : IsOverlay base extras (base.overlay extras) where
  lookup := Keyed.lookup_putAll base.entries extras
  contains _ := Option.isSome_iff_ne_none
  member := contains_iff_mem_sources _
  entries _ _ := Keyed.mem_iff_lookup_of_nodup (nodup_sources_overlay h extras)
  sources := Keyed.keys_putAll base.entries extras
  size := size_overlay h extras
  items := isListing_iff (nodup_sources_overlay h extras)

/-- Any entries on top of the built-in table keep its order: they are found before those of the
table, new names come behind its names, and the listing goes by name. -/
theorem ofExtras_isOverlay (extras : List (Text × Text))
    : IsOverlay builtIn extras (ofExtras extras) := by
  have hnodup : builtIn.sources.Nodup := by decide +kernel
  exact isOverlay_overlay hnodup extras

end ShimTable

end DeviceScript
