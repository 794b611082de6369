import DeviceScript.Proofs.Emission.Occurrence

/-! The nodes that emission comes to, each with the way that leads to it. Emission also comes to
what is in a chain that a name replaces as a whole, although nothing of that is written.
-/

namespace DeviceScript

/-- Two tables replace the same dotted names, if not by the same ones. -/
def ShimTable.SameSources (table other : ShimTable) : Prop :=
  ∀ source, (table.lookup? source).isSome = (other.lookup? source).isSome

/-- An occurrence stands somewhere below another one. -/
def Occurrence.IsWithin (inner outer : Occurrence) : Prop :=
  ∃ part rest, inner.path = outer.path ++ part :: rest

/-- What is below an occurrence is so in every part around both of them. -/
theorem Occurrence.isWithin_within (part : Part) {inner outer : Occurrence}
    (h : inner.IsWithin outer)
    : (inner.within part).IsWithin (outer.within part) := by
  obtain ⟨next, rest, h⟩ := h
  exact ⟨next, rest, congrArg (part :: ·) h⟩

namespace Node

/-- The dotted name that is looked up for a node: what an ordinary call calls, or the whole of a
chain that does not end with a property of containers. -/
def soughtName? : Node → Option Text
  | call callee _ _ => if callee.selected?.isNone then callee.dottedName? else none
  | member object (identifier name place) false location =>
    if (Fragment.property? [] name).isNone && !Fragment.isDeferred name then
      (member object (identifier name place) false location).dottedName?
    else none
  | _ => none

/-- The dotted name that is replaced at a node, and the name that replaces it. -/
def substitution? (shims : ShimTable) (node : Node) : Option (Text × Text) :=
  node.soughtName?.bind fun source => (shims.lookup? source).map fun target => (source, target)

/-- Tells whether a name replaces a chain that is not called. -/
def isReplacedChain (shims : ShimTable) : Node → Bool
  | member object property computed location =>
    (member object property computed location).isReplaced shims
  | _ => false

/-- The parts of a node that emission comes to, as often as it writes them. -/
def visitedParts (shims : ShimTable) (node : Node) : List Part :=
  if node.isReplacedChain shims then node.parts.map fun part => { part with copies := 0 }
  else (node.remainingParts shims).filter fun part => part.copies ≠ 0

variable {shims table : ShimTable} {node : Node} {part : Part}

/-- What a name is replaced by is what is found for the name that was looked up. -/
theorem substitution?_target (shims : ShimTable) (node : Node)
    : (node.substitution? shims).map Prod.snd
      = Fragment.replacement? shims node.soughtName? := by
  rw [substitution?]
  cases node.soughtName? with
  | none => rfl
  | some source =>
      rw [Option.bind_some, Option.map_map]
      exact Option.map_id'

/-- A node is replaced where the table has its name. -/
theorem isSome_substitution? (shims : ShimTable) (node : Node)
    : (node.substitution? shims).isSome = node.isReplaced shims := by
  have hlookup : ∀ name : Option Text,
      (name.bind fun source => (shims.lookup? source).map fun target => (source, target)).isSome
        = (Fragment.replacement? shims name).isSome := by
    intro name
    cases name with
    | none => rfl
    | some name => exact Option.isSome_map
  cases node with
  | call callee arguments location =>
      simp only [substitution?, soughtName?, isReplaced, hlookup]
      cases callee.selected? <;> rfl
  | member object property computed location =>
      cases property with
      | identifier name place =>
          cases computed with
          | true => rfl
          | false =>
              simp only [substitution?, soughtName?, isReplaced, hlookup]
              cases (Fragment.property? [] name).isNone && !Fragment.isDeferred name <;> rfl
      | _ => rfl
  | _ => rfl

/-- A node that is replaced has a name and another one that replaces it. -/
theorem exists_substitution (h : node.isReplaced shims = true)
    : ∃ source target, node.substitution? shims = some (source, target) := by
  rw [← isSome_substitution?, Option.isSome_iff_exists] at h
  obtain ⟨⟨source, target⟩, h⟩ := h
  exact ⟨source, target, h⟩

/-- A node that is not replaced has no name that replaces it. -/
theorem substitution?_eq_none (h : node.isReplaced shims = false)
    : node.substitution? shims = none := by
  rw [← isSome_substitution?] at h
  exact Option.not_isSome_iff_eq_none.mp (Bool.eq_false_iff.mp h)

/-- A replaced name is one that was looked up. -/
theorem soughtName?_of_substitution? {source target : Text}
    (h : node.substitution? shims = some (source, target))
    : node.soughtName? = some source ∧ shims.lookup? source = some target := by
  obtain ⟨name, hn, h⟩ := Option.bind_eq_some_iff.mp h
  obtain ⟨found, hf, h⟩ := Option.map_eq_some_iff.mp h
  obtain ⟨rfl, rfl⟩ := Prod.mk.inj h
  exact ⟨hn, hf⟩

/-- A chain that is replaced is a node that is replaced. -/
theorem isReplaced_of_isReplacedChain (h : node.isReplacedChain shims = true)
    : node.isReplaced shims = true := by
  cases node with
  | member object property computed location => exact h
  | _ => cases h

/-- Without a replaced chain, emission comes to the parts that are written. -/
theorem visitedParts_of_not_chain (h : node.isReplacedChain shims = false)
    : node.visitedParts shims
      = (node.remainingParts shims).filter fun part => part.copies ≠ 0 := by
  rw [visitedParts, h, if_neg Bool.false_ne_true]

/-- No part of a chain is left out. -/
theorem copies_ne_zero_of_isReplacedChain (h : node.isReplacedChain shims = true)
    (hm : part ∈ node.parts)
    : part.copies ≠ 0 := by
  cases node with
  | member object property computed location =>
      cases computed with
      | true => cases property <;> cases h
      | false =>
          rw [List.mem_singleton.mp hm]
          exact property.accessCopies_ne_zero
  | _ => cases h

/-- Nothing but the object of a replaced chain is part of it. -/
theorem tail_parts_of_isReplacedChain (h : node.isReplacedChain shims = true)
    : node.parts.tail = [] := by
  cases node with
  | member object property computed location =>
      cases computed with
      | true => cases property <;> cases h
      | false => rfl
  | _ => cases h

/-- What emission comes to is a part that it could write. -/
theorem exists_writtenPart (h : part ∈ node.visitedParts shims)
    : ∃ copies, { part with copies } ∈ node.parts ∧ copies ≠ 0 := by
  unfold visitedParts at h
  split at h
  · rename_i hchain
    obtain ⟨whole, hm, rfl⟩ := List.mem_map.mp h
    exact ⟨whole.copies, hm, copies_ne_zero_of_isReplacedChain hchain hm⟩
  · obtain ⟨hm, hw⟩ := List.mem_filter.mp h
    exact ⟨part.copies, mem_parts_of_remaining hm, of_decide_eq_true hw⟩

/-- What emission comes to is smaller than the node. -/
theorem sizeOf_visitedPart (h : part ∈ node.visitedParts shims)
    : sizeOf part.node < sizeOf node := by
  obtain ⟨copies, hm, _⟩ := exists_writtenPart h
  have hlt := sizeOf_part hm
  exact hlt

/-- What emission comes to is not written exactly if a name replaces the chain that it stands in. -/
theorem copies_visitedPart (h : part ∈ node.visitedParts shims)
    : part.copies = 0 ↔ node.isReplacedChain shims = true := by
  unfold visitedParts at h
  split at h
  · rename_i hchain
    obtain ⟨whole, _, rfl⟩ := List.mem_map.mp h
    exact iff_of_true rfl hchain
  · rename_i hchain
    obtain ⟨_, hw⟩ := List.mem_filter.mp h
    exact iff_of_false (of_decide_eq_true hw) hchain

-----------------------------------------------------------------------------------------
-- What emission comes to, the outer nodes in front of the inner ones
-----------------------------------------------------------------------------------------

/-- The nodes that emission comes to in a node, the outer ones in front of the inner ones. -/
def visited (shims : ShimTable) (node : Node) : List Occurrence :=
  { node, path := [] }
    :: (node.visitedParts shims).attach.flatMap fun part =>
      (visited shims part.1.node).map (Occurrence.within part.1)
termination_by sizeOf node
decreasing_by exact sizeOf_visitedPart part.2

/-- Emission comes to the node itself, and to what it comes to in its parts. -/
theorem visited_eq (shims : ShimTable) (node : Node)
    : node.visited shims
      = { node, path := [] }
          :: (node.visitedParts shims).flatMap fun part =>
            (part.node.visited shims).map (Occurrence.within part) := by
  rw [visited, List.flatMap_subtype, List.unattach_attach]
  exact fun _ _ => rfl

/-- Emission comes to the node itself, or to something in one of its parts. -/
theorem mem_visited {occurrence : Occurrence}
    : occurrence ∈ node.visited shims
      ↔ occurrence = { node, path := [] }
        ∨ ∃ part ∈ node.visitedParts shims, ∃ inner ∈ part.node.visited shims,
            inner.within part = occurrence := by
  rw [visited_eq, List.mem_cons, List.mem_flatMap]
  simp only [List.mem_map]

/-- Emission comes to the node itself. -/
theorem visited_self (shims : ShimTable) (node : Node)
    : { node, path := [] } ∈ node.visited shims :=
  mem_visited.mpr (.inl rfl)

/-- Emission comes to what it comes to in the parts. -/
theorem visited_within (node : Node) {part : Part} (hm : part ∈ node.visitedParts shims)
    {occurrence : Occurrence} (h : occurrence ∈ part.node.visited shims)
    : occurrence.within part ∈ node.visited shims :=
  mem_visited.mpr (.inr ⟨part, hm, occurrence, h, rfl⟩)

/-- Emission comes to the same nodes with another table that replaces the same names, by induction
over the size of the node. -/
theorem visited_congr (h : table.SameSources shims) (node : Node)
    : node.visited table = node.visited shims := by
  have hreplaced : node.isReplaced table = node.isReplaced shims := by
    rw [← isSome_substitution?, ← isSome_substitution?, substitution?, substitution?]
    cases node.soughtName? with
    | none => rfl
    | some source =>
        rw [Option.bind_some, Option.bind_some, Option.isSome_map, Option.isSome_map]
        exact h source
  have hchain : node.isReplacedChain table = node.isReplacedChain shims := by
    cases node with
    | member object property computed location => exact hreplaced
    | _ => rfl
  have hparts : node.visitedParts table = node.visitedParts shims := by
    rw [visitedParts, visitedParts, remainingParts, remainingParts, hchain, hreplaced]
  rw [visited_eq, visited_eq, hparts]
  congr 1
  refine List.flatMap_congr fun part hm => ?_
  have hlt := sizeOf_visitedPart hm
  rw [visited_congr h part.node]
termination_by sizeOf node

/-- Emission comes to what stands below a node in one of the parts of that node, by induction over
the size of the outermost node. -/
theorem visited_below {node : Node} {part : Part} {outer inner : Occurrence}
    (ho : outer ∈ node.visited shims) (hi : inner ∈ node.visited shims) {rest : List Part}
    (h : inner.path = outer.path ++ part :: rest)
    : part ∈ outer.node.visitedParts shims
      ∧ { inner with path := rest } ∈ part.node.visited shims := by
  rcases mem_visited.mp hi with rfl | ⟨first, hfirst, below, hbelow, rfl⟩
  · -- The node itself stands below nothing.
    exact absurd h (by simp)
  · rcases mem_visited.mp ho with rfl | ⟨first', hfirst', above, habove, rfl⟩
    · obtain ⟨rfl, rfl⟩ := List.cons.inj h
      exact ⟨hfirst, hbelow⟩
    · obtain ⟨rfl, hrest⟩ := List.cons.inj h
      have hlt := sizeOf_visitedPart hfirst
      exact visited_below habove hbelow hrest
termination_by sizeOf node

/-- A node that emission comes to is not written exactly if it stands in a longer chain that a name
replaces, by induction over the size of the node in one direction. -/
theorem copies_visited {node : Node} {occurrence : Occurrence}
    (h : occurrence ∈ node.visited shims)
    : occurrence.copies = 0
      ↔ ∃ outer ∈ node.visited shims,
          outer.node.isReplacedChain shims = true ∧ occurrence.IsWithin outer := by
  constructor
  · intro hcopies
    rcases mem_visited.mp h with rfl | ⟨first, hfirst, inner, hinner, rfl⟩
    · exact absurd hcopies Nat.one_ne_zero
    · -- Either the first part on the way is not written, or one behind it.
      rw [Occurrence.copies_within, Nat.mul_eq_zero] at hcopies
      rcases hcopies with hcopies | hcopies
      · have hchain := (copies_visitedPart hfirst).mp hcopies
        exact ⟨_, visited_self shims node, hchain, first, inner.path, rfl⟩
      · have hlt := sizeOf_visitedPart hfirst
        obtain ⟨outer, ho, hchain, hwithin⟩ := (copies_visited hinner).mp hcopies
        exact ⟨outer.within first, visited_within node hfirst ho, hchain,
          Occurrence.isWithin_within first hwithin⟩
  · rintro ⟨outer, ho, hchain, part, rest, hpath⟩
    have hcopies := (copies_visitedPart (visited_below ho h hpath).1).mpr hchain
    rw [Occurrence.copies_eq_zero_iff, hpath]
    exact ⟨part, List.mem_append_right _ List.mem_cons_self, hcopies⟩
termination_by sizeOf node

-----------------------------------------------------------------------------------------
-- Names that are replaced within a chain that is replaced itself
-----------------------------------------------------------------------------------------

/-- A name that is looked up in a chain is the whole of the chain or stands in front of a point in
it, by induction over the size of the chain. -/
theorem soughtName?_in_chain {node : Node} {name source : Text}
    (hd : node.dottedName? = some name) {occurrence : Occurrence}
    (h : occurrence ∈ node.visited shims)
    (hs : occurrence.node.soughtName? = some source)
    : source = name ∨ (source ++ "." : Text) <+: name := by
  cases node with
  | identifier word place =>
      rcases mem_visited.mp h with rfl | ⟨first, hfirst, _⟩
      · cases hs
      · obtain ⟨_, hm, _⟩ := exists_writtenPart hfirst
        cases hm
  | member object property computed location =>
      cases property with
      | identifier word place =>
          cases computed with
          | true => cases hd
          | false =>
              rcases mem_visited.mp h with rfl | ⟨first, hfirst, inner, hinner, rfl⟩
              · simp only [soughtName?] at hs
                split at hs
                · exact .inl (Option.some.inj (hs.symm.trans hd))
                · cases hs
              · -- What begins the object begins the chain.
                obtain ⟨copies, hm, _⟩ := exists_writtenPart hfirst
                have hfirst' : first.node = object :=
                  congrArg Part.node (List.mem_singleton.mp hm)
                obtain ⟨base, hbase, rfl⟩ := Option.map_eq_some_iff.mp hd
                have hlt := sizeOf_visitedPart hfirst
                rw [← hfirst'] at hbase
                rcases soughtName?_in_chain hbase hinner hs with rfl | hbegins
                · exact .inr ⟨word, rfl⟩
                · refine .inr (hbegins.trans ?_)
                  rw [List.append_assoc]
                  exact List.prefix_append _ _
      | _ => cases hd
  | _ => cases hd
termination_by sizeOf node

/-- What is replaced below a chain that is replaced itself stands at the beginning of that chain. -/
theorem source_within_chain {outer inner : Occurrence} (ho : outer ∈ node.visited shims)
    (hi : inner ∈ node.visited shims) (hchain : outer.node.isReplacedChain shims = true)
    (hwithin : inner.IsWithin outer) {source source' target target' : Text}
    (h : outer.node.substitution? shims = some (source, target))
    (h' : inner.node.substitution? shims = some (source', target'))
    : (source' ++ "." : Text) <+: source := by
  obtain ⟨part, rest, hpath⟩ := hwithin
  obtain ⟨hpart, hbelow⟩ := visited_below ho hi hpath
  obtain ⟨copies, hm, _⟩ := exists_writtenPart hpart
  have hs := (soughtName?_of_substitution? h).1
  have hs' := (soughtName?_of_substitution? h').1
  generalize outer.node = chain at hchain hm hs
  cases chain with
  | member object property computed location =>
      cases property with
      | identifier word place =>
          cases computed with
          | true => cases hchain
          | false =>
              have hobject : part.node = object := congrArg Part.node (List.mem_singleton.mp hm)
              simp only [soughtName?] at hs
              split at hs
              · obtain ⟨base, hbase, rfl⟩ := Option.map_eq_some_iff.mp hs
                rw [← hobject] at hbase
                rcases soughtName?_in_chain hbase hbelow hs' with rfl | hbegins
                · exact ⟨word, rfl⟩
                · rw [List.append_assoc]
                  exact hbegins.trans (List.prefix_append _ _)
              · cases hs
      | _ => cases hchain
  | _ => cases hchain

end Node

end DeviceScript
