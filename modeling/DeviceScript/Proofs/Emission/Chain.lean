import DeviceScript.Proofs.Emission.Writing
import DeviceScript.Proofs.Text.Joining

/-! Chains of names with points between them. The longest shimmed part that a chain begins with is
replaced, and a chain is spelled the same whether it is read or called.
-/

namespace DeviceScript

namespace Node

/-- The node is a chain of names, in which each name but the first is a property of what stands in
front of it. -/
inductive Spells : Node → List Text → Prop where
  | name (name : Text) (location : Option Location) : Spells (.identifier name location) [name]
  | property {object : Node} {names : List Text} (chain : Spells object names) (name : Text)
      (place location : Option Location)
    : Spells (.member object (.identifier name place) false location) (names ++ [name])

variable {node : Node} {names : List Text}

/-- A chain has at least its first name. -/
theorem Spells.ne_nil (h : node.Spells names) : names ≠ [] := by
  cases h with
  | name => exact List.cons_ne_nil _ _
  | property => exact List.concat_ne_nil _ _

/-- The dotted name of a chain, by induction over the chain. -/
theorem Spells.dottedName? (h : node.Spells names)
    : node.dottedName? = some (Text.join "." names) := by
  induction h with
  | name name location => rfl
  | property chain name place location ih =>
      rw [Node.dottedName?, ih, Option.map_some, Text.join_concat _ _ chain.ne_nil,
        ← List.append_assoc]

/-- A chain needs no parentheses anywhere. -/
theorem Spells.asOperand (h : node.Spells names) (text : Text)
    : node.asOperand Operator.primary false text = text := by
  cases h <;> rfl

end Node

namespace ShimTable

/-- The names begin with `count` names that make up an entry of the table, and with no more of them
that make up another one. -/
structure IsLongest (table : ShimTable) (names : List Text) (count : Nat) (target : Text) : Prop
    where
  least : 2 ≤ count
  within : count ≤ names.length
  found : table.lookup? (Text.join "." (names.take count)) = some target
  longest : ∀ more, count < more → more ≤ names.length
    → table.lookup? (Text.join "." (names.take more)) = none

/-- No entry of the table is a dotted name that the names begin with. -/
def HasNone (table : ShimTable) (names : List Text) : Prop :=
  ∀ count, 2 ≤ count → count ≤ names.length
    → table.lookup? (Text.join "." (names.take count)) = none

variable {table : ShimTable} {names : List Text} {name target found : Text} {count : Nat}

/-- Where all of the names make up an entry, no shorter part of them counts. -/
theorem IsLongest.eq_of_found (h : table.IsLongest names count target)
    (hfound : table.lookup? (Text.join "." names) = some found)
    : count = names.length ∧ target = found := by
  rcases Nat.lt_or_eq_of_le h.within with hlt | rfl
  · have hlast := h.longest names.length hlt (Nat.le_refl _)
    rw [List.take_length, hfound] at hlast
    exact absurd hlast (Option.some_ne_none _)
  · have htarget := h.found
    rw [List.take_length, hfound] at htarget
    exact ⟨rfl, (Option.some.inj htarget).symm⟩

/-- Where all of the names make up no entry, the last of them has no influence. -/
theorem IsLongest.of_concat (h : table.IsLongest (names ++ [name]) count target)
    (hnone : table.lookup? (Text.join "." (names ++ [name])) = none)
    : table.IsLongest names count target := by
  have hlength : (names ++ [name]).length = names.length + 1 := List.length_append
  have hwithin : count ≤ names.length := by
    rcases Nat.lt_or_eq_of_le h.within with hlt | rfl
    · omega
    · have hfound := h.found
      rw [List.take_length, hnone] at hfound
      exact absurd hfound.symm (Option.some_ne_none _)
  constructor
  · exact h.least
  · exact hwithin
  · rw [← h.found, List.take_append_of_le_length hwithin]
  · intro more hlt hle
    rw [← h.longest more hlt (by omega), List.take_append_of_le_length hle]

/-- Names that begin with no entry do not begin with one without their last name. -/
theorem HasNone.of_concat (h : table.HasNone (names ++ [name])) : table.HasNone names := by
  intro count hleast hwithin
  have hle : count ≤ (names ++ [name]).length := by
    rw [List.length_append]
    omega
  rw [← h count hleast hle, List.take_append_of_le_length hwithin]

/-- Two or more names that begin with no entry are none themselves. -/
theorem HasNone.lookup?_eq_none (h : table.HasNone names) (hlong : 2 ≤ names.length)
    : table.lookup? (Text.join "." names) = none := by
  have hall := h names.length hlong (Nat.le_refl _)
  rwa [List.take_length] at hall

end ShimTable

namespace Fragment

/-- The properties that containers have, and those that are left out. -/
def containerProperties : List Text :=
  ["length", "push", "pop", "shift", "splice", "reverse", "concat", "join"]

variable {name : Text}

/-- A name that no container knows is a property without a translation of its own. -/
theorem property?_of_not_mem (h : name ∉ containerProperties) (object : Text)
    : property? object name = none := by
  simp only [containerProperties, List.mem_cons, not_or] at h
  simp only [property?, h, if_false]

/-- A name that no container knows is not left to the call around it. -/
theorem isDeferred_of_not_mem (h : name ∉ containerProperties) : isDeferred name = false := by
  simp only [containerProperties, List.mem_cons, not_or] at h
  simp only [isDeferred, h, decide_false, Bool.or_false]

/-- A name that no container knows is no method. -/
theorem ofName?_of_not_mem (h : name ∉ containerProperties) : Method.ofName? name = none := by
  simp only [containerProperties, List.mem_cons, not_or] at h
  simp only [Method.ofName?, h, if_false]

variable {style : Style} {node : Node} {names : List Text}

/-- What the last name of a chain adds: a replacement of all of it, or itself in the scope of what
stands in front of it. -/
theorem text_property {object : Node} (hobject : object.Spells names)
    (hname : name ∉ containerProperties) (depth : Nat) (place location : Option Location)
    : text style depth (.member object (.identifier name place) false location)
      = (style.shims.lookup? (Text.join "." (names ++ [name]))).getD
          (text style depth object ++ "::" ++ name) := by
  have hdotted := (hobject.property name place location).dottedName?
  simp only [text_member, Bool.false_eq_true, if_false, propertyText, property?_of_not_mem hname,
    isDeferred_of_not_mem hname, hobject.asOperand, hdotted, replacement?, Option.bind_some,
    ShimTable.scopedName]

/-- The longest shimmed part of a chain is replaced, by induction over the chain. -/
theorem text_of_isLongest (h : node.Spells names)
    (hplain : ∀ name ∈ names.tail, name ∉ containerProperties) (depth : Nat) {count : Nat}
    {target : Text} (hlongest : style.shims.IsLongest names count target)
    : text style depth node = Text.join "::" (target :: names.drop count) := by
  induction h with
  | name name location =>
      -- One name is no dotted name.
      have hleast := hlongest.least
      have hwithin : count ≤ 1 := hlongest.within
      omega
  | @property object names chain name place location ih =>
      rw [List.tail_append_of_ne_nil chain.ne_nil] at hplain
      have hname := hplain name (List.mem_append_right _ List.mem_cons_self)
      rw [text_property chain hname]
      cases hwhole : style.shims.lookup? (Text.join "." (names ++ [name])) with
      | some whole =>
          obtain ⟨hcount, rfl⟩ := hlongest.eq_of_found hwhole
          rw [hcount, List.drop_length]
          rfl
      | none =>
          -- The entry lies within the object, whose text the name is put behind.
          have hinner := hlongest.of_concat hwhole
          have hobject := ih (fun name hm => hplain name (List.mem_append_left _ hm)) hinner
          rw [Option.getD_none, hobject, List.drop_append_of_le_length hinner.within,
            ← List.cons_append, Text.join_concat _ _ (List.cons_ne_nil _ _), List.append_assoc]

/-- Without any shimmed part, the names of a chain are scopes, by induction over the chain. -/
theorem text_of_hasNone (h : node.Spells names)
    (hplain : ∀ name ∈ names.tail, name ∉ containerProperties) (depth : Nat)
    (hnone : style.shims.HasNone names)
    : text style depth node = Text.join "::" names := by
  induction h with
  | name name location => exact text_identifier style depth name location
  | @property object names chain name place location ih =>
      have hlong : 2 ≤ (names ++ [name]).length := by
        have hpos := List.length_pos_iff.mpr chain.ne_nil
        rw [List.length_append]
        exact Nat.succ_le_succ hpos
      rw [List.tail_append_of_ne_nil chain.ne_nil] at hplain
      have hname := hplain name (List.mem_append_right _ List.mem_cons_self)
      have hobject := ih (fun name hm => hplain name (List.mem_append_left _ hm)) hnone.of_concat
      rw [text_property chain hname, hnone.lookup?_eq_none hlong, Option.getD_none, hobject,
        Text.join_concat _ _ chain.ne_nil, List.append_assoc]

/-- A called chain is spelled like one that is read: the call looks up the same dotted name that the
chain itself looks up last. -/
theorem text_called (h : node.Spells names) (hlong : 2 ≤ names.length)
    (hplain : ∀ name ∈ names.tail, name ∉ containerProperties) (depth : Nat)
    (arguments : List Node) (location : Option Location)
    : text style depth (.call node arguments location)
      = text style depth node ++ "("
          ++ Text.join ", " (arguments.map fun argument =>
            listed argument (text style depth argument))
          ++ ")" := by
  cases h with
  | name name place => exact absurd hlong (by simp)
  | @property object names chain name place place' =>
      rw [List.tail_append_of_ne_nil chain.ne_nil] at hplain
      have hname := hplain name (List.mem_append_right _ List.mem_cons_self)
      have hchain := chain.property name place place'
      have hselected
          : (Node.member object (.identifier name place) false place').selected? = none :=
        Option.map_eq_none_iff.mpr (ofName?_of_not_mem hname)
      rw [text_ordinary _ _ _ _ hselected, hchain.asOperand, hchain.dottedName?,
        text_property chain hname, replacement?, Option.bind_some]
      -- A found name is found twice.
      cases style.shims.lookup? (Text.join "." (names ++ [name])) <;> rfl

/-- A chain of at least two names, none of which but the first is a property of containers, is
emitted with the longest part that it begins with and the table replaces, and with scopes behind
that part; a call of it emits the same text in front of the arguments. -/
theorem emit_longestShim (h : node.Spells names) (hlong : 2 ≤ names.length)
    (hplain : ∀ name ∈ names.tail, name ∉ containerProperties) (style : Style)
    (progress : Progress)
    : let text := ((emit style node).run progress).1
      (∀ count target, style.shims.IsLongest names count target
        → text = Text.join "::" (target :: names.drop count))
      ∧ (style.shims.HasNone names → text = Text.join "::" names)
      ∧ ∀ arguments location,
          ((emit style (.call node arguments location)).run progress).1
            = text ++ "("
                ++ Text.join ", " (arguments.map fun argument =>
                  argument.asOperand Operator.argument false
                    ((emit style argument).run progress).1)
                ++ ")" := by
  have hrun : ∀ node, ((emit style node).run progress).1 = text style progress.depth node :=
    fun node => congrArg Prod.fst (emit_writes style node progress)
  simp only [hrun]
  refine ⟨?_, ?_, ?_⟩
  · intro count target hlongest
    exact text_of_isLongest h hplain progress.depth hlongest
  · intro hnone
    exact text_of_hasNone h hplain progress.depth hnone
  · intro arguments location
    exact text_called h hlong hplain progress.depth arguments location

/-- Of two entries that a chain begins with, the longer one counts. -/
theorem emit_longestShim_overlapping
    : let style : Style := ⟨⟨[("pin.out", "gpio"), ("pin.out.high", "raise")]⟩, "    "⟩
      let pin : Node := .member (.identifier "pin" none) (.identifier "out" none) false none
      let high : Node := .member pin (.identifier "high" none) false none
      let node : Node := .member high (.identifier "now" none) false none
      let names : List Text := ["pin", "out", "high", "now"]
      node.Spells names ∧ 2 ≤ names.length
      ∧ (∀ name ∈ names.tail, name ∉ containerProperties)
      ∧ style.shims.IsLongest names 3 "raise"
      ∧ ((emit style node).run {}).1 = "raise::now"
      ∧ ((emit style (.call node [.identifier "x" none] none)).run {}).1 = "raise::now(x)" := by
  intro style pin high node names
  have hspells : node.Spells names :=
    (((Node.Spells.name "pin" none).property "out" none none).property "high" none none).property
      "now" none none
  have hplain : ∀ name ∈ names.tail, name ∉ containerProperties := by decide
  have hlongest : style.shims.IsLongest names 3 "raise" := by
    constructor
    · decide
    · decide
    · rfl
    · intro more hlt hle
      obtain rfl : more = 4 := Nat.le_antisymm hle hlt
      rfl
  obtain ⟨htext, -, hcall⟩ := emit_longestShim hspells (by decide) hplain style {}
  refine ⟨hspells, by decide, hplain, hlongest, ?_, ?_⟩
  · exact htext 3 "raise" hlongest
  · rw [hcall, htext 3 "raise" hlongest]
    rfl

end Fragment

end DeviceScript
