import DeviceScript.Proofs.Cpp.Container
import DeviceScript.Proofs.Cpp.Legible

/-! Expressions that bind tightest, among them everything that the templates of containers make of
such an expression.
-/

namespace DeviceScript.Cpp.Tree

variable {indent : Text}

/-- An expression that a name can be selected from and that can be called, as it binds tightest. -/
structure IsPrimary (indent : Text) (tree : Tree) : Prop where
  legible : tree.Legible indent
  strength_eq : tree.strength = 13
  isNumber_eq : tree.isNumber = false

namespace IsPrimary

/-- A primary expression binds tighter than every operation. -/
theorem strong {tree : Tree} (h : tree.IsPrimary indent) : 12 ≤ tree.strength := by
  rw [h.strength_eq]
  decide

/-- A member of a primary expression is one. -/
theorem dot {object : Tree} {name : Text} (h : object.IsPrimary indent) (isWord : IsWord name)
    : (Tree.dot object name).IsPrimary indent :=
  ⟨.dot h.legible h.strong h.isNumber_eq isWord, rfl, rfl⟩

/-- A name in the scope of a primary expression is one. -/
theorem scope {object : Tree} {name : Text} (h : object.IsPrimary indent) (isWord : IsWord name)
    : (Tree.scope object name).IsPrimary indent :=
  ⟨.scope h.legible h.strong isWord, rfl, rfl⟩

/-- A call of a primary expression is one if its arguments are legible. -/
theorem call {callee : Tree} {arguments : List Tree} (h : callee.IsPrimary indent)
    (legible : ∀ argument ∈ arguments, Legible indent argument)
    (strong : ∀ argument ∈ arguments, 1 ≤ argument.strength)
    : (Tree.call callee arguments).IsPrimary indent :=
  ⟨.call h.legible h.strong legible strong, rfl, rfl⟩

/-- A word is a primary expression. -/
theorem word {name : Text} (isWord : IsWord name) : (Tree.word name).IsPrimary indent :=
  ⟨.word isWord, rfl, rfl⟩

/-- A call of a name of an object without arguments. -/
theorem select {object : Tree} {name : Text} (h : object.IsPrimary indent) (isWord : IsWord name)
    : (Tree.call (Tree.dot object name) []).IsPrimary indent :=
  (h.dot isWord).call nofun nofun

end IsPrimary

/-- Scope operators behind an expression, by induction over the names they select. -/
theorem IsPrimary.scopes {tree : Tree} (h : tree.IsPrimary indent) {names : List Text}
    (areWords : ∀ name ∈ names, IsWord name)
    : (names.foldl Tree.scope tree).IsPrimary indent := by
  induction names generalizing tree with
  | nil => exact h
  | cons name names ih =>
      exact ih (h.scope (areWords name List.mem_cons_self))
        fun name hm => areWords name (List.mem_cons_of_mem _ hm)

/-- A name with its scopes is a primary expression. -/
theorem isPrimary_qualified {name : Text} (areWords : ∀ piece ∈ name.segments, IsWord piece)
    : (qualified name).IsPrimary indent := by
  obtain ⟨first, rest, hs⟩ := List.exists_cons_of_ne_nil name.segments_ne_nil
  simp only [hs] at areWords
  simp only [qualified, hs]
  exact (IsPrimary.word (areWords first List.mem_cons_self)).scopes
    fun piece hm => areWords piece (List.mem_cons_of_mem _ hm)

variable {object : Tree} (h : object.IsPrimary indent)

include h

/-- The start of a container is a primary expression. -/
theorem isPrimary_start : (start object).IsPrimary indent :=
  h.select (by decide)

/-- The place behind the last element is a primary expression. -/
theorem isPrimary_finish : (finish object).IsPrimary indent :=
  h.select (by decide)

/-- Removal of the last element is a primary expression. -/
theorem isPrimary_popped : (popped object).IsPrimary indent :=
  h.select (by decide)

/-- Removal of the first element is a primary expression. -/
theorem isPrimary_shifted : (shifted object).IsPrimary indent := by
  have hstart := isPrimary_start h
  refine (h.dot (by decide)).call ?_ ?_
  · intro argument hm
    rw [List.mem_singleton.mp hm]
    exact hstart.legible
  · intro argument hm
    rw [List.mem_singleton.mp hm]
    exact Nat.succ_pos _

/-- Reversal of a container is a primary expression. -/
theorem isPrimary_reversed : (reversed object).IsPrimary indent := by
  have hstart := isPrimary_start h
  have hfinish := isPrimary_finish h
  have hcallee : (Tree.scope (.word "std") "reverse").IsPrimary indent :=
    (IsPrimary.word (by decide)).scope (by decide)
  refine hcallee.call ?_ ?_
  · intro argument hm
    simp only [List.mem_cons, List.not_mem_nil, or_false] at hm
    rcases hm with rfl | rfl
    · exact hstart.legible
    · exact hfinish.legible
  · intro argument hm
    simp only [List.mem_cons, List.not_mem_nil, or_false] at hm
    rcases hm with rfl | rfl <;> exact Nat.succ_pos _

/-- The ends of a range are sums, of which everything that is added binds tighter than addition. -/
theorem isPrimary_spliced {position count : Tree} (hp : position.Legible indent)
    (strong : 9 < position.strength) (hc : count.Legible indent) (strong' : 9 < count.strength)
    : (spliced object position count).IsPrimary indent := by
  have hknown : binaryStrength? "+" = some 9 := by decide
  have hstart := isPrimary_start h
  have hfirst : (binary "+" (start object) position).Legible indent :=
    .binary hknown hstart.legible (Nat.le_of_lt (by rw [hstart.strength_eq]; decide)) hp strong
  have hstrength : ∀ left right, (binary "+" left right).strength = 9 := by
    intro left right
    rw [strength, hknown, Option.getD_some]
  have hlast : (binary "+" (binary "+" (start object) position) count).Legible indent :=
    .binary hknown hfirst (Nat.le_of_eq (hstrength _ _).symm) hc strong'
  refine (h.dot (by decide)).call ?_ ?_
  · intro argument hm
    simp only [List.mem_cons, List.not_mem_nil, or_false] at hm
    rcases hm with rfl | rfl
    · exact hfirst
    · exact hlast
  · intro argument hm
    simp only [List.mem_cons, List.not_mem_nil, or_false] at hm
    rcases hm with rfl | rfl <;> rw [hstrength] <;> decide

/-- A property of a container is a primary expression. -/
theorem isPrimary_property? {name : Text} {access : Tree}
    (ha : object.property? name = some access)
    : access.IsPrimary indent := by
  rcases property?_eq_some ha with
    ⟨rfl, rfl⟩ | ⟨rfl, rfl⟩ | ⟨rfl, rfl⟩ | ⟨rfl, rfl⟩ | ⟨rfl, rfl⟩ | ⟨rfl, rfl⟩
  · exact h.select (by decide)
  · exact h.dot (by decide)
  · exact isPrimary_popped h
  · exact isPrimary_shifted h
  · exact h.dot (by decide)
  · exact isPrimary_reversed h

end DeviceScript.Cpp.Tree
