import DeviceScript.Proofs.Cpp.Tree
import DeviceScript.Proofs.Text.Joining

/-! Trees of the templates that translation fills in: qualified names, and what methods and
properties of containers turn into.
-/

namespace DeviceScript

/-- The pieces of a name between its scope operators. -/
def Text.segments : Text → List Text
  | [] => [[]]
  | .scalar ':' :: .scalar ':' :: rest => [] :: segments rest
  | point :: rest =>
    match segments rest with
    | [] => [[point]]
    | piece :: pieces => (point :: piece) :: pieces

/-- Every name has a segment, be it the empty one. -/
theorem Text.segments_ne_nil (name : Text) : name.segments ≠ [] := by
  fun_cases segments name <;> exact List.cons_ne_nil _ _

/-- The pieces of a name make up the name, by induction along the search for scope operators. -/
theorem Text.join_segments (name : Text) : Text.join "::" name.segments = name := by
  fun_induction segments name with
  | case1 => rfl
  | case2 rest ih =>
      obtain ⟨piece, pieces, h⟩ := List.exists_cons_of_ne_nil (segments_ne_nil rest)
      rw [h] at ih ⊢
      exact congrArg (("::" : Text) ++ ·) ih
  | case3 point rest _ h => exact absurd h (segments_ne_nil rest)
  | case4 point rest _ piece pieces h ih =>
      rw [h] at ih
      cases pieces with
      | nil => exact congrArg (point :: ·) ih
      | cons second pieces => exact congrArg (point :: ·) ih

namespace Cpp.Tree

/-- A name with the namespaces in front of it. -/
def qualified (name : Text) : Tree :=
  match name.segments with
  | [] => absent
  | first :: rest => rest.foldl scope (word first)

/-- The start of a container, which is what a position is counted from. -/
def start (object : Tree) : Tree := call (dot object "begin") []

/-- The place behind the last element of a container. -/
def finish (object : Tree) : Tree := call (dot object "end") []

def popped (object : Tree) : Tree := call (dot object "pop_back") []

def shifted (object : Tree) : Tree := call (dot object "erase") [start object]

def reversed (object : Tree) : Tree :=
  call (scope (word "std") "reverse") [start object, finish object]

/-- Removal of `count` elements from a position on. -/
def spliced (object position count : Tree) : Tree :=
  call (dot object "erase")
    [binary "+" (start object) position, binary "+" (binary "+" (start object) position) count]

/-- A property of a container that C++ spells differently. -/
def property? (object : Tree) (name : Text) : Option Tree :=
  if name = "length" then some (call (dot object "size") [])
  else if name = "push" then some (dot object "push_back")
  else if name = "pop" then some (popped object)
  else if name = "shift" then some (shifted object)
  else if name = "splice" then some (dot object "erase")
  else if name = "reverse" then some (reversed object)
  else none

/-- The properties of containers, and what access to each of them turns into. -/
theorem property?_eq_some {object access : Tree} {name : Text}
    (h : object.property? name = some access)
    : (name = "length" ∧ access = call (dot object "size") [])
      ∨ (name = "push" ∧ access = dot object "push_back")
      ∨ (name = "pop" ∧ access = popped object) ∨ (name = "shift" ∧ access = shifted object)
      ∨ (name = "splice" ∧ access = dot object "erase")
      ∨ (name = "reverse" ∧ access = reversed object) := by
  unfold property? at h
  repeat' split at h
  all_goals grind

/-- A call of a method of a container, if the number of arguments is right. -/
def method (method : Fragment.Method) (object : Tree) (arguments : List Tree) : Tree :=
  match method, arguments with
  | .push, [argument] => call (dot object "push_back") [argument]
  | .pop, _ => popped object
  | .shift, _ => shifted object
  | .reverse, _ => reversed object
  | .splice, [position] => spliced object position (number "1")
  | .splice, [position, count] => spliced object position count
  | _, _ => absent

variable (indent : Text)

/-- Scopes are written behind the tree, each after two colons. -/
theorem print_scopes (tree : Tree) (names : List Text)
    : (names.foldl scope tree).print indent
      = tree.print indent ++ names.flatMap ("::" ++ · : Text → Text) := by
  induction names generalizing tree with
  | nil => exact (List.append_nil _).symm
  | cons name names ih =>
      rw [List.foldl_cons, ih, print, List.flatMap_cons]
      simp only [List.append_assoc]

/-- A qualified name is written as it was. -/
theorem print_qualified (name : Text) : (qualified name).print indent = name := by
  obtain ⟨first, rest, h⟩ := List.exists_cons_of_ne_nil name.segments_ne_nil
  have hjoin := name.join_segments
  rw [h, Text.join_cons] at hjoin
  rw [qualified, h, print_scopes, print, hjoin]

variable (object : Tree)

/-- Removal of the last element is written as its idiom. -/
theorem print_popped : (popped object).print indent = Fragment.popped (object.print indent) := by
  simp only [popped, print, List.map_nil, Text.join, List.append_assoc]
  rfl

/-- The start of a container is written with the call that gives it. -/
theorem print_start : (start object).print indent = object.print indent ++ ".begin()" := by
  simp only [start, print, List.map_nil, Text.join, List.append_assoc]
  rfl

/-- The place behind the last element is written with the call that gives it. -/
theorem print_finish : (finish object).print indent = object.print indent ++ ".end()" := by
  simp only [finish, print, List.map_nil, Text.join, List.append_assoc]
  rfl

/-- Removal of the first element is written as its idiom. -/
theorem print_shifted : (shifted object).print indent = Fragment.shifted (object.print indent) := by
  simp only [shifted, print, print_start, List.map_cons, List.map_nil, Text.join, List.append_assoc]
  simp only [Fragment.shifted, List.append_assoc]
  rfl

/-- Reversal of a container is written as its idiom. -/
theorem print_reversed
    : (reversed object).print indent = Fragment.reversed (object.print indent) := by
  simp only [reversed, print, print_start, print_finish, List.map_cons, List.map_nil, Text.join,
    List.append_assoc]
  simp only [Fragment.reversed, List.append_assoc]
  rfl

/-- Replacement of elements is written as its idiom. -/
theorem print_spliced (position count : Tree)
    : (spliced object position count).print indent
      = Fragment.spliced (object.print indent) (position.print indent) (count.print indent) := by
  simp only [spliced, print, print_start, List.map_cons, List.map_nil, Text.join,
    List.append_assoc]
  simp only [Fragment.spliced, List.append_assoc]
  rfl

/-- A property with a translation of its own is written as that translation. -/
theorem print_property? (name : Text)
    : (property? object name).map (print indent)
      = Fragment.property? (object.print indent) name := by
  have hsize : (call (dot object "size") []).print indent = object.print indent ++ ".size()" := by
    simp only [print, List.map_nil, Text.join, List.append_assoc]
    rfl
  have hdot : ∀ name, (dot object name).print indent = object.print indent ++ ("." ++ name) :=
    fun name => by simp only [print, List.append_assoc]
  simp only [property?, Fragment.property?, apply_ite (Option.map (print indent)), Option.map_some,
    Option.map_none, hsize, hdot, print_popped, print_shifted, print_reversed]
  rfl

end Cpp.Tree

end DeviceScript
