import DeviceScript.Proofs.Cpp.Container
import Mathlib.Data.List.Perm.Basic

/-! Actions in C++ trees: the calls, assignments and updates that a tree holds, each as often as it
stands there.
-/

namespace DeviceScript.Cpp.Tree

/-- The trees directly below a tree. -/
def parts : Tree → List Tree
  | word _ | number _ | string _ | parameter _ => []
  | list trees | declaration trees | heading trees | block trees | unit trees => trees
  | group tree | unary _ tree | update _ tree _ | dot tree _ | scope tree _ | simple tree
  | slot tree => [tree]
  | binary _ left right | assign _ left right | index left right | chain left right => [left, right]
  | call tree trees | conditional tree trees | otherwise tree trees | whileLoop tree trees =>
    tree :: trees
  | declarator _ target initial => target :: initial.toList
  | returning value => value.toList
  | forLoop initial test advance body =>
    initial.toList ++ test.toList ++ advance.toList ++ body
  | function name parameters body => parameters ++ [name] ++ body

/-- Tells whether a tree selects a name that reads a container and does nothing else. -/
def isReader : Tree → Bool
  | dot _ name => name ∈ (["begin", "end", "size"] : List Text)
  | _ => false

/-- The calls that translation adds by itself. -/
def isReading : Tree → Bool
  | call callee [] => callee.isReader
  | _ => false

/-- Tells whether a tree is a call, an assignment or an update. -/
def isAction : Tree → Bool
  | call callee arguments => !(call callee arguments).isReading
  | assign _ _ _ | update _ _ _ => true
  | _ => false

/-- What is in an optional tree is smaller than the option. -/
theorem sizeOf_toList {tree : Option Tree} {inner : Tree} (h : inner ∈ tree.toList)
    : sizeOf inner < sizeOf tree := by
  rw [Option.mem_toList.mp h, Option.some.sizeOf_spec]
  omega

/-- What is directly below a tree is smaller than the tree. -/
theorem sizeOf_parts {tree inner : Tree} (h : inner ∈ tree.parts) : sizeOf inner < sizeOf tree := by
  cases tree with
  | word _ | number _ | string _ | parameter _ => exact absurd h List.not_mem_nil
  | list trees | declaration trees | heading trees | block trees | unit trees =>
      have hlt : sizeOf inner < sizeOf trees := List.sizeOf_lt_of_mem h
      exact Nat.lt_trans hlt (by simp +arith)
  | group tree | unary _ tree | update _ tree _ | dot tree _ | scope tree _ | simple tree
  | slot tree =>
      rw [List.mem_singleton.mp h]
      simp +arith
  | binary _ left right | assign _ left right | index left right | chain left right =>
      simp only [parts, List.mem_cons, List.not_mem_nil, or_false] at h
      rcases h with rfl | rfl <;> simp +arith
  | call tree trees | conditional tree trees | otherwise tree trees | whileLoop tree trees =>
      rcases List.mem_cons.mp h with rfl | h
      · simp +arith
      · exact Nat.lt_trans (List.sizeOf_lt_of_mem h) (by simp +arith)
  | declarator _ target initial =>
      rcases List.mem_cons.mp h with rfl | h
      · simp +arith
      · exact Nat.lt_trans (sizeOf_toList h) (by simp +arith)
  | returning value =>
      have hlt : sizeOf inner < sizeOf value := sizeOf_toList h
      exact Nat.lt_trans hlt (by simp +arith)
  | forLoop initial test advance body =>
      simp only [parts, List.mem_append] at h
      rcases h with ((h | h) | h) | h
      · exact Nat.lt_trans (sizeOf_toList h) (by simp +arith)
      · exact Nat.lt_trans (sizeOf_toList h) (by simp +arith)
      · exact Nat.lt_trans (sizeOf_toList h) (by simp +arith)
      · exact Nat.lt_trans (List.sizeOf_lt_of_mem h) (by simp +arith)
  | function name parameters body =>
      simp only [parts, List.mem_append, List.mem_singleton] at h
      rcases h with (h | rfl) | h
      · exact Nat.lt_trans (List.sizeOf_lt_of_mem h) (by simp +arith)
      · simp +arith
      · exact Nat.lt_trans (List.sizeOf_lt_of_mem h) (by simp +arith)

/-- The actions in a tree, the outer ones in front of the inner ones. -/
def actions (tree : Tree) : List Tree :=
  (if tree.isAction then [tree] else []) ++ tree.parts.attach.flatMap fun part => actions part.1
termination_by sizeOf tree
decreasing_by exact sizeOf_parts part.2

/-- The actions of a tree are the tree itself, if it is one, and those below it. -/
theorem actions_eq (tree : Tree)
    : tree.actions = (if tree.isAction then [tree] else []) ++ tree.parts.flatMap actions := by
  rw [actions, List.flatMap_subtype, List.unattach_attach]
  exact fun _ _ => rfl

/-- The actions of a tree that is none itself are those of its parts. -/
theorem actions_of_not_isAction {tree : Tree} (h : tree.isAction = false)
    : tree.actions = tree.parts.flatMap actions := by
  rw [actions_eq, h]
  rfl

/-- An action comes in front of the actions below it. -/
theorem actions_of_isAction {tree : Tree} (h : tree.isAction = true)
    : tree.actions = tree :: tree.parts.flatMap actions := by
  rw [actions_eq, h]
  rfl

/-- A tree around one other tree has the actions of that one. -/
theorem actions_of_one {tree inner : Tree} (h : tree.isAction = false) (hp : tree.parts = [inner])
    : tree.actions = inner.actions := by
  rw [actions_of_not_isAction h, hp]
  exact List.append_nil _

/-- Parentheses change nothing in the actions. -/
@[simp]
theorem actions_group (tree : Tree) : (group tree).actions = tree.actions := actions_of_one rfl rfl

/-- What is missing has no actions. -/
@[simp]
theorem actions_absent : absent.actions = [] := actions_of_not_isAction rfl

/-- A number is no action. -/
theorem actions_number (spelling : Text) : (number spelling).actions = [] :=
  actions_of_not_isAction rfl

/-- An operation has the actions of its operands. -/
theorem actions_binary (operator : Text) (left right : Tree)
    : (binary operator left right).actions = left.actions ++ right.actions := by
  rw [actions_of_not_isAction rfl]
  simp only [parts, List.flatMap_cons, List.flatMap_nil, List.append_nil]

/-- A member has the actions of its object. -/
theorem actions_dot (object : Tree) (name : Text) : (dot object name).actions = object.actions :=
  actions_of_one rfl rfl

/-- A name in a scope has the actions of the scope. -/
theorem actions_scope (object : Tree) (name : Text)
    : (scope object name).actions = object.actions :=
  actions_of_one rfl rfl

/-- A qualified name holds no actions, by induction over its pieces. -/
@[simp]
theorem actions_qualified (name : Text) : (qualified name).actions = [] := by
  have hscopes : ∀ (names : List Text) (tree : Tree), tree.actions = []
      → (names.foldl scope tree).actions = [] := by
    intro names
    induction names with
    | nil => exact fun _ h => h
    | cons name names ih => exact fun tree h => ih _ ((actions_scope tree name).trans h)
  unfold qualified
  split
  · exact actions_absent
  · exact hscopes _ _ (actions_of_not_isAction rfl)

/-- A call that does not only read comes in front of the actions of its parts. -/
theorem actions_call {callee : Tree} {arguments : List Tree}
    (h : (call callee arguments).isReading = false)
    : (call callee arguments).actions
      = call callee arguments :: (callee.actions ++ arguments.flatMap actions) := by
  have haction : (call callee arguments).isAction = true := congrArg not h
  rw [actions_of_isAction haction]
  rfl

/-- A call reads only if what it calls is a name that reads. -/
theorem isReading_call {callee : Tree} (h : callee.isReader = false) (arguments : List Tree)
    : (call callee arguments).isReading = false := by
  cases arguments with
  | nil => exact h
  | cons _ _ => rfl

/-- No name of a function, with its scopes, selects what only reads. -/
theorem isReader_qualified (name : Text) : (qualified name).isReader = false := by
  have hscopes : ∀ (names : List Text) (tree : Tree), tree.isReader = false
      → (names.foldl scope tree).isReader = false := by
    intro names
    induction names with
    | nil => exact fun _ h => h
    | cons name names ih => exact fun tree _ => ih (scope tree name) rfl
  unfold qualified
  split
  · rfl
  · exact hscopes _ _ rfl

section Templates

variable (object : Tree)

/-- The start of a container is only read. -/
theorem actions_start : (start object).actions = object.actions :=
  (actions_of_one rfl rfl).trans (actions_dot object _)

/-- The place behind the last element is only read. -/
theorem actions_finish : (finish object).actions = object.actions :=
  (actions_of_one rfl rfl).trans (actions_dot object _)

/-- The length of a container is only read. -/
theorem actions_size : (call (dot object "size") []).actions = object.actions :=
  (actions_of_one rfl rfl).trans (actions_dot object _)

/-- Removal of the last element is an action, with those of the container. -/
theorem actions_popped : (popped object).actions = popped object :: object.actions := by
  rw [popped, actions_call rfl, actions_dot, List.flatMap_nil, List.append_nil]

/-- Removal of the first element is an action, with those of the container twice. -/
theorem actions_shifted
    : (shifted object).actions = shifted object :: (object.actions ++ object.actions) := by
  rw [shifted, actions_call rfl, actions_dot, List.flatMap_cons, List.flatMap_nil, actions_start,
    List.append_nil]

/-- Reversal is an action, with those of the container twice. -/
theorem actions_reversed
    : (reversed object).actions = reversed object :: (object.actions ++ object.actions) := by
  have hname : (scope (word "std") "reverse").actions = [] :=
    (actions_scope _ _).trans (actions_of_not_isAction rfl)
  rw [reversed, actions_call rfl, hname, List.nil_append, List.flatMap_cons, List.flatMap_cons,
    List.flatMap_nil, actions_start, actions_finish, List.append_nil]

/-- The ends of the range repeat the object and the position. -/
theorem actions_spliced (position count : Tree)
    : (spliced object position count).actions.Perm
        (spliced object position count
          :: (object.actions ++ (object.actions ++ object.actions))
          ++ (position.actions ++ position.actions) ++ count.actions) := by
  rw [spliced, actions_call rfl]
  simp only [actions_dot, List.flatMap_cons, List.flatMap_nil, actions_binary, actions_start,
    List.append_nil, List.cons_append, List.append_assoc]
  refine .cons _ (.append_left _ (.append_left _ ?_))
  exact List.perm_append_comm_assoc _ _ _

/-- Two copies of a list stand one behind the other. -/
theorem flatten_pair {α : Type} (list : List α) : (List.replicate 2 list).flatten = list ++ list :=
  congrArg (list ++ ·) (List.append_nil list)

/-- What a property turns into acts if it selects a method that acts at once, and repeats the object
if that method needs it twice. -/
theorem actions_property? {name : Text} {access : Tree} (h : object.property? name = some access)
    : access.actions
      = (if name ∈ (["pop", "shift", "reverse"] : List Text) then [access] else [])
          ++ (List.replicate (if name = "shift" ∨ name = "reverse" then 2 else 1)
            object.actions).flatten := by
  rcases property?_eq_some h with
    ⟨rfl, rfl⟩ | ⟨rfl, rfl⟩ | ⟨rfl, rfl⟩ | ⟨rfl, rfl⟩ | ⟨rfl, rfl⟩ | ⟨rfl, rfl⟩
  · rw [actions_size, if_neg (by decide), if_neg (by decide)]
    exact (List.append_nil _).symm
  · rw [actions_dot, if_neg (by decide), if_neg (by decide)]
    exact (List.append_nil _).symm
  · rw [actions_popped, if_pos (by decide), if_neg (by decide)]
    exact congrArg _ (List.append_nil _).symm
  · rw [actions_shifted, if_pos (by decide), if_pos (by decide), flatten_pair]
    rfl
  · rw [actions_dot, if_neg (by decide), if_neg (by decide)]
    exact (List.append_nil _).symm
  · rw [actions_reversed, if_pos (by decide), if_pos (by decide), flatten_pair]
    rfl

/-- A property that stays as it is selects no method. -/
theorem name_of_property?_eq_none {name : Text} (h : object.property? name = none)
    : name ∉ (["pop", "shift", "reverse"] : List Text) := by
  intro hm
  simp only [List.mem_cons, List.not_mem_nil, or_false] at hm
  rcases hm with rfl | rfl | rfl <;> exact absurd h nofun

/-- No property of a container is spelled as a name that only reads. -/
theorem isReader_property? {name : Text} {access : Tree} (h : object.property? name = some access)
    : access.isReader = false := by
  rcases property?_eq_some h with
    ⟨rfl, rfl⟩ | ⟨rfl, rfl⟩ | ⟨rfl, rfl⟩ | ⟨rfl, rfl⟩ | ⟨rfl, rfl⟩ | ⟨rfl, rfl⟩
  all_goals rfl

/-- No method of a container is spelled as a name that only reads. -/
theorem isReader_method (kind : Fragment.Method) (arguments : List Tree)
    : (method kind object arguments).isReader = false := by
  cases kind with
  | push =>
      match arguments with
      | [] | [_] | _ :: _ :: _ => rfl
  | splice =>
      match arguments with
      | [] | [_] | [_, _] | _ :: _ :: _ :: _ => rfl
  | _ => rfl

end Templates

end DeviceScript.Cpp.Tree
