import DeviceScript.Proofs.Syntax.Normal

/-! Comparison of syntax trees that differ in their places only. They are equal, unless they hold a
literal that is not even equal to itself.
-/

namespace DeviceScript

/-- Every literal but the double that is no number is equal to itself. -/
theorem Literal.same_self_iff (value : Literal) : value.same value = true ↔ value ≠ .real .nan := by
  cases value with
  | real number =>
      cases number with
      | nan => exact iff_of_false nofun (fun h => h rfl)
      | infinity negative => exact iff_of_true (decide_eq_true rfl) nofun
      | finite negative size =>
          refine iff_of_true ?_ nofun
          simp [same, Binary64.sameValue]
  | null => exact iff_of_true rfl nofun
  | _ => exact iff_of_true (decide_eq_true rfl) nofun

namespace Node

/-- A node without its own place and those of the nodes below it. -/
def unplaced : Node → Node := normal fun value _ => value

/-- None of some literals is the double that is no number. -/
def AreComparable (literals : List (Literal × Option Text)) : Prop :=
  ∀ literal ∈ literals, literal.1 ≠ .real .nan

/-- No literals are comparable. -/
theorem areComparable_nil : AreComparable [] := fun _ h => absurd h List.not_mem_nil

/-- Literals are comparable together if they are so in two parts. -/
theorem areComparable_append (first second : List (Literal × Option Text))
    : AreComparable (first ++ second) ↔ AreComparable first ∧ AreComparable second :=
  List.forall_mem_append

/-- A node is equal to every node that differs from it in places only, exactly if its literals are
comparable. -/
def Compares (node : Node) : Prop :=
  ∀ other : Node, node.unplaced = other.unplaced
    → (node.same other = true ↔ AreComparable node.literals)

/-- An option compares if the node in it does. -/
theorem compares_optional {node : Option Node} (h : ∀ inner ∈ node, Compares inner)
    {other : Option Node} (hu : node.map unplaced = other.map unplaced)
    : sameOption node other = true ↔ AreComparable (literalsOptional node) := by
  match node, other with
  | none, none => exact iff_of_true rfl areComparable_nil
  | some node, some other => exact h node rfl other (Option.some.inj hu)

/-- A list compares if each of its nodes does. -/
theorem compares_each {nodes : List Node} (h : ∀ node ∈ nodes, Compares node)
    {others : List Node} (hu : nodes.map unplaced = others.map unplaced)
    : sameList nodes others = true ↔ AreComparable (literalsEach nodes) := by
  induction nodes generalizing others with
  | nil =>
      obtain rfl := List.map_eq_nil_iff.mp hu.symm
      exact iff_of_true rfl areComparable_nil
  | cons node nodes ih =>
      obtain ⟨other, others, rfl⟩ :=
        List.exists_cons_of_ne_nil (fun hn => absurd (hn ▸ hu) nofun : others ≠ [])
      obtain ⟨hnode, hnodes⟩ := List.cons.inj hu
      -- The lists are equal if their heads and their tails are, and the literals are split alike.
      have hrest := ih (fun node hm => h node (List.mem_cons_of_mem _ hm)) hnodes
      rw [sameList, literalsEach, Bool.and_eq_true, areComparable_append,
        h node List.mem_cons_self other hnode, hrest]

/-- Elements compare if each node among them does. -/
theorem compares_elements {elements : List (Option Node)}
    (h : ∀ node, some node ∈ elements → Compares node) {others : List (Option Node)}
    (hu : elements.map (Option.map unplaced) = others.map (Option.map unplaced))
    : sameOptions elements others = true ↔ AreComparable (literalsElements elements) := by
  induction elements generalizing others with
  | nil =>
      obtain rfl := List.map_eq_nil_iff.mp hu.symm
      exact iff_of_true rfl areComparable_nil
  | cons element elements ih =>
      obtain ⟨other, others, rfl⟩ :=
        List.exists_cons_of_ne_nil (fun hn => absurd (hn ▸ hu) nofun : others ≠ [])
      obtain ⟨helement, helements⟩ := List.cons.inj hu
      have hone : ∀ inner ∈ element, Compares inner := by
        rintro inner ⟨⟩
        exact h inner List.mem_cons_self
      have hrest := ih (fun node hm => h node (List.mem_cons_of_mem _ hm)) helements
      rw [sameOptions, literalsElements, Bool.and_eq_true, areComparable_append,
        compares_optional hone helement, hrest]

/-- Two nodes compare together if each of them does. -/
theorem compares_pair {left right left' right' : Node} (hl : Compares left) (hr : Compares right)
    (hu : left.unplaced = left'.unplaced ∧ right.unplaced = right'.unplaced)
    : (left.same left' && right.same right') = true
      ↔ AreComparable (left.literals ++ right.literals) := by
  rw [Bool.and_eq_true, areComparable_append, hl left' hu.1, hr right' hu.2]

/-- Every node compares, by induction over the node: what differs from it in places only is of the
same kind and is taken apart along with it. -/
theorem compares (node : Node) : Compares node := by
  induction node with
  | program body location ih =>
      intro other hu
      cases other with
      | program body' location' =>
          simp only [unplaced, normal, normalEach_eq_map, program.injEq] at hu
          exact compares_each ih hu.1
      | _ => cases hu
  | expressionStatement expression location ih =>
      intro other hu
      cases other with
      | expressionStatement expression' location' =>
          obtain ⟨he, _⟩ := expressionStatement.inj hu
          exact ih expression' he
      | _ => cases hu
  | call callee arguments location ihc iha =>
      intro other hu
      cases other with
      | call callee' arguments' location' =>
          simp only [unplaced, normal, normalEach_eq_map, call.injEq] at hu
          obtain ⟨hc, ha, _⟩ := hu
          rw [same, literals, Bool.and_eq_true, areComparable_append, ihc callee' hc,
            compares_each iha ha]
      | _ => cases hu
  | member object property computed location iho ihp =>
      intro other hu
      cases other with
      | member object' property' computed' location' =>
          obtain ⟨ho, hp, rfl, _⟩ := member.inj hu
          simp only [same, literals, eq_self, decide_true, Bool.and_true]
          exact compares_pair iho ihp ⟨ho, hp⟩
      | _ => cases hu
  | literal value raw location =>
      intro other hu
      cases other with
      | literal value' raw' location' =>
          -- Only here is a value compared with itself.
          obtain ⟨rfl, rfl, _⟩ := literal.inj hu
          simp only [same, literals, eq_self, decide_true, Bool.and_true, value.same_self_iff,
            AreComparable, List.forall_mem_singleton]
      | _ => cases hu
  | identifier name location =>
      intro other hu
      cases other with
      | identifier name' location' =>
          obtain ⟨rfl, _⟩ := identifier.inj hu
          exact iff_of_true (decide_eq_true rfl) areComparable_nil
      | _ => cases hu
  | binary operator left right location ihl ihr =>
      intro other hu
      cases other with
      | binary operator' left' right' location' =>
          obtain ⟨rfl, hl, hr, _⟩ := binary.inj hu
          simp only [same, literals, eq_self, decide_true, Bool.true_and]
          exact compares_pair ihl ihr ⟨hl, hr⟩
      | _ => cases hu
  | logical operator left right location ihl ihr =>
      intro other hu
      cases other with
      | logical operator' left' right' location' =>
          obtain ⟨rfl, hl, hr, _⟩ := logical.inj hu
          simp only [same, literals, eq_self, decide_true, Bool.true_and]
          exact compares_pair ihl ihr ⟨hl, hr⟩
      | _ => cases hu
  | unary operator argument leading location ih =>
      intro other hu
      cases other with
      | unary operator' argument' leading' location' =>
          obtain ⟨rfl, ha, rfl, _⟩ := unary.inj hu
          simp only [same, literals, eq_self, decide_true, Bool.true_and, Bool.and_true]
          exact ih argument' ha
      | _ => cases hu
  | assignment operator left right location ihl ihr =>
      intro other hu
      cases other with
      | assignment operator' left' right' location' =>
          obtain ⟨rfl, hl, hr, _⟩ := assignment.inj hu
          simp only [same, literals, eq_self, decide_true, Bool.true_and]
          exact compares_pair ihl ihr ⟨hl, hr⟩
      | _ => cases hu
  | declaration declarations keyword location ih =>
      intro other hu
      cases other with
      | declaration declarations' keyword' location' =>
          simp only [unplaced, normal, normalEach_eq_map, declaration.injEq] at hu
          obtain ⟨hd, rfl, _⟩ := hu
          simp only [same, literals, eq_self, decide_true, Bool.and_true]
          exact compares_each ih hd
      | _ => cases hu
  | declarator target initial location iht ihi =>
      intro other hu
      cases other with
      | declarator target' initial' location' =>
          simp only [unplaced, normal, normalOptional_eq_map, declarator.injEq] at hu
          obtain ⟨ht, hi, _⟩ := hu
          rw [same, literals, Bool.and_eq_true, areComparable_append, iht target' ht,
            compares_optional ihi hi]
      | _ => cases hu
  | array elements location ih =>
      intro other hu
      cases other with
      | array elements' location' =>
          simp only [unplaced, normal, normalElements_eq_map, array.injEq] at hu
          exact compares_elements ih hu.1
      | _ => cases hu
  | ifElse test consequent alternate location iht ihc iha =>
      intro other hu
      cases other with
      | ifElse test' consequent' alternate' location' =>
          simp only [unplaced, normal, normalOptional_eq_map, ifElse.injEq] at hu
          obtain ⟨ht, hc, ha, _⟩ := hu
          rw [same, literals, Bool.and_eq_true, Bool.and_eq_true, areComparable_append,
            areComparable_append, iht test' ht, ihc consequent' hc, compares_optional iha ha,
            and_assoc]
      | _ => cases hu
  | whileLoop test body location iht ihb =>
      intro other hu
      cases other with
      | whileLoop test' body' location' =>
          obtain ⟨ht, hb, _⟩ := whileLoop.inj hu
          exact compares_pair iht ihb ⟨ht, hb⟩
      | _ => cases hu
  | forLoop initial test advance body location ihi iht iha ihb =>
      intro other hu
      cases other with
      | forLoop initial' test' advance' body' location' =>
          simp only [unplaced, normal, normalOptional_eq_map, forLoop.injEq] at hu
          obtain ⟨hi, ht, ha, hb, _⟩ := hu
          rw [same, literals, Bool.and_eq_true, Bool.and_eq_true, Bool.and_eq_true,
            areComparable_append, areComparable_append, areComparable_append,
            compares_optional ihi hi, compares_optional iht ht, compares_optional iha ha,
            ihb body' hb, and_assoc, and_assoc]
      | _ => cases hu
  | block body location ih =>
      intro other hu
      cases other with
      | block body' location' =>
          simp only [unplaced, normal, normalEach_eq_map, block.injEq] at hu
          exact compares_each ih hu.1
      | _ => cases hu
  | function name parameters body location ihn ihp ihb =>
      intro other hu
      cases other with
      | function name' parameters' body' location' =>
          simp only [unplaced, normal, normalEach_eq_map, function.injEq] at hu
          obtain ⟨hn, hp, hb, _⟩ := hu
          rw [same, literals, Bool.and_eq_true, Bool.and_eq_true, areComparable_append,
            areComparable_append, ihn name' hn, compares_each ihp hp, ihb body' hb, and_assoc]
      | _ => cases hu
  | returning argument location ih =>
      intro other hu
      cases other with
      | returning argument' location' =>
          simp only [unplaced, normal, normalOptional_eq_map, returning.injEq] at hu
          exact compares_optional ih hu.1
      | _ => cases hu
  | update operator argument leading location ih =>
      intro other hu
      cases other with
      | update operator' argument' leading' location' =>
          obtain ⟨rfl, ha, rfl, _⟩ := update.inj hu
          simp only [same, literals, eq_self, decide_true, Bool.true_and, Bool.and_true]
          exact ih argument' ha
      | _ => cases hu
  | parameter name location =>
      intro other hu
      cases other with
      | parameter name' location' =>
          obtain ⟨rfl, _⟩ := parameter.inj hu
          exact iff_of_true (decide_eq_true rfl) areComparable_nil
      | _ => cases hu
  | unsupported source detail location =>
      intro other hu
      cases other with
      | unsupported source' detail' location' =>
          obtain ⟨rfl, rfl, _⟩ := unsupported.inj hu
          simp only [same, literals, eq_self, decide_true, Bool.and_true, areComparable_nil]
      | _ => cases hu
  | foreign kind location =>
      intro other hu
      cases other with
      | foreign kind' location' =>
          obtain ⟨rfl, _⟩ := foreign.inj hu
          exact iff_of_true (decide_eq_true rfl) areComparable_nil
      | _ => cases hu

end Node

end DeviceScript
