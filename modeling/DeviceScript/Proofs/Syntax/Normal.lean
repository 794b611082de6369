import DeviceScript.Proofs.Syntax.Induction
import DeviceScript.Syntax.Equality
import DeviceScript.Translation.Finding
import Mathlib.Data.List.Forall2

/-! Normal forms of syntax trees, which have no places and a normal form of each literal. Equal trees
have the same normal form if that is so of their literals.
-/

namespace DeviceScript.Node

section Forms

variable (form : Literal → Option Text → Literal)

mutual

/-- A tree without places, and with its literals in their normal form. -/
def normal : Node → Node
  | program body _ => program (normalEach body) none
  | expressionStatement expression _ => expressionStatement expression.normal none
  | call callee arguments _ => call callee.normal (normalEach arguments) none
  | member object property computed _ => member object.normal property.normal computed none
  | literal value raw _ => literal (form value raw) raw none
  | identifier name _ => identifier name none
  | binary operator left right _ => binary operator left.normal right.normal none
  | logical operator left right _ => logical operator left.normal right.normal none
  | unary operator argument leading _ => unary operator argument.normal leading none
  | assignment operator left right _ => assignment operator left.normal right.normal none
  | declaration declarations keyword _ => declaration (normalEach declarations) keyword none
  | declarator target initial _ => declarator target.normal (normalOptional initial) none
  | array elements _ => array (normalElements elements) none
  | ifElse test consequent alternate _ =>
    ifElse test.normal consequent.normal (normalOptional alternate) none
  | whileLoop test body _ => whileLoop test.normal body.normal none
  | forLoop initial test advance body _ =>
    forLoop (normalOptional initial) (normalOptional test) (normalOptional advance) body.normal none
  | block body _ => block (normalEach body) none
  | function name parameters body _ =>
    function name.normal (normalEach parameters) body.normal none
  | returning argument _ => returning (normalOptional argument) none
  | update operator argument leading _ => update operator argument.normal leading none
  | parameter name _ => parameter name none
  | unsupported source detail _ => unsupported source detail none
  | foreign kind _ => foreign kind none
termination_by structural node => node

def normalOptional : Option Node → Option Node
  | none => none
  | some node => some node.normal
termination_by structural node => node

def normalEach : List Node → List Node
  | [] => []
  | node :: nodes => node.normal :: normalEach nodes
termination_by structural nodes => nodes

def normalElements : List (Option Node) → List (Option Node)
  | [] => []
  | node :: nodes => normalOptional node :: normalElements nodes
termination_by structural nodes => nodes

end

end Forms

mutual

/-- The literals in a tree with their spellings, in the order in which they stand in it. -/
def literals : Node → List (Literal × Option Text)
  | literal value raw _ => [(value, raw)]
  | program body _ | block body _ => literalsEach body
  | expressionStatement inner _ | unary _ inner _ _ | update _ inner _ _ => inner.literals
  | call callee arguments _ => callee.literals ++ literalsEach arguments
  | member left right _ _ | binary _ left right _ | logical _ left right _
  | assignment _ left right _ | whileLoop left right _ => left.literals ++ right.literals
  | declaration declarations _ _ => literalsEach declarations
  | declarator target initial _ => target.literals ++ literalsOptional initial
  | array elements _ => literalsElements elements
  | ifElse test consequent alternate _ =>
    test.literals ++ (consequent.literals ++ literalsOptional alternate)
  | forLoop initial test advance body _ =>
    literalsOptional initial
      ++ (literalsOptional test ++ (literalsOptional advance ++ body.literals))
  | function name parameters body _ =>
    name.literals ++ (literalsEach parameters ++ body.literals)
  | returning argument _ => literalsOptional argument
  | identifier _ _ | parameter _ _ | unsupported _ _ _ | foreign _ _ => []
termination_by structural node => node

def literalsOptional : Option Node → List (Literal × Option Text)
  | none => []
  | some node => node.literals
termination_by structural node => node

def literalsEach : List Node → List (Literal × Option Text)
  | [] => []
  | node :: nodes => node.literals ++ literalsEach nodes
termination_by structural nodes => nodes

def literalsElements : List (Option Node) → List (Literal × Option Text)
  | [] => []
  | node :: nodes => literalsOptional node ++ literalsElements nodes
termination_by structural nodes => nodes

end

section Equality

variable (form : Literal → Option Text → Literal)

/-- The normal form of an option is that of the node in it. -/
@[simp]
theorem normalOptional_eq_map (node : Option Node)
    : normalOptional form node = node.map (normal form) := by
  cases node <;> rfl

/-- The normal form of a list is that of each of its nodes. -/
@[simp]
theorem normalEach_eq_map (nodes : List Node)
    : normalEach form nodes = nodes.map (normal form) := by
  induction nodes with
  | nil => rfl
  | cons node nodes ih => rw [normalEach, ih, List.map_cons]

/-- The normal form of elements is that of each of them, with holes where they were. -/
@[simp]
theorem normalElements_eq_map (elements : List (Option Node))
    : normalElements form elements = elements.map (Option.map (normal form)) := by
  induction elements with
  | nil => rfl
  | cons element elements ih =>
      rw [normalElements, ih, normalOptional_eq_map, List.map_cons]

/-- Two literals, each with its spelling, that have one normal form if they are equal. -/
def Agree (left right : Literal × Option Text) : Prop :=
  left.1.same right.1 = true → left.2 = right.2 → form left.1 left.2 = form right.1 right.2

/-- A tree takes from the literals in front of some others what belongs to it, and has a normal form
in common with every equal tree whose literals agree with those. -/
def Settles (node : Node) : Prop :=
  ∀ other rest rest',
    node.same other = true
    → List.Forall₂ (Agree form) (node.literals ++ rest) (other.literals ++ rest')
    → node.normal form = other.normal form ∧ List.Forall₂ (Agree form) rest rest'

variable {form}

/-- An option settles if the node in it does. -/
theorem settles_optional {node : Option Node} (h : ∀ inner ∈ node, Settles form inner)
    {other : Option Node} {rest rest' : List (Literal × Option Text)}
    (hs : sameOption node other = true)
    (hl : List.Forall₂ (Agree form) (literalsOptional node ++ rest)
      (literalsOptional other ++ rest'))
    : normalOptional form node = normalOptional form other
      ∧ List.Forall₂ (Agree form) rest rest' := by
  match node, other with
  | none, none => exact ⟨rfl, hl⟩
  | some node, some other =>
      obtain ⟨hn, hr⟩ := h node rfl other rest rest' hs hl
      exact ⟨congrArg some hn, hr⟩

/-- A list settles if each of its nodes does. -/
theorem settles_each {nodes : List Node} (h : ∀ node ∈ nodes, Settles form node)
    {others : List Node} {rest rest' : List (Literal × Option Text)}
    (hs : sameList nodes others = true)
    (hl : List.Forall₂ (Agree form) (literalsEach nodes ++ rest) (literalsEach others ++ rest'))
    : normalEach form nodes = normalEach form others ∧ List.Forall₂ (Agree form) rest rest' := by
  induction nodes generalizing others with
  | nil =>
      cases others with
      | nil => exact ⟨rfl, hl⟩
      | cons other others => exact absurd hs nofun
  | cons node nodes ih =>
      cases others with
      | nil => exact absurd hs nofun
      | cons other others =>
          obtain ⟨hnode, hnodes⟩ := Bool.and_eq_true_iff.mp hs
          rw [literalsEach, literalsEach, List.append_assoc, List.append_assoc] at hl
          obtain ⟨hn, hl⟩ := h node List.mem_cons_self other _ _ hnode hl
          obtain ⟨hns, hr⟩ := ih (fun node hm => h node (List.mem_cons_of_mem _ hm)) hnodes hl
          exact ⟨congrArg₂ List.cons hn hns, hr⟩

/-- Elements settle if each node among them does. -/
theorem settles_elements {elements : List (Option Node)}
    (h : ∀ node, some node ∈ elements → Settles form node)
    {others : List (Option Node)} {rest rest' : List (Literal × Option Text)}
    (hs : sameOptions elements others = true)
    (hl : List.Forall₂ (Agree form) (literalsElements elements ++ rest)
      (literalsElements others ++ rest'))
    : normalElements form elements = normalElements form others
      ∧ List.Forall₂ (Agree form) rest rest' := by
  induction elements generalizing others with
  | nil =>
      cases others with
      | nil => exact ⟨rfl, hl⟩
      | cons other others => exact absurd hs nofun
  | cons element elements ih =>
      cases others with
      | nil => exact absurd hs nofun
      | cons other others =>
          obtain ⟨helement, helements⟩ := Bool.and_eq_true_iff.mp hs
          rw [literalsElements, literalsElements, List.append_assoc, List.append_assoc] at hl
          have hone : ∀ inner ∈ element, Settles form inner := by
            rintro inner ⟨⟩
            exact h inner List.mem_cons_self
          obtain ⟨hn, hl⟩ := settles_optional hone helement hl
          obtain ⟨hns, hr⟩ := ih (fun node hm => h node (List.mem_cons_of_mem _ hm)) helements hl
          exact ⟨congrArg₂ List.cons hn hns, hr⟩

/-- Two nodes settle one after the other. -/
theorem settles_pair {left right left' right' : Node} (hleft : Settles form left)
    (hright : Settles form right) {rest rest' : List (Literal × Option Text)}
    (hs : left.same left' = true ∧ right.same right' = true)
    (hl : List.Forall₂ (Agree form) (left.literals ++ right.literals ++ rest)
      (left'.literals ++ right'.literals ++ rest'))
    : left.normal form = left'.normal form ∧ right.normal form = right'.normal form
      ∧ List.Forall₂ (Agree form) rest rest' := by
  rw [List.append_assoc, List.append_assoc] at hl
  obtain ⟨hn, hl⟩ := hleft left' _ _ hs.1 hl
  obtain ⟨hn', hr⟩ := hright right' _ _ hs.2 hl
  exact ⟨hn, hn', hr⟩

/-- Every tree takes what belongs to it, by induction over the tree: its equal is of the same kind
and is taken apart along with it. -/
theorem settles (node : Node) : Settles form node := by
  induction node with
  | program body location ih =>
      intro other rest rest' hs hl
      cases other with
      | program body' location' =>
          obtain ⟨hn, hr⟩ := settles_each ih hs hl
          exact ⟨congrArg (program · none) hn, hr⟩
      | _ => exact absurd hs nofun
  | expressionStatement expression location ih =>
      intro other rest rest' hs hl
      cases other with
      | expressionStatement expression' location' =>
          obtain ⟨hn, hr⟩ := ih expression' rest rest' hs hl
          exact ⟨congrArg (expressionStatement · none) hn, hr⟩
      | _ => exact absurd hs nofun
  | call callee arguments location ihc iha =>
      intro other rest rest' hs hl
      cases other with
      | call callee' arguments' location' =>
          simp only [same, Bool.and_eq_true] at hs
          rw [literals, literals, List.append_assoc, List.append_assoc] at hl
          -- The callee leaves the literals of the arguments over, and these leave the rest.
          obtain ⟨hc, hl⟩ := ihc callee' _ _ hs.1 hl
          obtain ⟨ha, hr⟩ := settles_each iha hs.2 hl
          exact ⟨by rw [normal, normal, hc, ha], hr⟩
      | _ => exact absurd hs nofun
  | member object property computed location iho ihp =>
      intro other rest rest' hs hl
      cases other with
      | member object' property' computed' location' =>
          simp only [same, Bool.and_eq_true, decide_eq_true_eq] at hs
          obtain ⟨ho, hp, hr⟩ := settles_pair iho ihp hs.1 hl
          exact ⟨by rw [normal, normal, ho, hp, hs.2], hr⟩
      | _ => exact absurd hs nofun
  | literal value raw location =>
      intro other rest rest' hs hl
      cases other with
      | literal value' raw' location' =>
          simp only [same, Bool.and_eq_true, decide_eq_true_eq] at hs
          obtain ⟨hagree, hr⟩ := List.forall₂_cons.mp hl
          have hform : form value raw = form value' raw' := hagree hs.1 hs.2
          exact ⟨by rw [normal, normal, hform, hs.2], hr⟩
      | _ => exact absurd hs nofun
  | identifier name location =>
      intro other rest rest' hs hl
      cases other with
      | identifier name' location' =>
          simp only [same, decide_eq_true_eq] at hs
          exact ⟨by rw [normal, normal, hs], hl⟩
      | _ => exact absurd hs nofun
  | binary operator left right location ihl ihr =>
      intro other rest rest' hs hl
      cases other with
      | binary operator' left' right' location' =>
          simp only [same, Bool.and_eq_true, decide_eq_true_eq] at hs
          obtain ⟨hn, hn', hr⟩ := settles_pair ihl ihr ⟨hs.1.2, hs.2⟩ hl
          exact ⟨by rw [normal, normal, hs.1.1, hn, hn'], hr⟩
      | _ => exact absurd hs nofun
  | logical operator left right location ihl ihr =>
      intro other rest rest' hs hl
      cases other with
      | logical operator' left' right' location' =>
          simp only [same, Bool.and_eq_true, decide_eq_true_eq] at hs
          obtain ⟨hn, hn', hr⟩ := settles_pair ihl ihr ⟨hs.1.2, hs.2⟩ hl
          exact ⟨by rw [normal, normal, hs.1.1, hn, hn'], hr⟩
      | _ => exact absurd hs nofun
  | unary operator argument leading location ih =>
      intro other rest rest' hs hl
      cases other with
      | unary operator' argument' leading' location' =>
          simp only [same, Bool.and_eq_true, decide_eq_true_eq] at hs
          obtain ⟨hn, hr⟩ := ih argument' rest rest' hs.1.2 hl
          exact ⟨by rw [normal, normal, hs.1.1, hn, hs.2], hr⟩
      | _ => exact absurd hs nofun
  | assignment operator left right location ihl ihr =>
      intro other rest rest' hs hl
      cases other with
      | assignment operator' left' right' location' =>
          simp only [same, Bool.and_eq_true, decide_eq_true_eq] at hs
          obtain ⟨hn, hn', hr⟩ := settles_pair ihl ihr ⟨hs.1.2, hs.2⟩ hl
          exact ⟨by rw [normal, normal, hs.1.1, hn, hn'], hr⟩
      | _ => exact absurd hs nofun
  | declaration declarations keyword location ih =>
      intro other rest rest' hs hl
      cases other with
      | declaration declarations' keyword' location' =>
          simp only [same, Bool.and_eq_true, decide_eq_true_eq] at hs
          obtain ⟨hn, hr⟩ := settles_each ih hs.1 hl
          exact ⟨by rw [normal, normal, hn, hs.2], hr⟩
      | _ => exact absurd hs nofun
  | declarator target initial location iht ihi =>
      intro other rest rest' hs hl
      cases other with
      | declarator target' initial' location' =>
          simp only [same, Bool.and_eq_true] at hs
          rw [literals, literals, List.append_assoc, List.append_assoc] at hl
          obtain ⟨ht, hl⟩ := iht target' _ _ hs.1 hl
          obtain ⟨hi, hr⟩ := settles_optional ihi hs.2 hl
          exact ⟨by rw [normal, normal, ht, hi], hr⟩
      | _ => exact absurd hs nofun
  | array elements location ih =>
      intro other rest rest' hs hl
      cases other with
      | array elements' location' =>
          obtain ⟨hn, hr⟩ := settles_elements ih hs hl
          exact ⟨congrArg (array · none) hn, hr⟩
      | _ => exact absurd hs nofun
  | ifElse test consequent alternate location iht ihc iha =>
      intro other rest rest' hs hl
      cases other with
      | ifElse test' consequent' alternate' location' =>
          simp only [same, Bool.and_eq_true] at hs
          simp only [literals, List.append_assoc] at hl
          obtain ⟨ht, hl⟩ := iht test' _ _ hs.1.1 hl
          obtain ⟨hc, hl⟩ := ihc consequent' _ _ hs.1.2 hl
          obtain ⟨ha, hr⟩ := settles_optional iha hs.2 hl
          exact ⟨by rw [normal, normal, ht, hc, ha], hr⟩
      | _ => exact absurd hs nofun
  | whileLoop test body location iht ihb =>
      intro other rest rest' hs hl
      cases other with
      | whileLoop test' body' location' =>
          simp only [same, Bool.and_eq_true] at hs
          obtain ⟨ht, hb, hr⟩ := settles_pair iht ihb hs hl
          exact ⟨by rw [normal, normal, ht, hb], hr⟩
      | _ => exact absurd hs nofun
  | forLoop initial test advance body location ihi iht iha ihb =>
      intro other rest rest' hs hl
      cases other with
      | forLoop initial' test' advance' body' location' =>
          simp only [same, Bool.and_eq_true] at hs
          simp only [literals, List.append_assoc] at hl
          obtain ⟨hi, hl⟩ := settles_optional ihi hs.1.1.1 hl
          obtain ⟨ht, hl⟩ := settles_optional iht hs.1.1.2 hl
          obtain ⟨ha, hl⟩ := settles_optional iha hs.1.2 hl
          obtain ⟨hb, hr⟩ := ihb body' _ _ hs.2 hl
          exact ⟨by rw [normal, normal, hi, ht, ha, hb], hr⟩
      | _ => exact absurd hs nofun
  | block body location ih =>
      intro other rest rest' hs hl
      cases other with
      | block body' location' =>
          obtain ⟨hn, hr⟩ := settles_each ih hs hl
          exact ⟨congrArg (block · none) hn, hr⟩
      | _ => exact absurd hs nofun
  | function name parameters body location ihn ihp ihb =>
      intro other rest rest' hs hl
      cases other with
      | function name' parameters' body' location' =>
          simp only [same, Bool.and_eq_true] at hs
          simp only [literals, List.append_assoc] at hl
          obtain ⟨hn, hl⟩ := ihn name' _ _ hs.1.1 hl
          obtain ⟨hp, hl⟩ := settles_each ihp hs.1.2 hl
          obtain ⟨hb, hr⟩ := ihb body' _ _ hs.2 hl
          exact ⟨by rw [normal, normal, hn, hp, hb], hr⟩
      | _ => exact absurd hs nofun
  | returning argument location ih =>
      intro other rest rest' hs hl
      cases other with
      | returning argument' location' =>
          obtain ⟨hn, hr⟩ := settles_optional ih hs hl
          exact ⟨congrArg (returning · none) hn, hr⟩
      | _ => exact absurd hs nofun
  | update operator argument leading location ih =>
      intro other rest rest' hs hl
      cases other with
      | update operator' argument' leading' location' =>
          simp only [same, Bool.and_eq_true, decide_eq_true_eq] at hs
          obtain ⟨hn, hr⟩ := ih argument' rest rest' hs.1.2 hl
          exact ⟨by rw [normal, normal, hs.1.1, hn, hs.2], hr⟩
      | _ => exact absurd hs nofun
  | parameter name location =>
      intro other rest rest' hs hl
      cases other with
      | parameter name' location' =>
          simp only [same, decide_eq_true_eq] at hs
          exact ⟨by rw [normal, normal, hs], hl⟩
      | _ => exact absurd hs nofun
  | unsupported source detail location =>
      intro other rest rest' hs hl
      cases other with
      | unsupported source' detail' location' =>
          simp only [same, Bool.and_eq_true, decide_eq_true_eq] at hs
          exact ⟨by rw [normal, normal, hs.1, hs.2], hl⟩
      | _ => exact absurd hs nofun
  | foreign kind location =>
      intro other rest rest' hs hl
      cases other with
      | foreign kind' location' =>
          simp only [same, decide_eq_true_eq] at hs
          exact ⟨by rw [normal, normal, hs], hl⟩
      | _ => exact absurd hs nofun

/-- Equal trees have the same normal form if their literals have it, one by one. -/
theorem normal_eq_of_same {left right : Node} (h : left.same right = true)
    (hl : List.Forall₂ (Agree form) left.literals right.literals)
    : left.normal form = right.normal form := by
  refine (settles left right [] [] h ?_).1
  rwa [List.append_nil, List.append_nil]

end Equality

end DeviceScript.Node
