import DeviceScript.Proofs.Syntax.Estree
import Mathlib.Data.List.Forall2

/-! Reading of two trees side by side. If one of them mirrors the other one, but for places and for
empty statements in bodies, it is read as the node of the other one with the places moved.
-/

namespace DeviceScript

/-- A node with its place moved, and with the nodes directly below it changed. -/
def Node.rebuild (change : Node → Node) (move : Option Location → Option Location) : Node → Node
  | program body place => program (body.map change) (move place)
  | expressionStatement expression place => expressionStatement (change expression) (move place)
  | call callee arguments place => call (change callee) (arguments.map change) (move place)
  | member object property computed place =>
    member (change object) (change property) computed (move place)
  | literal value raw place => literal value raw (move place)
  | identifier name place => identifier name (move place)
  | binary operator left right place => binary operator (change left) (change right) (move place)
  | logical operator left right place => logical operator (change left) (change right) (move place)
  | unary operator argument leading place => unary operator (change argument) leading (move place)
  | assignment operator left right place =>
    assignment operator (change left) (change right) (move place)
  | declaration declarations keyword place =>
    declaration (declarations.map change) keyword (move place)
  | declarator target initial place =>
    declarator (change target) (initial.map change) (move place)
  | array elements place => array (elements.map (Option.map change)) (move place)
  | ifElse test consequent alternate place =>
    ifElse (change test) (change consequent) (alternate.map change) (move place)
  | whileLoop test body place => whileLoop (change test) (change body) (move place)
  | forLoop initial test advance body place =>
    forLoop (initial.map change) (test.map change) (advance.map change) (change body) (move place)
  | block body place => block (body.map change) (move place)
  | function name parameters body place =>
    function (change name) (parameters.map change) (change body) (move place)
  | returning argument place => returning (argument.map change) (move place)
  | update operator argument leading place => update operator (change argument) leading (move place)
  | parameter name place => parameter name (move place)
  | unsupported source detail place => unsupported source detail (move place)
  | foreign kind place => foreign kind (move place)

namespace Estree

/-- Tells whether a key holds a truth value, and so no node. -/
def isFlag (key : Text) : Bool :=
  key = "computed" || key = "prefix" || key = "generator" || key = "async" || key = "isAsync"

/-- Two values are the same, but for what is in a list or in a table. -/
inductive HasShapeOf : Datum → Datum → Prop where
  | same (value : Datum) : HasShapeOf value value
  | list (items others : List Datum) : HasShapeOf (.list items) (.list others)
  | table (entries others : List (Text × Datum)) : HasShapeOf (.table entries) (.table others)

/-- Says of a relation that each tree has its own values in its images, but for empty statements in
bodies and for places, which are moved. -/
structure IsMirror (mirrors : Datum → Datum → Prop) (move : Option Location → Option Location)
    : Prop where
  shape : ∀ {tree image}, mirrors tree image → HasShapeOf tree image
  place : ∀ {tree image}, mirrors tree image → location? image = move (location? tree)
  field : ∀ {tree image} (key : Text), mirrors tree image → key ≠ "loc" → isFlag key = false
    → mirrors (tree.field key) (image.field key)
  flag : ∀ {tree image} (key : Text), mirrors tree image → isFlag key = true
    → (image.field key).isNull = (tree.field key).isNull
      ∧ (image.field key).isPresent = (tree.field key).isPresent
  list : ∀ {tree image} (key : Text), mirrors tree image → key ≠ "loc" → isFlag key = false
    → key ≠ "body" → List.Forall₂ mirrors (tree.field key).items (image.field key).items
  body : ∀ {tree image}, mirrors tree image
    → List.Forall₂ mirrors
        ((tree.field "body").items.filter fun item => !isEmptyStatement item)
        ((image.field "body").items.filter fun item => !isEmptyStatement item)

variable {tree image : Datum} {key : Text}

-----------------------------------------------------------------------------------------
-- What a value is read as without a look into it
-----------------------------------------------------------------------------------------

section Shape

/-- Only null has the shape of null. -/
theorem HasShapeOf.isNull_eq (h : HasShapeOf tree image) : image.isNull = tree.isNull := by
  cases h <;> rfl

/-- The shapes of values have names. -/
theorem HasShapeOf.shapeName_eq (h : HasShapeOf tree image) : image.shapeName = tree.shapeName := by
  cases h <;> rfl

/-- A list or a table is no value of a literal. -/
theorem HasShapeOf.literalValue_eq (h : HasShapeOf tree image) (raw : Option Text)
    : literalValue image raw = literalValue tree raw := by
  cases h <;> rfl

/-- The text under a key has the shape of no other text. -/
theorem textField_eq_of_shape (h : HasShapeOf (tree.field key) (image.field key))
    : image.textField key = tree.textField key := by
  rw [Datum.textField_eq, Datum.textField_eq]
  generalize tree.field key = value, image.field key = other at h
  cases h <;> rfl

/-- An empty statement is known by a text. -/
theorem isEmptyStatement_eq_of_shape (h : HasShapeOf (tree.field "type") (image.field "type"))
    : isEmptyStatement image = isEmptyStatement tree := by
  rw [isEmptyStatement, isEmptyStatement, textField_eq_of_shape h]

end Shape

section Fields

variable {mirrors : Datum → Datum → Prop} {move : Option Location → Option Location}
  (hmirror : IsMirror mirrors move) (h : mirrors tree image)

include hmirror h

/-- A tree has its texts in its image. -/
theorem IsMirror.textField_eq (hk : key ≠ "loc") (hf : isFlag key = false)
    : image.textField key = tree.textField key :=
  textField_eq_of_shape (hmirror.shape (hmirror.field key h hk hf))

/-- A tree and its image state one kind. -/
theorem IsMirror.type?_eq : type? image = type? tree := by
  have hshape := hmirror.shape (hmirror.field "type" h (by decide) (by decide))
  rw [type?_eq_of_field, type?_eq_of_field]
  generalize tree.field "type" = value, image.field "type" = other at hshape
  cases hshape <;> rfl

/-- A literal and its image have one spelling. -/
theorem IsMirror.raw?_eq : raw? image = raw? tree := by
  have hshape := hmirror.shape (hmirror.field "raw" h (by decide) (by decide))
  unfold raw?
  generalize tree.field "raw" = value, image.field "raw" = other at hshape
  cases hshape <;> rfl

/-- What is refused in a tree is refused in its image. -/
theorem IsMirror.refused_eq (change : Node → Node) (detail : Text)
    : refused image detail = (refused tree detail).rebuild change move := by
  rw [refused, refused, hmirror.type?_eq h, hmirror.place h]
  rfl

end Fields

-----------------------------------------------------------------------------------------
-- What is read below a tree and below its image
-----------------------------------------------------------------------------------------

section Reading

variable {mirrors : Datum → Datum → Prop} {move : Option Location → Option Location}
  {change : Node → Node}

variable (mirrors change) in
/-- The images of a tree are read as the changed node of the tree. -/
def IsFollowed (tree : Datum) : Prop :=
  ∀ image, mirrors tree image → toNode image = change (toNode tree)

/-- Lists of which one mirrors the other one are read alike if their items are. -/
theorem map_of_mirrors {α : Type} {items others : List Datum} {read read' : Datum → α}
    (h : List.Forall₂ mirrors items others)
    (hread : ∀ item ∈ items, ∀ other, mirrors item other → read' other = read item)
    : others.map read' = items.map read := by
  induction h with
  | nil => rfl
  | cons hfirst _ ih =>
      rw [List.map_cons, List.map_cons, hread _ List.mem_cons_self _ hfirst,
        ih fun item hm => hread item (List.mem_cons_of_mem _ hm)]

variable (hmirror : IsMirror mirrors move) (h : mirrors tree image)

include hmirror h

/-- The image of an optional tree is read where the tree is. -/
theorem IsMirror.toNode?_eq (hread : IsFollowed mirrors change tree)
    : toNode? image = (toNode? tree).map change := by
  rw [toNode?, toNode?, (hmirror.shape h).isNull_eq, hread image h]
  split <;> rfl

variable (hk : key ≠ "loc") (hf : isFlag key = false)

include hk hf

/-- The node under a key is that of the tree, changed. -/
theorem IsMirror.child_eq (hread : IsFollowed mirrors change (tree.field key))
    : child image key = change (child tree key) := by
  rw [child_eq_toNode, child_eq_toNode, hread _ (hmirror.field key h hk hf)]

/-- A node that may be missing is there in both trees or in neither. -/
theorem IsMirror.optional_eq (hread : IsFollowed mirrors change (tree.field key))
    : optional image key = (optional tree key).map change := by
  rw [optional_eq_toNode?, optional_eq_toNode?,
    hmirror.toNode?_eq (hmirror.field key h hk hf) hread]

/-- The nodes of a list are those of the tree, each of them changed. -/
theorem IsMirror.children_eq (hb : key ≠ "body")
    (hread : ∀ item ∈ (tree.field key).items, IsFollowed mirrors change item)
    : children image key = (children tree key).map change := by
  rw [children_eq_map, children_eq_map, List.map_map]
  exact map_of_mirrors (hmirror.list key h hk hf hb) hread

omit hk hf

/-- The elements of an array are those of the tree, with the same holes. -/
theorem IsMirror.elements_eq
    (hread : ∀ item ∈ (tree.field "elements").items, IsFollowed mirrors change item)
    : elements image = (elements tree).map (Option.map change) := by
  rw [elements_eq_map, elements_eq_map, List.map_map]
  exact map_of_mirrors (hmirror.list "elements" h (by decide) (by decide) (by decide))
    fun item hm other hother => hmirror.toNode?_eq hother (hread item hm)

/-- Bodies are read alike, whatever empty statements there are in them. -/
theorem IsMirror.statements_eq
    (hread : ∀ item ∈ (tree.field "body").items, IsFollowed mirrors change item)
    : statements image = (statements tree).map change := by
  rw [statements_eq_map, statements_eq_map, List.map_map]
  exact map_of_mirrors (hmirror.body h) fun item hm => hread item (List.mem_filter.mp hm).1

variable (hchange : ∀ node, change node = node.rebuild change move)

include hchange

/-- A parameter is a name with its place, or refused. -/
theorem IsMirror.parameter_eq : parameter image = change (parameter tree) := by
  rw [hchange]
  simp only [parameter, hmirror.textField_eq h (by decide : ("type" : Text) ≠ "loc") (by decide),
    hmirror.textField_eq h (by decide : ("name" : Text) ≠ "loc") (by decide), hmirror.place h,
    hmirror.refused_eq h change]
  split <;> rfl

/-- The parameters of a function are those of the tree, changed. -/
theorem IsMirror.parameters_eq : parameters image = (parameters tree).map change := by
  rw [parameters_eq_map, parameters_eq_map, List.map_map]
  exact map_of_mirrors (hmirror.list "params" h (by decide) (by decide) (by decide))
    fun _ _ _ hother => hmirror.parameter_eq hother hchange

/-- The body of a function is a block with a place. -/
theorem IsMirror.functionBody_eq
    (hread : ∀ item ∈ ((tree.field "body").field "body").items, IsFollowed mirrors change item)
    : functionBody image = change (functionBody tree) := by
  have hbody := hmirror.field "body" h (by decide) (by decide)
  rw [functionBody_eq_block, functionBody_eq_block, hmirror.statements_eq hbody hread,
    hmirror.place hbody, hchange (.block _ _)]
  rfl

end Reading

/-- The image of a tree is read as the node of the tree with the places moved, by induction along
reading. -/
theorem IsMirror.toNode_eq {mirrors : Datum → Datum → Prop}
    {move : Option Location → Option Location} {change : Node → Node}
    (hmirror : IsMirror mirrors move) (hchange : ∀ node, change node = node.rebuild change move)
    (h : mirrors tree image)
    : toNode image = change (toNode tree) := by
  revert image
  change IsFollowed mirrors change tree
  induction tree using induct_fields with
  | null =>
      -- A missing field is read like null, and there is no place in that either.
      intro image h
      cases hmirror.shape h with
      | same =>
          have hplace : none = move none := hmirror.place h
          rw [hchange, toNode_null, Node.rebuild, ← hplace]
  | step tree hfield hitems hinner =>
      intro image h
      rw [hchange (toNode tree)]
      have hchild : ∀ key : Text, key ≠ "loc" → isFlag key = false →
          child image key = change (child tree key) :=
        fun key hk hf => hmirror.child_eq h hk hf (hfield key)
      have hoptional : ∀ key : Text, key ≠ "loc" → isFlag key = false →
          optional image key = (optional tree key).map change :=
        fun key hk hf => hmirror.optional_eq h hk hf (hfield key)
      have hchildren : ∀ key : Text, key ≠ "loc" → isFlag key = false → key ≠ "body" →
          children image key = (children tree key).map change :=
        fun key hk hf hb => hmirror.children_eq h hk hf hb (hitems key)
      have htext : ∀ key : Text, key ≠ "loc" → isFlag key = false →
          image.textField key = tree.textField key :=
        fun key hk hf => hmirror.textField_eq h hk hf
      have hflag : ∀ key : Text, isFlag key = true →
          (image.field key).isNull = (tree.field key).isNull :=
        fun key hf => (hmirror.flag key h hf).1
      have hpresent : ∀ key : Text, isFlag key = true →
          (image.field key).isPresent = (tree.field key).isPresent :=
        fun key hf => (hmirror.flag key h hf).2
      have hnull : ∀ key : Text, key ≠ "loc" → isFlag key = false →
          (image.field key).isNull = (tree.field key).isNull :=
        fun key hk hf => (hmirror.shape (hmirror.field key h hk hf)).isNull_eq
      have hvalue : literalValue (image.field "value") = literalValue (tree.field "value") :=
        funext (hmirror.shape (hmirror.field "value" h (by decide) (by decide))).literalValue_eq
      -- Both trees state one kind, and the node of that kind is read from the same fields.
      rw [toNode.eq_def image, toNode.eq_def tree, hmirror.type?_eq h, hmirror.place h,
        (hmirror.shape h).shapeName_eq]
      cases type? tree with
      | none => rfl
      | some type =>
          dsimp only
          cases NodeKind.all.find? fun kind => kind.name = type with
          | none => rfl
          | some kind =>
              cases kind with
              | program | block => simp only [hmirror.statements_eq h (hitems _), Node.rebuild]
              | literal =>
                  simp only [hnull "regex" (by decide) (by decide), hmirror.raw?_eq h, hvalue]
                  split
                  · rfl
                  · exact hmirror.refused_eq h change _
              | declarator =>
                  have hid := hmirror.field "id" h (by decide) (by decide)
                  simp (disch := decide) only [hmirror.textField_eq hid, hchild, hoptional]
                  split
                  · rfl
                  · exact hmirror.refused_eq h change _
              | array => simp only [hmirror.elements_eq h (hitems _), Node.rebuild]
              | function =>
                  have hid := hmirror.field "id" h (by decide) (by decide)
                  simp (disch := decide) only [hpresent, hmirror.textField_eq hid, hmirror.place hid,
                    hmirror.parameters_eq h hchange, hmirror.functionBody_eq h hchange (hinner _ _)]
                  split
                  · exact hmirror.refused_eq h change _
                  · rw [Node.rebuild, hchange (.identifier _ _)]
                    rfl
              | parameter | unsupported => rfl
              | _ =>
                  simp (disch := decide) only [hchild, hoptional, hchildren, htext, hflag, hpresent,
                    Node.rebuild]

end Estree

end DeviceScript
