import DeviceScript.Proofs.Emission.Occurrence
import DeviceScript.Proofs.Emission.Program

/-! What becomes of the effects of a program: how often each call, assignment and update is written
into the C++ text.
-/

namespace DeviceScript.Fragment

open Cpp (Tree)

variable {style : Style} {depth : Nat}

/-- Parentheses do not change what a tree does. -/
@[simp]
theorem actions_placed (node : Node) (strength : Nat) (right : Bool) (tree : Tree)
    : (node.placed strength right tree).actions = tree.actions := by
  unfold Node.placed
  split
  · exact Tree.actions_group tree
  · rfl

/-- A method places its receiver without a change in what it does. -/
@[simp]
theorem actions_methodPlaced (method : Method) (node : Node) (tree : Tree)
    : (method.placed node tree).actions = tree.actions := by
  cases method <;> exact actions_placed node _ _ tree

/-- A tree in parentheses is no removal with a result if it is none without them. -/
theorem isReader_placed {node : Node} {tree : Tree} (strength : Nat) (right : Bool)
    (h : tree.isReader = false)
    : (node.placed strength right tree).isReader = false := by
  unfold Node.placed
  split
  · rfl
  · exact h

/-- No node is laid out as the selection of a name that only templates select, by induction over the
size of the node. -/
theorem isReader_layout (style : Style) (depth : Nat) (node : Node)
    : (layout style depth node).isReader = false := by
  cases node with
  | literal value raw location =>
      rw [layout]
      cases value with
      | real number =>
          simp only [literalTree]
          split <;> rfl
      | _ => rfl
  | array elements location =>
      rw [layout_array]
      split <;> rfl
  | binary operator left right location | logical operator left right location =>
      rw [layout, operationTree]
      split <;> rfl
  | unary operator argument leading location | assignment operator left right location =>
      rw [layout]
      split <;> rfl
  | member object property computed location =>
      rw [layout]
      cases computed with
      | true => rfl
      | false =>
          simp only [Bool.false_eq_true, if_false]
          cases property with
          | identifier name place =>
              simp only [propertyTree]
              split
              · rename_i access ha
                exact Tree.isReader_property? _ ha
              · split
                · exact isReader_placed _ _ (isReader_layout style depth object)
                · cases replacement? style.shims (Node.dottedName?
                      (.member object (.identifier name place) false location)) with
                  | some target => exact Tree.isReader_qualified target
                  | none => rfl
          | _ => rfl
  | call callee arguments location =>
      cases hs : callee.selected? with
      | none =>
          rw [layout_ordinary _ _ _ _ hs]
          rfl
      | some selection =>
          rw [layout_selected _ _ _ _ hs]
          exact Tree.isReader_method _ _ _
  | declarator target initial location =>
      rw [layout_declarator]
      rfl
  | ifElse test consequent alternate location =>
      rw [layout_ifElse]
      cases alternate with
      | none => rfl
      | some node =>
          simp only [Option.elim, alternateLayout]
          split <;> rfl
  | whileLoop test body location =>
      rw [layout_whileLoop]
      rfl
  | forLoop initial test advance body location =>
      rw [layout_forLoop]
      rfl
  | function name parameters body location =>
      rw [layout_function]
      split <;> rfl
  | returning argument location =>
      rw [layout_returning]
      rfl
  | _ =>
      simp only [layout]
      rfl
termination_by sizeOf node

-----------------------------------------------------------------------------------------
-- The actions of parts, with repetitions
-----------------------------------------------------------------------------------------

/-- The actions that a part adds to the node it stands in. -/
def partActions (style : Style) (depth : Nat) (part : Part) : List Tree :=
  (List.replicate part.copies
    (layout style (depth + part.enclosed.toNat) part.node).actions).flatten

/-- A part that is one node does what the node does. -/
theorem partActions_node (node : Node)
    : partActions style depth { node } = (layout style depth node).actions := List.append_nil _

/-- Parts that are one node each do what the nodes do, in their order. -/
@[simp]
theorem flatMap_partActions (nodes : List Node)
    : (nodes.map fun node => ({ node } : Part)).flatMap (partActions style depth)
      = (nodes.map (layout style depth)).flatMap Tree.actions := by
  rw [List.flatMap_map, List.flatMap_map]
  exact List.flatMap_congr fun node _ => partActions_node node

/-- The parts of a body do what its statements do. -/
@[simp]
theorem flatMap_bodyActions (body : Node)
    : body.bodyParts.flatMap (partActions style depth)
      = (body.inner.map (layout style (depth + 1))).flatMap Tree.actions := by
  rw [Node.bodyParts, List.flatMap_map, List.flatMap_map]
  exact List.flatMap_congr fun node _ => List.append_nil _

/-- The part of an option does what the node in it does. -/
@[simp]
theorem flatMap_optionActions (node : Option Node)
    : (node.toList.map fun node => ({ node } : Part)).flatMap (partActions style depth)
      = (node.map (layout style depth)).toList.flatMap Tree.actions := by
  rw [flatMap_partActions]
  cases node <;> rfl

/-- A declarator behind the first one does what it would do alone. -/
theorem actions_continuedLayout (node : Node)
    : (continuedLayout style depth node).actions = (layout style depth node).actions := by
  cases node with
  | declarator target initial location =>
      rw [continuedLayout_declarator, layout_declarator, Tree.actions_of_not_isAction rfl,
        Tree.actions_of_not_isAction rfl]
      rfl
  | _ => simp only [continuedLayout]

/-- A statement holds the same actions in a loop header as it does elsewhere. -/
theorem actions_headerLayout (node : Node)
    : (headerLayout style depth node).actions = (layout style depth node).actions := by
  cases node with
  | declaration declarations keyword location =>
      cases declarations with
      | nil =>
          simp only [headerLayout, layout, List.map_nil]
          rw [Tree.actions_of_not_isAction rfl, Tree.actions_of_not_isAction rfl]
          rfl
      | cons first rest =>
          simp only [headerLayout, layout, List.map_cons]
          rw [Tree.actions_of_not_isAction rfl, Tree.actions_of_not_isAction rfl]
          simp only [Tree.parts, List.flatMap_cons, List.flatMap_map, actions_continuedLayout]
  | _ =>
      simp only [headerLayout]
      exact Tree.actions_of_one rfl rfl

-----------------------------------------------------------------------------------------
-- Calls, accesses and conditionals repeat the actions of their parts
-----------------------------------------------------------------------------------------

/-- An ordinary call acts, and so do its arguments and, unless a name replaces it, what it calls. -/
theorem actions_ordinary {callee : Node} (arguments : List Node) (location : Option Location)
    (h : callee.selected? = none)
    : (layout style depth (.call callee arguments location)).actions
      = layout style depth (.call callee arguments location)
          :: ((Node.call callee arguments location).remainingParts style.shims).flatMap
            (partActions style depth) := by
  have hlist : ((arguments.map fun node =>
        node.placed Operator.argument false (layout style depth node)).flatMap Tree.actions)
      = (arguments.map fun node => ({ node } : Part)).flatMap (partActions style depth) := by
    simp only [List.flatMap_map, actions_placed, partActions_node]
  rw [layout_ordinary _ _ _ _ h]
  simp only [Node.remainingParts, Node.isReplaced, Node.parts, h, Option.isNone_none, Bool.true_and]
  cases replacement? style.shims callee.dottedName? with
  | some target =>
      simp only [Option.map_some, Option.getD_some, Option.isSome_some, if_true, List.tail_cons]
      rw [Tree.actions_call (Tree.isReading_call (Tree.isReader_qualified target) _), hlist,
        Tree.actions_qualified, List.nil_append]
  | none =>
      have hcallee : (callee.placed Operator.primary false (layout style depth callee)).isReader
          = false :=
        isReader_placed _ _ (isReader_layout style depth callee)
      simp only [Option.map_none, Option.getD_none, Option.isSome_none, Bool.false_eq_true, if_false,
        List.flatMap_cons, partActions_node]
      rw [Tree.actions_call (Tree.isReading_call hcallee _), hlist, actions_placed]

/-- A call of a method acts, repeats the object and a position, and leaves out the arguments of a
method that takes none. -/
theorem actions_selected {callee object : Node} {method : Method} {arguments : List Node}
    (location : Option Location) (h : callee.selected? = some (method, object))
    (fits : method.isFaultyCall arguments = false)
    : (layout style depth (.call callee arguments location)).actions.Perm
        (layout style depth (.call callee arguments location)
          :: ((Node.call callee arguments location).remainingParts style.shims).flatMap
            (partActions style depth)) := by
  have hremaining : (Node.call callee arguments location).remainingParts style.shims
      = { node := object, copies := method.objectCopies } :: method.argumentParts arguments := by
    simp only [Node.remainingParts, Node.isReplaced, Node.parts, h, Option.isNone_some,
      Bool.false_and, Bool.false_eq_true, if_false]
  have hleft : ∀ nodes : List Node,
      (nodes.map fun node => ({ node, copies := 0 } : Part)).flatMap (partActions style depth)
        = [] := by
    intro nodes
    rw [List.flatMap_map]
    exact List.flatMap_eq_nil_iff.mpr fun _ _ => rfl
  rw [layout_selected _ _ _ _ h, hremaining, List.flatMap_cons]
  cases method with
  | pop =>
      rw [Method.argumentParts, hleft, List.append_nil, Tree.method, Tree.actions_popped,
        actions_placed]
      exact .of_eq (congrArg _ (partActions_node object).symm)
  | shift =>
      rw [Method.argumentParts, hleft, List.append_nil, Tree.method, Tree.actions_shifted,
        actions_placed]
      exact .of_eq (congrArg _ (Tree.flatten_pair _).symm)
  | reverse =>
      rw [Method.argumentParts, hleft, List.append_nil, Tree.method, Tree.actions_reversed,
        actions_placed]
      exact .of_eq (congrArg _ (Tree.flatten_pair _).symm)
  | push =>
      rcases arguments with _ | ⟨argument, _ | ⟨_, _⟩⟩
      · cases fits
      · simp only [Method.argumentParts, List.map_cons, List.map_nil, Tree.method]
        rw [Tree.actions_call rfl, Tree.actions_dot, actions_placed]
        simp only [List.flatMap_cons, List.flatMap_nil, actions_methodPlaced, Method.objectCopies,
          partActions_node]
        exact .refl _
      · cases fits
  | splice =>
      have htriple : partActions style depth { node := object, copies := 3 }
          = (layout style depth object).actions
              ++ ((layout style depth object).actions ++ (layout style depth object).actions) :=
        congrArg _ (Tree.flatten_pair _)
      have hpair : ∀ node, partActions style depth { node, copies := 2 }
          = (layout style depth node).actions ++ (layout style depth node).actions :=
        fun node => Tree.flatten_pair _
      rcases arguments with _ | ⟨position, _ | ⟨count, _ | ⟨_, _⟩⟩⟩
      · cases fits
      · simp only [Method.argumentParts, List.map_cons, List.map_nil, Tree.method,
          List.flatMap_cons, List.flatMap_nil, Method.objectCopies, htriple, hpair]
        refine (Tree.actions_spliced _ _ _).trans (.of_eq ?_)
        simp only [actions_placed, actions_methodPlaced, Tree.actions_number, List.append_nil,
          List.cons_append]
      · simp only [Method.argumentParts, List.map_cons, List.map_nil, Tree.method,
          List.flatMap_cons, List.flatMap_nil, Method.objectCopies, htriple, hpair,
          partActions_node]
        refine (Tree.actions_spliced _ _ _).trans (.of_eq ?_)
        simp only [actions_placed, actions_methodPlaced, List.append_nil, List.cons_append,
          List.append_assoc]
      · cases fits

/-- A property that is not in brackets acts if it selects a method that acts at once. -/
theorem actions_access {object : Node} {name : Text} (place location : Option Location)
    : (layout style depth (.member object (.identifier name place) false location)).actions
      = (if (Node.member object (.identifier name place) false location).isAction then
          [layout style depth (.member object (.identifier name place) false location)]
          else [])
          ++ ((Node.member object (.identifier name place) false location).remainingParts
            style.shims).flatMap (partActions style depth) := by
  have hnone : ∀ object : Tree,
      (object.property? name).isNone = (property? [] name).isNone := by
    intro object
    have hsome := isSome_property? (object.print style.indent) name
    rw [← object.print_property? style.indent name, Option.isSome_map] at hsome
    rw [← Option.not_isSome, ← Option.not_isSome, hsome]
  have hparts : (Node.member object (.identifier name place) false location).parts
      = [{ node := object, copies := if name = "shift" ∨ name = "reverse" then 2 else 1 }] := rfl
  simp only [layout, Bool.false_eq_true, if_false, propertyTree, Node.isAction, Node.remainingParts,
    Node.isReplaced, hparts,
    ← hnone (object.placed Operator.primary false (layout style depth object))]
  cases ha : (object.placed Operator.primary false (layout style depth object)).property? name with
  | some access =>
      simp only [Option.isNone_some, Bool.false_and, Bool.false_eq_true, if_false, List.flatMap_cons,
        List.flatMap_nil, List.append_nil]
      rw [Tree.actions_property? _ ha, actions_placed]
      simp only [decide_eq_true_eq]
      rfl
  | none =>
      have hname := Tree.name_of_property?_eq_none _ ha
      have honce : ¬ (name = "shift" ∨ name = "reverse") := by
        rintro (rfl | rfl) <;> exact hname (by decide)
      simp only [hname, honce, decide_false, Bool.false_eq_true, if_false, Option.isNone_none,
        Bool.true_and, List.nil_append]
      cases isDeferred name with
      | true =>
          simp only [if_true, Bool.not_true, Bool.false_and, Bool.false_eq_true, if_false,
            actions_placed, List.flatMap_cons, List.flatMap_nil, List.append_nil, partActions_node]
      | false =>
          simp only [Bool.false_eq_true, if_false, Bool.not_false, Bool.true_and]
          cases replacement? style.shims (Node.dottedName?
              (.member object (.identifier name place) false location)) with
          | some target =>
              simp only [Option.map_some, Option.getD_some, Option.isSome_some, if_true,
                Tree.actions_qualified, List.tail_cons, List.flatMap_nil]
          | none =>
              simp only [Option.map_none, Option.getD_none, Option.isSome_none, Bool.false_eq_true,
                if_false, Tree.actions_scope, actions_placed, List.flatMap_cons, List.flatMap_nil,
                List.append_nil, partActions_node]

/-- An alternate does what its parts do, behind what its opening does. -/
theorem actions_alternateLayout (opening : Tree) (node : Node)
    : (alternateLayout style depth opening node).actions
      = opening.actions ++ node.alternateParts.flatMap (partActions style depth) := by
  unfold alternateLayout Node.alternateParts
  split
  · rw [Tree.actions_of_not_isAction rfl]
    simp only [Tree.parts, List.flatMap_cons, List.flatMap_nil, partActions_node]
  · rw [Tree.actions_of_not_isAction rfl, flatMap_bodyActions]
    rfl

-----------------------------------------------------------------------------------------
-- The actions of a node are those of its parts and its own
-----------------------------------------------------------------------------------------

/-- A node that is emitted without an error acts itself if it is an action, and all that its parts
do is what else it does: one case for each kind of node. -/
theorem actions_layout {node : Node} (clean : anyFatal (notes style depth node) = false)
    : (layout style depth node).actions.Perm
        ((if node.isAction then [layout style depth node] else [])
          ++ (node.remainingParts style.shims).flatMap (partActions style depth)) := by
  have faultless := not_isFaulty clean
  -- Only a method may write its parts in another order than they are listed in, so all other cases
  -- are equations.
  cases node with
  | program body location | declaration body keyword location =>
      refine .of_eq ?_
      change _ = (body.map fun node => ({ node } : Part)).flatMap (partActions style depth)
      rw [flatMap_partActions, layout, Tree.actions_of_not_isAction rfl]
      rfl
  | block body location =>
      refine .of_eq ?_
      change _ = (Node.block body location).bodyParts.flatMap (partActions style depth)
      rw [flatMap_bodyActions, layout, Tree.actions_of_not_isAction rfl]
      rfl
  | expressionStatement expression location =>
      refine .of_eq ?_
      rw [layout, Tree.actions_of_one rfl rfl]
      exact (flatMap_partActions [expression]).symm ▸ (List.append_nil _).symm
  | call callee arguments location =>
      cases hs : callee.selected? with
      | none => exact .of_eq (actions_ordinary arguments location hs)
      | some selection =>
          have hfits : selection.1.isFaultyCall arguments = false := by
            simpa only [Node.isFaulty, hs] using faultless
          exact actions_selected location hs hfits
  | member object property computed location =>
      cases computed with
      | true =>
          have haction : (Node.member object property true location).isAction = false := by
            cases property <;> rfl
          have hremaining : (Node.member object property true location).remainingParts style.shims
              = [{ node := object }, { node := property }] := by
            cases property <;> rfl
          refine .of_eq ?_
          rw [haction, hremaining, layout, if_pos rfl, Tree.actions_of_not_isAction rfl]
          simp only [Tree.parts, List.flatMap_cons, List.flatMap_nil, actions_placed,
            partActions_node]
          rfl
      | false =>
          cases property with
          | identifier name place => exact .of_eq (actions_access place location)
          | _ => cases faultless
  | literal value raw location =>
      refine .of_eq ?_
      rw [layout]
      cases value with
      | real number =>
          simp only [literalTree]
          split <;> exact Tree.actions_of_not_isAction rfl
      | _ => exact Tree.actions_of_not_isAction rfl
  | binary operator left right location | logical operator left right location =>
      refine .of_eq ?_
      have htranslated : operator ∉ Operator.untranslatedBinary := of_decide_eq_false faultless
      change _ = [({ node := left } : Part), { node := right }].flatMap (partActions style depth)
      rw [layout, operationTree, if_neg htranslated, Tree.actions_binary]
      simp only [actions_placed, List.flatMap_cons, List.flatMap_nil, partActions_node,
        List.append_nil]
  | unary operator argument leading location =>
      refine .of_eq ?_
      have htranslated : operator ∉ Operator.untranslatedUnary := of_decide_eq_false faultless
      change _ = [({ node := argument } : Part)].flatMap (partActions style depth)
      rw [layout, if_neg htranslated, unaryTree, Tree.actions_of_one rfl rfl]
      simp only [apply_ite Tree.actions, Tree.actions_group, ite_self, actions_placed,
        List.flatMap_cons, List.flatMap_nil, partActions_node, List.append_nil]
  | update operator argument leading location =>
      refine .of_eq ?_
      change _ = [layout style depth (.update operator argument leading location)]
        ++ [({ node := argument } : Part)].flatMap (partActions style depth)
      rw [layout, Tree.actions_of_isAction rfl]
      simp only [Tree.parts, actions_placed, List.flatMap_cons, List.flatMap_nil, partActions_node,
        List.cons_append, List.nil_append]
  | assignment operator left right location =>
      refine .of_eq ?_
      have htranslated : operator ∉ Operator.untranslatedAssignment := of_decide_eq_false faultless
      change _ = [layout style depth (.assignment operator left right location)]
        ++ [({ node := left } : Part), { node := right }].flatMap (partActions style depth)
      rw [layout, if_neg htranslated, Tree.actions_of_isAction rfl]
      simp only [Tree.parts, actions_placed, List.flatMap_cons, List.flatMap_nil, partActions_node,
        List.cons_append, List.nil_append]
  | declarator target initial location =>
      refine .of_eq ?_
      change _ = partActions style depth { node := target }
        ++ (initial.toList.map fun node => ({ node } : Part)).flatMap (partActions style depth)
      rw [layout_declarator, Tree.actions_of_not_isAction rfl, flatMap_optionActions,
        partActions_node]
      rfl
  | array elements location =>
      refine .of_eq ?_
      have hfull : elements.any Option.isNone = false := faultless
      change _ = ((elements.filterMap id).map fun node => ({ node } : Part)).flatMap
        (partActions style depth)
      rw [layout_array, hfull, if_neg Bool.false_ne_true, Tree.actions_of_not_isAction rfl]
      simp only [Tree.parts, List.flatMap_map, actions_placed, partActions_node]
  | ifElse test consequent alternate location =>
      refine .of_eq ?_
      have hopening : (Tree.conditional (layout style depth test)
            (consequent.inner.map (layout style (depth + 1)))).actions
          = partActions style depth { node := test }
              ++ consequent.bodyParts.flatMap (partActions style depth) := by
        rw [Tree.actions_of_not_isAction rfl, flatMap_bodyActions, partActions_node]
        rfl
      change _ = partActions style depth { node := test }
        ++ (consequent.bodyParts ++ alternate.toList.flatMap Node.alternateParts).flatMap
          (partActions style depth)
      rw [layout_ifElse, List.flatMap_append, ← List.append_assoc, ← hopening]
      cases alternate with
      | none => exact (List.append_nil _).symm
      | some node =>
          simp only [Option.elim, Option.toList, List.flatMap_cons, List.flatMap_nil,
            List.append_nil, actions_alternateLayout]
  | whileLoop test body location =>
      refine .of_eq ?_
      change _ = partActions style depth { node := test }
        ++ body.bodyParts.flatMap (partActions style depth)
      rw [layout_whileLoop, Tree.actions_of_not_isAction rfl, flatMap_bodyActions, partActions_node]
      rfl
  | forLoop initial test advance body location =>
      refine .of_eq ?_
      change _ = ((initial.toList ++ test.toList ++ advance.toList).map
        (fun node => ({ node } : Part)) ++ body.bodyParts).flatMap (partActions style depth)
      have hinitial : (initial.map (headerLayout style depth)).toList.flatMap Tree.actions
          = (initial.map (layout style depth)).toList.flatMap Tree.actions := by
        cases initial with
        | none => rfl
        | some node =>
            simp only [Option.map_some, Option.toList, List.flatMap_cons, List.flatMap_nil,
              actions_headerLayout]
      rw [layout_forLoop, Tree.actions_of_not_isAction rfl]
      simp only [Tree.parts, List.map_append, List.flatMap_append, flatMap_optionActions,
        flatMap_bodyActions, hinitial]
  | function name parameters body location =>
      refine .of_eq ?_
      have hopen : ¬ depth > 0 := of_decide_eq_false faultless
      change _ = ((parameters ++ [name]).map (fun node => ({ node } : Part))
        ++ body.bodyParts).flatMap (partActions style depth)
      rw [layout_function, if_neg hopen, Tree.actions_of_not_isAction rfl]
      simp only [Tree.parts, List.map_append, List.flatMap_append, flatMap_partActions,
        flatMap_bodyActions, List.map_cons, List.map_nil, List.flatMap_cons, List.flatMap_nil,
        partActions_node]
  | returning argument location =>
      refine .of_eq ?_
      change _ = (argument.toList.map fun node => ({ node } : Part)).flatMap
        (partActions style depth)
      rw [layout_returning, Tree.actions_of_not_isAction rfl, flatMap_optionActions]
      rfl
  | identifier name location | parameter name location | unsupported source detail location
  | foreign kind location =>
      refine .of_eq ?_
      rw [layout]
      exact Tree.actions_of_not_isAction rfl

-----------------------------------------------------------------------------------------
-- The effects of a program, and what it leaves out or repeats
-----------------------------------------------------------------------------------------

/-- What is written of an occurrence: its own tree, as often as it is copied. -/
def written (style : Style) (depth : Nat) (occurrence : Occurrence) : List Tree :=
  List.replicate occurrence.copies (layout style (depth + occurrence.depth) occurrence.node)

/-- Repeating a whole list repeats what each of its members yields. -/
theorem flatten_replicate_flatMap {α β : Type} (list : List α) (f : α → List β) (count : Nat)
    : (List.replicate count (list.flatMap f)).flatten.Perm
        (list.flatMap fun a => (List.replicate count (f a)).flatten) := by
  induction count with
  | zero => exact .of_eq (List.flatMap_eq_nil_iff.mpr fun _ _ => rfl).symm
  | succ count ih =>
      rw [List.replicate_succ, List.flatten_cons]
      exact (ih.append_left _).trans (List.flatMap_append_perm list f _)

/-- What a part does is written as often as the node copies the part. -/
theorem partActions_perm {part : Part} {occurrences : List Occurrence}
    (h : part.IsWritten → (layout style (depth + part.enclosed.toNat) part.node).actions.Perm
      (occurrences.flatMap (written style (depth + part.enclosed.toNat))))
    : (partActions style depth part).Perm
        ((occurrences.map (Occurrence.within part)).flatMap (written style depth)) := by
  have hwithin : ∀ occurrence : Occurrence, written style depth (occurrence.within part)
      = (List.replicate part.copies
          (written style (depth + part.enclosed.toNat) occurrence)).flatten := by
    intro occurrence
    simp only [written, Occurrence.copies_within, Occurrence.depth_within,
      List.flatten_replicate_replicate, Nat.add_assoc]
    rfl
  simp only [List.flatMap_map, hwithin]
  by_cases hw : part.copies = 0
  · simp only [partActions, hw, List.replicate_zero, List.flatten_nil]
    exact .of_eq (List.flatMap_eq_nil_iff.mpr fun _ _ => rfl).symm
  · have hcopies : (List.replicate part.copies
          (layout style (depth + part.enclosed.toNat) part.node).actions).flatten.Perm
        (List.replicate part.copies
          (occurrences.flatMap (written style (depth + part.enclosed.toNat)))).flatten := by
      induction part.copies with
      | zero => exact .refl _
      | succ count ih => exact (h hw).append ih
    exact hcopies.trans (flatten_replicate_flatMap _ _ _)

/-- The actions in the tree of a node are its occurrences, each as often as it is copied, by
induction over the size of the node. -/
theorem actions_occurrences (style : Style) (depth : Nat) {node : Node}
    (clean : anyFatal (notes style depth node) = false)
    : (layout style depth node).actions.Perm
        ((node.occurrences style.shims).flatMap (written style depth)) := by
  refine (actions_layout clean).trans ?_
  rw [Node.occurrences_eq, List.flatMap_append, List.flatMap_assoc]
  refine .append ?_ ?_
  · split <;> exact .refl _
  · refine List.Perm.flatMap_left _ fun part hm => partActions_perm fun hw => ?_
    have hparts := Node.mem_parts_of_remaining hm
    have hlt := Node.sizeOf_part hparts
    exact actions_occurrences style _ (not_anyFatal_part clean hparts hw)
termination_by sizeOf node

/-- The text of a program without an error spells a tree in which every call, assignment and update
of the program stands as often as the parts on the way to it are copied. -/
theorem effects_of_program (style : Style) (body : List Node) (location : Option Location)
    (progress : Progress)
    (clean : ((emitProgram style body).run progress).1.hasFatal = false)
    : ((emitProgram style body).run progress).1.text
        = (layout style 0 (.program body location)).print style.indent
      ∧ (layout style 0 (.program body location)).actions.Perm
          (((Node.program body location).occurrences style.shims).flatMap (written style 0))
      ∧ (∀ enclosed effect,
          (Node.program body location).Reaches (fun _ => True) false enclosed effect
          → effect.isEffect = true
          → ∃ occurrence ∈ (Node.program body location).occurrences style.shims,
              occurrence.node = effect) := by
  refine ⟨text_emitProgram style body location progress, ?_, ?_⟩
  · rw [hasFatal_emitProgram] at clean
    refine actions_occurrences style 0 ?_
    rw [notes]
    exact clean
  · intro enclosed effect h hi
    exact Node.exists_occurrence style.shims h hi

/-- The update of a counter behind its name. -/
def countUp (name : Text) : Node := .update "++" (.identifier name none) false none

/-- Removal of the first element of the list at a position that is counted up. -/
def shiftCounted : Node :=
  .expressionStatement
    (.call
      (.member (.member (.identifier "a" none) (countUp "i") true none) (.identifier "shift" none)
        false none) [] none) none

/-- Removal of the last element of a list with a counter as its argument. -/
def popCounted : Node :=
  .expressionStatement
    (.call (.member (.identifier "b" none) (.identifier "pop" none) false none) [countUp "j"] none)
    none

/-- The removal whose result counts is in the text as often as its occurrences say. -/
theorem effects_of_shiftCounted
    : (layout ⟨ShimTable.builtIn, "  "⟩ 0 (.program [shiftCounted] none)).actions.Perm
        (((Node.program [shiftCounted] none).occurrences ShimTable.builtIn).flatMap
          (written ⟨ShimTable.builtIn, "  "⟩ 0)) :=
  (effects_of_program ⟨ShimTable.builtIn, "  "⟩ [shiftCounted] none {} rfl).2.1

/-- One update is written twice and another one not at all, without an error. -/
theorem effects_repeated_and_lost
    : ((emitProgram ⟨ShimTable.builtIn, "  "⟩ [shiftCounted, popCounted]).run {}).1.hasFatal = false
      ∧ ((emitProgram ⟨ShimTable.builtIn, "  "⟩ [shiftCounted, popCounted]).run {}).1.text
        = "a[i++].erase(a[i++].begin());\nb.pop_back();"
      ∧ (∃ occurrence ∈ (Node.program [shiftCounted, popCounted] none).occurrences
          ShimTable.builtIn, occurrence.node = countUp "i" ∧ occurrence.copies = 2)
      ∧ ∃ occurrence ∈ (Node.program [shiftCounted, popCounted] none).occurrences
          ShimTable.builtIn, occurrence.node = countUp "j" ∧ occurrence.copies = 0 := by
  have hself : ∀ name, { node := countUp name, path := [] }
      ∈ (countUp name).occurrences ShimTable.builtIn := fun _ => Node.occurrence_self _ rfl
  refine ⟨rfl, rfl, ?_, ?_⟩
  · have hindex := Node.occurrence_within
      (.member (.identifier "a" none) (countUp "i") true none)
      (List.mem_cons_of_mem _ List.mem_cons_self) (hself "i")
    have hcall := Node.occurrence_within
      (.call
        (.member (.member (.identifier "a" none) (countUp "i") true none)
          (.identifier "shift" none) false none) [] none)
      List.mem_cons_self hindex
    have hstatement := Node.occurrence_within shiftCounted List.mem_cons_self hcall
    exact ⟨_, Node.occurrence_within _ List.mem_cons_self hstatement, rfl, rfl⟩
  · have hcall := Node.occurrence_within
      (.call (.member (.identifier "b" none) (.identifier "pop" none) false none)
        [countUp "j"] none)
      (List.mem_cons_of_mem _ List.mem_cons_self) (hself "j")
    have hstatement := Node.occurrence_within popCounted List.mem_cons_self hcall
    exact ⟨_, Node.occurrence_within _ (List.mem_cons_of_mem _ List.mem_cons_self) hstatement, rfl,
      rfl⟩

end DeviceScript.Fragment
