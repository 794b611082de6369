import DeviceScript.Proofs.Emission.Induction
import DeviceScript.Proofs.Emission.Report
import DeviceScript.Proofs.Syntax.Nodes
import Mathlib.Data.List.Perm.Subperm

/-! What reports point to. Every report is about a node of the program and names its place and its
kind, and no two errors are about one node, because emission comes to no node twice. Every replaced
name stands in the table of names.
-/

namespace DeviceScript

/-- What a report tells about the node that it is about. -/
structure Anchor where
  line : Option Int
  column : Option Int
  kind : Option Text
  deriving DecidableEq

/-- The kind of a node as reports name it, which for a construct outside the closed set is the kind
that it has in the script. -/
def Node.reportedKind : Node → Text
  | unsupported source _ _ => if source = [] then NodeKind.unsupported.name else source
  | node => node.kindName

def Node.anchor (node : Node) : Anchor where
  line := node.location.map Location.line
  column := node.location.map Location.column
  kind := some node.reportedKind

def Diagnostic.anchor (diagnostic : Diagnostic) : Anchor where
  line := diagnostic.line
  column := diagnostic.column
  kind := diagnostic.nodeKind

/-- The node that a note reports an error on. -/
def Note.refused? : Note → Option Node
  | report finding node => if finding.severity = .error then some node else none
  | replacement _ _ => none

/-- A report that names the kind of a node from a list, or a replacement from a table. -/
def Note.IsAnchoredIn (shims : ShimTable) (nodes : List Node) : Note → Prop
  | report finding node => node ∈ nodes ∧ finding.nodeKind node = node.reportedKind
  | replacement source target => shims.lookup? source = some target

/-- A note that is anchored in some nodes is anchored in more nodes. -/
theorem Note.IsAnchoredIn.mono {shims : ShimTable} {nodes nodes' : List Node} {note : Note}
    (h : note.IsAnchoredIn shims nodes) (hs : nodes ⊆ nodes')
    : note.IsAnchoredIn shims nodes' := by
  cases note with
  | report finding node => exact h.imp (fun h => hs h) id
  | replacement source target => exact h

/-- A note that is anchored and is no error. -/
def Note.IsRemarkOn (shims : ShimTable) (nodes : List Node) (note : Note) : Prop :=
  note.IsAnchoredIn shims nodes ∧ note.refused? = none

/-- All notes of a list are anchored in a list of nodes, and each of the nodes has at most one error
for each time that it stands in the list. -/
structure AnchoredIn (shims : ShimTable) (nodes : List Node) (notes : List Note) : Prop where
  each : ∀ note ∈ notes, note.IsAnchoredIn shims nodes
  refused : (notes.filterMap Note.refused?).Subperm nodes

namespace AnchoredIn

variable {shims : ShimTable} {nodes nodes' : List Node} {notes notes' : List Note}

/-- No notes are anchored anywhere. -/
theorem nil (shims : ShimTable) (nodes : List Node) : AnchoredIn shims nodes [] :=
  ⟨fun _ hm => absurd hm List.not_mem_nil, List.nil_subperm⟩

/-- Notes that are anchored in some nodes are anchored in more nodes. -/
theorem mono (h : AnchoredIn shims nodes notes) (hs : nodes.Subperm nodes')
    : AnchoredIn shims nodes' notes :=
  ⟨fun note hm => (h.each note hm).mono hs.subset, h.refused.trans hs⟩

/-- The order of notes is no matter of their anchors. -/
theorem reorder (h : AnchoredIn shims nodes notes) (hp : notes.Perm notes')
    : AnchoredIn shims nodes notes' :=
  ⟨fun note hm => h.each note (hp.mem_iff.mpr hm),
    (hp.symm.filterMap _).subperm.trans h.refused⟩

/-- Notes on two groups of nodes are anchored in both of them together. -/
theorem append (h : AnchoredIn shims nodes notes) (h' : AnchoredIn shims nodes' notes')
    : AnchoredIn shims (nodes ++ nodes') (notes ++ notes') := by
  constructor
  · intro note hm
    rcases List.mem_append.mp hm with hm | hm
    · exact (h.each note hm).mono (List.subset_append_left _ _)
    · exact (h'.each note hm).mono (List.subset_append_right _ _)
  · rw [List.filterMap_append]
    exact h.refused.append h'.refused

/-- The notes on the members of a list, by induction over the list. -/
theorem flatMap {α : Type} {list : List α} {nodes : α → List Node} {notes : α → List Note}
    (h : ∀ a ∈ list, AnchoredIn shims (nodes a) (notes a))
    : AnchoredIn shims (list.flatMap nodes) (list.flatMap notes) := by
  induction list with
  | nil => exact nil shims []
  | cons head tail ih =>
      rw [List.flatMap_cons, List.flatMap_cons]
      exact (h head List.mem_cons_self).append (ih fun a hm => h a (List.mem_cons_of_mem _ hm))

/-- Remarks may stand behind other notes, whatever errors these report. -/
theorem remark (h : AnchoredIn shims nodes notes)
    (hr : ∀ note ∈ notes', note.IsRemarkOn shims nodes)
    : AnchoredIn shims nodes (notes ++ notes') := by
  constructor
  · intro note hm
    rcases List.mem_append.mp hm with hm | hm
    · exact h.each note hm
    · exact (hr note hm).1
  · have hnone : notes'.filterMap Note.refused? = [] :=
      List.filterMap_eq_nil_iff.mpr fun note hm => (hr note hm).2
    rw [List.filterMap_append, hnone, List.append_nil]
    exact h.refused

/-- A node has its one error behind the notes on what stands below it. -/
theorem refuse (h : AnchoredIn shims nodes notes) {finding : Finding} {node : Node}
    (hk : finding.nodeKind node = node.reportedKind)
    : AnchoredIn shims (node :: nodes) (notes ++ [.report finding node]) := by
  have hone : AnchoredIn shims [node] [.report finding node] := by
    constructor
    · intro note hm
      rw [List.mem_singleton.mp hm]
      exact ⟨List.mem_singleton.mpr rfl, hk⟩
    · rw [List.filterMap_cons, List.filterMap_nil]
      split
      · exact List.nil_subperm
      · rename_i hsome
        rw [Note.refused?, Option.ite_none_right_eq_some] at hsome
        rw [← Option.some.inj hsome.2]
  exact (h.append hone).mono List.perm_append_comm.subperm

end AnchoredIn

namespace Fragment

variable {style : Style} {shims : ShimTable} {depth : Nat}

/-- The notes on a node are anchored in it. -/
abbrev Anchored (style : Style) (node : Node) : Prop :=
  ∀ depth, AnchoredIn style.shims node.nodes (notes style depth node)

-----------------------------------------------------------------------------------------
-- The notes on each kind of node are anchored in it
-----------------------------------------------------------------------------------------

/-- What is anchored below a node is anchored in the node. -/
theorem anchoredIn_of_children {node : Node} {notes : List Note}
    (h : AnchoredIn shims (node.children.flatMap Node.nodes) notes)
    : AnchoredIn shims node.nodes notes := by
  rw [Node.nodes_eq]
  exact h.mono List.Subperm.cons_self

/-- A refusal is anchored at the node that is refused. -/
theorem anchoredIn_refusal {node : Node} {finding : Finding}
    (hk : finding.nodeKind node = node.reportedKind)
    : AnchoredIn shims node.nodes [.report finding node] :=
  (AnchoredIn.nil shims node.descendants).refuse hk

/-- The notes on a node that may be missing are anchored in it where it is there. -/
theorem anchoredIn_optional {node : Option Node} {notes : Node → List Note}
    (h : ∀ inner ∈ node, AnchoredIn shims inner.nodes (notes inner))
    : AnchoredIn shims (node.toList.flatMap Node.nodes) (node.elim [] notes) := by
  cases node with
  | none => exact .nil _ _
  | some inner =>
      rw [Option.toList_some, List.flatMap_singleton]
      exact h inner rfl

/-- The statements between braces are anchored in the body, which may be one of them itself. -/
theorem anchoredIn_body (depth : Nat) {body : Node} (h : ∀ node ∈ body.inner, Anchored style node)
    : AnchoredIn style.shims body.nodes (body.inner.flatMap (notes style (depth + 1))) := by
  have hinner : AnchoredIn style.shims (body.inner.flatMap Node.nodes)
      (body.inner.flatMap (notes style (depth + 1))) :=
    .flatMap fun node hm => h node hm (depth + 1)
  cases body with
  | block statements location => exact anchoredIn_of_children hinner
  | _ => simpa only [Node.inner, List.flatMap_singleton] using hinner

/-- An element of another type is an element. -/
theorem mem_of_mem_heterogeneous {type : ElementType} {elements : List (Option Node)} {node : Node}
    {position : Nat} (h : (node, position) ∈ type.heterogeneous elements)
    : node ∈ elements.filterMap id := by
  unfold ElementType.heterogeneous at h
  split at h
  · exact absurd h List.not_mem_nil
  · obtain ⟨⟨element, place⟩, hm, he⟩ := List.mem_filterMap.mp h
    rw [Option.ite_none_right_eq_some] at he
    obtain ⟨found, hf, hnode⟩ := Option.map_eq_some_iff.mp he.2
    obtain ⟨rfl, -⟩ := Prod.mk.inj hnode
    have helement : element ∈ elements :=
      List.fst_mem_of_mem_zipIdx (List.mem_of_mem_tail hm)
    exact List.mem_filterMap.mpr ⟨element, helement, hf⟩

/-- An array that initialises a name is remarked on at the array and at its elements. -/
theorem isRemarkOn_initialNotes (name : Text) (value : Node)
    : ∀ note ∈ initialNotes name value, note.IsRemarkOn shims value.nodes := by
  cases value with
  | array elements location =>
      intro note hm
      simp only [initialNotes, elementNotes, List.mem_append, List.mem_flatMap] at hm
      rcases hm with hm | ⟨⟨element, position⟩, he, hm⟩
      · split at hm
        · rw [List.mem_singleton.mp hm]
          exact ⟨⟨Node.mem_nodes_self _, rfl⟩, rfl⟩
        · exact absurd hm List.not_mem_nil
      · have hbelow : element ∈ (Node.array elements location).nodes := by
          rw [Node.nodes_eq]
          refine List.mem_cons_of_mem _ (List.mem_flatMap.mpr ⟨element, ?_, element.mem_nodes_self⟩)
          exact mem_of_mem_heterogeneous he
        cases element with
        | literal value raw place =>
            rw [List.mem_singleton.mp hm]
            exact ⟨⟨hbelow, rfl⟩, rfl⟩
        | _ => exact absurd hm List.not_mem_nil
  | _ => exact fun note hm => absurd hm List.not_mem_nil

/-- The remark on a shared type is one on the declaration. -/
theorem isRemarkOn_sharedNotes (declaration : Node) (count : Nat) (parts : List Text)
    (hk : declaration.reportedKind = declaration.kindName)
    : ∀ note ∈ sharedNotes declaration count parts, note.IsRemarkOn shims declaration.nodes := by
  intro note hm
  simp only [sharedNotes] at hm
  split at hm
  · rw [List.mem_singleton.mp hm]
    exact ⟨⟨declaration.mem_nodes_self, hk.symm⟩, rfl⟩
  · exact absurd hm List.not_mem_nil

/-- A replaced name is no error, and is anchored anywhere. -/
theorem isRemarkOn_nameNotes (shims : ShimTable) (name : Option Text) (nodes : List Node)
    : ∀ note ∈ nameNotes shims name, note.IsRemarkOn shims nodes := by
  intro note hm
  unfold nameNotes at hm
  split at hm
  · exact absurd hm List.not_mem_nil
  · split at hm
    · exact absurd hm List.not_mem_nil
    · rename_i hlookup
      rw [List.mem_singleton.mp hm]
      exact ⟨hlookup, rfl⟩

/-- The notes on an operation are anchored at it and in its operands. -/
theorem anchoredIn_operation {node : Node} {operator : Text} {untranslated : List Text}
    {operands : List Note} (hk : node.reportedKind = node.kindName)
    (h : AnchoredIn shims (node.children.flatMap Node.nodes) operands)
    : AnchoredIn shims node.nodes (operationNotes node operator untranslated operands) := by
  unfold operationNotes
  split
  · exact anchoredIn_refusal hk.symm
  · exact anchoredIn_of_children h

/-- The notes on a declarator in a loop header, which are not on its array. -/
theorem anchoredIn_continued {node : Node}
    (h : ∀ inner ∈ node.nodes, Anchored style inner)
    : AnchoredIn style.shims node.nodes (continuedNotes style depth node) := by
  cases node with
  | declarator target initial location =>
      have ht := h target (Node.mem_nodes_of_child List.mem_cons_self) depth
      have hi : ∀ value ∈ initial, AnchoredIn style.shims value.nodes (notes style depth value) := by
        intro value hm
        refine h value (Node.mem_nodes_of_child (List.mem_cons_of_mem _ ?_)) depth
        exact Option.mem_toList.mpr hm
      rw [continuedNotes_declarator]
      exact anchoredIn_of_children (ht.append (anchoredIn_optional hi))
  | _ => simpa only [continuedNotes] using h _ (Node.mem_nodes_self _) depth

/-- The notes on a part of a loop header are anchored in it. -/
theorem anchoredIn_header {node : Node}
    (h : ∀ inner ∈ node.nodes, Anchored style inner)
    : AnchoredIn style.shims node.nodes (headerNotes style depth node) := by
  cases node with
  | declaration declarations keyword location =>
      cases declarations with
      | nil =>
          rw [headerNotes]
          exact .nil _ _
      | cons first rest =>
          have hf := h first (Node.mem_nodes_of_child List.mem_cons_self) depth
          have hr : AnchoredIn style.shims (rest.flatMap Node.nodes)
              (rest.flatMap (continuedNotes style depth)) :=
            .flatMap fun node hm => anchoredIn_continued fun inner hi =>
              h inner (Node.nodes_subset_of_child (List.mem_cons_of_mem first hm) hi)
          have hparts : AnchoredIn style.shims
              (Node.declaration (first :: rest) keyword location).nodes
              (notes style depth first ++ rest.flatMap (continuedNotes style depth)) :=
            anchoredIn_of_children (hf.append hr)
          rw [headerNotes]
          exact hparts.remark (isRemarkOn_sharedNotes _ _ _ rfl)
  | _ => simpa only [headerNotes] using h _ (Node.mem_nodes_self _) depth

/-- The notes on the alternative of a conditional. -/
theorem anchoredIn_alternate {node : Node}
    (h : ∀ inner ∈ node.nodes, Anchored style inner)
    : AnchoredIn style.shims node.nodes (alternateNotes style depth node) := by
  unfold alternateNotes
  split
  · exact h node node.mem_nodes_self depth
  · exact anchoredIn_body depth fun inner hm => h inner (Node.mem_nodes_of_inner hm)

/-- A property that is not in brackets is remarked on, or refused, at the access to it. -/
theorem anchoredIn_property {node property : Node} {object : List Note}
    (hk : node.reportedKind = node.kindName)
    (h : AnchoredIn style.shims (node.children.flatMap Node.nodes) object)
    : AnchoredIn style.shims node.nodes (object ++ propertyNotes style.shims node property) := by
  cases property with
  | identifier name place =>
      refine (anchoredIn_of_children h).remark ?_
      simp only [propertyNotes]
      split
      · exact fun note hm => absurd hm List.not_mem_nil
      · split
        · intro note hm
          rw [List.mem_singleton.mp hm]
          exact ⟨⟨node.mem_nodes_self, hk.symm⟩, rfl⟩
        · exact isRemarkOn_nameNotes _ _ _
  | _ =>
      rw [Node.nodes_eq]
      exact h.refuse hk.symm

/-- The notes on a call of a method: none, one error on the call, or those on all arguments. -/
theorem methodNotes_cases (method : Method) (node : Node) (arguments : List Node)
    (f : Node → List Note)
    : methodNotes method node (arguments.map f) = []
      ∨ (∃ finding : Finding, finding.nodeKind node = node.kindName
          ∧ methodNotes method node (arguments.map f) = [.report finding node])
      ∨ methodNotes method node (arguments.map f) = arguments.flatMap f := by
  cases method with
  | pop | shift | reverse => exact .inl rfl
  | push =>
      match arguments with
      | [] | _ :: _ :: _ => exact .inr (.inl ⟨_, rfl, rfl⟩)
      | [argument] => exact .inr (.inr (List.append_nil _).symm)
  | splice =>
      match arguments with
      | [] | _ :: _ :: _ :: _ => exact .inr (.inl ⟨_, rfl, rfl⟩)
      | [start] => exact .inr (.inr (List.append_nil _).symm)
      | [start, count] => exact .inr (.inr (congrArg (f start ++ ·) (List.append_nil _).symm))

/-- A call of a method of a container, from the notes on the container. -/
theorem anchoredIn_method {callee object : Node} {method : Method} {arguments : List Node}
    (location : Option Location) (h : callee.selected? = some (method, object))
    (ho : AnchoredIn style.shims object.nodes (notes style depth object))
    (ha : ∀ argument ∈ arguments, Anchored style argument)
    : AnchoredIn style.shims (Node.call callee arguments location).nodes
        (notes style depth object ++ methodNotes method (.call callee arguments location)
          (arguments.map (notes style depth))) := by
  obtain ⟨name, place, place', rfl, -⟩ := Node.selected?_eq_some h
  have hobject : AnchoredIn style.shims
      (Node.member object (.identifier name place) false place').nodes
      (notes style depth object) :=
    anchoredIn_of_children (ho.mono (List.sublist_append_left _ _).subperm)
  rw [Node.nodes_eq, Node.children, List.flatMap_cons]
  rcases methodNotes_cases method
    (.call (.member object (.identifier name place) false place') arguments location) arguments
    (notes style depth) with hm | ⟨finding, hk, hm⟩ | hm <;> rw [hm]
  · rw [List.append_nil]
    exact hobject.mono ((List.sublist_append_left _ _).cons _).subperm
  · exact (hobject.mono (List.sublist_append_left _ _).subperm).refuse hk
  · have hall := hobject.append (.flatMap fun node hm => ha node hm depth)
    exact hall.mono List.Subperm.cons_self

/-- A call of anything else, whose callee has no notes if a name replaces it. -/
theorem anchoredIn_ordinary {callee : Node} {arguments : List Node} (location : Option Location)
    (hc : Anchored style callee) (ha : ∀ argument ∈ arguments, Anchored style argument)
    : AnchoredIn style.shims (Node.call callee arguments location).nodes
        (arguments.flatMap (notes style depth) ++ nameNotes style.shims callee.dottedName?
          ++ if (replacement? style.shims callee.dottedName?).isSome then []
            else notes style depth callee) := by
  have harguments : AnchoredIn style.shims (arguments.flatMap Node.nodes)
      (arguments.flatMap (notes style depth) ++ nameNotes style.shims callee.dottedName?) :=
    (AnchoredIn.flatMap fun node hm => ha node hm depth).remark (isRemarkOn_nameNotes _ _ _)
  have hcallee : AnchoredIn style.shims callee.nodes
      (if (replacement? style.shims callee.dottedName?).isSome then []
        else notes style depth callee) := by
    split
    · exact .nil _ _
    · exact hc depth
  refine anchoredIn_of_children ((harguments.append hcallee).mono ?_)
  exact List.perm_append_comm.subperm

/-- The notes on a node are anchored in it, by induction along emission. -/
theorem anchored (style : Style) (node : Node) : Anchored style node := by
  intro depth
  induction node using Node.induct_emission generalizing depth with
  | program body location hb | declaration body _ location hb =>
      rw [notes]
      exact anchoredIn_of_children (.flatMap fun node hm => hb node hm depth)
  | block body location hb =>
      rw [notes]
      exact anchoredIn_of_children (.flatMap fun node hm => hb node hm (depth + 1))
  | expressionStatement inner location hi | update _ inner _ location hi =>
      rw [notes]
      refine anchoredIn_of_children ?_
      rw [Node.children, List.flatMap_singleton]
      exact hi depth
  | unary operator inner leading location hi =>
      rw [notes]
      refine anchoredIn_operation rfl ?_
      rw [Node.children, List.flatMap_singleton]
      exact hi depth
  | binary operator left right location hl hr | logical operator left right location hl hr
  | assignment operator left right location hl hr =>
      rw [notes]
      refine anchoredIn_operation rfl ?_
      rw [Node.children, List.flatMap_cons, List.flatMap_singleton]
      exact (hl depth).append (hr depth)
  | literal value raw location =>
      rw [notes]
      unfold literalNotes
      split
      · split
        · exact .nil _ _
        · exact anchoredIn_refusal rfl
      · exact .nil _ _
  | array elements location he =>
      rw [notes_array]
      split
      · exact anchoredIn_refusal rfl
      · exact anchoredIn_of_children (.flatMap fun node hm => he node hm depth)
  | member object property computed location ho hp =>
      rw [notes]
      cases computed with
      | true =>
          refine anchoredIn_of_children ?_
          rw [Node.children, List.flatMap_cons, List.flatMap_singleton, if_pos rfl]
          exact (ho depth).append (hp depth)
      | false =>
          rw [if_neg Bool.false_ne_true]
          refine anchoredIn_property rfl ((ho depth).mono ?_)
          rw [Node.children, List.flatMap_cons]
          exact (List.sublist_append_left _ _).subperm
  | ordinary callee arguments location hs hc ha =>
      rw [notes_ordinary _ _ _ _ hs]
      exact anchoredIn_ordinary location hc ha
  | selected callee arguments location method object hs ho ha =>
      rw [notes_selected _ _ _ _ hs]
      exact anchoredIn_method location hs (ho depth) ha
  | declarator target initial location ht hi =>
      have hinitial : AnchoredIn style.shims (initial.toList.flatMap Node.nodes)
          (initial.elim [] fun value =>
            initialNotes (text style depth target) value ++ notes style depth value) := by
        refine anchoredIn_optional fun value hm => ?_
        have hv := hi value hm depth
        exact (hv.remark (isRemarkOn_initialNotes _ value)).reorder List.perm_append_comm
      rw [notes_declarator]
      exact anchoredIn_of_children ((ht depth).append hinitial)
  | ifElse test consequent alternate location ht hc ha =>
      have halternate : AnchoredIn style.shims (alternate.toList.flatMap Node.nodes)
          (alternate.elim [] (alternateNotes style depth)) :=
        anchoredIn_optional fun node hm => anchoredIn_alternate (ha node hm)
      rw [notes_ifElse, List.append_assoc]
      exact anchoredIn_of_children
        ((ht depth).append ((anchoredIn_body depth hc).append halternate))
  | whileLoop test body location ht hb =>
      rw [notes_whileLoop]
      refine anchoredIn_of_children ?_
      rw [Node.children, List.flatMap_cons, List.flatMap_singleton]
      exact (ht depth).append (anchoredIn_body depth hb)
  | forLoop initial test advance body location hi ht ha hb =>
      have hinitial : AnchoredIn style.shims (initial.toList.flatMap Node.nodes)
          (initial.elim [] (headerNotes style depth)) :=
        anchoredIn_optional fun node hm => anchoredIn_header (hi node hm)
      have htest := anchoredIn_optional fun value hm => ht value hm depth
      have hadvance := anchoredIn_optional fun value hm => ha value hm depth
      rw [notes_forLoop]
      refine anchoredIn_of_children ?_
      simp only [Node.children, List.flatMap_append, List.flatMap_singleton]
      exact ((hinitial.append htest).append hadvance).append (anchoredIn_body depth hb)
  | function name parameters body location hn hp hb =>
      rw [notes_function]
      split
      · exact anchoredIn_refusal rfl
      · have hheader := (AnchoredIn.flatMap fun node hm => hp node hm depth).append (hn depth)
        refine anchoredIn_of_children ((hheader.append (anchoredIn_body depth hb)).mono ?_)
        rw [Node.children, List.flatMap_append, List.flatMap_singleton, List.flatMap_cons]
        exact (List.perm_append_comm.append_right _).subperm
  | returning argument location ha =>
      rw [notes_returning]
      exact anchoredIn_of_children (anchoredIn_optional fun value hm => ha value hm depth)
  | identifier name location | parameter name location =>
      rw [notes]
      exact .nil _ _
  | unsupported source detail location | foreign kind location =>
      rw [notes]
      exact anchoredIn_refusal rfl

end Fragment

-----------------------------------------------------------------------------------------
-- What the reports on a program point to
-----------------------------------------------------------------------------------------

/-- A report is anchored at the node that it is about. -/
theorem Finding.anchor_reportOn {finding : Finding} {node : Node}
    (h : finding.nodeKind node = node.reportedKind)
    : (finding.reportOn node).anchor = node.anchor :=
  congrArg (Anchor.mk _ _ ∘ some) h

/-- The errors among some notes point to the refused nodes, by induction over the notes. -/
theorem anchor_errors {notes : List Note}
    (h : ∀ finding node, .report finding node ∈ notes
      → finding.nodeKind node = node.reportedKind)
    : ((reports notes).filter Diagnostic.isFatal).map Diagnostic.anchor
      = (notes.filterMap Note.refused?).map Node.anchor := by
  induction notes with
  | nil => rfl
  | cons note notes ih =>
      have hrest := ih fun finding node hm => h finding node (List.mem_cons_of_mem _ hm)
      cases note with
      | replacement source target => exact hrest
      | report finding node =>
          have hanchor := Finding.anchor_reportOn (h finding node List.mem_cons_self)
          have hreports : reports (.report finding node :: notes)
              = finding.reportOn node :: reports notes :=
            rfl
          by_cases hs : finding.severity = .error
          · have hrefused : Note.refused? (.report finding node) = some node := if_pos hs
            have hfatal : (finding.reportOn node).isFatal = true := decide_eq_true hs
            rw [hreports, List.filter_cons_of_pos hfatal, List.filterMap_cons_some hrefused,
              List.map_cons, List.map_cons, hrest, hanchor]
          · have hrefused : Note.refused? (.report finding node) = none := if_neg hs
            have hfatal : ¬(finding.reportOn node).isFatal = true := decide_eq_true_iff.not.mpr hs
            rw [hreports, List.filter_cons_of_neg hfatal, List.filterMap_cons_none hrefused, hrest]

/-- Every report on a program points to a node of the program: it names the kind of the node and its
place, which is known if the places of all nodes are. It is a warning exactly if its kind is
advisory. The errors point to nodes that stand at different places in the tree. -/
theorem Fragment.emitProgram_anchored (style : Style) (body : List Node)
    (location : Option Location) (progress : Progress)
    : let nodes := (Node.program body location).nodes
      let diagnostics := ((emitProgram style body).run progress).1.diagnostics
      (∀ diagnostic ∈ diagnostics,
          (∃ node ∈ nodes, diagnostic.anchor = node.anchor)
            ∧ (diagnostic.severity = .warning ↔ diagnostic.kind.isAdvisory = true))
        ∧ ((∀ node ∈ nodes, node.location.isSome = true)
          → ∀ diagnostic ∈ diagnostics,
            diagnostic.line.isSome = true ∧ diagnostic.column.isSome = true)
        ∧ ((diagnostics.filter Diagnostic.isFatal).map Diagnostic.anchor).Subperm
          (nodes.map Node.anchor) := by
  intro nodes diagnostics
  have hdiagnostics : diagnostics = reports (body.flatMap (notes style 0)) :=
    diagnostics_emitProgram style body progress
  have hanchored : AnchoredIn style.shims nodes (body.flatMap (notes style 0)) := by
    have hprogram := anchored style (.program body location) 0
    rwa [notes] at hprogram
  have hnamed : ∀ diagnostic ∈ diagnostics, ∃ node ∈ nodes, diagnostic.anchor = node.anchor := by
    rw [hdiagnostics]
    intro diagnostic hm
    obtain ⟨note, hnote, hd⟩ := List.mem_filterMap.mp hm
    cases note with
    | replacement source target => cases hd
    | report finding node =>
        obtain rfl := Option.some.inj hd
        obtain ⟨hnode, hkind⟩ := hanchored.each _ hnote
        exact ⟨node, hnode, Finding.anchor_reportOn hkind⟩
  refine ⟨fun diagnostic hm => ⟨hnamed diagnostic hm, ?_⟩, fun hplaced diagnostic hm => ?_, ?_⟩
  · exact severity_of_mem_reports (hdiagnostics ▸ hm)
  · obtain ⟨node, hnode, hanchor⟩ := hnamed diagnostic hm
    obtain ⟨hline, hcolumn, _⟩ := Anchor.mk.inj hanchor
    rw [hline, hcolumn, Option.isSome_map, Option.isSome_map]
    exact ⟨hplaced node hnode, hplaced node hnode⟩
  · obtain ⟨picked, hperm, hsub⟩ := hanchored.refused
    rw [hdiagnostics, anchor_errors fun finding node hm => (hanchored.each _ hm).2]
    exact ⟨picked.map Node.anchor, hperm.map Node.anchor, hsub.map Node.anchor⟩

/-- A class declaration is reported where it stands, under the kind that it has in the script. -/
theorem Fragment.emitProgram_anchored_class
    : let place := some ⟨1, 1⟩
      let body : List Node := [.unsupported "ClassDeclaration" [] place]
      let diagnostics := ((emitProgram ⟨.builtIn, "  "⟩ body).run {}).1.diagnostics
      diagnostics.map Diagnostic.anchor = [⟨some 1, some 1, some "ClassDeclaration"⟩]
        ∧ ∀ diagnostic ∈ diagnostics,
          diagnostic.line.isSome = true ∧ diagnostic.column.isSome = true := by
  intro place body diagnostics
  have hplaced : ∀ node ∈ (Node.program body place).nodes, node.location.isSome = true := by decide
  obtain ⟨_, hlocated, _⟩ := emitProgram_anchored ⟨.builtIn, "  "⟩ body place {}
  exact ⟨by decide, hlocated hplaced⟩

end DeviceScript
