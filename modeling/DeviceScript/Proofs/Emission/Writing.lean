import DeviceScript.Proofs.Data.Steps
import DeviceScript.Proofs.Emission.Induction
import DeviceScript.Proofs.Emission.Notes

/-! Emission as writing: it yields the text of a node and adds the notes on the node to what is there
already, whatever that is.
-/

namespace DeviceScript

open StateM (run_bind run_map run_pure)

namespace Progress

/-- Progress with one more note. -/
def note (progress : Progress) : Note → Progress
  | .report finding node => {
      progress with
      diagnostics := progress.diagnostics ++ [finding.reportOn node]
      trace := progress.trace.map (Trace.log · (.diagnostic (finding.reportOn node).text)) }
  | .replacement source target =>
    { progress with trace := progress.trace.map (Trace.log · (.shimMatch source target)) }

def noteAll (progress : Progress) (notes : List Note) : Progress := notes.foldl note progress

/-- No notes change nothing. -/
@[simp]
theorem noteAll_nil (progress : Progress) : progress.noteAll [] = progress := rfl

/-- Notes are taken one group after the other. -/
@[simp]
theorem noteAll_noteAll (progress : Progress) (first second : List Note)
    : (progress.noteAll first).noteAll second = progress.noteAll (first ++ second) := by
  simp only [noteAll, List.foldl_append]

/-- A note leaves the depth as it is. -/
@[simp]
theorem depth_note (progress : Progress) (note : Note)
    : (progress.note note).depth = progress.depth := by
  cases note <;> rfl

/-- Notes never change the nesting, by induction over the notes. -/
@[simp]
theorem depth_noteAll (progress : Progress) (notes : List Note)
    : (progress.noteAll notes).depth = progress.depth := by
  induction notes generalizing progress with
  | nil => rfl
  | cons head tail ih => exact (ih (progress.note head)).trans (depth_note progress head)

/-- Notes taken at another depth are the same notes. -/
theorem noteAll_at (progress : Progress) (depth : Nat) (notes : List Note)
    : { ({ progress with depth := depth } : Progress).noteAll notes with depth := progress.depth }
      = progress.noteAll notes := by
  induction notes generalizing progress with
  | nil => rfl
  | cons head tail ih =>
      have hrest := ih (progress.note head)
      cases head <;> exact hrest

end Progress

namespace Emit

variable {α β : Type}

/-- The action yields a value and adds notes, both of which depend on nothing but the depth. -/
def Writes (action : Emit α) (value : Nat → α) (notes : Nat → List Note) : Prop :=
  ∀ progress : Progress,
    action.run progress = (value progress.depth, progress.noteAll (notes progress.depth))

/-- A report is a note. -/
theorem run_report (finding : Finding) (node : Node) (progress : Progress)
    : (report finding node).run progress = ((), progress.noteAll [.report finding node]) := rfl

/-- A refusal is a note, and yields no text. -/
theorem run_refuse (finding : Finding) (node : Node) (progress : Progress)
    : (refuse finding node).run progress = ([], progress.noteAll [.report finding node]) := rfl

/-- A search for a name leaves the notes on what is found. -/
theorem run_substitute? (shims : ShimTable) (name : Option Text) (progress : Progress)
    : (substitute? shims name).run progress
      = (Fragment.replacement? shims name, progress.noteAll (Fragment.nameNotes shims name)) := by
  unfold substitute? Fragment.replacement? Fragment.nameNotes
  cases name with
  | none => rfl
  | some source =>
      simp only [Option.bind_some]
      cases shims.lookup? source <;> rfl

/-- A change of the value is made at every depth. -/
theorem Writes.map {action : Emit α} {value : Nat → α} {notes : Nat → List Note}
    (h : Writes action value notes) (f : α → β)
    : Writes (f <$> action) (fun depth => f (value depth)) notes := by
  intro progress
  rw [run_map, h]

/-- What is nested is written one block deeper. -/
theorem Writes.nested {action : Emit α} {value : Nat → α} {notes : Nat → List Note}
    (h : Writes action value notes)
    : Writes (nested action) (fun depth => value (depth + 1))
        (fun depth => notes (depth + 1)) := by
  intro progress
  have hrun : (Emit.nested action).run progress
      = ((action.run { progress with depth := progress.depth + 1 }).1,
        let after := (action.run { progress with depth := progress.depth + 1 }).2
        { after with depth := after.depth - 1 }) := rfl
  rw [hrun, h]
  simp only [Progress.depth_noteAll, Nat.add_sub_cancel, Progress.noteAll_at]

/-- A loop over a list takes the notes on each of its members in turn. -/
theorem writes_forM {f : α → Emit Unit} {notes : α → List Note}
    (h : ∀ a, Writes (f a) (fun _ => ()) (fun _ => notes a)) (list : List α)
    : Writes (list.forM f) (fun _ => ()) (fun _ => list.flatMap notes) := by
  induction list with
  | nil => exact fun progress => rfl
  | cons head tail ih =>
      intro progress
      change (f head >>= fun _ => tail.forM f).run progress = _
      rw [run_bind, h, ih, Progress.noteAll_noteAll, List.flatMap_cons]

end Emit

namespace Fragment

open Emit

-----------------------------------------------------------------------------------------
-- The cases of emission that run over other nodes, under names of their own
-----------------------------------------------------------------------------------------

/-- The fragments between the braces of a compound statement with the given body. -/
def emitBody (style : Style) : Node → Emit (List Text)
  | .block body _ => emitStatements style body
  | statement => do return present [← emit style statement]

/-- The fragment of a declarator that goes on without a type of its own. -/
def emitContinued (style : Style) : Node → Emit Text
  | .declarator target initial _ => do
    let name ← emit style target
    match initial with
    | none => pure name
    | some value => do
      let text ← emit style value
      pure (name ++ " = " ++ text)
  | node => emit style node

/-- The fragment of a call of what is no method of a container. -/
def emitOrdinary (style : Style) (callee : Node) (arguments : List Node) : Emit Text := do
  let texts ← emitArguments style arguments
  match ← Emit.substitute? style.shims callee.dottedName? with
  | some target => return target ++ ("(" ++ Text.join ", " texts ++ ")")
  | none =>
    let text ← operand callee Operator.primary false (emit style callee)
    return text ++ ("(" ++ Text.join ", " texts ++ ")")

/-- The fragment of a call of a method of a container. -/
def emitMethod (style : Style) (method : Method) (node object : Node) (arguments : List Node)
    : Emit Text := do
  let objectText ← operand object Operator.primary false (emit style object)
  match method with
  | .push =>
    match arguments with
    | [_] =>
      let texts ← emitArguments style arguments
      return objectText ++ ".push_back(" ++ Text.join ", " texts ++ ")"
    | _ => Emit.refuse (.pushArguments arguments.length) node
  | .pop => return popped objectText
  | .shift => return shifted objectText
  | .reverse => return reversed objectText
  | .splice =>
    match arguments with
    | [] => Emit.refuse .spliceWithoutStart node
    | [start] =>
      let startText ← operand start Operator.additive true (emit style start)
      return spliced objectText startText "1"
    | [start, count] =>
      let startText ← operand start Operator.additive true (emit style start)
      let countText ← operand count Operator.additive true (emit style count)
      return spliced objectText startText countText
    | _ => Emit.refuse .spliceInsertion node

/-- The fragment of a property that is not in brackets. -/
def emitProperty (style : Style) (node property : Node) (objectText : Text) : Emit Text :=
  match property with
  | .identifier name _ =>
    match property? objectText name with
    | some text => return text
    | none =>
      if isDeferred name then do
        Emit.report (.deferredProperty name) node
        return objectText
      else do
        let target ← Emit.substitute? style.shims node.dottedName?
        return target.getD (ShimTable.scopedName objectText name)
  | _ => Emit.refuse .propertyNotIdentifier node

/-- The fragment of the alternative of a conditional behind the text in front of it. -/
def emitAlternate (style : Style) (opening : Text) : Option Node → Emit Text
  | none => return opening
  | some node =>
    if node.isIfElse then (opening ++ " else " ++ ·) <$> emit style node
    else do
      let fragments ← Emit.nested (emitBody style node)
      return opening ++ " " ++ compound style.indent "else" fragments

variable {style : Style}

/-- A member that is called may be a method of a container, which its name tells. -/
theorem emit_selection (object : Node) (name : Text) (arguments : List Node)
    (place place' location : Option Location)
    : emit style (.call (.member object (.identifier name place) false place') arguments location)
      = (match Method.ofName? name with
        | none => emitOrdinary style (.member object (.identifier name place) false place') arguments
        | some method =>
          emitMethod style method
            (.call (.member object (.identifier name place) false place') arguments location) object
            arguments) := by
  rw [emit.eq_def]
  simp only
  cases Method.ofName? name with
  | none => rfl
  | some method => rfl

/-- A call that selects no method is an ordinary one. -/
theorem emit_ordinary {callee : Node} (arguments : List Node) (location : Option Location)
    (h : callee.selected? = none)
    : emit style (.call callee arguments location) = emitOrdinary style callee arguments := by
  cases callee with
  | member object property computed place' =>
      cases property with
      | identifier name place =>
          cases computed with
          | true => rfl
          | false =>
              have hm : Method.ofName? name = none := Option.map_eq_none_iff.mp h
              rw [emit_selection, hm]
      | _ => rfl
  | _ => rfl

/-- A call that selects a method of a container is emitted as that method. -/
theorem emit_method {callee object : Node} {method : Method} (arguments : List Node)
    (location : Option Location) (h : callee.selected? = some (method, object))
    : emit style (.call callee arguments location)
      = emitMethod style method (.call callee arguments location) object arguments := by
  obtain ⟨name, place, place', rfl, hm⟩ := Node.selected?_eq_some h
  rw [emit_selection, hm]

/-- A member is an element at a position, or a property after the search for its name. -/
theorem emit_member (object property : Node) (computed : Bool) (location : Option Location)
    : emit style (.member object property computed location) = (do
        let objectText ← operand object Operator.primary false (emit style object)
        if computed then
          let index ← emit style property
          return objectText ++ "[" ++ index ++ "]"
        else emitProperty style (.member object property computed location) property objectText) := by
  cases property <;> rfl

/-- A conditional statement is emitted from its test to its last branch. -/
theorem emit_ifElse (test consequent : Node) (alternate : Option Node)
    (location : Option Location)
    : emit style (.ifElse test consequent alternate location) = (do
        let testText ← emit style test
        let fragments ← Emit.nested (emitBody style consequent)
        emitAlternate style (compound style.indent ("if (" ++ testText ++ ")") fragments)
          alternate) := by
  cases alternate with
  | none => cases consequent <;> rfl
  | some node => cases consequent <;> cases node <;> rfl

/-- A loop is emitted from its test to the end of its body. -/
theorem emit_whileLoop (test body : Node) (location : Option Location)
    : emit style (.whileLoop test body location) = (do
        let testText ← emit style test
        let fragments ← Emit.nested (emitBody style body)
        return compound style.indent ("while (" ++ testText ++ ")") fragments) := by
  cases body <;> rfl

/-- A loop with a header is emitted from the first part of the header to the end of the body. -/
theorem emit_forLoop (initial test advance : Option Node) (body : Node)
    (location : Option Location)
    : emit style (.forLoop initial test advance body location) = (do
        let initialText ← emitHeader style initial
        let testText ← emitOptional style test
        let advanceText ← emitOptional style advance
        let fragments ← Emit.nested (emitBody style body)
        let header := "for (" ++ initialText ++ "; " ++ testText ++ "; " ++ advanceText ++ ")"
        return compound style.indent header fragments) := by
  cases initial with
  | none => cases body <;> rfl
  | some node => cases node <;> cases body <;> rfl

/-- A function is refused inside of a block, and emitted with a body one block deeper elsewhere. -/
theorem emit_function (name : Node) (parameters : List Node) (body : Node)
    (location : Option Location)
    : emit style (.function name parameters body location) = (do
        if (← get).depth > 0 then
          Emit.refuse .nestedFunction (.function name parameters body location)
        else
          let parameterTexts ← emitEach style parameters
          let nameText ← emit style name
          let fragments ← Emit.nested (emitBody style body)
          let header := "void " ++ nameText ++ "(" ++ Text.join ", " parameterTexts ++ ")"
          return compound style.indent header fragments) := by
  cases body <;> rfl

-----------------------------------------------------------------------------------------
-- Lists, bodies and slots write what the nodes in them write
-----------------------------------------------------------------------------------------

/-- The emission of a node writes its text and the notes on it. -/
abbrev Written (style : Style) (node : Node) : Prop :=
  Writes (emit style node) (text style · node) (notes style · node)

/-- A list of nodes is written node by node. -/
theorem emitEach_writes {nodes : List Node} (h : ∀ node ∈ nodes, Written style node)
    : Writes (emitEach style nodes) (fun depth => nodes.map (text style depth))
        (fun depth => nodes.flatMap (notes style depth)) := by
  induction nodes with
  | nil => exact fun progress => rfl
  | cons node nodes ih =>
      have hn : Written style node := h node List.mem_cons_self
      have hs := ih fun node hm => h node (List.mem_cons_of_mem _ hm)
      intro progress
      simp only [emitEach, run_bind, run_pure, hn _, hs _, Progress.depth_noteAll,
        Progress.noteAll_noteAll, List.map_cons, List.flatMap_cons]

/-- A list of statements is written statement by statement, without the empty texts. -/
theorem emitStatements_writes {nodes : List Node} (h : ∀ node ∈ nodes, Written style node)
    : Writes (emitStatements style nodes) (fun depth => present (nodes.map (text style depth)))
        (fun depth => nodes.flatMap (notes style depth)) := by
  induction nodes with
  | nil => exact fun progress => rfl
  | cons node nodes ih =>
      have hn : Written style node := h node List.mem_cons_self
      have hs := ih fun node hm => h node (List.mem_cons_of_mem _ hm)
      intro progress
      simp only [emitStatements, run_bind, run_pure, hn _, hs _, Progress.depth_noteAll,
        Progress.noteAll_noteAll, List.map_cons, List.flatMap_cons, present]
      rw [← List.filter_append, List.singleton_append]

/-- A list of arguments is written argument by argument, each fit to stand between commas. -/
theorem emitArguments_writes {nodes : List Node} (h : ∀ node ∈ nodes, Written style node)
    : Writes (emitArguments style nodes)
        (fun depth => nodes.map fun node => listed node (text style depth node))
        (fun depth => nodes.flatMap (notes style depth)) := by
  induction nodes with
  | nil => exact fun progress => rfl
  | cons node nodes ih =>
      have hn : Written style node := h node List.mem_cons_self
      have hs := ih fun node hm => h node (List.mem_cons_of_mem _ hm)
      intro progress
      simp only [emitArguments, operand, run_bind, run_map, run_pure, hn _, hs _, listed,
        Progress.depth_noteAll, Progress.noteAll_noteAll, List.map_cons, List.flatMap_cons]

/-- A list of elements is written element by element, without the holes. -/
theorem emitElements_writes {elements : List (Option Node)}
    (h : ∀ node ∈ elements.filterMap id, Written style node)
    : Writes (emitElements style elements)
        (fun depth =>
          (elements.filterMap id).map fun node => listed node (text style depth node))
        (fun depth => (elements.filterMap id).flatMap (notes style depth)) := by
  induction elements with
  | nil => exact fun progress => rfl
  | cons element elements ih =>
      cases element with
      | none => exact ih h
      | some node =>
          have hn : Written style node := h node List.mem_cons_self
          have hs := ih fun node hm => h node (List.mem_cons_of_mem _ hm)
          intro progress
          simp only [emitElements, operand, run_bind, run_map, run_pure, hn _, hs _, listed,
            Progress.depth_noteAll, Progress.noteAll_noteAll]
          rfl

/-- A node that may be missing is written, or nothing is. -/
theorem emitOptional_writes {node : Option Node} (h : ∀ inner ∈ node, Written style inner)
    : Writes (emitOptional style node) (fun depth => node.elim [] (text style depth))
        (fun depth => node.elim [] (notes style depth)) := by
  cases node with
  | none => exact fun progress => rfl
  | some node => exact h node rfl

/-- A body writes its statements one level deeper than its own. -/
theorem emitBody_writes {body : Node} (h : ∀ node ∈ body.inner, Written style node)
    : Writes (Emit.nested (emitBody style body))
        (fun depth => present (body.inner.map (text style (depth + 1))))
        (fun depth => body.inner.flatMap (notes style (depth + 1))) := by
  have hbody : Writes (emitBody style body)
      (fun depth => present (body.inner.map (text style depth)))
      (fun depth => body.inner.flatMap (notes style depth)) := by
    cases body with
    | block body location => exact emitStatements_writes h
    | _ =>
        have hone := h _ List.mem_cons_self
        intro progress
        simp only [emitBody, run_bind, run_pure, hone _, Node.inner, List.map_cons, List.map_nil,
          List.flatMap_cons, List.flatMap_nil, List.append_nil]
  exact hbody.nested

/-- The review of elements writes nothing but notes. -/
theorem reviewElements_writes (array : Node) (elements : List (Option Node)) (name : Text)
    : Writes (reviewElements array elements name) (fun _ => ())
        (fun _ => elementNotes array elements name) := by
  have hloop (review : Node × Nat → Emit Unit)
      (h : ∀ element, Writes (review element) (fun _ => ())
        (fun _ => disagreementNotes name (ElementType.infer elements) element.1)) :=
    writes_forM h ((ElementType.infer elements).heterogeneous elements)
  intro progress
  simp only [reviewElements, elementNotes]
  split
  · rw [run_bind, run_report, ← Progress.noteAll_noteAll]
    refine hloop _ (fun element progress => ?_) _
    rcases element with ⟨element, _⟩
    cases element <;> rfl
  · refine hloop _ (fun element progress => ?_) _
    rcases element with ⟨element, _⟩
    cases element <;> rfl

/-- The review of a value that a name is declared with writes nothing but notes. -/
theorem reviewInitial_writes (name : Text) (value : Node)
    : Writes (reviewInitial name (some value)) (fun _ => ())
        (fun _ => initialNotes name value) := by
  cases value with
  | array elements location => exact reviewElements_writes _ elements name
  | _ => exact fun progress => rfl

/-- Parts of a header are joined with commas, and there is a note if they share a type. -/
theorem joinHeader_writes (declaration : Node) (count : Nat) (parts : List Text)
    : Writes (joinHeader declaration count parts) (fun _ => Text.join ", " (present parts))
        (fun _ => sharedNotes declaration count parts) := by
  intro progress
  simp only [joinHeader, sharedNotes]
  split
  · rfl
  · rfl

/-- The declarators behind the first one are written one by one. -/
theorem emitHeaderParts_writes {nodes : List Node}
    (h : ∀ node ∈ nodes,
      Writes (emitContinued style node) (continuedText style · node) (continuedNotes style · node))
    : Writes (emitHeaderParts style false nodes)
        (fun depth => nodes.map (continuedText style depth))
        (fun depth => nodes.flatMap (continuedNotes style depth)) := by
  induction nodes with
  | nil => exact fun progress => rfl
  | cons node nodes ih =>
      have hn := h node List.mem_cons_self
      have hs := ih fun node hm => h node (List.mem_cons_of_mem _ hm)
      have hparts : emitHeaderParts style false (node :: nodes) = (do
          let text ← emitContinued style node
          let texts ← emitHeaderParts style false nodes
          return text :: texts) := by
        cases node with
        | declarator target initial location => cases initial <;> rfl
        | _ => rfl
      intro progress
      simp only [hparts, run_bind, run_pure, hn _, hs _, Progress.depth_noteAll,
        Progress.noteAll_noteAll, List.map_cons, List.flatMap_cons]

/-- A declarator behind the first one is written without a type. -/
theorem emitContinued_writes {node : Node} (h : ∀ inner ∈ node.nodes, Written style inner)
    : Writes (emitContinued style node) (continuedText style · node)
        (continuedNotes style · node) := by
  cases node with
  | declarator target initial location =>
      have ht := h target (Node.mem_nodes_of_child List.mem_cons_self)
      intro progress
      cases initial with
      | none =>
          simp only [continuedText_declarator, continuedNotes_declarator, emitContinued, run_bind,
            run_pure, ht _, Option.elim, List.append_nil]
      | some value =>
          have hv := h value (Node.mem_nodes_of_child (List.mem_cons_of_mem _ List.mem_cons_self))
          simp only [continuedText_declarator, continuedNotes_declarator, emitContinued, run_bind,
            run_pure, ht _, hv _, Option.elim, Progress.depth_noteAll, Progress.noteAll_noteAll,
            List.append_assoc]
  | _ =>
      have hn := h _ (Node.mem_nodes_self _)
      intro progress
      simp only [emitContinued, hn _, text, continuedText, continuedLayout, continuedNotes]

/-- The first slot of a loop header writes its declarators, or any other node without the
semicolons behind it. -/
theorem emitHeader_writes {initial : Option Node}
    (h : ∀ node ∈ initial, ∀ inner ∈ node.nodes, Written style inner)
    : Writes (emitHeader style initial) (fun depth => initial.elim [] (headerText style depth))
        (fun depth => initial.elim [] (headerNotes style depth)) := by
  cases initial with
  | none => exact fun progress => rfl
  | some node =>
      have hnode := h node rfl
      cases node with
      | declaration declarations keyword location =>
          cases declarations with
          | nil =>
              intro progress
              simp only [Option.elim, headerText, headerLayout, Cpp.Tree.print, headerNotes]
              rfl
          | cons first rest =>
              have hf := hnode first (Node.mem_nodes_of_child List.mem_cons_self)
              have hr := emitHeaderParts_writes fun part hm => emitContinued_writes fun inner hi =>
                hnode inner (Node.nodes_subset_of_child (List.mem_cons_of_mem first hm) hi)
              intro progress
              simp only [Option.elim, headerText_declaration, headerNotes]
              simp only [emitHeader, emitHeaderParts, if_true, run_bind, run_pure, hf _, hr _,
                joinHeader_writes _ _ _ _, Progress.depth_noteAll, Progress.noteAll_noteAll,
                List.length_cons]
      | _ =>
          have hn := hnode _ (Node.mem_nodes_self _)
          intro progress
          simp only [emitHeader, run_map, hn _, Option.elim, text, headerText, headerLayout,
            Cpp.Tree.print, headerNotes]

-----------------------------------------------------------------------------------------
-- Each kind of node writes its text and its notes
-----------------------------------------------------------------------------------------

/-- A call of a method of a container writes the object first. -/
theorem emitMethod_writes {method : Method} {node object : Node} {arguments : List Node}
    (ho : Written style object) (ha : ∀ argument ∈ arguments, Written style argument)
    : Writes (emitMethod style method node object arguments)
        (fun depth =>
          methodText method (object.asOperand Operator.primary false (text style depth object))
            (arguments.map fun argument => (argument, text style depth argument)))
        (fun depth =>
          notes style depth object
            ++ methodNotes method node (arguments.map (notes style depth))) := by
  intro progress
  simp only [emitMethod, operand, run_bind, run_map, ho _]
  cases method with
  | push =>
      rcases arguments with _ | ⟨argument, _ | ⟨_, _⟩⟩
      · simp only [run_refuse, Progress.noteAll_noteAll, List.map_nil, methodText, methodNotes]
        rfl
      · have hs := emitArguments_writes ha
        simp only [run_bind, run_pure, hs _, methodText, methodNotes, Progress.noteAll_noteAll,
          Progress.depth_noteAll, List.map_cons, List.map_nil, List.flatMap_cons,
          List.flatMap_nil, List.append_nil, Text.join]
      · simp only [run_refuse, Progress.noteAll_noteAll, List.map_cons, methodText, methodNotes,
          List.length_cons, List.length_map]
  | splice =>
      rcases arguments with _ | ⟨start, _ | ⟨count, _ | ⟨_, _⟩⟩⟩
      · simp only [run_refuse, Progress.noteAll_noteAll, List.map_nil, methodText, methodNotes]
      · have hs := ha start List.mem_cons_self
        simp only [run_bind, run_map, run_pure, hs _, methodText, methodNotes, summand,
          Progress.noteAll_noteAll, Progress.depth_noteAll, List.map_cons, List.map_nil]
      · have hs := ha start List.mem_cons_self
        have hc := ha count (List.mem_cons_of_mem _ List.mem_cons_self)
        simp only [run_bind, run_map, run_pure, hs _, hc _, methodText, methodNotes, summand,
          Progress.noteAll_noteAll, Progress.depth_noteAll, List.map_cons, List.map_nil,
          List.append_assoc]
      · simp only [run_refuse, Progress.noteAll_noteAll, List.map_cons, methodText, methodNotes]
  | _ => simp only [run_pure, methodText, methodNotes, List.append_nil]

/-- An ordinary call is written with the replaced name of the callee, or with the callee itself. -/
theorem emitOrdinary_writes {callee : Node} {arguments : List Node}
    (hc : Written style callee) (ha : ∀ argument ∈ arguments, Written style argument)
    : Writes (emitOrdinary style callee arguments)
        (fun depth =>
          (replacement? style.shims callee.dottedName?).getD
              (callee.asOperand Operator.primary false (text style depth callee))
            ++ "("
            ++ Text.join ", " (arguments.map fun node => listed node (text style depth node))
            ++ ")")
        (fun depth =>
          arguments.flatMap (notes style depth) ++ nameNotes style.shims callee.dottedName?
            ++ if (replacement? style.shims callee.dottedName?).isSome then []
              else notes style depth callee) := by
  have hs := emitArguments_writes ha
  intro progress
  simp only [emitOrdinary, run_bind, hs _, run_substitute?]
  cases replacement? style.shims callee.dottedName? with
  | some target =>
      simp only [run_pure, Progress.noteAll_noteAll, Option.getD_some, Option.isSome_some, if_true,
        List.append_nil, List.append_assoc]
  | none =>
      simp only [run_bind, operand, run_map, hc _, run_pure, Progress.noteAll_noteAll,
        Progress.depth_noteAll, Option.getD_none, Option.isSome_none, List.append_assoc]
      rfl

/-- An operation is written with both operands at its strength. -/
theorem operation_writes {node left right : Node} {operator : Text} (hl : Written style left)
    (hr : Written style right)
    : Writes
        (operation node operator
          (operand left (Operator.strength operator) false (emit style left))
          (operand right (Operator.strength operator) true (emit style right)))
        (fun depth =>
          operationText operator
            (left.asOperand (Operator.strength operator) false (text style depth left))
            (right.asOperand (Operator.strength operator) true (text style depth right)))
        (fun depth =>
          operationNotes node operator Operator.untranslatedBinary
            (notes style depth left ++ notes style depth right)) := by
  intro progress
  simp only [operation, operationText, operationNotes]
  split
  · rfl
  · simp only [operand, run_bind, run_map, run_pure, hl _, hr _, Progress.depth_noteAll,
      Progress.noteAll_noteAll]

/-- Which properties C++ spells differently does not depend on the object. -/
theorem isSome_property? (object name : Text)
    : (property? object name).isSome = (property? [] name).isSome := by
  simp only [property?, apply_ite Option.isSome]
  rfl

/-- A property is written with what it is replaced by, or with its name. -/
theorem emitProperty_writes (node property : Node) (objectText : Text)
    : Writes (emitProperty style node property objectText)
        (fun _ => propertyText style.shims node property objectText)
        (fun _ => propertyNotes style.shims node property) := by
  intro progress
  cases property with
  | identifier name location =>
      simp only [emitProperty, propertyText, propertyNotes, ← isSome_property? objectText name]
      cases property? objectText name with
      | some text => rfl
      | none =>
          simp only [Option.isSome_none]
          cases isDeferred name with
          | true => rfl
          | false =>
              simp only [Bool.false_eq_true, if_false, run_bind, run_pure, run_substitute?]
  | _ => rfl

/-- A member is written if its object and its property are. -/
theorem emit_member_writes {object property : Node} (computed : Bool)
    (location : Option Location) (ho : Written style object) (hp : Written style property)
    : Written style (.member object property computed location) := by
  intro progress
  simp only [text_member, notes]
  rw [emit_member]
  simp only [operand, run_bind, run_map, ho _]
  cases computed with
  | true =>
      simp only [if_true, run_bind, run_pure, hp _, Progress.depth_noteAll,
        Progress.noteAll_noteAll]
  | false =>
      simp only [Bool.false_eq_true, if_false, emitProperty_writes _ _ _ _,
        Progress.noteAll_noteAll]

/-- A declarator is written if its name and its value are. -/
theorem emit_declarator_writes {target : Node} {initial : Option Node}
    (location : Option Location) (ht : Written style target)
    (hi : ∀ node ∈ initial, Written style node)
    : Written style (.declarator target initial location) := by
  intro progress
  simp only [text_declarator, notes_declarator]
  cases initial with
  | none =>
      change (do return "auto " ++ (← emit style target) : Emit Text).run progress = _
      simp only [run_bind, run_pure, ht _, Option.elim, List.append_nil]
      rfl
  | some value =>
      have hv := hi value rfl
      change (do
          let name ← emit style target
          reviewInitial name (some value)
          let text ← emit style value
          return declaredType (some value) ++ " " ++ name ++ " = " ++ text : Emit Text).run progress
        = _
      simp only [run_bind, run_pure, ht _, hv _, reviewInitial_writes _ _ _, Option.elim,
        Progress.depth_noteAll, Progress.noteAll_noteAll, List.append_assoc]

/-- A literal is written, with a note if it is not finite. -/
theorem emit_literal_writes (value : Literal) (raw : Option Text) (location : Option Location)
    : Written style (.literal value raw location) := by
  intro progress
  simp only [text_literal, notes]
  cases value with
  | real number =>
      change (if number.isFinite then return real number
        else Emit.refuse (.notFinite ((Literal.real number).citedAs raw))
          (.literal (.real number) raw location) : Emit Text).run progress = _
      simp only [literalText, literalNotes]
      split <;> rfl
  | _ => rfl

/-- A function is written if its parts are. -/
theorem emit_function_writes {name : Node} {parameters : List Node} {body : Node}
    (location : Option Location) (hn : Written style name)
    (hp : ∀ node ∈ parameters, Written style node)
    (hb : ∀ node ∈ body.inner, Written style node)
    : Written style (.function name parameters body location) := by
  intro progress
  rw [emit_function]
  simp only [text_function, notes_function]
  change (if progress.depth > 0 then _ else _ : Emit Text).run progress = _
  split
  · rfl
  · simp only [run_bind, run_pure, hn _, emitEach_writes hp _, emitBody_writes hb _,
      Progress.depth_noteAll, Progress.noteAll_noteAll]

/-- The second branch is written behind the first one, as a chain or in braces. -/
theorem emitAlternate_writes (opening : Text) {alternate : Option Node}
    (h : ∀ node ∈ alternate, ∀ inner ∈ node.nodes, Written style inner)
    : Writes (emitAlternate style opening alternate)
        (fun depth => opening ++ alternate.elim [] (alternateText style depth))
        (fun depth => alternate.elim [] (alternateNotes style depth)) := by
  intro progress
  cases alternate with
  | none =>
      simp only [emitAlternate, Option.elim, run_pure, List.append_nil, Progress.noteAll_nil]
  | some node =>
      have hn := h node rfl node node.mem_nodes_self
      have hb := emitBody_writes fun inner hm => h node rfl inner (Node.mem_nodes_of_inner hm)
      simp only [emitAlternate, Option.elim, alternateText, alternateNotes]
      split
      · simp only [run_map, hn _, List.append_assoc]
      · simp only [run_bind, run_pure, hb _, List.append_assoc]

/-- Emission writes, by induction along emission. -/
theorem emit_writes (style : Style) (node : Node) : Written style node := by
  induction node using Node.induct_emission with
  | program body location hb =>
      intro progress
      simp only [text_program, notes]
      exact (emitStatements_writes hb).map Text.unlines progress
  | expressionStatement expression location he =>
      intro progress
      simp only [text_expressionStatement, notes]
      exact he.map terminated progress
  | literal value raw location => exact emit_literal_writes value raw location
  | array elements location hs =>
      intro progress
      simp only [text_array, notes_array]
      change (if elements.any Option.isNone then Emit.refuse .arrayHole (.array elements location)
        else if elements = [] then return "\x7b\x7d"
        else do
          let texts ← emitElements style elements
          return "\x7b " ++ Text.join ", " texts ++ " \x7d" : Emit Text).run progress = _
      split
      · rfl
      · split
        · subst elements
          rfl
        · simp only [run_bind, run_pure, emitElements_writes hs _]
  | binary operator left right location hl hr | logical operator left right location hl hr =>
      intro progress
      simp only [text_binary, text_logical, notes]
      exact operation_writes hl hr progress
  | unary operator argument leading location ha =>
      intro progress
      simp only [text_unary, notes, operationNotes]
      change (if operator ∈ Operator.untranslatedUnary then
          Emit.refuse (.operator operator) (.unary operator argument leading location)
        else unary operator <$> operand argument Operator.leading false (emit style argument)
          : Emit Text).run progress = _
      split
      · rfl
      · simp only [operand, run_map, ha _]
  | update operator argument leading location ha =>
      intro progress
      simp only [text_update, notes]
      exact ha.map (fun text =>
        let text := argument.asOperand Operator.trailing false text
        if leading then operator ++ text else text ++ operator) progress
  | assignment operator left right location hl hr =>
      intro progress
      simp only [text_assignment, notes, operationNotes]
      change (if operator ∈ Operator.untranslatedAssignment then
          Emit.refuse (.operator operator) (.assignment operator left right location)
        else do
          let leftText ← emit style left
          let rightText ← operand right Operator.assignment false (emit style right)
          return leftText ++ " " ++ operator ++ " " ++ rightText : Emit Text).run progress = _
      split
      · rfl
      · simp only [operand, run_bind, run_map, run_pure, hl _, hr _, Progress.depth_noteAll,
          Progress.noteAll_noteAll]
  | member object property computed location ho hp =>
      exact emit_member_writes computed location ho hp
  | ordinary callee arguments location hs hc ha =>
      intro progress
      simp only [text_ordinary _ _ _ _ hs, notes_ordinary _ _ _ _ hs]
      rw [emit_ordinary arguments location hs]
      exact emitOrdinary_writes hc ha progress
  | selected callee arguments location method object hs ho ha =>
      intro progress
      simp only [text_selected _ _ _ _ hs, notes_selected _ _ _ _ hs]
      rw [emit_method arguments location hs]
      exact emitMethod_writes ho ha progress
  | declaration declarations keyword location hd =>
      intro progress
      simp only [text_declaration, notes]
      exact (emitEach_writes hd).map
        (fun texts => Text.join " " ((present texts).map terminated)) progress
  | declarator target initial location ht hi => exact emit_declarator_writes location ht hi
  | block body location hb =>
      intro progress
      simp only [text_block, notes]
      exact ((emitStatements_writes hb).nested).map (enclosed style.indent) progress
  | ifElse test consequent alternate location ht hc ha =>
      intro progress
      rw [emit_ifElse]
      simp only [text_ifElse, notes_ifElse, run_bind, ht _, emitBody_writes hc _,
        emitAlternate_writes _ ha _, Progress.depth_noteAll, Progress.noteAll_noteAll,
        List.append_assoc]
  | whileLoop test body location ht hb =>
      intro progress
      rw [emit_whileLoop]
      simp only [text_whileLoop, notes_whileLoop, run_bind, run_pure, ht _, emitBody_writes hb _,
        Progress.depth_noteAll, Progress.noteAll_noteAll]
  | forLoop initial test advance body location hi ht ha hb =>
      intro progress
      rw [emit_forLoop]
      simp only [text_forLoop, notes_forLoop, run_bind, run_pure, emitHeader_writes hi _,
        emitOptional_writes ht _, emitOptional_writes ha _, emitBody_writes hb _,
        Progress.depth_noteAll, Progress.noteAll_noteAll]
  | function name parameters body location hn hp hb =>
      exact emit_function_writes location hn hp hb
  | returning argument location ha =>
      intro progress
      simp only [text_returning, notes_returning]
      cases argument with
      | none => rfl
      | some value => exact (ha value rfl).map (fun text => "return " ++ text ++ ";") progress
  | identifier name location | parameter name location | unsupported source detail location
  | foreign kind location =>
      intro progress
      simp only [text, layout, Cpp.Tree.print, Cpp.Tree.print_absent, notes]
      rfl

end Fragment

end DeviceScript
