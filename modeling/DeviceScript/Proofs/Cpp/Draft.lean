import DeviceScript.Proofs.Cpp.Container
import DeviceScript.Proofs.Cpp.Phrase
import DeviceScript.Proofs.Text.Draft

/-! The spelling of a tree with its indentation left open. What stands between the braces of a
statement lies inside one block more than the statement, and nothing else is indented.
-/

namespace DeviceScript.Cpp.Tree

/-- The spelling of a tree, in which each line break tells how many braced blocks of the tree are
around the line behind it. -/
@[simp]
def draft : Tree → Draft
  | word name => Draft.ofText name
  | number spelling => Draft.ofText spelling
  | string value => Draft.ofText (Text.Quoted.encode value)
  | list elements =>
    if elements = [] then Draft.ofText "\x7b\x7d"
    else "\x7b " ++ Draft.join (Draft.ofText ", ") (elements.map draft) ++ " \x7d"
  | group inner => "(" ++ draft inner ++ ")"
  | binary operator left right => draft left ++ " " ++ operator ++ " " ++ draft right
  | assign operator target value => draft target ++ " " ++ operator ++ " " ++ draft value
  | unary operator operand => operator ++ draft operand
  | update operator operand leading =>
    if leading then operator ++ draft operand else draft operand ++ operator
  | call callee arguments =>
    draft callee ++ "(" ++ Draft.join (Draft.ofText ", ") (arguments.map draft) ++ ")"
  | index object position => draft object ++ "[" ++ draft position ++ "]"
  | dot object name => draft object ++ "." ++ name
  | scope object name => draft object ++ "::" ++ name
  | simple expression => (draft expression).terminated
  | declarator type target initial =>
    (match type with
      | none => []
      | some type => Draft.ofText type ++ " ")
      ++ draft target
      ++ match initial with
        | none => []
        | some value => " = " ++ draft value
  | declaration declarators =>
    Draft.join (Draft.ofText " ") ((Draft.present (declarators.map draft)).map Draft.terminated)
  | heading declarators => Draft.join (Draft.ofText ", ") (Draft.present (declarators.map draft))
  | slot inner => (draft inner).dropTrailing ';'
  | parameter name => Draft.ofText ("auto " ++ name)
  | returning value =>
    match value with
    | none => Draft.ofText "return;"
    | some value => "return " ++ draft value ++ ";"
  | block body => Draft.enclosed (Draft.present (body.map draft))
  | conditional test body =>
    Draft.compound ("if (" ++ draft test ++ ")") (Draft.present (body.map draft))
  | otherwise opening body =>
    draft opening ++ " " ++ Draft.compound "else" (Draft.present (body.map draft))
  | chain opening alternative => draft opening ++ " else " ++ draft alternative
  | whileLoop test body =>
    Draft.compound ("while (" ++ draft test ++ ")") (Draft.present (body.map draft))
  | forLoop initial test advance body =>
    let initialDraft : Draft :=
      match initial with
      | none => []
      | some tree => draft tree
    let testDraft : Draft :=
      match test with
      | none => []
      | some tree => draft tree
    let advanceDraft : Draft :=
      match advance with
      | none => []
      | some tree => draft tree
    let header := "for (" ++ initialDraft ++ "; " ++ testDraft ++ "; " ++ advanceDraft ++ ")"
    Draft.compound header (Draft.present (body.map draft))
  | function name parameters body =>
    let header := "void " ++ draft name ++ "("
      ++ Draft.join (Draft.ofText ", ") (parameters.map draft) ++ ")"
    Draft.compound header (Draft.present (body.map draft))
  | unit body => Draft.unlines (Draft.present (body.map draft))

/-- A declarator has its type in front of it, and its value behind it. -/
theorem draft_declarator (type : Option Text) (target : Tree) (initial : Option Tree)
    : (declarator type target initial).draft
      = (type.elim [] fun type => Draft.ofText type ++ " " : Draft) ++ target.draft
          ++ (initial.elim [] fun value => " = " ++ value.draft : Draft) := by
  rw [draft.eq_def]
  cases type <;> cases initial <;> rfl

/-- A return has its value in front of the semicolon, where there is one. -/
theorem draft_returning (value : Option Tree)
    : (returning value).draft
      = value.elim (Draft.ofText "return;") fun value => "return " ++ value.draft ++ ";" := by
  rw [draft.eq_def]
  cases value <;> rfl

/-- A loop header has its three parts between semicolons, as far as they are there. -/
theorem draft_forLoop (initial test advance : Option Tree) (body : List Tree)
    : (forLoop initial test advance body).draft
      = Draft.compound
          ("for (" ++ initial.elim [] draft ++ "; " ++ test.elim [] draft ++ "; "
            ++ advance.elim [] draft ++ ")")
          (Draft.present (body.map draft)) := by
  rw [draft.eq_def]
  cases initial <;> cases test <;> cases advance <;> rfl

/-- The draft of the tree becomes its spelling with any indentation, and it can stand anywhere. -/
def IsDrafted (tree : Tree) : Prop := tree.draft.Becomes fun indent => tree.print indent

section Lists

variable {trees : List Tree} (h : ∀ tree ∈ trees, tree.IsDrafted)

include h

/-- Trees that are spelled like their drafts are so in a list as well. -/
theorem map_print {indent : Text} (hindent : .scalar '\n' ∉ indent)
    : trees.map (print indent) = (trees.map draft).map (Draft.text indent) := by
  rw [List.map_map]
  exact List.map_congr_left fun tree hm => (h tree hm).written indent hindent

/-- Of a list of statements, those that are spelled as nothing have drafts without anything
in them. -/
theorem present_print {indent : Text} (hindent : .scalar '\n' ∉ indent)
    : Fragment.present (trees.map (print indent))
      = (Draft.present (trees.map draft)).map (Draft.text indent) := by
  rw [map_print h hindent, Draft.map_text_present]

/-- What is present among drafts of trees is solid, and not empty. -/
theorem isSolid_of_mem_present
    : ∀ body ∈ Draft.present (trees.map draft), body.IsSolid ∧ body ≠ [] := by
  intro body hm
  obtain ⟨hm, hne⟩ := List.mem_filter.mp hm
  obtain ⟨tree, ht, rfl⟩ := List.mem_map.mp hm
  exact ⟨(h tree ht).solid, of_decide_eq_true hne⟩

/-- Drafts with a separator between them become the joined spellings. -/
theorem becomes_join (separator : String) (hs : .scalar '\n' ∉ Text.ofString separator)
    : (Draft.join (Draft.ofText separator) (trees.map draft)).Becomes fun indent =>
        Text.join separator (trees.map (print indent)) where
  solid := by
    refine (Draft.isSolid_ofText hs).join fun body hm => ?_
    obtain ⟨tree, ht, rfl⟩ := List.mem_map.mp hm
    exact (h tree ht).solid
  written indent hi := by rw [Draft.text_join, Draft.text_ofText, map_print h hi]

/-- Drafts with a separator between them become the joined spellings, without the empty ones. -/
theorem becomes_joinPresent (separator : String) (hs : .scalar '\n' ∉ Text.ofString separator)
    : (Draft.join (Draft.ofText separator) (Draft.present (trees.map draft))).Becomes fun indent =>
        Text.join separator (Fragment.present (trees.map (print indent))) where
  solid := (Draft.isSolid_ofText hs).join fun body hm => (isSolid_of_mem_present h body hm).1
  written indent hi := by rw [Draft.text_join, Draft.text_ofText, present_print h hi]

/-- A header with a body in braces becomes the spelling of the compound statement. -/
theorem becomes_compound {header : Draft} {write : Text → Text} (hh : header.Becomes write)
    : (Draft.compound header (Draft.present (trees.map draft))).Becomes fun indent =>
        Fragment.compound indent (write indent) (Fragment.present (trees.map (print indent))) where
  solid :=
    (hh.solid.append (Draft.isSolid_ofText (by decide))).append
      (Draft.isSolid_enclosed (isSolid_of_mem_present h))
  written indent hi := by
    rw [Draft.compound, Draft.text_append, Draft.text_append, Draft.text_ofText,
      Draft.text_enclosed (isSolid_of_mem_present h) hi, ← present_print h hi,
      ← hh.written indent hi, Fragment.compound]

end Lists

/-- A word is spelled like its draft. -/
theorem isDrafted_word {name : Text} (h : .scalar '\n' ∉ name) : (word name).IsDrafted := by
  simpa only [IsDrafted, draft, print] using Draft.becomes_ofText h

/-- What is missing is spelled like its draft. -/
theorem isDrafted_absent : absent.IsDrafted := isDrafted_word List.not_mem_nil

/-- A number is spelled like its draft. -/
theorem isDrafted_number {spelling : Text} (h : .scalar '\n' ∉ spelling)
    : (number spelling).IsDrafted := by
  simpa only [IsDrafted, draft, print] using Draft.becomes_ofText h

/-- A string stands on one line, whatever it holds. -/
theorem isDrafted_string (value : Text) : (string value).IsDrafted := by
  have hvalue := (isPhrase_string value).quiet.not_mem
  simpa only [IsDrafted, draft, print] using Draft.becomes_ofText hvalue

/-- A sign becomes itself, whatever the indentation is. -/
theorem becomes_sign (sign : String) (h : .scalar '\n' ∉ Text.ofString sign)
    : (Draft.ofText sign).Becomes fun _ => (sign : Text) :=
  Draft.becomes_ofText h

/-- A list of trees with drafts has a draft. -/
theorem isDrafted_list {elements : List Tree} (h : ∀ element ∈ elements, element.IsDrafted)
    : (list elements).IsDrafted := by
  have helements := becomes_join h ", " (by decide)
  rw [IsDrafted]
  simp only [draft, print]
  split
  · exact becomes_sign "\x7b\x7d" (by decide)
  · exact ((becomes_sign "\x7b " (by decide)).append helements).append
      (becomes_sign " \x7d" (by decide))

section Expressions

variable {inner left right : Tree} {operator name : Text}

/-- A tree between parentheses has a draft if it has one without them. -/
theorem isDrafted_group (h : inner.IsDrafted) : (group inner).IsDrafted := by
  have hopen := becomes_sign "(" (by decide)
  have hclose := becomes_sign ")" (by decide)
  simpa only [IsDrafted, draft, print] using (hopen.append h).append hclose

/-- An operation with two operands has a draft if both of them have one. -/
theorem isDrafted_binary (ho : .scalar '\n' ∉ operator) (hl : left.IsDrafted)
    (hr : right.IsDrafted)
    : (binary operator left right).IsDrafted := by
  have hblank := becomes_sign " " (by decide)
  have hoperator := Draft.becomes_ofText ho
  simpa only [IsDrafted, draft, print] using
    (((hl.append hblank).append hoperator).append hblank).append hr

/-- An assignment has a draft if both of its sides have one. -/
theorem isDrafted_assign (ho : .scalar '\n' ∉ operator) (hl : left.IsDrafted)
    (hr : right.IsDrafted)
    : (assign operator left right).IsDrafted := by
  have hblank := becomes_sign " " (by decide)
  have hoperator := Draft.becomes_ofText ho
  simpa only [IsDrafted, draft, print] using
    (((hl.append hblank).append hoperator).append hblank).append hr

/-- An operation with one operand has a draft if the operand has one. -/
theorem isDrafted_unary (ho : .scalar '\n' ∉ operator) (h : inner.IsDrafted)
    : (unary operator inner).IsDrafted := by
  simpa only [IsDrafted, draft, print] using (Draft.becomes_ofText ho).append h

/-- An update has a draft if its operand has one. -/
theorem isDrafted_update (ho : .scalar '\n' ∉ operator) (h : inner.IsDrafted) (leading : Bool)
    : (update operator inner leading).IsDrafted := by
  have hoperator := Draft.becomes_ofText ho
  cases leading with
  | true => simpa only [IsDrafted, draft, print, if_true] using hoperator.append h
  | false =>
      simpa only [IsDrafted, draft, print, Bool.false_eq_true, if_false] using h.append hoperator

/-- A call has a draft if the callee and all arguments have one. -/
theorem isDrafted_call {arguments : List Tree} (h : inner.IsDrafted)
    (ha : ∀ argument ∈ arguments, argument.IsDrafted)
    : (call inner arguments).IsDrafted := by
  have hopen := becomes_sign "(" (by decide)
  have hclose := becomes_sign ")" (by decide)
  have harguments := becomes_join ha ", " (by decide)
  simpa only [IsDrafted, draft, print] using
    ((Draft.Becomes.append h hopen).append harguments).append hclose

/-- An element at a position has a draft if both of its trees have one. -/
theorem isDrafted_index (hl : left.IsDrafted) (hr : right.IsDrafted)
    : (index left right).IsDrafted := by
  have hopen := becomes_sign "[" (by decide)
  have hclose := becomes_sign "]" (by decide)
  simpa only [IsDrafted, draft, print] using ((hl.append hopen).append hr).append hclose

/-- A member of an object has a draft if the object has one. -/
theorem isDrafted_dot (h : inner.IsDrafted) (hn : .scalar '\n' ∉ name)
    : (dot inner name).IsDrafted := by
  have hpoint := becomes_sign "." (by decide)
  simpa only [IsDrafted, draft, print] using (h.append hpoint).append (Draft.becomes_ofText hn)

/-- A name in a scope has a draft if the scope has one. -/
theorem isDrafted_scope (h : inner.IsDrafted) (hn : .scalar '\n' ∉ name)
    : (scope inner name).IsDrafted := by
  have hscope := becomes_sign "::" (by decide)
  simpa only [IsDrafted, draft, print] using (h.append hscope).append (Draft.becomes_ofText hn)

end Expressions

section Declarations

/-- A statement that is an expression has a draft if the expression has one. -/
theorem isDrafted_simple {expression : Tree} (h : expression.IsDrafted)
    : (simple expression).IsDrafted := by
  simpa only [IsDrafted, draft, print] using Draft.Becomes.terminated h

/-- A parameter is spelled like its draft. -/
theorem isDrafted_parameter {name : Text} (h : .scalar '\n' ∉ name)
    : (parameter name).IsDrafted := by
  have hname : .scalar '\n' ∉ ("auto " ++ name : Text) := by
    rw [List.mem_append, not_or]
    exact ⟨by decide, h⟩
  simpa only [IsDrafted, draft, print] using Draft.becomes_ofText hname

/-- A part that may be missing becomes its spelling, or nothing. -/
theorem becomes_optional {α : Type} {item : Option α} {f : α → Draft} {write : α → Text → Text}
    (h : ∀ inner ∈ item, (f inner).Becomes (write inner))
    : Draft.Becomes (item.elim [] f) fun indent => item.elim [] (write · indent) := by
  cases item with
  | none => exact Draft.becomes_ofText List.not_mem_nil
  | some inner => exact h inner rfl

/-- A declarator has a draft if its parts have one. -/
theorem isDrafted_declarator {type : Option Text} {target : Tree} {initial : Option Tree}
    (h : ∀ name ∈ type, .scalar '\n' ∉ name) (ht : target.IsDrafted)
    (hi : ∀ value ∈ initial, value.IsDrafted)
    : (declarator type target initial).IsDrafted := by
  have hlead := becomes_optional fun name hm =>
    (Draft.becomes_ofText (h name hm)).append (becomes_sign " " (by decide))
  have htail := becomes_optional fun value hm =>
    (becomes_sign " = " (by decide)).append (hi value hm)
  simpa only [IsDrafted, draft_declarator, print_declarator] using (hlead.append ht).append htail

/-- A declaration has a draft if its declarators have one. -/
theorem isDrafted_declaration {declarators : List Tree}
    (h : ∀ declarator ∈ declarators, declarator.IsDrafted)
    : (declaration declarators).IsDrafted where
  solid := by
    have hblank : .scalar '\n' ∉ (" " : Text) := by decide
    rw [draft]
    refine (Draft.isSolid_ofText hblank).join fun part hm => ?_
    obtain ⟨body, hb, rfl⟩ := List.mem_map.mp hm
    exact (isSolid_of_mem_present h body hb).1.terminated
  written indent hi := by
    have hterminated : Draft.text indent ∘ Draft.terminated
        = Fragment.terminated ∘ Draft.text indent :=
      funext fun body => Draft.text_terminated indent body
    rw [print, draft, present_print h hi, Draft.text_join, List.map_map, List.map_map, hterminated,
      Draft.text_ofText]

/-- The declarators in a loop header have a draft if each of them has one. -/
theorem isDrafted_heading {declarators : List Tree}
    (h : ∀ declarator ∈ declarators, declarator.IsDrafted)
    : (heading declarators).IsDrafted := by
  simpa only [IsDrafted, draft, print] using becomes_joinPresent h ", " (by decide)

/-- A return has a draft if its value has one. -/
theorem isDrafted_returning {value : Option Tree} (h : ∀ inner ∈ value, inner.IsDrafted)
    : (returning value).IsDrafted := by
  rw [IsDrafted]
  simp only [draft_returning, print_returning]
  cases value with
  | none => exact becomes_sign "return;" (by decide)
  | some inner =>
      have hopen := becomes_sign "return " (by decide)
      exact (hopen.append (h inner rfl)).append (becomes_sign ";" (by decide))

end Declarations

section Statements

variable {test : Tree} {body : List Tree} (hb : ∀ tree ∈ body, tree.IsDrafted)

include hb

/-- A block has a draft if its statements have one. -/
theorem isDrafted_block : (block body).IsDrafted where
  solid := by
    rw [draft]
    exact Draft.isSolid_enclosed (isSolid_of_mem_present hb)
  written indent hi := by
    rw [print, draft, Draft.text_enclosed (isSolid_of_mem_present hb) hi, present_print hb hi]

/-- A conditional statement has a draft if its test and its statements have one. -/
theorem isDrafted_conditional (h : test.IsDrafted) : (conditional test body).IsDrafted := by
  have hopen := becomes_sign "if (" (by decide)
  have hclose := becomes_sign ")" (by decide)
  simpa only [IsDrafted, draft, print] using becomes_compound hb ((hopen.append h).append hclose)

/-- The second branch has a draft if what is in front of it has one. -/
theorem isDrafted_otherwise (h : test.IsDrafted) : (otherwise test body).IsDrafted := by
  have hblank := becomes_sign " " (by decide)
  have helse := becomes_compound hb (becomes_sign "else" (by decide))
  simpa only [IsDrafted, draft, print] using (Draft.Becomes.append h hblank).append helse

/-- A loop has a draft if its test and its statements have one. -/
theorem isDrafted_whileLoop (h : test.IsDrafted) : (whileLoop test body).IsDrafted := by
  have hopen := becomes_sign "while (" (by decide)
  have hclose := becomes_sign ")" (by decide)
  simpa only [IsDrafted, draft, print] using becomes_compound hb ((hopen.append h).append hclose)

/-- A function has a draft if its name, its parameters and its statements have one. -/
theorem isDrafted_function {parameters : List Tree} (h : test.IsDrafted)
    (hp : ∀ parameter ∈ parameters, parameter.IsDrafted)
    : (function test parameters body).IsDrafted := by
  have hvoid := becomes_sign "void " (by decide)
  have hopen := becomes_sign "(" (by decide)
  have hclose := becomes_sign ")" (by decide)
  have hparameters := becomes_join hp ", " (by decide)
  simpa only [IsDrafted, draft, print] using
    becomes_compound hb ((((hvoid.append h).append hopen).append hparameters).append hclose)

/-- What stands in the first slot of a loop header comes of one draft with the semicolon behind
it. -/
def IsSlotted (tree : Tree) : Prop :=
  (tree.draft ++ "; ").Becomes fun indent => tree.print indent ++ "; "

omit hb in
/-- What has a draft of its own has one in a loop header as well. -/
theorem IsDrafted.isSlotted {tree : Tree} (h : tree.IsDrafted) : tree.IsSlotted :=
  h.append (becomes_sign "; " (by decide))

omit hb in
/-- A statement without its semicolon has a draft in a loop header. -/
theorem isSlotted_slot {tree : Tree} (h : tree.IsDrafted) : (slot tree).IsSlotted where
  solid := by
    rw [draft]
    exact h.solid.dropTrailing_append (by decide) (by decide) (by decide)
  written indent hi := by
    rw [print, draft, Draft.text_append, Draft.text_ofText,
      Draft.text_dropTrailing h.solid.closes (by decide), h.written indent hi]

/-- A loop with a header of three parts has a draft if the parts and the statements have one. -/
theorem isDrafted_forLoop {initial test advance : Option Tree}
    (hi : ∀ tree ∈ initial, tree.IsSlotted) (ht : ∀ tree ∈ test, tree.IsDrafted)
    (ha : ∀ tree ∈ advance, tree.IsDrafted)
    : (forLoop initial test advance body).IsDrafted := by
  have hopen := becomes_sign "for (" (by decide)
  have hnext := becomes_sign "; " (by decide)
  have hclose := becomes_sign ")" (by decide)
  have hinitial : Draft.Becomes (initial.elim [] draft ++ "; ") fun indent =>
      initial.elim [] (print indent) ++ "; " := by
    cases initial with
    | none => exact hnext
    | some tree => exact hi tree rfl
  have hheader := ((((hopen.append hinitial).append (becomes_optional ht)).append hnext).append
    (becomes_optional ha)).append hclose
  simpa only [IsDrafted, draft_forLoop, print_forLoop, List.append_assoc] using
    becomes_compound hb hheader

end Statements

/-- A chain of branches has a draft if both sides of it have one. -/
theorem isDrafted_chain {opening alternative : Tree} (h : opening.IsDrafted)
    (h' : alternative.IsDrafted)
    : (chain opening alternative).IsDrafted := by
  have helse := becomes_sign " else " (by decide)
  simpa only [IsDrafted, draft, print] using (h.append helse).append h'

/-- A whole program has a draft if its statements have one. -/
theorem isDrafted_unit {body : List Tree} (h : ∀ tree ∈ body, tree.IsDrafted)
    : (unit body).IsDrafted where
  solid := by
    rw [draft]
    exact Draft.isSolid_unlines (isSolid_of_mem_present h)
  written indent hi := by rw [print, draft, Draft.text_unlines, present_print h hi]

section Containers

/-- A name with the namespaces in front of it, by induction over the latter. -/
theorem isDrafted_scopes {tree : Tree} (h : tree.IsDrafted) {names : List Text}
    (hn : ∀ name ∈ names, .scalar '\n' ∉ name)
    : (names.foldl scope tree).IsDrafted := by
  induction names generalizing tree with
  | nil => exact h
  | cons name names ih =>
      have hscope := isDrafted_scope h (hn name List.mem_cons_self)
      exact ih hscope fun other hm => hn other (List.mem_cons_of_mem _ hm)

/-- A name with scopes is spelled like its draft. -/
theorem isDrafted_qualified {name : Text} (h : .scalar '\n' ∉ name)
    : (qualified name).IsDrafted := by
  obtain ⟨first, rest, hs⟩ := List.exists_cons_of_ne_nil name.segments_ne_nil
  -- The pieces of the name stand in the name.
  have hname := name.join_segments
  rw [hs, Text.join_cons] at hname
  rw [← hname, List.mem_append, not_or, List.mem_flatMap] at h
  obtain ⟨hfirst, hrest⟩ := h
  rw [qualified, hs]
  refine isDrafted_scopes (isDrafted_word hfirst) fun piece hm hp => hrest ⟨piece, hm, ?_⟩
  exact List.mem_append_right _ hp

variable {object : Tree} (h : object.IsDrafted)

include h

/-- The start of a container has a draft if the container has one. -/
theorem isDrafted_start : (start object).IsDrafted :=
  isDrafted_call (isDrafted_dot h (by decide)) nofun

/-- The place behind the last element has a draft if the container has one. -/
theorem isDrafted_finish : (finish object).IsDrafted :=
  isDrafted_call (isDrafted_dot h (by decide)) nofun

/-- Removal of the last element has a draft if the container has one. -/
theorem isDrafted_popped : (popped object).IsDrafted :=
  isDrafted_call (isDrafted_dot h (by decide)) nofun

/-- Removal of the first element has a draft if the container has one. -/
theorem isDrafted_shifted : (shifted object).IsDrafted :=
  isDrafted_call (isDrafted_dot h (by decide)) (List.forall_mem_singleton.mpr (isDrafted_start h))

/-- Reversal of a container has a draft if the container has one. -/
theorem isDrafted_reversed : (reversed object).IsDrafted := by
  have hreverse : (scope (word "std") "reverse").IsDrafted :=
    isDrafted_scope (isDrafted_word (by decide)) (by decide)
  refine isDrafted_call hreverse (List.forall_mem_cons.mpr ⟨isDrafted_start h, ?_⟩)
  exact List.forall_mem_singleton.mpr (isDrafted_finish h)

/-- Removal of some elements has a draft if the container and both numbers have one. -/
theorem isDrafted_spliced {position count : Tree} (hp : position.IsDrafted) (hc : count.IsDrafted)
    : (spliced object position count).IsDrafted := by
  have hfirst : (binary "+" (start object) position).IsDrafted :=
    isDrafted_binary (by decide) (isDrafted_start h) hp
  refine isDrafted_call (isDrafted_dot h (by decide)) (List.forall_mem_cons.mpr ⟨hfirst, ?_⟩)
  exact List.forall_mem_singleton.mpr (isDrafted_binary (by decide) hfirst hc)

/-- A property of a container has a draft if the container has one. -/
theorem isDrafted_property? {name : Text} {access : Tree}
    (ha : object.property? name = some access)
    : access.IsDrafted := by
  rcases property?_eq_some ha with
    ⟨rfl, rfl⟩ | ⟨rfl, rfl⟩ | ⟨rfl, rfl⟩ | ⟨rfl, rfl⟩ | ⟨rfl, rfl⟩ | ⟨rfl, rfl⟩
  · exact isDrafted_call (isDrafted_dot h (by decide)) nofun
  · exact isDrafted_dot h (by decide)
  · exact isDrafted_popped h
  · exact isDrafted_shifted h
  · exact isDrafted_dot h (by decide)
  · exact isDrafted_reversed h

/-- A method of a container has a draft if the container and the arguments have one. -/
theorem isDrafted_method (kind : Fragment.Method) {arguments : List Tree}
    (ha : ∀ argument ∈ arguments, argument.IsDrafted)
    : (method kind object arguments).IsDrafted := by
  cases kind with
  | pop => exact isDrafted_popped h
  | shift => exact isDrafted_shifted h
  | reverse => exact isDrafted_reversed h
  | push =>
      match arguments with
      | [] | _ :: _ :: _ => exact isDrafted_absent
      | [argument] => exact isDrafted_call (isDrafted_dot h (by decide)) ha
  | splice =>
      match arguments with
      | [] | _ :: _ :: _ :: _ => exact isDrafted_absent
      | [position] =>
          exact isDrafted_spliced h (ha position List.mem_cons_self) (isDrafted_number (by decide))
      | [position, count] =>
          have hcount := ha count (List.mem_cons_of_mem _ List.mem_cons_self)
          exact isDrafted_spliced h (ha position List.mem_cons_self) hcount

end Containers

end DeviceScript.Cpp.Tree
