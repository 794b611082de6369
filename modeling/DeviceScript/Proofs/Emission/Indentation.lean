import DeviceScript.Proofs.Emission.Draft
import DeviceScript.Proofs.Translation.Session

/-! How the emission of a program depends on the unit of indentation. It starts each line as often as
there are braced blocks around the line, and makes no other difference.
-/

namespace DeviceScript

open Cpp (Tree)

namespace Fragment

section Indents

variable {shims : ShimTable} (hshims : shims.IsUnbroken) {indent indent' : Text}
  (hindent : .scalar '\n' ∉ indent) (hindent' : .scalar '\n' ∉ indent') {node : Node}
  (h : node.IsUnbroken)

include hshims hindent hindent' h

/-- The signs of unbroken operands are the same for two indents. -/
theorem signsAlike_of_isUnbroken (depth : Nat) : SignsAlike ⟨shims, indent⟩ indent' depth node := by
  unfold SignsAlike
  split
  · rename_i operator argument leading location
    have hoperator := h _ (Node.mem_nodes_self _) operator List.mem_cons_self
    have hargument : (layout ⟨shims, indent⟩ depth argument).IsDrafted :=
      isDrafted_layout hshims (h.of_mem_nodes (Node.mem_nodes_of_child List.mem_cons_self)) depth
    have hplaced := Node.isDrafted_placed hargument argument Operator.leading false
    simp only [unaryTree]
    rw [hplaced.written _ hindent, hplaced.written _ hindent', Draft.startsWith_text hoperator]
  · trivial

/-- The tree of an unbroken node does not depend on the indent. -/
theorem layout_eq_of_isUnbroken (depth : Nat)
    : layout ⟨shims, indent⟩ depth node = layout ⟨shims, indent'⟩ depth node := by
  have hnames : ∀ inner ∈ node.nodes, RenamesAlike shims shims inner := fun _ _ => rfl
  have hsigns : ∀ inner ∈ node.nodes, ∀ depth, SignsAlike ⟨shims, indent⟩ indent' depth inner :=
    fun inner hm => signsAlike_of_isUnbroken hshims hindent hindent' (h.of_mem_nodes hm)
  exact layout_eq_of_alike hnames hsigns depth

end Indents

/-- The text of a node with any indentation comes of the draft of its tree. -/
theorem text_eq_text_draft {shims : ShimTable} (hshims : shims.IsUnbroken) {indent : Text}
    (hindent : .scalar '\n' ∉ indent) {node : Node} (h : node.IsUnbroken) (depth : Nat)
    : text ⟨shims, indent⟩ depth node = (layout ⟨shims, []⟩ depth node).draft.text indent := by
  have hplain : (layout ⟨shims, []⟩ depth node).IsDrafted := isDrafted_layout hshims h depth
  rw [text, layout_eq_of_isUnbroken hshims hindent List.not_mem_nil h]
  exact hplain.written indent hindent

/-- No line of the text of the node lies inside braces of the node. -/
def IsLevel (shims : ShimTable) (node : Node) : Prop :=
  ∀ depth, ∀ line ∈ (layout ⟨shims, []⟩ depth node).draft.depths, line = 0

/-- The nodes whose texts the messages on a node cite, whole or in part. -/
def cited : Node → List Node
  | .declarator target _ _ => [target]
  | .declaration (first :: _) _ _ => if first.kind? = some .declarator then [] else [first]
  | _ => []

/-- Whether a text begins with a mark shows in any part of it that is as long as the mark. -/
theorem isPrefixOf_append {mark text : Text} (h : mark.length ≤ text.length) (behind : Text)
    : mark.isPrefixOf (text ++ behind) = mark.isPrefixOf text := by
  rw [Bool.eq_iff_iff, List.isPrefixOf_iff_prefix, List.isPrefixOf_iff_prefix]
  constructor
  · intro hp
    exact List.prefix_of_prefix_length_le hp (List.prefix_append text behind) h
  · exact fun hp => hp.trans (List.prefix_append text behind)

/-- What stands behind a mark is no matter for the part of the text in front of it. -/
theorem before_append (mark lead behind : Text)
    : Text.before mark (lead ++ mark ++ behind) = Text.before mark (lead ++ mark) := by
  induction lead with
  | nil =>
      have hstart : ∀ behind, Text.before mark (mark ++ behind) = [] := by
        intro behind
        have hp : mark.isPrefixOf (mark ++ behind) = true :=
          List.isPrefixOf_iff_prefix.mpr (List.prefix_append mark behind)
        cases hm : mark ++ behind with
        | nil => rfl
        | cons point rest => rw [Text.before, ← hm, if_pos hp]
      have hnone := hstart []
      rw [List.append_nil] at hnone
      rw [List.nil_append, hstart, hnone]
  | cons point lead ih =>
      have hlength : mark.length ≤ (point :: (lead ++ mark)).length := by
        rw [List.length_cons, List.length_append]
        omega
      have hp := isPrefixOf_append hlength behind
      simp only [List.cons_append] at hp ⊢
      rw [Text.before, Text.before, hp, ih]

/-- What stands behind the sign in a declarator does not show in the report on the type that it
shares, since the type alone is as long as the keyword. -/
theorem sharedNotes_append (declaration : Node) (count : Nat) {lead : Text} (h : 5 ≤ lead.length)
    (behind : Text)
    : sharedNotes declaration count [lead ++ " =" ++ behind]
      = sharedNotes declaration count [lead ++ " ="] := by
  have hauto : (lead ++ " =" ++ behind).startsWith "auto " = (lead ++ " =").startsWith "auto " := by
    refine isPrefixOf_append ?_ behind
    rw [List.length_append]
    exact Nat.le_add_right_of_le h
  have hsign : (" =" : Text) ≠ [] := by decide
  simp only [sharedNotes, List.headD_cons, hauto, before_append, ne_eq, List.append_eq_nil_iff, hsign,
    and_false, false_and]

/-- A declared type has at least the length of the shortest one. -/
theorem length_declaredType (initial : Option Node) : 4 ≤ (declaredType initial).length := by
  unfold declaredType
  split
  · rw [List.length_append, List.length_append]
    exact Nat.le_add_right_of_le (Nat.le_add_right_of_le (by decide))
  · decide
  · decide

/-- A declarator shows in the report on the type that it shares up to the sign behind its name. -/
theorem sharedNotes_declarator {style style' : Style} {depth : Nat} {target : Node}
    (h : text style depth target = text style' depth target) (initial : Option Node)
    (location : Option Location) (declaration : Node) (count : Nat)
    : sharedNotes declaration count [text style depth (.declarator target initial location)]
      = sharedNotes declaration count [text style' depth (.declarator target initial location)] := by
  rw [text_declarator, text_declarator, ← h]
  cases initial with
  | none => rfl
  | some value =>
      have hlength : 5
          ≤ (declaredType (some value) ++ " " ++ text style depth target : Text).length := by
        have htype := length_declaredType (some value)
        have hblank : (" " : Text).length = 1 := rfl
        rw [List.length_append, List.length_append]
        omega
      have hvalue : ∀ lead behind : Text,
          lead ++ (" = " ++ behind) = lead ++ " =" ++ (" " ++ behind) := by
        intro lead behind
        rw [List.append_assoc]
        rfl
      rw [Option.elim_some, Option.elim_some, hvalue, hvalue,
        sharedNotes_append declaration count hlength, sharedNotes_append declaration count hlength]

section Citing

variable {shims : ShimTable} (hshims : shims.IsUnbroken) {indent indent' : Text}
  (hindent : .scalar '\n' ∉ indent) (hindent' : .scalar '\n' ∉ indent') {node : Node}
  (h : node.IsUnbroken)

include hshims hindent hindent' h

/-- A level text does not depend on the indent. -/
theorem text_eq_of_isLevel (hlevel : IsLevel shims node) (depth : Nat)
    : text ⟨shims, indent⟩ depth node = text ⟨shims, indent'⟩ depth node := by
  rw [text_eq_text_draft hshims hindent h, text_eq_text_draft hshims hindent' h]
  exact Draft.text_eq_of_feeds
    (fun line hm => hlevel depth line (List.mem_cons_of_mem 0 hm)) indent indent'

/-- Messages cite the same with any two units of indentation, if they cite no lines
inside braces. -/
theorem citesAlike_of_isLevel
    (hlevel : ∀ inner ∈ node.nodes, ∀ part ∈ cited inner, IsLevel shims part) (depth : Nat)
    : CitesAlike ⟨shims, indent⟩ ⟨shims, indent'⟩ depth node := by
  have hcited : ∀ inner ∈ node.nodes, ∀ part ∈ cited inner, part ∈ node.nodes →
      text ⟨shims, indent⟩ depth part = text ⟨shims, indent'⟩ depth part :=
    fun inner hm part hp hn =>
      text_eq_of_isLevel hshims hindent hindent' (h.of_mem_nodes hn) (hlevel inner hm part hp) depth
  cases node with
  | declarator target initial location =>
      exact hcited _ (Node.mem_nodes_self _) target List.mem_cons_self
        (Node.mem_nodes_of_child List.mem_cons_self)
  | declaration declarations keyword location =>
      cases declarations with
      | nil => trivial
      | cons first rest =>
          have hfirst : first ∈ (Node.declaration (first :: rest) keyword location).nodes :=
            Node.mem_nodes_of_child List.mem_cons_self
          -- Of a declarator, only its name shows; anything else may show as a whole.
          by_cases hk : first.kind? = some .declarator
          · cases first with
            | declarator target initial place =>
                have htarget := Node.nodes_subset hfirst (Node.mem_nodes_of_child List.mem_cons_self)
                have ht := hcited _ hfirst target List.mem_cons_self htarget
                exact sharedNotes_declarator ht initial place _ _
            | _ => exact absurd hk nofun
          · have hpart : first ∈ cited (.declaration (first :: rest) keyword location) := by
              rw [cited, if_neg hk]
              exact List.mem_cons_self
            simp only [CitesAlike, hcited _ (Node.mem_nodes_self _) first hpart hfirst]
  | _ => trivial

/-- A node leaves the same notes with any two units of indentation. -/
theorem notes_eq_of_isLevel
    (hlevel : ∀ inner ∈ node.nodes, ∀ part ∈ cited inner, IsLevel shims part) (depth : Nat)
    : notes ⟨shims, indent⟩ depth node = notes ⟨shims, indent'⟩ depth node := by
  have hnames : ∀ inner ∈ node.nodes, RenamesAlike shims shims inner := fun _ _ => rfl
  have hcites : ∀ inner ∈ node.nodes, ∀ depth,
      CitesAlike ⟨shims, indent⟩ ⟨shims, indent'⟩ depth inner := by
    intro inner hm depth
    have hsub := Node.nodes_subset hm
    refine citesAlike_of_isLevel hshims hindent hindent' (h.of_mem_nodes hm) ?_ depth
    exact fun other ho => hlevel other (hsub ho)
  exact notes_eq_of_alike hnames hcites depth

end Citing

/-- The number of braced blocks around each line of a program. -/
def lineDepths (shims : ShimTable) (body : List Node) : List Nat :=
  (layout ⟨shims, []⟩ 0 (.program body none)).draft.depths

/-- What the unit of indentation is for a program whose lines lie inside as many blocks as `depths`
tells: each line starts with it once for each block. Nothing else that the program leaves behind
depends on it, unless a message cites lines inside braces. -/
structure IndentsBy (shims : ShimTable) (body : List Node) (depths : List Nat) : Prop where
  length
    : ∀ progress,
        depths.length = ((emitProgram ⟨shims, []⟩ body).run progress).1.text.lines.length
  lines
    : ∀ indent progress,
        .scalar '\n' ∉ indent
        → ((emitProgram ⟨shims, indent⟩ body).run progress).1.text.lines
          = List.zipWith (fun depth line => (List.replicate depth indent).flatten ++ line) depths
              ((emitProgram ⟨shims, []⟩ body).run progress).1.text.lines
  reports
    : (∀ inner ∈ (Node.program body none).nodes, ∀ part ∈ cited inner, IsLevel shims part)
      → ∀ indent indent' progress,
          .scalar '\n' ∉ indent
          → .scalar '\n' ∉ indent'
          → ((emitProgram ⟨shims, indent⟩ body).run progress).1.diagnostics
                = ((emitProgram ⟨shims, indent'⟩ body).run progress).1.diagnostics
              ∧ ((emitProgram ⟨shims, indent⟩ body).run progress).2
                = ((emitProgram ⟨shims, indent'⟩ body).run progress).2

/-- A string literal is spelled on one line and in the same way with any indentation. -/
theorem text_string (style : Style) (depth : Nat) (value : Text) (raw : Option Text)
    (location : Option Location)
    : text style depth (.literal (.text value) raw location) = Text.Quoted.encode value
        ∧ .scalar '\n' ∉ Text.Quoted.encode value := by
  rw [text_literal]
  exact ⟨rfl, (Cpp.isPhrase_string value).quiet.not_mem⟩

/-- Indentation is the depth of nesting and nothing else, for every program whose names, operators
and replaced names are free of line breaks. -/
theorem emitProgram_indents (shims : ShimTable) (body : List Node) (hshims : shims.IsUnbroken)
    (hbody : (Node.program body none).IsUnbroken)
    : IndentsBy shims body (lineDepths shims body)
        ∧ ∀ style depth value raw location,
          text style depth (.literal (.text value) raw location) = Text.Quoted.encode value
            ∧ .scalar '\n' ∉ Text.Quoted.encode value := by
  have hdraft : (layout ⟨shims, []⟩ 0 (.program body none)).IsDrafted :=
    isDrafted_layout hshims hbody 0
  have htext : ∀ indent progress, .scalar '\n' ∉ indent →
      ((emitProgram ⟨shims, indent⟩ body).run progress).1.text
        = (layout ⟨shims, []⟩ 0 (.program body none)).draft.text indent := by
    intro indent progress hindent
    rw [text_emitProgram ⟨shims, indent⟩ body none progress]
    exact text_eq_text_draft hshims hindent hbody 0
  refine ⟨⟨?_, ?_, ?_⟩, text_string⟩
  -- The text comes of one draft, so its lines are those of the draft.
  · intro progress
    rw [htext [] progress List.not_mem_nil]
    exact Draft.length_depths hdraft.solid.clean
  · intro indent progress hindent
    rw [htext indent progress hindent, htext [] progress List.not_mem_nil]
    exact Draft.lines_text hdraft.solid.clean hindent
  -- Reports and the log are made of the notes on the program.
  · intro hlevel indent indent' progress hindent hindent'
    have hprogram := notes_eq_of_isLevel hshims hindent hindent' hbody hlevel 0
    rw [notes, notes] at hprogram
    rw [emitProgram_run, emitProgram_run, emitProgram_progress, emitProgram_progress, hprogram]
    exact ⟨rfl, rfl⟩

/-- A name is level. -/
theorem isLevel_identifier (shims : ShimTable) (name : Text) (location : Option Location)
    : IsLevel shims (.identifier name location) := by
  intro depth line hm
  rw [layout, Tree.draft, Draft.depths, Draft.feeds_ofText] at hm
  exact List.mem_singleton.mp hm

/-- A string with a line break stands on one line of the loop around it, whatever the
indentation. -/
theorem emitProgram_indents_loop
    : let body : List Node := [
        .whileLoop (.identifier "a" none)
          (.block [
            .expressionStatement (.literal (.text "x\ny") none none) none,
            .block [.returning none none] none] none) none,
        .declaration [.declarator (.identifier "t" none) (some (.array [] none)) none] "let" none]
      let emission (indent : Text) := (emitProgram ⟨.builtIn, indent⟩ body).run {}
      lineDepths .builtIn body = [0, 1, 1, 2, 1, 0, 0]
        ∧ ∀ indent, .scalar '\n' ∉ indent →
          (emission indent).1.text.lines
              = [("while (a) \x7b" : Text), indent ++ "\"x\\ny\";", indent ++ "\x7b",
                  indent ++ indent ++ "return;", indent ++ "\x7d", "\x7d",
                  "std::vector<auto> t = \x7b\x7d;"]
            ∧ (emission indent).1.diagnostics = (emission []).1.diagnostics := by
  intro body emission
  have hshims : ShimTable.builtIn.IsUnbroken := by
    unfold ShimTable.IsUnbroken
    decide
  have hbody : (Node.program body none).IsUnbroken := by
    unfold Node.IsUnbroken
    decide
  have hcited : (Node.program body none).nodes.flatMap cited = [.identifier "t" none] := rfl
  have hlevel : ∀ inner ∈ (Node.program body none).nodes, ∀ part ∈ cited inner,
      IsLevel .builtIn part := by
    intro inner hm part hp
    have hpart := List.mem_flatMap.mpr ⟨inner, hm, hp⟩
    rw [hcited] at hpart
    rw [List.mem_singleton.mp hpart]
    exact isLevel_identifier _ _ _
  have hdepths : lineDepths .builtIn body = [0, 1, 1, 2, 1, 0, 0] := by
    simp only [lineDepths, body, layout, layout_whileLoop, layout_declarator, layout_array,
      layout_returning, literalTree, Node.inner, List.map_cons, List.map_nil, List.filterMap_nil,
      List.any_nil, Bool.false_eq_true, if_false, Option.map_some, Option.map_none, Tree.draft,
      Tree.draft_declarator, Tree.draft_returning, Option.elim_some, Option.elim_none, if_true]
    decide
  obtain ⟨hindents, _⟩ := emitProgram_indents .builtIn body hshims hbody
  have hplain : (emission []).1.text.lines
      = [("while (a) \x7b" : Text), "\"x\\ny\";", "\x7b", "return;", "\x7d", "\x7d",
          "std::vector<auto> t = \x7b\x7d;"] := by decide
  refine ⟨hdepths, fun indent hindent => ⟨?_, ?_⟩⟩
  · have hlines := hindents.lines indent {} hindent
    rw [hdepths] at hlines
    rw [hlines.trans (congrArg _ hplain)]
    simp only [List.zipWith_cons_cons, List.zipWith_nil_left, List.replicate, List.flatten_cons,
      List.flatten_nil, List.nil_append, List.append_nil, List.append_assoc]
  · exact (hindents.reports hlevel indent [] {} hindent List.not_mem_nil).1

/-- An operator with a line break leaves an empty line in a block, which is not indented, and what
is no name can put the indentation into a message. -/
theorem emitProgram_indents_operator
    : let x : Node := .identifier "x" none
      let operation : Node := .update "\n" x true none
      let target : Node := .block [.expressionStatement x none] none
      let body : List Node := [
        .block [.expressionStatement operation none] none,
        .declaration [.declarator target (some (.array [] none)) none] "let" none]
      let emission (indent : Text) := ((emitProgram ⟨.builtIn, indent⟩ body).run {}).1
      let plain : List Text :=
        [("\x7b" : Text), [], "x;", "\x7d", "std::vector<auto> \x7b", "x;", "\x7d = \x7b\x7d;"]
      (∀ entry ∈ ShimTable.builtIn.entries, .scalar '\n' ∉ entry.2)
        ∧ (∀ inner ∈ (Node.program body none).nodes,
          inner.kind? = some .identifier → ∀ name ∈ inner.words, .scalar '\n' ∉ name)
        ∧ (emission []).text.lines = plain
        ∧ (emission "  ").text.lines
          ≠ List.zipWith (fun depth line => (List.replicate depth ("  " : Text)).flatten ++ line)
              [0, 1, 1, 0, 0, 1, 0] plain
        ∧ (emission "  ").diagnostics ≠ (emission []).diagnostics := by
  decide

end Fragment

end DeviceScript
