import DeviceScript.Proofs.Emission.Outline
import DeviceScript.Proofs.Emission.Wholes

/-! The numbers of digits alone among the tokens of a program. Each of them is the spelling of a
whole number that is written for the program, and there is no bound on such a number.
-/

namespace DeviceScript

namespace Fragment

open Cpp (IsClosing Spells SpellsEach Yields YieldsApart)
open Cpp.Partial (IsOpen IsWhole)

section Fragments

variable {α : Type} {list : List α} {f : α → Text} {g : α → List Text}

/-- The fragments that are not empty, by induction over the list. -/
theorem spells_present (h : ∀ member ∈ list, Spells (f member) (g member))
    : Spells (Text.unlines (present (list.map f))) (list.flatMap g) := by
  induction list with
  | nil => exact Cpp.spells_nil
  | cons member list ih =>
    have hrest := ih fun other hm => h other (List.mem_cons_of_mem _ hm)
    rw [List.map_cons, List.flatMap_cons, present, List.filter_cons]
    -- A fragment without a text has no line, and no numbers either.
    split
    · exact (h member List.mem_cons_self).unlines_cons hrest
    · exact hrest.mono (List.sublist_append_right _ _)

/-- Nodes that spell their numerals do so line by line, without the empty texts. -/
theorem spellsEach_present (h : ∀ member ∈ list, Spells (f member) (g member))
    : SpellsEach ((present (list.map f)).flatMap Text.lines) (list.flatMap g) := by
  induction list with
  | nil => trivial
  | cons member list ih =>
    have hrest := ih fun other hm => h other (List.mem_cons_of_mem _ hm)
    rw [List.map_cons, List.flatMap_cons, present, List.filter_cons]
    split
    · rw [List.flatMap_cons]
      exact (Cpp.spellsEach_lines (h member List.mem_cons_self)).append hrest
    · exact hrest.mono (List.sublist_append_right _ _)

/-- A slot that may be empty. -/
theorem yieldsApart_optional {slot : Option α}
    (h : ∀ member ∈ slot, YieldsApart (f member) (g member))
    : YieldsApart (slot.elim [] f) (slot.toList.flatMap g) := by
  cases slot with
  | none => exact Yields.nil.imp (fun _ h => h) fun _ h => h.isWhole
  | some member =>
    rw [Option.toList_some, List.flatMap_singleton]
    exact h member rfl

/-- A semicolon behind a text changes nothing in its numbers. -/
theorem yieldsApart_terminated {text : Text} {written : List Text} (h : YieldsApart text written)
    : YieldsApart (terminated text) written := by
  have hend : IsClosing ";" := ⟨rfl, rfl⟩
  unfold terminated
  split
  · next he =>
    subst he
    exact h
  · exact (h.closed hend).whole

end Fragments

section Compound

variable {indent : Text} (hindent : IsMargin indent) {fragments : List Text} {written : List Text}
  (h : SpellsEach (fragments.flatMap Text.lines) written)

include hindent h

/-- Statements in braces have the numbers of the statements. -/
theorem spells_enclosed : Spells (enclosed indent fragments) written := by
  have hbrace : Spells "\x7b" [] := (yieldsApart_inert rfl).spells
  rw [enclosed_eq]
  exact Cpp.spells_innerLines hindent.isBlank hbrace h

/-- A header and statements in braces have the numbers of both. -/
theorem spells_compound {header : Text} {written' : List Text} (hh : YieldsApart header written')
    : Spells (compound indent header fragments) (written' ++ written) := by
  rw [compound, List.append_assoc]
  exact hh.spells.blank rfl (spells_enclosed hindent h)

end Compound

-----------------------------------------------------------------------------------------
-- Declarators and parameters spell the numbers of their initial values
-----------------------------------------------------------------------------------------

section Leaves

variable {style : Style} (hshims : style.shims.IsQualified) (depth : Nat)

/-- A type that is declared has no numbers. -/
theorem isInert_declaredType (initial : Option Node)
    : (declaredType initial).all Cpp.isInert = true := by
  have hvector : ∀ type : ElementType,
      ("std::vector<" ++ type.spelling ++ ">" : Text).all Cpp.isInert = true := by
    intro type
    cases type <;> rfl
  unfold declaredType
  split
  · exact hvector _
  · rfl
  · rfl

include hshims

/-- A declarator in a declaration of its own, and one that goes on with a declaration. -/
theorem yieldsApart_declarator {node : Node} (h : node.IsCleanDeclarator)
    : YieldsApart (text style depth node) node.numerals
      ∧ YieldsApart (continuedText style depth node) node.numerals := by
  cases h with
  | @declarator target initial location isClean isClean' =>
    have htarget := yieldsApart_text hshims depth isClean
    have hequal : IsClosing " = " := ⟨rfl, rfl⟩
    have hinitial : Yields IsWhole IsWhole
        (initial.elim [] fun value => " = " ++ text style depth value)
        (initial.toList.flatMap Node.numerals) := by
      cases initial with
      | none => exact Yields.nil
      | some value =>
        have hvalue := yieldsApart_text hshims depth (isClean' value rfl)
        rw [Option.toList_some, List.flatMap_singleton]
        exact (Cpp.yields_closing hequal).append hvalue
    have hnumerals : (Node.declarator target initial location).numerals
        = target.numerals ++ initial.toList.flatMap Node.numerals := by
      rw [Node.numerals_of_parts rfl rfl rfl, Node.parts, List.flatMap_cons, List.flatMap_map]
    have hcontinued := htarget.append hinitial
    have htype := isClosing_blank (isInert_declaredType initial)
    rw [text_declarator, continuedText_declarator, hnumerals]
    refine ⟨?_, hcontinued⟩
    rw [List.append_assoc]
    exact hcontinued.opened htype

/-- A declaration without errors has the numbers of its declarators. -/
theorem spells_declaration {node : Node} (h : node.IsCleanDeclaration)
    : Spells (text style depth node) node.numerals := by
  cases h with
  | @declaration first rest keyword location isClean =>
    have hpresent : present ((first :: rest).map (text style depth))
        = (first :: rest).map (text style depth) := by
      refine List.filter_eq_self.mpr fun text' hm => decide_eq_true ?_
      obtain ⟨node, hn, rfl⟩ := List.mem_map.mp hm
      exact (isPhrase_declarator hshims depth (isClean node hn)).1.ne_nil
    have hblank : IsClosing " " := ⟨rfl, rfl⟩
    have hjoined := Cpp.yields_join hblank fun node hn =>
      yieldsApart_terminated (yieldsApart_declarator hshims depth (isClean node hn)).1
    rw [text_declaration, hpresent, List.map_map, Node.numerals_of_parts rfl rfl rfl, Node.parts,
      List.flatMap_map]
    exact hjoined.spells

/-- The first slot of the header of a loop. -/
theorem yieldsApart_headerText {node : Node}
    (h : node.IsCleanDeclaration ∨ node.IsCleanExpression)
    : YieldsApart (headerText style depth node) node.numerals := by
  rcases h with h | h
  · cases h with
    | @declaration first rest keyword location isClean =>
      have hphrase := fun node hn => isPhrase_declarator hshims depth (isClean node hn)
      have hyields := fun node hn => yieldsApart_declarator hshims depth (isClean node hn)
      have hpresent : present (text style depth first :: rest.map (continuedText style depth))
          = text style depth first :: rest.map (continuedText style depth) := by
        refine List.filter_eq_self.mpr fun text' hm => decide_eq_true ?_
        rcases List.mem_cons.mp hm with rfl | hm
        · exact (hphrase first List.mem_cons_self).1.ne_nil
        · obtain ⟨node, hn, rfl⟩ := List.mem_map.mp hm
          exact (hphrase node (List.mem_cons_of_mem _ hn)).2.ne_nil
      have hcomma : IsClosing ", " := ⟨rfl, rfl⟩
      have hrest := Cpp.yields_separated hcomma fun node hn =>
        (hyields node (List.mem_cons_of_mem _ hn)).2
      rw [Node.numerals_of_parts rfl rfl rfl, Node.parts, List.flatMap_map,
        headerText_declaration, hpresent, Text.join_cons]
      exact (hyields first List.mem_cons_self).1.append hrest
  · have hphrase := isPhrase_text hshims depth h
    rw [headerText_expression depth h, hphrase.quiet.isUnended.dropTrailing_eq]
    exact yieldsApart_text hshims depth h

end Leaves

/-- A parameter has no numbers. -/
theorem yieldsApart_parameter {style : Style} (depth : Nat) {node : Node}
    (h : node.IsCleanParameter)
    : YieldsApart (text style depth node) [] := by
  cases h with
  | @parameter name location isWord =>
    have htype : IsClosing "auto " := ⟨rfl, rfl⟩
    rw [text_parameter]
    exact ((Cpp.yields_word isWord).apart).opened htype

-----------------------------------------------------------------------------------------
-- Each kind of statement spells the numbers that are written for it
-----------------------------------------------------------------------------------------

section Statements

variable {style : Style} {depth : Nat} (hindent : IsMargin style.indent)

/-- The statements between the braces around a body, with the numbers that are written for them. -/
def SpellsInner (style : Style) (depth : Nat) (nodes : List Node) : Prop :=
  SpellsEach ((present (nodes.map (text style (depth + 1)))).flatMap Text.lines)
    (nodes.flatMap Node.numerals)

/-- A return has the numbers of its value. -/
theorem spells_returning {argument : Option Node} (location : Option Location)
    (h : ∀ value ∈ argument, YieldsApart (text style depth value) value.numerals)
    : Spells (text style depth (.returning argument location))
        (Node.returning argument location).numerals := by
  rw [text_returning, Node.numerals_of_parts rfl rfl rfl, Node.parts, List.flatMap_map]
  cases argument with
  | none =>
    have hall : YieldsApart "return;" [] := yieldsApart_inert rfl
    exact hall.spells
  | some value =>
    have hreturn : IsClosing "return " := ⟨rfl, rfl⟩
    have hend : IsClosing ";" := ⟨rfl, rfl⟩
    rw [Option.toList_some, List.flatMap_singleton]
    exact ((h value rfl).enclosed hreturn hend).spells

include hindent

/-- A loop has the numbers of its test and of its body. -/
theorem spells_whileLoop {test body : Node} (location : Option Location)
    (ht : YieldsApart (text style depth test) test.numerals)
    (h : SpellsInner style depth body.inner)
    : Spells (text style depth (.whileLoop test body location))
        (Node.whileLoop test body location).numerals := by
  have hwhile : IsClosing "while (" := ⟨rfl, rfl⟩
  have hclose : IsClosing ")" := ⟨rfl, rfl⟩
  have hloop := spells_compound hindent h (ht.enclosed hwhile hclose)
  rw [text_whileLoop, Node.numerals_of_parts rfl rfl rfl, Node.parts, List.flatMap_cons,
    Node.numerals_bodyParts]
  exact hloop

/-- A loop with a header has the numbers of the header and of its body. -/
theorem spells_forLoop {initial test advance : Option Node} {body : Node}
    (location : Option Location)
    (hi : ∀ node ∈ initial, YieldsApart (headerText style depth node) node.numerals)
    (ht : ∀ node ∈ test, YieldsApart (text style depth node) node.numerals)
    (ha : ∀ node ∈ advance, YieldsApart (text style depth node) node.numerals)
    (h : SpellsInner style depth body.inner)
    : Spells (text style depth (.forLoop initial test advance body location))
        (Node.forLoop initial test advance body location).numerals := by
  have hfor : IsClosing "for (" := ⟨rfl, rfl⟩
  have hsemicolon : IsClosing "; " := ⟨rfl, rfl⟩
  have hclose : IsClosing ")" := ⟨rfl, rfl⟩
  have htwo := ((yieldsApart_optional hi).opened hfor).between hsemicolon (yieldsApart_optional ht)
  have hheader := ((htwo.between hsemicolon (yieldsApart_optional ha)).closed hclose).whole
  have hloop := spells_compound hindent h hheader
  rw [text_forLoop, Node.numerals_of_parts rfl rfl rfl, Node.parts, List.flatMap_append,
    List.flatMap_map, List.flatMap_append, List.flatMap_append, Node.numerals_bodyParts]
  exact hloop

/-- Names and parameters have no numbers in them, and only the body is left. -/
theorem spells_function {name : Node} {parameters : List Node} {body : Node}
    (location : Option Location) (outermost : depth = 0)
    (hn : YieldsApart (text style depth name) [])
    (hp : ∀ node ∈ parameters, YieldsApart (text style depth node) [])
    (h : SpellsInner style depth body.inner)
    : Spells (text style depth (.function name parameters body location))
        (Node.function name parameters body location).numerals := by
  have hvoid : IsClosing "void " := ⟨rfl, rfl⟩
  have hopen : IsClosing "(" := ⟨rfl, rfl⟩
  have hcomma : IsClosing ", " := ⟨rfl, rfl⟩
  have hclose : IsClosing ")" := ⟨rfl, rfl⟩
  have hlisted := Cpp.yields_join hcomma hp
  have hheader := (((hn.opened hvoid).between hopen hlisted).closed hclose).whole
  have hempty : ([] ++ parameters.flatMap fun _ => []) = ([] : List Text) :=
    List.flatMap_eq_nil_iff.mpr fun _ _ => rfl
  rw [hempty] at hheader
  rw [text_function, if_neg (by omega), Node.numerals_of_parts rfl rfl rfl, Node.parts,
    List.flatMap_append, Node.numerals_bodyParts]
  exact (spells_compound hindent h hheader).mono (List.sublist_append_right _ _)

/-- The branches of a conditional, of which the second stands behind the word for it. -/
theorem spells_ifElse {test consequent : Node} {alternate : Option Node}
    (location : Option Location) (ht : YieldsApart (text style depth test) test.numerals)
    (h : SpellsInner style depth consequent.inner)
    (hchains : ∀ node ∈ alternate, node.isIfElse = true
      → Spells (text style depth node) node.numerals)
    (hcloses : ∀ node ∈ alternate, node.isIfElse = false → SpellsInner style depth node.inner)
    : Spells (text style depth (.ifElse test consequent alternate location))
        (Node.ifElse test consequent alternate location).numerals := by
  have hif : IsClosing "if (" := ⟨rfl, rfl⟩
  have hclose : IsClosing ")" := ⟨rfl, rfl⟩
  have hfirst := spells_compound hindent h (ht.enclosed hif hclose)
  rw [text_ifElse, Node.numerals_of_parts rfl rfl rfl, Node.parts, List.flatMap_append,
    List.flatMap_cons, Node.numerals_bodyParts]
  cases alternate with
  | none =>
    rw [Option.elim, List.append_nil]
    exact hfirst.mono (List.sublist_append_left _ _)
  | some node =>
    have hword : YieldsApart "else" [] := yieldsApart_inert rfl
    have hparts : (some node).toList.flatMap Node.alternateParts = node.alternateParts :=
      List.flatMap_singleton _ _
    rw [Option.elim, alternateText, hparts, Node.alternateParts]
    cases hi : node.isIfElse with
    | true =>
      -- Blanks stand on both sides of `else`, so it is read on its own.
      rw [if_pos rfl, if_pos rfl, List.flatMap_singleton]
      exact hfirst.blank rfl (hword.spells.blank rfl (hchains node rfl hi))
    | false =>
      rw [if_neg Bool.false_ne_true, if_neg Bool.false_ne_true, Node.numerals_bodyParts]
      exact hfirst.blank rfl (spells_compound hindent (hcloses node rfl hi) hword)

end Statements

-----------------------------------------------------------------------------------------
-- Programs spell the whole numbers of their literals
-----------------------------------------------------------------------------------------

/-- The numbers of digits alone in the text of a statement without an error are those that are
written for it, by induction over the statement. -/
theorem spells_text {style : Style} (hshims : style.shims.IsQualified)
    (hindent : IsMargin style.indent) {depth : Nat} {node : Node} (h : node.IsCleanStatement depth)
    : Spells (text style depth node) node.numerals := by
  induction h with
  | expressionStatement isClean =>
    rw [text_expressionStatement, Node.numerals_of_one rfl rfl rfl rfl]
    exact (yieldsApart_terminated (yieldsApart_text hshims _ isClean)).spells
  | declaration isClean => exact spells_declaration hshims _ isClean
  | block _ ih =>
    rw [text_block, Node.numerals_of_parts rfl rfl rfl, Node.parts, List.flatMap_map]
    exact spells_enclosed hindent (spellsEach_present ih)
  | ifElse isClean _ _ _ ih hchains hcloses =>
    exact spells_ifElse hindent _ (yieldsApart_text hshims _ isClean) (spellsEach_present ih)
      hchains fun node hn hi => spellsEach_present (hcloses node hn hi)
  | whileLoop isClean _ ih =>
    exact spells_whileLoop hindent _ (yieldsApart_text hshims _ isClean) (spellsEach_present ih)
  | forLoop opens tests advances _ ih =>
    refine spells_forLoop hindent _ ?_ ?_ ?_ (spellsEach_present ih)
    · exact fun node hn => yieldsApart_headerText hshims _ (opens node hn)
    · exact fun node hn => yieldsApart_text hshims _ (tests node hn)
    · exact fun node hn => yieldsApart_text hshims _ (advances node hn)
  | function isWord isClean _ ih =>
    refine spells_function hindent _ rfl ?_ ?_ (spellsEach_present ih)
    · rw [text_identifier]
      exact (Cpp.yields_word isWord).apart
    · exact fun node hn => yieldsApart_parameter 0 (isClean node hn)
  | returning isClean =>
    exact spells_returning _ fun value hv => yieldsApart_text hshims _ (isClean value hv)

/-- The assignment of a whole number to a name. -/
def assigned (number : Nat) : Node :=
  .expressionStatement
    (.assignment "=" (.identifier "x" none) (.literal (.integer number) none none) none) none

/-- The assignment of a number is a statement. -/
theorem isStatement_assigned (number : Nat) : (assigned number).IsStatement :=
  .expressionStatement (.assignment (by decide) (.identifier (by decide)) .literal)

/-- Whatever its size, a number is written with all its digits, and nothing is reported. -/
theorem tokens_assigned (style : Style) (number : Nat) (progress : Progress)
    : let emission := ((emitProgram style [assigned number]).run progress).1
      emission.diagnostics = []
        ∧ Cpp.tokens emission.text
          = some [.word "x", .mark "=", .number (Text.ofNat number), .mark ";"] := by
  intro emission
  have hnotes : notes style 0 (assigned number) = [] := by
    simp only [assigned, notes]
    rfl
  have htext : text style 0 (assigned number)
      = "x" ++ (" " ++ ("=" ++ (" " ++ Text.ofNat number))) ++ (";" : Text) := by
    rw [assigned, text_expressionStatement, text_assignment, text_identifier, text_literal]
    rfl
  have hnumber : Cpp.Scans (Text.ofNat number) [.number (Text.ofNat number)] ";" := by
    refine Cpp.scans_number (Cpp.isNumeral_ofNat number) ?_
    rintro point ⟨⟩
    decide
  have hright : Cpp.Scans ("=" ++ (" " ++ Text.ofNat number))
      [.mark "=", .number (Text.ofNat number)] ";" := hnumber.spaced (by decide)
  have hname : Cpp.Scans "x" [.word "x"]
      (" " ++ ("=" ++ (" " ++ Text.ofNat number)) ++ (";" : Text)) := by
    refine Cpp.scans_word (by decide) ?_
    rintro point ⟨⟩
    decide
  have hend : Cpp.Scans ";" [.mark ";"] [] :=
    Cpp.scans_mark (by decide) fun _ hm => absurd hm (Option.not_mem_none _)
  have hall : Cpp.Scans (text style 0 (assigned number))
      [.word "x", .mark "=", .number (Text.ofNat number), .mark ";"] [] :=
    htext ▸ (hname.append hright.blank).append hend
  constructor
  · simp only [emission, emitProgram_run, List.flatMap_cons, List.flatMap_nil, hnotes]
    rfl
  · have hne : text style 0 (assigned number) ≠ [] :=
      htext ▸ List.append_ne_nil_of_right_ne_nil _ (by decide)
    have hprogram : emission.text = text style 0 (assigned number) := by
      simp only [emission, text_emitProgram style _ none, text_program, List.map_cons, List.map_nil,
        present_single hne]
      rfl
    rw [hprogram, Cpp.tokens, ← List.append_nil (text style 0 _), hall]
    rfl

/-- Each token of a program that consists of digits alone is the spelling of a whole number that is
written for the program, in the order in which they are written. The number is that of a literal or
the count that a call of `splice` leaves out, the digits denote it, and none of them is a zero in
front of others. It is an integer of C++ if the literals are. -/
theorem digits_emitProgram {style : Style} (hshims : style.shims.IsQualified)
    (hindent : IsMargin style.indent) {body : List Node} (h : ∀ node ∈ body, node.IsStatement)
    (progress : Progress)
    (clean : ((emitProgram style body).run progress).1.hasFatal = false)
    : ∃ found, Cpp.tokens ((emitProgram style body).run progress).1.text = some found
        ∧ (Cpp.digits found).Sublist ((body.flatMap Node.wholes).map Text.ofNat)
        ∧ (∀ spelling ∈ Cpp.digits found, ∃ node ∈ body, ∃ number,
            node.Supplies number ∧ spelling.toNat 10 = number
              ∧ (spelling.head? = some '0' → spelling = "0"))
        ∧ ((∀ node ∈ body, node.IsRepresentable)
          → ∀ spelling ∈ Cpp.digits found, spelling.toNat 10 ≤ Cpp.greatestInteger) := by
  rw [hasFatal_emitProgram, anyFatal_flatMap, List.any_eq_false] at clean
  have hspells := spells_present fun node hm =>
    spells_text hshims hindent ((h node hm).isClean (Bool.eq_false_iff.mpr (clean node hm)))
  obtain ⟨found, htokens, hsub⟩ := hspells.exists_tokens
  -- Spellings are listed where texts are put together, and numbers where their sources are sought.
  have hnumerals : body.flatMap Node.numerals = (body.flatMap Node.wholes).map Text.ofNat :=
    List.map_flatMap.symm
  rw [hnumerals] at hsub
  have hdigits : ∀ spelling ∈ Cpp.digits found, ∃ node ∈ body, ∃ number,
      node.Supplies number ∧ spelling.toNat 10 = number
        ∧ (spelling.head? = some '0' → spelling = "0") := by
    intro spelling hm
    obtain ⟨number, hn, rfl⟩ := List.mem_map.mp (hsub.subset hm)
    obtain ⟨node, hb, hn⟩ := List.mem_flatMap.mp hn
    refine ⟨node, hb, number, Node.supplies_of_mem_wholes hn, Text.toNat_ofNat number, fun hz => ?_⟩
    rw [Text.eq_zero_of_head?_ofNat hz]
    rfl
  refine ⟨found, ?_, hsub, hdigits, fun representable spelling hm => ?_⟩
  · rw [text_emitProgram style body none, text_program]
    exact htokens
  · obtain ⟨node, hb, number, supplied, rfl, _⟩ := hdigits spelling hm
    exact supplied.le (representable node hb)

/-- A call of `splice` that leaves the count out. -/
def erasedOne : Node :=
  .expressionStatement
    (.call (.member (.identifier "a" none) (.identifier "splice" none) false none)
      [.literal (.integer 7) none none] none)
    none

/-- The implied count of a removal is a number of its own in the text. -/
theorem digits_emitProgram_erasedOne
    : let emission := ((emitProgram ⟨ShimTable.builtIn, "  "⟩ [erasedOne]).run {}).1
      (∃ found, Cpp.tokens emission.text = some found
        ∧ (Cpp.digits found).Sublist (([erasedOne].flatMap Node.wholes).map Text.ofNat)
        ∧ (∀ spelling ∈ Cpp.digits found, ∃ node ∈ [erasedOne], ∃ number,
            node.Supplies number ∧ spelling.toNat 10 = number
              ∧ (spelling.head? = some '0' → spelling = "0"))
        ∧ ((∀ node ∈ [erasedOne], node.IsRepresentable)
          → ∀ spelling ∈ Cpp.digits found, spelling.toNat 10 ≤ Cpp.greatestInteger))
        ∧ (Cpp.tokens emission.text).map Cpp.digits = some ([7, 7, 1].map Text.ofNat) := by
  have hindent : IsMargin "  " := by
    unfold IsMargin
    decide
  have hstatement : erasedOne.IsStatement := by
    refine .expressionStatement (.call (.member ?_ ?_) ?_)
    · exact .identifier (by decide)
    · exact .identifier (by decide)
    · exact List.forall_mem_singleton.mpr .literal
  exact ⟨digits_emitProgram ShimTable.isQualified_builtIn hindent
    (List.forall_mem_singleton.mpr hstatement) {} rfl, rfl⟩

/-- A number beyond all integers of C++ is written all the same. -/
theorem digits_tooLarge
    : let body := [assigned (Nat.pow 10 22)]
      let emission := ((emitProgram ⟨ShimTable.builtIn, "  "⟩ body).run {}).1
      (∀ node ∈ body, node.IsStatement)
        ∧ emission.hasFatal = false
        ∧ ∃ found, Cpp.tokens emission.text = some found
          ∧ ∃ spelling ∈ Cpp.digits found, Cpp.greatestInteger < spelling.toNat 10 := by
  intro body emission
  obtain ⟨hreported, htokens⟩ :=
    tokens_assigned ⟨ShimTable.builtIn, "  "⟩ (Nat.pow 10 22) {}
  refine ⟨?_, ?_, _, htokens, Text.ofNat (Nat.pow 10 22), ?_, ?_⟩
  · exact List.forall_mem_singleton.mpr (isStatement_assigned _)
  · rw [Emission.hasFatal, hreported]
    rfl
  · have hm : Cpp.Token.number (Text.ofNat (Nat.pow 10 22))
        ∈ [.word "x", .mark "=", .number (Text.ofNat (Nat.pow 10 22)), .mark ";"] :=
      List.mem_cons_of_mem _ (List.mem_cons_of_mem _ List.mem_cons_self)
    exact List.mem_filterMap.mpr ⟨_, hm, Cpp.Token.digits?_ofNat _⟩
  · rw [Text.toNat_ofNat]
    decide

end Fragment

end DeviceScript
