import DeviceScript.Proofs.Emission.Visits
import DeviceScript.Proofs.Text.Lines
import Mathlib.Algebra.BigOperators.Ring.List

/-! Where the code points of a text come from. What stands between the words of a program is ASCII
or indentation, so any other code point stands in the text as often as in the words that are
written, those of each node counted as often as the node is written.
-/

namespace DeviceScript

/-- Tells whether a code point is an ASCII character. -/
def CodePoint.isAscii (point : CodePoint) : Bool := point.value < 0x80

/-- The sum of the numbers that the members of several lists yield. -/
theorem sum_map_flatMap {α β : Type} (list : List α) (f : α → List β) (g : β → Nat)
    : ((list.flatMap f).map g).sum = (list.map fun a => ((f a).map g).sum).sum := by
  rw [List.map_flatMap, List.flatMap_def, List.sum_flatten, List.map_map]
  rfl

/-- No braces come to stand around an argument of a method. -/
theorem Fragment.Method.enclosed_argumentPart (method : Method) {arguments : List Node}
    {part : Part} (h : part ∈ method.argumentParts arguments)
    : part.enclosed = false := by
  cases method with
  | splice =>
      cases arguments with
      | nil => cases h
      | cons start rest =>
          rcases List.mem_cons.mp h with rfl | h
          · rfl
          · obtain ⟨_, _, rfl⟩ := List.mem_map.mp h
            rfl
  | _ =>
      obtain ⟨_, _, rfl⟩ := List.mem_map.mp h
      rfl

-----------------------------------------------------------------------------------------
-- What C++ adds to the texts of nodes is ASCII
-----------------------------------------------------------------------------------------

section Spelling

variable {point : CodePoint} (outside : point.isAscii = false)

include outside

namespace Text

/-- A code point beyond ASCII does not occur in a text of ASCII. -/
theorem count_ascii {text : Text} (h : text.all CodePoint.isAscii = true)
    : text.count point = 0 := by
  refine List.count_eq_zero.mpr fun hm => ?_
  have hascii := List.all_eq_true.mp h point hm
  rw [outside] at hascii
  cases hascii

/-- A code point beyond ASCII does not occur in a literal text of ASCII. -/
theorem count_ofString {string : String} (h : (ofString string).all CodePoint.isAscii = true)
    : (ofString string).count point = 0 :=
  count_ascii outside h

/-- In a joined text it occurs as often as in all its parts. -/
theorem count_join {separator : Text} (h : separator.all CodePoint.isAscii = true)
    (texts : List Text)
    : (join separator texts).count point = (texts.map (List.count point)).sum := by
  match texts with
  | [] => rfl
  | [text] => exact (Nat.add_zero _).symm
  | first :: second :: rest =>
      rw [join_cons_cons, List.count_append, List.count_append, count_ascii outside h,
        count_join h, List.map_cons, List.sum_cons, Nat.add_zero]
      rfl

/-- In lines it occurs as often as in all of them. -/
theorem count_unlines (texts : List Text)
    : (unlines texts).count point = (texts.map (List.count point)).sum :=
  count_join outside rfl texts

/-- The lines of a text have as many of it as the text. -/
theorem count_lines (text : Text)
    : (text.lines.map (List.count point)).sum = text.count point := by
  rw [← count_unlines outside, unlines_lines]

/-- Nothing of it is lost with a mark at the end. -/
theorem count_dropTrailing {mark : CodePoint} (h : mark.isAscii = true) (text : Text)
    : (dropTrailing mark text).count point = text.count point := by
  have hne : mark ≠ point := by
    rintro rfl
    rw [outside] at h
    cases h
  have hdrop : ∀ text : Text, (text.dropWhile (· = mark)).count point = text.count point := by
    intro text
    induction text with
    | nil => rfl
    | cons head tail ih =>
        rw [List.dropWhile_cons]
        split
        · rename_i hhead
          rw [ih, of_decide_eq_true hhead, List.count_cons_of_ne hne]
        · rfl
  rw [dropTrailing, List.count_reverse, hdrop, List.count_reverse]

end Text

namespace Fragment

/-- Parentheses add nothing to it. -/
theorem count_asOperand (node : Node) (strength : Nat) (right : Bool) (text : Text)
    : (node.asOperand strength right text).count point = text.count point := by
  unfold Node.asOperand
  split
  · simp (disch := decide) only [List.count_append, Text.count_ofString outside, Nat.add_zero,
      Nat.zero_add]
  · rfl

/-- A semicolon adds nothing to it. -/
theorem count_terminated (fragment : Text)
    : (terminated fragment).count point = fragment.count point := by
  unfold terminated
  split
  · rename_i h
    rw [h]
  · simp (disch := decide) only [List.count_append, Text.count_ofString outside, Nat.add_zero]

/-- An operation with one operand has as many of it as its sign and the operand. -/
theorem count_unary (operator argument : Text)
    : (unary operator argument).count point = operator.count point + argument.count point := by
  unfold unary
  split <;>
    simp (disch := decide) only [List.count_append, Text.count_ofString outside, Nat.add_zero,
      Nat.zero_add]

omit outside in
/-- Empty fragments have none of it. -/
theorem count_present (fragments : List Text)
    : ((present fragments).map (List.count point)).sum
      = (fragments.map (List.count point)).sum := by
  induction fragments with
  | nil => rfl
  | cons fragment fragments ih =>
      rw [present, List.filter_cons]
      split
      · rw [List.map_cons, List.sum_cons, ← present, ih]
        rfl
      · rename_i h
        have hempty : fragment = [] := not_not.mp (mt decide_eq_true h)
        rw [← present, ih, hempty]
        exact (Nat.zero_add _).symm

/-- Braces and indentation add nothing to it. -/
theorem count_enclosed {indent : Text} (clear : point ∉ indent) (fragments : List Text)
    : (enclosed indent fragments).count point = (fragments.map (List.count point)).sum := by
  have hline : ∀ line : Text,
      (if line = [] then line else indent ++ line).count point = line.count point := by
    intro line
    split
    · rfl
    · rw [List.count_append, List.count_eq_zero.mpr clear, Nat.zero_add]
  have hlines : (indented indent fragments).count point
      = (fragments.map (List.count point)).sum := by
    rw [indented, Text.count_unlines outside, List.map_map]
    simp only [Function.comp_def, hline, sum_map_flatMap, Text.count_lines outside]
  unfold enclosed
  split
  · rename_i h
    rw [h]
    exact Text.count_ofString outside (by decide)
  · simp (disch := decide) only [List.count_append, Text.count_ofString outside, Nat.add_zero,
      Nat.zero_add, hlines]

/-- A header and braces around fragments add nothing to it but what is in the header. -/
theorem count_compound {indent : Text} (clear : point ∉ indent) (header : Text)
    (fragments : List Text)
    : (compound indent header fragments).count point
      = header.count point + (fragments.map (List.count point)).sum := by
  simp (disch := decide) only [compound, List.count_append, Text.count_ofString outside,
    Nat.add_zero, count_enclosed outside clear]

/-- Declared types have none of it. -/
theorem count_declaredType (initial : Option Node) : (declaredType initial).count point = 0 := by
  have htype : ∀ type : ElementType, type.spelling.count point = 0 := by
    intro type
    cases type <;> exact Text.count_ofString outside (by decide)
  unfold declaredType
  split
  · simp (disch := decide) only [List.count_append, Text.count_ofString outside, htype]
  · exact Text.count_ofString outside (by decide)
  · exact Text.count_ofString outside (by decide)

/-- Removal of the last element names the container once. -/
theorem count_popped (object : Text) : (popped object).count point = 1 * object.count point := by
  simp (disch := decide) only [popped, List.count_append, Text.count_ofString outside,
    Nat.add_zero, Nat.one_mul]

/-- Removal of the first element names the container twice. -/
theorem count_shifted (object : Text)
    : (shifted object).count point = 2 * object.count point := by
  simp (disch := decide) only [shifted, List.count_append, Text.count_ofString outside,
    Nat.add_zero, Nat.two_mul]

/-- Reversal names the container twice. -/
theorem count_reversed (object : Text)
    : (reversed object).count point = 2 * object.count point := by
  simp (disch := decide) only [reversed, List.count_append, Text.count_ofString outside,
    Nat.add_zero, Nat.zero_add, Nat.two_mul]

/-- Removal of some elements names the container three times and the position twice. -/
theorem count_spliced (object start count : Text)
    : (spliced object start count).count point
      = 3 * object.count point + (2 * start.count point + count.count point) := by
  simp (disch := decide) only [spliced, List.count_append, Text.count_ofString outside,
    Nat.add_zero]
  omega

/-- Access to a property of a container repeats the object, and adds no word. -/
theorem count_property? {object name access : Text} (h : property? object name = some access)
    (place : Option Location)
    : access.count point = (Node.identifier name place).accessCopies * object.count point := by
  have hmark : ∀ mark : String, (Text.ofString mark).all CodePoint.isAscii = true
      → (object ++ Text.ofString mark).count point = 1 * object.count point := by
    intro mark hmark
    rw [List.count_append, Text.count_ofString outside hmark, Nat.add_zero, Nat.one_mul]
  rcases property?_eq_some h with
    ⟨rfl, rfl⟩ | ⟨rfl, rfl⟩ | ⟨rfl, rfl⟩ | ⟨rfl, rfl⟩ | ⟨rfl, rfl⟩ | ⟨rfl, rfl⟩
  · exact hmark ".size()" (by decide)
  · exact hmark ".push_back" (by decide)
  · exact count_popped outside object
  · exact count_shifted outside object
  · exact hmark ".erase" (by decide)
  · exact count_reversed outside object

/-- A call of a method repeats the object and its arguments, and adds no word. -/
theorem count_methodText {method : Method} {arguments : List Node} (object : Text)
    (f : Node → Text) (fits : method.isFaultyCall arguments = false)
    : (methodText method object (arguments.map fun node => (node, f node))).count point
      = method.objectCopies * object.count point
          + ((method.argumentParts arguments).map fun part =>
            part.copies * (f part.node).count point).sum := by
  have hnone : (((arguments.map fun node => ({ node, copies := 0 } : Part)).map fun part =>
      part.copies * (f part.node).count point)).sum = 0 := by
    rw [List.map_map]
    exact (List.sum_map_mul_left arguments _ 0).trans (Nat.zero_mul _)
  cases method with
  | pop => exact (count_popped outside object).trans (hnone ▸ rfl)
  | shift => exact (count_shifted outside object).trans (hnone ▸ rfl)
  | reverse => exact (count_reversed outside object).trans (hnone ▸ rfl)
  | push =>
      rcases arguments with _ | ⟨argument, _ | ⟨_, _⟩⟩
      · cases fits
      · simp (disch := decide) only [List.map_cons, List.map_nil, methodText, List.count_append,
          Text.count_ofString outside, listed, count_asOperand outside, Method.argumentParts,
          Method.objectCopies, List.sum_cons, List.sum_nil, Nat.add_zero, Nat.one_mul]
      · cases fits
  | splice =>
      rcases arguments with _ | ⟨start, _ | ⟨count, _ | ⟨_, _⟩⟩⟩
      · cases fits
      · simp (disch := decide) only [List.map_cons, List.map_nil, methodText,
          count_spliced outside, Text.count_ofString outside, summand, count_asOperand outside,
          Method.argumentParts, Method.objectCopies, List.sum_cons, List.sum_nil, Nat.add_zero]
      · simp only [List.map_cons, List.map_nil, methodText, count_spliced outside, summand,
          count_asOperand outside, Method.argumentParts, Method.objectCopies, List.sum_cons,
          List.sum_nil, Nat.add_zero, Nat.one_mul]
      · cases fits

end Fragment

end Spelling

namespace Node

-----------------------------------------------------------------------------------------
-- A node has words of its own, and its parts have theirs
-----------------------------------------------------------------------------------------

/-- The words of a node itself: a name, an operator or a literal. -/
def ownWords : Node → Text
  | identifier name _ | parameter name _ => name
  | literal value _ _ => Fragment.literalText value
  | binary operator _ _ _ | logical operator _ _ _ => Operator.spelling operator
  | unary operator _ _ _ | update operator _ _ _ | assignment operator _ _ _ => operator
  | member _ (identifier name _) false _ =>
    if (Fragment.property? [] name).isSome || Fragment.isDeferred name then [] else name
  | _ => []

/-- The words of a node as they are written, where a name may replace them. -/
def wording (shims : ShimTable) (node : Node) : Text :=
  (Fragment.replacement? shims node.soughtName?).getD node.ownWords

end Node

namespace Fragment

/-- How often a code point stands in what is written of a part. -/
def partCount (style : Style) (depth : Nat) (point : CodePoint) (part : Part) : Nat :=
  part.copies * (text style (depth + part.enclosed.toNat) part.node).count point

variable {style : Style} {depth : Nat} {point : CodePoint}

/-- The count over parts of a list is that over its texts. -/
@[simp]
theorem sum_partCount (nodes : List Node)
    : ((nodes.map fun node => ({ node } : Part)).map (partCount style depth point)).sum
      = (nodes.map fun node => (text style depth node).count point).sum := by
  rw [List.map_map]
  simp only [Function.comp_def, partCount, Nat.one_mul, Bool.toNat_false, Nat.add_zero]

/-- The count over a part is that over the text of its node. -/
theorem partCount_node (node : Node)
    : partCount style depth point { node } = (text style depth node).count point :=
  Nat.one_mul _

/-- The count over a body is that over the texts of its statements. -/
@[simp]
theorem sum_bodyCount (body : Node)
    : (body.bodyParts.map (partCount style depth point)).sum
      = (body.inner.map fun node => (text style (depth + 1) node).count point).sum := by
  rw [Node.bodyParts, List.map_map]
  simp only [Function.comp_def, partCount, Nat.one_mul, Bool.toNat_true]

/-- The count over a part that may be missing is that over its text. -/
@[simp]
theorem sum_optionCount (node : Option Node)
    : ((node.toList.map fun node => ({ node } : Part)).map (partCount style depth point)).sum
      = (node.elim [] (text style depth)).count point := by
  cases node with
  | none => rfl
  | some node => exact (sum_partCount [node]).trans (Nat.add_zero _)

/-- The parts that are not written add nothing. -/
theorem sum_visitedParts (shims : ShimTable) (node : Node)
    : ((node.visitedParts shims).map (partCount style depth point)).sum
      = ((node.remainingParts shims).map (partCount style depth point)).sum := by
  have hfilter : ∀ parts : List Part,
      ((parts.filter fun part => part.copies ≠ 0).map (partCount style depth point)).sum
        = (parts.map (partCount style depth point)).sum := by
    intro parts
    induction parts with
    | nil => rfl
    | cons part parts ih =>
        rw [List.filter_cons, List.map_cons, List.sum_cons, ← ih]
        split
        · rw [List.map_cons, List.sum_cons]
        · rename_i h
          have hcopies : part.copies = 0 := not_not.mp (mt decide_eq_true h)
          rw [partCount, hcopies, Nat.zero_mul, Nat.zero_add]
  cases hchain : node.isReplacedChain shims with
  | false => rw [Node.visitedParts_of_not_chain hchain, hfilter]
  | true =>
      -- Emission comes to the object of such a chain, and writes nothing of it.
      have hvisited : node.visitedParts shims
          = node.parts.map fun part => { part with copies := 0 } :=
        if_pos hchain
      have hremaining : node.remainingParts shims = [] := by
        rw [Node.remainingParts, Node.isReplaced_of_isReplacedChain hchain, if_pos rfl]
        exact Node.tail_parts_of_isReplacedChain hchain
      rw [hvisited, hremaining, List.map_map]
      simp only [Function.comp_def, partCount]
      exact (List.sum_map_mul_left node.parts _ 0).trans (Nat.zero_mul _)

/-- Without a replacement, the words and the remaining parts of a node are its own ones. -/
theorem count_of_not_isReplaced {node : Node} (h : node.isReplaced style.shims = false)
    : (node.wording style.shims).count point
          + ((node.remainingParts style.shims).map (partCount style depth point)).sum
      = node.ownWords.count point + (node.parts.map (partCount style depth point)).sum := by
  rw [Node.wording, ← Node.substitution?_target, Node.substitution?_eq_none h,
    Node.remainingParts, h, if_neg Bool.false_ne_true]
  rfl

/-- A node without words of its own has the count of its parts. -/
theorem count_wordless {node : Node} (h : node.isReplaced style.shims = false)
    (hw : node.ownWords = [])
    : (node.wording style.shims).count point
          + ((node.remainingParts style.shims).map (partCount style depth point)).sum
      = (node.parts.map (partCount style depth point)).sum := by
  rw [count_of_not_isReplaced h, hw, List.count_nil, Nat.zero_add]

section Words

variable (outside : point.isAscii = false)

include outside

/-- A declarator has as many of it behind another one as alone. -/
theorem count_continuedText (node : Node)
    : (continuedText style depth node).count point = (text style depth node).count point := by
  cases node with
  | declarator target initial location =>
      simp (disch := decide) only [continuedText_declarator, text_declarator, List.count_append,
        count_declaredType outside, Text.count_ofString outside, Nat.zero_add]
  | _ => simp only [continuedText, continuedLayout, text]

/-- A statement has as many of it in a loop header as alone. -/
theorem count_headerText (node : Node)
    : (headerText style depth node).count point = (text style depth node).count point := by
  cases node with
  | declaration declarations keyword location =>
      cases declarations with
      | nil =>
          simp only [headerText, headerLayout, Cpp.Tree.print, text_declaration]
          rfl
      | cons first rest =>
          rw [headerText_declaration, text_declaration, Text.count_join outside (by decide),
            Text.count_join outside (by decide), List.map_map]
          simp only [Function.comp_def, count_terminated outside, count_present, List.map_cons,
            List.map_map, List.sum_cons, count_continuedText outside]
  | _ =>
      simp only [headerText, headerLayout, Cpp.Tree.print]
      exact Text.count_dropTrailing outside (by decide) _

/-- The second branch has the count of its parts. -/
theorem count_alternateText (clear : point ∉ style.indent) (node : Node)
    : (alternateText style depth node).count point
      = (node.alternateParts.map (partCount style depth point)).sum := by
  unfold alternateText Node.alternateParts
  split
  · simp (disch := decide) only [List.count_append, Text.count_ofString outside, Nat.zero_add,
      List.map_cons, List.map_nil, List.sum_cons, List.sum_nil, Nat.add_zero, partCount_node]
  · simp (disch := decide) only [List.count_append, Text.count_ofString outside, Nat.zero_add,
      count_compound outside clear, count_present, sum_bodyCount, List.map_map,
      Function.comp_def]

-----------------------------------------------------------------------------------------
-- Chains of names and calls, where a name may replace the words
-----------------------------------------------------------------------------------------

/-- The code points of a chain of names, or of a property and what stands in front of it. -/
theorem count_access (object : Node) (name : Text) (place location : Option Location)
    : let node := Node.member object (.identifier name place) false location
      (text style depth node).count point
        = (node.wording style.shims).count point
          + ((node.remainingParts style.shims).map (partCount style depth point)).sum := by
  intro node
  let operand := object.asOperand Operator.primary false (text style depth object)
  have hoperand : operand.count point = (text style depth object).count point :=
    count_asOperand outside _ _ _ _
  have hsum : (node.parts.map (partCount style depth point)).sum
      = (Node.identifier name place).accessCopies * (text style depth object).count point :=
    Nat.add_zero _
  have hspecial : (property? operand name).isSome = (property? [] name).isSome :=
    isSome_property? operand name
  rw [text_member, if_neg Bool.false_ne_true]
  change (propertyText style.shims node (.identifier name place) operand).count point = _
  rw [propertyText]
  cases ha : property? operand name with
  | some access =>
      -- A property of containers is not looked up.
      have hnone : (property? [] name).isNone = false := by
        rw [← Option.not_isSome, ← hspecial, ha]
        rfl
      have hreplaced : node.isReplaced style.shims = false := by
        simp only [node, Node.isReplaced, hnone, Bool.false_and]
      have hwords : node.ownWords = [] := by
        simp only [node, Node.ownWords, ← hspecial, ha, Option.isSome_some, Bool.true_or, if_true]
      rw [count_wordless hreplaced hwords, hsum, ← hoperand]
      exact count_property? outside ha place
  | none =>
      have hsome : (property? [] name).isSome = false := by
        rw [← hspecial, ha]
        rfl
      have honce : (Node.identifier name place).accessCopies = 1 := by
        refine if_neg ?_
        rintro (rfl | rfl) <;> cases ha
      rw [honce, Nat.one_mul] at hsum
      cases hd : isDeferred name with
      | true =>
          -- Neither is one that is left out.
          have hreplaced : node.isReplaced style.shims = false := by
            simp only [node, Node.isReplaced, hd, Bool.not_true, Bool.and_false, Bool.false_and]
          have hwords : node.ownWords = [] := by
            simp only [node, Node.ownWords, hd, Bool.or_true, if_true]
          rw [count_wordless hreplaced hwords, hsum]
          exact hoperand
      | false =>
          have hsought : node.soughtName? = node.dottedName? := by
            simp only [node, Node.soughtName?, ← Option.not_isSome, hsome, hd, Bool.not_false,
              Bool.and_true, if_true]
          have hreplaced : node.isReplaced style.shims
              = (replacement? style.shims node.dottedName?).isSome := by
            rw [← Node.isSome_substitution?, ← hsought, ← Node.substitution?_target,
              Option.isSome_map]
          simp only [Bool.false_eq_true, if_false]
          cases hf : replacement? style.shims node.dottedName? with
          | some target =>
              rw [hf] at hreplaced
              rw [Node.wording, hsought, hf, Node.remainingParts, hreplaced, Option.isSome_some,
                if_pos rfl]
              rfl
          | none =>
              rw [hf] at hreplaced
              have hwords : node.ownWords = name := by
                simp only [node, Node.ownWords, hsome, hd, Bool.or_false, Bool.false_eq_true,
                  if_false]
              rw [count_of_not_isReplaced hreplaced, hwords, hsum, Option.getD_none,
                ShimTable.scopedName, List.count_append, List.count_append,
                Text.count_ofString outside (by decide), hoperand]
              exact Nat.add_comm _ _

/-- The code points of an ordinary call. -/
theorem count_ordinary {callee : Node} (arguments : List Node) (location : Option Location)
    (h : callee.selected? = none)
    : let node := Node.call callee arguments location
      (text style depth node).count point
        = (node.wording style.shims).count point
          + ((node.remainingParts style.shims).map (partCount style depth point)).sum := by
  intro node
  have hsought : node.soughtName? = callee.dottedName? := by
    simp only [node, Node.soughtName?, h, Option.isNone_none, if_true]
  have hparts : node.parts = { node := callee } :: arguments.map fun node => { node } := by
    simp only [node, Node.parts, h]
  have hreplaced : node.isReplaced style.shims
      = (replacement? style.shims callee.dottedName?).isSome := by
    rw [← Node.isSome_substitution?, ← hsought, ← Node.substitution?_target, Option.isSome_map]
  have hlist : (Text.join ", " (arguments.map fun node =>
        listed node (text style depth node))).count point
      = ((arguments.map fun node => ({ node } : Part)).map (partCount style depth point)).sum := by
    rw [Text.count_join outside (by decide), sum_partCount, List.map_map]
    simp only [Function.comp_def, listed, count_asOperand outside]
  rw [text_ordinary _ _ _ _ h]
  simp (disch := decide) only [List.count_append, Text.count_ofString outside, hlist,
    Nat.add_zero]
  cases hf : replacement? style.shims callee.dottedName? with
  | some target =>
      rw [hf] at hreplaced
      rw [Node.wording, hsought, hf, Node.remainingParts, hreplaced, Option.isSome_some,
        if_pos rfl, hparts]
      rfl
  | none =>
      rw [hf] at hreplaced
      rw [count_wordless hreplaced rfl, hparts, List.map_cons, List.sum_cons, partCount_node,
        Option.getD_none, count_asOperand outside]

/-- The code points of a call of a method. -/
theorem count_selected {callee object : Node} {method : Method} {arguments : List Node}
    (location : Option Location) (h : callee.selected? = some (method, object))
    (fits : method.isFaultyCall arguments = false)
    : let node := Node.call callee arguments location
      (text style depth node).count point
        = (node.wording style.shims).count point
          + ((node.remainingParts style.shims).map (partCount style depth point)).sum := by
  intro node
  have hreplaced : node.isReplaced style.shims = false := by
    simp only [node, Node.isReplaced, h, Option.isNone_some, Bool.false_and]
  have hparts : node.parts
      = { node := object, copies := method.objectCopies } :: method.argumentParts arguments := by
    simp only [node, Node.parts, h]
  have harguments : (method.argumentParts arguments).map (partCount style depth point)
      = (method.argumentParts arguments).map fun part =>
          part.copies * (text style depth part.node).count point := by
    refine List.map_congr_left fun part hm => ?_
    rw [partCount, method.enclosed_argumentPart hm]
    rfl
  rw [count_wordless hreplaced rfl, hparts, List.map_cons, List.sum_cons, harguments,
    text_selected _ _ _ _ h, count_methodText outside _ _ fits, count_asOperand outside]
  rfl

-----------------------------------------------------------------------------------------
-- The text of a node has its words and those of its parts
-----------------------------------------------------------------------------------------

/-- The code points of a node that is emitted without an error: those of its own words, and those of
its parts, each as often as it is copied. -/
theorem count_text (clear : point ∉ style.indent) {node : Node}
    (clean : anyFatal (notes style depth node) = false)
    : (text style depth node).count point
      = (node.wording style.shims).count point
        + ((node.remainingParts style.shims).map (partCount style depth point)).sum := by
  have faultless := not_isFaulty clean
  cases node with
  | call callee arguments location =>
      cases hs : callee.selected? with
      | none => exact count_ordinary outside arguments location hs
      | some selection =>
          have hfits : selection.1.isFaultyCall arguments = false := by
            simpa only [Node.isFaulty, hs] using faultless
          exact count_selected outside location hs hfits
  | member object property computed location =>
      cases computed with
      | false =>
          cases property with
          | identifier name place => exact count_access outside object name place location
          | _ => cases faultless
      | true =>
          have hreplaced : (Node.member object property true location).isReplaced style.shims
              = false := by
            cases property <;> rfl
          have hwords : (Node.member object property true location).ownWords = [] := by
            cases property <;> rfl
          rw [count_wordless hreplaced hwords, Node.parts, if_pos rfl, text_member, if_pos rfl]
          simp (disch := decide) only [List.count_append, count_asOperand outside,
            Text.count_ofString outside, List.map_cons, List.map_nil, List.sum_cons, List.sum_nil,
            partCount_node, Nat.add_zero]
  | program body location =>
      rw [count_wordless rfl rfl, text_program, Text.count_unlines outside, count_present,
        Node.parts, sum_partCount, List.map_map]
      rfl
  | declaration body _ location =>
      rw [count_wordless rfl rfl, text_declaration, Text.count_join outside (by decide),
        List.map_map]
      simp only [Function.comp_def, count_terminated outside]
      rw [count_present, Node.parts, sum_partCount, List.map_map]
      rfl
  | block body location =>
      rw [count_wordless rfl rfl, text_block, count_enclosed outside clear, count_present,
        List.map_map]
      exact (sum_bodyCount (.block body location)).symm
  | expressionStatement expression location =>
      rw [count_wordless rfl rfl, text_expressionStatement, count_terminated outside, Node.parts,
        List.map_singleton, List.sum_singleton, partCount_node]
  | update operator argument leading location =>
      rw [count_of_not_isReplaced rfl, text_update, Node.parts, List.map_singleton,
        List.sum_singleton, partCount_node]
      change _ = operator.count point + _
      cases leading with
      | true =>
          simp only [if_true, List.count_append, count_asOperand outside]
      | false =>
          simp only [Bool.false_eq_true, if_false, List.count_append, count_asOperand outside]
          exact Nat.add_comm _ _
  | literal value raw location =>
      rw [count_of_not_isReplaced rfl, text_literal]
      rfl
  | binary operator left right location | logical operator left right location =>
      rw [count_of_not_isReplaced rfl]
      -- The operator stands between its operands, but is counted in front of both.
      change _ = (Operator.spelling operator).count point
        + (([left, right].map fun node => ({ node } : Part)).map (partCount style depth point)).sum
      simp (disch := decide) only [text_binary, text_logical, operationText,
        if_neg (of_decide_eq_false faultless), List.count_append, count_asOperand outside,
        Text.count_ofString outside, partCount_node, List.map_cons, List.map_nil, List.sum_cons,
        List.sum_nil, Nat.add_zero]
      omega
  | assignment operator left right location =>
      rw [count_of_not_isReplaced rfl, text_assignment, if_neg (of_decide_eq_false faultless)]
      change _ = operator.count point
        + (([left, right].map fun node => ({ node } : Part)).map (partCount style depth point)).sum
      simp (disch := decide) only [List.count_append, count_asOperand outside,
        Text.count_ofString outside, partCount_node, List.map_cons, List.map_nil, List.sum_cons,
        List.sum_nil, Nat.add_zero]
      omega
  | unary operator argument leading location =>
      rw [count_of_not_isReplaced rfl, text_unary, if_neg (of_decide_eq_false faultless),
        count_unary outside, count_asOperand outside, Node.parts, List.map_singleton,
        List.sum_singleton, partCount_node]
      rfl
  | declarator target initial location =>
      rw [count_wordless rfl rfl, text_declarator, Node.parts, List.map_cons, List.sum_cons,
        sum_optionCount, partCount_node]
      cases initial <;>
        simp (disch := decide) only [Option.elim, List.count_append, List.count_nil,
          count_declaredType outside, Text.count_ofString outside, Nat.zero_add]
  | array elements location =>
      have hfull : elements.any Option.isNone = false := faultless
      rw [count_wordless rfl rfl, text_array, hfull, if_neg Bool.false_ne_true, Node.parts,
        sum_partCount]
      split
      · rename_i he
        rw [he]
        exact Text.count_ofString outside (by decide)
      · simp (disch := decide) only [List.count_append, Text.count_ofString outside,
          Text.count_join outside, List.map_map, Function.comp_def, listed,
          count_asOperand outside, Nat.zero_add, Nat.add_zero]
  | ifElse test consequent alternate location =>
      rw [count_wordless rfl rfl, text_ifElse, Node.parts, List.cons_append, List.map_cons,
        List.sum_cons, List.map_append, List.sum_append_nat, sum_bodyCount, partCount_node,
        List.count_append, count_compound outside clear, count_present, List.map_map]
      have halternate : (alternate.elim [] (alternateText style depth)).count point
          = ((alternate.toList.flatMap Node.alternateParts).map
            (partCount style depth point)).sum := by
        cases alternate with
        | none => rfl
        | some node =>
            rw [Option.toList_some, List.flatMap_singleton]
            exact count_alternateText outside clear node
      simp (disch := decide) only [List.count_append, Text.count_ofString outside, Nat.zero_add,
        Nat.add_zero, halternate, Function.comp_def, Nat.add_assoc]
  | whileLoop test body location =>
      rw [count_wordless rfl rfl, text_whileLoop, Node.parts, List.map_cons, List.sum_cons,
        sum_bodyCount, partCount_node, count_compound outside clear, count_present, List.map_map]
      simp (disch := decide) only [List.count_append, Text.count_ofString outside, Nat.zero_add,
        Nat.add_zero, Function.comp_def]
  | forLoop initial test advance body location =>
      have hinitial : (initial.elim [] (headerText style depth)).count point
          = (initial.elim [] (text style depth)).count point := by
        cases initial with
        | none => rfl
        | some node => exact count_headerText outside node
      rw [count_wordless rfl rfl, text_forLoop, Node.parts, count_compound outside clear,
        count_present, List.map_map]
      simp (disch := decide) only [List.map_append, List.sum_append_nat, sum_optionCount,
        sum_bodyCount, List.count_append, Text.count_ofString outside, hinitial, Nat.zero_add,
        Nat.add_zero, Function.comp_def]
  | function name parameters body location =>
      have hopen : ¬ depth > 0 := of_decide_eq_false faultless
      rw [count_wordless rfl rfl, text_function, if_neg hopen, Node.parts,
        count_compound outside clear, count_present, List.map_map]
      simp (disch := decide) only [List.map_append, List.sum_append_nat, partCount_node,
        sum_bodyCount, List.count_append, Text.count_ofString outside, Text.count_join outside,
        List.map_cons, List.map_nil, List.sum_cons, List.sum_nil, List.map_map, Nat.zero_add,
        Nat.add_zero, Function.comp_def]
      omega
  | returning argument location =>
      rw [count_wordless rfl rfl, text_returning, Node.parts, sum_optionCount]
      cases argument <;>
        simp (disch := decide) only [Option.elim, List.count_append, List.count_nil,
          Text.count_ofString outside, Nat.zero_add, Nat.add_zero]
  | identifier name location =>
      rw [count_of_not_isReplaced rfl, text_identifier]
      rfl
  | parameter name location =>
      rw [count_of_not_isReplaced rfl, text_parameter, List.count_append,
        Text.count_ofString outside (by decide), Nat.zero_add]
      rfl
  | unsupported source detail location | foreign kind location => cases faultless

/-- A code point that is neither ASCII nor in the indentation stands in the text of a node as often
as in the wordings of the nodes that emission comes to, each as often as it is written, by induction
over the size of the node. -/
theorem count_visited (style : Style) (depth : Nat) (clear : point ∉ style.indent) {node : Node}
    (clean : anyFatal (notes style depth node) = false)
    : (text style depth node).count point
      = ((node.visited style.shims).map fun occurrence =>
          occurrence.copies * (occurrence.node.wording style.shims).count point).sum := by
  rw [count_text outside clear clean, ← sum_visitedParts, Node.visited_eq, List.map_cons,
    List.sum_cons, sum_map_flatMap]
  congr 1
  · exact (Nat.one_mul _).symm
  · congr 1
    refine List.map_congr_left fun part hm => ?_
    obtain ⟨copies, hpart, hwritten⟩ := Node.exists_writtenPart hm
    have hlt := Node.sizeOf_visitedPart hm
    have hclean := not_anyFatal_part clean hpart hwritten
    have hbelow := count_visited style (depth + part.enclosed.toNat) clear hclean
    rw [partCount, hbelow, ← List.sum_map_mul_left, List.map_map]
    simp only [Function.comp_def, Occurrence.copies_within, Nat.mul_assoc]
    rfl
termination_by sizeOf node

end Words

end Fragment

end DeviceScript
