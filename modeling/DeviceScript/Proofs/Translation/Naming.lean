import DeviceScript.Proofs.Emission.Agreement
import DeviceScript.Proofs.Emission.Program
import DeviceScript.Translation.Conversion

/-! Tables of names. Of a table that replaces names, only the entries for the dotted names that a
tree spells show in its translation, so entries for other names may be added or changed.
-/

namespace DeviceScript

open Fragment Translator

/-- The dotted names that the nodes of a tree spell: identifiers, and accesses to properties of
dotted names. -/
def Node.dottedNames (node : Node) : List Text := node.nodes.filterMap Node.dottedName?

/-- The translator with another table of names. -/
def Translator.withShims (translator : Translator) (shims : ShimTable) : Translator :=
  { translator with shims }

namespace ShimTable

/-- Two tables replace the names from a list alike. -/
def AgreesOn (shims shims' : ShimTable) (names : List Text) : Prop :=
  ∀ name ∈ names, shims.lookup? name = shims'.lookup? name

/-- Emission of a node, in any state of a run, and translation of a script that is read as the node
do the same with two tables. -/
structure Indistinct (shims shims' : ShimTable) (node : Node) : Prop where
  emit : ∀ indent, emit ⟨shims, indent⟩ node = emit ⟨shims', indent⟩ node
  emitProgram
    : ∀ indent,
        emitProgram ⟨shims, indent⟩ node.statements = emitProgram ⟨shims', indent⟩ node.statements
  translate
    : ∀ (translator : Translator) (code : Text) (trace : Trace),
        translator.read code = .ok node
        → (translator.withShims shims).translate code trace
          = (translator.withShims shims').translate code trace

variable {shims shims' : ShimTable} {names : List Text}

/-- Entries for other names change nothing, by induction over the entries. -/
theorem agreesOn_overlay (shims : ShimTable) {extras : List (Text × Text)}
    (h : ∀ extra ∈ extras, extra.1 ∉ names)
    : shims.AgreesOn (shims.overlay extras) names := by
  intro name hm
  unfold lookup? overlay Keyed.putAll
  generalize shims.entries = entries
  induction extras generalizing entries with
  | nil => rfl
  | cons extra extras ih =>
      have hne : name ≠ extra.1 := fun he => h extra List.mem_cons_self (he ▸ hm)
      have hrest := ih (fun extra hm => h extra (List.mem_cons_of_mem _ hm))
        (Keyed.put extra.1 extra.2 entries)
      rw [List.foldl_cons, ← hrest, Keyed.lookup_put_of_ne hne]

/-- The names of the nodes in a tree are among those that the tree spells. -/
theorem AgreesOn.renamesAlike {node : Node} (h : shims.AgreesOn shims' node.dottedNames)
    : ∀ inner ∈ node.nodes, RenamesAlike shims shims' inner := by
  intro inner hm
  unfold RenamesAlike
  cases hname : inner.dottedName? with
  | none => rfl
  | some name => exact h name (List.mem_filterMap.mpr ⟨inner, hm, hname⟩)

/-- Tables that agree on some names agree on fewer. -/
theorem AgreesOn.mono {names' : List Text} (h : shims.AgreesOn shims' names) (hs : names' ⊆ names)
    : shims.AgreesOn shims' names' :=
  fun name hm => h name (hs hm)

/-- A node is emitted alike with two tables that agree on the names that it spells. -/
theorem AgreesOn.emit_eq {node : Node} (h : shims.AgreesOn shims' node.dottedNames) (indent : Text)
    : emit ⟨shims, indent⟩ node = emit ⟨shims', indent⟩ node := by
  let style : Style := ⟨shims, indent⟩
  let style' : Style := ⟨shims', indent⟩
  have htext : ∀ inner ∈ node.nodes, ∀ depth, text style depth inner = text style' depth inner := by
    intro inner hm depth
    have hrename : ∀ below ∈ inner.nodes, RenamesAlike style.shims style'.shims below :=
      fun below hb => h.renamesAlike below (Node.nodes_subset hm hb)
    have hlayout : layout style depth inner = layout style' depth inner :=
      layout_eq_of_alike hrename (fun below _ depth => .refl style depth below) depth
    exact congrArg (Cpp.Tree.print indent) hlayout
  have hcites : ∀ inner ∈ node.nodes, ∀ depth, CitesAlike style style' depth inner := by
    intro inner hm depth
    refine citesAlike_of_text fun child hc => htext child ?_ depth
    exact Node.nodes_subset hm (Node.mem_nodes_of_child hc)
  funext progress
  have hrun : Fragment.emit style node progress
      = (text style progress.depth node, progress.noteAll (notes style progress.depth node)) :=
    emit_writes style node progress
  have hnotes := notes_eq_of_alike h.renamesAlike hcites progress.depth
  rw [htext node node.mem_nodes_self, hnotes] at hrun
  exact hrun.trans (emit_writes style' node progress).symm

/-- Programs whose statements are emitted alike have the same pieces. -/
theorem emitPieces_congr {style style' : Style} {body : List Node}
    (h : ∀ node ∈ body, Fragment.emit style node = Fragment.emit style' node)
    : emitPieces style body = emitPieces style' body := by
  induction body with
  | nil => rfl
  | cons node body ih =>
      have hrest := ih fun node hm => h node (List.mem_cons_of_mem _ hm)
      rw [emitPieces, emitPieces, h node List.mem_cons_self, hrest]

/-- The statements of a tree spell names of the tree. -/
theorem AgreesOn.emitProgram_eq {node : Node} (h : shims.AgreesOn shims' node.dottedNames)
    (indent : Text)
    : emitProgram ⟨shims, indent⟩ node.statements
      = emitProgram ⟨shims', indent⟩ node.statements := by
  have hstatements : ∀ statement ∈ node.statements, statement ∈ node.children := by
    intro statement hm
    cases node with
    | program body location | block body location => exact hm
    | _ => exact absurd hm List.not_mem_nil
  have heach : ∀ statement ∈ node.statements,
      Fragment.emit ⟨shims, indent⟩ statement = Fragment.emit ⟨shims', indent⟩ statement := by
    intro statement hm
    have hsub := Node.nodes_subset_of_child (hstatements statement hm)
    exact (h.mono (List.filterMap_subset _ hsub)).emit_eq indent
  rw [emitProgram, emitProgram, emitPieces_congr heach]

/-- Of a table that replaces names, only the entries for the names that a tree spells matter: two
tables that agree on them cannot be told apart by emission or translation, so neither can a table
and the same table with entries for other names. -/
theorem indistinct_of_dottedNames (shims : ShimTable) (node : Node)
    : (∀ shims', shims.AgreesOn shims' node.dottedNames → shims.Indistinct shims' node)
      ∧ ∀ extras : List (Text × Text), (∀ extra ∈ extras, extra.1 ∉ node.dottedNames)
        → shims.Indistinct (shims.overlay extras) node := by
  have hagree : ∀ shims', shims.AgreesOn shims' node.dottedNames
      → shims.Indistinct shims' node := by
    intro shims' h
    have hassemble (translator : Translator)
        : (translator.withShims shims).template.assemble node.statements
          = (translator.withShims shims').template.assemble node.statements :=
      congrArg ((translator.withShims shims).template.filed <$> ·)
        (h.emitProgram_eq translator.settings.indent)
    refine ⟨h.emit_eq, h.emitProgram_eq, fun translator code trace hread => ?_⟩
    have hread' : ∀ shims, (translator.withShims shims).read code = .ok node := fun _ => hread
    simp only [Translator.translate, hread', conclude, emission, hassemble]
    rfl
  exact ⟨hagree, fun extras h => hagree _ (agreesOn_overlay shims h)⟩

/-- A program that takes a square root is translated alike with the built-in table, with the one
entry for that name, and with the built-in table and an entry for another name. -/
theorem indistinct_of_squareRoot
    : let root : Node := .member (.identifier "Math" none) (.identifier "sqrt" none) false none
      let program : Node := .program [.call root [.identifier "x" none] none] none
      program.dottedNames = ["Math.sqrt", "Math", "sqrt", "x"]
        ∧ builtIn.Indistinct ⟨[("Math.sqrt", "sqrt")]⟩ program
        ∧ builtIn.Indistinct (builtIn.overlay [("Math.hypot", "hypot")]) program := by
  intro root program
  obtain ⟨hagree, hextras⟩ := indistinct_of_dottedNames builtIn program
  have hnames : program.dottedNames = ["Math.sqrt", "Math", "sqrt", "x"] := by decide
  refine ⟨hnames, hagree _ ?_, hextras _ ?_⟩ <;> rw [hnames]
  · unfold AgreesOn
    decide
  · decide

end ShimTable

end DeviceScript
