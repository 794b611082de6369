import DeviceScript.Text.Basic

/-! Tokens of C++. A token takes up as many code points as it can, which a scanner achieves by
looking at one code point after another, because every beginning of a mark is a mark.
-/

namespace DeviceScript.Cpp

inductive Token where
  | word (name : Text)
  | number (spelling : Text)
  /-- A string with the text that it stands for. -/
  | string (value : Text)
  /-- An operator or a separator. -/
  | mark (spelling : Text)
  deriving DecidableEq

/-- The operators and separators of expressions. Every beginning of a mark is a mark, so taking up
one code point after another takes up the longest mark. -/
def marks : List Text :=
  (["\x7b", "\x7d", "[", "]", "(", ")", ";", ":", "?", ".", "~", "!", "+", "-", "*", "/", "%", "^",
    "&", "|", "=", "<", ">", ","] : List Text)
  ++ (["::", ".*", "->", "->*", "+=", "-=", "*=", "/=", "%=", "^=", "&=", "|=", "==", "!=", "<=",
    ">=", "<=>", "&&", "||", "<<", ">>", "<<=", ">>=", "++", "--"] : List Text)

/-- The code points with which a word may start; all beyond ASCII are among them. -/
def isWordStart (point : CodePoint) : Bool :=
  point.between 0x41 0x5A || point.between 0x61 0x7A || point = '_' || point = '$'
    || 0x80 ≤ point.value

def isWordPart (point : CodePoint) : Bool := isWordStart point || point.isDecimal

def isBlank (point : CodePoint) : Bool := point = ' ' || point = '\t' || point = '\n'

/-- A word: an identifier, a keyword or a named value. -/
def IsWord (name : Text) : Prop :=
  ∃ first rest, name = first :: rest ∧ isWordStart first ∧ ∀ point ∈ rest, isWordPart point

/-- A word is a start and then parts of a word. -/
theorem isWord_iff (name : Text)
    : IsWord name ↔ name.head?.any isWordStart = true ∧ name.tail.all isWordPart = true := by
  constructor
  · rintro ⟨first, rest, rfl, hf, hr⟩
    exact ⟨hf, List.all_eq_true.mpr hr⟩
  · rintro ⟨hf, hr⟩
    cases name with
    | nil => exact absurd hf Bool.false_ne_true
    | cons first rest => exact ⟨first, rest, rfl, hf, List.all_eq_true.mp hr⟩

instance : DecidablePred IsWord := fun name => decidable_of_iff' _ (isWord_iff name)

/-- Tells whether a sign belongs to a number behind its code points so far. -/
def awaitsSign (spelling : Text) : Bool :=
  spelling.getLast? ∈ ["e", "E", "p", "P"].map fun mark : String => (Text.ofString mark).head?

/-- Tells whether a number goes on with a code point. -/
def extendsNumber (spelling : Text) (point : CodePoint) : Bool :=
  isWordPart point || point = '.' || ((point = '+' || point = '-') && awaitsSign spelling)

/-- The code point that a simple escape stands for. -/
def simpleEscape? (point : CodePoint) : Option CodePoint :=
  [("n", '\n'), ("r", '\r'), ("t", '\t'), ("\\", '\\'), ("\"", '"'), ("'", '\x27'), ("a", '\x07'),
    ("b", '\x08'), ("f", '\x0c'), ("v", '\x0b'), ("?", '?')].findSome?
    fun (mark, value) => if Text.ofString mark = [point] then some (.scalar value) else none

/-- Where a scanner stands inside a string. -/
inductive Escape where
  | plain
  /-- Behind a backslash. -/
  | start
  /-- Behind some octal digits. -/
  | octal (count value : Nat)
  deriving DecidableEq

/-- What a scanner has read of a token. -/
inductive Partial where
  | idle
  | word (name : Text)
  | number (spelling : Text)
  | mark (spelling : Text)
  | string (value : Text) (escape : Escape)
  /-- A string with both of its quotes. -/
  | closed (value : Text)
  deriving DecidableEq

namespace Partial

/-- What a code point starts, if it can start anything. -/
def start? (point : CodePoint) : Option Partial :=
  if isBlank point then some idle
  else if isWordStart point then some (word [point])
  else if point.isDecimal then some (number [point])
  else if point = '"' then some (string [] .plain)
  else if [point] ∈ marks then some (mark [point])
  else none

/-- A string with one more code point that stands for itself, or ends it or an escape. -/
def plain? (value : Text) (point : CodePoint) : Option Partial :=
  if point = '"' then some (closed value)
  else if point = '\\' then some (string value .start)
  else if point = '\n' then none
  else some (string (value ++ [point]) .plain)

/-- A string with one more code point. At most three digits make an octal escape. -/
def extendString? (value : Text) (escape : Escape) (point : CodePoint) : Option Partial :=
  match escape with
  | .plain => plain? value point
  | .start =>
    match simpleEscape? point with
    | some decoded => some (string (value ++ [decoded]) .plain)
    | none =>
      if point.isOctal then some (string value (.octal 1 (point.value - 0x30))) else none
  | .octal count code =>
    if point.isOctal && count < 3 then
      some (string value (.octal (count + 1) (code * 8 + (point.value - 0x30))))
    else (CodePoint.ofNat? code).bind fun decoded => plain? (value ++ [decoded]) point

/-- The same token with one more code point, if it goes on. -/
def extend? (part : Partial) (point : CodePoint) : Option Partial :=
  match part with
  | idle => none
  | word name => if isWordPart point then some (word (name ++ [point])) else none
  | number spelling =>
    if extendsNumber spelling point then some (number (spelling ++ [point])) else none
  | mark spelling =>
    if spelling ++ [point] ∈ marks then some (mark (spelling ++ [point]))
    else if spelling = "." && point.isDecimal then some (number (spelling ++ [point]))
    else none
  | string value escape => extendString? value escape point
  | closed _ => none

/-- The token that has been read, if it is complete. -/
def finish : Partial → Option (List Token)
  | idle => some []
  | word name => some [.word name]
  | number spelling => some [.number spelling]
  | mark spelling => some [.mark spelling]
  | string _ _ => none
  | closed value => some [.string value]

end Partial

/-- The tokens of a text behind the beginning of a token. -/
def scan (part : Partial) : Text → Option (List Token)
  | [] => part.finish
  | point :: rest =>
    match part.extend? point with
    | some longer => scan longer rest
    | none => do
      let tokens ← part.finish
      let next ← Partial.start? point
      return tokens ++ (← scan next rest)

/-- The tokens of a text. -/
def tokens (text : Text) : Option (List Token) := scan .idle text

/-- A code point that goes on with a token is read into it. -/
theorem scan_extend {part longer : Partial} {point : CodePoint} (rest : Text)
    (h : part.extend? point = some longer)
    : scan part (point :: rest) = scan longer rest := by
  simp only [scan, h]

/-- A token ends in front of a code point that does not go on with it. -/
theorem scan_break {part : Partial} {tokens : List Token} {rest : Text}
    (complete : part.finish = some tokens)
    (apart : ∀ point ∈ rest.head?, part.extend? point = none)
    : scan part rest = (tokens ++ ·) <$> scan .idle rest := by
  cases rest with
  | nil =>
      simp only [scan, complete]
      exact congrArg some (List.append_nil tokens).symm
  | cons point rest =>
      have hp : part.extend? point = none := apart point rfl
      have hi : Partial.idle.extend? point = none := rfl
      have hf : Partial.idle.finish = some [] := rfl
      simp only [scan, hp, hi, hf, complete, Option.bind_eq_bind, Option.bind_some]
      cases Partial.start? point with
      | none => rfl
      | some next =>
          simp only [Option.bind_some]
          cases scan next rest <;> rfl

end DeviceScript.Cpp
