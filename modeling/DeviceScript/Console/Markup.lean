import DeviceScript.Console.Emoji
import DeviceScript.Console.Style

/-! Markup in console lines: words in square brackets that style what stands between them, and names
of pictures between colons. A text in which brackets are to be shown as they are must be escaped
before it is put among markup.
-/

namespace DeviceScript.Markup

/-- Tells whether a word in brackets can start with a code point. -/
def startsTag (point : CodePoint) : Bool :=
  point.between 0x61 0x7A || point = '#' || point = '/' || point = '@'

/-- The word of the tag at the front of a text, if there is one. -/
def tag? : Text → Option Text
  | .scalar '[' :: first :: rest =>
    let word := rest.takeWhile fun (point : CodePoint) => point ≠ '[' && point ≠ ']'
    if startsTag first && (rest.drop word.length).head? = some (.scalar ']') then
      some (first :: word)
    else none
  | _ => none

/-- The backslashes at the front of a text and the tag behind them, if there is one. -/
def guardedTag? (text : Text) : Option (Nat × Text) :=
  let slashes := (text.takeWhile (· = .scalar '\\')).length
  (tag? (text.drop slashes)).map fun word => (slashes, word)

def backslashes (count : Nat) : Text := List.replicate count (.scalar '\\')

/-- Puts one more backslash than there were twice in front of every tag, behind the given number of
code points. -/
def guard (skip : Nat) : Text → Text
  | [] => []
  | point :: rest =>
    if skip ≠ 0 then guard (skip - 1) rest
    else
      match guardedTag? (point :: rest) with
      | some (slashes, word) =>
        let tag := backslashes (2 * slashes + 1) ++ "[" ++ word ++ "]"
        tag ++ guard (slashes + word.length + 1) rest
      | none => point :: guard 0 rest

/-- A text that is shown as the given one. -/
def escape (text : Text) : Text :=
  let guarded := guard 0 text
  if guarded.endsWith "\\" && !guarded.endsWith "\\\\" then guarded ++ "\\" else guarded

/-- A part of a text with markup. -/
inductive Piece where
  | plain (text : Text)
  | tag (position : Nat) (word : Text)
  deriving DecidableEq

/-- The parts of a text from a position on, behind the given number of code points and a plain text,
which is given in reverse. -/
def pieces (position skip : Nat) (before : Text) : Text → List Piece
  | [] => [.plain before.reverse]
  | point :: rest =>
    if skip ≠ 0 then pieces (position + 1) (skip - 1) before rest
    else
      match guardedTag? (point :: rest) with
      | some (slashes, word) =>
        .plain before.reverse :: .plain (backslashes (slashes / 2))
          :: (if slashes % 2 = 1 then .plain ("[" ++ word ++ "]")
            else .tag (position + slashes) word)
          :: pieces (position + 1) (slashes + word.length + 1) [] rest
      | none =>
        if point = '\\' && rest.head? = some (.scalar '[') then pieces (position + 1) 0 before rest
        else pieces (position + 1) 0 (point :: before) rest

/-- A closing tag without an opening one. -/
inductive Fault where
  | unmatched (tag : Text) (position : Nat)
  | nothingOpen (position : Nat)
  deriving DecidableEq

def Fault.message : Fault → Text
  | unmatched tag position =>
    "closing tag '[" ++ tag ++ "]' at position " ++ Text.ofNat position
      ++ " doesn't match any open tag"
  | nothingOpen position =>
    "closing tag '[/]' at position " ++ Text.ofNat position ++ " has nothing to close"

/-- The name of a tag, which ends at an equals sign. -/
def name (word : Text) : Text := Text.before "=" word

/-- The open tags behind a tag, the innermost first. -/
def follow (tags : List Text) (position : Nat) (word : Text) : Except Fault (List Text) :=
  match word with
  | .scalar '/' :: closing =>
    if (name closing).isBlank then
      match tags with
      | [] => .error (.nothingOpen position)
      | _ :: outer => .ok outer
    else
      let closed := ConsoleStyle.normalize (name closing).strip
      if tags.contains closed then .ok (tags.erase closed) else .error (.unmatched word position)
  | _ => .ok (ConsoleStyle.normalize (name word) :: tags)

/-- Control codes that no console line shows. -/
def isShown (point : CodePoint) : Bool :=
  !(point.between 0x07 0x08 || point.between 0x0B 0x0D)

/-- The text that pieces show inside some open tags. -/
def shown (tags : List Text) : List Piece → Except Fault Text
  | [] => .ok []
  | .plain text :: rest => do return (Emoji.replace text).filter isShown ++ (← shown tags rest)
  | .tag position word :: rest => do shown (← follow tags position word) rest

/-- The text that a text with markup shows. -/
def render (text : Text) : Except Fault Text := shown [] (pieces 0 0 [] text)

end DeviceScript.Markup
