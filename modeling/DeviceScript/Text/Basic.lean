/-! Text is a list of code points. A string literal of a script may hold half of a surrogate pair
standing alone, which no `String` can hold, so every text of the library is built from code points
rather than characters.
-/

namespace DeviceScript

/-- One code point: a character, or half of a surrogate pair standing alone. -/
inductive CodePoint where
  | scalar (char : Char)
  | surrogate (half : Fin 2048)
  deriving DecidableEq

namespace CodePoint

instance : Coe Char CodePoint := ⟨scalar⟩

instance : Inhabited CodePoint := ⟨scalar ' '⟩

/-- The number of a code point. -/
def value : CodePoint → Nat
  | scalar char => char.toNat
  | surrogate half => 0xD800 + half.val

/-- The code point of a number, if it is at most `0x10FFFF`. -/
def ofNat? (value : Nat) : Option CodePoint :=
  if h : value.isValidChar then some (scalar (Char.ofNatAux value h))
  else if h : 0xD800 ≤ value ∧ value < 0xE000 then
    some (surrogate ⟨value - 0xD800, by omega⟩)
  else none

/-- Tells whether the number of a code point lies between two bounds, both included. -/
def between (point : CodePoint) (least greatest : Nat) : Bool :=
  least ≤ point.value && point.value ≤ greatest

/-- The value of an ASCII decimal digit. -/
def decimal? (point : CodePoint) : Option Nat :=
  if point.between 0x30 0x39 then some (point.value - 0x30) else none

/-- The value of a hexadecimal digit. -/
def hexadecimal? (point : CodePoint) : Option Nat :=
  if point.between 0x30 0x39 then some (point.value - 0x30)
  else if point.between 0x41 0x46 then some (point.value - 0x37)
  else if point.between 0x61 0x66 then some (point.value - 0x57)
  else none

def isDecimal (point : CodePoint) : Bool := point.decimal?.isSome

def isHexadecimal (point : CodePoint) : Bool := point.hexadecimal?.isSome

def isOctal (point : CodePoint) : Bool := point.between 0x30 0x37

end CodePoint

/-- A finite sequence of code points. -/
abbrev Text := List CodePoint

namespace Text

def ofString (string : String) : Text := string.toList.map .scalar

instance : Coe String Text := ⟨ofString⟩

instance : LawfulBEq Text := inferInstance

/-- The decimal digits of a natural number. -/
def ofNat (number : Nat) : Text := (Nat.toDigits 10 number).map .scalar

/-- The decimal digits of an integer after its minus sign, if it has one. -/
def ofInt : Int → Text
  | .ofNat number => ofNat number
  | .negSucc number => "-" ++ ofNat (number + 1)

/-- The digits of a number in a base, filled up with zeros on the left. -/
def padded (base width number : Nat) : Text :=
  let digits := Nat.toDigits base number
  (List.replicate (width - digits.length) '0' ++ digits).map .scalar

/-- The value of a digit sequence in a base, where anything but a digit counts as zero. -/
def toNat (base : Nat) (digits : Text) : Nat :=
  digits.foldl (fun total digit => total * base + digit.hexadecimal?.getD 0) 0

/-- The pieces of a text between the occurrences of a separator. -/
def splitAt (separator : CodePoint) : Text → List Text
  | [] => [[]]
  | point :: rest =>
    if point = separator then [] :: splitAt separator rest
    else
      match splitAt separator rest with
      | [] => [[point]]
      | piece :: pieces => (point :: piece) :: pieces

/-- The texts of a list, one after another, with a separator between neighbours. -/
def join (separator : Text) : List Text → Text
  | [] => []
  | [text] => text
  | text :: rest => text ++ separator ++ join separator rest

/-- The lines of a text, of which there is always one. -/
def lines (text : Text) : List Text := splitAt '\n' text

/-- A text whose lines are separated by line feeds, where carriage returns stood for them or beside
them. -/
def withLineFeeds : Text → Text
  | .scalar '\r' :: .scalar '\n' :: rest => '\n' :: withLineFeeds rest
  | .scalar '\r' :: rest => '\n' :: withLineFeeds rest
  | point :: rest => point :: withLineFeeds rest
  | [] => []

def unlines (texts : List Text) : Text := join "\n" texts

/-- The part of a text before the first occurrence of a mark, or all of it. -/
def before (mark : Text) : Text → Text
  | [] => []
  | point :: rest =>
    if mark.isPrefixOf (point :: rest) then [] else point :: before mark rest

/-- Tells whether a part of a text is the given one. -/
def includes : Text → Text → Bool
  | [], part => part = []
  | point :: rest, part => part.isPrefixOf (point :: rest) || includes rest part

def startsWith (text opening : Text) : Bool := opening.isPrefixOf text

def endsWith (text ending : Text) : Bool := ending.isSuffixOf text

/-- A text without the given code point at its end. -/
def dropTrailing (point : CodePoint) (text : Text) : Text :=
  (text.reverse.dropWhile (· = point)).reverse

/-- Lexicographic order by the numbers of the code points. -/
def precedes : Text → Text → Bool
  | [], [] => false
  | [], _ :: _ => true
  | _ :: _, [] => false
  | left :: lefts, right :: rights =>
    left.value < right.value || (left.value = right.value && precedes lefts rights)

end Text

end DeviceScript
