/-! How many code points a regular expression can match. -/

namespace DeviceScript.Regex

/-- The least and the greatest number of code points that a regular expression can match, where the
limit stands for all numbers from there on. -/
structure Width where
  least : Nat
  greatest : Nat
  deriving DecidableEq

namespace Width

def limit : Nat := Nat.pow 2 64

/-- The width between two bounds. -/
def ofBounds (least greatest : Nat) : Width := ⟨min least limit, min greatest limit⟩

def empty : Width := ⟨0, 0⟩

def single : Width := ⟨1, 1⟩

/-- The width of two expressions, one after the other. -/
def append (first second : Width) : Width :=
  ofBounds (first.least + second.least) (first.greatest + second.greatest)

/-- The width of a choice between two expressions. -/
def either (first second : Width) : Width :=
  ⟨min first.least second.least, max first.greatest second.greatest⟩

/-- The width of an expression that is repeated between two numbers of times, or without a bound. -/
def repeated (width : Width) (least : Nat) (greatest : Option Nat) : Width :=
  let most :=
    match greatest with
    | some count => width.greatest * count
    | none => if width.greatest = 0 then 0 else limit
  ofBounds (width.least * least) most

/-- Tells whether a match has always the same length, which must not be too large either. -/
def isFixed (width : Width) : Bool := width.least = width.greatest && width.least < Nat.pow 2 32

end Width

end DeviceScript.Regex
