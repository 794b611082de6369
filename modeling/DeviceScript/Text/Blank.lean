import DeviceScript.Text.Basic

/-! Blank code points and the texts made of them. -/

namespace DeviceScript

/-- White space of every script, with the control codes that separate lines, fields and records. -/
def CodePoint.isBlank (point : CodePoint) : Bool :=
  point.between 0x09 0x0D || point.between 0x1C 0x20 || point.value = 0x85 || point.value = 0xA0
    || point.value = 0x1680 || point.between 0x2000 0x200A || point.between 0x2028 0x2029
    || point.value = 0x202F || point.value = 0x205F || point.value = 0x3000

namespace Text

/-- A text without the blanks at its two ends. -/
def strip (text : Text) : Text :=
  ((text.dropWhile CodePoint.isBlank).reverse.dropWhile CodePoint.isBlank).reverse

def isBlank (text : Text) : Bool := text.all CodePoint.isBlank

/-- The words of a text, between which blanks stand. -/
def words : Text → List Text
  | [] => []
  | point :: rest =>
    if point.isBlank then words rest
    else
      match words rest with
      | [] => [[point]]
      | word :: others =>
        if rest.head?.any CodePoint.isBlank then [point] :: word :: others
        else (point :: word) :: others

end Text

end DeviceScript
