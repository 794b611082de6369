import DeviceScript.Console.EmojiTable

/-! Pictures in console lines: a name between two colons shows as the picture of that name. Which
names there are is up to a table, on which nothing else depends.
-/

namespace DeviceScript.Emoji

/-- The colours of skin. -/
def tones : List (String × Nat) :=
  [("light", 0x1F3FB), ("medium-light", 0x1F3FC), ("medium", 0x1F3FD), ("medium-dark", 0x1F3FE),
    ("dark", 0x1F3FF)]

/-- The code points behind a picture that make it show as text or in colour. -/
def variants : List (String × Nat) := [("-text", 0xFE0E), ("-emoji", 0xFE0F)]

def pointOf (value : Nat) : CodePoint := (CodePoint.ofNat? value).getD default

/-- The text of hexadecimal numbers that are joined by hyphens. -/
def ofNumbers (numbers : Text) : Text :=
  (Text.splitAt '-' numbers).map fun digits => pointOf (Text.toNat 16 digits)

/-- The picture that the table lists under a name. -/
def listed? (name : Text) : Option Text :=
  ((Text.words nameTable).find? fun entry => Text.before "=" entry = name).map fun entry =>
    ofNumbers (entry.drop (name.length + 1))

/-- A picture in a colour, which is told behind its first code point in the place of a variant. -/
def inTone (tone : Nat) : Text → Text
  | [] => []
  | first :: rest =>
    first :: pointOf tone :: (if rest.head? = some (pointOf 0xFE0F) then rest.drop 1 else rest)

/-- The picture of a name that ends with a colour of skin. -/
def toned? (name : Text) : Option Text :=
  tones.findSome? fun (tone, point) =>
    let ending : Text := "_" ++ tone ++ "_skin_tone"
    let base := name.take (name.length - ending.length)
    if name.endsWith ending && (Text.words tonedTable).contains base then
      (listed? base).map (inTone point)
    else none

/-- The picture of a name. -/
def named? (name : Text) : Option Text := (listed? name).or (toned? name)

/-- A letter without its case, for the letters of which names are made. -/
def lower (point : CodePoint) : CodePoint :=
  if point.between 0x41 0x5A || point.between 0xC0 0xD6 || point.between 0xD8 0xDE then
    pointOf (point.value + 0x20)
  else if point.value = 0x212A then 'k'
  else if point.value = 0x212B then 'å'
  else point

/-- What a spelling between colons shows as: a picture, and the variant that the spelling ends
with. -/
def shown? (picture? : Text → Option Text) (spelling : Text) : Option Text :=
  let name := spelling.map lower
  match variants.find? fun variant => spelling.endsWith variant.1 with
  | none => picture? name
  | some (ending, point) =>
    (picture? (name.take (name.length - ending.length))).map (· ++ [pointOf point])

/-- A text with pictures in the place of their names, behind the given number of code points. -/
def replaceBehind (picture? : Text → Option Text) (skip : Nat) : Text → Text
  | [] => []
  | point :: rest =>
    if skip ≠ 0 then replaceBehind picture? (skip - 1) rest
    else
      let spelling := rest.takeWhile fun (next : CodePoint) => next ≠ ':' && !next.isBlank
      if point = ':' && rest[spelling.length]? = some (.scalar ':') then
        (shown? picture? spelling).getD (":" ++ spelling ++ ":")
          ++ replaceBehind picture? (spelling.length + 1) rest
      else point :: replaceBehind picture? 0 rest

/-- A text with pictures in the place of their names. -/
def replace (text : Text) : Text := replaceBehind named? 0 text

end DeviceScript.Emoji
