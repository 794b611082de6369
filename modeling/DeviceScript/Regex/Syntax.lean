import DeviceScript.Regex.Reader

/-! The grammar of regular expressions: groups, choices, repetitions and what they are made of.
Groups are numbered and may be named, `(?P<name>...)`, and a look behind has a fixed width.
-/

namespace DeviceScript.Regex

/-- What a part of a regular expression is for what repeats it. -/
inductive Role where
  | place | repetition | operand
  deriving DecidableEq

/-- A part of a regular expression. -/
structure Piece where
  role : Role
  width : Width

namespace Piece

def place : Piece := ⟨.place, .empty⟩

def operand (width : Width) : Piece := ⟨.operand, width⟩

end Piece

/-- Parts of a regular expression, one after another. -/
structure Pieces where
  /-- The width of all parts but the last. -/
  front : Width := .empty
  last : Option Piece := none

namespace Pieces

def width (pieces : Pieces) : Width :=
  match pieces.last with
  | none => pieces.front
  | some piece => pieces.front.append piece.width

def push (pieces : Pieces) (piece : Piece) : Pieces := ⟨pieces.width, some piece⟩

end Pieces

/-- The constructs that contain each other. -/
inductive Nonterminal where
  | choice | sequence

/-- The letters that change how a part is matched. -/
inductive Flag where
  | ignoreCase | multiline | dotAll | verbose | ascii | unicode
  deriving DecidableEq

namespace Flag

def ofPoint? (point : CodePoint) : Option Flag :=
  let letters : List (Char × Flag) :=
    [('i', ignoreCase), ('m', multiline), ('s', dotAll), ('x', verbose), ('a', ascii),
      ('u', unicode)]
  (letters.find? fun entry => point = entry.1).map Prod.snd

/-- Tells whether a flag chooses an alphabet, of which there is only one. -/
def isAlphabet : Flag → Bool
  | ascii | unicode => true
  | _ => false

end Flag

namespace Read

/-- Takes flags up to a sign that is none, and that sign. -/
def flags : Nat → Read (List Flag × CodePoint)
  | 0 => refuse
  | fuel + 1 => do
    match ← take with
    | some (.plain point) =>
      match Flag.ofPoint? point with
      | none => return ([], point)
      | some flag =>
        let (others, mark) ← flags fuel
        return (flag :: others, mark)
    | _ => refuse

/-- The flags of a group, some turned on and some turned off, or of everything that follows. -/
inductive FlagChange where
  | everywhere
  | inside (on off : List Flag)

/-- A change of flags from behind its question mark. -/
def flagChange : Read FlagChange := do
  let fuel := (← get).signs.length + 1
  let (on, mark) ← flags fuel
  if on.contains .ascii && on.contains .unicode then refuse
  if mark = ')' && !on.isEmpty then
    modify fun reader => { reader with
      verbose := reader.verbose || on.contains .verbose
      ascii := reader.ascii || on.contains .ascii
      unicode := reader.unicode || on.contains .unicode }
    return .everywhere
  else if mark = ':' && !on.isEmpty then return .inside on []
  else if mark = '-' then
    let (off, mark) ← flags fuel
    if mark ≠ ':' || off.isEmpty || off.any Flag.isAlphabet || on.any off.contains then refuse
    return .inside on off
  else refuse

/-- The number of a new group, which may have a name. -/
def openGroup (name : Option Text) : Read Nat := do
  let reader ← get
  let number := reader.groups.length + 1
  let names ←
    match name with
    | none => pure reader.names
    | some name =>
      if (reader.names.lookup name).isSome then refuse else pure ((name, number) :: reader.names)
  set { reader with groups := reader.groups ++ [none], names := names }
  return number

/-- Goes on behind a group. -/
def closeGroup (number : Nat) (width : Width) : Read Unit :=
  modify fun reader => { reader with groups := reader.groups.set (number - 1) (some width) }

variable (inner : Nonterminal → Bool → Read Width)

/-- What stands before a closing parenthesis. -/
def enclosed (verbose : Bool) : Read Width := do
  let width ← inner .choice verbose
  expect ')'
  return width

/-- A group that is counted. -/
def countedGroup (verbose : Bool) (name : Option Text) : Read Piece := do
  let number ← openGroup name
  let width ← enclosed inner verbose
  closeGroup number width
  return .operand width

/-- A look behind, which has a fixed width. -/
def lookBehind (verbose : Bool) : Read Piece := do
  if !((← accept '=') || (← accept '!')) then refuse
  let outer := (← get).fence
  modify fun reader => { reader with fence := outer.or (some reader.groups.length) }
  let width ← inner .choice verbose
  modify fun reader => { reader with fence := outer }
  expect ')'
  if width.isFixed then return .operand .empty else refuse

/-- The number of the group on which a choice depends. -/
def condition : Read Nat := do
  let name ← takeUntil ')'
  if isName name then
    match (← get).names.lookup name with
    | none => refuse
    | some number => return number
  else if name ≠ [] && name.all CodePoint.isDecimal && Text.toNat 10 name ≠ 0 then
    let number := Text.toNat 10 name
    modify fun reader => { reader with conditions := number :: reader.conditions }
    return number
  else refuse

/-- A choice that depends on whether a group was matched. -/
def conditional (verbose : Bool) : Read Piece := do
  checkFence (← condition)
  let yes ← inner .sequence verbose
  let no ← if ← accept '|' then inner .sequence verbose else pure .empty
  expect ')'
  return .operand ((yes.either no))

/-- A group that is named, or the reference to one. -/
def namedGroup (verbose : Bool) : Read Piece := do
  if ← accept '<' then countedGroup inner verbose (some (← groupName '>'))
  else if ← accept '=' then
    match (← get).names.lookup (← groupName ')') with
    | none => refuse
    | some number => return .operand (← reference number)
  else refuse

/-- A group from behind its opening parenthesis, and whether blanks mean nothing behind it. Flags
for everything that follows may stand at the start only. -/
def group (atStart verbose : Bool) : Read (Option Piece × Bool) := do
  let piece (read : Read Piece) : Read (Option Piece × Bool) := return (some (← read), verbose)
  if !(← accept '?') then piece (countedGroup inner verbose none)
  else if ← accept 'P' then piece (namedGroup inner verbose)
  else if (← accept ':') || (← accept '>') then piece (Piece.operand <$> enclosed inner verbose)
  else if ← accept '#' then
    let _ ← takeUntil ')'
    return (none, verbose)
  else if (← accept '=') || (← accept '!') then
    let _ ← enclosed inner verbose
    return (some (.operand .empty), verbose)
  else if ← accept '<' then piece (lookBehind inner verbose)
  else if ← accept '(' then piece (conditional inner verbose)
  else
    match ← flagChange with
    | .everywhere => if atStart then return (none, (← get).verbose) else refuse
    | .inside on off =>
      let verbose' := (verbose || on.contains .verbose) && !off.contains .verbose
      piece (Piece.operand <$> enclosed inner verbose')

/-- A reference to a group, or a code point by its octal number. -/
def numbered (first : CodePoint) : Read Piece := do
  let second ← takeWhile CodePoint.isDecimal 1
  let isOctal := first.isOctal && !second.isEmpty && second.all CodePoint.isOctal
  let third ← if isOctal then takeWhile CodePoint.isOctal 1 else pure []
  if third = [] then return .operand (← reference (Text.toNat 10 (first :: second)))
  else if Text.toNat 8 (first :: second ++ third) ≤ 0o377 then return .operand .single
  else refuse

/-- What stands behind a backslash. -/
def escape (point : CodePoint) : Read Piece := do
  if namesPlace point then return .place
  else if namesClass point then return .operand .single
  else if point = '0' then
    let _ ← takeWhile CodePoint.isOctal 2
    return .operand .single
  else if point.isDecimal then numbered point
  else
    let _ ← escapedValue point
    return .operand .single

/-- The parts of a sequence after the last of them is repeated. -/
def repeatLast (pieces : Pieces) (count : Count) : Read Pieces := do
  match pieces.last with
  | some ⟨.operand, width⟩ =>
    if !(← accept '?') then
      let _ ← accept '+'
    return { pieces with last := some ⟨.repetition, width.repeated count.least count.greatest⟩ }
  | _ => refuse

/-- How often the last part is repeated, as a sign in front of the reader tells. -/
def count? (point : CodePoint) : Read (Option Count) := do
  if point = '?' then return some ⟨0, some 1⟩
  else if point = '*' then return some ⟨0, none⟩
  else if point = '+' then return some ⟨1, none⟩
  else if point = '\x7b' then bracedCount
  else return none

def isVerboseBlank (point : CodePoint) : Bool := point.between 0x09 0x0D || point = ' '

/-- What is left behind a comment that ends with its line. -/
def skipComment : Read Unit :=
  modify fun reader => { reader with
    signs := (reader.signs.dropWhile fun sign => sign ≠ .plain '\n').drop 1 }

/-- The parts of a sequence and the next one of them, and whether blanks mean nothing behind it. -/
def extend (atStart verbose : Bool) (pieces : Pieces) (sign : Sign) : Read (Pieces × Bool) := do
  match sign with
  | .escaped point => return (pieces.push (← escape point), verbose)
  | .plain point =>
    if verbose && isVerboseBlank point then return (pieces, verbose)
    else if verbose && point = '#' then
      skipComment
      return (pieces, verbose)
    else if point = '[' then
      classBody
      return (pieces.push (.operand .single), verbose)
    else if point = '(' then
      let (piece, verbose) ← group inner (atStart && pieces.last.isNone) verbose
      return ((piece.map pieces.push).getD pieces, verbose)
    else if point = '^' || point = '$' then return (pieces.push .place, verbose)
    else
      match ← count? point with
      | some count => return (← repeatLast pieces count, verbose)
      | none => return (pieces.push (.operand .single), verbose)

/-- A sequence up to a bar, a closing parenthesis or the end. -/
def sequenceFrom (atStart verbose : Bool) (pieces : Pieces) : Nat → Read Width
  | 0 => refuse
  | fuel + 1 => do
    if (← isAt '|') || (← isAt ')') then return pieces.width
    else
      match ← take with
      | none => return pieces.width
      | some sign =>
        let (pieces, verbose) ← extend inner atStart verbose pieces sign
        sequenceFrom atStart verbose pieces fuel

/-- A sequence. -/
def sequence (atStart verbose : Bool) : Read Width := do
  sequenceFrom inner atStart verbose {} ((← get).signs.length + 1)

/-- The sequences behind the first of a choice. -/
def choiceRest (verbose : Read Bool) (width : Width) : Nat → Read Width
  | 0 => refuse
  | fuel + 1 => do
    if ← accept '|' then
      let other ← sequence inner false (← verbose)
      choiceRest verbose (width.either other) fuel
    else return width

/-- A choice between sequences. -/
def choice (verbose : Bool) : Read Width := do
  let first ← sequence inner false verbose
  choiceRest inner (pure verbose) first ((← get).signs.length + 1)

/-- The rule of a nonterminal. -/
def rule : Nonterminal → Bool → Read Width
  | .choice, verbose => choice inner verbose
  | .sequence, verbose => sequence inner false verbose

/-- Reads a nonterminal whose groups nest no deeper than a given number of levels. -/
def read : Nat → Nonterminal → Bool → Read Width
  | 0, _, _ => refuse
  | levels + 1, nonterminal, verbose => rule (read levels) nonterminal verbose

/-- A regular expression as a whole. -/
def whole (inner : Nonterminal → Bool → Read Width) : Read Unit := do
  let first ← sequence inner true false
  let _ ← choiceRest inner (return (← get).verbose) first ((← get).signs.length + 1)
  let reader ← get
  if !reader.signs.isEmpty then refuse
  if reader.conditions.any fun number => reader.groups.length < number then refuse
  if reader.ascii && reader.unicode then refuse

end Read

/-- Tells whether a text is a valid regular expression. -/
def isValid (text : Text) : Bool :=
  match Sign.ofText? text with
  | none => false
  | some signs => ((Read.whole (Read.read (signs.length + 1))).run { signs := signs }).isSome

end DeviceScript.Regex
