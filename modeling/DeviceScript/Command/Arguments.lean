import DeviceScript.Text.Category
import DeviceScript.Text.Cited

/-! Command lines: options that may be shortened, values behind them, and words in between. -/

namespace DeviceScript.Command

/-- What an option does. -/
inductive Effect where
  | value | flag | help | version
  deriving DecidableEq

/-- An option with its names. -/
structure Switch where
  names : List Text
  effect : Effect := .value
  deriving DecidableEq

namespace Switch

def takesValue (switch : Switch) : Bool := switch.effect = .value

/-- The option as it is called in a complaint. -/
def title (switch : Switch) : Text := Text.join "/" switch.names

end Switch

/-- A value that is written together with an option. -/
inductive Attached where
  | nothing
  | letters (text : Text)
  | afterEquals (text : Text)

/-- An option that a command line names. -/
structure Use where
  switch : Switch
  name : Text
  attached : Attached

/-- One argument of a command line. -/
inductive Argument where
  | word (text : Text)
  | separator
  | option (text : Text) (use : Option Use)

def Argument.text : Argument → Text
  | word text => text
  | separator => "--"
  | option text _ => text

/-- Why a command line cannot be carried out. -/
inductive UsageFault where
  | ambiguous (option : Text) (names : List Text)
  | valueMissing (switch : Switch)
  | valueIgnored (switch : Switch) (value : Text)
  | unknownCommand (name : Text) (commands : List Text)
  | commandMissing
  | unrecognized (arguments : List Text)

def UsageFault.message : UsageFault → Text
  | ambiguous option names =>
    "ambiguous option: " ++ option ++ " could match " ++ Text.join ", " names
  | valueMissing switch => "argument " ++ switch.title ++ ": expected one argument"
  | valueIgnored switch value =>
    "argument " ++ switch.title ++ ": ignored explicit argument " ++ Text.Cited.encode value
  | unknownCommand name commands =>
    "argument command: invalid choice: " ++ Text.Cited.encode name ++ " (choose from "
      ++ Text.join ", " (commands.map Text.Cited.encode) ++ ")"
  | commandMissing => "the following arguments are required: command"
  | unrecognized arguments => "unrecognized arguments: " ++ Text.join " " arguments

/-- What ends the reading of a command line before it is complete. -/
inductive Stop where
  | help
  | version
  | fault (fault : UsageFault)

/-- What words stand for: nothing, one operand, or a command and all that follows it. -/
inductive Operands where
  | none | one | command
  deriving DecidableEq

/-- What a command line may consist of. -/
structure Grammar where
  switches : List Switch
  operands : Operands

/-- What a command line consists of. -/
structure Reading where
  /-- The options and their values, in order. -/
  given : List (Switch × Text) := []
  /-- The operand, or the command and all that follows it. -/
  operands : Option (List Text) := none
  /-- Arguments that mean nothing. -/
  extras : List Text := []

namespace Reading

/-- The last value that an option was given. -/
def value? (reading : Reading) (switch : Switch) : Option Text :=
  (reading.given.reverse.find? fun use => use.1 = switch).map Prod.snd

/-- The operand. -/
def operand? (reading : Reading) : Option Text := reading.operands.bind List.head?

end Reading

/-- Tells whether an argument is a negative number rather than an option. -/
def isNegativeNumber : Text → Bool
  | .scalar '-' :: digits =>
    let whole := digits.takeWhile CodePoint.isAnyDigit
    match digits.drop whole.length with
    | [] => !whole.isEmpty
    | .scalar '.' :: fraction =>
      let fraction :=
        if fraction.getLast? = some (.scalar '\n') then fraction.dropLast else fraction
      !fraction.isEmpty && fraction.all CodePoint.isAnyDigit
    | rest => rest = "\n" && !whole.isEmpty
  | _ => false

namespace Grammar

/-- All names of options with the options they belong to. -/
def named (grammar : Grammar) : List (Text × Switch) :=
  grammar.switches.flatMap fun switch => switch.names.map fun name => (name, switch)

/-- The option that an argument names, with what stands behind an equals sign. -/
def named? (grammar : Grammar) (text : Text) : Option Use :=
  let name := Text.before "=" text
  match grammar.named.lookup text, grammar.named.lookup name with
  | some switch, _ => some ⟨switch, text, .nothing⟩
  | none, some switch => some ⟨switch, name, .afterEquals (text.drop (name.length + 1))⟩
  | none, none => none

/-- The options that an argument may be short for. -/
def candidates (grammar : Grammar) (text : Text) : List Use :=
  if text.startsWith "--" then
    let name := Text.before "=" text
    let attached : Attached :=
      if name = text then .nothing else .afterEquals (text.drop (name.length + 1))
    (grammar.named.filter fun entry => entry.1.startsWith name).map fun entry =>
      ⟨entry.2, entry.1, attached⟩
  else
    grammar.named.filterMap fun entry =>
      if entry.1 = text.take 2 then some ⟨entry.2, entry.1, .letters (text.drop 2)⟩
      else if entry.1.startsWith text then some ⟨entry.2, entry.1, .nothing⟩
      else none

/-- What an argument in front of any separator is. -/
def classify (grammar : Grammar) (text : Text) : Except Stop Argument :=
  if !text.startsWith "-" then .ok (.word text)
  else
    match grammar.named? text with
    | some use => .ok (.option text (some use))
    | none =>
      if text = "-" then .ok (.word text)
      else
        match grammar.candidates text with
        | [use] => .ok (.option text (some use))
        | [] =>
          if isNegativeNumber text || text.contains (.scalar ' ') then .ok (.word text)
          else .ok (.option text none)
        | uses => .error (.fault (.ambiguous text (uses.map Use.name)))

/-- What the arguments of a command line are; behind a separator all are words. -/
def classifyAll (grammar : Grammar) : List Text → Except Stop (List Argument)
  | [] => .ok []
  | text :: texts =>
    if text = "--" then .ok (.separator :: texts.map .word)
    else do
      let argument ← grammar.classify text
      return argument :: (← grammar.classifyAll texts)

/-- The letters behind a single-letter option, each of which is an option without a value. -/
def readLetters (grammar : Grammar) (switch : Switch) : Text → Except Stop Unit
  | [] => .ok ()
  | letter :: letters =>
    if letter = '-' then .error (.fault (.valueIgnored switch (letter :: letters)))
    else
      match grammar.named.lookup ([.scalar '-', letter] : Text) with
      | none => .ok ()
      | some next =>
        match letters with
        | .scalar '=' :: value => .error (.fault (.valueIgnored next value))
        | letters => readLetters grammar next letters

/-- Stops at an option that only asks for something to be printed. -/
def perform (switch : Switch) : Except Stop Unit :=
  match switch.effect with
  | .help => .error .help
  | .version => .error .version
  | _ => .ok ()

/-- What an option adds to a reading when no value follows it. -/
def readOption (grammar : Grammar) (use : Use) (reading : Reading) : Except Stop Reading := do
  let switch := use.switch
  match use.attached with
  | .nothing =>
    if switch.takesValue then throw (.fault (.valueMissing switch))
    perform switch
    return { reading with given := reading.given ++ [(switch, [])] }
  | .afterEquals value =>
    if !switch.takesValue then throw (.fault (.valueIgnored switch value))
    return { reading with given := reading.given ++ [(switch, value)] }
  | .letters value =>
    if switch.takesValue then return { reading with given := reading.given ++ [(switch, value)] }
    grammar.readLetters switch value
    perform switch
    return { reading with given := reading.given ++ [(switch, [])] }

def isOption : Argument → Bool
  | .option _ _ => true
  | _ => false

/-- The operands that words and separators without further options begin with, and the rest. -/
def splitOperands (operands : Operands) (arguments : List Argument)
    : Option (List Text) × List Argument :=
  match operands, arguments with
  | .one, .separator :: .word text :: rest => (some [text], rest)
  | .one, .separator :: rest => (none, rest)
  | .one, .word text :: .separator :: rest => (some [text], rest)
  | .one, .word text :: rest => (some [text], rest)
  | .command, .separator :: .word text :: rest =>
    (some (("--" : Text) :: text :: rest.map Argument.text), [])
  | .command, .word text :: rest => (some (text :: rest.map Argument.text), [])
  | _, rest => (none, rest)

/-- Reads the arguments behind the last option. -/
def readTail (grammar : Grammar) (reading : Reading) (arguments : List Argument) : Reading :=
  let (operands, rest) :=
    if reading.operands.isSome then (none, arguments)
    else splitOperands grammar.operands arguments
  { reading with
    operands := operands.or reading.operands
    extras := reading.extras ++ rest.map Argument.text }

/-- Reads the arguments of a command line. -/
def readArguments (grammar : Grammar) (reading : Reading) : List Argument → Except Stop Reading
  | [] => .ok reading
  | .option _ (some ⟨switch, _, .nothing⟩) :: .word value :: rest =>
    if switch.takesValue then
      readArguments grammar { reading with given := reading.given ++ [(switch, value)] } rest
    else do
      perform switch
      readArguments grammar { reading with given := reading.given ++ [(switch, [])] }
        (.word value :: rest)
  | .option _ (some use) :: rest => do readArguments grammar (← grammar.readOption use reading) rest
  | .option text none :: rest =>
    readArguments grammar { reading with extras := reading.extras ++ [text] } rest
  | argument :: rest =>
    if !rest.any isOption then .ok (grammar.readTail reading (argument :: rest))
    else if grammar.operands = .command then
      .ok { reading with operands := some (argument.text :: rest.map Argument.text) }
    else if grammar.operands = .one && reading.operands.isNone then
      readArguments grammar { reading with operands := some [argument.text] } rest
    else
      readArguments grammar { reading with extras := reading.extras ++ [argument.text] } rest

/-- Reads a command line. -/
def read (grammar : Grammar) (texts : List Text) : Except Stop Reading := do
  grammar.readArguments {} (← grammar.classifyAll texts)

end Grammar

end DeviceScript.Command
