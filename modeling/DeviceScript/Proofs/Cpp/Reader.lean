import DeviceScript.Proofs.Cpp.Token
import DeviceScript.Proofs.Cpp.Tree

/-! A reader of C++ expressions. It keeps what is open on a stack: brackets that wait for their
counterpart, and operators that wait for the rest of their last operand. An operator takes over as
its operand what binds at least as tightly.
-/

namespace DeviceScript.Cpp

/-- Something that is open. -/
inductive Frame where
  | group
  | index (object : Tree)
  /-- A list with the items that are complete: the arguments of a call, or between braces if nothing
  is called. -/
  | items (callee : Option Tree) (done : List Tree)
  /-- An operator in front of its operand. -/
  | leading (operator : Text)
  | binary (operator : Text) (left : Tree)
  | assign (operator : Text) (target : Tree)

/-- Where a reader stands. -/
inductive State where
  /-- In front of an operand. -/
  | operand (frames : List Frame)
  /-- Behind an operand. -/
  | behind (value : Tree) (frames : List Frame)
  /-- Behind the operator that selects a name from an object. -/
  | selection (qualified : Bool) (object : Tree) (frames : List Frame)

namespace Tree

/-- An operation with an operator in front of its operand. -/
def applied (operator : Text) (operand : Tree) : Tree :=
  if operator ∈ updateOperators then update operator operand true else unary operator operand

/-- A call of what is called with some arguments, or a list if nothing is called. -/
def gathered (callee : Option Tree) (items : List Tree) : Tree :=
  match callee with
  | some callee => call callee items
  | none => list items

def selected (qualified : Bool) (object : Tree) (name : Text) : Tree :=
  if qualified then scope object name else dot object name

end Tree

namespace Frame

/-- The mark at the end of a list. -/
def closing (callee : Option Tree) : Text := if callee.isSome then ")" else "\x7d"

end Frame

namespace State

/-- Completes the innermost open operations, as far as they bind at least as tightly as a level. -/
def settle (level : Nat) (value : Tree) : List Frame → Tree × List Frame
  | .leading operator :: rest => settle level (.applied operator value) rest
  | .binary operator left :: rest =>
    if level ≤ (Tree.binaryStrength? operator).getD 0 then
      settle level (.binary operator left value) rest
    else (value, .binary operator left :: rest)
  | .assign operator target :: rest =>
    if level = 0 then settle level (.assign operator target value) rest
    else (value, .assign operator target :: rest)
  | frames => (value, frames)

/-- Reads a mark in front of an operand. -/
def readOpening (mark : Text) (frames : List Frame) : Option State :=
  if mark = "(" then some (operand (.group :: frames))
  else if mark = "\x7b" then some (operand (.items none [] :: frames))
  else if mark ∈ Tree.unaryOperators ++ Tree.updateOperators then
    some (operand (.leading mark :: frames))
  else
    match frames with
    | .items callee [] :: rest =>
      if mark = Frame.closing callee then some (behind (.gathered callee []) rest) else none
    | _ => none

/-- Reads a comma or a closing bracket behind a complete operand. -/
def readClosing (mark : Text) (value : Tree) (frames : List Frame) : Option State :=
  match settle 0 value frames with
  | (value, .group :: rest) => if mark = ")" then some (behind value rest) else none
  | (value, .index object :: rest) =>
    if mark = "]" then some (behind (.index object value) rest) else none
  | (value, .items callee done :: rest) =>
    if mark = "," then some (operand (.items callee (done ++ [value]) :: rest))
    else if mark = Frame.closing callee then
      some (behind (.gathered callee (done ++ [value])) rest)
    else none
  | _ => none

/-- Reads a mark behind an operand. -/
def readMark (mark : Text) (value : Tree) (frames : List Frame) : Option State :=
  if mark = "(" then some (operand (.items (some value) [] :: frames))
  else if mark = "[" then some (operand (.index value :: frames))
  else if mark = "." then some (selection false value frames)
  else if mark = "::" then some (selection true value frames)
  else if mark ∈ Tree.updateOperators then some (behind (.update mark value false) frames)
  else if mark ∈ Tree.assignOperators then
    let (target, frames) := settle 1 value frames
    some (operand (.assign mark target :: frames))
  else
    match Tree.binaryStrength? mark with
    | some level =>
      let (left, frames) := settle level value frames
      some (operand (.binary mark left :: frames))
    | none => readClosing mark value frames

/-- Reads a token. -/
def step : State → Token → Option State
  | operand frames, .word name => some (behind (.word name) frames)
  | operand frames, .number spelling => some (behind (.number spelling) frames)
  | operand frames, .string value => some (behind (.string value) frames)
  | operand frames, .mark mark => readOpening mark frames
  | behind value frames, .mark mark => readMark mark value frames
  | selection qualified object frames, .word name =>
    some (behind (.selected qualified object name) frames)
  | _, _ => none

/-- Reads some tokens. -/
def run (state : State) : List Token → Option State
  | [] => some state
  | token :: rest => (state.step token).bind fun next => run next rest

/-- The expression that has been read, if nothing is open. -/
def result? : State → Option Tree
  | behind value frames =>
    match settle 0 value frames with
    | (value, []) => some value
    | _ => none
  | _ => none

/-- Two lists of tokens are read one after the other. -/
theorem run_append (state : State) (first second : List Token)
    : state.run (first ++ second) = (state.run first).bind fun next => next.run second := by
  induction first generalizing state with
  | nil => rfl
  | cons token first ih =>
      simp only [List.cons_append, run]
      cases state.step token with
      | none => rfl
      | some next => exact ih next

end State

/-- The expression that a text spells, if it spells one and nothing else. -/
def read (text : Text) : Option Tree := do
  let tokens ← tokens text
  let state ← (State.operand []).run tokens
  state.result?

end DeviceScript.Cpp
