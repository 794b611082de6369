import DeviceScript.Data.Toml.Value

/-! TOML documents: the statements of a text, and the table they describe together. -/

namespace DeviceScript.Toml

open Read

/-- What the statements so far describe, and which of its tables may not be touched again. -/
structure Document where
  table : Table := []
  /-- The table to which the next keys belong. -/
  header : Key := []
  /-- The tables that have been declared. -/
  declared : List Key := []
  /-- The tables that count as declared from the next declaration on. -/
  pending : List Key := []
  /-- The values that have been written out in one place. -/
  fixed : List Key := []

namespace Document

/-- Makes the tables of dotted keys count as declared. -/
def settle (document : Document) : Document :=
  { document with declared := document.pending ++ document.declared, pending := [] }

/-- Forgets everything about what lies under a key. -/
def release (document : Document) (key : Key) : Document :=
  { document with
    declared := document.declared.filter fun other => !key.isPrefixOf other
    fixed := document.fixed.filter fun other => !key.isPrefixOf other }

/-- Adds an empty table to the list under a name. -/
def extendList (name : Text) (table : Table) : Except Fault Table :=
  match table.lookup name with
  | none => .ok (Keyed.put name (.list [.table []]) table)
  | some (.list items) => .ok (Keyed.put name (.list (items ++ [.table []])) table)
  | some _ => .error .overwritten

/-- Reads the declaration of a table. -/
def declareTable (document : Document) : Read Document := do
  skip 1
  skipSpace
  let name ← key
  if name ∈ document.declared || isFixed document.fixed name then fail (.declaredTwice name)
  let table ← orFail (change true .ok name document.table)
  if !(← accepts "]") then fail .tableEnd
  return { document with table := table, header := name, declared := name :: document.declared }

/-- Reads the declaration of one more table in a list of tables. -/
def declareListItem (document : Document) : Read Document := do
  skip 2
  skipSpace
  let name ← key
  if isFixed document.fixed name then fail (.fixedTable name)
  let document := document.release name
  let table ←
    orFail (change true (extendList (name.getLast?.getD [])) name.dropLast document.table)
  if !(← accepts "]]") then fail .arrayTableEnd
  return { document with table := table, header := name, declared := name :: document.declared }

/-- The tables that a dotted key passes through. -/
def passed (header key : Key) : List Key :=
  (List.range (key.length - 1)).map fun index => header ++ key.take (index + 1)

/-- Reads a key and its value. -/
def assign (document : Document) : Read Document := do
  let (name, item) ← pair (← steps)
  let passed := passed document.header name
  if let some declared := passed.find? (· ∈ document.declared) then fail (.openTable declared)
  let parent := document.header ++ name.dropLast
  if isFixed document.fixed parent then fail (.fixedTable parent)
  let table ←
    orFail (change true (enter .overwritten (name.getLast?.getD []) item) parent document.table)
  return { document with
    table := table
    pending := passed ++ document.pending
    fixed := if isClosed item then (document.header ++ name) :: document.fixed else document.fixed }

/-- Reads the statements up to the end of the document. -/
def statements (document : Document) : Nat → Read Table
  | 0 => return document.table
  | fuel + 1 => do
    skipSpace
    match ← peek with
    | none => return document.table
    | some (.scalar '\n') =>
      skip 1
      statements document fuel
    | some point =>
      let document ←
        if isBareKey point || point = '"' || point = '\x27' then do
          let document ← document.assign
          skipSpace
          pure document
        else if point = '[' then do
          let document := document.settle
          let document ← if ← sees "[[" then document.declareListItem else document.declareTable
          skipSpace
          pure document
        else do
          if point ≠ '#' then fail .statement
          pure document
      skipComment
      match ← peek with
      | none => return document.table
      | some (.scalar '\n') =>
        skip 1
        statements document fuel
      | some _ => fail .lineEnd

end Document

/-- A text whose line ends are single line feeds. -/
def withLineFeeds : Text → Text
  | .scalar '\r' :: .scalar '\n' :: rest => '\n' :: withLineFeeds rest
  | point :: rest => point :: withLineFeeds rest
  | [] => []

/-- The table that a document describes, or what keeps it from being read. -/
def read (text : Text) : Except Failure Table :=
  let source := withLineFeeds text
  match (Document.statements {} (source.length + 1)).run source with
  | .ok (table, _) => .ok table
  | .error stop => .error (stop.failure source)

end DeviceScript.Toml
