import TraceFields.Toml.Scanner

/-!
Configuration documents, and the table that the statements of a text build up together.
-/

namespace TraceFields.Toml

abbrev Path := List String

def Table.changeAt (intoArrays : Bool) (change : Table → Option Table) : Path → Table → Option Table
  | [], t => change t
  | k :: ks, t =>
    match Entries.at? t k with
    | none => (changeAt intoArrays change ks []).map fun u => Entries.put t k (.table u)
    | some (.table u) => (changeAt intoArrays change ks u).map fun u => Entries.put t k (.table u)
    | some (.array items) =>
      match intoArrays, items.getLast? with
      | true, some (.table u) =>
        (changeAt intoArrays change ks u).map fun u =>
          Entries.put t k (.array (items.dropLast ++ [.table u]))
      | _, _ => none
    | some _ => none

def Table.add (key : String) (value : Value) (t : Table) : Option Table :=
  match Entries.at? t key with
  | none => some (Entries.put t key value)
  | some _ => none

def Table.extend (key : String) (t : Table) : Option Table :=
  match Entries.at? t key with
  | none => some (Entries.put t key (.array [.table []]))
  | some (.array items) => some (Entries.put t key (.array (items ++ [.table []])))
  | some _ => none

def isClosed (closed : List Path) (path : Path) : Bool := closed.any (·.isPrefixOf path)

mutual

def readValue (limits : Limits) (calls : Nat) :
    (fuel : Nat) → List Char → Except Flaw (Value × List Char)
  | 0, _ => .error .malformed
  | fuel + 1, cs =>
    match cs with
    | '"' :: _ | '\'' :: _ => (wellFormed (Strings.any cs)).map fun (s, rest) =>
        (.text (String.ofList s), rest)
    | 't' :: 'r' :: 'u' :: 'e' :: rest => .ok (.truth true, rest)
    | 'f' :: 'a' :: 'l' :: 's' :: 'e' :: rest => .ok (.truth false, rest)
    | '[' :: rest => do
      let calls ← limits.enter (calls + arrayCalls) rest
      let rest ← wellFormed (skipLines (rest.length + 1) rest)
      match rest with
      | ']' :: rest => pure (.array [], rest)
      | rest => do
        let (items, rest) ← readItems limits calls fuel rest
        pure (.array items, rest)
    | '\x7b' :: rest => do
      let calls ← limits.enter (calls + inlineCalls) rest
      match skipGap rest with
      | '\x7d' :: rest => pure (.table [], rest)
      | rest => do
        let (t, rest) ← readInline limits calls fuel [] [] rest
        pure (.table t, rest)
    | _ =>
      match Moments.moment cs with
      | some (m, rest) => .ok (.moment m, rest)
      | none => Numbers.number limits cs

def readItems (limits : Limits) (calls : Nat) :
    (fuel : Nat) → List Char → Except Flaw (List Value × List Char)
  | 0, _ => .error .malformed
  | fuel + 1, cs => do
    let (v, rest) ← readValue limits calls fuel cs
    let rest ← wellFormed (skipLines (rest.length + 1) rest)
    match rest with
    | ']' :: rest => pure ([v], rest)
    | ',' :: rest => do
      let rest ← wellFormed (skipLines (rest.length + 1) rest)
      match rest with
      | ']' :: rest => pure ([v], rest)
      | rest => do
        let (vs, rest) ← readItems limits calls fuel rest
        pure (v :: vs, rest)
    | _ => .error .malformed

def readInline (limits : Limits) (calls : Nat) :
    (fuel : Nat) → Table → List Path → List Char → Except Flaw (Table × List Char)
  | 0, _, _, _ => .error .malformed
  | fuel + 1, t, closed, cs => do
    let (key, v, rest) ← readPair limits calls fuel cs
    if isClosed closed key then .error .malformed
    let t ← wellFormed (Table.changeAt false (Table.add (key.getLast?.getD "") v) key.dropLast t)
    match skipGap rest with
    | '\x7d' :: rest => pure (t, rest)
    | ',' :: rest =>
      readInline limits calls fuel t (if v.isNested then key :: closed else closed) (skipGap rest)
    | _ => .error .malformed

def readPair (limits : Limits) (calls : Nat) :
    (fuel : Nat) → List Char → Except Flaw (Path × Value × List Char)
  | 0, _ => .error .malformed
  | fuel + 1, cs => do
    let (key, rest) ← wellFormed (Keys.dotted (cs.length + 1) cs)
    match rest with
    | '=' :: rest => do
      let (v, rest) ← readValue limits calls fuel (skipGap rest)
      pure (key, v, rest)
    | _ => .error .malformed

end

/-- A document so far: its table, the table that pairs go to, and the paths that later statements
may not touch. `closed` paths and all below them take no pairs; `opened` paths are no more opened by
a header or by dots; `dotted` paths, opened by dots under the present header, count as opened from
the next header on. -/
structure Draft where
  table : Table := []
  header : Path := []
  closed : List Path := []
  opened : List Path := []
  dotted : List Path := []

namespace Draft

def parents (d : Draft) (key : Path) : List Path :=
  (List.range (key.length - 1)).map fun n => d.header ++ key.take (n + 1)

def addPair (d : Draft) (key : Path) (value : Value) : Option Draft := do
  let parents := d.parents key
  if parents.any d.opened.contains then none
  let place := d.header ++ key.dropLast
  if isClosed d.closed place then none
  let table ← Table.changeAt true (Table.add (key.getLast?.getD "") value) place d.table
  pure { d with
    table
    dotted := parents ++ d.dotted
    closed := if value.isNested then (d.header ++ key) :: d.closed else d.closed }

def settle (d : Draft) : Draft := { d with opened := d.dotted ++ d.opened, dotted := [] }

def openTable (d : Draft) (path : Path) : Option Draft := do
  let d := d.settle
  if d.opened.contains path || isClosed d.closed path then none
  let table ← Table.changeAt true some path d.table
  pure { d with table, header := path, opened := path :: d.opened }

def openItem (d : Draft) (path : Path) : Option Draft := do
  let d := d.settle
  if isClosed d.closed path then none
  let table ← Table.changeAt true (Table.extend (path.getLast?.getD "")) path.dropLast d.table
  -- what was said about paths below the item before this one is void
  pure { d with
    table
    header := path
    opened := path :: d.opened.filter (!path.isPrefixOf ·)
    closed := d.closed.filter (!path.isPrefixOf ·) }

def endLine (cs : List Char) : Option (List Char) :=
  (skipComment (skipGap cs)).bind fun
    | [] => some []
    | '\n' :: rest => some rest
    | _ => none

def openBy (d : Draft) (cs : List Char) : Option (Draft × List Char) :=
  match cs with
  | '[' :: '[' :: rest => do
    let (path, rest) ← Keys.dotted (rest.length + 1) (skipGap rest)
    match rest with
    | ']' :: ']' :: rest => pure (← d.openItem path, rest)
    | _ => none
  | '[' :: rest => do
    let (path, rest) ← Keys.dotted (rest.length + 1) (skipGap rest)
    match rest with
    | ']' :: rest => pure (← d.openTable path, rest)
    | _ => none
  | _ => none

def statement (limits : Limits) (d : Draft) (cs : List Char) : Except Flaw (Draft × List Char) :=
  match cs with
  | [] | '\n' :: _ | '#' :: _ => .ok (d, cs)
  | '[' :: _ => wellFormed (d.openBy cs)
  | _ => do
    let (key, value, rest) ← readPair limits 0 (2 * cs.length + 4) cs
    pure (← wellFormed (d.addPair key value), rest)

def statements (limits : Limits) : (fuel : Nat) → Draft → List Char → Except Flaw Draft
  | _, d, [] => .ok d
  | 0, _, _ => .error .malformed
  | fuel + 1, d, cs => do
    let (d, rest) ← d.statement limits (skipGap cs)
    statements limits fuel d (← wellFormed (endLine rest))

end Draft

def parse (limits : Limits) (text : String) : Except Flaw Table := do
  let cs := unifyLineEnds text.toList
  let _ ← limits.enter 0 cs
  (Draft.statements limits (cs.length + 1) {} cs).map Draft.table

end TraceFields.Toml
