import TraceFields.Fault
import TraceFields.Heap

/-!
Carriers, the keys under which values are kept there, and the ways to write and to read them.
-/

namespace TraceFields

inductive Key where
  | absent
  | text (s : String)
  | parts (items : List String)
deriving DecidableEq, Repr

def tupleLiteral : List String → String
  | [item] => "(" ++ item ++ ",)"
  | items => "(" ++ Text.joined ", " items ++ ")"

def Key.shown : Key → String
  | .absent => Datum.shown .nothing
  | .text s => s
  | .parts items => tupleLiteral (items.map Text.quoted)

def Key.literal : Key → String
  | .text s => Text.quoted s
  | key => key.shown

abbrev KeyFactory := String → Key

abbrev Carrier := Entries Key (Option String)

abbrev KeyTable := Entries String Key

def KeyTable.ofNames (key : KeyFactory) (names : List String) : KeyTable :=
  names.map fun n => (n, key n)

structure Delivery where
  heap : Heap
  carrier : Carrier

abbrev Sending := ExceptT Fault (StateM Delivery)

abbrev Setter := Key → Option String → Sending Unit

abbrev Getter := Key → Except Fault (Option String)

namespace Carrier

def assign : Setter := fun key value => modify fun d =>
    { d with carrier := d.carrier.put key value }

def lookup (c : Carrier) : Getter := fun key => .ok (Entries.at? c key).join

end Carrier

def sendAll (set : Setter) (table : KeyTable) : List (String × Option String) → Sending Unit
  | [] => pure ()
  | (name, value) :: rest => do
    match Entries.at? table name with
    | none | some .absent => pure ()
    | some key => set key value
    sendAll set table rest

def collect (get : Getter) : KeyTable → Except Fault (Entries String String)
  | [] => .ok []
  | (name, key) :: rest => do
    let value ← get key
    let others ← collect get rest
    match value with
    | some v => pure ((name, v) :: others)
    | none => pure others

end TraceFields
