import TraceFields.Identity.Headers
import TraceFields.Propagation.Basic

namespace TraceFields

namespace Propagation

def identity (table : KeyTable) : Propagation where
  label := "W3CPropagation"
  keys := table.map Prod.snd
  inject set c := do
    match Identity.headers c with
    | .ok hs => sendAll set table (hs.map fun e => (e.1, some e.2))
    | .error fault => throw fault
  injectFound _ _ _ := throw .absent
  extract get heap := do
    let hs ← collect get table
    match Identity.ofHeaders? hs with
    | some c => pure ({ context := some c }, heap)
    | none => pure (.empty, heap)

def sampling (key : Key) : Propagation where
  label := "FlagsPropagation"
  keys := [key]
  inject set c := set key (some (if c.isSampled then "1" else "0"))
  injectFound set sampled _ := set key (some (if sampled = some true then "1" else "0"))
  extract get heap := do
    match ← get key with
    | some v => pure ({ sampled := some (v = "1") }, heap)
    | none => pure (.empty, heap)

end Propagation

namespace Scheme

def identityNames : List String := [Identity.parentName, Identity.stateName]

def identity : Scheme where
  label := "Factory"
  supportsJoin := false
  needsLongIds := true
  create key := .ok (.identity (KeyTable.ofNames key identityNames))
  decorate c heap := (c, heap)

def bare : Scheme where
  label := "PropagationFactory"
  supportsJoin := false
  needsLongIds := false
  create _ := .error .unsupported
  decorate c heap := (c, heap)

def joining : Scheme :=
  { identity with label := "JoiningFactory", supportsJoin := true, needsLongIds := false }

def tagging : Scheme :=
  { joining with
    label := "TaggingFactory"
    decorate := fun c heap =>
      let (id, heap) := heap.newMarker "tag"
      (c.append (.marker id), heap)
    handsOn := fun _ => false }

def sampling : Scheme :=
  { bare with label := "FlagsFactory", create := fun key => .ok (.sampling (key "x-sampled")) }

end Scheme

end TraceFields
