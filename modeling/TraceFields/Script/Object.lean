import TraceFields.Script.Step
import TraceFields.Spans

/-!
Two objects can be equal without being the same.
-/

namespace TraceFields.Script

structure Held (α : Type) where
  id : Nat
  value : α

inductive Object where
  | nothing
  | truth (b : Bool)
  | text (s : String)
  | context (c : Held TraceContext)
  | extraction (id : Nat) (context : Object) (sampled : Option Bool) (extensions : List Extension)
  | store (id : StoreId)
  | marker (id : MarkerId)
  | carrier (id : Nat)
  | scheme (f : Held FieldScheme)
  | propagation (p : Held Propagation)
  | resolver (id : ResolverId)
  | environment (id : Nat)
  | routine (id : Nat)
  | tagger (t : Held (SpanTagger Object))

inductive ObjectKind where
  | nothing | truth | text | context | extraction | store | marker | carrier | scheme | propagation | resolver
  | environment | routine | tagger
deriving DecidableEq

namespace Object

def identity : Object → ObjectKind × Nat
  | .nothing => (.nothing, 0)
  | .truth b => (.truth, b.toNat)
  | .text _ => (.text, 0)
  | .context c => (.context, c.id)
  | .extraction id _ _ _ => (.extraction, id)
  | .store id => (.store, id.index)
  | .marker id => (.marker, id.index)
  | .carrier id => (.carrier, id)
  | .scheme f => (.scheme, f.id)
  | .propagation p => (.propagation, p.id)
  | .resolver id => (.resolver, id.index)
  | .environment id => (.environment, id)
  | .routine id => (.routine, id)
  | .tagger t => (.tagger, t.id)

def isSame : Object → Object → Bool
  | .text s, .text t => s = t
  | a, b => a.identity = b.identity

def ofText? : Option String → Object
  | some s => .text s
  | none => .nothing

def ofOption : Option Object → Object
  | some o => o
  | none => .nothing

def toOption : Object → Option Object
  | .nothing => none
  | o => some o

def ofStore? : Option StoreId → Object
  | some id => .store id
  | none => .nothing

def isMap : Object → Bool
  | .carrier _ | .environment _ => true
  | _ => false

def ofMarker? : Option MarkerId → Object
  | some id => .marker id
  | none => .nothing

def extensions? : Object → Option (List Extension)
  | .context c => some c.value.extensions
  | .extraction _ .nothing _ extensions => some extensions
  | .extraction _ o _ _ => o.extensions?
  | _ => none

def ownExtensions? : Object → Option (List Extension)
  | .context c => some c.value.extensions
  | .extraction _ _ _ extensions => some extensions
  | _ => none

def context? : Object → Option Object
  | .extraction _ o _ _ => o.toOption
  | _ => none

def extraction? : Object → Option Extraction
  | .extraction _ .nothing sampled extensions => some { sampled, extensions }
  | .extraction _ (.context c) sampled extensions =>
      some { context := some c.value, sampled, extensions }
  | _ => none

def onFields {α : Type} (o : Object) (access : Option TraceContext → Except Fault α) :
    Except Fault α :=
  match o, o.extensions? with
  | .nothing, _ => access none
  | _, some extensions => access (some (.ofExtensions extensions))
  | _, none => do
    let _ ← access (some (.ofExtensions []))
    throw .absent

def label : Object → String
  | .nothing => "NoneType"
  | .truth _ => "bool"
  | .text _ => "str"
  | .context _ => "TraceContext"
  | .extraction _ _ _ _ => "TraceContextOrSamplingFlags"
  | .store _ => "Extra"
  | .marker _ => "Marker"
  | .carrier _ => "dict"
  | .scheme f => f.value.scheme.label
  | .propagation p => p.value.label
  | .resolver _ => "CurrentTraceContext"
  | .environment _ => "Context"
  | .routine _ => "function"
  | .tagger _ => "tuple"

end Object

end TraceFields.Script
