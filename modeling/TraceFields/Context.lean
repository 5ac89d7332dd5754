import TraceFields.Heap

namespace TraceFields

structure TraceContext where
  traceId : Option String
  spanId : Option String
  parentId : Option String := none
  flags : Int := 1
  traceState : Option String := none
  extensions : List Extension := []
deriving DecidableEq, Repr

def firstStore? (extensions : List Extension) : Option StoreId :=
  extensions.findSome? fun
    | .store id => some id
    | _ => none

def firstMarker? (extensions : List Extension) : Option MarkerId :=
  extensions.findSome? fun
    | .marker id => some id
    | _ => none

namespace TraceContext

def ofExtensions (extensions : List Extension) : TraceContext :=
  { traceId := none, spanId := none, extensions }

def isValid (c : TraceContext) : Bool := c.traceId.any (· ≠ "") && c.spanId.any (· ≠ "")

def isSampled (c : TraceContext) : Bool := c.flags % 2 = 1

def store? (c : TraceContext) : Option StoreId := firstStore? c.extensions

def withExtensions (c : TraceContext) (extensions : List Extension) : TraceContext :=
  { c with extensions }

def append (c : TraceContext) (e : Extension) : TraceContext :=
  c.withExtensions (c.extensions ++ [e])

end TraceContext

structure Extraction where
  context : Option TraceContext := none
  sampled : Option Bool := none
  extensions : List Extension := []
deriving DecidableEq, Repr

namespace Extraction

def empty : Extraction := {}

def append (r : Extraction) (e : Extension) : Extraction :=
  match r.context with
  | some c => { r with context := some (c.append e) }
  | none => { r with extensions := r.extensions ++ [e] }

def found (r : Extraction) : List Extension :=
  match r.context with
  | some c => c.extensions
  | none => r.extensions

def store? (r : Extraction) : Option StoreId := firstStore? r.found

end Extraction

end TraceFields
