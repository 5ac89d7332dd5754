import TraceFields.Context
import TraceFields.Fault
import TraceFields.Propagation.Naming

namespace TraceFields

def getField (heap : Heap) (context : Option TraceContext) (name : Option String) :
    Except Fault (Option String) :=
  match context, name with
  | none, _ => .error (.call .contextRequired)
  | some _, none => .error (.call .nameRequired)
  | some c, some name => .ok (c.store?.bind fun id => heap.get? id (canonicalName name))

def setField (heap : Heap) (context : Option TraceContext) (name value : Option String) :
    Except Fault Heap :=
  match context, name, value with
  | none, _, _ => .error (.call .contextRequired)
  | some _, none, _ => .error (.call .nameRequired)
  | some _, some name, none => .error (.call (.valueRequired (canonicalName name)))
  | some c, some name, some value =>
    match c.store? with
    | some id => .ok (heap.set id (canonicalName name) value)
    | none => .ok heap

def getActive (heap : Heap) (active : Option TraceContext) (name : Option String) :
    Except Fault (Option String) :=
  match active with
  | some c => getField heap (some c) name
  | none => .ok none

def setActive (heap : Heap) (active : Option TraceContext) (name value : Option String) :
    Except Fault Heap :=
  match active with
  | some c => setField heap (some c) name value
  | none => .ok heap

end TraceFields
