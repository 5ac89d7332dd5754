import TraceFields.Requests
import TraceFields.Script.View

namespace TraceFields.Script

open Run

def Object.inject (p : Propagation) (set : Setter) (o : Object) : Sending Unit :=
  match o with
  | .context c => p.inject set c.value
  | .extraction _ _ sampled _ => p.injectFound set sampled o.extensions?
  | _ => throw .absent

def Object.put (o : Object) : Setter :=
  fun key value => if o.isMap then Carrier.assign key value else throw .wrongType

def Object.putOwn : Object → Setter
  | .environment _ => fun _ _ => throw .frozen
  | o => o.put

def SetterRule.setter (rule : SetterRule) (registers : Entries String Object) (put : Setter) :
    Setter := fun key value => do
  if rule.failOn = some key then throw .raised
  match rule.reentry with
  | some r =>
    let o ← resolve registers r.context
    let d ← get
    let heap ← o.onFields fun c => setField d.heap c r.name r.value
    set { d with heap }
  | none => pure ()
  put key value

def setterInto (target : Object) (rule : Option SetterRule) : Run Setter := do
  match rule with
  | some rule => pure (rule.setter (← get).registers target.putOwn)
  | none => pure target.put

def getterFrom (source : Object) (rule : Option GetterRule) : Run Getter := do
  let c ← pairs source
  let h ← heap
  match rule, source with
  | none, .carrier _ | none, .environment _ => pure c.lookup
  | none, _ => pure fun _ => .error .wrongType
  | some rule, source => pure fun key =>
    if rule.failOn = some key then .error .raised
    else match source, key with
      | .carrier _, _ | .environment _, _ => c.lookup key
      | .store id, .text name => .ok (h.get? id name)
      | .store id, .absent => .ok (h.get? id none)
      | .store _, _ => .ok none
      | _, _ => .error .absent

def deliver (target : Object) (sending : Sending Unit) : Run Made := do
  let (result, d) := sending.run.run ⟨← heap, ← pairs target⟩
  setHeap d.heap
  if target.isMap then setPairs target d.carrier
  result
  shown target

def extracted (result : Except Fault (Extraction × Heap)) : Run Object := do
  let (r, h) ← result
  setHeap h
  newExtraction r

def injectHeaders (headers : Carrier) (p context : Object) : Run Made := do
  let h ← heap
  let (result, d) ← match context, p with
    | .nothing, _ => pure (.ok (), ⟨h, headers⟩)
    | .context c, .propagation p => pure (Headers.inject headers p.value (some c.value) h)
    | o, .propagation p => pure ((o.inject p.value Carrier.assign).run.run ⟨h, headers⟩)
    | _, _ => throw .absent
  setHeap d.heap
  result
  pure { answer := .headers d.carrier }

end TraceFields.Script
