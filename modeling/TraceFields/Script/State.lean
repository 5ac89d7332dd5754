import TraceFields.Script.Answer
import TraceFields.Script.Object

namespace TraceFields.Script

structure Routine where
  env : Nat
  body : List Step
  raises : Bool

/-- A running script. Environments and routines stand by their identity. The pairs in `held` are
those of maps, by the identity of the map; the list `shown` has the stores that were shown, in the
order in which they were first; `others` are the extensions that are no stores and no markers;
`serving` holds inside the handlers of requests. Identity 0 is that of the empty extraction and of
the environment in which every unit starts. -/
structure State where
  heap : Heap := {}
  registration : Registration Object Object := {}
  sources : Sources
  registers : Entries String Object := []
  ambient : Ambient Nat := { env := 0 }
  environments : Entries Nat (Environment Object) := [(0, .empty)]
  routines : Entries Nat Routine := []
  held : Entries (ObjectKind × Nat) Carrier := []
  others : List Object := []
  shown : List StoreId := []
  serving : Bool := false
  fresh : Nat := 1
  resolvers : Nat := 0

def State.pairs (s : State) (o : Object) : Carrier := (s.held.at? o.identity).getD []

namespace State

def environment (s : State) (id : Nat) : Environment Object := (s.environments.at? id).getD .empty

def here (s : State) : Environment Object := s.environment s.ambient.env

def purePairs? (s : State) : Object → Option Carrier
  | .carrier id => some (s.pairs (.carrier id))
  | .environment id => if (s.environment id).isEmpty then some (s.pairs (.environment id)) else none
  | _ => none

def routine? (s : State) : Object → Option Routine
  | .routine id => s.routines.at? id
  | _ => none

def inside (s : State) (unit : Option Nat) (env : Nat) : State :=
  { s with ambient := s.ambient.switch (unit.getD s.ambient.unit) env }

def restore (before after : State) : State :=
  { after with ambient := before.ambient.restore after.ambient }

def derive (s : State) (value : Environment Object) : State :=
  { s with
    fresh := s.fresh + 1
    environments := s.environments.put s.fresh value
    held := s.held.put (.environment, s.fresh) (s.pairs (.environment s.ambient.env)) }

def addRoutine (s : State) (body : List Step) (ending : Ending) : State :=
  { s with
    fresh := s.fresh + 1
    routines := s.routines.put s.fresh
      { env := s.ambient.env
        body := if ending = .failsFirst then [] else body
        raises := ending ≠ .returns } }

end State

abbrev Run := ExceptT Fault (StateM State)

structure Made where
  object : Option Object := none
  answer : Answer

inductive Delegate where
  | scheme (s : Scheme)
  | foreign (o : Object)

def Delegate.toScheme : Delegate → Scheme
  | .scheme s => s
  | .foreign o => { Scheme.bare with label := o.label }

namespace Run

def freshId : Run Nat := do
  let s ← get
  set { s with fresh := s.fresh + 1 }
  pure s.fresh

def freshResolver : Run ResolverId := do
  let s ← get
  set { s with resolvers := s.resolvers + 1 }
  pure ⟨s.resolvers⟩

def hold {α : Type} (value : α) : Run (Held α) := do pure ⟨← freshId, value⟩

def keep (name : Option String) (object : Object) : Run Unit :=
  match name with
  | some name => modify fun s => { s with registers := s.registers.put name object }
  | none => pure ()

def resolve (registers : Entries String Object) : Ref → Except Fault Object
  | none => .ok .nothing
  | some name =>
    match registers.at? name with
    | some o => .ok o
    | none => .error .unbound

def object (ref : Ref) : Run Object := do resolve (← get).registers ref

def delegate? : SchemeRef → Run (Option Delegate)
  | .nothing => pure none
  | .plain s => pure (some (.scheme s))
  | .named name => do
    match ← object (some name) with
    | .scheme f => pure (some (.scheme f.value.scheme))
    | .nothing => pure none
    | o => pure (some (.foreign o))

def required : Option Delegate → Run Scheme
  | some (.scheme s) => pure s
  | _ => throw .absent

def propagation : Object → Run Propagation
  | .propagation p => pure p.value
  | _ => throw .absent

def resolver : Object → Run ResolverId
  | .resolver r => pure r
  | _ => throw .absent

def store : Object → Run StoreId
  | .store id => pure id
  | _ => throw .absent

def heap : Run Heap := do pure (← get).heap

def setHeap (h : Heap) : Run Unit := modify fun s => { s with heap := h }

def pairs (o : Object) : Run Carrier := do pure ((← get).pairs o)

def setPairs (o : Object) (c : Carrier) : Run Unit :=
  modify fun s => { s with held := s.held.put o.identity c }

def purePairs (o : Object) : Run Carrier := do
  match (← get).purePairs? o with
  | some c => pure c
  | none => throw .wrongType

def newCarrier (c : Carrier) : Run Object := do
  let o := Object.carrier (← freshId)
  setPairs o c
  pure o

def size? (o : Object) : Run (Option Nat) := do
  let held := (← pairs o).length
  match o with
  | .text s => pure (some s.length)
  | .carrier _ => pure (some held)
  | .environment id => pure (some (((← get).environment id).length + held))
  | _ => pure none

def newContext (value : TraceContext) : Run Object := do pure (.context (← hold value))

def newExtraction (r : Extraction) : Run Object := do
  if r = .empty then return .extraction 0 .nothing none []
  let context ← match r.context with
    | some c => newContext c
    | none => pure .nothing
  pure (.extraction (← freshId) context r.sampled r.extensions)

def currentObject : Run Object := do pure (.environment (← get).ambient.env)

def derived (value : Environment Object) : Run Nat := do
  let s ← get
  set (s.derive value)
  pure s.fresh

def entered (r : ResolverId) (o : Object) : Run Nat := do derived ((← get).here.enter r o.toOption)

def note (level : LogLevel) (text : String) : Run Unit :=
  modify fun s => { s with registration := s.registration.note level text }

def item : Item → Run Extension
  | .marker text => do
    let (id, h) := (← heap).newMarker text
    setHeap h
    pure (.marker id)
  | .named ref => do
    match ← object ref with
    | .store id => pure (.store id)
    | .marker id => pure (.marker id)
    | o =>
      let s ← get
      match s.others.findIdx? o.isSame with
      | some n => pure (.other n)
      | none =>
        set { s with others := s.others ++ [o] }
        pure (.other s.others.length)

end Run

end TraceFields.Script
