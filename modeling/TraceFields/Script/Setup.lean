import TraceFields.Script.View

namespace TraceFields.Script

def schemeView (s : Scheme) : SchemeView := ⟨s.supportsJoin, s.needsLongIds⟩

namespace Run

def isVoid : Object → Run Bool
  | .truth b => pure !b
  | o => do pure ((← size? o) = some 0)

def given : Option Delegate → Run (Option Delegate)
  | some (.foreign o) => do pure (if ← isVoid o then none else some (.foreign o))
  | delegate => pure delegate

end Run

open Run

def initialized (existing : Bool) : Object → Run Made
  | .scheme f => pure ⟨some (.scheme f),
      .initialized existing f.value.names (schemeView f.value.scheme)⟩
  | _ => throw .absent

def setUp (fields : Option Datum) (delegate : Option Delegate) (configFile : Option String)
    (debug : Option Bool) : Run Made := do
  let fresh ← freshResolver
  let id ← freshId
  let delegate ← given delegate
  let hold : FieldScheme → Object := fun f => match delegate with
    | some (.foreign o) => o
    | _ => .scheme ⟨id, f⟩
  let s ← get
  let args : SetupArguments :=
    { fields, delegate := delegate.map Delegate.toScheme, configFile, debug }
  let (result, registration) := s.registration.init s.sources args hold (.resolver fresh)
  set { s with registration }
  initialized s.registration.scheme.isSome (← result)

def register : RegistrationEntry → Run Unit
  | .resolver ref => do
    let o ← object ref
    modify fun s => { s with registration := { s.registration with resolver := o.toOption } }
  | .scheme ref => do
    let o ← object ref
    modify fun s => { s with registration := { s.registration with scheme := o.toOption } }
  | .debug b => modify fun s => { s with registration := { s.registration with debug := b } }

end TraceFields.Script
