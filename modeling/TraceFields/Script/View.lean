import TraceFields.Script.State

namespace TraceFields.Script.Run

def storeNumber (id : StoreId) : Run Nat := do
  let s ← get
  match s.shown.findIdx? (· = id) with
  | some n => pure n
  | none =>
    set { s with shown := s.shown ++ [id] }
    pure s.shown.length

def viewStore (id : StoreId) :
    Run Answer := do pure (.store (← storeNumber id) ((← heap).fields id))

def viewMarker (id : MarkerId) : Run Answer := do pure (.marker ((← heap).markerText id))

def viewExtension (view : Object → Run Answer) : Extension → Run Answer
  | .store id => viewStore id
  | .marker id => viewMarker id
  | .other n => do view (((← get).others[n]?).getD .nothing)

def viewWithin : (bound : Nat) → Object → Run Answer
  | 0, _ => throw .depth
  | bound + 1, o =>
    let extension := viewExtension (viewWithin bound)
    match o with
    | .nothing => pure .nothing
    | .truth b => pure (.truth b)
    | .text s => pure (.text s)
    | .context c => do pure (.context c.value (← c.value.extensions.mapM extension))
    | .extraction _ inner sampled extensions => do
      pure (.extraction (← viewWithin bound inner) sampled (← extensions.mapM extension))
    | .store id => viewStore id
    | .marker id => viewMarker id
    | o => do pure (.carrier (← purePairs o))

-- No object is nested more deeply than there are identities: what is nested in one was there before.
def view (o : Object) : Run Answer := do viewWithin ((← get).fresh + 1) o

def shown (o : Object) : Run Made := do pure ⟨some o, ← view o⟩

def done : Run Made := shown .nothing

end TraceFields.Script.Run
