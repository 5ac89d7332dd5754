import TraceFields.Script.View

namespace TraceFields.Script

def State.isKeyWithin (s : State) : (bound : Nat) → Object → Bool
  | 0, _ => true
  | bound + 1, o =>
    let extension : Extension → Bool
      | .other n => s.isKeyWithin bound ((s.others[n]?).getD .nothing)
      | _ => true
    match o with
    | .context c => c.value.extensions.all extension
    | .extraction _ inner _ extensions => s.isKeyWithin bound inner && extensions.all extension
    | o => !o.isMap

namespace Run

def lookUp (o key : Object) : Run Object := do
  match o, key with
  | .resolver r, .nothing => pure (.ofOption ((← get).here.active r))
  | .resolver r, .environment id => pure (.ofOption (((← get).environment id).active r))
  | .resolver _, .carrier _ | .resolver _, .store _ => pure .nothing
  | .store id, .text name => pure (.ofText? ((← heap).get? id name))
  | .store id, .nothing => pure (.ofText? ((← heap).get? id none))
  | .carrier _, .text name | .environment _, .text name =>
      pure (.ofText? ((← pairs o).at? (.text name)).join)
  | .carrier _, .nothing | .environment _, .nothing =>
      pure (.ofText? ((← pairs o).at? .absent).join)
  | .store _, _ | .carrier _, _ | .environment _, _ =>
    let s ← get
    if s.isKeyWithin (s.fresh + 1) key then pure .nothing else throw .wrongType
  | _, _ => throw .absent

def lookUpNow : Object → Run Object
  | .resolver r => lookUp (.resolver r) .nothing
  | .store _ | .carrier _ | .environment _ => throw .wrongType
  | _ => throw .absent

def lookUpNamed (o : Object) (name : String) : Run Object :=
  match o with
  | .resolver _ | .store _ | .carrier _ | .environment _ => do lookUp o (← object (some name))
  | _ => throw .absent

def active (given : Object) : Run Object := do
  match given.toOption <|> (← get).registration.resolver with
  | none => pure .nothing
  | some o => lookUpNow o

def tagger : Object → Run (SpanTagger Object)
  | .tagger t => pure t.value
  | o => do
    -- taggers are kept in pairs, so the size of a collection counts before its kind
    match ← size? o with
    | none => throw .wrongType
    | some 2 => throw .absent
    | some _ => throw .wrongSize

end Run

open Run

def spanParent : Object → Run Object
  | .nothing => currentObject
  | .environment id => pure (.environment id)
  | .carrier id => pure (.carrier id)
  | .store id => pure (.store id)
  | _ => throw .absent

def tagged (t : SpanTagger Object) (start : Attributes) : Object → Run Made
  | .nothing => do pure { answer := .attributes (t.tag (← heap) none start) }
  | o =>
    match o.extensions? with
    | some extensions => do
      pure { answer := .attributes (t.tag (← heap) (some (.ofExtensions extensions)) start) }
    | none => if t.names.isEmpty then pure { answer := .attributes start } else throw .absent

def span (t : SpanTagger Object) (attributes : List (String × Datum)) (parent : Object) :
    Run Made := do
  let env ← spanParent parent
  tagged t (Attributes.start attributes) (← lookUp t.resolver env)

end TraceFields.Script
