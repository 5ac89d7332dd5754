import TraceFields.Propagation.Identity

namespace TraceFields

namespace Propagation

def sendFields (set : Setter) (table : KeyTable) : Option StoreId → Sending Unit
  | some id => do sendAll set table ((← get).heap.fields id).named
  | none => pure ()

def withFields (table : KeyTable) (inner : Propagation) : Propagation where
  label := "ExtraFieldPropagation"
  keys := inner.keys ++ table.map Prod.snd
  inject set c := do
    sendFields set table c.store?
    inner.inject set c
  injectFound set sampled extensions := do
    match extensions with
    | some found => sendFields set table (firstStore? found)
    | none => throw .absent
    inner.injectFound set sampled extensions
  extract get heap := do
    let (r, heap) ← inner.extract get heap
    let fields ← collect get table
    let (id, heap) := heap.newStore (.ofTexts fields)
    pure (r.append (.store id), heap)

end Propagation

def TraceContext.ensureStore (c : TraceContext) (heap : Heap) : TraceContext × Heap :=
  match c.store? with
  | some _ => (c, heap)
  | none =>
    let (id, heap) := heap.newStore []
    (c.append (.store id), heap)

structure FieldScheme where
  delegate : Scheme
  names : List String

namespace FieldScheme

def scheme (f : FieldScheme) : Scheme where
  label := "Factory"
  supportsJoin := f.delegate.supportsJoin
  needsLongIds := f.delegate.needsLongIds
  create key := do
    let inner ← f.delegate.create key
    pure (.withFields (KeyTable.ofNames key f.names) inner)
  decorate c heap :=
    let (c, heap) := f.delegate.decorate c heap
    c.ensureStore heap
  handsOn extensions := f.delegate.handsOn extensions && (extensions.bind firstStore?).isSome

def announcement (f : FieldScheme) : String :=
  "Extra field propagation over " ++ f.delegate.label ++ ": " ++ Text.joined ", " f.names

end FieldScheme

end TraceFields
