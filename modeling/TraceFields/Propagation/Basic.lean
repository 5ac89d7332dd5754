import TraceFields.Carrier
import TraceFields.Context

/-!
Propagations write contexts to carriers and read them back; schemes make propagations for a kind of
key, and prepare new contexts for them.
-/

namespace TraceFields

/-- How contexts are written and read. The `label` names the kind of propagation, and the `keys` are
all carrier keys that may be touched. In the place of a context, `injectFound` sends what an
extraction found, which can be a sampling decision and the fields among its extensions, if it can
have any, but no identity. -/
structure Propagation where
  label : String
  keys : List Key
  inject : Setter → TraceContext → Sending Unit
  injectFound : Setter → (sampled : Option Bool) →
    (extensions : Option (List Extension)) → Sending Unit
  extract : Getter → Heap → Except Fault (Extraction × Heap)

structure Scheme where
  label : String
  supportsJoin : Bool
  needsLongIds : Bool
  create : KeyFactory → Except Fault Propagation
  decorate : TraceContext → Heap → TraceContext × Heap
  handsOn : Option (List Extension) → Bool := fun _ => true

namespace Propagation

def injectInto (p : Propagation) (c : TraceContext) (heap : Heap) (carrier : Carrier) :
    Except Fault Unit × Delivery :=
  (p.inject Carrier.assign c).run.run ⟨heap, carrier⟩

def extractFrom (p : Propagation) (carrier : Carrier) (heap : Heap) :
    Except Fault (Extraction × Heap) :=
  p.extract carrier.lookup heap

end Propagation

end TraceFields
