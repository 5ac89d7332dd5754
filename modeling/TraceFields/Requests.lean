import TraceFields.Access
import TraceFields.Ambient
import TraceFields.Propagation.Basic

/-!
Headers of requests are a carrier whose keys are names, and names do not depend on case.
-/

namespace TraceFields

namespace Headers

def lowered (headers : Carrier) : Carrier :=
  Entries.ofPairs (headers.map fun e => (Key.text (Text.lower e.1.shown), e.2))

def extract (headers : Carrier) (p : Propagation) (heap : Heap) :
    Except Fault (Extraction × Heap) :=
  p.extractFrom (lowered headers) heap

def inject (headers : Carrier) (p : Propagation) (context : Option TraceContext) (heap : Heap) :
    Except Fault Unit × Delivery :=
  match context with
  | some c => p.injectInto c heap headers
  | none => (.ok (), ⟨heap, headers⟩)

end Headers

namespace Requests

def environment {α : Type} (env : Environment α) :
    Option ResolverId → Option α → Except Fault (Environment α)
  | _, none => .ok env
  | none, some _ => .error .absent
  | some r, some c => .ok (env.enter r (some c))

def noContextLine : String :=
  "No trace context in request headers; extra fields kept on request.state only"

end Requests

end TraceFields
