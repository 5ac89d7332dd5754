import TraceFields.Carrier
import TraceFields.Context
import TraceFields.Registration

namespace TraceFields.Script

structure Served (ο : Type) where
  response : Except Fault Datum
  seen : List (Except Fault ο)
  extracted : Option ο

structure SchemeView where
  supportsJoin : Bool
  needsLongIds : Bool

inductive Answer where
  | nothing
  | truth (b : Bool)
  | text (s : String)
  | keys (keys : List Key)
  | names (names : List String)
  | store (number : Nat) (fields : Fields)
  | marker (text : String)
  | context (c : TraceContext) (extensions : List Answer)
  | extraction (context : Answer) (sampled : Option Bool) (extensions : List Answer)
  | carrier (carrier : Carrier)
  | attributes (attributes : List (String × Datum))
  | scheme (view : SchemeView)
  | fieldScheme (names : List String) (view : SchemeView)
  | initialized (existing : Bool) (names : List String) (view : SchemeView)
  | decorated (same : Bool) (value : Answer)
  | headers (headers : Carrier)
  | hooks
  | registration (debug hasScheme hasResolver verbose : Bool)
  | settings (settings : Settings)
  | batch (outcomes : List (Except Fault Answer))
  | scoped (outcomes : List (Except Fault Answer)) (raised : Bool)
  | returned (outcomes : List (Except Fault Answer)) (arguments : List Datum)
  | served (requests : List (Served Answer))

abbrev Outcome := Except Fault Answer

structure Reply where
  outcome : Outcome
  log : List LogRecord

end TraceFields.Script
