import TraceFields.Context
import TraceFields.Identity.Ids
import TraceFields.Identity.Traceparent
import TraceFields.Identity.Tracestate

namespace TraceFields.Identity

def parentName : String := "traceparent"

def stateName : String := "tracestate"

def sentState (c : TraceContext) : Tracestate :=
  Tracestate.forwarded (Tracestate.parse (c.traceState.getD ""))

def headers (c : TraceContext) : Except Fault (Entries String String) := do
  let traceId ← readId c.traceId
  let spanId ← readId c.spanId
  if isTraceId traceId && isSpanId spanId then
    let parent := (parentName, Traceparent.write traceId spanId c.flags)
    match sentState c with
    | [] => pure [parent]
    | state => pure [parent, (stateName, Tracestate.render state)]
  else pure []

def context? (parent : String) (state : Option String) : Option TraceContext :=
  (Traceparent.read? parent).map fun p =>
    { traceId := some p.traceId
      spanId := some p.spanId
      flags := if p.sampled then 1 else 0
      traceState := match Tracestate.ofHeader (state.getD "") with
        | [] => none
        | state => some state.render }

def ofHeaders? (hs : Entries String String) : Option TraceContext :=
  match Entries.at? hs parentName with
  | none => none
  | some parent => context? parent (Entries.at? hs stateName)

def parentText (c : TraceContext) : Except Fault String := do
  let hs ← headers c
  pure ((Entries.at? hs parentName).getD "")

def ofTexts? (parent state : Option String) : Option TraceContext :=
  (parent.filter (· ≠ "")).bind fun parent => context? parent (state.filter (· ≠ ""))

def statePairs (state : Option String) : Entries String String := Tracestate.parse (state.getD "")

end TraceFields.Identity
