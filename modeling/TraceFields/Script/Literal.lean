import TraceFields.Script.State

namespace TraceFields.Script

def optionalLiteral (s : Option String) : String := (Datum.ofText? s).literal

def recordLiteral (name : String) (parts : List (String × String)) : String :=
  name ++ "(" ++ Text.joined ", " (parts.map fun e => e.1 ++ "=" ++ e.2) ++ ")"

def carrierLiteral (c : Carrier) : String :=
  "\x7b" ++ Text.joined ", " (c.map fun e => e.1.literal ++ ": " ++ optionalLiteral e.2) ++ "\x7d"

namespace Run

def storeLiteral (id : StoreId) : Run String := do pure ((← heap).fields id).text

def markerLiteral (id : MarkerId) : Run String := do
  pure (recordLiteral (Object.marker id).label [("text", Text.quoted ((← heap).markerText id))])

def extensionLiteral (literal : Object → Run String) : Extension → Run String
  | .store id => storeLiteral id
  | .marker id => markerLiteral id
  | .other n => do literal (((← get).others[n]?).getD .nothing)

def literalWithin : (bound : Nat) → Object → Run String
  | 0, _ => throw .depth
  | bound + 1, o =>
    let extension := extensionLiteral (literalWithin bound)
    match o with
    | .nothing => pure (Datum.literal .nothing)
    | .truth b => pure (Datum.literal (.truth b))
    | .text s => pure (Text.quoted s)
    | .context ⟨_, c⟩ => do
      pure (recordLiteral o.label
        [("trace_id", optionalLiteral c.traceId), ("span_id", optionalLiteral c.spanId),
          ("parent_id", optionalLiteral c.parentId), ("trace_flags", Numeral.Decimal.write c.flags),
          ("trace_state", optionalLiteral c.traceState),
          ("extra", tupleLiteral (← c.extensions.mapM extension))])
    | .extraction _ inner sampled extensions => do
      pure (recordLiteral o.label
        [("context", ← literalWithin bound inner),
          ("sampled", ((sampled.map Datum.truth).getD .nothing).literal),
          ("extra", tupleLiteral (← extensions.mapM extension))])
    | .store id => storeLiteral id
    | .marker id => markerLiteral id
    | o => do pure (carrierLiteral (← purePairs o))

def textOf : Object → Run String
  | .text s => pure s
  | o => do literalWithin ((← get).fresh + 1) o

end Run

end TraceFields.Script
