import TraceFields.Datum
import TraceFields.Entries

namespace TraceFields

structure Report where
  message : String
  details : Entries String Datum := []
deriving Repr

def Report.render (r : Report) : String :=
  if r.details.isEmpty then r.message
  else r.message ++ " (" ++
    Text.joined ", " (r.details.map fun (k, v) => k ++ "=" ++ v.shown) ++ ")"

def Report.renderOf (message : Option String) (details : Entries String Datum) : Option String :=
  match message with
  | some message => some (Report.render ⟨message, details⟩)
  | none => if details.isEmpty then none else some (Report.render ⟨Datum.shown .nothing, details⟩)

end TraceFields
