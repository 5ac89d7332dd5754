import TraceFields.Numeral.Real64
import TraceFields.Text.Quoted
import TraceFields.Text.Split

namespace TraceFields

inductive Datum where
  | nothing
  | truth (b : Bool)
  | whole (n : Int)
  | real (x : Numeral.Real64)
  | text (s : String)
  | list (items : List Datum)
  | table (entries : List (String × Datum))
deriving Repr, Inhabited

namespace Datum

def ofText? : Option String → Datum
  | some s => .text s
  | none => .nothing

mutual

def literal : Datum → String
  | .nothing => "None"
  | .truth b => if b then "True" else "False"
  | .whole n => Numeral.Decimal.write n
  | .real x => x.write
  | .text s => Text.quoted s
  | .list items => "[" ++ Text.joined ", " (literals items) ++ "]"
  | .table entries => "\x7b" ++ Text.joined ", " (entryLiterals entries) ++ "\x7d"

def literals : List Datum → List String
  | [] => []
  | d :: ds => literal d :: literals ds

def entryLiterals : List (String × Datum) → List String
  | [] => []
  | e :: es => entryLiteral e :: entryLiterals es

def entryLiteral : String × Datum → String
  | (k, d) => Text.quoted k ++ ": " ++ literal d

end

def shown : Datum → String
  | .text s => s
  | d => d.literal

def items? : Datum → Option (List Datum)
  | .list items => some items
  | .table entries => some (entries.map fun e => .text e.1)
  | .text s => some (s.toList.map fun c => .text (String.singleton c))
  | _ => none

end Datum

end TraceFields
