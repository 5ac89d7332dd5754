import TraceFields.Entries
import TraceFields.Numeral.Real64
import TraceFields.Toml.Moment

namespace TraceFields.Toml

inductive Value where
  | text (s : String)
  | truth (b : Bool)
  | whole (n : Int)
  | real (x : Numeral.Real64)
  | moment (m : Moment)
  | array (items : List Value)
  | table (entries : List (String × Value))
deriving Repr, Inhabited

abbrev Table := Entries String Value

def Value.isVoid : Value → Bool
  | .text s => s.isEmpty
  | .truth b => !b
  | .whole n => n == 0
  | .real x => x.isZero
  | .moment _ => false
  | .array items => items.isEmpty
  | .table entries => entries.isEmpty

def Value.isNested : Value → Bool
  | .array _ | .table _ => true
  | _ => false

end TraceFields.Toml
