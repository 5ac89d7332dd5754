import TraceFields.Text.Cased
import TraceFields.Text.Lower.Table

/-!
Lower case of a whole text.
-/

namespace TraceFields.Text

namespace Lower

def reachesCased (cs : List Char) : Bool :=
  match cs.find? fun c => !isIgnorable c with
  | some c => isCased c
  | none => false

/-- A sigma ends its word when a cased character stands before it and none after it. `before` runs
backwards. -/
def endsWord (before after : List Char) : Bool := reachesCased before && !reachesCased after

def char (before after : List Char) (c : Char) : List Char :=
  if c = 'Σ' then [if endsWord before after then 'ς' else 'σ']
  else if c = 'İ' then ['i', '\u0307']
  else [move runs c]

def chars (before : List Char) : List Char → List Char
  | [] => []
  | c :: after => char before after c ++ chars (c :: before) after

end Lower

def lower (s : String) : String := String.ofList (Lower.chars [] s.toList)

end TraceFields.Text
