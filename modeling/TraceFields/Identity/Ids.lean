import TraceFields.Fault
import TraceFields.Numeral.Hex

namespace TraceFields.Identity

def traceIdWidth : Nat := 32

def spanIdWidth : Nat := 16

def traceIdText (n : Int) : String := Numeral.Hex.write traceIdWidth n

def spanIdText (n : Int) : String := Numeral.Hex.write spanIdWidth n

def readId : Option String → Except Fault Int
  | none | some "" => .ok 0
  | some s => match Numeral.Hex.read? s with
    | some n => .ok n
    | none => .error .numeral

def readDecimal : Option String → Except Fault Int
  | none => .error .wrongType
  | some s => match Numeral.Decimal.read? s with
    | some n => .ok n
    | none => .error .numeral

def decimalText (n : Int) : String := Numeral.Decimal.write n

def isTraceId (n : Int) : Bool := 1 ≤ n && n < Nat.pow 2 128

def isSpanId (n : Int) : Bool := 1 ≤ n && n < Nat.pow 2 64

end TraceFields.Identity
