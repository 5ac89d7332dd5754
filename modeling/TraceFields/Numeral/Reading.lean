import TraceFields.Text.Blank
import TraceFields.Text.Digit

namespace TraceFields.Numeral

/-- White space outside ASCII stands for a space and a decimal digit of any script for its value;
other characters outside ASCII stand for nothing in a numeral. -/
def plain (c : Char) : Char :=
  if c.toNat < 127 then c
  else if Text.isBlank c then ' '
  else match Text.digitValue? c with
    | some d => Char.ofNat (48 + d)
    | none => '?'

def isSpace (c : Char) : Bool := c = ' ' || ('\t' ≤ c && c ≤ '\x0d')

def readDigits (base : Nat) (digitValue? : Char → Option Nat) (acc : Nat) : List Char → Option Nat
  | [] => some acc
  | '_' :: c :: cs => (digitValue? c).bind fun d => readDigits base digitValue? (base * acc + d) cs
  | c :: cs => (digitValue? c).bind fun d => readDigits base digitValue? (base * acc + d) cs

def readNat (base : Nat) (digitValue? : Char → Option Nat) : List Char → Option Nat
  | [] => none
  | c :: cs => (digitValue? c).bind fun d => readDigits base digitValue? d cs

def readSigned (magnitude : List Char → Option Nat) : List Char → Option Int
  | '-' :: cs => (magnitude cs).map fun n => -(n : Int)
  | '+' :: cs => (magnitude cs).map Int.ofNat
  | cs => (magnitude cs).map Int.ofNat

def readText (magnitude : List Char → Option Nat) (s : String) : Option Int :=
  readSigned magnitude (Text.trim isSpace (s.toList.map plain))

end TraceFields.Numeral
