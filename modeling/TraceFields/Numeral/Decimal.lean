import TraceFields.Numeral.Reading

namespace TraceFields.Numeral.Decimal

def digit (n : Nat) : Char := Char.ofNat (48 + n)

def digits (n : Nat) : List Char :=
  if n < 10 then [digit n] else digits (n / 10) ++ [digit (n % 10)]
termination_by n

def chars (n : Int) : List Char := if n < 0 then '-' :: digits n.natAbs else digits n.natAbs

def write (n : Int) : String := String.ofList (chars n)

def isDigit (c : Char) : Bool := '0' ≤ c && c ≤ '9'

def digitValue? (c : Char) : Option Nat := if isDigit c then some (c.toNat - 48) else none

def value (cs : List Char) : Nat := cs.foldl (fun acc c => 10 * acc + (c.toNat - 48)) 0

def read? (s : String) : Option Int := readText (readNat 10 digitValue?) s

def padded (width n : Nat) : String :=
  String.ofList (List.replicate (width - (digits n).length) '0' ++ digits n)

end TraceFields.Numeral.Decimal
