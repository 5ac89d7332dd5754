import TraceFields.Numeral.Reading

/-!
Hexadecimal numerals, written in one form and read in many.
-/

namespace TraceFields.Numeral.Hex

def digit (n : Nat) : Char := if n < 10 then Char.ofNat (48 + n) else Char.ofNat (87 + n)

def digits (n : Nat) : List Char :=
  if n < 16 then [digit n] else digits (n / 16) ++ [digit (n % 16)]
termination_by n

def pad (width : Nat) (cs : List Char) : List Char := List.replicate (width - cs.length) '0' ++ cs

def chars (width : Nat) (n : Int) : List Char :=
  if n < 0 then '-' :: pad (width - 1) (digits n.natAbs) else pad width (digits n.natAbs)

def write (width : Nat) (n : Int) : String := String.ofList (chars width n)

def digitValue? (c : Char) : Option Nat :=
  if '0' ≤ c ∧ c ≤ '9' then some (c.toNat - 48)
  else if 'a' ≤ c ∧ c ≤ 'f' then some (c.toNat - 87)
  else if 'A' ≤ c ∧ c ≤ 'F' then some (c.toNat - 55)
  else none

def dropMark : List Char → List Char
  | '0' :: 'x' :: '_' :: cs => cs
  | '0' :: 'X' :: '_' :: cs => cs
  | '0' :: 'x' :: cs => cs
  | '0' :: 'X' :: cs => cs
  | cs => cs

def magnitude (cs : List Char) : Option Nat := readNat 16 digitValue? (dropMark cs)

def read? (s : String) : Option Int := readText magnitude s

end TraceFields.Numeral.Hex
