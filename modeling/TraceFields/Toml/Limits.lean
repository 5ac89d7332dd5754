namespace TraceFields.Toml

inductive Flaw where
  | malformed
  | tooDeep
  | tooLong
deriving DecidableEq, Repr

def wellFormed {α : Type} : Option α → Except Flaw α
  | some a => .ok a
  | none => .error .malformed

/-- The calls that a process nests unless it is set up otherwise. -/
def usualCalls : Nat := 1000

/-- How many digits a decimal integer may have, if that is limited, and whether there is room for
what the rest of a text needs within so many calls of readers by one another. -/
structure Limits where
  digits : Option Nat := none
  fits : (calls : Nat) → (rest : List Char) → Bool := fun calls _ => calls ≤ usualCalls

namespace Limits

def enter (limits : Limits) (calls : Nat) (rest : List Char) : Except Flaw Nat :=
  if limits.fits calls rest then .ok calls else .error .tooDeep

def takesDigits (limits : Limits) (count : Nat) : Bool := limits.digits.all (count ≤ ·)

end Limits

/-- A value is read by one call; those for the items of an array are made within a second one. -/
def arrayCalls : Nat := 2

/-- Between the call for an inline table and those for its values there is one for each pair. -/
def inlineCalls : Nat := 3

end TraceFields.Toml
