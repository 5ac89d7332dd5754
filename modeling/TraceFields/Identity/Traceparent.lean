import TraceFields.Numeral.Hex
import TraceFields.Text.Split

/-!
The `traceparent` header: version, trace id, span id and flags in lower-case hexadecimal digits,
joined by hyphens.
-/

namespace TraceFields.Identity

structure Traceparent where
  traceId : String
  spanId : String
  sampled : Bool
deriving DecidableEq, Repr

namespace Traceparent

def isLowerHex (c : Char) : Bool := ('0' ≤ c && c ≤ '9') || ('a' ≤ c && c ≤ 'f')

def isZero (cs : List Char) : Bool := cs.all (· = '0')

def hexField (width : Nat) (cs : List Char) : Option (List Char × List Char) :=
  let ds := cs.take width
  if ds.length = width ∧ ds.all isLowerHex then some (ds, cs.drop width) else none

def hyphen : List Char → Option (List Char)
  | '-' :: cs => some cs
  | _ => none

def dropLineEnd (cs : List Char) : List Char := if cs.getLast? = some '\n' then cs.dropLast else cs

def addition? (cs : List Char) : Option Bool :=
  match dropLineEnd cs with
  | '-' :: more => if more.contains '\n' then none else some true
  | gap => if gap.all Text.isGap then some false else none

def isOdd (ds : List Char) : Bool :=
  match ds.getLast? with
  | some c => (Numeral.Hex.digitValue? c).getD 0 % 2 = 1
  | none => false

def longest : Nat := 512

def readChars (cs : List Char) : Option Traceparent := do
  let (version, cs) ← hexField 2 (cs.dropWhile Text.isGap)
  let (traceId, cs) ← hexField 32 (← hyphen cs)
  let (spanId, cs) ← hexField 16 (← hyphen cs)
  let (flags, cs) ← hexField 2 (← hyphen cs)
  let addition ← addition? cs
  if isZero traceId ∨ isZero spanId ∨ version = ['f', 'f'] ∨
    (version = ['0', '0'] ∧ addition = true) then none
  else some ⟨String.ofList traceId, String.ofList spanId, isOdd flags⟩

def read? (header : String) : Option Traceparent :=
  if header.toList.length ≤ longest then readChars header.toList else none

def write (traceId spanId flags : Int) : String :=
  Text.joined "-" ["00", Numeral.Hex.write 32 traceId, Numeral.Hex.write 16 spanId,
    Numeral.Hex.write 2 flags]

end Traceparent

end TraceFields.Identity
