import TraceFields.Numeral.Decimal

/-!
Binary floating-point numbers of 64 bits, kept as sign, mantissa and binary exponent.
-/

namespace TraceFields.Numeral

/-- A finite number is `mantissa * 2 ^ exponent` with a sign. The mantissa is below `2 ^ 53`, and
at least `2 ^ 52` unless the exponent is the least one, −1074. -/
inductive Real64 where
  | finite (negative : Bool) (mantissa : Nat) (exponent : Int)
  | infinite (negative : Bool)
  | nan
deriving DecidableEq, Repr

namespace Real64

def twoPow (n : Nat) : Nat := Nat.pow 2 n

def tenPow (n : Nat) : Nat := Nat.pow 10 n

def leastExponent : Int := -1074

def greatestExponent : Int := 971

def roundDiv (num den : Nat) : Nat :=
  let q := num / den
  let r := num % den
  if 2 * r < den then q else if den < 2 * r then q + 1 else q + q % 2

def scaled (num den : Nat) (exponent : Int) : Nat :=
  if 0 ≤ exponent then roundDiv num (den * twoPow exponent.toNat)
  else roundDiv (num * twoPow (-exponent).toNat) den

def exponentFor (num den : Nat) : Int :=
  let guess : Int := (Nat.log2 num : Int) - Nat.log2 den - 52
  let floor := if 0 ≤ guess then num / (den * twoPow guess.toNat)
    else num * twoPow (-guess).toNat / den
  max leastExponent (if floor < twoPow 52 then guess - 1 else guess)

def ofQuotient (negative : Bool) (num den : Nat) : Real64 :=
  let e := exponentFor num den
  let m := scaled num den e
  let (m, e) := if m = twoPow 53 then (twoPow 52, e + 1) else (m, e)
  if greatestExponent < e then .infinite negative else .finite negative m e

def zero (negative : Bool) : Real64 := .finite negative 0 leastExponent

def ofDecimal (negative : Bool) (digits : Nat) (exponent : Int) : Real64 :=
  if digits = 0 then zero negative
  else
    -- quotients that are out of range by their length alone are not computed
    let magnitude := (Decimal.digits digits).length + exponent
    if 400 < magnitude then .infinite negative
    else if magnitude < -400 then zero negative
    else if 0 ≤ exponent then ofQuotient negative (digits * tenPow exponent.toNat) 1
    else ofQuotient negative digits (tenPow (-exponent).toNat)

def isZero : Real64 → Bool
  | .finite _ m _ => m == 0
  | _ => false

def whole? : Real64 → Option Int
  | .finite negative m e =>
    let den := twoPow (-e).toNat
    if m % den = 0 then
      let n : Int := (m / den * twoPow e.toNat : Nat)
      some (if negative then -n else n)
    else none
  | _ => none

def floorAt (m : Nat) (e places : Int) : Nat :=
  m * twoPow e.toNat * tenPow places.toNat / (twoPow (-e).toNat * tenPow (-places).toNat)

def distance (m : Nat) (e places : Int) (c : Nat) : Nat :=
  let x : Int := (m * twoPow e.toNat * tenPow places.toNat : Nat)
  let y : Int := (c * (twoPow (-e).toNat * tenPow (-places).toNat) : Nat)
  (x - y).natAbs

def onGrid (m : Nat) (e places : Int) : Option Nat :=
  let low := floorAt m e places
  let back := fun c => decide (ofDecimal false c (-places) = .finite false m e)
  match back low, back (low + 1) with
  | true, true =>
    let dl := distance m e places low
    let dh := distance m e places (low + 1)
    some (if dl < dh then low else if dh < dl then low + 1
      else if low % 2 = 0 then low else low + 1)
  | true, false => some low
  | false, true => some (low + 1)
  | false, false => none

def pointAfter (m : Nat) (e : Int) : Int :=
  let whole := floorAt m e 0
  if whole ≠ 0 then (Decimal.digits whole).length
  else
    let scaled := floorAt m e 1100
    (Decimal.digits scaled).length - 1100

def searchDigits (m : Nat) (e point : Int) : (fuel : Nat) → (count : Nat) → Nat × Int
  | 0, count => (floorAt m e (count - point), count - point)
  | fuel + 1, count =>
    match onGrid m e (count - point) with
    | some c => (c, count - point)
    | none => searchDigits m e point fuel (count + 1)

def shortest (m : Nat) (e : Int) : List Char × Int :=
  let (c, places) := searchDigits m e (pointAfter m e) 17 1
  let ds := Decimal.digits c
  let kept := (ds.reverse.dropWhile (· == '0')).reverse
  (kept, ds.length - places)

def layout (ds : List Char) (point : Int) : List Char :=
  if -4 < point && point ≤ 16 then
    if point ≤ 0 then '0' :: '.' :: List.replicate (-point).toNat '0' ++ ds
    else
      let p := point.toNat
      let whole := ds.take p ++ List.replicate (p - ds.length) '0'
      let rest := ds.drop p
      whole ++ '.' :: (if rest = [] then ['0'] else rest)
  else
    let x := point - 1
    let body := match ds with
      | [] => []
      | [d] => [d]
      | d :: rest => d :: '.' :: rest
    body ++ 'e' :: (if x < 0 then '-' else '+') :: (Decimal.padded 2 x.natAbs).toList

def sign (negative : Bool) : String := if negative then "-" else ""

def write : Real64 → String
  | .nan => "nan"
  | .infinite negative => sign negative ++ "inf"
  | .finite negative 0 _ => sign negative ++ "0.0"
  | .finite negative m e =>
    let (ds, point) := shortest m e
    sign negative ++ String.ofList (layout ds point)

def parts (cs : List Char) : List Char × List Char × List Char :=
  let whole := cs.takeWhile Decimal.isDigit
  let rest := cs.dropWhile Decimal.isDigit
  let (fraction, rest) := match rest with
    | '.' :: r => (r.takeWhile Decimal.isDigit, r.dropWhile Decimal.isDigit)
    | r => ([], r)
  (whole, fraction, rest.drop 1)

def readExponent : List Char → Int
  | '-' :: cs => -(Decimal.value cs : Int)
  | '+' :: cs => Decimal.value cs
  | cs => Decimal.value cs

def readUnsigned (negative : Bool) (cs : List Char) : Real64 :=
  let (whole, fraction, exponent) := parts cs
  ofDecimal negative (Decimal.value (whole ++ fraction)) (readExponent exponent - fraction.length)

def ofChars : List Char → Real64
  | '-' :: cs => readUnsigned true cs
  | '+' :: cs => readUnsigned false cs
  | cs => readUnsigned false cs

end Real64

end TraceFields.Numeral
