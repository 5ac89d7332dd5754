import TraceFields.Entries
import TraceFields.Numeral.Decimal
import TraceFields.Text.Blank
import TraceFields.Text.Lower
import TraceFields.Text.Split

/-!
The `tracestate` header, of which the lenient reading keeps what it can and the strict one takes all
or nothing.
-/

namespace TraceFields.Identity

abbrev Tracestate := Entries String String

namespace Tracestate

def isLowerAlpha (c : Char) : Bool := 'a' ≤ c && c ≤ 'z'

def isKeyChar (c : Char) : Bool :=
  isLowerAlpha c || Numeral.Decimal.isDigit c || c = '_' || c = '-' || c = '*' || c = '/'

def isWord (first : Char → Bool) (more : Nat) : List Char → Bool
  | [] => false
  | c :: cs => first c && cs.all isKeyChar && cs.length ≤ more

def isKey (cs : List Char) : Bool :=
  match Text.cut? '@' cs with
  | none => isWord isLowerAlpha 255 cs
  | some (tenant, system) =>
    isWord (fun c => isLowerAlpha c || Numeral.Decimal.isDigit c) 240 tenant && isWord isLowerAlpha 13 system

def isValueChar (c : Char) : Bool := ' ' ≤ c && c ≤ '~' && c ≠ ',' && c ≠ '='

def isValue (cs : List Char) : Bool :=
  cs.all isValueChar && cs.length ≤ 256 && (match cs.getLast? with
    | none => false
    | some c => c ≠ ' ')

def isMember (e : String × String) : Bool := isKey e.1.toList && isValue e.2.toList

def mostMembers : Nat := 32

def longest : Nat := 8192

def readMember? (item : String) : Option (String × String) :=
  match Text.cut? '=' (Text.trim Text.isBlank item.toList) with
  | none => none
  | some (key, value) =>
    let key := Text.lower (String.ofList (Text.trim Text.isBlank key))
    let value := String.ofList (Text.trim Text.isBlank value)
    if key = "" ∨ value = "" then none else some (key, value)

def parse (header : String) : Entries String String :=
  Entries.ofPairs ((Text.splitOn ',' header).filterMap readMember?)

def forwarded (pairs : Entries String String) : Tracestate :=
  if pairs.length ≤ mostMembers then pairs.filter isMember else []

def render (state : Tracestate) : String := Text.joined "," (state.map fun e => e.1 ++ "=" ++ e.2)

def strictMember? (item : List Char) : Option (String × String) :=
  match Text.cut? '=' item with
  | none => none
  | some (key, value) => if isKey key && isValue value then some
      (String.ofList key, String.ofList value) else none

def strictMembers? : List (List Char) → Option Tracestate
  | [] => some []
  | item :: items => do
    let e ← strictMember? item
    let es ← strictMembers? items
    if (Entries.keys es).contains e.1 then none else some (e :: es)

def ofHeader (header : String) : Tracestate :=
  if header.toList.length ≤ longest then
    let items := ((Text.pieces ',' header.toList).map (Text.trim Text.isGap)).filter (· ≠ [])
    if items.length ≤ mostMembers then (strictMembers? items).getD [] else []
  else []

end Tracestate

end TraceFields.Identity
