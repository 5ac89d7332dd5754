import TraceFields.Numeral.Hex
import TraceFields.Toml.Limits
import TraceFields.Toml.Value

/-!
Each reader takes a token from the front of the text and gives the rest.
-/

namespace TraceFields.Toml

abbrev Reader (α : Type) := List Char → Option (α × List Char)

open Text (isGap)

def isGapOrNewline (c : Char) : Bool := isGap c || c = '\n'

def isControl (c : Char) : Bool := (c < ' ' && c ≠ '\t') || c = '\x7f'

def skipGap (cs : List Char) : List Char := cs.dropWhile isGap

def skipComment : List Char → Option (List Char)
  | '#' :: cs => if (cs.takeWhile (· ≠ '\n')).any isControl then none
      else some (cs.dropWhile (· ≠ '\n'))
  | cs => some cs

def skipLines : (fuel : Nat) → List Char → Option (List Char)
  | 0, _ => none
  | fuel + 1, cs =>
    match cs.dropWhile isGapOrNewline with
    | '#' :: rest => (skipComment ('#' :: rest)).bind (skipLines fuel)
    | rest => some rest

def unifyLineEnds : List Char → List Char
  | '\r' :: '\n' :: cs => '\n' :: unifyLineEnds cs
  | c :: cs => c :: unifyLineEnds cs
  | [] => []

namespace Strings

def literal : Reader (List Char)
  | [] => none
  | c :: cs =>
    if c = '\'' then some ([], cs)
    else if isControl c then none
    else (literal cs).map fun (s, rest) => (c :: s, rest)

def literalLines : Reader (List Char)
  | '\'' :: '\'' :: '\'' :: cs => some ([], cs)
  | c :: cs => if isControl c && c ≠ '\n' then none
      else (literalLines cs).map fun (s, rest) => (c :: s, rest)
  | [] => none

def simpleEscape? : Char → Option Char
  | 'b' => some '\x08'
  | 't' => some '\t'
  | 'n' => some '\n'
  | 'f' => some '\x0c'
  | 'r' => some '\r'
  | '"' => some '"'
  | '\\' => some '\\'
  | _ => none

def codePoint? (digits : List Char) : Option Char :=
  match digits.foldl (fun acc c => acc.bind fun n =>
    (Numeral.Hex.digitValue? c).map (16 * n + ·)) (some 0) with
  | some n => if n < 0xD800 ∨ (0xDFFF < n ∧ n < 0x110000) then some (Char.ofNat n) else none
  | none => none

def endsLine (cs : List Char) : Bool := (skipGap cs).head? == some '\n'

def basic (lines : Bool) : (joining : Bool) → Reader (List Char)
  | _, [] => none
  | joining, c :: cs =>
    if joining && isGapOrNewline c then basic lines true cs
    else if c = '"' then
      if lines then
        match cs with
        | '"' :: '"' :: rest => some ([], rest)
        | _ => (basic lines false cs).map fun (s, rest) => ('"' :: s, rest)
      else some ([], cs)
    else if c = '\\' then
      match cs with
      | 'u' :: a :: b :: d :: e :: rest => do
        let x ← codePoint? [a, b, d, e]
        let (s, rest) ← basic lines false rest
        pure (x :: s, rest)
      | 'U' :: a :: b :: d :: e :: f :: g :: h :: i :: rest => do
        let x ← codePoint? [a, b, d, e, f, g, h, i]
        let (s, rest) ← basic lines false rest
        pure (x :: s, rest)
      | x :: rest =>
        if lines && endsLine (x :: rest) then basic lines true rest
        else do
          let x ← simpleEscape? x
          let (s, rest) ← basic lines false rest
          pure (x :: s, rest)
      | [] => none
    else if isControl c && !(lines && c = '\n') then none
    else (basic lines false cs).map fun (s, rest) => (c :: s, rest)

def extraQuotes (quote : Char) (s : List Char) : List Char → List Char × List Char
  | a :: b :: cs =>
    if a = quote then if b = quote then (s ++ [a, b], cs) else (s ++ [a], b :: cs)
    else (s, a :: b :: cs)
  | [a] => if a = quote then (s ++ [a], []) else (s, [a])
  | [] => (s, [])

def dropFirstNewline : List Char → List Char
  | '\n' :: cs => cs
  | cs => cs

def any : Reader (List Char)
  | '"' :: '"' :: '"' :: cs => (basic true false (dropFirstNewline cs)).map fun (s, rest) =>
      extraQuotes '"' s rest
  | '"' :: cs => basic false false cs
  | '\'' :: '\'' :: '\'' :: cs => (literalLines (dropFirstNewline cs)).map fun (s, rest) =>
      extraQuotes '\'' s rest
  | '\'' :: cs => literal cs
  | _ => none

end Strings

namespace Keys

def isBare (c : Char) : Bool := c.isAlphanum || c = '-' || c = '_'

def part : Reader String
  | '"' :: cs => (Strings.basic false false cs).map fun (s, rest) => (String.ofList s, rest)
  | '\'' :: cs => (Strings.literal cs).map fun (s, rest) => (String.ofList s, rest)
  | cs =>
    match cs.takeWhile isBare with
    | [] => none
    | s => some (String.ofList s, cs.dropWhile isBare)

def dotted : (fuel : Nat) → Reader (List String)
  | 0, _ => none
  | fuel + 1, cs => do
    let (s, rest) ← part cs
    match skipGap rest with
    | '.' :: rest => do
      let (more, rest) ← dotted fuel (skipGap rest)
      pure (s :: more, rest)
    | rest => pure ([s], rest)

end Keys

namespace Numbers

def row (p : Char → Bool) : List Char → List Char × List Char
  | '_' :: c :: cs =>
    if p c then
      let (ds, rest) := row p cs
      (c :: ds, rest)
    else ([], '_' :: c :: cs)
  | c :: cs =>
    if p c then
      let (ds, rest) := row p cs
      (c :: ds, rest)
    else ([], c :: cs)
  | [] => ([], [])

def row? (p : Char → Bool) : Reader (List Char)
  | c :: cs => if p c then some (row p (c :: cs)) else none
  | [] => none

def isHexDigit (c : Char) : Bool := (Numeral.Hex.digitValue? c).isSome

def valueIn (base : Nat) (ds : List Char) : Nat :=
  ds.foldl (fun n c => base * n + (Numeral.Hex.digitValue? c).getD 0) 0

def based : Reader Int
  | '0' :: 'x' :: cs => (row? isHexDigit cs).map fun (ds, rest) => (valueIn 16 ds, rest)
  | '0' :: 'o' :: cs => (row? (fun c => '0' ≤ c && c ≤ '7') cs).map fun (ds, rest) =>
      (valueIn 8 ds, rest)
  | '0' :: 'b' :: cs => (row? (fun c => c = '0' || c = '1') cs).map fun (ds, rest) =>
      (valueIn 2 ds, rest)
  | _ => none

def signed : List Char → List Char × List Char
  | '+' :: cs => (['+'], cs)
  | '-' :: cs => (['-'], cs)
  | cs => ([], cs)

def whole : Reader (List Char)
  | '0' :: cs => some (['0'], cs)
  | cs => row? Numeral.Decimal.isDigit cs

def fraction : List Char → List Char × List Char
  | '.' :: cs =>
    match row? Numeral.Decimal.isDigit cs with
    | some (ds, rest) => ('.' :: ds, rest)
    | none => ([], '.' :: cs)
  | cs => ([], cs)

def exponent (cs : List Char) : List Char × List Char :=
  match cs with
  | c :: rest =>
    if c = 'e' || c = 'E' then
      let (sign, rest) := signed rest
      match row? Numeral.Decimal.isDigit rest with
      | some (ds, rest) => ('e' :: sign ++ ds, rest)
      | none => ([], cs)
    else ([], cs)
  | [] => ([], [])

def decimal (limits : Limits) (cs : List Char) : Except Flaw (Value × List Char) := do
  let (sign, rest) := signed cs
  let (ds, rest) ← wellFormed (whole rest)
  let (frac, rest) := fraction rest
  let (expo, rest) := exponent rest
  if frac = [] ∧ expo = [] then
    if limits.takesDigits ds.length then
      let n := Numeral.Decimal.value ds
      pure (.whole (if sign = ['-'] then -(n : Int) else n), rest)
    else .error .tooLong
  else pure (.real (.ofChars (sign ++ ds ++ frac ++ expo)), rest)

def special (cs : List Char) : Option (Value × List Char) :=
  let (sign, rest) := signed cs
  match rest with
  | 'i' :: 'n' :: 'f' :: rest => some (.real (.infinite (sign = ['-'])), rest)
  | 'n' :: 'a' :: 'n' :: rest => some (.real .nan, rest)
  | _ => none

def number (limits : Limits) (cs : List Char) : Except Flaw (Value × List Char) :=
  match based cs with
  | some (n, rest) => .ok (.whole n, rest)
  | none =>
    match special cs with
    | some r => .ok r
    | none => decimal limits cs

end Numbers

namespace Moments

def field (width low high : Nat) (cs : List Char) : Option (Nat × List Char) :=
  let ds := cs.take width
  if ds.length = width ∧ ds.all Numeral.Decimal.isDigit then
    let n := Numeral.Decimal.value ds
    if low ≤ n ∧ n ≤ high then some (n, cs.drop width) else none
  else none

def mark (c : Char) : List Char → Option (List Char)
  | x :: cs => if x = c then some cs else none
  | [] => none

def day (cs : List Char) : Option (Day × List Char) := do
  let (y, cs) ← field 4 0 9999 cs
  let cs ← mark '-' cs
  let (m, cs) ← field 2 1 12 cs
  let cs ← mark '-' cs
  let (d, cs) ← field 2 1 31 cs
  pure (⟨y, m, d⟩, cs)

def microseconds : List Char → Nat × List Char
  | '.' :: cs =>
    let ds := cs.takeWhile Numeral.Decimal.isDigit
    if ds = [] then (0, '.' :: cs)
    else
      let kept := ds.take 6
      (Numeral.Decimal.value (kept ++ List.replicate (6 - kept.length) '0'),
        cs.dropWhile Numeral.Decimal.isDigit)
  | cs => (0, cs)

def clock (cs : List Char) : Option (Clock × List Char) := do
  let (h, cs) ← field 2 0 23 cs
  let cs ← mark ':' cs
  let (m, cs) ← field 2 0 59 cs
  let cs ← mark ':' cs
  let (s, cs) ← field 2 0 59 cs
  let (u, cs) := microseconds cs
  pure (⟨h, m, s, u⟩, cs)

def hoursAndMinutes (sign : Int) (cs : List Char) : Option (Int × List Char) := do
  let (h, cs) ← field 2 0 23 cs
  let cs ← mark ':' cs
  let (m, cs) ← field 2 0 59 cs
  pure (sign * (60 * h + m), cs)

def offset (cs : List Char) : Option Int × List Char :=
  let found := match cs with
    | 'Z' :: rest | 'z' :: rest => some (0, rest)
    | '+' :: rest => hoursAndMinutes 1 rest
    | '-' :: rest => hoursAndMinutes (-1) rest
    | _ => none
  match found with
  | some (minutes, rest) => (some minutes, rest)
  | none => (none, cs)

def dated (cs : List Char) : Option (Moment × List Char) := do
  let (d, rest) ← day cs
  if !d.isValid then failure
  match rest with
  | sep :: after =>
    if sep = 'T' ∨ sep = 't' ∨ sep = ' ' then
      match clock after with
      | some (c, after) =>
        let (minutes, after) := offset after
        pure (.instant d c minutes, after)
      | none => pure (.day d, rest)
    else pure (.day d, rest)
  | [] => pure (.day d, rest)

def moment (cs : List Char) : Option (Moment × List Char) :=
  match dated cs with
  | some r => some r
  | none => (clock cs).map fun (c, rest) => (.clock c, rest)

end Moments

end TraceFields.Toml
