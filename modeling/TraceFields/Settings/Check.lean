import TraceFields.Settings.Issue
import TraceFields.Text.Blank
import TraceFields.Text.Lower
import TraceFields.Text.Split

/-!
The check is made on what is left when a variable hides the table's value of the same setting.
-/

namespace TraceFields

structure Settings where
  fields : List String := []
  debug : Bool := false
deriving DecidableEq, Repr

namespace Settings

def splitNames (s : String) : List String :=
  ((Text.splitOn ',' s).map Text.strip).filter (· ≠ "")

def isBlankName (name : String) : Bool := Text.strip name = ""

def texts? : List Toml.Value → Option (List String)
  | [] => some []
  | .text s :: vs => (texts? vs).map (s :: ·)
  | _ :: _ => none

def itemIssues : (index : Nat) → List Toml.Value → List Issue
  | _, [] => []
  | n, .text _ :: vs => itemIssues (n + 1) vs
  | n, v :: vs => { kind := .notAText, setting := "extra_fields", index := some n, input := v } ::
      itemIssues (n + 1) vs

def checkFields : Toml.Value → Except (List Issue) (List String)
  | .text s => .ok (splitNames s)
  | .array items =>
    match texts? items with
    | some names =>
      if names.any isBlankName then .error [⟨.blankName, "extra_fields", none, .array items⟩]
      else .ok names
    | none => .error (itemIssues 0 items)
  | v => .error [⟨.notAList, "extra_fields", none, v⟩]

def truthWord? (s : String) : Option Bool :=
  let word := s.map Char.toLower
  if ["1", "true", "t", "yes", "y", "on"].contains word then some true
  else if ["0", "false", "f", "no", "n", "off"].contains word then some false
  else none

def numberTruth (n : Int) (fits : Bool) : Except IssueKind Bool :=
  if n = 1 then .ok true else if n = 0 then .ok false
  else .error (if fits then .unclearTruth else .notATruth)

def bound : Int := Nat.pow 2 63

def truthOf : Toml.Value → Except IssueKind Bool
  | .truth b => .ok b
  | .text s => match truthWord? s with
    | some b => .ok b
    | none => .error .unclearTruth
  | .whole n => numberTruth n (-bound ≤ n ∧ n < bound)
  | .real x => match x.whole? with
    | some n => numberTruth n (-bound < n ∧ n < bound)
    | none => .error .notATruth
  | _ => .error .notATruth

def checkDebug (v : Toml.Value) : Except (List Issue) Bool :=
  match truthOf v with
  | .ok b => .ok b
  | .error kind => .error [⟨kind, "debug", none, v⟩]

def fromVariables? (vars : Entries String String) (name : String) : Option String :=
  (vars.reverse.find? fun e => Text.lower e.1 = name).map Prod.snd

def entry? (table : Toml.Table) (key : String) : Option Toml.Value :=
  (table.find? fun e => Text.lower e.1 = key).map Prod.snd

def raw? (vars : Entries String String) (table : Toml.Table) (setting : String) :
    Option Toml.Value :=
  match fromVariables? vars ("fieldprop_" ++ setting) with
  | some s => some (.text s)
  | none => entry? table setting

def unknownKeys (table : Toml.Table) : List Issue :=
  (table.filter fun e => Text.lower e.1 ≠ "extra_fields" ∧ Text.lower e.1 ≠ "debug").map fun e =>
    ⟨.unknownKey, e.1, none, e.2⟩

def issuesOf {α : Type} : Except (List Issue) α → List Issue
  | .ok _ => []
  | .error issues => issues

def check (vars : Entries String String) (table : Toml.Table) : Except (List Issue) Settings :=
  let fields := match raw? vars table "extra_fields" with
    | some v => checkFields v
    | none => .ok []
  let debug := match raw? vars table "debug" with
    | some v => checkDebug v
    | none => .ok false
  match fields, debug, unknownKeys table with
  | .ok fields, .ok debug, [] => .ok { fields, debug }
  | fields, debug, unknown => .error (issuesOf fields ++ issuesOf debug ++ unknown)

end Settings

end TraceFields
