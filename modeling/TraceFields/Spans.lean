import TraceFields.Access
import TraceFields.Ambient

/-!
Tagging spans with fields.
-/

namespace TraceFields

abbrev Attributes := Entries String Datum

def mostAttributes : Nat := 128

mutual

def withoutNameless : Datum → Datum
  | .list items => .list (itemsWithoutNameless items)
  | .table entries => .table (entriesWithoutNameless entries)
  | d => d

def itemsWithoutNameless : List Datum → List Datum
  | [] => []
  | d :: ds => withoutNameless d :: itemsWithoutNameless ds

def entriesWithoutNameless : List (String × Datum) → List (String × Datum)
  | [] => []
  | e :: es => entryWithoutNameless e ++ entriesWithoutNameless es

def entryWithoutNameless : String × Datum → List (String × Datum)
  | (name, d) => if name = "" then [] else [(name, withoutNameless d)]

end

/-- An attribute that is set anew moves to the end. Of too many attributes the first is given up,
and one without a name is not set. -/
def Attributes.set (attributes : Attributes) (name : String) (value : Datum) : Attributes :=
  if name = "" then attributes
  else
    let after := Entries.putLast attributes name (withoutNameless value)
    after.drop (after.length - mostAttributes)

def Attributes.start (pairs : List (String × Datum)) : Attributes :=
  (Entries.ofPairs pairs).foldl (fun acc e => Attributes.set acc e.1 e.2) []

structure SpanTagger (ρ : Type) where
  resolver : ρ
  names : List String
  lead : String := ""

namespace SpanTagger

variable {ρ : Type}

def textsOf : List Datum → Except Fault (List String)
  | [] => .ok []
  | .text s :: ds => (textsOf ds).map (s :: ·)
  | _ :: _ => .error .absent

def ofCollection (resolver : ρ) (names : Datum) (lead : String) : Except Fault (SpanTagger ρ) :=
  match names.items? with
  | none => .error .wrongType
  | some items =>
    match textsOf items with
    | .ok texts => .ok { resolver, names := texts.map canonicalName, lead }
    | .error fault => .error fault

def tag (t : SpanTagger ρ) (heap : Heap) (active : Option TraceContext)
    (attributes : Attributes) : Attributes :=
  match active with
  | none => attributes
  | some c => t.names.foldl (fun acc name =>
      match c.store?.bind fun id => heap.get? id (canonicalName name) with
      | some value => Attributes.set acc (t.lead ++ name) (.text value)
      | none => acc) attributes

end SpanTagger

end TraceFields
