import TraceFields.Propagation.Fields
import TraceFields.Text.Lower

namespace TraceFields

def canonicalName (name : String) : String := Text.lower name

def canonicalNameOf : Option String → Except Fault String
  | some name => .ok (canonicalName name)
  | none => .error .absent

def canonicalNames (names : List String) : List String := (names.map canonicalName).eraseDups

def nameTexts : List Datum → Except Fault (List String)
  | [] => .ok []
  | .text s :: ds => (nameTexts ds).map (s :: ·)
  | d :: _ => .error (.config (.nameNotText d))

namespace FieldScheme

def ofTexts (delegate : Scheme) (names : List String) : Except Fault FieldScheme :=
  match canonicalNames names with
  | [] => .error (.config .noNames)
  | names => .ok { delegate, names }

def ofCollection (delegate : Option Scheme) (names : Datum) : Except Fault FieldScheme :=
  match delegate with
  | none => .error (.config .delegateRequired)
  | some delegate =>
    match names with
    | .nothing => .error (.config .namesRequired)
    | names =>
      match names.items? with
      | none => .error .wrongType
      | some items =>
        match nameTexts items with
        | .ok texts => ofTexts delegate texts
        | .error fault => .error fault

def ofArguments (delegate : Option Scheme) : List Datum → Except Fault FieldScheme
  | [.text s] => ofCollection delegate (.list [.text s])
  | [names] => ofCollection delegate names
  | names => ofCollection delegate (.list names)

end FieldScheme

end TraceFields
