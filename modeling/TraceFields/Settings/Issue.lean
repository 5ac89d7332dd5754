import TraceFields.Toml.Value

namespace TraceFields

inductive IssueKind where
  | notAList
  | notAText
  | blankName
  | unclearTruth
  | notATruth
  | unknownKey
deriving DecidableEq, Repr

def IssueKind.code : IssueKind → String
  | .notAList => "list_type"
  | .notAText => "string_type"
  | .blankName => "value_error"
  | .unclearTruth => "bool_parsing"
  | .notATruth => "bool_type"
  | .unknownKey => "extra_forbidden"

def IssueKind.message : IssueKind → String
  | .notAList => "Input should be a valid list"
  | .notAText => "Input should be a valid string"
  | .blankName => "Value error, extra field names must be non-empty"
  | .unclearTruth => "Input should be a valid boolean, unable to interpret input"
  | .notATruth => "Input should be a valid boolean"
  | .unknownKey => "Extra inputs are not permitted"

structure Issue where
  kind : IssueKind
  setting : String
  index : Option Nat := none
  input : Toml.Value
deriving Repr

end TraceFields
