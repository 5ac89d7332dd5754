import TraceFields.Files
import TraceFields.Report
import TraceFields.Settings.Issue

namespace TraceFields

inductive ConfigFault where
  | delegateRequired
  | namesRequired
  | nameNotText (name : Datum)
  | noNames
  | nothingConfigured
  | malformedDocument (path : String)
  | sectionNotTable (path : String)
  | invalidSettings (issues : List Issue)

inductive CallFault where
  | contextRequired
  | nameRequired
  | valueRequired (name : String)
deriving DecidableEq

inductive Fault where
  | config (cause : ConfigFault)
  | call (cause : CallFault)
  | numeral
  | badName
  | frozen
  | wrongSize
  | wrongType
  | absent
  | unsupported
  | encoding
  | badPath
  | blocked (by_ : Obstacle)
  | homeless
  | raised
  | busy
  | unbound
  | depth

def ConfigFault.report : ConfigFault → Report
  | .delegateRequired => ⟨"delegate propagation factory is required", []⟩
  | .namesRequired => ⟨"extra field names are required", []⟩
  | .nameNotText name => ⟨"extra field names must be strings", [("name", name)]⟩
  | .noNames => ⟨"at least one extra field name is required", []⟩
  | .nothingConfigured =>
    ⟨"No extra fields configured",
      [("hint", .text "pass extra_fields or set propagation.extra_fields")]⟩
  | .malformedDocument path => ⟨"Invalid TOML config file", [("path", .text path)]⟩
  | .sectionNotTable path => ⟨"[propagation] must be a table", [("path", .text path)]⟩
  | .invalidSettings _ => ⟨"Invalid fieldprop configuration", []⟩

def CallFault.report : CallFault → Report
  | .contextRequired => ⟨"context is required", []⟩
  | .nameRequired => ⟨"name is required", []⟩
  | .valueRequired name => ⟨"value is required", [("name", .text name)]⟩

end TraceFields
