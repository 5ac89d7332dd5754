import TraceFields.Propagation.Naming
import TraceFields.Settings.Load

/-!
The registration of a process: one field scheme and one resolver, made together from arguments and
settings and cleared together, the debug flag, and the log.
-/

namespace TraceFields

inductive LogLevel where
  | debug
  | warning
deriving DecidableEq, Repr

structure LogRecord where
  level : LogLevel
  text : String
deriving DecidableEq, Repr

/-- What is registered, in the forms `σ` and `ρ` in which the process holds schemes and resolvers,
and the log. It takes debug records when `verbose`, which stays on once it is on. -/
structure Registration (σ ρ : Type) where
  scheme : Option σ := none
  resolver : Option ρ := none
  debug : Bool := false
  verbose : Bool := false
  log : List LogRecord := []

structure SetupArguments where
  fields : Option Datum := none
  delegate : Option Scheme := none
  configFile : Option String := none
  debug : Option Bool := none

namespace Registration

variable {σ ρ : Type}

def note (r : Registration σ ρ) (level : LogLevel) (text : String) : Registration σ ρ :=
  if level = .warning ∨ r.verbose then { r with log := r.log ++ [⟨level, text⟩] } else r

def chooseNames (passed : Option Datum) (settings : Settings) : Except Fault (List Datum) :=
  match passed with
  | none => .ok (settings.fields.map .text)
  | some d => match d.items? with
    | some items => .ok items
    | none => .error .wrongType

def buildScheme (args : SetupArguments) (settings : Settings) : Except Fault FieldScheme :=
  match chooseNames args.fields settings with
  | .error fault => .error fault
  | .ok [] => .error (.config .nothingConfigured)
  | .ok names => FieldScheme.ofArguments (some (args.delegate.getD .identity)) [.list names]

def register (r : Registration σ ρ) (scheme : σ) (resolver : ρ) (debug : Bool) : Registration σ ρ :=
  { r with scheme := some scheme, resolver := some resolver, debug, verbose := r.verbose || debug }

def repeatedLine : String :=
  "fieldprop.init() called more than once; call reset() first to reconfigure"

def readyLine (scheme : FieldScheme) : String :=
  "fieldprop initialized with extra fields: " ++ Text.joined ", " scheme.names

def noteLoaded (r : Registration σ ρ) (sources : Sources) (configFile : Option String) :
    Registration σ ρ :=
  match sources.loadedPath? configFile with
  | some path => r.note .debug ("Loaded fieldprop config from " ++ path)
  | none => r

def init (r : Registration σ ρ) (sources : Sources) (args : SetupArguments)
    (hold : FieldScheme → σ) (fresh : ρ) : Except Fault σ × Registration σ ρ :=
  match r.scheme with
  | some scheme => (.ok scheme, r.note .warning repeatedLine)
  | none =>
    let r := r.noteLoaded sources args.configFile
    match Settings.load sources args.configFile with
    | .error fault => (.error fault, r)
    | .ok settings =>
      match buildScheme args settings with
      | .error fault => (.error fault, r)
      | .ok scheme =>
        let held := hold scheme
        let r := (r.note .debug scheme.announcement).register held fresh
          (args.debug.getD settings.debug)
        (.ok held, r.note .debug (readyLine scheme))

def reset (r : Registration σ ρ) : Registration σ ρ :=
  { r with scheme := none, resolver := none, debug := false }

end Registration

end TraceFields
