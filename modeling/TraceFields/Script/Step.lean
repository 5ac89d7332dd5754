import TraceFields.Carrier
import TraceFields.Propagation.Identity
import TraceFields.Settings.Load
import TraceFields.Text.Upper

/-!
Scripts: sequences of steps that work on named values, with bodies that run inside scopes, in
wrapped routines, on other execution units, and as handlers of requests.
-/

namespace TraceFields.Script

abbrev Ref := Option String

inductive Item where
  | marker (text : String)
  | named (name : Ref)

inductive SchemeRef where
  | nothing
  | plain (scheme : Scheme)
  | named (name : String)

inductive KeyRule where
  | same
  | upper
  | pair
  | lead (text : String)
  | constant (text : String)
  | noneFor (name : String)

def KeyRule.factory : KeyRule → KeyFactory
  | .same => .text
  | .upper => fun name => .text (Text.upper name)
  | .pair => fun name => .parts ["header", name]
  | .lead text => fun name => .text (text ++ name)
  | .constant text => fun _ => .text text
  | .noneFor hidden => fun name => if name = hidden then .absent else .text name

structure Reentry where
  context : Ref
  name : Option String
  value : Option String

structure SetterRule where
  failOn : Option Key := none
  reentry : Option Reentry := none

structure GetterRule where
  failOn : Option Key := none

inductive ExtensionSource where
  | items (items : List Item)
  | sharedWith (context : String)

inductive NamesForm where
  | arguments
  | iterable
  | direct

inductive ExtensionKind where
  | store
  | marker

inductive RegistrationEntry where
  | resolver (value : Ref)
  | scheme (value : Ref)
  | debug (value : Bool)

inductive Command where
  | newScheme (delegate : SchemeRef) (names : Datum) (form : NamesForm)
  | create (scheme : SchemeRef) (key : KeyRule)
  | schemeInfo (scheme : SchemeRef)
  | decorate (scheme : SchemeRef) (context : Ref)
  | undefined
  | context (value : TraceContext) (extensions : ExtensionSource)
  | withExtensions (context : Ref) (items : List Item)
  | extraction (context : Ref) (sampled : Option Bool) (items : List Item)
  | attach (extraction : Ref) (item : Item)
  | findExtension (holder : Ref) (kind : ExtensionKind)
  | contextOf (extraction : Ref)
  | equal (a b : Ref)
  | same (a b : Ref)
  | render (value : Ref)
  | newStore
  | storeSet (store : Ref) (name value : Option String)
  | storeGet (store : Ref) (name : Option String)
  | storeText (store : Ref)
  | storeSend (store : Ref) (carrier : Ref) (table : List (String × Key))
      (setter : Option SetterRule)
  | get (context : Ref) (name : Option String)
  | set (context : Ref) (name value : Option String)
  | getActive (name : Option String) (resolver : Ref)
  | setActive (name value : Option String) (resolver : Ref)
  | carrier (items : List (Key × Option String))
  | inject (propagation context carrier : Ref) (setter : Option SetterRule)
  | extract (propagation carrier : Ref) (getter : Option GetterRule)
  | injectHeaders (headers : List (Key × Option String)) (propagation context resolver : Ref)
  | extractHeaders (headers : List (Key × Option String)) (propagation : Ref)
  | resolver
  | enter (resolver context : Ref) (scope : Option String)
  | exit (scope : Option String)
  | active (resolver : Ref) (environment : Ref)
  | capture
  | tagger (resolver : Ref) (names lead : Datum)
  | span (tagger : Ref) (attributes : List (String × Datum)) (parent : Ref)
  | taggerHooks (tagger : Ref)
  | init (fields : Option Datum) (delegate : SchemeRef) (configFile : Option String)
      (debug : Option Bool)
  | reset
  | registeredResolver
  | registration
  | register (entry : RegistrationEntry)
  | loadConfig (configFile : Option String)
  | findConfig
  | writeFile (path : String) (data : Option ByteArray)
  | setVariable (name : String) (value : Option String)

inductive Ending where
  | returns
  | failsFirst
  | failsLast
deriving DecidableEq

instance : Coe Bool Ending where
  coe raises := if raises then .failsFirst else .returns

structure Request (σ : Type) where
  headers : List (Key × Option String)
  keep : Option String
  handler : List σ
  raises : Bool
  response : Datum

inductive Step where
  | command (c : Command) (keep : Option String)
  | scoped (resolver context : Ref) (body : List Step) (raises : Bool)
  | wrap (resolver : Ref) (body : List Step) (ending : Ending) (keep : Option String)
  | call (routine : Ref) (arguments : List Datum)
  | thread (body : List Step)
  | serve (scheme : SchemeRef) (resolver : Ref) (requests : List (Request Step))

def Step.keep? : Step → Option String
  | .command _ keep | .wrap _ _ _ keep => keep
  | _ => none

end TraceFields.Script
