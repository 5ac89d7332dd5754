import TraceFields.Fault
import TraceFields.Files
import TraceFields.Settings.Check
import TraceFields.Toml.Document

/-!
Settings from their sources: a configuration file, looked for in the working folder and then in the
home folder, and environment variables, which win over the file.
-/

namespace TraceFields

inductive Home where
  | folder
  | path (path : String)
  | nowhere
deriving DecidableEq, Repr

/-- The keys of a section that are no settings but options of how settings are made. They begin with
an underscore. A section with such keys is merged with the variables in a way of its own, or not at
all. -/
structure Options where
  takes : String → Bool
  begins : ∀ key, takes key = true → key.toList.head? = some '_'
  merge : Toml.Table → Entries String String → Except Fault Toml.Table

def Options.none : Options where
  takes _ := false
  begins _ h := nomatch h
  merge table _ := .ok table

structure Sources where
  files : Files := {}
  work : Folder
  home : Folder
  vars : Entries String String := []
  homeAt : Home := .folder
  limits : Toml.Limits := {}
  options : Options := .none

namespace Sources

def homeVariable : String := "HOME"

def writeFile (s : Sources) (path : String) (data : Option ByteArray) : Except Fault Sources :=
  if Files.hasNull path then .error .badName
  else match s.files.writePath path data with
    | .ok files => .ok { s with files }
    | .error obstacle => .error (.blocked obstacle)

def setVariable (s : Sources) (name : String) (value : Option String) : Except Fault Sources :=
  let s := if name = homeVariable then { s with homeAt := (value.map Home.path).getD .nowhere } else s
  match value with
  | none => .ok { s with vars := s.vars.without name }
  | some value =>
    if name.toList.contains '=' || Files.hasNull name || Files.hasNull value then .error .badName
    else if name = "" then .error .badPath
    else .ok { s with vars := s.vars.put name value }

def ofLists (work home : Folder) (files : List (String × ByteArray))
    (vars : List (String × String)) : Except Fault Sources := do
  let start := (({} : Files).addFolder work.location).addFolder home.location
  let s ← files.foldlM (fun s e => s.writeFile e.1 (some e.2))
    { files := start, work, home : Sources }
  vars.foldlM (fun s e => s.setVariable e.1 (some e.2)) s

structure Target where
  shown : String
  location : Except Astray Location

def standard (folder : Folder) (name : String) : Target :=
  ⟨folder.name ++ "/" ++ name, .ok (folder.location ++ [name])⟩

def target (s : Sources) (path : String) : Target := ⟨path, s.files.locate s.work.location path⟩

def homeTarget? (s : Sources) (name : String) : Except Fault (Option Target) :=
  match s.homeAt with
  | .folder => .ok (some (standard s.home name))
  | .nowhere | .path "" => .ok none
  | .path path => if path.toList.head? = some '~' then .error .homeless
      else .ok (some (s.target (Files.joined path name)))

def contents? (s : Sources) (t : Target) : Except Fault (Option ByteArray) :=
  match t.location with
  | .ok at_ => .ok (s.files.read? at_)
  | .error .tooLong => .error .badPath
  | .error _ => .ok none

def isFile (s : Sources) (t : Target) : Except Fault Bool := (s.contents? t).map Option.isSome

def find? (s : Sources) : Except Fault (Option Target) := do
  let here := standard s.work "fieldprop.toml"
  -- it has to be known where home is even if the first file is there
  let atHome ← s.homeTarget? ".fieldprop.toml"
  if ← s.isFile here then return some here
  match atHome with
  | none => pure none
  | some t => pure (if ← s.isFile t then some t else none)

def choose? (s : Sources) : Option String → Except Fault (Option Target)
  | none | some "" => s.find?
  | some path => .ok (some (s.target path))

def readTable (limits : Toml.Limits) (path : String) (data : ByteArray) : Except Fault Toml.Table :=
  match String.fromUTF8? data with
  | none => .error .encoding
  | some text => match Toml.parse limits text with
    | .ok table => .ok table
    | .error .malformed => .error (.config (.malformedDocument path))
    | .error .tooDeep => .error .depth
    | .error .tooLong => .error .numeral

def table (s : Sources) (t : Target) : Except Fault Toml.Table := do
  match ← s.contents? t with
  | none => pure []
  | some data => readTable s.limits t.shown data

def wholeTable (s : Sources) : (path : Option String) → Except Fault Toml.Table
  | none => .error .wrongType
  | some path => s.table (s.target path)

def chosenTable (s : Sources) (configFile : Option String) :
    Except Fault (String × Toml.Table) := do
  match ← s.choose? configFile with
  | none => pure ("", [])
  | some t => pure (t.shown, ← s.table t)

def loadedPath? (s : Sources) (configFile : Option String) : Option String :=
  match s.chosenTable configFile with
  | .ok (path, _ :: _) => some path
  | _ => none

end Sources

namespace Settings

def section? (document : Toml.Table) : Option Toml.Table :=
  match Entries.at? document "propagation" with
  | none => some []
  | some (.table t) => some t
  | some v => if v.isVoid then some [] else none

def checked (vars : Entries String String) (table : Toml.Table) : Except Fault Settings :=
  match check vars table with
  | .ok settings => .ok settings
  | .error issues => .error (.config (.invalidSettings issues))

def ofSection (s : Sources) (table : Toml.Table) : Except Fault Settings :=
  if table.any fun e => s.options.takes e.1 then (s.options.merge table s.vars).bind (checked [])
  else checked s.vars table

def ofDocument (s : Sources) (path : String) (document : Toml.Table) : Except Fault Settings :=
  match section? document with
  | none => .error (.config (.sectionNotTable path))
  | some table => ofSection s table

def load (s : Sources) (configFile : Option String) : Except Fault Settings := do
  let (path, document) ← s.chosenTable configFile
  ofDocument s path document

end Settings

end TraceFields
