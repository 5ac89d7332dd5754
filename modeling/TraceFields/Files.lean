import TraceFields.Entries
import TraceFields.Text.Split

/-!
A tree of files and the paths into it.
-/

namespace TraceFields

abbrev Location := List String

structure Files where
  contents : Entries Location ByteArray := []
  folders : List Location := [[]]

structure Folder where
  name : String
  location : Location

inductive Astray where
  | missing
  | passage
  | tooLong
deriving DecidableEq, Repr

inductive Obstacle where
  | folder
  | file
  | astray (why : Astray)
deriving DecidableEq, Repr

namespace Files

def parents (at_ : Location) : List Location := (List.range at_.length).map at_.take

def isFolder (fs : Files) (at_ : Location) : Bool := fs.folders.contains at_

def addFolder (fs : Files) (at_ : Location) : Files :=
  { fs with folders := at_ :: parents at_ ++ fs.folders }

def write (fs : Files) (at_ : Location) (data : ByteArray) : Files :=
  { contents := fs.contents.put at_ data, folders := parents at_ ++ fs.folders }

def remove (fs : Files) (at_ : Location) : Files := { fs with contents := fs.contents.without at_ }

def read? (fs : Files) (at_ : Location) : Option ByteArray := fs.contents.at? at_

def longestName : Nat := 255

def longestPath : Nat := 4095

def isLongName (name : String) : Bool := longestName < name.utf8ByteSize

def hasNull (text : String) : Bool := text.toList.contains '\x00'

def steps (path : String) : List String := (Text.splitOn '/' path).filter fun s => s ≠ "" ∧ s ≠ "."

def lead (path : String) : String :=
  match path.toList.takeWhile (· = '/') with
  | [] => ""
  | [_, _] => "//"
  | _ => "/"

def plainPath (path : String) : String := lead path ++ Text.joined "/" (steps path)

def joined (path name : String) : String := lead path ++ Text.joined "/" (steps path ++ [name])

def stray : List String → Astray
  | [] => .missing
  | s :: rest => if isLongName s then .tooLong else if s = ".." then stray rest else .missing

def walk (fs : Files) : Location → List String → Except Astray Location
  | here, [] => .ok here
  | here, s :: rest =>
    if !fs.isFolder here then .error (if (fs.read? here).isSome then .passage else .missing)
    else if isLongName s then .error .tooLong
    else if s = ".." then if here = [] then .error (stray rest) else fs.walk here.dropLast rest
    else fs.walk (here ++ [s]) rest

def locate (fs : Files) (from_ : Location) (path : String) : Except Astray Location :=
  if hasNull path then .error .missing
  else if longestPath < (plainPath path).utf8ByteSize then .error .tooLong
  else if lead path = "" then fs.walk from_ (steps path)
  else .error (stray (steps path))

def makeWay (fs : Files) : Location → List String → Except Obstacle (Files × Location)
  | here, [] => .ok (fs, here)
  | here, s :: rest =>
    if isLongName s then .error (.astray .tooLong)
    else if s = ".." then fs.makeWay here.dropLast rest
    else if (fs.read? (here ++ [s])).isSome then .error
      (if rest = [] then .file else .astray .passage)
    else (fs.addFolder (here ++ [s])).makeWay (here ++ [s]) rest

def writeAt (fs : Files) (steps : List String) (data : ByteArray) : Except Obstacle Files := do
  let (fs, here) ← fs.makeWay [] steps.dropLast
  match steps.getLast? with
  | none | some ".." => throw .folder
  | some name =>
    if isLongName name then throw (.astray .tooLong)
    if fs.isFolder (here ++ [name]) then throw .folder
    pure (fs.write (here ++ [name]) data)

def removeAt (fs : Files) (steps : List String) : Except Obstacle Files :=
  match fs.walk [] steps with
  | .ok at_ =>
    if fs.isFolder at_ then .error .folder
    else if (fs.read? at_).isSome then .ok (fs.remove at_)
    else .error (.astray .missing)
  | .error why => .error (.astray why)

def writePath (fs : Files) (path : String) (data : Option ByteArray) : Except Obstacle Files :=
  match data with
  | none => fs.removeAt (steps path)
  | some data =>
    if path.toList.getLast? = some '/' then (fs.makeWay [] (steps path)).map Prod.fst
    else fs.writeAt (steps path) data

end Files

end TraceFields
