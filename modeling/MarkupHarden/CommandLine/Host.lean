import MarkupHarden.Fault

/-!
# Hosts

A run reads and writes through a host, which is an argument of it.  `Directory`
is a host that holds its files in memory.
-/

namespace MarkupHarden.CommandLine

/-- What a run needs from its surroundings. -/
structure Host (m : Type → Type) where
  readInput : m (Except FileFault (List UInt8))
  readFile : String → m (Except FileFault (List UInt8))
  writeFile : String → String → m (Except FileFault Unit)
  writeOutput : String → m Unit
  writeError : String → m Unit

/-- Files without directories among them, with the standard streams. -/
structure Directory where
  files : List (String × List UInt8) := []
  input : List UInt8 := []
  output : String := ""
  errors : String := ""
  deriving Repr

namespace Directory

def find? (directory : Directory) (name : String) : Option (List UInt8) :=
  (directory.files.find? fun file => file.1 = name).map Prod.snd

def has (directory : Directory) (name : String) : Bool :=
  (directory.find? name).isSome

/-- The parts of a path, without those that stay where they are. -/
def partsOf (path : String) : List String :=
  ((path.toList.splitOn '/').map String.ofList).filter fun part =>
    part ≠ "" && part ≠ "."

/-- The name of the file at a path, which need not exist yet. -/
def locate (directory : Directory) (path : String) :
    Except FileFault String :=
  if path.isEmpty then .error .missing
  else
    match partsOf path with
    | [] | [".."] => .error .isDirectory
    | [name] =>
        if path.toList.head? = some '/' then .error .missing
        else if path.toList.getLast? = some '/' then
          .error (if directory.has name then .notDirectory else .missing)
        else .ok name
    | name :: _ =>
        .error (if directory.has name then .notDirectory else .missing)

/-- Writes a file, in its old place when it exists. -/
def put (name : String) (content : List UInt8) :
    List (String × List UInt8) → List (String × List UInt8)
  | [] => [(name, content)]
  | file :: rest =>
      if file.1 = name then (name, content) :: rest
      else file :: put name content rest

def readFile (directory : Directory) (path : String) :
    Except FileFault (List UInt8) := do
  let name ← directory.locate path
  match directory.find? name with
  | some content => .ok content
  | none => .error .missing

def writeFile (directory : Directory) (path text : String) :
    Except FileFault Unit × Directory :=
  match directory.locate path with
  | .error fault => (.error fault, directory)
  | .ok name =>
      (.ok (),
        { directory with
          files := put name text.toUTF8.toList directory.files })

/-- The host whose state is a directory. -/
def host : Host (StateM Directory) where
  readInput := do return .ok (← get).input
  readFile := fun path => do return (← get).readFile path
  writeFile := fun path text => modifyGet (·.writeFile path text)
  writeOutput := fun text =>
    modify fun directory =>
      { directory with output := directory.output ++ text }
  writeError := fun text =>
    modify fun directory =>
      { directory with errors := directory.errors ++ text }

end Directory

end MarkupHarden.CommandLine
