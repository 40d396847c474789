import FunctionStack.Digest.Blob
import FunctionStack.Failure
import FunctionStack.Storage.Path
import FunctionStack.Value.Basic

/-!
A tree of files and directories and the working directory inside it. Every operation takes a path as text
and answers as a file system does: which component is missing or is no directory decides the error.
-/

namespace FunctionStack

/-- What a file holds: bytes, or a document known by the value it reads as, if it can be read. -/
inductive FileContent where
  | bytes (blob : Blob)
  | document (value : Option Value)

inductive Tree where
  | file (content : FileContent)
  | directory (entries : List (String × Tree))

namespace Tree

def entries : Tree → Table Tree
  | .file _ => []
  | .directory entries => entries

def child? (tree : Tree) (name : String) : Option Tree := tree.entries.find? name

/-- What stands at the end of a way down. -/
def at? : Tree → List String → Option Tree
  | tree, [] => some tree
  | tree, name :: rest => (tree.child? name).bind fun child => child.at? rest

/-- Puts a tree at the end of a way down, with the directories that are missing on it. -/
def put (new : Tree) : Tree → List String → Tree
  | _, [] => new
  | tree, name :: rest =>
    let child := (tree.child? name).getD (.directory [])
    .directory (tree.entries.insert name (put new child rest))

/-- Takes away what stands at the end of a way down. -/
def remove : Tree → List String → Tree
  | tree, [] => tree
  | tree, name :: rest =>
    match tree.child? name with
    | none => tree
    | some child =>
      if rest.isEmpty then .directory (tree.entries.erase name)
      else .directory (tree.entries.insert name (child.remove rest))

end Tree

/-- What stands in one place, apart from what is below it. -/
inductive Node where
  | directory
  | file (content : FileContent)

def Tree.node : Tree → Node
  | .file content => .file content
  | .directory _ => .directory

mutual

/-- Everything in a tree that stands in a place; a directory comes before what it holds. -/
def Tree.nodes (location : List String) : Tree → List (List String × Node)
  | .file content => [(location, .file content)]
  | .directory entries => (location, .directory) :: Tree.nodesOf location entries

def Tree.nodesOf (location : List String) : List (String × Tree) → List (List String × Node)
  | [] => []
  | (name, tree) :: rest => Tree.nodes (location ++ [name]) tree ++ Tree.nodesOf location rest

end

/-- All files there are. Locations are ways down from the root, which is always a directory. -/
structure Files where
  workingDirectory : List String
  root : Tree

namespace Files

def node? (files : Files) (location : List String) : Option Node := (files.root.at? location).map Tree.node

def put (files : Files) (location : List String) (tree : Tree) : Files :=
  { files with root := Tree.put tree files.root location }

def remove (files : Files) (location : List String) : Files :=
  { files with root := files.root.remove location }

def empty (workingDirectory : List String) : Files :=
  (Files.mk workingDirectory (.directory [])).put workingDirectory (.directory [])

def holdsNul (path : String) : Bool := path.toList.contains (Char.ofNat 0)

/-- The names on the way that a path describes, with `.` and `..` among them. -/
def stepsOf (path : String) : List String :=
  ((Text.pieces '/' path.toList).filter (· ≠ [])).map String.ofList

/-- How many bytes one name, and how many a whole path may have. -/
def maximumName : Nat := 255

def maximumPath : Nat := 4095

/-- Walks down from a directory; `.` stays where it is and `..` leads back up, both only from a directory. -/
def walk (files : Files) (path : String) (location : List String) : List String → Except StorageError (List String)
  | [] => .ok location
  | part :: rest =>
    match files.node? location with
    | none => .error (.notFound path)
    | some (.file _) => .error (.notADirectory path)
    | some .directory =>
      if part = "." then walk files path location rest
      else if part = ".." then walk files path location.dropLast rest
      else if maximumName < part.utf8ByteSize then .error (.nameTooLong path)
      else walk files path (location ++ [part]) rest

def startOf (files : Files) (path : Path) : List String :=
  if path.isAbsolute then [] else files.workingDirectory

/-- Where a path leads, whether or not something is there. -/
def locate (files : Files) (path : String) : Except StorageError (List String) :=
  if path.isEmpty then .error (.notFound path)
  else if maximumPath < path.utf8ByteSize then .error (.nameTooLong path)
  else files.walk path (files.startOf (Path.ofText path)) (stepsOf path)

def endsInSlash (path : String) : Bool := path.toList.getLast? = some '/'

/-- What a path leads to; a path that ends in a slash must lead to a directory. -/
def find (files : Files) (path : String) : Except StorageError Node := do
  let location ← files.locate path
  match files.node? location with
  | none => .error (.notFound path)
  | some .directory => .ok .directory
  | some (.file content) =>
    if endsInSlash path then .error (.notADirectory path) else .ok (.file content)

def isDirectory (files : Files) (path : String) : Bool :=
  match files.find path with
  | .ok .directory => true
  | _ => false

def isFile (files : Files) (path : String) : Bool :=
  match files.find path with
  | .ok (.file _) => true
  | _ => false

def openFile (files : Files) (path : String) : Except StorageError FileContent := do
  match ← files.find path with
  | .directory => .error (.isDirectory path)
  | .file content => .ok content

def read (files : Files) (path : String) : Result FileContent :=
  if holdsNul path then fault .badValue
  else match files.openFile path with
    | .ok content => .ok content
    | .error reason => .error (.storage reason)

/-- A new or replaced file; its directory must exist. -/
def writeAt (files : Files) (path : String) (content : FileContent) : Except StorageError Files := do
  let location ← files.locate path
  match files.node? location with
  | some .directory => .error (.isDirectory path)
  | some (.file _) =>
    if endsInSlash path then .error (.notADirectory path) else .ok (files.put location (.file content))
  | none =>
    if endsInSlash path then .error (.isDirectory path)
    else match files.node? location.dropLast with
      | some .directory => .ok (files.put location (.file content))
      | some (.file _) => .error (.notADirectory path)
      | none => .error (.notFound path)

def write (files : Files) (path : String) (content : FileContent) : Result Files :=
  if holdsNul path then fault .badValue
  else match files.writeAt path content with
    | .ok written => .ok written
    | .error reason => .error (.storage reason)

def delete (files : Files) (path : String) : Except StorageError Files := do
  let location ← files.locate path
  match ← files.find path with
  | .directory => .error (.isDirectory path)
  | .file _ => .ok (files.remove location)

def makeDirectory (files : Files) (path : String) : Except StorageError Files := do
  let location ← files.locate path
  match files.node? location with
  | some _ => .error (.alreadyExists path)
  | none => match files.node? location.dropLast with
    | some .directory => .ok (files.put location (.directory []))
    | some (.file _) => .error (.notADirectory path)
    | none => .error (.notFound path)

/-- Goes down from a directory that has been reached and makes every directory on the way that is missing. -/
def makeMissing (files : Files) (reached : Path) (location : List String) :
    List String → Except StorageError Files
  | [] => .ok files
  | part :: rest =>
    let path := { reached with parts := reached.parts ++ [part] }
    let next := location ++ [part]
    if part = ".." then makeMissing files path location.dropLast rest
    else if maximumName < part.utf8ByteSize then .error (.nameTooLong path.toText)
    else match files.node? next with
      | some .directory => makeMissing files path next rest
      | some (.file _) => .error (.alreadyExists path.toText)
      | none => makeMissing (files.put next (.directory [])) path next rest

/-- Makes a directory with all directories above it; it may be there already. -/
def ensureDirectories (files : Files) (path : Path) : Except StorageError Files :=
  match files.makeDirectory path.toText with
  | .ok made => .ok made
  | .error (.notFound _) => files.makeMissing ⟨path.slashes, []⟩ (files.startOf path) path.parts
  | .error reason => if files.isDirectory path.toText then .ok files else .error reason

def ensureParents (files : Files) (path : Path) : Except StorageError Files :=
  files.ensureDirectories path.parent

/-- Places a file or a directory, with the directories above it. What is in the directory stays. -/
def place (files : Files) (path : String) (node : Node) : Files :=
  let target := Path.ofText path
  let location := files.startOf target ++ target.parts
  match node with
  | .file content => files.put location (.file content)
  | .directory => match files.node? location with
    | some .directory => files
    | _ => files.put location (.directory [])

/-- The absolute path without `..` components. -/
def resolve (files : Files) (path : String) : Path :=
  let target := Path.ofText path
  let steps := files.startOf target ++ target.parts
  ⟨1, steps.foldl (fun parts part => if part = ".." then parts.dropLast else parts ++ [part]) []⟩

end Files

end FunctionStack
