import FunctionStack.Command.Run

/-!
The command line on the files below the working directory. No object storage and no registry can be reached
from here, so that only local artifacts and pinned images compile.
-/

namespace FunctionStack.CommandLine

/-- The given entries of a directory with all that is below them; `depth` bounds the nesting. -/
def readEntries : Nat → List IO.FS.DirEntry → IO (List (String × Node))
  | 0, _ => return []
  | _, [] => return []
  | depth + 1, entry :: rest => do
    let path := entry.path.toString
    let found ← if ← entry.path.isDir then do
        let below ← readEntries depth (← entry.path.readDir).toList
        pure ((path, Node.directory) :: below)
      else do
        let data ← IO.FS.readBinFile path
        pure [(path, Node.file (.bytes (.ofBytes data)))]
    return found ++ (← readEntries (depth + 1) rest)

def maximumDepth : Nat := 64

def readFiles : IO Files := do
  let here ← IO.currentDir
  let entries ← readEntries maximumDepth (← here.readDir).toList
  return entries.foldl (fun files (path, node) => files.place path node)
    (Files.empty (Path.ofText here.toString).parts)

def isUnchanged (before : Files) (location : List String) (data : Bytes) : Bool :=
  match before.node? location with
  | some (.file (.bytes old)) => old.data == data
  | _ => false

def writeNode (before : Files) (location : List String) (node : Node) : IO Unit := do
  let path := (Path.mk 1 location).toText
  match node with
  | .directory => if (before.node? location).isNone then IO.FS.createDir path
  | .file (.bytes blob) => if !isUnchanged before location blob.data then IO.FS.writeBinFile path blob.data
  | .file (.document _) => return ()

/-- Writes what a command has changed; a directory comes before what it holds. -/
def writeFiles (before after : Files) : IO Unit := do
  for (location, node) in Tree.nodes [] after.root do
    writeNode before location node

def unreachable : Surroundings where
  store := ⟨false, fun _ => .stalled⟩
  registry := ⟨false, fun _ => .error ""⟩
  wording := Wording.plain

def failureText : Failure → String
  | .rejected error => error.message Wording.plain
  | .invalid issues => Wording.plain.issues issues
  | .faulty fault => fault.text
  | .storage reason => reason.text
  | .undecodable => "a file holds no text"
  | .unparsable => Wording.plain.unparsable
  | .invalidJson => "a file holds no JSON"

def endingText : Ending → String
  | .misused misuse => s!"Error: {misuse.text}\n"
  | .crashed failure => s!"Error: {failureText failure}\n"
  | _ => ""

end FunctionStack.CommandLine

open FunctionStack CommandLine in
def main (arguments : List String) : IO UInt32 := do
  let files ← readFiles
  let (ending, console) := Command.run unreachable files arguments
  writeFiles files console.files
  IO.print console.output
  IO.eprint (console.report ++ endingText ending)
  return ending.exitCode.toUInt32
