import FunctionStack.Storage.Files
import FunctionStack.Text.Listing
import FunctionStack.Value.Json

/-!
Content hashes of files, and a memory of them. The memory holds what a path hashed to when it was first
read; only clearing it makes it read again.
-/

namespace FunctionStack

/-- A document is read as its JSON text. -/
def FileContent.toBlob : FileContent → Blob
  | .bytes blob => blob
  | .document value => .ofText ((value.getD .null).toJson .spaced)

namespace Files

def readBlob (files : Files) (path : String) : Result Blob :=
  match files.read path with
  | .ok content => .ok content.toBlob
  | .error (.storage reason) => reject (.artifactUnreadable reason)
  | .error failure => .error failure

def hash (files : Files) (path : String) : Result String := do
  let blob ← files.readBlob path
  return blob.hash.get

end Files

/-- Remembered hashes by path. -/
structure HashMemory where
  known : Table String

namespace HashMemory

def empty : HashMemory := ⟨[]⟩

def hash (memory : HashMemory) (files : Files) (path : String) : Result String × HashMemory :=
  match memory.known.find? path with
  | some value => (.ok value, memory)
  | none =>
    match files.hash path with
    | .ok value => (.ok value, ⟨memory.known.insert path value⟩)
    | .error failure => (.error failure, memory)

/-- Hashes several paths; one that cannot be read is left out. -/
def warmAll (files : Files) : List String → HashMemory → Result (Table String) × HashMemory
  | [], memory => (.ok [], memory)
  | path :: rest, memory =>
    match memory.hash files path with
    | (.ok value, memory) =>
      let (found, memory) := warmAll files rest memory
      (found.map ((path, value) :: ·), memory)
    | (.error (.rejected _), memory) => warmAll files rest memory
    | (.error failure, memory) => (.error failure, (warmAll files rest memory).2)

/-- Hashes the distinct paths with a number of workers, which must not be zero. -/
def warm (memory : HashMemory) (files : Files) (paths : List String) (workers : Option Int) :
    Result (Table String) × HashMemory :=
  if paths.isEmpty then (.ok [], memory)
  else if workers.any (· ≤ 0) then (fault .badValue, memory)
  else warmAll files (Text.sorted (Text.distinct paths)) memory

end HashMemory

namespace Files

/-- The contents of several files behind one another. -/
def stream (files : Files) : List String → Result Bytes
  | [] => .ok .empty
  | path :: rest => do
    let blob ← files.readBlob path
    let others ← stream files rest
    return blob.data ++ others

end Files

end FunctionStack
