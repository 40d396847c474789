import FunctionStack.Naming
import FunctionStack.Storage.Hashing
import FunctionStack.Template.Graph
import FunctionStack.Template.Intrinsic
import FunctionStack.Version.Generation

/-!
The digest of a function version: its code, the code of the layers of the same template that it uses, and its
configuration, without what applies to the function as a whole and without where code is stored.
-/

namespace FunctionStack

structure VersionDigest where
  value : String
  codeHash : String

namespace Version

/-- Layers are listed; anything else that can be walked through holds none. -/
def layerEntries (properties : Fields) : Result (List Value) :=
  match ((Table.find? properties "Layers").getD .null).orElse (.arr []) with
  | .arr items => .ok items
  | .obj _ => .ok []
  | .str _ => .ok []
  | _ => fault .wrongType

/-- The properties of a layer without the place where its code is stored. -/
def layerProperties : Value → Result Fields
  | .obj fields => match Table.find? fields "Content" with
    | none => .ok fields
    | some (.obj content) => .ok (Table.insert fields "Content" (.obj (Table.erase content "S3Key")))
    | some (.arr _) => fault .wrongType
    | some _ => fault .noSuchMember
  | _ => fault .noSuchMember

/-- The resource a layer entry refers to; an entry without a reference lies outside the template. -/
def layerResource? (graph : Graph) (entry : Value) : Result (Option (String × Resource)) :=
  match entry.field? "Ref" with
  | none => .ok none
  | some (.str id) => .ok ((graph.find? id).map (id, ·))
  | some ref => if ref.isKey then .ok none else fault .wrongType

def layerSnapshot (layerArtifact : String → Result String) (id : String) (resource : Resource) :
    Result LayerSnapshot := do
  let properties ← layerProperties resource.properties
  match Text.given resource.source with
  | none => return ⟨id, id, properties, none⟩
  | some source =>
    let artifact ← layerArtifact source
    return ⟨source, id, properties, some artifact⟩

def snapshotsOf (layerArtifact : String → Result String) (graph : Graph) :
    List Value → Result (List LayerSnapshot)
  | [] => .ok []
  | entry :: rest => do
    match ← layerResource? graph entry with
    | none => snapshotsOf layerArtifact graph rest
    | some (id, resource) =>
      let snapshot ← layerSnapshot layerArtifact id resource
      let others ← snapshotsOf layerArtifact graph rest
      return snapshot :: others

def layerSnapshots (layerArtifact : String → Result String) (properties : Fields) (graph : Graph) :
    Result (List LayerSnapshot) := do
  let entries ← layerEntries properties
  snapshotsOf layerArtifact graph entries

/-- Settings of the function as a whole, which no version holds. -/
def globalProperties : List String := ["ReservedConcurrentExecutions", "Tags"]

def canonicalProperties (properties : Fields) (isImage : Bool) : Fields :=
  let kept := if isImage then properties else Table.erase properties "Code"
  globalProperties.foldl Table.erase kept

/-- What a file contributes to a digest: its bytes, or the text of their hash. -/
def contribution (blob : Blob) : Generation → Bytes
  | .legacy => blob.data
  | .current => Digest.textBytes blob.hash.get

def fileParts (files : Files) (generation : Generation) : List String → Result Bytes
  | [] => .ok .empty
  | path :: rest => do
    let blob ← files.readBlob path
    let others ← fileParts files generation rest
    return contribution blob generation ++ others

/-- The hash of the code and what the code contributes to the digest; an image is known by its digest alone. -/
def codePart (files : Files) (generation : Generation) (artifact imageDigest : Option String) :
    Result (String × Bytes) :=
  match Text.given imageDigest, artifact with
  | some digest, _ => .ok (digest, .empty)
  | none, none => fault .wrongType
  | none, some path => do
    let blob ← files.readBlob path
    return (blob.hash.get, contribution blob generation)

def digest (files : Files) (generation : Generation) (layerArtifact : String → Result String)
    (properties : Fields) (graph : Graph) (artifact imageDigest : Option String) :
    Result VersionDigest := do
  let layers ← layerSnapshots layerArtifact properties graph
  let (codeHash, code) ← codePart files generation artifact imageDigest
  let paths := layers.filterMap fun layer => Text.given layer.artifact
  let layerCode ← fileParts files generation (Text.sorted paths)
  let configuration := generation.serialize (canonicalProperties properties imageDigest.isSome) layers
  let data := code ++ (layerCode ++ Digest.textBytes configuration)
  return ⟨Digest.contentHash data, codeHash⟩

def id (name : String) (digest : VersionDigest) : String := Naming.version name digest.value

/-- A version is kept for as long as its function, whatever becomes of the template. -/
def resource (name : String) (digest : VersionDigest) (description : Option String) : Resource :=
  { Resource.make "AWS::Lambda::Version" ([
      ("FunctionName", Intrinsic.ref (Naming.function name)),
      ("CodeSha256", .str digest.codeHash)] ++
      match Text.given description with
      | some text => [("Description", .str text)]
      | none => []) (some name) with
    deletionPolicy := Resource.retainPolicy }

end Version

end FunctionStack
