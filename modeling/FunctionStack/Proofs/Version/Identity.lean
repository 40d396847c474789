import FunctionStack.Proofs.Compile.Build
import FunctionStack.Proofs.Digest.Base64
import FunctionStack.Proofs.Text.Listing
import FunctionStack.Proofs.Value.Alike
import FunctionStack.Proofs.Value.Json.Unique
import FunctionStack.Version.Digest

/-!
When two versions of a function have the same digest. The stream that is hashed can be taken apart: the hash of the
code, the hashes of the layers in the order of their paths, and a configuration that begins with a brace.
-/

namespace FunctionStack

/-- The bytes of a file, where it can be read. -/
def Files.bytesAt (files : Files) (path : String) : Bytes :=
  match files.readBlob path with
  | .ok blob => blob.data
  | .error _ => .empty

theorem Files.readBlob_ok (files : Files) (path : String) (blob : Blob) (read : files.readBlob path = .ok blob) :
    blob.hash.get = Digest.contentHash (files.bytesAt path) := by
  rw [Files.bytesAt, read, blob.hash_eq]

namespace Version

open Digest (NoCollision contentHash textBytes)

/-- A digest of a function with a handler, as it is asked for. -/
structure Request where
  files : Files
  layerArtifact : String → Result String
  properties : Fields
  graph : Graph
  artifact : String

namespace Request

def digest (request : Request) : Result VersionDigest :=
  Version.digest request.files .current request.layerArtifact request.properties request.graph
    (some request.artifact) none

def snapshots (request : Request) : List LayerSnapshot :=
  (layerSnapshots request.layerArtifact request.properties request.graph).toOption.getD []

def code (request : Request) : Bytes := request.files.bytesAt request.artifact

/-- The artifact of a layer that the service packages. -/
def ownCode (request : Request) (layer : LayerSnapshot) : Option Bytes :=
  (Text.given layer.artifact).map request.files.bytesAt

/-- The code of the packaged layers, in the order of the paths of their artifacts. -/
def layerCode (request : Request) : List Bytes :=
  (Text.sorted (request.snapshots.filterMap fun layer => Text.given layer.artifact)).map request.files.bytesAt

/-- The properties that a version holds. -/
def configuration (request : Request) : Fields := canonicalProperties request.properties false

def text (request : Request) : String := Generation.current.serialize request.configuration request.snapshots

end Request

/-- Texts behind one another. -/
def joined : List String → String
  | [] => ""
  | text :: rest => text ++ joined rest

/-- What is hashed for a request. -/
def Request.stream (request : Request) : Bytes :=
  textBytes (contentHash request.code ++ (joined (request.layerCode.map contentHash) ++ request.text))

theorem textBytes_append (a b : String) : textBytes (a ++ b) = textBytes a ++ textBytes b := by
  simp only [textBytes, String.toUTF8_eq_toByteArray, String.toByteArray_append]

theorem textBytes_unique (a b : String) (same : textBytes a = textBytes b) : a = b := by
  simpa only [textBytes, String.toUTF8_eq_toByteArray, String.toByteArray_inj] using same

theorem fileParts_ok (files : Files) (paths : List String) (data : Bytes)
    (read : fileParts files .current paths = .ok data) :
    data = textBytes (joined (paths.map fun path => contentHash (files.bytesAt path))) := by
  induction paths generalizing data with
  | nil =>
      cases read
      rfl
  | cons path rest ih =>
      simp only [fileParts, Result.bind_ok, Result.pure_ok] at read
      obtain ⟨blob, found, others, more, rfl⟩ := read
      rw [List.map_cons, joined, textBytes_append, ih others more, contribution,
        Files.readBlob_ok files path blob found]

/-- A digest is the content hash of the stream. -/
theorem digest_ok (request : Request) (result : VersionDigest) (made : request.digest = .ok result) :
    result.value = contentHash request.stream := by
  simp only [Request.digest, Version.digest, Result.bind_ok, Result.pure_ok, Prod.exists] at made
  obtain ⟨layers, listed, codeHash, code, coded, others, read, rfl⟩ := made
  have snapshots : request.snapshots = layers := by
    rw [Request.snapshots, listed]
    rfl
  simp only [codePart, show Text.given none = none from rfl, Result.bind_ok, Result.pure_ok, Prod.mk.injEq] at coded
  obtain ⟨blob, found, rfl, rfl⟩ := coded
  have bytes := fileParts_ok request.files _ others read
  rw [Request.stream, textBytes_append, textBytes_append, Request.layerCode, List.map_map, Request.text,
    Request.configuration, Request.code, ← Files.readBlob_ok request.files _ blob found, snapshots]
  change contentHash (contribution blob .current ++ _) = _
  rw [bytes]
  rfl

/-- A text of the length and the alphabet of a content hash. -/
def IsBlock (text : String) : Prop := text.toList.length = 44 ∧ ∀ c ∈ text.toList, Digest.isBase64Char c = true

theorem contentHash_isBlock (data : Bytes) : IsBlock (contentHash data) :=
  ⟨Digest.contentHash_length data, Digest.contentHash_alphabet data⟩

theorem block_no_brace (text : String) (block : IsBlock text) (rest chars : List Char)
    (same : text.toList ++ rest = Char.ofNat 123 :: chars) : False := by
  cases spelled : text.toList with
  | nil =>
      have length := block.1
      rw [spelled] at length
      cases length
  | cons c tail =>
      rw [spelled, List.cons_append] at same
      have brace := block.2 c (by rw [spelled]; exact List.mem_cons_self ..)
      rw [(List.cons.inj same).1] at brace
      exact absurd brace (by decide +kernel)

/-- Blocks in front of a brace can be told from it and from each other. -/
theorem blocks_unique (first second : List String) (x y : List Char) (blocks : ∀ text ∈ first, IsBlock text)
    (others : ∀ text ∈ second, IsBlock text)
    (same : (joined first).toList ++ Char.ofNat 123 :: x = (joined second).toList ++ Char.ofNat 123 :: y) :
    first = second ∧ x = y := by
  induction first generalizing second with
  | nil =>
      cases second with
      | nil => exact ⟨rfl, (List.cons.inj same).2⟩
      | cons text rest =>
          rw [joined, joined, String.toList_append, List.append_assoc] at same
          exact (block_no_brace text (others text (List.mem_cons_self ..)) _ x same.symm).elim
  | cons text rest ih =>
      cases second with
      | nil =>
          rw [joined, joined, String.toList_append, List.append_assoc] at same
          exact (block_no_brace text (blocks text (List.mem_cons_self ..)) _ y same).elim
      | cons other tail =>
          rw [joined, joined, String.toList_append, String.toList_append, List.append_assoc, List.append_assoc] at same
          have lengths := (blocks text (List.mem_cons_self ..)).1.trans (others other (List.mem_cons_self ..)).1.symm
          obtain ⟨head, more⟩ := List.append_inj same lengths
          obtain ⟨others', rest'⟩ := ih tail (fun text member => blocks text (List.mem_cons_of_mem _ member))
            (fun text member => others text (List.mem_cons_of_mem _ member)) more
          exact ⟨by rw [String.toList_inj.mp head, others'], rest'⟩

theorem serialize_begins (fields : Fields) (layers : List LayerSnapshot) :
    ∃ rest, (Generation.current.serialize fields layers).toList = Char.ofNat 123 :: rest := by
  unfold Generation.serialize Generation.snapshot Value.toJson
  rw [String.toList_ofList, Value.sortKeys]
  cases Value.sortFields _ with
  | nil => exact ⟨_, rfl⟩
  | cons field fields => exact ⟨_, rfl⟩

/-- What is made of blocks in front of a configuration can be taken apart. -/
theorem framed_iff (first second : List String) (blocks : ∀ text ∈ first, IsBlock text)
    (others : ∀ text ∈ second, IsBlock text) (fields own : Fields) (layers theirs : List LayerSnapshot) :
    textBytes (joined first ++ Generation.current.serialize fields layers) =
        textBytes (joined second ++ Generation.current.serialize own theirs) ↔
      first = second ∧ Generation.current.serialize fields layers = Generation.current.serialize own theirs := by
  constructor
  · intro same
    have texts := congrArg String.toList (textBytes_unique _ _ same)
    simp only [String.toList_append] at texts
    obtain ⟨x, begins⟩ := serialize_begins fields layers
    obtain ⟨y, starts⟩ := serialize_begins own theirs
    rw [begins, starts] at texts
    obtain ⟨parts, tail⟩ := blocks_unique first second x y blocks others texts
    exact ⟨parts, String.toList_inj.mp (by rw [begins, starts, tail])⟩
  · rintro ⟨parts, text⟩
    rw [parts, text]

theorem contentHashes_blocks (contents : List Bytes) : ∀ text ∈ contents.map contentHash, IsBlock text := by
  intro text member
  obtain ⟨data, _, rfl⟩ := List.mem_map.mp member
  exact contentHash_isBlock data

/-- Equal streams have equal parts. -/
theorem stream_iff (first second : Request) :
    first.stream = second.stream ↔ contentHash first.code = contentHash second.code ∧
      first.layerCode.map contentHash = second.layerCode.map contentHash ∧ first.text = second.text := by
  have framed (request : Request) :
      request.stream = textBytes (joined ((request.code :: request.layerCode).map contentHash) ++ request.text) := by
    rw [Request.stream, List.map_cons, joined, String.append_assoc]
  rw [framed, framed, Request.text, Request.text,
    framed_iff _ _ (contentHashes_blocks _) (contentHashes_blocks _), List.map_cons, List.map_cons, List.cons.injEq, and_assoc]

/-- Layers under the same name and id, with properties that are alike. -/
def SameLayer (a b : LayerSnapshot) : Prop :=
  a.name = b.name ∧ a.ref = b.ref ∧ (Value.obj a.properties).alike (.obj b.properties) = true

/-- Tables hold no key twice, and numbers have one form. -/
structure Request.IsProper (request : Request) : Prop where
  properties : (Value.obj request.properties).isProper = true
  resources : ∀ id resource, request.graph.find? id = some resource → resource.properties.isProper = true

theorem layerProperties_proper (properties : Value) (fields : Fields) (proper : properties.isProper = true)
    (found : layerProperties properties = .ok fields) : (Value.obj fields).isProper = true := by
  unfold layerProperties at found
  split at found
  case h_1 own =>
    split at found
    · cases found
      exact proper
    case h_2 content placed =>
      cases found
      have inside := ((Value.obj_isProper own).mp proper).2 _ _ (Table.find?_some_mem own "Content" _ placed)
      exact Value.insert_isProper own _ _ proper (Value.erase_isProper content "S3Key" inside)
    · cases found
    · cases found
  case h_2 => cases found

theorem snapshotsOf_proper (layerArtifact : String → Result String) (graph : Graph) (entries : List Value)
    (layers : List LayerSnapshot)
    (proper : ∀ id resource, graph.find? id = some resource → resource.properties.isProper = true)
    (listed : snapshotsOf layerArtifact graph entries = .ok layers) :
    ∀ layer ∈ layers, (Value.obj layer.properties).isProper = true := by
  induction entries generalizing layers with
  | nil =>
      cases listed
      exact fun _ member => by cases member
  | cons entry rest ih =>
      rw [snapshotsOf, Result.bind_ok] at listed
      obtain ⟨found, resolved, listed⟩ := listed
      split at listed
      case h_1 => exact ih layers listed
      case h_2 id resource =>
        simp only [Result.bind_ok, Result.pure_ok] at listed
        obtain ⟨snapshot, taken, others, more, rfl⟩ := listed
        have present : graph.find? id = some resource := by
          unfold layerResource? at resolved
          split at resolved
          · cases resolved
          case h_2 other _ =>
            obtain ⟨target, known, pair⟩ := Option.map_eq_some_iff.mp (Except.ok.inj resolved)
            cases pair
            exact known
          · split at resolved <;> cases resolved
        have held : (Value.obj snapshot.properties).isProper = true := by
          rw [layerSnapshot, Result.bind_ok] at taken
          obtain ⟨properties, kept, made⟩ := taken
          have regular := layerProperties_proper _ properties (proper id resource present) kept
          split at made
          · cases made
            exact regular
          · rw [Result.bind_ok] at made
            obtain ⟨artifact, _, made⟩ := made
            cases made
            exact regular
        intro layer member
        rcases List.mem_cons.mp member with rfl | member
        · exact held
        · exact ih others more layer member

theorem layerSnapshots_proper (layerArtifact : String → Result String) (properties : Fields) (graph : Graph)
    (layers : List LayerSnapshot)
    (proper : ∀ id resource, graph.find? id = some resource → resource.properties.isProper = true)
    (listed : layerSnapshots layerArtifact properties graph = .ok layers) :
    ∀ layer ∈ layers, (Value.obj layer.properties).isProper = true := by
  rw [layerSnapshots, Result.bind_ok] at listed
  obtain ⟨entries, _, listed⟩ := listed
  exact snapshotsOf_proper _ _ entries layers proper listed

theorem snapshots_proper (request : Request) (proper : request.IsProper) :
    ∀ layer ∈ request.snapshots, (Value.obj layer.properties).isProper = true := by
  unfold Request.snapshots
  cases listed : layerSnapshots request.layerArtifact request.properties request.graph with
  | error failure => exact fun _ member => by cases member
  | ok layers => exact layerSnapshots_proper _ _ _ layers proper.resources listed

theorem canonicalProperties_proper (properties : Fields) (isImage : Bool) (proper : (Value.obj properties).isProper = true) :
    (Value.obj (canonicalProperties properties isImage)).isProper = true := by
  have kept : (Value.obj (if isImage then properties else Table.erase properties "Code")).isProper = true := by
    split
    · exact proper
    · exact Value.erase_isProper _ _ proper
  exact Value.erase_isProper _ _ (Value.erase_isProper _ _ kept)

theorem configuration_proper (request : Request) (proper : request.IsProper) :
    (Value.obj request.configuration).isProper = true :=
  canonicalProperties_proper request.properties false proper.properties

theorem currentLayer_proper (layer : LayerSnapshot) (proper : (Value.obj layer.properties).isProper = true) :
    (Generation.currentLayer layer).isProper = true := by
  simp [Generation.currentLayer, Value.isProper, Value.properFields] at proper ⊢
  exact proper

theorem currentLayer_alike (a b : LayerSnapshot) :
    (Generation.currentLayer a).alike (Generation.currentLayer b) = true ↔ SameLayer a b := by
  simp [Generation.currentLayer, Value.alike, Value.alikeFields, List.lookup_cons, SameLayer]

theorem currentLayers_alike (first second : List LayerSnapshot) :
    (Value.arr (first.map Generation.currentLayer)).alike (.arr (second.map Generation.currentLayer)) = true ↔
      List.Forall₂ SameLayer first second := by
  rw [Value.alike, Value.alikeItems_forall, List.forall₂_map_left_iff, List.forall₂_map_right_iff]
  simp only [currentLayer_alike]

/-- The canonical text tells configurations apart, up to the order of keys. Only the key that the layers are written
under is lost. -/
theorem serialize_iff (fields others : Fields) (first second : List LayerSnapshot)
    (proper : (Value.obj fields).isProper = true) (regular : (Value.obj others).isProper = true)
    (own : ∀ layer ∈ first, (Value.obj layer.properties).isProper = true)
    (theirs : ∀ layer ∈ second, (Value.obj layer.properties).isProper = true) :
    Generation.current.serialize fields first = Generation.current.serialize others second ↔
      (Value.obj (Table.erase fields Generation.layersKey)).alike (.obj (Table.erase others Generation.layersKey)) = true ∧
        List.Forall₂ SameLayer first second := by
  have whole (fields : Fields) (layers : List LayerSnapshot) (proper : (Value.obj fields).isProper = true)
      (each : ∀ layer ∈ layers, (Value.obj layer.properties).isProper = true) : (Value.obj (Table.insert fields
        Generation.layersKey (.arr (layers.map Generation.currentLayer)))).isProper = true := by
    apply Value.insert_isProper _ _ _ proper
    rw [Value.isProper, Value.areProper_iff]
    intro item member
    obtain ⟨layer, listed, rfl⟩ := List.mem_map.mp member
    exact currentLayer_proper layer (each layer listed)
  have one := whole fields first proper own
  have two := whole others second regular theirs
  rw [← currentLayers_alike, ← Value.alike_insert_iff _ _ _ _ _ ((Value.obj_isProper _).mp proper).1
    ((Value.obj_isProper _).mp regular).1, Value.alike_iff_sorted _ _ one two]
  constructor
  · exact fun same => JsonStyle.toJson_unique .compact JsonStyle.compact_oneLine _ _
      (Value.sortKeys_proper _ one) (Value.sortKeys_proper _ two) same
  · exact fun same => congrArg (Value.toJson .compact) same

theorem text_iff (first second : Request) (proper : first.IsProper) (regular : second.IsProper) :
    first.text = second.text ↔
      (Value.obj (Table.erase first.configuration Generation.layersKey)).alike
          (.obj (Table.erase second.configuration Generation.layersKey)) = true ∧
        List.Forall₂ SameLayer first.snapshots second.snapshots :=
  serialize_iff _ _ _ _ (configuration_proper first proper) (configuration_proper second regular)
    (snapshots_proper first proper) (snapshots_proper second regular)

/-- Unless hashes collide, two digests are equal exactly if the code is, the configurations are up to the order of
keys, the layers are in their order, and the code of the packaged layers is in the order of their paths: which layer a
path belongs to is not looked at. -/
theorem digest_value_iff (first second : Request) (a b : VersionDigest) (proper : first.IsProper)
    (regular : second.IsProper) (made : first.digest = .ok a) (computed : second.digest = .ok b)
    (code : NoCollision first.code second.code)
    (layers : ∀ x ∈ first.layerCode, ∀ y ∈ second.layerCode, NoCollision x y)
    (stream : NoCollision first.stream second.stream) :
    a.value = b.value ↔ first.code = second.code ∧
      (Value.obj (Table.erase first.configuration Generation.layersKey)).alike
        (.obj (Table.erase second.configuration Generation.layersKey)) = true ∧
      List.Forall₂ SameLayer first.snapshots second.snapshots ∧ first.layerCode = second.layerCode := by
  calc
    a.value = b.value ↔ first.stream = second.stream := by
      rw [digest_ok first a made, digest_ok second b computed, Digest.contentHash_iff _ _ stream]
    _ ↔ first.code = second.code ∧ first.layerCode = second.layerCode ∧ first.text = second.text := by
      rw [stream_iff, Digest.contentHash_iff _ _ code, Digest.contentHashes_iff _ _ layers]
    _ ↔ _ := by
      rw [text_iff first second proper regular]
      constructor
      · exact fun ⟨sameCode, sameLayers, alike, listed⟩ => ⟨sameCode, alike, listed, sameLayers⟩
      · exact fun ⟨sameCode, alike, listed, sameLayers⟩ => ⟨sameCode, sameLayers, alike, listed⟩

theorem fileParts_some (files : Files) (paths : List String)
    (readable : ∀ path ∈ paths, (files.readBlob path).toBool = true) :
    ∃ data, fileParts files .current paths = .ok data := by
  induction paths with
  | nil => exact ⟨.empty, rfl⟩
  | cons path rest ih =>
      obtain ⟨others, more⟩ := ih fun other member => readable other (List.mem_cons_of_mem _ member)
      have found := readable path (List.mem_cons_self ..)
      cases read : files.readBlob path with
      | error failure =>
          rw [read] at found
          cases found
      | ok blob =>
          refine ⟨contribution blob .current ++ others, ?_⟩
          simp only [fileParts, Result.bind_ok, Result.pure_ok]
          exact ⟨blob, read, others, more, rfl⟩

/-- A digest can be made if the layers can be listed and the artifacts can be read. -/
theorem digest_some (request : Request) (layers : List LayerSnapshot)
    (listed : layerSnapshots request.layerArtifact request.properties request.graph = .ok layers)
    (code : (request.files.readBlob request.artifact).toBool = true)
    (readable : ∀ path ∈ layers.filterMap fun layer => Text.given layer.artifact,
      (request.files.readBlob path).toBool = true) : ∃ result, request.digest = .ok result := by
  obtain ⟨data, others⟩ := fileParts_some request.files _ fun path member => readable path (List.mem_mergeSort.mp member)
  cases read : request.files.readBlob request.artifact with
  | error failure =>
      rw [read] at code
      cases code
  | ok blob =>
      let stream := contribution blob .current ++
        (data ++ textBytes (Generation.current.serialize (canonicalProperties request.properties false) layers))
      refine ⟨⟨contentHash stream, blob.hash.get⟩, ?_⟩
      simp only [Request.digest, Version.digest, Result.bind_ok, Result.pure_ok, Prod.exists]
      refine ⟨layers, listed, blob.hash.get, contribution blob .current, ?_, data, others, rfl⟩
      simp only [codePart, show Text.given none = none from rfl, Result.bind_ok, Result.pure_ok, Prod.mk.injEq]
      exact ⟨blob, read, rfl, rfl⟩

/-- Which layer an artifact belongs to leaves no trace in what is hashed. -/
theorem stream_exchanged (first second : Request) (files : first.files = second.files)
    (artifact : first.artifact = second.artifact) (properties : first.properties = second.properties)
    (layers : first.snapshots.map Generation.currentLayer = second.snapshots.map Generation.currentLayer)
    (artifacts : (first.snapshots.filterMap fun layer => Text.given layer.artifact).Perm
      (second.snapshots.filterMap fun layer => Text.given layer.artifact)) : first.stream = second.stream := by
  have text : first.text = second.text := by
    unfold Request.text Request.configuration Generation.serialize Generation.snapshot
    rw [properties, layers]
  have code : first.layerCode = second.layerCode := by
    rw [Request.layerCode, Request.layerCode, Text.sorted_perm _ _ artifacts, files]
  rw [Request.stream, Request.stream, text, code, Request.code, Request.code, files, artifact]

/-- What a digest is meant to tell apart: the code, the configuration, and the layers, each with the code of its own
artifact. -/
def Agree (first second : Request) : Prop :=
  first.code = second.code ∧ (Value.obj first.configuration).alike (.obj second.configuration) = true ∧
    List.Forall₂ (fun x y => x.ref = y.ref ∧ (Value.obj x.properties).alike (.obj y.properties) = true ∧
      first.ownCode x = second.ownCode y) first.snapshots second.snapshots

/-- A function with layers of its own template, and the artifact of each. -/
def Request.layered (contents artifacts : Table String) : Request where
  files := ⟨[], .directory ((contents.insert "code.zip" "code").mapValues fun text => .file (.bytes (.ofText text)))⟩
  layerArtifact name := match artifacts.find? name with
    | some path => .ok path
    | none => fault .missingKey
  properties := [("Layers", .arr (artifacts.keys.map Intrinsic.ref))]
  graph := ⟨artifacts.keys.map fun name => (name, .make "AWS::Lambda::LayerVersion" [] (some name)), .obj []⟩
  artifact := "code.zip"

theorem layered_proper (contents artifacts : Table String) : (Request.layered contents artifacts).IsProper where
  properties := by
    have entries : (Value.arr (artifacts.keys.map Intrinsic.ref)).isProper = true := by
      rw [Value.isProper, Value.areProper_iff]
      intro item member
      obtain ⟨id, _, rfl⟩ := List.mem_map.mp member
      rfl
    rw [Value.obj_isProper]
    exact ⟨List.nodup_singleton _, fun key value member => by cases List.mem_singleton.mp member; exact entries⟩
  resources := by
    intro id resource found
    obtain ⟨name, _, pair⟩ := List.mem_map.mp (Table.find?_some_mem _ _ _ found)
    cases pair
    rfl

/-- An only layer may be moved: its artifact has another path, and the digest stays. -/
theorem moved_layer_unnoticed : ∃ a b,
    (Request.layered [("a.zip", "layer")] [("Base", "a.zip")]).digest = .ok a ∧
      (Request.layered [("b.zip", "layer")] [("Base", "b.zip")]).digest = .ok b ∧ a.value = b.value := by
  obtain ⟨a, made⟩ := digest_some (.layered [("a.zip", "layer")] [("Base", "a.zip")]) _ rfl
    (by decide +kernel) (by decide +kernel)
  obtain ⟨b, computed⟩ := digest_some (.layered [("b.zip", "layer")] [("Base", "b.zip")]) _ rfl
    (by decide +kernel) (by decide +kernel)
  have code : (Request.layered [("a.zip", "layer")] [("Base", "a.zip")]).layerCode = [textBytes "layer"] := by
    decide +kernel
  have moved : (Request.layered [("b.zip", "layer")] [("Base", "b.zip")]).layerCode = [textBytes "layer"] := by
    decide +kernel
  have layers : List.Forall₂ SameLayer (Request.layered [("a.zip", "layer")] [("Base", "a.zip")]).snapshots
      (Request.layered [("b.zip", "layer")] [("Base", "b.zip")]).snapshots :=
    .cons ⟨rfl, rfl, rfl⟩ .nil
  have stream : (Request.layered [("a.zip", "layer")] [("Base", "a.zip")]).stream =
      (Request.layered [("b.zip", "layer")] [("Base", "b.zip")]).stream :=
    (stream_iff _ _).mpr ⟨rfl, by rw [code, moved], rfl⟩
  have apart : ∀ x ∈ (Request.layered [("a.zip", "layer")] [("Base", "a.zip")]).layerCode,
      ∀ y ∈ (Request.layered [("b.zip", "layer")] [("Base", "b.zip")]).layerCode, NoCollision x y := by
    rw [code, moved]
    intro x own y other _
    rw [List.mem_singleton.mp own, List.mem_singleton.mp other]
  refine ⟨a, b, made, computed, ?_⟩
  apply (digest_value_iff _ _ a b (layered_proper _ _) (layered_proper _ _) made computed (fun _ => rfl) apart
    (fun _ => stream)).mpr
  exact ⟨rfl, rfl, layers, by rw [code, moved]⟩

/-- Two layers, of which the code is `a` and `b`, in either order. -/
def Request.exchangeable (first second : String) : Request :=
  .layered [("a.zip", "a"), ("b.zip", "b")] [("First", first), ("Second", second)]

/-- Two layers may exchange their code: each file is still where it was, and the digest stays. -/
theorem exchanged_code_unnoticed : ∃ a b,
    (Request.exchangeable "a.zip" "b.zip").digest = .ok a ∧ (Request.exchangeable "b.zip" "a.zip").digest = .ok b ∧
      (∀ x ∈ (Request.exchangeable "a.zip" "b.zip").layerCode, ∀ y ∈ (Request.exchangeable "b.zip" "a.zip").layerCode,
        NoCollision x y) ∧
      (Request.exchangeable "a.zip" "b.zip").stream = (Request.exchangeable "b.zip" "a.zip").stream ∧
      a.value = b.value ∧ ¬Agree (Request.exchangeable "a.zip" "b.zip") (Request.exchangeable "b.zip" "a.zip") := by
  obtain ⟨a, made⟩ := digest_some (.exchangeable "a.zip" "b.zip") _ rfl (by decide +kernel) (by decide +kernel)
  obtain ⟨b, computed⟩ := digest_some (.exchangeable "b.zip" "a.zip") _ rfl (by decide +kernel) (by decide +kernel)
  have paths : Text.sorted ["a.zip", "b.zip"] = ["a.zip", "b.zip"] := List.mergeSort_of_pairwise (by decide +kernel)
  have code : (Request.exchangeable "a.zip" "b.zip").layerCode = [textBytes "a", textBytes "b"] := by
    change (Text.sorted ["a.zip", "b.zip"]).map _ = _
    rw [paths]
    rfl
  have exchanged : (Request.exchangeable "b.zip" "a.zip").layerCode = [textBytes "a", textBytes "b"] := by
    change (Text.sorted ["b.zip", "a.zip"]).map _ = _
    rw [Text.sorted_perm _ _ (List.Perm.swap ..), paths]
    rfl
  have hashes : contentHash (textBytes "a") ≠ contentHash (textBytes "b") := by decide +kernel
  have distinct : NoCollision (textBytes "a") (textBytes "b") := fun same => (hashes (congrArg Digest.base64 same)).elim
  have apart : ∀ x ∈ [textBytes "a", textBytes "b"], ∀ y ∈ [textBytes "a", textBytes "b"], NoCollision x y := by
    simp only [List.mem_cons, List.not_mem_nil, or_false]
    rintro x (rfl | rfl) y (rfl | rfl)
    · exact fun _ => rfl
    · exact distinct
    · exact fun same => (distinct same.symm).symm
    · exact fun _ => rfl
  have owned : ¬Agree (Request.exchangeable "a.zip" "b.zip") (Request.exchangeable "b.zip" "a.zip") := by
    rintro ⟨_, _, layers⟩
    cases layers with
    | cons first _ =>
        have own : some (textBytes "a") = some (textBytes "b") := first.2.2
        exact absurd own (by decide +kernel)
  have stream : (Request.exchangeable "a.zip" "b.zip").stream = (Request.exchangeable "b.zip" "a.zip").stream :=
    stream_exchanged _ _ rfl rfl rfl rfl (List.Perm.swap ..)
  refine ⟨a, b, made, computed, by rw [code, exchanged]; exact apart, stream, ?_, owned⟩
  rw [digest_ok _ a made, digest_ok _ b computed, stream]

end Version

end FunctionStack
