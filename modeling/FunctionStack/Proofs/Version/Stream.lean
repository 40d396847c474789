import FunctionStack.Proofs.Version.Canonical
import FunctionStack.Proofs.Version.Identity

/-!
The stream that is hashed for a version, as a canonical form of what a version is made of. It is the hash of the code, if there
is any to hash, then the hashes of the layers in the order of their paths, then the configuration with its layers; the hashes
have one length and no brace, so that the configuration can be told from them, and its text can be read in one way only.
-/

namespace FunctionStack.Version

open Digest (contentHash textBytes)

/-- What a digest is made of. The code of a function is a file, or an image that is known by its digest. -/
structure Input where
  files : Files
  layerArtifact : String → Result String
  properties : Fields
  graph : Graph
  artifact : Option String
  imageDigest : Option String

namespace Input

def digest (input : Input) : Result VersionDigest :=
  Version.digest input.files .current input.layerArtifact input.properties input.graph input.artifact input.imageDigest

/-- The bytes that are hashed: those that files contribute, followed by the text of the configuration. -/
def stream (input : Input) : Result Bytes := do
  let layers ← layerSnapshots input.layerArtifact input.properties input.graph
  let (_, code) ← codePart input.files .current input.artifact input.imageDigest
  let paths := layers.filterMap fun layer => Text.given layer.artifact
  let layerCode ← fileParts input.files .current (Text.sorted paths)
  let configuration := Generation.current.serialize (canonicalProperties input.properties input.imageDigest.isSome) layers
  return code ++ (layerCode ++ textBytes configuration)

/-- A digest is the content hash of the stream, and there is one exactly if there is the other. -/
theorem digest_stream (input : Input) : input.digest.map VersionDigest.value = input.stream.map contentHash := by
  unfold digest Version.digest stream
  cases layerSnapshots input.layerArtifact input.properties input.graph with
  | error _ => rfl
  | ok layers =>
      cases codePart input.files .current input.artifact input.imageDigest with
      | error _ => rfl
      | ok code =>
          simp only [bind, Except.bind]
          cases fileParts input.files .current (Text.sorted (layers.filterMap fun layer => Text.given layer.artifact)) <;> rfl

/-- The layers of the same template, with what a version holds of them. -/
def snapshots (input : Input) : List LayerSnapshot :=
  (layerSnapshots input.layerArtifact input.properties input.graph).toOption.getD []

/-- The properties that a version holds. -/
def configuration (input : Input) : Fields := canonicalProperties input.properties input.imageDigest.isSome

def fileHash (input : Input) (path : String) : String := contentHash (input.files.bytesAt path)

/-- The hash of the code of a function with a handler. -/
def codeHashes (input : Input) : List String :=
  match Text.given input.imageDigest with
  | some _ => []
  | none => input.artifact.toList.map input.fileHash

/-- The hashes of the layers that the service packages, in the order of their paths. -/
def layerHashes (input : Input) : List String :=
  (Text.sorted (input.snapshots.filterMap fun layer => Text.given layer.artifact)).map input.fileHash

/-- Tables hold no key twice, and numbers have one form. -/
structure IsProper (input : Input) : Prop where
  properties : (Value.obj input.properties).isProper = true
  resources : ∀ id resource, input.graph.find? id = some resource → resource.properties.isProper = true

/-- Both are functions with a handler, or both are images. -/
def SameKind (first second : Input) : Prop :=
  first.imageDigest = none ∧ second.imageDigest = none ∨
    (Text.given first.imageDigest).isSome = true ∧ (Text.given second.imageDigest).isSome = true

end Input

/-- The code contributes its hash to a stream, if it is a file. -/
theorem codePart_ok (input : Input) (codeHash : String) (code : Bytes)
    (read : codePart input.files .current input.artifact input.imageDigest = .ok (codeHash, code)) :
    code = textBytes (joined input.codeHashes) ∧
      input.codeHashes.length = if (Text.given input.imageDigest).isSome then 0 else 1 := by
  unfold Input.codeHashes
  unfold codePart at read
  cases given : Text.given input.imageDigest with
  | some image =>
      rw [given] at read
      cases read
      exact ⟨rfl, rfl⟩
  | none =>
      rw [given] at read
      cases artifact : input.artifact with
      | none =>
          rw [artifact] at read
          cases read
      | some path =>
          simp only [artifact, Result.bind_ok, Result.pure_ok, Prod.mk.injEq] at read
          obtain ⟨blob, found, -, rfl⟩ := read
          have hash := Files.readBlob_ok input.files path blob found
          simp only [Option.toList_some, List.map_cons, List.map_nil, joined, String.append_empty]
          exact ⟨congrArg textBytes hash, rfl⟩

theorem joined_append (first second : List String) : joined (first ++ second) = joined first ++ joined second := by
  induction first with
  | nil => exact (String.empty_append).symm
  | cons text rest ih => rw [List.cons_append, joined, joined, ih, String.append_assoc]

/-- A stream, taken apart: the hashes of files, and behind them the text of the configuration. -/
structure Input.Streams (input : Input) (data : Bytes) : Prop where
  made : input.stream = .ok data
  listed : layerSnapshots input.layerArtifact input.properties input.graph = .ok input.snapshots
  code : input.codeHashes.length = if (Text.given input.imageDigest).isSome then 0 else 1
  whole : data = textBytes (joined (input.codeHashes ++ input.layerHashes) ++
    Generation.current.serialize input.configuration input.snapshots)

theorem stream_ok (input : Input) (data : Bytes) (made : input.stream = .ok data) : input.Streams data := by
  have read := made
  simp only [Input.stream, Result.bind_ok, Result.pure_ok, Prod.exists] at read
  obtain ⟨layers, listed, codeHash, code, coded, others, read, rfl⟩ := read
  have snapshots : input.snapshots = layers := by
    rw [Input.snapshots, listed]
    rfl
  have bytes := fileParts_ok input.files _ others read
  obtain ⟨contributes, length⟩ := codePart_ok input codeHash code coded
  refine ⟨made, snapshots ▸ listed, length, ?_⟩
  rw [contributes, bytes, joined_append, textBytes_append, textBytes_append, Input.layerHashes, snapshots,
    ByteArray.append_assoc]
  rfl

/-- A digest comes with the stream that it is the content hash of. -/
theorem digest_streams (input : Input) (digest : VersionDigest) (made : input.digest = .ok digest) :
    ∃ data, input.Streams data ∧ digest.value = contentHash data := by
  have values := input.digest_stream
  rw [made] at values
  cases hashed : input.stream with
  | error failure =>
      rw [hashed] at values
      cases values
  | ok data =>
      rw [hashed] at values
      exact ⟨data, stream_ok input data hashed, Except.ok.inj values⟩

theorem hashes_blocks (input : Input) : ∀ text ∈ input.codeHashes ++ input.layerHashes, IsBlock text := by
  have hashed (paths : List String) : ∀ text ∈ paths.map input.fileHash, IsBlock text := by
    intro text member
    obtain ⟨path, _, rfl⟩ := List.mem_map.mp member
    exact contentHash_isBlock _
  intro text member
  rcases List.mem_append.mp member with code | layer
  · unfold Input.codeHashes at code
    split at code
    · cases code
    · exact hashed _ text code
  · exact hashed _ text layer

/-- A version without layers under the key of their own holds what it is given. -/
theorem configuration_erased (input : Input) (free : Generation.layersKey ∉ Table.keys input.properties) :
    Table.erase input.configuration Generation.layersKey = input.configuration := by
  have absent : Generation.layersKey ∉ Table.keys input.configuration := by
    rw [← Table.find?_none_iff, Input.configuration, canonicalProperties_find? _ _ _ (by decide), Table.find?_none_iff]
    exact free
  refine List.filter_eq_self.mpr fun entry member => ?_
  rw [decide_eq_true_eq]
  intro same
  exact absent (same ▸ List.mem_map_of_mem member)

/-- Inputs of one kind have as many hashes of code. -/
theorem Input.SameKind.length {first second : Input} {x y : Bytes} (kind : first.SameKind second) (one : first.Streams x)
    (two : second.Streams y) : first.codeHashes.length = second.codeHashes.length := by
  have given : (Text.given first.imageDigest).isSome = (Text.given second.imageDigest).isSome := by
    rcases kind with ⟨handler, also⟩ | ⟨image, also⟩
    · rw [handler, also]
    · rw [image, also]
  rw [one.code, two.code, given]

/-- Two inputs of one kind are hashed from equal streams exactly if they have equal hashes of their code and, in the order of the
paths, of their layers, equal configurations up to the order of keys in all tables, and layers that agree one by one. -/
theorem streams_equal_iff (first second : Input) (a b : VersionDigest) (proper : first.IsProper) (regular : second.IsProper)
    (kind : first.SameKind second) (free : Generation.layersKey ∉ Table.keys first.properties)
    (unused : Generation.layersKey ∉ Table.keys second.properties) (made : first.digest = .ok a)
    (computed : second.digest = .ok b) :
    ∃ x y, first.stream = .ok x ∧ second.stream = .ok y ∧ a.value = contentHash x ∧ b.value = contentHash y ∧
      (x = y ↔ first.codeHashes = second.codeHashes ∧ first.layerHashes = second.layerHashes ∧
        (Value.obj first.configuration).alike (.obj second.configuration) = true ∧
        List.Forall₂ SameLayer first.snapshots second.snapshots) := by
  obtain ⟨x, one, own⟩ := digest_streams first a made
  obtain ⟨y, two, theirs⟩ := digest_streams second b computed
  refine ⟨x, y, one.made, two.made, own, theirs, ?_⟩
  have configured : (Value.obj first.configuration).isProper = true :=
    canonicalProperties_proper first.properties _ proper.properties
  have settled : (Value.obj second.configuration).isProper = true :=
    canonicalProperties_proper second.properties _ regular.properties
  have layers := layerSnapshots_proper _ _ _ first.snapshots proper.resources one.listed
  have others := layerSnapshots_proper _ _ _ second.snapshots regular.resources two.listed
  calc
    x = y ↔ first.codeHashes ++ first.layerHashes = second.codeHashes ++ second.layerHashes ∧
        Generation.current.serialize first.configuration first.snapshots =
          Generation.current.serialize second.configuration second.snapshots := by
      rw [one.whole, two.whole]
      exact framed_iff _ _ (hashes_blocks first) (hashes_blocks second) _ _ _ _
    _ ↔ (first.codeHashes = second.codeHashes ∧ first.layerHashes = second.layerHashes) ∧
        (Value.obj first.configuration).alike (.obj second.configuration) = true ∧
        List.Forall₂ SameLayer first.snapshots second.snapshots := by
      refine and_congr ⟨fun same => List.append_inj same (kind.length one two), fun ⟨code, layers⟩ => by rw [code, layers]⟩ ?_
      rw [serialize_iff _ _ _ _ configured settled layers others, configuration_erased first free,
        configuration_erased second unused]
    _ ↔ _ := and_assoc

/-- The archives of a function and of a layer. -/
def archives : Files :=
  ⟨[], .directory [("code.zip", .file (.bytes (.ofText "code"))), ("base.zip", .file (.bytes (.ofText "base")))]⟩

/-- A function with a handler, this environment, and a layer of its own template. -/
def Input.within (environment : Fields) : Input where
  files := archives
  layerArtifact _ := .ok "base.zip"
  properties := [("Handler", .str "h"), ("Environment", .obj [("Variables", .obj environment)]),
    ("Layers", .arr [Intrinsic.ref "Base"])]
  graph := ⟨[("Base", .make "AWS::Lambda::LayerVersion" [("LayerName", .str "base")] (some "base"))], .obj []⟩
  artifact := some "code.zip"
  imageDigest := none

theorem within_proper (environment : Fields) (proper : (Value.obj environment).isProper = true) :
    (Input.within environment).IsProper where
  properties := by
    have inner : (Value.obj [("Variables", .obj environment)]).isProper = true := by
      rw [Value.obj_isProper]
      exact ⟨List.nodup_singleton _, fun key value member => by cases List.mem_singleton.mp member; exact proper⟩
    rw [Value.obj_isProper]
    refine ⟨(by decide : ["Handler", "Environment", "Layers"].Nodup), fun key value member => ?_⟩
    simp only [Input.within, List.mem_cons, List.not_mem_nil, or_false, Prod.mk.injEq] at member
    rcases member with ⟨-, rfl⟩ | ⟨-, rfl⟩ | ⟨-, rfl⟩
    · rfl
    · exact inner
    · rfl
  resources := by
    intro id resource found
    cases List.mem_singleton.mp (Table.find?_some_mem _ _ _ found)
    rfl

theorem within_digest (environment : Fields) : ∃ digest, (Input.within environment).digest = .ok digest := by
  let input := Input.within environment
  let request : Request := ⟨archives, input.layerArtifact, input.properties, input.graph, "code.zip"⟩
  have code : (archives.readBlob "code.zip").toBool = true := by decide +kernel
  have layer : (archives.readBlob "base.zip").toBool = true := by decide +kernel
  obtain ⟨digest, made⟩ := digest_some request [⟨"base", "Base", [("LayerName", .str "base")], some "base.zip"⟩] rfl code
    fun path member => by
      rw [List.mem_singleton.mp member]
      exact layer
  exact ⟨digest, made⟩

/-- The order of variables leaves no trace in the stream, while the number one and the truth do. -/
theorem environments_told_apart : ∃ x y z,
    (Input.within [("a", .int 1), ("b", .str "b")]).stream = .ok x ∧
      (Input.within [("b", .str "b"), ("a", .int 1)]).stream = .ok y ∧
      (Input.within [("a", .bool true), ("b", .str "b")]).stream = .ok z ∧ x = y ∧ x ≠ z := by
  obtain ⟨a, made⟩ := within_digest [("a", .int 1), ("b", .str "b")]
  obtain ⟨b, turned⟩ := within_digest [("b", .str "b"), ("a", .int 1)]
  obtain ⟨c, changed⟩ := within_digest [("a", .bool true), ("b", .str "b")]
  obtain ⟨x, y, one, two, -, -, same⟩ := streams_equal_iff _ _ a b (within_proper _ (by decide +kernel))
    (within_proper _ (by decide +kernel)) (.inl ⟨rfl, rfl⟩) (by decide +kernel) (by decide +kernel) made turned
  obtain ⟨own, z, again, three, -, -, other⟩ := streams_equal_iff _ _ a c (within_proper _ (by decide +kernel))
    (within_proper _ (by decide +kernel)) (.inl ⟨rfl, rfl⟩) (by decide +kernel) (by decide +kernel) made changed
  cases one.symm.trans again
  refine ⟨x, y, z, one, two, three, same.mpr ⟨rfl, rfl, by decide +kernel, .cons ⟨rfl, rfl, by decide +kernel⟩ .nil⟩, ?_⟩
  intro equal
  have alike := (other.mp equal).2.2.1
  exact absurd alike (by decide +kernel)

end FunctionStack.Version
