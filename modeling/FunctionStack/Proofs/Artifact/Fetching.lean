import FunctionStack.Proofs.Artifact.Download
import FunctionStack.Proofs.Value.Table

/-!
Fetching is all or nothing for the configuration. The downloads of a batch end in any order, and the object storage may do
as it likes each time; only when all have ended well are the packages pointed at their places, one after the other, and
none of them is without one.
-/

namespace FunctionStack

/-- A batch of downloads with what is still to come and the places there are. Any of them may end next, with the files and
the object storage as they are by then; the first one that fails ends the batch, and so does the time when it is up. -/
inductive Batch (target : Path) (seconds : Value) : List String → Table String → Result (Table String) → Prop
  | ended (places : Table String) : Batch target seconds [] places (.ok places)
  | delivered {pending : List String} {places : Table String} {outcome : Result (Table String)} (store : ObjectStore)
      (files left : Files) (uri path : String) (among : uri ∈ pending)
      (delivers : store.download files target uri = .delivered left path)
      (rest : Batch target seconds (pending.erase uri) (places.insert uri path) outcome) :
      Batch target seconds pending places outcome
  | failed {pending : List String} (places : Table String) (store : ObjectStore) (files left : Files) (uri : String)
      (failure : Failure) (among : uri ∈ pending) (fails : store.download files target uri = .failed left failure) :
      Batch target seconds pending places (.error failure)
  | timedOut {pending : List String} (places : Table String) (some : pending ≠ []) :
      Batch target seconds pending places (reject (.downloadTimedOut seconds))

/-- What a fetch may come to. Without remote artifacts nothing is downloaded. -/
inductive DownloadPlan.Fetches (plan : DownloadPlan) (service : ServiceConfig) : Result (Table String) → Prop
  | nothing (none : service.remoteArtifacts = []) : Fetches plan service (.ok [])
  | unstaffed (some : service.remoteArtifacts ≠ []) (workers : plan.workers ≤ 0) : Fetches plan service (fault .badValue)
  | untimed (some : service.remoteArtifacts ≠ []) (workers : 0 < plan.workers)
      (seconds : DownloadPlan.isTimeLimit plan.seconds = false) : Fetches plan service (fault .wrongType)
  | batch {outcome : Result (Table String)} (some : service.remoteArtifacts ≠ []) (workers : 0 < plan.workers)
      (seconds : DownloadPlan.isTimeLimit plan.seconds = true)
      (ran : Batch (plan.target service) plan.seconds service.remoteArtifacts [] outcome) : Fetches plan service outcome

namespace ObjectStore

variable {store : ObjectStore} {target : Path}

end ObjectStore

/-- Places for some URIs, each once, that are no URIs themselves. -/
structure Places (uris : List String) (places : Table String) : Prop where
  keys : places.keys.Perm uris
  distinct : places.keys.Nodup
  settled : ∀ uri path, (uri, path) ∈ places → RemoteLocation.isRemote (some path) = false

namespace Places

variable {target : Path} {uris : List String} {places : Table String}

theorem nowhere : Places [] [] := ⟨.refl _, List.nodup_nil, fun _ _ member => by cases member⟩

theorem insert {uri path : String} (so : Places uris places) (fresh : uri ∉ uris)
    (settled : RemoteLocation.isRemote (some path) = false) : Places (uris ++ [uri]) (places.insert uri path) where
  keys := by
    rw [Table.keys_insert, if_neg (fun member => fresh (so.keys.mem_iff.mp member))]
    exact so.keys.append_right [uri]
  distinct := Table.keys_insert_nodup places uri path so.distinct
  settled := by
    intro other found member
    rcases Table.mem_insert places uri other path found member with same | member
    · rw [(Prod.mk.inj same).2]
      exact settled
    · exact so.settled other found member

theorem find?_iff (so : Places uris places) (uri : String) : (∃ path, places.find? uri = some path) ↔ uri ∈ uris := by
  rw [← so.keys.mem_iff, ← Table.has_iff_keys, Table.has, Option.isSome_iff_exists]

end Places

/-- A place is nothing that would have to be downloaded. -/
theorem RemoteLocation.place_local {target : Path} (location : RemoteLocation) (normal : target.IsNormal) :
    isRemote (some (location.place target).toText) = false := by
  rw [isRemote, Option.any_some, scheme]
  exact (location.place_normal normal).toText_local

/-- A batch that has ended well has a place for each of its URIs. -/
theorem Batch.places {target : Path} {seconds : Value} {pending known : List String} {early final : Table String}
    (normal : target.IsNormal) (ran : Batch target seconds pending early (.ok final)) (so : Places known early)
    (distinct : (known ++ pending).Nodup) : Places (known ++ pending) final := by
  generalize same : (Except.ok final : Result (Table String)) = outcome at ran
  induction ran generalizing known with
  | ended early =>
      cases same
      rwa [List.append_nil]
  | @delivered pending early outcome store files left uri path among delivers rest ih =>
      have exchange : (known ++ pending).Perm ((known ++ [uri]) ++ pending.erase uri) := by
        rw [List.append_assoc]
        exact (List.perm_cons_erase among).append_left known
      have unrepeated := exchange.nodup_iff.mp distinct
      have fresh : uri ∉ known := fun member => (List.nodup_append.mp distinct).2.2 uri member uri among rfl
      have local_ : RemoteLocation.isRemote (some path) = false := by
        rw [ObjectStore.download_place delivers]
        exact (RemoteLocation.split uri).place_local normal
      have whole := ih (so.insert fresh local_) unrepeated same
      exact ⟨whole.keys.trans exchange.symm, whole.distinct, whole.settled⟩
  | failed => cases same
  | timedOut => cases same

theorem DownloadPlan.target_normal (plan : DownloadPlan) (service : ServiceConfig) (normal : service.directory.IsNormal) :
    (plan.target service).IsNormal := by
  rw [target]
  split
  · exact Path.ofText_normal _
  · exact (normal.child _).child _

theorem DownloadPlan.Fetches.places {plan : DownloadPlan} {service : ServiceConfig} {places : Table String}
    (fetches : plan.Fetches service (.ok places)) (normal : service.directory.IsNormal) :
    Places service.remoteArtifacts places := by
  generalize same : (Except.ok places : Result (Table String)) = outcome at fetches
  cases fetches with
  | nothing none =>
      cases same
      rw [none]
      exact .nowhere
  | unstaffed => cases same
  | untimed => cases same
  | batch _ _ _ ran =>
      subst same
      exact ran.places (plan.target_normal service normal) .nowhere (Text.sorted_distinct_nodup _)

/-- Changes the values of a table one after the other, up to the first one that fails. -/
def Table.changeEach {α : Type} (change : α → Result α) : Table α → Result Unit × Table α
  | [] => (.ok (), [])
  | (key, value) :: rest =>
    match change value with
    | .error failure => (.error failure, (key, value) :: rest)
    | .ok changed =>
      let (outcome, others) := changeEach change rest
      (outcome, (key, changed) :: others)

theorem Table.changeEach_ok {α : Type} (change : α → Result α) (changed : α → α) (table : Table α)
    (succeeds : ∀ key value, (key, value) ∈ table → change value = .ok (changed value)) :
    changeEach change table = (.ok (), table.mapValues changed) := by
  induction table with
  | nil => rfl
  | cons entry rest ih =>
      obtain ⟨key, value⟩ := entry
      have first := succeeds key value (List.mem_cons_self ..)
      have others := ih fun key value member => succeeds key value (List.mem_cons_of_mem _ member)
      simp only [changeEach, first, others]
      rfl

namespace PackageConfig

/-- Points a package with a remote artifact at the place of the artifact. -/
def point (places : Table String) (package : PackageConfig) : Result PackageConfig :=
  match package.artifact with
  | none => .ok package
  | some uri =>
    if RemoteLocation.isRemote (some uri) then
      match places.find? uri with
      | some path => .ok { package with artifact := some path }
      | none => fault .missingKey
    else .ok package

/-- A package and what becomes of it: only a remote artifact moves, and then it is remote no more. -/
inductive Moved (places : Table String) (package : PackageConfig) : PackageConfig → Prop
  | moved (uri path : String) (artifact : package.artifact = some uri) (remote : RemoteLocation.isRemote (some uri) = true)
      (placed : places.find? uri = some path) (settled : RemoteLocation.isRemote (some path) = false) :
      Moved places package { package with artifact := some path }
  | kept (settled : RemoteLocation.isRemote package.artifact = false) : Moved places package package

variable {places : Table String} {uris : List String} {package : PackageConfig}

theorem Moved.settled {after : PackageConfig} (moved : package.Moved places after) :
    RemoteLocation.isRemote after.artifact = false := by
  cases moved with
  | moved uri path artifact remote placed settled => exact settled
  | kept settled => exact settled

/-- With a place for each remote artifact a package can be pointed, and nothing happens to one that has none. -/
theorem point_relocate (so : Places uris places) (remote : ∀ uri ∈ uris, RemoteLocation.isRemote (some uri) = true)
    (known : ∀ uri, package.artifact = some uri → RemoteLocation.isRemote (some uri) = true → uri ∈ uris) :
    package.point places = .ok (package.relocate places) ∧ package.Moved places (package.relocate places) := by
  cases artifact : package.artifact with
  | none =>
      have kept : package.relocate places = package := by rw [relocate, artifact]; rfl
      rw [kept, point, artifact]
      exact ⟨rfl, .kept (by rw [artifact]; rfl)⟩
  | some uri =>
      cases is : RemoteLocation.isRemote (some uri) with
      | true =>
          obtain ⟨path, placed⟩ := (so.find?_iff uri).mpr (known uri artifact is)
          have moved : package.relocate places = { package with artifact := some path } := by
            rw [relocate, artifact, Option.bind_some, placed]
          rw [moved, point, artifact]
          refine ⟨by simp only [is, if_true, placed], .moved uri path artifact is placed ?_⟩
          exact so.settled uri path (Table.find?_some_mem places uri path placed)
      | false =>
          have unplaced : places.find? uri = none := by
            cases placed : places.find? uri with
            | none => rfl
            | some path => simp [remote uri ((so.find?_iff uri).mp ⟨path, placed⟩)] at is
          have kept : package.relocate places = package := by rw [relocate, artifact, Option.bind_some, unplaced]
          rw [kept, point, artifact]
          exact ⟨by simp only [is, Bool.false_eq_true, if_false], .kept (by rw [artifact, is])⟩

end PackageConfig

namespace FunctionConfig

/-- The package of a function is its own business unless the function is made from an image. -/
def point (places : Table String) (function : FunctionConfig) : Result FunctionConfig := do
  if function.hasImage then return function
  else
    let package ← function.package.point places
    return { function with package := package }

inductive Moved (places : Table String) (function : FunctionConfig) : FunctionConfig → Prop
  | image (made : function.hasImage = true) : Moved places function function
  | code (made : function.hasImage = false) (package : PackageConfig) (moved : function.package.Moved places package) :
      Moved places function { function with package := package }

end FunctionConfig

namespace LayerConfig

def relocate (places : Table String) (layer : LayerConfig) : LayerConfig :=
  { layer with package := layer.package.relocate places }

def point (places : Table String) (layer : LayerConfig) : Result LayerConfig := do
  let package ← layer.package.point places
  return { layer with package := package }

end LayerConfig

namespace ServiceConfig

/-- Points the packages of a service at their places, the service's own one first. The first one that has no place ends it,
and those before it have been changed by then. -/
def point (places : Table String) (service : ServiceConfig) : Result Unit × ServiceConfig :=
  match service.package.point places with
  | .error failure => (.error failure, service)
  | .ok package =>
    match Table.changeEach (FunctionConfig.point places) service.functions with
    | (.error failure, functions) => (.error failure, { service with package := package, functions := functions })
    | (.ok _, functions) =>
      let (outcome, layers) := Table.changeEach (LayerConfig.point places) service.layers
      (outcome, { service with package := package, functions := functions, layers := layers })

/-- What a fetch answers and leaves of a service, from what the downloads have come to. -/
def settle (service : ServiceConfig) : Result (Table String) → Result (Table String) × ServiceConfig
  | .error failure => (.error failure, service)
  | .ok places =>
    let (outcome, after) := service.point places
    (outcome.map fun _ => places, after)

/-- A service and what becomes of it: nothing else than the packages of the service, of its functions and of its layers may
have changed. -/
structure Moved (places : Table String) (service after : ServiceConfig) : Prop where
  package : service.package.Moved places after.package
  functions : List.Forall₂ (fun old new => new.1 = old.1 ∧ old.2.Moved places new.2) service.functions after.functions
  layers : List.Forall₂ (fun old new => new.1 = old.1 ∧
    ∃ package, old.2.package.Moved places package ∧ new.2 = { old.2 with package := package }) service.layers after.layers
  rest : after = { service with package := after.package, functions := after.functions, layers := after.layers }

/-- A service whose artifacts have been fetched: there is one place for each remote artifact, and nothing is left to fetch. -/
structure Settled (service : ServiceConfig) (places : Table String) (after : ServiceConfig) : Prop where
  distinct : places.keys.Nodup
  keys : ∀ uri, uri ∈ places.keys ↔
    RemoteLocation.isRemote (some uri) = true ∧ ∃ package ∈ service.packages, package.artifact = some uri
  moved : service.Moved places after
  settled : ∀ package ∈ after.packages, RemoteLocation.isRemote package.artifact = false
  again : ∀ plan : DownloadPlan, (∀ outcome, plan.Fetches after outcome → after.settle outcome = (.ok [], after)) ∧
    ∀ (store : ObjectStore) (files : Files), store.fetch plan after files = (.ok [], files)

section

variable {service : ServiceConfig} {places : Table String} (so : Places service.remoteArtifacts places)

include so

/-- The packages of a service all have places for what they need. -/
theorem package_relocate (package : PackageConfig) (among : package ∈ service.packages) :
    package.point places = .ok (package.relocate places) ∧ package.Moved places (package.relocate places) := by
  refine PackageConfig.point_relocate so (fun uri member => ((service.mem_remoteArtifacts uri).mp member).1) ?_
  intro uri artifact remote
  exact (service.mem_remoteArtifacts uri).mpr ⟨remote, package, among, artifact⟩

theorem function_relocate (name : String) (function : FunctionConfig) (declared : (name, function) ∈ service.functions) :
    function.point places = .ok (function.relocate places) ∧ function.Moved places (function.relocate places) := by
  rw [FunctionConfig.point, FunctionConfig.relocate]
  cases made : function.hasImage with
  | true => exact ⟨rfl, .image made⟩
  | false =>
      have among : function.package ∈ service.packages := by
        rw [packages]
        refine List.mem_append_left _ (List.mem_append_right _ (List.mem_map.mpr ⟨(name, function), ?_, rfl⟩))
        exact List.mem_filter.mpr ⟨declared, by simp [made]⟩
      obtain ⟨pointed, moved⟩ := package_relocate so function.package among
      rw [if_neg Bool.false_ne_true, if_neg Bool.false_ne_true, pointed]
      exact ⟨rfl, .code made _ moved⟩

theorem layer_relocate (name : String) (layer : LayerConfig) (declared : (name, layer) ∈ service.layers) :
    layer.point places = .ok (layer.relocate places) ∧ layer.package.Moved places (layer.relocate places).package := by
  have among : layer.package ∈ service.packages := by
    rw [packages]
    exact List.mem_append_right _ (List.mem_map.mpr ⟨(name, layer), declared, rfl⟩)
  obtain ⟨pointed, moved⟩ := package_relocate so layer.package among
  rw [LayerConfig.point, pointed]
  exact ⟨rfl, moved⟩

/-- Pointing the packages at their places does not fail, and is what relocating does. -/
theorem point_relocate : service.point places = (.ok (), service.relocate places) := by
  have own := (package_relocate so service.package (by simp [packages])).1
  have functions := Table.changeEach_ok (FunctionConfig.point places) (FunctionConfig.relocate places) service.functions
    fun name function declared => (function_relocate so name function declared).1
  have layers := Table.changeEach_ok (LayerConfig.point places) (LayerConfig.relocate places) service.layers
    fun name layer declared => (layer_relocate so name layer declared).1
  simp only [point, own, functions, layers]
  rfl

end

end ServiceConfig

end FunctionStack
