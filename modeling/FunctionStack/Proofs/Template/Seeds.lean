import FunctionStack.Proofs.Template.Core
import FunctionStack.Proofs.Value.Table

/-!
The core graph as a list of resources that are added one after another: the bucket, the default role, the log groups,
the layers and the declared resources. The first one under an id is the one that counts.
-/

namespace FunctionStack

namespace Graph

theorem add_lookup (graph after : Graph) (id : String) (resource : Resource) (added : graph.add id resource = .ok after)
    (other : String) : after.find? other = Table.find? (graph.resources ++ [(id, resource)]) other := by
  rcases add_ok graph after id resource added with ⟨_, rfl⟩ | ⟨held, taken, _, rfl⟩
  · rfl
  · rw [Table.find?_append, find?]
    cases found : Table.find? after.resources other with
    | some _ => rfl
    | none =>
        have elsewhere : other ≠ id := by
          rintro rfl
          rw [find?, found] at taken
          cases taken
        rw [Table.find?_cons, if_neg elsewhere, Option.none_or]
        rfl

theorem add_fresh (graph : Graph) (id : String) (resource : Resource) (free : graph.find? id = none) :
    graph.add id resource = .ok { graph with resources := graph.resources ++ [(id, resource)] } := by
  rw [add, free]

theorem add_outputs (graph after : Graph) (id : String) (resource : Resource)
    (added : graph.add id resource = .ok after) : after.outputs = graph.outputs := by
  rcases add_ok graph after id resource added with ⟨_, rfl⟩ | ⟨_, _, _, rfl⟩ <;> rfl

theorem add_distinct (graph after : Graph) (id : String) (resource : Resource) (added : graph.add id resource = .ok after)
    (distinct : graph.ids.Nodup) : after.ids.Nodup := by
  rcases add_ok graph after id resource added with ⟨free, rfl⟩ | ⟨_, _, _, rfl⟩
  · have whole : Graph.ids { graph with resources := graph.resources ++ [(id, resource)] } = graph.ids ++ [id] :=
      List.map_append
    rw [whole]
    refine List.nodup_append.mpr ⟨distinct, List.nodup_singleton id, fun a member b last same => ?_⟩
    rw [List.mem_singleton.mp last] at same
    exact (Table.find?_none_iff graph.resources id).mp free (same ▸ member)
  · exact distinct

/-- No id is taken twice. -/
structure IsDistinct (graph : Graph) : Prop where
  ids : graph.ids.Nodup
  outputs : ∀ outputs, graph.outputs = .obj outputs → (Table.keys outputs).Nodup

/-- Adds resources one after another. -/
def addAll (graph : Graph) : Table Resource → Result Graph
  | [] => .ok graph
  | (id, resource) :: rest => do
    let next ← graph.add id resource
    addAll next rest

theorem addAll_nil (graph after : Graph) : graph.addAll [] = .ok after ↔ graph = after := by
  rw [addAll, Except.ok.injEq]

theorem addAll_cons (graph after : Graph) (id : String) (resource : Resource) (rest : Table Resource) :
    graph.addAll ((id, resource) :: rest) = .ok after ↔
      ∃ next, graph.add id resource = .ok next ∧ next.addAll rest = .ok after := by
  rw [addAll, Result.bind_ok]

theorem addAll_append (graph after : Graph) (first second : Table Resource) :
    graph.addAll (first ++ second) = .ok after ↔
      ∃ next, graph.addAll first = .ok next ∧ next.addAll second = .ok after := by
  induction first generalizing graph with
  | nil => simp [addAll]
  | cons entry first ih =>
      obtain ⟨id, resource⟩ := entry
      simp only [List.cons_append, addAll_cons, ih]
      constructor
      · rintro ⟨one, added, next, others, last⟩
        exact ⟨next, ⟨one, added, others⟩, last⟩
      · rintro ⟨next, ⟨one, added, others⟩, last⟩
        exact ⟨one, added, next, others, last⟩

theorem addAll_single (graph after : Graph) (id : String) (resource : Resource) :
    graph.addAll [(id, resource)] = .ok after ↔ graph.add id resource = .ok after := by
  simp [addAll_cons, addAll_nil]

theorem addAll_lookup (graph after : Graph) (resources : Table Resource) (added : graph.addAll resources = .ok after)
    (id : String) : after.find? id = Table.find? (graph.resources ++ resources) id := by
  induction resources generalizing graph with
  | nil =>
      cases added
      rw [List.append_nil, find?]
  | cons entry rest ih =>
      obtain ⟨known, resource⟩ := entry
      obtain ⟨next, first, others⟩ := (addAll_cons graph after known resource rest).mp added
      rw [ih next others, Table.find?_append, show Table.find? next.resources id = next.find? id from rfl,
        add_lookup graph next known resource first, ← Table.find?_append, List.append_assoc, List.singleton_append]

theorem addAll_outputs (graph after : Graph) (resources : Table Resource) (added : graph.addAll resources = .ok after) :
    after.outputs = graph.outputs := by
  induction resources generalizing graph with
  | nil =>
      cases added
      rfl
  | cons entry rest ih =>
      obtain ⟨next, first, others⟩ := (addAll_cons graph after entry.1 entry.2 rest).mp added
      rw [ih next others, add_outputs graph next entry.1 entry.2 first]

theorem addAll_distinct (graph after : Graph) (resources : Table Resource) (added : graph.addAll resources = .ok after)
    (distinct : graph.ids.Nodup) : after.ids.Nodup := by
  induction resources generalizing graph with
  | nil =>
      cases added
      exact distinct
  | cons entry rest ih =>
      obtain ⟨next, first, others⟩ := (addAll_cons graph after entry.1 entry.2 rest).mp added
      exact ih next others (add_distinct graph next entry.1 entry.2 first distinct)

end Graph

namespace Core

def bucketSeeds (service : ServiceConfig) : Table Resource :=
  if (Text.given service.provider.deploymentBucket).isSome then [] else [(deploymentBucketId, bucketResource)]

def bucketOutputs (service : ServiceConfig) : Fields :=
  if (Text.given service.provider.deploymentBucket).isSome then [] else
    [("ServerlessDeploymentBucketName",
      .obj [("Description", .str "Deployment bucket name"), ("Value", Intrinsic.ref deploymentBucketId)])]

def roleSeeds (service : ServiceConfig) (uses : Bool) : Table Resource :=
  if uses then [(defaultExecutionRole, executionRole service)] else []

def logSeeds (service : ServiceConfig) (functions : List (String × FunctionConfig)) : Table Resource :=
  (functions.filter fun entry => !entry.2.disableLogs).map fun (name, _) => (Naming.logGroup name, logGroup service name)

def layerSeeds (service : ServiceConfig) : List (String × LayerConfig) → Result (Table Resource)
  | [] => .ok []
  | (name, config) :: rest => do
    let artifact ← service.layerArtifact name
    let others ← layerSeeds service rest
    return (Naming.layer name, layer service name config artifact) :: others

theorem layerSeeds_keys (service : ServiceConfig) (layers : List (String × LayerConfig)) (seeds : Table Resource)
    (packaged : layerSeeds service layers = .ok seeds) :
    seeds.keys = (layers.map Prod.fst).map Naming.layer := by
  induction layers generalizing seeds with
  | nil =>
      cases packaged
      rfl
  | cons entry rest ih =>
      simp only [layerSeeds, Result.bind_ok, Result.pure_ok] at packaged
      obtain ⟨_, _, others, made, rfl⟩ := packaged
      rw [Table.keys_cons, ih others made]
      rfl

theorem addBucket_iff (service : ServiceConfig) (after : Graph) :
    addBucket service Graph.empty = .ok after ↔
      Graph.addAll ⟨[], .obj (bucketOutputs service)⟩ (bucketSeeds service) = .ok after := by
  unfold addBucket bucketOutputs bucketSeeds
  split <;> exact Iff.rfl

theorem addRole_iff (service : ServiceConfig) (graph after : Graph) :
    addRole service graph = .ok after ↔ ∃ uses, usesDefaultRole service.provider service.functions = .ok uses ∧
      graph.addAll (roleSeeds service uses) = .ok after := by
  rw [addRole, Result.bind_ok]
  refine exists_congr fun uses => and_congr_right fun _ => ?_
  cases uses with
  | true => exact (Graph.addAll_single _ _ _ _).symm
  | false => exact (Result.pure_ok _ _).trans (Graph.addAll_nil _ _).symm

theorem addLogGroups_iff (service : ServiceConfig) (graph after : Graph) (functions : List (String × FunctionConfig)) :
    addLogGroups service graph functions = .ok after ↔ graph.addAll (logSeeds service functions) = .ok after := by
  induction functions generalizing graph with
  | nil => rfl
  | cons entry rest ih =>
      obtain ⟨name, function⟩ := entry
      rw [addLogGroups, logSeeds, List.filter_cons]
      cases function.disableLogs with
      | true => exact ih graph
      | false =>
          simp only [Bool.false_eq_true, if_false, Bool.not_false, if_true, List.map_cons, Graph.addAll_cons,
            Result.bind_ok]
          exact exists_congr fun next => and_congr_right fun _ => ih next

theorem addLayers_iff (service : ServiceConfig) (graph after : Graph) (layers : List (String × LayerConfig)) :
    addLayers service graph layers = .ok after ↔
      ∃ seeds, layerSeeds service layers = .ok seeds ∧ graph.addAll seeds = .ok after := by
  induction layers generalizing graph with
  | nil => simp [addLayers, layerSeeds, Graph.addAll]
  | cons entry rest ih =>
      obtain ⟨name, config⟩ := entry
      simp only [addLayers, layerSeeds, Result.bind_ok, Result.pure_ok, ih]
      constructor
      · rintro ⟨artifact, packaged, next, added, others, made, last⟩
        exact ⟨_, ⟨artifact, packaged, others, made, rfl⟩, (Graph.addAll_cons _ _ _ _ _).mpr ⟨next, added, last⟩⟩
      · rintro ⟨_, ⟨artifact, packaged, others, made, rfl⟩, whole⟩
        obtain ⟨next, added, last⟩ := (Graph.addAll_cons _ _ _ _ _).mp whole
        exact ⟨artifact, packaged, next, added, others, made, last⟩

theorem addDeclared_iff (graph after : Graph) (declared : Fields) :
    addDeclared graph declared = .ok after ↔
      ∃ seeds, Graph.readResources declared = .ok seeds ∧ graph.addAll seeds = .ok after := by
  induction declared generalizing graph with
  | nil => simp [addDeclared, Graph.readResources, Graph.addAll]
  | cons entry rest ih =>
      obtain ⟨id, value⟩ := entry
      simp only [addDeclared, Graph.readResources, Result.bind_ok, Result.pure_ok, ih]
      constructor
      · rintro ⟨resource, read, next, added, others, made, last⟩
        exact ⟨_, ⟨resource, read, others, made, rfl⟩, (Graph.addAll_cons _ _ _ _ _).mpr ⟨next, added, last⟩⟩
      · rintro ⟨_, ⟨resource, read, others, made, rfl⟩, whole⟩
        obtain ⟨next, added, last⟩ := (Graph.addAll_cons _ _ _ _ _).mp whole
        exact ⟨resource, read, next, added, others, made, last⟩

/-- What the core graph of a service is made of, but for its log groups. -/
structure Seeds (service : ServiceConfig) where
  uses : Bool
  layers : Table Resource
  declared : Table Resource
  outputs : Fields
  settled : usesDefaultRole service.provider service.functions = .ok uses
  packaged : layerSeeds service service.layers = .ok layers
  read : ∃ block, Fields.entries service.resources "Resources" = .ok block ∧ Graph.readResources block = .ok declared
  exposed : Fields.entries service.resources "Outputs" = .ok outputs

namespace Seeds

variable {service : ServiceConfig}

def all (seeds : Seeds service) : Table Resource :=
  bucketSeeds service ++ roleSeeds service seeds.uses ++ logSeeds service service.functions ++ seeds.layers ++ seeds.declared

end Seeds

/-- There is a core graph exactly if all that it is made of can be had and added. -/
theorem graph_iff (service : ServiceConfig) (graph : Graph) :
    Core.graph service = .ok graph ↔ ∃ (seeds : Seeds service) (full : Graph),
      Graph.addAll ⟨[], .obj (bucketOutputs service)⟩ seeds.all = .ok full ∧
        graph = addDeclaredOutputs full seeds.outputs := by
  simp only [Core.graph, Result.bind_ok, Result.pure_ok, addBucket_iff, addRole_iff, addLogGroups_iff, addLayers_iff,
    addDeclared_iff]
  constructor
  · rintro ⟨bucket, first, role, ⟨uses, settled, second⟩, logs, third, layered, ⟨layers, packaged, fourth⟩, block, listed,
      full, ⟨declared, read, fifth⟩, outputs, exposed, rfl⟩
    refine ⟨⟨uses, layers, declared, outputs, settled, packaged, ⟨block, listed, read⟩, exposed⟩, full, ?_, rfl⟩
    simp only [Seeds.all, Graph.addAll_append]
    exact ⟨layered, ⟨logs, ⟨role, ⟨bucket, first, second⟩, third⟩, fourth⟩, fifth⟩
  · rintro ⟨⟨uses, layers, declared, outputs, settled, packaged, ⟨block, listed, read⟩, exposed⟩, full, added, rfl⟩
    simp only [Seeds.all, Graph.addAll_append] at added
    obtain ⟨layered, ⟨logs, ⟨role, ⟨bucket, first, second⟩, third⟩, fourth⟩, fifth⟩ := added
    exact ⟨bucket, first, role, ⟨uses, settled, second⟩, logs, third, layered, ⟨layers, packaged, fourth⟩, block, listed,
      full, ⟨declared, read, fifth⟩, outputs, exposed, rfl⟩

/-- Of what a core graph is made of, the first resource under an id is the one in the graph. -/
theorem graph_lookup (service : ServiceConfig) (graph : Graph) (made : Core.graph service = .ok graph) :
    ∃ seeds : Seeds service, ∀ id, graph.find? id = Table.find? seeds.all id := by
  obtain ⟨seeds, full, added, rfl⟩ := (graph_iff service graph).mp made
  refine ⟨seeds, fun id => ?_⟩
  rw [Graph.find?, addDeclaredOutputs_resources]
  exact Graph.addAll_lookup _ full seeds.all added id

/-- The outputs of a core graph are those that are declared, over the one of the bucket. -/
theorem graph_outputs (service : ServiceConfig) (graph : Graph) (made : Core.graph service = .ok graph) :
    ∃ block, Fields.entries service.resources "Outputs" = .ok block ∧
      graph.outputs = .obj (Table.merge (bucketOutputs service) block) := by
  obtain ⟨seeds, full, added, rfl⟩ := (graph_iff service graph).mp made
  have outputs : full.outputs = .obj (bucketOutputs service) := Graph.addAll_outputs _ full _ added
  exact ⟨seeds.outputs, seeds.exposed, by rw [addDeclaredOutputs, outputs]⟩

/-- A core graph takes no id twice, and it has a table of outputs. -/
theorem graph_distinct (service : ServiceConfig) (graph : Graph) (made : Core.graph service = .ok graph) :
    graph.IsDistinct ∧ ∃ outputs, graph.outputs = .obj outputs := by
  obtain ⟨block, _, whole⟩ := graph_outputs service graph made
  obtain ⟨seeds, full, added, rfl⟩ := (graph_iff service graph).mp made
  have own : (Table.keys (bucketOutputs service)).Nodup := by
    unfold bucketOutputs
    split
    · exact List.nodup_nil
    · exact List.nodup_singleton _
  have ids : (addDeclaredOutputs full seeds.outputs).ids.Nodup := by
    rw [Graph.ids, addDeclaredOutputs_resources]
    exact Graph.addAll_distinct _ full _ added List.nodup_nil
  refine ⟨⟨ids, fun fields same => ?_⟩, _, whole⟩
  cases whole.symm.trans same
  exact Table.keys_merge_nodup _ _ own

end Core

end FunctionStack
