import FunctionStack.Proofs.Naming
import FunctionStack.Proofs.Template.Complete
import FunctionStack.Proofs.Template.Seeds

/-!
The core graph of a service with other functions: but for the default role and the log groups it holds the same resources.
If only the order of the functions is another one, it holds all the same, and only its log groups are in another order.
-/

namespace FunctionStack

namespace Graph

/-- Graphs that hold the same under each id. -/
def Agrees (graph other : Graph) : Prop := ∀ id, other.find? id = graph.find? id

theorem add_agrees (graph other after : Graph) (id : String) (resource : Resource) (agrees : graph.Agrees other)
    (added : graph.add id resource = .ok after) : ∃ next, other.add id resource = .ok next ∧ after.Agrees next := by
  have made : ∃ next, other.add id resource = .ok next := by
    rcases add_ok graph after id resource added with ⟨free, _⟩ | ⟨held, taken, equal, _⟩
    · exact ⟨_, add_fresh other id resource ((agrees id).trans free)⟩
    · refine ⟨other, ?_⟩
      rw [add, (agrees id).trans taken]
      exact if_pos equal
  obtain ⟨next, made⟩ := made
  refine ⟨next, made, fun key => ?_⟩
  have own := agrees key
  rw [find?, find?] at own
  rw [add_lookup other next id resource made, add_lookup graph after id resource added, Table.find?_append,
    Table.find?_append, own]

theorem addAll_agrees (graph other after : Graph) (resources : Table Resource) (agrees : graph.Agrees other)
    (added : graph.addAll resources = .ok after) : ∃ next, other.addAll resources = .ok next ∧ after.Agrees next := by
  induction resources generalizing graph other with
  | nil =>
      cases added
      exact ⟨other, rfl, agrees⟩
  | cons entry rest ih =>
      obtain ⟨id, resource⟩ := entry
      obtain ⟨between, first, others⟩ := (addAll_cons graph after id resource rest).mp added
      obtain ⟨step, made, still⟩ := add_agrees graph other between id resource agrees first
      obtain ⟨next, last, final⟩ := ih between step still others
      exact ⟨next, (addAll_cons other next id resource rest).mpr ⟨step, made, last⟩, final⟩

/-- Resources whose ids are free are put behind the others. -/
theorem addAll_fresh (graph : Graph) (resources : Table Resource) (distinct : resources.keys.Nodup)
    (free : ∀ id ∈ resources.keys, graph.find? id = none) :
    graph.addAll resources = .ok { graph with resources := graph.resources ++ resources } := by
  induction resources generalizing graph with
  | nil => rw [addAll, List.append_nil]
  | cons entry rest ih =>
      obtain ⟨id, resource⟩ := entry
      obtain ⟨fresh, distinct⟩ := List.nodup_cons.mp distinct
      have added := add_fresh graph id resource (free id (List.mem_cons_self ..))
      refine (addAll_cons _ _ _ _ _).mpr ⟨_, added, ?_⟩
      have still (other : String) (member : other ∈ Table.keys rest) :
          Table.find? (graph.resources ++ [(id, resource)]) other = none := by
        have apart : other ≠ id := fun same => fresh (same ▸ member)
        have before : Table.find? graph.resources other = none := free other (List.mem_cons_of_mem _ member)
        rw [Table.find?_append, before, Option.none_or, Table.find?_cons, if_neg apart, Table.find?_nil]
      rw [ih { graph with resources := graph.resources ++ [(id, resource)] } distinct still, List.append_assoc,
        List.singleton_append]

end Graph

/-- A role with the same statements, up to their order. -/
inductive Resource.Restated (role : Resource) : Resource → Prop
  | same : Restated role role
  | again (own others : List Value) (held : ExecutionPolicy.statementOf role.properties = .arr own)
      (kept : ∀ statement ∈ own, statement.isIn others = true) (known : ∀ statement ∈ others, statement.isIn own = true) :
      Restated role { role with properties := ExecutionPolicy.withStatement (.arr others) role.properties }

theorem Resource.restated (role : Resource) (statements own others : List Value)
    (held : ExecutionPolicy.statementOf role.properties = .arr statements)
    (kept : ∀ statement ∈ own, statement.isIn others = true) (known : ∀ statement ∈ others, statement.isIn own = true) :
    Restated { role with properties := ExecutionPolicy.withStatement (.arr own) role.properties }
      { role with properties := ExecutionPolicy.withStatement (.arr others) role.properties } := by
  rw [← ExecutionPolicy.withStatement_again role.properties (.arr own) (.arr others)]
  exact .again own others (ExecutionPolicy.statementOf_withStatement role.properties _ statements held) kept known

/-- A graph that differs in the order of its parts, and of the statements in the default role. -/
structure Graph.Reordered (graph other : Graph) : Prop where
  ids : other.ids.Perm graph.ids
  resources : ∀ id, id ≠ defaultExecutionRole → other.find? id = graph.find? id
  role : Option.Rel Resource.Restated (graph.find? defaultExecutionRole) (other.find? defaultExecutionRole)
  outputs : ∃ fields others, graph.outputs = .obj fields ∧ other.outputs = .obj others ∧ others.Perm fields

theorem Resource.Restated.dependsOn {role other : Resource} (restated : role.Restated other) :
    other.dependsOn = role.dependsOn := by
  cases restated <;> rfl

namespace Graph.Reordered

variable {graph other : Graph}

theorem has (reordered : graph.Reordered other) (id : String) : other.has id = graph.has id := by
  rw [Bool.eq_iff_iff, Graph.has, Graph.has, Table.has_iff_keys, Table.has_iff_keys]
  exact reordered.ids.mem_iff

theorem resolves (reordered : graph.Reordered other) (dependency : Value) :
    other.resolves dependency = graph.resolves dependency := by
  cases dependency with
  | str id => exact reordered.has id
  | _ => rfl

/-- What comes before what is the same in another order. -/
theorem closed (reordered : graph.Reordered other) (distinct : other.ids.Nodup) (closed : graph.Closed) :
    other.Closed := by
  have held (id : String) (resource : Resource) (found : graph.find? id = some resource) (dependency : Value)
      (depends : dependency ∈ resource.dependsOn) : other.resolves dependency = true :=
    (reordered.resolves dependency).trans
      (closed id resource (Table.find?_some_mem _ _ _ found) dependency depends)
  intro id resource member dependency depends
  have found : other.find? id = some resource := Table.find?_of_mem other.resources id resource distinct member
  by_cases role : id = defaultExecutionRole
  · subst role
    have related := reordered.role
    rw [found] at related
    cases own : graph.find? defaultExecutionRole with
    | none =>
        rw [own] at related
        cases related
    | some role =>
        rw [own] at related
        cases related with
        | some restated => exact held _ role own dependency (restated.dependsOn ▸ depends)
  · exact held id resource ((reordered.resources id role).symm.trans found) dependency depends

/-- What is retained is carried over into both alike. -/
theorem carry (reordered : graph.Reordered other) (previous : Graph) :
    (graph.carryRetained previous).Reordered (other.carryRetained previous) := by
  have carried : other.carried previous = graph.carried previous :=
    List.filter_congr fun entry _ => congrArg (entry.2.retained && !·) (reordered.has entry.1)
  have lookup (own : Graph) (id : String) : (own.carryRetained previous).find? id =
      (own.find? id).or (Table.find? (own.carried previous) id) := Table.find?_append _ _ _
  refine ⟨?_, fun id apart => ?_, ?_, reordered.outputs⟩
  · have ids (own : Graph) : (own.carryRetained previous).ids = own.ids ++ Table.keys (own.carried previous) :=
      List.map_append
    rw [ids, ids, carried]
    exact reordered.ids.append_right _
  · rw [lookup, lookup, carried, reordered.resources id apart]
  · rw [lookup, lookup, carried]
    have related := reordered.role
    cases found : graph.find? defaultExecutionRole with
    | none =>
        rw [found] at related
        cases present : other.find? defaultExecutionRole with
        | some _ =>
            rw [present] at related
            cases related
        | none =>
            rw [Option.none_or]
            cases Table.find? (graph.carried previous) defaultExecutionRole with
            | none => exact .none
            | some _ => exact .some .same
    | some role =>
        rw [found] at related
        cases present : other.find? defaultExecutionRole with
        | none =>
            rw [present] at related
            cases related
        | some changed =>
            rw [present] at related
            exact related

end Graph.Reordered

/-- The policy of a graph that holds the same is found in the same way. -/
theorem ExecutionPolicy.ofGraph_agrees (graph other after : Graph) (policy : Option ExecutionPolicy)
    (agrees : graph.Agrees other) (found : ofGraph graph = .ok (after, policy)) :
    ∃ next, ofGraph other = .ok (next, policy) ∧ after.Agrees next := by
  rcases ofGraph_ok graph after policy found with ⟨none, rfl, rfl⟩ | ⟨role, properties, present, completed, rfl, rfl⟩
  · refine ⟨other, ?_, agrees⟩
    unfold ofGraph
    rw [agrees, none]
  · refine ⟨setProperties other defaultExecutionRole properties, ?_, fun id => ?_⟩
    · unfold ofGraph
      rw [agrees, present]
      exact (Result.bind_ok _ _ _).mpr ⟨properties, completed, rfl⟩
    · rw [setProperties_find?, setProperties_find?, agrees]

/-- The same service with other functions. -/
def ServiceConfig.withFunctions (service : ServiceConfig) (functions : Table FunctionConfig) : ServiceConfig :=
  { service with functions := functions }

/-- Each function has a normalized name of its own. -/
def Naming.Distinct (functions : Table FunctionConfig) : Prop :=
  (functions.map fun entry => Naming.normalized entry.1).Nodup

instance (functions : Table FunctionConfig) : Decidable (Naming.Distinct functions) :=
  inferInstanceAs (Decidable (List.Nodup _))

theorem Naming.Distinct.keys {functions : Table FunctionConfig} (names : Distinct functions) : functions.keys.Nodup := by
  have mapped : (functions.keys.map Naming.normalized).Nodup := by
    rw [Table.keys, List.map_map]
    exact names
  exact mapped.of_map

theorem Naming.Distinct.permuted {functions others : Table FunctionConfig} (names : Distinct functions)
    (permuted : others.Perm functions) : Distinct others := (permuted.map _).nodup_iff.mpr names

/-- The ids of the log groups of functions. -/
def Naming.logGroups (functions : Table FunctionConfig) : List String :=
  (functions.filter fun entry => !entry.2.disableLogs).map fun entry => Naming.logGroup entry.1

theorem Naming.function_not_logGroup (name : String) (functions : Table FunctionConfig) :
    Naming.function name ∉ Naming.logGroups functions := by
  intro member
  obtain ⟨entry, _, same⟩ := List.mem_map.mp member
  exact Naming.endings_apart _ _ "LogGroup" "LambdaFunction" 5 (by decide) (by decide) same

theorem Naming.Distinct.logGroups {functions : Table FunctionConfig} (names : Distinct functions) :
    (Naming.logGroups functions).Nodup := by
  have mapped : Naming.logGroups functions =
      ((functions.filter fun entry => !entry.2.disableLogs).map fun entry => Naming.normalized entry.1).map
        fun text => text ++ "LogGroup" := by
    rw [Naming.logGroups, List.map_map]
    rfl
  rw [mapped]
  exact (names.sublist (List.filter_sublist.map _)).map fun a b same => Naming.suffix_cancel a b "LogGroup" same

namespace Core

/-- If all roles are known, what matters is whether one of them is the default. -/
theorem usesDefaultRole_any (provider : ProviderConfig) (functions : List (String × FunctionConfig))
    (known : ∀ entry ∈ functions, ∃ role, Role.ofFunction entry.2 provider = .ok role) :
    usesDefaultRole provider functions =
      .ok (functions.any fun entry => (Role.ofFunction entry.2 provider).toOption.any Role.isDefault) := by
  induction functions with
  | nil => rfl
  | cons entry rest ih =>
      obtain ⟨⟨role, resolved⟩, others⟩ := List.forall_mem_cons.mp known
      rw [usesDefaultRole, Result.bind_ok]
      refine ⟨role, resolved, ?_⟩
      rw [List.any_cons, resolved, Except.toOption, Option.any_some]
      cases role.isDefault with
      | true => rfl
      | false =>
          rw [if_neg Bool.false_ne_true, ih others, Bool.false_or]

theorem logSeeds_keys (service : ServiceConfig) (functions : Table FunctionConfig) :
    (logSeeds service functions).keys = Naming.logGroups functions := by
  rw [logSeeds, Table.keys, List.map_map]
  rfl

/-- A log group knows nothing of other functions. -/
theorem logGroup_withFunctions (service : ServiceConfig) (others : Table FunctionConfig) (name : String)
    (same : Table.find? others name = Table.find? service.functions name) :
    logGroup (service.withFunctions others) name = logGroup service name := by
  have deployed : (service.withFunctions others).deployedName name none none = service.deployedName name none none := by
    have found : Table.find? (service.withFunctions others).functions name = Table.find? service.functions name := same
    unfold ServiceConfig.deployedName
    rw [found]
    rfl
  unfold logGroup
  rw [deployed]
  rfl

section

variable (service : ServiceConfig) (others : Table FunctionConfig) (permuted : others.Perm service.functions)
  (names : Naming.Distinct service.functions)

include permuted

theorem executionRole_permuted : executionRole (service.withFunctions others) = executionRole service := by
  have same : usesVpc (service.withFunctions others) = usesVpc service :=
    congrArg (service.provider.vpc.isSome || ·) (permuted.any_eq)
  unfold executionRole
  rw [same]
  rfl

include names

theorem logSeeds_permuted : (logSeeds (service.withFunctions others) others).Perm (logSeeds service service.functions) := by
  have same : logSeeds (service.withFunctions others) others = logSeeds service others := by
    unfold logSeeds
    refine List.map_congr_left fun entry _ => congrArg (Prod.mk (Naming.logGroup entry.1)) ?_
    exact logGroup_withFunctions service others entry.1 (Table.find?_perm service.functions others permuted names.keys _)
  rw [same]
  exact (permuted.filter _).map _

end

/-- Log groups have ids of their own next to the bucket and the role. -/
theorem logSeeds_free (service : ServiceConfig) (functions : Table FunctionConfig) (uses : Bool) (id : String)
    (member : id ∈ (logSeeds service functions).keys) :
    Table.find? (bucketSeeds service ++ roleSeeds service uses) id = none := by
  obtain ⟨⟨_, resource⟩, listed, rfl⟩ := List.mem_map.mp member
  obtain ⟨⟨name, function⟩, _, same⟩ := List.mem_map.mp listed
  obtain ⟨rfl, -⟩ := Prod.mk.inj same
  have bucket : Naming.logGroup name ≠ deploymentBucketId :=
    Naming.endings_apart (Naming.normalized name) "" "LogGroup" deploymentBucketId 5 (by decide) (by decide)
  rw [Table.find?_none_iff, Table.keys, List.map_append, List.mem_append]
  rintro (inside | inside)
  · unfold bucketSeeds at inside
    split at inside
    · cases inside
    · exact bucket (List.mem_singleton.mp inside)
  · unfold roleSeeds at inside
    split at inside
    · exact Naming.logGroup_ne_role name (List.mem_singleton.mp inside)
    · cases inside

/-- Layers are made from their artifacts and from nothing else of a service but its storage. -/
theorem layerSeeds_congr (service others : ServiceConfig) (artifacts : others.layerArtifact = service.layerArtifact)
    (made : layer others = layer service) (layers : List (String × LayerConfig)) :
    layerSeeds others layers = layerSeeds service layers := by
  induction layers with
  | nil => rfl
  | cons entry rest ih => rw [layerSeeds, layerSeeds, ih, artifacts, made]

theorem addDeclaredOutputs_outputs (graph other : Graph) (declared : Fields) (same : other.outputs = graph.outputs) :
    (addDeclaredOutputs other declared).outputs = (addDeclaredOutputs graph declared).outputs := by
  unfold addDeclaredOutputs
  rw [same]
  split
  · rfl
  · exact same

/-- A log group is in its place from the start. -/
theorem graph_logGroup (service : ServiceConfig) (core : Graph) (seeded : Core.graph service = .ok core)
    (names : Naming.Distinct service.functions) (name : String) (function : FunctionConfig)
    (declared : (name, function) ∈ service.functions) (logs : function.disableLogs = false) :
    core.find? (Naming.logGroup name) = some (logGroup service name) := by
  obtain ⟨seeds, lookup⟩ := graph_lookup service core seeded
  have listed : (Naming.logGroup name, logGroup service name) ∈ logSeeds service service.functions :=
    List.mem_map.mpr ⟨(name, function), List.mem_filter.mpr ⟨declared, by simp [logs]⟩, rfl⟩
  have free := logSeeds_free service service.functions seeds.uses _ (List.mem_map_of_mem listed)
  have distinct : (logSeeds service service.functions).keys.Nodup := logSeeds_keys _ _ ▸ names.logGroups
  have held := Table.find?_of_mem _ _ _ distinct listed
  rw [lookup, Seeds.all, List.append_assoc, List.append_assoc, Table.find?_append, free, Option.none_or,
    Table.find?_append, held, Option.some_or]

/-- Next to the default role and the log groups, a core graph consists of the bucket, the layers and what is declared. -/
theorem Seeds.elsewhere {service : ServiceConfig} (seeds : Seeds service) (id : String) (apart : id ≠ defaultExecutionRole)
    (free : id ∉ Naming.logGroups service.functions) :
    Table.find? seeds.all id = Table.find? (bucketSeeds service ++ seeds.layers ++ seeds.declared) id := by
  have role : Table.find? (roleSeeds service seeds.uses) id = none := by
    rw [Table.find?_none_iff]
    unfold roleSeeds
    split
    · exact fun member => apart (List.mem_singleton.mp member)
    · exact List.not_mem_nil
  have logs : Table.find? (logSeeds service service.functions) id = none := by rwa [Table.find?_none_iff, logSeeds_keys]
  simp only [Seeds.all, Table.find?_append, role, logs, Option.or_none]

theorem Seeds.declared_eq {service other : ServiceConfig} (seeds : Seeds service) (turned : Seeds other)
    (block : other.resources = service.resources) : turned.declared = seeds.declared := by
  obtain ⟨own, listed, read⟩ := seeds.read
  obtain ⟨same, found, also⟩ := turned.read
  rw [block] at found
  cases listed.symm.trans found
  exact Except.ok.inj (also.symm.trans read)

/-- Next to the default role and the log groups, services with one bucket, the same layers and the same declared resources
have the same core graph. -/
theorem graph_elsewhere (service others : ServiceConfig) (core other : Graph) (seeded : Core.graph service = .ok core)
    (again : Core.graph others = .ok other) (bucket : bucketSeeds others = bucketSeeds service)
    (layers : layerSeeds others others.layers = layerSeeds service service.layers)
    (declared : others.resources = service.resources) (id : String) (apart : id ≠ defaultExecutionRole)
    (own : id ∉ Naming.logGroups service.functions) (theirs : id ∉ Naming.logGroups others.functions) :
    other.find? id = core.find? id := by
  obtain ⟨seeds, lookup⟩ := graph_lookup service core seeded
  obtain ⟨turned, known⟩ := graph_lookup others other again
  have packaged : turned.layers = seeds.layers := by
    have made := turned.packaged
    rw [layers] at made
    exact Except.ok.inj (made.symm.trans seeds.packaged)
  rw [lookup, known, seeds.elsewhere id apart own, turned.elsewhere id apart theirs, bucket, packaged,
    seeds.declared_eq turned declared]

/-- The core graph does not depend on the order of the functions, as long as all their roles are known. -/
theorem graph_permuted (service : ServiceConfig) (others : Table FunctionConfig) (permuted : others.Perm service.functions)
    (names : Naming.Distinct service.functions)
    (known : ∀ entry ∈ service.functions, ∃ role, Role.ofFunction entry.2 service.provider = .ok role) (graph : Graph)
    (made : Core.graph service = .ok graph) :
    ∃ other, Core.graph (service.withFunctions others) = .ok other ∧ graph.Agrees other ∧
      other.outputs = graph.outputs := by
  obtain ⟨seeds, full, added, rfl⟩ := (graph_iff service graph).mp made
  have settled : usesDefaultRole (service.withFunctions others).provider (service.withFunctions others).functions =
      .ok seeds.uses := by
    have same := usesDefaultRole_any service.provider others fun entry member => known entry (permuted.mem_iff.mp member)
    rw [permuted.any_eq, ← usesDefaultRole_any service.provider service.functions known] at same
    exact same.trans seeds.settled
  let turned : Seeds (service.withFunctions others) :=
    ⟨seeds.uses, seeds.layers, seeds.declared, seeds.outputs, settled,
      (layerSeeds_congr service (service.withFunctions others) rfl rfl service.layers).trans seeds.packaged, seeds.read, seeds.exposed⟩
  have role : roleSeeds (service.withFunctions others) seeds.uses = roleSeeds service seeds.uses := by
    unfold roleSeeds
    rw [executionRole_permuted service others permuted]
  simp only [Seeds.all, List.append_assoc (_ ++ logSeeds _ _)] at added
  rw [Graph.addAll_append] at added
  obtain ⟨logged, before, after⟩ := added
  obtain ⟨start, first, second⟩ := (Graph.addAll_append _ _ _ _).mp before
  have logs := logSeeds_permuted service others permuted names
  have distinct : (logSeeds service service.functions).keys.Nodup := logSeeds_keys _ _ ▸ names.logGroups
  have free (id : String) (member : id ∈ (logSeeds service service.functions).keys) : start.find? id = none := by
    rw [Graph.addAll_lookup _ start _ first]
    exact logSeeds_free service service.functions seeds.uses id member
  rw [Graph.addAll_fresh start _ distinct free] at second
  cases second
  have turnedKeys : (logSeeds (service.withFunctions others) others).keys.Nodup := (logs.map Prod.fst).nodup_iff.mpr distinct
  have reordered := Graph.addAll_fresh start (logSeeds (service.withFunctions others) others) turnedKeys fun id member =>
    free id ((logs.map Prod.fst).mem_iff.mp member)
  obtain ⟨other, last, agrees⟩ := Graph.addAll_agrees _
    { start with resources := start.resources ++ logSeeds (service.withFunctions others) others } full _ (fun id => by
      rw [Graph.find?, Graph.find?, Table.find?_append, Table.find?_append, Table.find?_perm _ _ logs distinct id]) after
  refine ⟨addDeclaredOutputs other seeds.outputs, (graph_iff _ _).mpr ⟨turned, other, ?_, rfl⟩, fun id => ?_, ?_⟩
  · rw [Seeds.all, List.append_assoc (_ ++ logSeeds _ _), Graph.addAll_append]
    refine ⟨_, (Graph.addAll_append _ _ _ _).mpr ⟨start, ?_, reordered⟩, last⟩
    rw [role]
    exact first
  · rw [Graph.find?, Graph.find?, addDeclaredOutputs_resources, addDeclaredOutputs_resources]
    exact agrees id
  · refine addDeclaredOutputs_outputs full other seeds.outputs ?_
    rw [Graph.addAll_outputs _ _ _ last, Graph.addAll_outputs _ _ _ after]

end Core

end FunctionStack
