import FunctionStack.Proofs.Compile.Build
import FunctionStack.Proofs.Template.Policy
import FunctionStack.Template.Core

/-!
The core graph of a service: what is put into it, and the execution role in it.
-/

namespace FunctionStack.Core

/-- The steps that make a core graph, with the graphs between them. -/
theorem graph_ok (service : ServiceConfig) (graph : Graph) (made : Core.graph service = .ok graph) :
    ∃ bucket role logs layers declared full outputs, addBucket service Graph.empty = .ok bucket ∧
      addRole service bucket = .ok role ∧ addLogGroups service role service.functions = .ok logs ∧
      addLayers service logs service.layers = .ok layers ∧
      Fields.entries service.resources "Resources" = .ok declared ∧ addDeclared layers declared = .ok full ∧
      graph = addDeclaredOutputs full outputs := by
  simp only [Core.graph, Result.bind_ok, Result.pure_ok] at made
  obtain ⟨bucket, first, role, second, logs, third, layers, fourth, declared, block, full, fifth, outputs, _, rfl⟩ :=
    made
  exact ⟨bucket, role, logs, layers, declared, full, outputs, first, second, third, fourth, block, fifth, rfl⟩

theorem addLogGroups_cons (service : ServiceConfig) (graph after : Graph) (name : String)
    (function : FunctionConfig) (rest : List (String × FunctionConfig))
    (added : addLogGroups service graph ((name, function) :: rest) = .ok after) :
    ∃ next, (function.disableLogs = true ∧ next = graph ∨
        graph.add (Naming.logGroup name) (logGroup service name) = .ok next) ∧
      addLogGroups service next rest = .ok after := by
  rw [addLogGroups] at added
  split at added
  case isTrue disabled => exact ⟨graph, Or.inl ⟨disabled, rfl⟩, added⟩
  case isFalse =>
    rw [Result.bind_ok] at added
    obtain ⟨next, first, others⟩ := added
    exact ⟨next, Or.inr first, others⟩

theorem addLayers_cons (service : ServiceConfig) (graph after : Graph) (name : String) (config : LayerConfig)
    (rest : List (String × LayerConfig)) (added : addLayers service graph ((name, config) :: rest) = .ok after) :
    ∃ artifact next, graph.add (Naming.layer name) (layer service name config artifact) = .ok next ∧
      addLayers service next rest = .ok after := by
  simp only [addLayers, Result.bind_ok] at added
  obtain ⟨artifact, _, next, first, others⟩ := added
  exact ⟨artifact, next, first, others⟩

theorem addDeclared_cons (graph after : Graph) (id : String) (value : Value) (rest : Fields)
    (added : addDeclared graph ((id, value) :: rest) = .ok after) :
    ∃ resource next, Resource.ofValue value = .ok resource ∧ graph.add id resource = .ok next ∧
      addDeclared next rest = .ok after := by
  simp only [addDeclared, Result.bind_ok] at added
  obtain ⟨resource, read, next, first, others⟩ := added
  exact ⟨resource, next, read, first, others⟩

theorem addLogGroups_extends (service : ServiceConfig) (graph after : Graph)
    (functions : List (String × FunctionConfig)) (added : addLogGroups service graph functions = .ok after) :
    graph.Extends after := by
  induction functions generalizing graph with
  | nil =>
      cases added
      exact .refl _
  | cons entry rest ih =>
      obtain ⟨next, first, others⟩ := addLogGroups_cons service graph after entry.1 entry.2 rest added
      rcases first with ⟨_, rfl⟩ | first
      · exact ih next others
      · exact (Graph.add_extends graph next _ _ first).trans (ih next others)

theorem addLayers_extends (service : ServiceConfig) (graph after : Graph)
    (layers : List (String × LayerConfig)) (added : addLayers service graph layers = .ok after) :
    graph.Extends after := by
  induction layers generalizing graph with
  | nil =>
      cases added
      exact .refl _
  | cons entry rest ih =>
      obtain ⟨_, next, first, others⟩ := addLayers_cons service graph after entry.1 entry.2 rest added
      exact (Graph.add_extends graph next _ _ first).trans (ih next others)

theorem addDeclared_extends (graph after : Graph) (declared : Fields)
    (added : addDeclared graph declared = .ok after) : graph.Extends after := by
  induction declared generalizing graph with
  | nil =>
      cases added
      exact .refl _
  | cons entry rest ih =>
      obtain ⟨_, next, _, first, others⟩ := addDeclared_cons graph after entry.1 entry.2 rest added
      exact (Graph.add_extends graph next _ _ first).trans (ih next others)

theorem addDeclaredOutputs_resources (graph : Graph) (declared : Fields) :
    (addDeclaredOutputs graph declared).resources = graph.resources := by
  unfold addDeclaredOutputs
  split <;> rfl

/-- The default role is used if the role of some function is the default one. -/
theorem usesDefaultRole_iff (provider : ProviderConfig) (functions : List (String × FunctionConfig)) (uses : Bool)
    (found : usesDefaultRole provider functions = .ok uses) (name : String) (function : FunctionConfig)
    (role : Role) (member : (name, function) ∈ functions) (resolves : Role.ofFunction function provider = .ok role)
    (default : role.isDefault = true) : uses = true := by
  induction functions with
  | nil => cases member
  | cons entry rest ih =>
      obtain ⟨first, settings⟩ := entry
      rw [usesDefaultRole, Result.bind_ok] at found
      obtain ⟨own, resolved, decided⟩ := found
      split at decided
      · exact ((Result.pure_ok _ _).mp decided).symm
      case isFalse other =>
        rcases List.mem_cons.mp member with same | member
        · cases same
          rw [resolves] at resolved
          cases resolved
          exact absurd default other
        · exact ih decided member

theorem addBucket_ok (service : ServiceConfig) (graph after : Graph) (added : addBucket service graph = .ok after) :
    after = graph ∨ ∃ next, graph.add deploymentBucketId bucketResource = .ok next ∧
      after.resources = next.resources := by
  unfold addBucket at added
  split at added
  · exact Or.inl ((Result.pure_ok _ _).mp added).symm
  · rw [Result.bind_ok] at added
    obtain ⟨next, first, second⟩ := added
    exact Or.inr ⟨next, first, Graph.addOutput_ok next after _ _ _ second⟩

/-- The execution role is put in as it is made, if the role is used. -/
theorem addRole_ok (service : ServiceConfig) (bucket graph : Graph)
    (seeded : addBucket service Graph.empty = .ok bucket) (added : addRole service bucket = .ok graph) :
    (usesDefaultRole service.provider service.functions = .ok false ∧ graph = bucket) ∨
      usesDefaultRole service.provider service.functions = .ok true ∧
        bucket.add defaultExecutionRole (executionRole service) = .ok graph ∧
        graph.find? defaultExecutionRole = some (executionRole service) := by
  have free : bucket.find? defaultExecutionRole = none := by
    rcases addBucket_ok service Graph.empty bucket seeded with rfl | ⟨next, first, same⟩
    · rfl
    · rw [Graph.find?, same]
      rcases Graph.add_ok Graph.empty next _ _ first with ⟨_, rfl⟩ | ⟨_, taken, _⟩
      · rfl
      · cases taken
  rw [addRole, Result.bind_ok] at added
  obtain ⟨uses, found, added⟩ := added
  cases uses with
  | false => exact Or.inl ⟨found, ((Result.pure_ok _ _).mp added).symm⟩
  | true =>
      rw [if_pos rfl] at added
      refine Or.inr ⟨found, added, ?_⟩
      rcases Graph.add_ok bucket graph _ _ added with ⟨_, rfl⟩ | ⟨_, taken, _⟩
      · rw [Graph.find?] at free ⊢
        rw [Table.find?_append, free]
        rfl
      · rw [free] at taken
        cases taken

/-- The core graph holds the execution role as it is made, if the role is used. -/
theorem graph_role (service : ServiceConfig) (graph : Graph) (made : Core.graph service = .ok graph)
    (name : String) (function : FunctionConfig) (role : Role) (member : (name, function) ∈ service.functions)
    (resolves : Role.ofFunction function service.provider = .ok role) (default : role.isDefault = true) :
    graph.find? defaultExecutionRole = some (executionRole service) := by
  obtain ⟨bucket, seeded, logs, layers, declared, full, outputs, first, second, third, fourth, _, fifth, rfl⟩ :=
    graph_ok service graph made
  have placed : seeded.find? defaultExecutionRole = some (executionRole service) := by
    rcases addRole_ok service bucket seeded first second with ⟨unused, _⟩ | ⟨_, _, placed⟩
    · have uses := usesDefaultRole_iff _ _ _ unused name function role member resolves default
      cases uses
    · exact placed
  have kept := (addLogGroups_extends service seeded logs _ third).trans
    ((addLayers_extends service logs layers _ fourth).trans (addDeclared_extends layers full declared fifth))
  have whole := kept _ _ placed
  rw [Graph.find?] at whole ⊢
  rw [addDeclaredOutputs_resources]
  exact whole

/-- A declared resource whose id is taken equals the resource that is there. -/
theorem addDeclared_same (graph after : Graph) (declared : Fields) (added : addDeclared graph declared = .ok after)
    (id : String) (existing : Resource) (found : graph.find? id = some existing) (listed : id ∈ declared.keys) :
    ∃ value resource, (id, value) ∈ declared ∧ Resource.ofValue value = .ok resource ∧
      existing.same resource = true := by
  induction declared generalizing graph with
  | nil => cases listed
  | cons entry rest ih =>
      obtain ⟨first, value⟩ := entry
      obtain ⟨resource, next, read, placed, others⟩ := addDeclared_cons graph after first value rest added
      rcases List.mem_cons.mp listed with rfl | listed
      · rcases Graph.add_ok graph next _ resource placed with ⟨free, _⟩ | ⟨known, present, same, _⟩
        · rw [found] at free
          cases free
        · rw [found] at present
          cases present
          exact ⟨value, resource, List.mem_cons_self .., read, same⟩
      · obtain ⟨other, equal, member, reads, same⟩ :=
          ih next others (Graph.add_find? graph next first id resource existing placed found) listed
        exact ⟨other, equal, List.mem_cons_of_mem _ member, reads, same⟩

/-- The policy of the execution role is complete from the start. -/
theorem completeRole_executionRole (service : ServiceConfig) :
    ExecutionPolicy.completeRole (executionRole service).properties = .ok (executionRole service).properties := by
  rfl

theorem statementOf_executionRole (service : ServiceConfig) :
    ExecutionPolicy.statementOf (executionRole service).properties = .arr (logStatements service) := by
  rfl

end FunctionStack.Core
