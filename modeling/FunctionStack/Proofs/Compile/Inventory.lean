import FunctionStack.Proofs.Compile.Whole
import FunctionStack.Proofs.Template.Reordering
import FunctionStack.Proofs.Text.Listing

/-!
Exactly which ids a compiled template has, and in which order. Adding a resource takes its id if that is free, and so the ids
are the first occurrences of what the core graph and the courses of the functions have added, one after another.
-/

namespace FunctionStack

open Build (Yields performAll yields_performAll_cons yields_performAll_nil yields_performAll_append performAll_aside)

namespace Graph

/-- The ids of a graph are the first occurrences of those that have been added. -/
def Lists (graph : Graph) (added : List String) : Prop := graph.ids = Text.distinct added

variable {graph after : Graph} {added : List String}

theorem Lists.congr (lists : graph.Lists added) (same : after.ids = graph.ids) : after.Lists added := same.trans lists

theorem Lists.add {id : String} {resource : Resource} (lists : graph.Lists added) (adds : graph.add id resource = .ok after) :
    after.Lists (added ++ [id]) := by
  have known : id ∈ graph.ids ↔ id ∈ added := by rw [show graph.ids = _ from lists, Text.mem_distinct]
  unfold Lists at lists ⊢
  rw [Text.distinct_append_single]
  rcases add_ok graph after id resource adds with ⟨free, rfl⟩ | ⟨held, taken, -, rfl⟩
  · have fresh : id ∉ graph.ids := (Table.find?_none_iff graph.resources id).mp free
    rw [if_neg fun member => fresh (known.mpr member), ← lists]
    exact List.map_append
  · have present : id ∈ after.ids := List.mem_map_of_mem (Table.find?_some_mem _ _ _ taken)
    rw [if_pos (known.mp present), lists]

theorem Lists.addAll {resources : Table Resource} (lists : graph.Lists added) (adds : graph.addAll resources = .ok after) :
    after.Lists (added ++ resources.keys) := by
  induction resources generalizing graph added with
  | nil =>
      rw [(addAll_nil graph after).mp adds] at lists
      rwa [Table.keys, List.map_nil, List.append_nil]
  | cons entry rest ih =>
      obtain ⟨id, resource⟩ := entry
      obtain ⟨next, first, others⟩ := (addAll_cons graph after id resource rest).mp adds
      have whole := ih (lists.add first) others
      rwa [List.append_assoc] at whole

theorem readResources_keys (block : Fields) (resources : Table Resource) (read : readResources block = .ok resources) :
    resources.keys = block.keys := by
  induction block generalizing resources with
  | nil =>
      cases read
      rfl
  | cons entry rest ih =>
      simp only [readResources, Result.bind_ok, Result.pure_ok] at read
      obtain ⟨_, _, others, made, rfl⟩ := read
      rw [Table.keys_cons, ih others made]
      rfl

end Graph

namespace Core

/-- The ids a service starts from, in front of those of its block of resources. -/
def seedIds (service : ServiceConfig) : List String :=
  (if (Text.given service.provider.deploymentBucket).isSome then [] else [deploymentBucketId]) ++
    (if service.functions.any fun entry => (Role.ofFunction entry.2 service.provider).toOption.any Role.isDefault then
      [defaultExecutionRole] else []) ++
    Naming.logGroups service.functions ++ service.layers.keys.map Naming.layer

theorem Seeds.all_keys {service : ServiceConfig} (seeds : Seeds service)
    (roles : ∀ entry ∈ service.functions, ∃ role, Role.ofFunction entry.2 service.provider = .ok role) :
    seeds.all.keys = seedIds service ++ seeds.declared.keys := by
  have uses := (usesDefaultRole_any service.provider service.functions roles).symm.trans seeds.settled
  have bucket : (bucketSeeds service).keys =
      if (Text.given service.provider.deploymentBucket).isSome then [] else [deploymentBucketId] := by
    unfold bucketSeeds
    split <;> rfl
  have role : (roleSeeds service seeds.uses).keys = if seeds.uses then [defaultExecutionRole] else [] := by
    unfold roleSeeds
    split <;> rfl
  have layers : seeds.layers.keys = service.layers.keys.map Naming.layer :=
    layerSeeds_keys service service.layers seeds.layers seeds.packaged
  rw [all, seedIds, Except.ok.inj uses, ← bucket, ← role, ← logSeeds_keys service, ← layers]
  simp only [Table.keys, List.map_append]

/-- A core graph lists its own ids and then those of the block of resources. -/
theorem graph_lists (service : ServiceConfig) (graph : Graph) (made : Core.graph service = .ok graph)
    (roles : ∀ entry ∈ service.functions, ∃ role, Role.ofFunction entry.2 service.provider = .ok role) :
    ∃ declared, Fields.entries service.resources "Resources" = .ok declared ∧
      graph.Lists (seedIds service ++ declared.keys) := by
  obtain ⟨seeds, full, added, rfl⟩ := (graph_iff service graph).mp made
  obtain ⟨declared, listed, read⟩ := seeds.read
  have start : Graph.Lists ⟨[], .obj (bucketOutputs service)⟩ [] := rfl
  have whole := start.addAll added
  rw [List.nil_append, seeds.all_keys roles, Graph.readResources_keys declared seeds.declared read] at whole
  exact ⟨declared, listed, whole.congr (congrArg Table.keys (addDeclaredOutputs_resources full seeds.outputs))⟩

end Core

namespace Move

/-- The ids under which moves place something. -/
def ids (moves : List Move) : List String := Table.keys (moves.flatMap placed)

theorem ids_append (first second : List Move) : ids (first ++ second) = ids first ++ ids second := by
  simp [ids, Table.keys]

theorem ids_settings (role : Role) (statements : List Value) : ids (settings role statements) = [] := by
  unfold settings
  split
  · induction statements with
    | nil => rfl
    | cons _ _ ih => exact ih
  · rfl

theorem ids_sends (name : String) (role : Role) (destinations : List (String × Destination)) :
    ids (sends name role destinations) = [] := by
  unfold sends
  split
  · induction destinations with
    | nil => rfl
    | cons _ _ ih => exact ih
  · rfl

end Move

namespace Build

/-- A grant changes the default role at most. -/
theorem grant_ids (fields : Fields) (w left : Workspace) (added : Bool)
    (granted : Yields (grant (.obj fields)) w added left) : left.graph.ids = w.graph.ids := by
  rcases (grant_iff _ w left added).mp granted with ⟨_, _, rfl⟩ | ⟨policy, graph, kept, _, made, rfl⟩
  · rfl
  · obtain ⟨_, _, ⟨_, _, rfl⟩ | ⟨_, _, _, _, rfl⟩⟩ :=
      ExecutionPolicy.add_ok w.graph graph policy kept fields added made
    · rfl
    · exact ExecutionPolicy.setProperties_ids _ _ _

end Build

/-- A move lists the ids under which it places something. -/
theorem Move.perform_lists (move : Move) (regular : move.Regular) (w left : Workspace) (added : List String)
    (performed : Yields move.perform w () left) (lists : w.graph.Lists added) :
    left.graph.Lists (added ++ ids [move]) := by
  cases move with
  | allow statement =>
      obtain ⟨fields, rfl⟩ := regular.table statement rfl
      obtain ⟨_, granted⟩ := (Build.yields_discard _ _ _).mp performed
      rw [show ids [allow (.obj fields)] = [] from rfl, List.append_nil]
      exact lists.congr (Build.grant_ids fields w left _ granted)
  | send function destination =>
      obtain ⟨_, granted⟩ := (Build.yields_discard _ _ _).mp performed
      rw [show ids [send function destination] = [] from rfl, List.append_nil]
      rcases (Build.grantDestination_iff function destination w left _).mp granted with
        ⟨_, _, rfl⟩ | ⟨_, _, _, rfl⟩ | ⟨_, _, granted⟩
      · exact lists
      · exact lists
      · have kept := Build.grant_ids _ _ left _ granted
        exact lists.congr kept
  | place id resource =>
      obtain ⟨graph, adds, rfl⟩ := (Build.yields_addResource _ _ _ _ _).mp performed
      exact lists.add adds
  | expose id value description =>
      obtain ⟨graph, adds, rfl⟩ := (Build.yields_addOutput _ _ _ _ _ _).mp performed
      rw [show ids [expose id value description] = [] from rfl, List.append_nil]
      exact lists.congr (congrArg Table.keys (Graph.addOutput_ok _ _ _ _ _ adds))

theorem Build.performAll_lists (moves : List Move) (regular : ∀ move ∈ moves, move.Regular) (w left : Workspace)
    (added : List String) (performed : Yields (performAll moves) w () left) (lists : w.graph.Lists added) :
    left.graph.Lists (added ++ Move.ids moves) := by
  induction moves generalizing w added with
  | nil =>
      rw [(yields_performAll_nil _ _).mp performed] at lists
      rwa [show Move.ids [] = [] from rfl, List.append_nil]
  | cons move rest ih =>
      obtain ⟨between, first, others⟩ := (yields_performAll_cons _ _ _ _).mp performed
      obtain ⟨own, later⟩ := List.forall_mem_cons.mp regular
      have whole := ih later between _ others (move.perform_lists own w between added first lists)
      rwa [List.append_assoc, ← Move.ids_append] at whole

/-- The ids of a function's resources as its record has them. The permission of a URL is the one that no record has. -/
def CompiledFunction.inventory (record : CompiledFunction) (function : FunctionConfig) : List String :=
  [record.id] ++ record.version.toList ++ record.targetAlias.toList ++ record.url.toList ++
    (if (function.url >>= Url.ofSetting?).any Url.isPublic then [Naming.urlPermission record.name] else []) ++
    record.eventConfig.toList

/-- The alias through which a function is to be called: one for provisioned concurrency, or one for SnapStart. -/
def FunctionConfig.calledThrough (function : FunctionConfig) (name : String) : Option TargetAlias :=
  if function.provisionedConcurrency.getD 0 ≠ 0 then some (.provisioned name)
  else if function.snapStart then some (.snapStart name) else none

/-- A record has an id for each resource that its function is compiled into, and none for any other. -/
structure CompiledFunction.Covers (provider : ProviderConfig) (entry : String × FunctionConfig) (record : CompiledFunction) :
    Prop where
  name : record.name = entry.1
  id : record.id = Naming.function entry.1
  version : ∀ id, record.version = some id → ∃ digest, id = Version.id entry.1 digest
  versioned : record.version.isSome = true ↔ entry.2.versionFunction.getD provider.versionFunctions = true ∨
    entry.2.provisionedConcurrency.getD 0 ≠ 0 ∨ entry.2.snapStart = true
  targetAlias : record.targetAlias = (entry.2.calledThrough entry.1).map (·.id)
  url : record.url = (entry.2.url >>= Url.ofSetting?).map fun _ => Naming.url entry.1
  eventConfig : record.eventConfig = if entry.2.destinations.isSome ∨ entry.2.maximumEventAge.getD 0 ≠ 0 ∨
    entry.2.maximumRetryAttempts.isSome then some (Naming.eventConfig entry.1) else none

namespace Plan

theorem moves_ids (plan : Plan) (blueprint : Blueprint) :
    Move.ids (plan.moves blueprint) = plan.record.inventory plan.function := by
  have version : Move.ids (plan.digest.elim [] (Move.version plan.name plan.function)) =
      plan.record.version.toList ++ plan.record.targetAlias.toList := by
    unfold record via
    cases plan.digest with
    | none => rfl
    | some digest =>
        rw [Option.elim_some, Move.version, Move.ids_append]
        cases Blueprint.versionAlias? plan.name plan.function <;> rfl
  have url : Move.ids (Move.url plan.name plan.function plan.via) = plan.record.url.toList ++
      if (plan.function.url >>= Url.ofSetting?).any Url.isPublic then [Naming.urlPermission plan.name] else [] := by
    unfold record Move.url
    cases plan.function.url >>= Url.ofSetting? with
    | none => rfl
    | some config =>
        rw [Move.ids_append, Option.any_some]
        cases Url.isPublic config <;> rfl
  have event : Move.ids plan.eventConfig = plan.record.eventConfig.toList := by
    unfold record eventConfig
    cases EventConfig.isNeeded plan.function with
    | false => rfl
    | true =>
        rw [if_pos rfl, Move.ids_append, Move.ids_sends]
        rfl
  rw [moves, opening, finishing]
  simp only [Move.ids_append, Move.ids_settings, version, url, event, CompiledFunction.inventory, List.nil_append,
    List.append_assoc]
  rfl

/-- A number that is set to zero counts as not set. -/
theorem nonZero_isSome (number : Option Int) : (Settings.nonZero number).isSome = true ↔ number.getD 0 ≠ 0 := by
  cases number with
  | none => simp [Settings.nonZero]
  | some n => by_cases zero : n = 0 <;> simp [Settings.nonZero, zero]

theorem versioned_iff (function : FunctionConfig) (provider : ProviderConfig) :
    Compute.isVersioned function provider = true ↔ function.versionFunction.getD provider.versionFunctions = true ∨
      function.provisionedConcurrency.getD 0 ≠ 0 ∨ function.snapStart = true := by
  rw [Compute.isVersioned, Bool.or_eq_true, Bool.or_eq_true, nonZero_isSome, or_assoc]

theorem versionAlias_map (name : String) (function : FunctionConfig) :
    (Blueprint.versionAlias? name function).map Prod.fst = function.calledThrough name := by
  have counted := nonZero_isSome function.provisionedConcurrency
  unfold Blueprint.versionAlias? FunctionConfig.calledThrough
  cases found : Settings.nonZero function.provisionedConcurrency with
  | some count =>
      rw [if_pos (counted.mp (by rw [found]; rfl))]
      rfl
  | none =>
      have zero : ¬ function.provisionedConcurrency.getD 0 ≠ 0 := by
        rw [← counted, found]
        exact Bool.false_ne_true
      rw [if_neg zero]
      cases function.snapStart <;> rfl

section

variable {plan : Plan} {blueprint : Blueprint} {session : RegistrySession} {graph : Graph}
  (makes : blueprint.Makes session graph plan)

include makes

theorem digest_isSome : plan.digest.isSome = true ↔ Compute.isVersioned plan.function blueprint.provider = true := by
  cases versioned : Compute.isVersioned plan.function blueprint.provider with
  | false => simp [makes.plain versioned]
  | true =>
      obtain ⟨_, digest, published, _⟩ := makes.published versioned
      simp [published]

/-- The alias of a plan is the one that its settings ask for, because they ask for a version as well. -/
theorem via_eq : plan.via = plan.function.calledThrough plan.name := by
  rw [← versionAlias_map, via]
  cases published : plan.digest with
  | some digest => rfl
  | none =>
      have unversioned : ¬ Compute.isVersioned plan.function blueprint.provider = true := by
        rw [← digest_isSome makes, published]
        exact Bool.false_ne_true
      rw [versioned_iff, not_or, not_or, not_not] at unversioned
      obtain ⟨-, zero, plain⟩ := unversioned
      rw [versionAlias_map, FunctionConfig.calledThrough, if_neg (not_not.mpr zero), if_neg plain]
      rfl

/-- What is recorded of a plan is what the settings of its function ask for. -/
theorem record_covers : plan.record.Covers blueprint.provider plan.entry where
  name := rfl
  id := rfl
  version := by
    intro id published
    obtain ⟨digest, _, same⟩ := Option.map_eq_some_iff.mp published
    exact ⟨digest, same.symm⟩
  versioned := by
    have recorded : plan.record.version.isSome = plan.digest.isSome := Option.isSome_map
    rw [recorded, digest_isSome makes]
    exact versioned_iff plan.function blueprint.provider
  targetAlias := by
    rw [record, via_eq makes]
    rfl
  url := rfl
  eventConfig := by
    rw [record, EventConfig.isNeeded]
    simp only [Bool.or_eq_true, nonZero_isSome, or_assoc]
    rfl

end

end Plan

namespace Blueprint

theorem course_ids (blueprint : Blueprint) (plans : List Plan) : Move.ids (blueprint.course plans) =
    (plans.map fun plan => plan.record.inventory plan.function).flatten := by
  induction plans with
  | nil => rfl
  | cons plan rest ih =>
      rw [List.map_cons, List.flatten_cons, ← ih, ← plan.moves_ids blueprint, ← Move.ids_append]
      rfl

/-- A service compiles into exactly these resources, in this order: what it starts from, what it declares, and for each
function what its settings ask for. The records have one entry for each function, with an id for whatever it is compiled
into. -/
theorem compileService_inventory (service : ServiceConfig) (files : Files) (registry : Registry) (enforce : Bool)
    (graph : Graph) (compiled : List CompiledFunction)
    (compiles : ((ofService service files registry enforce).compileService none).1 = .ok (graph, compiled)) :
    List.Forall₂ (CompiledFunction.Covers service.provider) service.functions compiled ∧
      ∃ declared, Fields.entries service.resources "Resources" = .ok declared ∧
        graph.ids = Text.distinct (Core.seedIds service ++ declared.keys ++
          (List.zipWith (fun entry record => record.inventory entry.2) service.functions compiled).flatten) := by
  obtain ⟨core, w, start, policy, plans, seeded, took, rfl, rfl⟩ := compileService_took compiles
  have entries : plans.map Plan.entry = service.functions := took.entries
  have roles (entry : String × FunctionConfig) (member : entry ∈ service.functions) :
      ∃ role, Role.ofFunction entry.2 service.provider = .ok role := by
    rw [← entries] at member
    obtain ⟨plan, planned, rfl⟩ := List.mem_map.mp member
    obtain ⟨_, _, makes⟩ := took.made plan planned
    exact ⟨plan.role, makes.role⟩
  obtain ⟨declared, listed, lists⟩ := Core.graph_lists service core seeded roles
  have completed := ExecutionPolicy.ofGraph_keeps core start policy took.begins
  have whole := Build.performAll_lists _ (course_regular _ plans) _ _ _ took.course (lists.congr completed.1)
  refine ⟨?_, declared, listed, ?_⟩
  · rw [← entries, List.forall₂_map_left_iff, List.forall₂_map_right_iff, List.forall₂_same]
    intro plan planned
    obtain ⟨_, _, makes⟩ := took.made plan planned
    exact Plan.record_covers makes
  · rw [← entries, List.zipWith_map, List.zipWith_self]
    rw [course_ids] at whole
    exact whole

/-- Two functions with one normalized name that are one function in the template, next to one with all that there is. -/
def twins : ServiceConfig := .ofFields [
  ("service", .str "s"),
  ("provider", .obj [("versionFunctions", .bool false)]),
  ("package", .obj [("artifact", .str "code.zip")]),
  ("functions", .obj [
    ("a_b", .obj [("handler", .str "h"), ("name", .str "ab"), ("disableLogs", .bool true)]),
    ("aUnderscoreb", .obj [("handler", .str "h"), ("name", .str "ab"), ("disableLogs", .bool true)]),
    ("api", .obj [("handler", .str "api.handle"), ("url", .bool true), ("maximumEventAge", .int 60)])]),
  ("resources", .obj [("Resources", .obj [("Queue", .obj [("Type", .str "AWS::SQS::Queue")])])])]

/-- One function is in the template where two are in the records. -/
theorem twins_inventory : ∃ graph compiled,
    ((packaged twins).compileService none).1 = .ok (graph, compiled) ∧
      List.Forall₂ (CompiledFunction.Covers twins.provider) twins.functions compiled ∧
      graph.ids = [deploymentBucketId, defaultExecutionRole, "ApiLogGroup", "Queue", "AUnderscorebLambdaFunction",
        "ApiLambdaFunction", "ApiLambdaFunctionUrl", "ApiLambdaPermissionFnUrl", "ApiLambdaEventConfig"] := by
  obtain ⟨graph, compiled, compiles, known⟩ := compileService_any (packaged twins) none
    (fun _ compiled => decide (compiled = [
      ⟨"a_b", "AUnderscorebLambdaFunction", none, none, none, none⟩,
      ⟨"aUnderscoreb", "AUnderscorebLambdaFunction", none, none, none, none⟩,
      ⟨"api", "ApiLambdaFunction", none, none, some "ApiLambdaFunctionUrl", some "ApiLambdaEventConfig"⟩]))
    (by decide +kernel)
  obtain ⟨covers, declared, listed, ids⟩ := compileService_inventory twins _ _ _ graph compiled compiles
  refine ⟨graph, compiled, compiles, covers, ?_⟩
  cases of_decide_eq_true known
  cases listed
  rw [ids]
  decide +kernel

end Blueprint

end FunctionStack
