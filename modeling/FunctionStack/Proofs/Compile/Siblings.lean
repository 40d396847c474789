import FunctionStack.Proofs.Compile.Permutation
import FunctionStack.Proofs.Template.Retention

/-!
A function among other functions. Whatever these are, the function is compiled into the same: its plan reads its own
settings and layers, and nothing that is placed for another function gets into its places.
-/

namespace FunctionStack

/-- Where an event config points to does not depend on how names of functions are resolved. -/
theorem Destination.classify_reference (target : Value) (owner : String) (first second : String → Result Value)
    (one two : Destination) (given : target.given = true) (read : classify target owner first = .ok one)
    (again : classify target owner second = .ok two) : one.reference = two.reference := by
  cases target with
  | str text =>
      unfold classify ofText at read again
      dsimp only at read again
      split at read
      case isTrue arn =>
        rw [if_pos arn, read] at again
        cases again
        rfl
      case isFalse named =>
        rw [if_neg named] at again
        obtain ⟨_, _, same⟩ := (Result.bind_ok _ _ _).mp read
        obtain ⟨_, _, alike⟩ := (Result.bind_ok _ _ _).mp again
        cases same
        cases alike
        have known : Text.given (some text) = some text := by simpa [Text.given, Value.given] using given
        simp only [reference, known]
  | obj fields =>
      rw [show classify (.obj fields) owner second = classify (.obj fields) owner first from rfl, read] at again
      cases again
      rfl
  | _ => cases read

namespace Plan

variable {plan : Plan} {blueprint : Blueprint}

/-- What a plan places depends on what has been found out about its function, and on destinations only for where the event
config points to. -/
theorem Places.congr {twin : Plan} {other : Blueprint} (name : twin.name = plan.name) (function : twin.function = plan.function)
    (digest : twin.digest = plan.digest) (made : twin.compute other = plan.compute blueprint)
    (same : entries twin.destinations = entries plan.destinations) {kind : Kind} {id : String} {resource : Resource}
    (places : plan.Places blueprint kind id resource) : twin.Places other kind id resource := by
  have via : twin.via = plan.via := by rw [Plan.via, Plan.via, name, function, digest]
  cases places with
  | compute =>
      rw [← made, ← name]
      exact .compute
  | version own published =>
      rw [← name, ← function]
      exact .version own (digest.trans published)
  | targetAlias own through extra published found =>
      rw [← name]
      exact .targetAlias own through extra (digest.trans published) (by rw [name, function, found])
  | url url found =>
      rw [← name, ← via]
      exact .url url (by rw [function, found])
  | permission url found free =>
      rw [← name, ← via]
      exact .permission url (by rw [function, found]) free
  | eventConfig needed =>
      rw [← name, ← function, ← via, ← same]
      exact .eventConfig (by rw [function, needed])

/-- Destinations matter only for where the event config points to. -/
theorem Places.redirected (destinations : List (String × Destination))
    (same : entries destinations = entries plan.destinations) {kind : Kind} {id : String} {resource : Resource}
    (places : plan.Places blueprint kind id resource) :
    Places { plan with destinations := destinations } blueprint kind id resource := by
  refine places.congr ?_ ?_ ?_ ?_ same <;> rfl

end Plan

namespace Blueprint

/-- A function in a compilation that has succeeded: the core graph is still there and so is all that the plan places, the
layers are those of the core graph, and the plan can be made once more. -/
structure Hosts (blueprint : Blueprint) (core after : Graph) (plan : Plan) : Prop where
  own : ∀ value ∈ plan.function.written, value.isProper = true
  shared : ∀ value ∈ blueprint.provider.written, value.isProper = true
  makes : blueprint.Makes ⟨[], []⟩ after plan
  keeps : ∀ id resource, id ≠ defaultExecutionRole → core.find? id = some resource → after.find? id = some resource
  places : ∀ kind id resource, plan.Places blueprint kind id resource →
    after.find? id = some ((core.find? id).getD resource) ∧ ((core.find? id).getD resource).Fits resource
  layers : ∀ id ∈ layerIds plan.function blueprint.provider, id ≠ defaultExecutionRole ∧ after.find? id = core.find? id

theorem compile_hosts {blueprint : Blueprint} (names : Naming.Distinct blueprint.functions) (proper : blueprint.IsProper)
    (core : Graph) (w : Workspace) (compiles : blueprint.compile core ⟨[], []⟩ = (.ok (), w))
    (entry : String × FunctionConfig) (declared : entry ∈ blueprint.functions)
    (spared : blueprint.LayersApart core w.graph [entry]) :
    ∃ plan : Plan, plan.entry = entry ∧ blueprint.Hosts core w.graph plan ∧
      ∀ record, record ∈ w.compiled ∧ record.name = entry.1 ↔ record = plan.record := by
  obtain ⟨completed, policy, plans, ran⟩ := compile_ran proper compiles
  have apart : Plan.Apart plans := (Plan.apart_iff plans).mpr (ran.entries.symm ▸ names)
  have grows : completed.Grows w.graph ((blueprint.course plans).flatMap Move.placed) := ran.performed.grows
  obtain ⟨plan, planned, rfl⟩ := List.mem_map.mp (ran.entries.symm ▸ declared)
  have before := ExecutionPolicy.ofGraph_elsewhere core completed policy ran.begins
  refine ⟨plan, rfl, ⟨?_, proper.provider, ran.makes plan planned spared, ?_, ?_, ?_⟩, fun record => ?_⟩
  · exact proper.functions plan.name plan.function declared
  · intro id resource elsewhere found
    rw [← before id elsewhere] at found
    exact (grows.has id elsewhere (Option.isSome_iff_exists.mpr ⟨resource, found⟩)).trans found
  · intro kind id resource places
    have held := course_held apart grows planned places
    rw [before id places.ne_role] at held
    obtain ⟨kept, found, fits⟩ :=
      grows.fits id resource ((course_placed blueprint plans id resource).mpr ⟨plan, planned, kind, places⟩)
    rw [held] at found
    cases found
    exact ⟨held, fits⟩
  · intro id listed
    have layers := spared.completed ran.begins
    obtain ⟨elsewhere, known⟩ := layers plan.name plan.function (List.mem_singleton.mpr rfl) id listed
    refine ⟨elsewhere, ?_⟩
    rw [← before id elsewhere]
    exact ((Graph.Grows.refl completed).between grows id elsewhere known).symm
  · rw [ran.records, List.mem_map]
    constructor
    · rintro ⟨⟨other, listed, rfl⟩, same⟩
      rw [List.inj_on_of_nodup_map apart listed planned (congrArg Naming.normalized same)]
    · rintro rfl
      exact ⟨⟨plan, planned, rfl⟩, rfl⟩

/-- Nothing that a function is compiled into takes the place of a log group. -/
theorem Hosts.spares_logs {blueprint : Blueprint} {core after : Graph} {plan : Plan}
    (hosts : blueprint.Hosts core after plan) (seeded : Core.graph blueprint.service = .ok core)
    (names : Naming.Distinct blueprint.service.functions) {kind : Plan.Kind} {id : String} {resource : Resource}
    (places : plan.Places blueprint kind id resource) :
    id ∉ Naming.logGroups blueprint.service.functions := by
  intro member
  obtain ⟨⟨name, function⟩, listed, rfl⟩ := List.mem_map.mp member
  obtain ⟨declared, logs⟩ := List.mem_filter.mp listed
  have fits := (hosts.places kind _ resource places).2
  rw [Core.graph_logGroup blueprint.service core seeded names name function declared (by simpa using logs),
    Option.getD_some] at fits
  have type : resource.type = .str "AWS::Logs::LogGroup" := by
    rcases fits with same | equal
    · rw [← same]
      rfl
    · simp only [Resource.same, Bool.and_eq_true] at equal
      exact Value.same_str equal.1.1.1.1
  rw [places.type] at type
  cases kind <;> exact absurd (Value.str.inj type) (by decide)

section Twins

variable {service : ServiceConfig} {others : Table FunctionConfig} {files : Files} {registry : Registry} {enforce : Bool}
  {plan twin : Plan}

theorem targets_agree (name : String) (targets : List (String × Value)) (own theirs : List (String × Destination))
    (given : ∀ target ∈ targets, target.2.given = true)
    (one : List.Forall₂ (fun target entry => target.1 = entry.1 ∧
      (ofService service files registry enforce).destination name target.2 = .ok entry.2) targets own)
    (two : List.Forall₂ (fun target entry => target.1 = entry.1 ∧
      (ofService (service.withFunctions others) files registry enforce).destination name target.2 = .ok entry.2)
      targets theirs) :
    Plan.entries theirs = Plan.entries own := by
  induction one generalizing theirs with
  | nil =>
      cases two
      rfl
  | cons first rest ih =>
      cases two with
      | cons second more =>
          obtain ⟨here, later⟩ := List.forall_mem_cons.mp given
          have same := Destination.classify_reference _ _ _ _ _ _ here first.2 second.2
          have tail := ih _ later more
          simp only [Plan.entries, List.map_cons] at tail ⊢
          rw [← first.1, ← second.1, same, tail]

/-- Blueprints with one provider and one way to find code resolve the role and the code of a function alike. -/
theorem Makes.settings {first second : Blueprint} {session : RegistrySession} {graph other : Graph}
    (one : first.Makes session graph plan) (two : second.Makes session other twin)
    (provider : second.provider = first.provider) (codes : second.codeFrom = first.codeFrom)
    (same : twin.entry = plan.entry) : twin.role = plan.role ∧ twin.code = plan.code := by
  obtain ⟨name, function⟩ := Prod.mk.inj same
  have role := two.role
  have code := two.code
  rw [function, provider] at role
  rw [name, function, codes] at code
  exact ⟨Except.ok.inj (role.symm.trans one.role), Except.ok.inj (code.symm.trans one.code)⟩

/-- Plans for one function that are made from the same graph differ at most in the pointers of their destinations. -/
theorem Makes.agree {session : RegistrySession} {graph : Graph}
    (one : (ofService service files registry enforce).Makes session graph plan)
    (two : (ofService (service.withFunctions others) files registry enforce).Makes session graph twin)
    (same : twin.entry = plan.entry) :
    ∃ destinations, twin = { plan with destinations := destinations } ∧
      Plan.entries destinations = Plan.entries plan.destinations := by
  obtain ⟨role, code⟩ := one.settings two rfl rfl same
  obtain ⟨name, function, _, _, digest, own⟩ := plan
  obtain ⟨_, _, _, _, version, theirs⟩ := twin
  cases same
  cases role
  cases code
  have digest : version = digest := by
    cases versioned : Compute.isVersioned function service.provider with
    | false => exact (two.plain versioned).trans (one.plain versioned).symm
    | true =>
        obtain ⟨_, made, rfl, first⟩ := one.published versioned
        obtain ⟨_, again, rfl, second⟩ := two.published versioned
        exact congrArg some (Except.ok.inj (second.symm.trans first))
  subst digest
  refine ⟨theirs, rfl, targets_agree name (EventConfig.targets function) own theirs (fun target member => ?_) one.targets
    two.targets⟩
  unfold EventConfig.targets at member
  split at member
  · cases member
  · exact (List.mem_filter.mp member).2

/-- What a plan places does not depend on the other functions of the service. -/
theorem places_withFunctions {kind : Plan.Kind} {id : String} {resource : Resource}
    (places : plan.Places (ofService service files registry enforce) kind id resource) :
    plan.Places (ofService (service.withFunctions others) files registry enforce) kind id resource := by
  refine places.congr ?_ ?_ ?_ ?_ ?_ <;> rfl

/-- A function that is part of two services is compiled into the same in both of them. -/
theorem Hosts.agree {core after other left : Graph}
    (one : (ofService service files registry enforce).Hosts core after plan)
    (two : (ofService (service.withFunctions others) files registry enforce).Hosts other left twin)
    (same : twin.entry = plan.entry) (names : Naming.Distinct service.functions) (apart : Naming.Distinct others)
    (seeded : Core.graph service = .ok core) (again : Core.graph (service.withFunctions others) = .ok other)
    (logs : ∀ id ∈ layerIds plan.function service.provider,
      id ∉ Naming.logGroups service.functions ∧ id ∉ Naming.logGroups others) :
    twin.record = plan.record ∧ ∀ kind id resource,
      plan.Places (ofService service files registry enforce) kind id resource → left.find? id = after.find? id := by
  obtain ⟨name, function⟩ := Prod.mk.inj same
  obtain ⟨role, code⟩ := one.makes.settings two.makes rfl rfl same
  have elsewhere := Core.graph_elsewhere service (service.withFunctions others) core other seeded again rfl
    (Core.layerSeeds_congr service (service.withFunctions others) rfl rfl service.layers) rfl
  -- What two plans place under one id is the same if the resources are.
  have alike (kind : Plan.Kind) (id : String) (resource : Resource)
      (places : plan.Places (ofService service files registry enforce) kind id resource)
      (too : twin.Places (ofService (service.withFunctions others) files registry enforce) kind id resource) :
      left.find? id = after.find? id := by
    rw [(one.places kind id resource places).1, (two.places kind id resource too).1,
      elsewhere id places.ne_role (one.spares_logs seeded names places) (two.spares_logs again apart too)]
  have computed : twin.compute (ofService (service.withFunctions others) files registry enforce) =
      plan.compute (ofService service files registry enforce) := by
    rw [Plan.compute, Plan.compute, name, function, role, code]
    rfl
  have kept : left.find? (Naming.function plan.name) = after.find? (Naming.function plan.name) := by
    refine alike _ _ _ .compute ?_
    rw [← computed, ← name]
    exact .compute
  have layers (id : String) (listed : id ∈ layerIds plan.function service.provider) : after.find? id = left.find? id := by
    obtain ⟨apart, held⟩ := one.layers id listed
    rw [held, (two.layers id (function ▸ listed)).2, elsewhere id apart (logs id listed).1 (logs id listed).2]
  obtain ⟨found, fits⟩ := one.places _ _ _ .compute
  have moved := one.makes.moved one.own one.shared (.refl _) _ found fits (kept.trans found) layers
  obtain ⟨destinations, rfl, entries⟩ := moved.agree two.makes same
  refine ⟨rfl, fun kind id resource places => alike kind id resource places ?_⟩
  exact places_withFunctions (places.redirected destinations entries)

end Twins

end Blueprint

/-- The logical ids of all that a function is compiled into: its log group unless it has none, whatever its record names,
and the permission to call its URL if that is public. -/
def CompiledFunction.ids (record : CompiledFunction) (function : FunctionConfig) : List String :=
  (if function.disableLogs then [] else [Naming.logGroup record.name]) ++
    [record.id] ++ record.version.toList ++ record.targetAlias.toList ++ record.url.toList ++
    (if (function.url >>= Url.ofSetting?).any Url.isPublic then [Naming.urlPermission record.name] else []) ++
    record.eventConfig.toList

/-- Apart from the log group, a plan places all that its function is compiled into. -/
theorem Plan.ids_placed (plan : Plan) (blueprint : Blueprint) (id : String) (member : id ∈ plan.record.ids plan.function) :
    (plan.function.disableLogs = false ∧ id = Naming.logGroup plan.name) ∨
      ∃ kind resource, plan.Places blueprint kind id resource := by
  simp only [CompiledFunction.ids, record, List.mem_append, Option.mem_toList] at member
  rcases member with (((((log | compute) | version) | targetAlias) | url) | permission) | event
  · split at log
    · cases log
    case isFalse logs => exact Or.inl ⟨by simpa using logs, List.mem_singleton.mp log⟩
  · rw [List.mem_singleton.mp compute]
    exact Or.inr ⟨_, _, .compute⟩
  · obtain ⟨digest, published, rfl⟩ := Option.map_eq_some_iff.mp version
    exact Or.inr ⟨_, _, .version digest published⟩
  · obtain ⟨via, found, rfl⟩ := Option.map_eq_some_iff.mp targetAlias
    obtain ⟨digest, published, known⟩ := Option.bind_eq_some_iff.mp found
    obtain ⟨⟨_, extra⟩, known, rfl⟩ := Option.map_eq_some_iff.mp known
    exact Or.inr ⟨_, _, .targetAlias digest _ extra published (by assumption)⟩
  · obtain ⟨config, found, rfl⟩ := Option.map_eq_some_iff.mp url
    exact Or.inr ⟨_, _, .url config found⟩
  · split at permission
    case isTrue free =>
      obtain ⟨config, found, free⟩ := (Option.any_eq_true _ _).mp free
      rw [List.mem_singleton.mp permission]
      exact Or.inr ⟨_, _, .permission config found free⟩
    case isFalse => cases permission
  · split at event
    case isTrue needed =>
      cases event
      exact Or.inr ⟨_, _, .eventConfig needed⟩
    case isFalse => cases event

namespace Blueprint

/-- A function that two services share is compiled into the same in both, whatever other functions they have, as long as
none of its layers is compiled from a function. -/
theorem compileService_siblings (service : ServiceConfig) (files : Files) (registry : Registry) (enforce : Bool)
    (others : Table FunctionConfig) (name : String) (function : FunctionConfig)
    (declared : (name, function) ∈ service.functions) (shared : (name, function) ∈ others)
    (names : Naming.Distinct service.functions) (apart : Naming.Distinct others)
    (proper : (ofService service files registry enforce).IsProper)
    (regular : (ofService (service.withFunctions others) files registry enforce).IsProper)
    (spared : (ofService service files registry enforce).SparesLayers [(name, function)])
    (sparedToo : (ofService (service.withFunctions others) files registry enforce).SparesLayers [(name, function)])
    (logs : ∀ id ∈ layerIds function service.provider,
      id ∉ Naming.logGroups service.functions ∧ id ∉ Naming.logGroups others)
    (previous earlier : Option Graph) (graph other : Graph) (records compiled : List CompiledFunction)
    (first : ((ofService service files registry enforce).compileService previous).1 = .ok (graph, records))
    (second : ((ofService (service.withFunctions others) files registry enforce).compileService earlier).1 =
      .ok (other, compiled)) :
    ∃ record, (∀ candidate, candidate ∈ records ∧ candidate.name = name ↔ candidate = record) ∧
      (∀ candidate, candidate ∈ compiled ∧ candidate.name = name ↔ candidate = record) ∧
      ∀ id ∈ record.ids function, ∃ resource, graph.find? id = some resource ∧ other.find? id = some resource := by
  obtain ⟨core, w, seeded, built, rfl, rfl⟩ := (compileService_ok _ _ _ _).mp first
  obtain ⟨start, left, again, made, rfl, rfl⟩ := (compileService_ok _ _ _ _).mp second
  obtain ⟨plan, entry, one, own⟩ := compile_hosts names proper core w built _ declared (spared core seeded w built)
  obtain ⟨twin, same, two, theirs⟩ := compile_hosts apart regular start left made _ shared (sparedToo start again left made)
  obtain ⟨rfl, rfl⟩ := Prod.mk.inj entry
  obtain ⟨record, held⟩ := one.agree two (same.trans entry.symm) names apart seeded again logs
  have kept (own : Graph) (previous : Option Graph) (id : String) (resource : Resource)
      (found : own.find? id = some resource) : (previous.elim own own.carryRetained).find? id = some resource := by
    cases previous with
    | none => exact found
    | some previous => rw [Option.elim_some, Graph.carryRetained_find?, found, Option.some_or]
  refine ⟨plan.record, own, record ▸ theirs, fun id member => ?_⟩
  rcases plan.ids_placed (ofService service files registry enforce) id member with ⟨logged, rfl⟩ | ⟨kind, resource, places⟩
  · have role := Naming.logGroup_ne_role plan.name
    have here := one.keeps _ _ role (Core.graph_logGroup service core seeded names _ _ declared logged)
    have same : Core.logGroup (service.withFunctions others) plan.name = Core.logGroup service plan.name := by
      refine Core.logGroup_withFunctions service others plan.name ?_
      rw [Table.find?_of_mem _ _ _ names.keys declared, Table.find?_of_mem _ _ _ apart.keys shared]
    have there := two.keeps _ _ role (Core.graph_logGroup _ start again apart _ _ shared logged)
    exact ⟨_, kept w.graph previous _ _ here, kept left.graph earlier _ _ (there.trans (congrArg some same))⟩
  · have found := (one.places kind id resource places).1
    exact ⟨_, kept w.graph previous id _ found, kept left.graph earlier id _ ((held kind id resource places).trans found)⟩

/-- The first function of the gate next to another worker and one more function. -/
def gateSiblings : Table FunctionConfig := gate.functions.take 1 ++ [
  ("worker", .ofFields [("handler", .str "other.handle"), ("name", .str "renamed")]),
  ("audit", .ofFields [("handler", .str "audit.handle"), ("disableLogs", .bool true)])]

/-- The function is compiled into seven resources, and these are the same next to other functions. -/
theorem gate_siblings : ∃ function graph records other compiled record,
    ("api", function) ∈ gate.functions ∧ ("api", function) ∈ gateSiblings ∧
      ((packaged gate).compileService none).1 = .ok (graph, records) ∧
      ((packaged (gate.withFunctions gateSiblings)).compileService none).1 = .ok (other, compiled) ∧
      record ∈ records ∧ record ∈ compiled ∧ (record.ids function).length = 7 ∧
      ∀ id ∈ record.ids function, ∃ resource, graph.find? id = some resource ∧ other.find? id = some resource := by
  let function := (Table.find? gate.functions "api").getD (.ofFields [])
  have found : Table.find? gate.functions "api" = some function := (Option.getD_of_ne_none (by decide +kernel) _).symm
  have declared := Table.find?_some_mem _ _ _ found
  have shared : ("api", function) ∈ gateSiblings :=
    List.mem_append_left _ (Table.find?_some_mem _ _ _ (found : Table.find? (gate.functions.take 1) "api" = some function))
  have whole := compileService_siblings gate (packaged gate).files (packaged gate).registry false gateSiblings "api" function
    declared shared (by decide +kernel) (by decide +kernel) (by decide +kernel) (by decide +kernel) (by decide +kernel)
    (by decide +kernel) (by decide +kernel) none none
  have compiles : ((packaged gate).compileService none).1.toBool &&
    ((packaged (gate.withFunctions gateSiblings)).compileService none).1.toBool = true := by decide +kernel
  have seven : ((packaged gate).compileService none).1.toOption.all fun delivered => delivered.2.all fun record =>
    record.name ≠ "api" ∨ (record.ids function).length = 7 := by decide +kernel
  clear_value function
  cases first : ((packaged gate).compileService none).1 with
  | error _ => simp [first, Except.toBool] at compiles
  | ok delivered =>
      cases second : ((packaged (gate.withFunctions gateSiblings)).compileService none).1 with
      | error _ => simp [second, Except.toBool] at compiles
      | ok repeated =>
          obtain ⟨record, own, theirs, held⟩ := whole _ _ _ _ first second
          obtain ⟨member, named⟩ := (own record).mpr rfl
          rw [first] at seven
          have count := List.all_eq_true.mp seven record member
          exact ⟨function, _, _, _, _, record, declared, shared, rfl, rfl, member, ((theirs record).mpr rfl).1,
            by simpa [named] using count, held⟩

end Blueprint

end FunctionStack
