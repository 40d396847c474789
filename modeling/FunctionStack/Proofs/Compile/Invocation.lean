import FunctionStack.Proofs.Compile.Inventory
import FunctionStack.Proofs.Compile.UrlAccess

/-!
What a function is called through. There is one target for all calls: the alias, if the settings of the function ask for one,
and otherwise the function as it is. The alias points at the version that is recorded, and so does the output.
-/

namespace FunctionStack

open Value

/-- What is held has the dependencies of what it fits. -/
theorem Resource.Fits.dependsOn {held resource : Resource} (fits : held.Fits resource)
    (rigid : ∀ id ∈ resource.dependsOn, Rigid id) : held.dependsOn = resource.dependsOn := by
  rcases fits with rfl | equal
  · rfl
  · simp only [same, Bool.and_eq_true] at equal
    have alike : (Value.arr held.dependsOn).same (.arr resource.dependsOn) = true := equal.1.1.2
    exact Value.arr.inj ((Rigid.arr _ rigid).eq_of_same _ alike)

theorem Resource.Fits.retained {held resource : Resource} (fits : held.Fits resource)
    (policy : resource.deletionPolicy = retainPolicy) : held.retained = true := by
  rcases fits with rfl | equal
  · rw [Resource.retained, policy]
    rfl
  · simp only [same, Bool.and_eq_true] at equal
    have alike := equal.2
    rwa [policy] at alike

theorem Intrinsic.ref_rigid (id : String) : Rigid (ref id) := .single _ _ (.str id)

namespace TargetAlias

/-- Being called through an alias means to come after it. -/
def dependencies (via : Option TargetAlias) : List Value := (via.map fun own => Value.str own.id).toList

theorem dependencies_rigid (via : Option TargetAlias) : ∀ id ∈ dependencies via, Rigid id := by
  intro id member
  obtain ⟨own, _, rfl⟩ := Option.map_eq_some_iff.mp (Option.mem_toList.mp member)
  exact .str _

theorem attach_dependsOn (type : String) (fields : Fields) (source : Option String) (via : Option TargetAlias)
    (named : ∀ own, via = some own → own.id ≠ "") :
    (attach (.make type fields source) via).dependsOn = dependencies via := by
  cases via with
  | none => rfl
  | some own =>
      have given : (Value.str own.id).given = true := by simpa [Value.given] using named own rfl
      simp [attach, Resource.dependOn, Resource.newDependencies, Resource.make, given, dependencies, Value.isIn]

end TargetAlias

theorem FunctionConfig.calledThrough_isSome (function : FunctionConfig) (name : String) :
    (function.calledThrough name).isSome = true ↔ function.provisionedConcurrency.getD 0 ≠ 0 ∨ function.snapStart = true := by
  unfold calledThrough
  split
  case isTrue set => exact iff_of_true rfl (Or.inl set)
  case isFalse zero =>
    rw [or_iff_right zero]
    cases function.snapStart <;> simp

theorem FunctionConfig.calledThrough_named (function : FunctionConfig) (name : String) (own : TargetAlias)
    (found : function.calledThrough name = some own) : own.id ≠ "" := by
  have suffixed (text suffix : String) (some : suffix ≠ "") : text ++ suffix ≠ "" := by simp [some]
  unfold calledThrough at found
  split at found
  · cases found
    exact suffixed _ _ (by decide)
  · split at found
    · cases found
      exact suffixed _ _ (by decide)
    · cases found

/-- A resource that designates the target of a call and comes after the alias in it. -/
def Graph.Calls (graph : Graph) (id key : String) (target : Value) (via : Option TargetAlias) : Prop :=
  ∃ held, graph.find? id = some held ∧ held.properties.field? key = some target ∧
    held.dependsOn = TargetAlias.dependencies via

/-- A version that is kept, belongs to a function and is what the function's output refers to. -/
structure Graph.Publishes (graph : Graph) (name function version : String) : Prop where
  held : ∃ held, graph.find? version = some held ∧ held.type = .str "AWS::Lambda::Version" ∧ held.retained = true ∧
    held.properties.field? "FunctionName" = some (Intrinsic.ref function)
  output : ∃ output, graph.outputs.field? (Naming.versionOutput name) = some output ∧
    output.field? "Value" = some (Intrinsic.ref version)

/-- What calls of a function are directed at: the function itself, or its alias by name. -/
def CompiledFunction.arn (record : CompiledFunction) : Option TargetAlias → Value
  | none => Intrinsic.getAtt record.id "Arn"
  | some own => Intrinsic.join ":" [Intrinsic.getAtt record.id "Arn", .str own.name]

/-- All calls of a function have one target. -/
structure Graph.Targets (graph : Graph) (function : FunctionConfig) (record : CompiledFunction) (via : Option TargetAlias) :
    Prop where
  recorded : record.targetAlias = via.map (·.id)
  aliased : ∀ own, via = some own → ∃ version held, record.version = some version ∧ graph.find? own.id = some held ∧
    held.type = .str "AWS::Lambda::Alias" ∧ held.properties.field? "FunctionName" = some (Intrinsic.ref record.id) ∧
    held.properties.field? "FunctionVersion" = some (Intrinsic.getAtt version "Version") ∧
    held.properties.field? "Name" = some (.str own.name)
  published : ∀ version, record.version = some version → graph.Publishes record.name record.id version
  url : ∀ id, record.url = some id → graph.Calls id "TargetFunctionArn" (record.arn via) via
  permission : (function.url >>= Url.ofSetting?).any Url.isPublic = true →
    graph.Calls (Naming.urlPermission record.name) "FunctionName" (record.arn via) via
  eventConfig : ∀ id, record.eventConfig = some id → graph.Calls id "FunctionName" (Intrinsic.ref record.id) via ∧
    graph.Calls id "Qualifier" (.str (via.elim "$LATEST" (·.name))) via

namespace Graph

variable {graph : Graph} (previous : Option Graph)

theorem Calls.carried {id key : String} {target : Value} {via : Option TargetAlias} (calls : graph.Calls id key target via) :
    (previous.elim graph graph.carryRetained).Calls id key target via := by
  obtain ⟨held, found, part, depends⟩ := calls
  exact ⟨held, carried_keeps graph previous id held found, part, depends⟩

theorem Publishes.carried {name function version : String} (publishes : graph.Publishes name function version) :
    (previous.elim graph graph.carryRetained).Publishes name function version := by
  obtain ⟨⟨held, found, version⟩, output⟩ := publishes
  refine ⟨⟨held, carried_keeps graph previous _ held found, version⟩, ?_⟩
  rwa [carried_outputs]

theorem Targets.carried {function : FunctionConfig} {record : CompiledFunction} {via : Option TargetAlias}
    (targets : graph.Targets function record via) :
    (previous.elim graph graph.carryRetained).Targets function record via where
  recorded := targets.recorded
  aliased := by
    intro own called
    obtain ⟨version, held, published, found, parts⟩ := targets.aliased own called
    exact ⟨version, held, published, carried_keeps graph previous _ held found, parts⟩
  published := fun version published => (targets.published version published).carried previous
  url := fun id recorded => (targets.url id recorded).carried previous
  permission := fun free => (targets.permission free).carried previous
  eventConfig := fun id recorded =>
    ⟨(targets.eventConfig id recorded).1.carried previous, (targets.eventConfig id recorded).2.carried previous⟩

end Graph

namespace Plan

variable {plan : Plan} {blueprint : Blueprint}

theorem exposes_mem {key description : String} {value : Value} (exposes : plan.Exposes key value description) :
    (key, .obj [("Description", .str description), ("Value", value)]) ∈ (plan.moves blueprint).flatMap Move.exposed := by
  refine List.mem_flatMap.mpr ⟨.expose key value description, ?_, List.mem_singleton.mpr rfl⟩
  simp only [moves, finishing, List.mem_append]
  cases exposes with
  | version digest published => exact Or.inr (Or.inl (Or.inl (by simp [published, Move.version])))
  | url config found => exact Or.inr (Or.inl (Or.inr (by simp [found, Move.url])))

theorem target_arn (plan : Plan) (via : Option TargetAlias) : TargetAlias.target plan.name via = plan.record.arn via := by
  cases via <;> rfl

/-- What calls a function comes after the alias of its plan only. -/
theorem Places.calls {kind : Kind} {id : String} {resource : Resource} (places : plan.Places blueprint kind id resource)
    (caller : kind = .url ∨ kind = .permission ∨ kind = .eventConfig) (named : ∀ own, plan.via = some own → own.id ≠ "") :
    resource.dependsOn = TargetAlias.dependencies plan.via := by
  cases places with
  | url => exact TargetAlias.attach_dependsOn _ _ _ _ named
  | permission => exact TargetAlias.attach_dependsOn _ _ _ _ named
  | eventConfig => exact TargetAlias.attach_dependsOn _ _ _ _ named
  | _ => simp at caller

end Plan

namespace Blueprint

variable {blueprint : Blueprint} {core start : Graph} {session : RegistrySession} {w : Workspace}
  {policy : Option ExecutionPolicy} {plans : List Plan} {plan : Plan}

/-- The moves of a course expose these outputs and no others. -/
theorem course_exposed (blueprint : Blueprint) (plans : List Plan) (key : String) (output : Value) :
    (key, output) ∈ (blueprint.course plans).flatMap Move.exposed ↔
      ∃ plan ∈ plans, ∃ value description, plan.Exposes key value description ∧
        output = .obj [("Description", .str description), ("Value", value)] := by
  rw [course, List.flatMap_assoc, List.mem_flatMap]
  constructor
  · rintro ⟨plan, planned, exposed⟩
    exact ⟨plan, planned, plan.exposes_ok blueprint key output exposed⟩
  · rintro ⟨plan, planned, value, description, exposes, rfl⟩
    exact ⟨plan, planned, Plan.exposes_mem exposes⟩

/-- What one plan exposes is an output, if no two functions are called alike. -/
theorem Took.output (took : blueprint.Took core session w start policy plans)
    (seeded : Core.graph blueprint.service = .ok core) (names : Plan.Apart plans) (planned : plan ∈ plans)
    {key description : String} {value : Value} (exposes : plan.Exposes key value description) :
    w.graph.outputs.field? key = some (.obj [("Description", .str description), ("Value", value)]) := by
  obtain ⟨outputs, own⟩ := (Core.graph_distinct _ core seeded).2
  have begun : start.outputs = .obj outputs := (ExecutionPolicy.ofGraph_keeps core start policy took.begins).2.trans own
  have listed : (key, .obj [("Description", .str description), ("Value", value)]) ∈
      (blueprint.course plans).flatMap Move.exposed :=
    (course_exposed blueprint plans _ _).mpr ⟨plan, planned, value, description, exposes, rfl⟩
  obtain ⟨other, found⟩ := Option.isSome_iff_exists.mp ((Table.has_iff_mem _ key).mpr ⟨_, List.mem_reverse.mpr listed⟩)
  have same := exposed_once names key other _ (List.mem_reverse.mp (Table.find?_some_mem _ _ _ found)) listed
  have merged : w.graph.outputs = start.outputs.merged ((blueprint.course plans).flatMap Move.exposed) := took.performed.outputs
  rw [merged, begun]
  change Table.find? (Table.merge _ _) key = _
  rw [Table.find?_merge, found, Option.some_or, same]

section

variable (took : blueprint.Took core session w start policy plans) (seeded : Core.graph blueprint.service = .ok core)
  (proper : blueprint.IsProper) (regular : (Value.obj blueprint.service.resources).isProper = true)
  (planned : plan ∈ plans)

include took seeded proper regular planned

theorem Took.calls {kind : Plan.Kind} {id : String} {resource : Resource}
    (places : plan.Places blueprint kind id resource) (caller : kind = .url ∨ kind = .permission ∨ kind = .eventConfig)
    (key : String) (target : Value) (rigid : Rigid target) (found : resource.properties.field? key = some target) :
    w.graph.Calls id key target plan.via := by
  obtain ⟨held, present, fits, -, known⟩ := took.holds_proper seeded proper regular planned places
  obtain ⟨_, _, makes⟩ := took.made plan planned
  have depends := places.calls caller fun own through =>
    plan.function.calledThrough_named plan.name own (Plan.via_eq makes ▸ through)
  refine ⟨held, present, fits.rigid known key target rigid found, ?_⟩
  rw [fits.dependsOn (depends ▸ TargetAlias.dependencies_rigid plan.via), depends]

theorem Took.publishes (names : Plan.Apart plans) (version : String) (published : plan.record.version = some version) :
    w.graph.Publishes plan.name plan.record.id version := by
  obtain ⟨digest, made, rfl⟩ := Option.map_eq_some_iff.mp published
  obtain ⟨held, present, fits, type, known⟩ := took.holds_proper seeded proper regular planned (.version digest made)
  exact {
    held := ⟨held, present, type, fits.retained rfl, fits.rigid known _ _ (Intrinsic.ref_rigid _) rfl⟩
    output := ⟨_, took.output seeded names planned (.version digest made), rfl⟩ }

theorem Took.aliased (own : TargetAlias) (called : plan.via = some own) : ∃ version held,
    plan.record.version = some version ∧ w.graph.find? own.id = some held ∧ held.type = .str "AWS::Lambda::Alias" ∧
      held.properties.field? "FunctionName" = some (Intrinsic.ref plan.record.id) ∧
      held.properties.field? "FunctionVersion" = some (Intrinsic.getAtt version "Version") ∧
      held.properties.field? "Name" = some (.str own.name) := by
  obtain ⟨digest, published, found⟩ := Option.bind_eq_some_iff.mp called
  obtain ⟨⟨via, extra⟩, known, rfl⟩ := Option.map_eq_some_iff.mp found
  obtain ⟨held, present, fits, type, whole⟩ :=
    took.holds_proper seeded proper regular planned (.targetAlias digest via extra published known)
  exact ⟨Version.id plan.name digest, held, congrArg (Option.map _) published, present, type,
    fits.rigid whole _ _ (Intrinsic.ref_rigid _) rfl, fits.rigid whole _ _ (Intrinsic.getAtt_rigid _ _) rfl,
    fits.rigid whole _ _ (.str _) rfl⟩

theorem Took.targets (names : Plan.Apart plans) : w.graph.Targets plan.function plan.record plan.via where
  recorded := rfl
  aliased := took.aliased seeded proper regular planned
  published := took.publishes seeded proper regular planned names
  url := by
    intro id recorded
    obtain ⟨config, found, rfl⟩ := Option.map_eq_some_iff.mp recorded
    rw [← plan.target_arn]
    exact took.calls seeded proper regular planned (.url config found) (Or.inl rfl) _ _
      (TargetAlias.target_rigid plan.name plan.via) (Url.resource_target plan.name config plan.via)
  permission := by
    intro free
    obtain ⟨config, found, free⟩ := (Option.any_eq_true _ _).mp free
    rw [← plan.target_arn]
    exact took.calls seeded proper regular planned (.permission config found free) (Or.inr (Or.inl rfl)) _ _
      (TargetAlias.target_rigid plan.name plan.via) (Url.permission_properties plan.name plan.via).2
  eventConfig := by
    intro id recorded
    obtain ⟨needed, same⟩ := Option.ite_none_right_eq_some.mp recorded
    cases same
    have calls := took.calls seeded proper regular planned (.eventConfig needed) (Or.inr (Or.inr rfl))
    have qualifier : TargetAlias.qualifier plan.via = plan.via.elim "$LATEST" (·.name) := by
      cases plan.via <;> rfl
    refine ⟨calls _ _ (Intrinsic.ref_rigid _) ?_, qualifier ▸ calls _ _ (.str _) ?_⟩ <;>
    · rw [EventConfig.resource, Plan.attach_properties]
      rfl

end

/-- An alias of a function is the one that the function is called through, or it has been declared. -/
theorem Took.alias_unique (took : blueprint.Took core session w start policy plans)
    (seeded : Core.graph blueprint.service = .ok core) (names : Plan.Apart plans) (planned : plan ∈ plans) (id : String)
    (held : Resource) (found : w.graph.find? id = some held) (type : held.type = .str "AWS::Lambda::Alias")
    (called : held.properties.field? "FunctionName" = some (Intrinsic.ref plan.record.id)) :
    plan.record.targetAlias = some id ∨ ∃ own, blueprint.service.Declares id own := by
  have foreign : ∀ own ∈ Core.ownTypes, held.type ≠ .str own := type ▸ Plan.Kind.targetAlias.type_foreign
  rcases took.origin seeded id held found foreign with ⟨own, declares, _⟩ | ⟨other, listed, kind, places⟩
  · exact Or.inr ⟨own, declares⟩
  have kinds := places.type
  rw [type] at kinds
  have same : .targetAlias = kind := Plan.Kind.type_injective _ _ (Value.str.inj kinds)
  subst same
  cases places with
  | targetAlias digest via extra published known =>
      have function : Naming.function other.name = Naming.function plan.name := by
        have aimed : some (Intrinsic.ref (Naming.function other.name)) = some (Intrinsic.ref (Naming.function plan.name)) :=
          called
        simpa [Intrinsic.ref] using aimed
      have normalized := Naming.suffix_cancel _ _ _ function
      have plan := List.inj_on_of_nodup_map names listed planned normalized
      subst plan
      refine Or.inl ?_
      rw [Plan.record, Plan.via, published, Option.bind_some, known]
      rfl

/-- All that calls a function goes through one target. Where the settings ask for an alias there is one, it points at the
recorded version, which is kept and which the function's output refers to, and the URL, its permission and the event config
designate it and come after it. Otherwise they designate the function as it is and come after nothing. No other alias of the
function is in the template, but for those that the service declares itself or has kept of the previous one. -/
theorem compileService_targets (blueprint : Blueprint) (proper : blueprint.IsProper)
    (regular : (Value.obj blueprint.service.resources).isProper = true) (names : Naming.Distinct blueprint.functions)
    (previous : Option Graph) (graph : Graph) (compiled : List CompiledFunction)
    (compiles : (blueprint.compileService previous).1 = .ok (graph, compiled)) (name : String) (function : FunctionConfig)
    (declared : (name, function) ∈ blueprint.functions) :
    ∃ record ∈ compiled, record.name = name ∧ record.id = Naming.function name ∧
      (record.targetAlias.isSome = true ↔ function.provisionedConcurrency.getD 0 ≠ 0 ∨ function.snapStart = true) ∧
      graph.Targets function record (function.calledThrough name) ∧
      ∀ id held, graph.find? id = some held → held.type = .str "AWS::Lambda::Alias" →
        held.properties.field? "FunctionName" = some (Intrinsic.ref record.id) → record.targetAlias = some id ∨
          (∃ own, blueprint.service.Declares id own) ∨
          ∃ earlier, previous = some earlier ∧ (id, held) ∈ earlier.resources ∧ held.retained = true := by
  obtain ⟨core, w, start, policy, plans, seeded, took, rfl, rfl⟩ := compileService_took compiles
  obtain ⟨plan, planned, rfl, rfl⟩ := took.planned name function declared
  have apart : Plan.Apart plans := (Plan.apart_iff plans).mpr (took.entries.symm ▸ names)
  obtain ⟨_, _, makes⟩ := took.made plan planned
  have targets := took.targets seeded proper regular planned apart
  rw [Plan.via_eq makes] at targets
  refine ⟨plan.record, List.mem_map_of_mem planned, rfl, rfl, ?_, targets.carried previous, fun id held found type called => ?_⟩
  · rw [targets.recorded, Option.isSome_map, FunctionConfig.calledThrough_isSome]
  · rcases Graph.carried_origin w.graph previous id held found with own | kept
    · exact (took.alias_unique seeded apart planned id held own type called).imp_right Or.inl
    · exact Or.inr (Or.inr kept)

/-- The function with provisioned concurrency is called through its alias. -/
theorem gate_targets : ∃ function graph compiled record,
    ("api", function) ∈ (packaged gate).functions ∧ ((packaged gate).compileService none).1 = .ok (graph, compiled) ∧
      record ∈ compiled ∧ record.targetAlias = some "ApiProvConcLambdaAlias" ∧
      graph.Targets function record (some (.provisioned "api")) ∧
      ∀ id held, graph.find? id = some held → held.type = .str "AWS::Lambda::Alias" →
        held.properties.field? "FunctionName" = some (Intrinsic.ref "ApiLambdaFunction") → id = "ApiProvConcLambdaAlias" := by
  obtain ⟨graph, compiled, compiles, -⟩ := compileService_any (packaged gate) none (fun _ _ => true) (by decide +kernel)
  have known : ∃ function, ("api", function) ∈ (packaged gate).functions ∧
      function.calledThrough "api" = some (.provisioned "api") := ⟨_, List.mem_cons_self .., rfl⟩
  obtain ⟨function, declared, through⟩ := known
  obtain ⟨record, listed, -, own, -, targets, unique⟩ := compileService_targets (packaged gate) (by decide +kernel)
    (by decide +kernel) (by decide +kernel) none graph compiled compiles "api" function declared
  rw [through] at targets
  have recorded : record.targetAlias = some "ApiProvConcLambdaAlias" := targets.recorded
  refine ⟨function, graph, compiled, record, declared, compiles, listed, recorded, targets, fun id held found type called => ?_⟩
  rcases unique id held found type (own ▸ called) with only | ⟨_, block, _, entries, present, _⟩ | ⟨_, same, _⟩
  · exact Option.some.inj (only.symm.trans recorded)
  · cases entries
    cases present
  · cases same

end Blueprint

end FunctionStack
