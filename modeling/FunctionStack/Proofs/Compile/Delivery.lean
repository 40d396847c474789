import FunctionStack.Proofs.Compile.Invocation

/-!
What becomes of the resources and outputs that a service declares. Each resource is in the template, with those of its
attributes that a template keeps; each output is there unless a function takes its name.
-/

namespace FunctionStack

namespace Value

/-- Equal values are both given or both not. -/
theorem same_given {a b : Value} (equal : a.same b = true) : a.given = b.given := by
  have number (value : Value) (quantity : Int) (known : value.quantity? = some quantity) :
      value.given = decide (quantity ≠ 0) := by
    have whole (n : Int) : decide (n ≠ 0) = decide (n * (Double.unitsPerOne : Int) ≠ 0) := by
      have units : (Double.unitsPerOne : Int) ≠ 0 := by exact_mod_cast Double.unitsPerOne_pos.ne'
      rw [decide_eq_decide, mul_ne_zero_iff_right units]
    cases value with
    | bool truth =>
        cases known
        rw [← whole]
        cases truth <;> rfl
    | int own =>
        cases known
        exact whole own
    | float own =>
        cases own with
        | finite negative significand scale =>
            cases known
            cases negative <;> simp [given, Double.isZero]
        | _ => cases known
    | _ => cases known
  cases known : a.quantity? with
  | some quantity =>
      rw [number a quantity known, number b quantity ((same_quantity a b quantity known).mp equal)]
  | none =>
      cases a with
      | null =>
          cases b with
          | null => rfl
          | _ => cases equal
      | str text => rw [same_str equal]
      | float own => rw [same_unbounded own b equal known]
      | arr items =>
          obtain ⟨others, rfl, each⟩ := same_arr equal
          cases each <;> rfl
      | obj fields =>
          cases b with
          | obj others =>
              rw [same, Bool.and_eq_true, decide_eq_true_eq] at equal
              cases fields <;> cases others <;> simp_all [given]
          | _ => cases equal
      | _ => cases known

/-- The same value, or an equal one. -/
def Agrees (a b : Value) : Prop := a = b ∨ a.same b = true

theorem Agrees.given {a b : Value} (agrees : a.Agrees b) : a.given = b.given := by
  rcases agrees with rfl | equal
  · rfl
  · exact same_given equal

end Value

namespace Resource

/-- The attributes that a template keeps. -/
def attributes : List String := ["Type", "Properties", "DependsOn", "Condition", "DeletionPolicy"]

/-- How an attribute is written: one dependency by itself becomes a list of one. -/
def written (key : String) (part : Value) : Value :=
  match key, part with
  | "DependsOn", .str id => .arr [.str id]
  | _, other => other

/-- An entry of a template holds an attribute, as it was declared or as something equal. -/
def Carries (entry : Value) (key : String) (part : Value) : Prop :=
  ∃ held, entry.field? key = some held ∧ held.Agrees (written key part)

theorem toValue_field? (resource : Resource) (key : String) : resource.toValue.field? key =
    if key = "Type" then some resource.type
    else if key = "Properties" then some resource.properties
    else if key = "DependsOn" then (if resource.dependsOn.isEmpty then none else some (.arr resource.dependsOn))
    else if key = "Condition" then (if resource.condition.given then some resource.condition else none)
    else if key = "DeletionPolicy" then (if resource.deletionPolicy.given then some resource.deletionPolicy else none)
    else none := by
  have listed : (Value.arr resource.dependsOn).given = !resource.dependsOn.isEmpty := rfl
  change Table.find? _ key = _
  simp only [Table.find?_append, Table.find?_cons, find?_optionalField, Table.find?_nil, listed]
  by_cases type : key = "Type"
  · simp [type]
  · by_cases properties : key = "Properties"
    · simp [properties]
    · by_cases dependsOn : key = "DependsOn"
      · simp [dependsOn]
      · by_cases condition : key = "Condition"
        · simp [condition]
        · by_cases policy : key = "DeletionPolicy"
          · simp [policy]
          · simp [type, properties, dependsOn, condition, policy]

/-- What fits a resource agrees with it in every part. -/
theorem Fits.agrees {held resource : Resource} (fits : held.Fits resource) :
    held.type.Agrees resource.type ∧ held.properties.Agrees resource.properties ∧
      (Value.arr held.dependsOn).Agrees (.arr resource.dependsOn) ∧ held.condition.Agrees resource.condition ∧
      held.deletionPolicy.Agrees resource.deletionPolicy := by
  rcases fits with rfl | equal
  · exact ⟨Or.inl rfl, Or.inl rfl, Or.inl rfl, Or.inl rfl, Or.inl rfl⟩
  · simp only [same, Bool.and_eq_true] at equal
    obtain ⟨⟨⟨⟨type, properties⟩, dependsOn⟩, condition⟩, policy⟩ := equal
    exact ⟨Or.inr type, Or.inr properties, Or.inr dependsOn, Or.inr condition, Or.inr policy⟩

/-- The parts of a resource, as they are read. -/
theorem ofValue_ok (value : Value) (resource : Resource) (read : ofValue value = .ok resource) :
    ∃ data type dependsOn, value = .obj data ∧ Table.find? data "Type" = some type ∧
      dependencies (((Table.find? data "DependsOn").getD .null).orElse (.arr [])) = .ok dependsOn ∧
      resource = ⟨type, ((Table.find? data "Properties").getD .null).orElse (.obj []), dependsOn,
        (Table.find? data "Condition").getD .null, (Table.find? data "DeletionPolicy").getD .null, none⟩ := by
  unfold ofValue at read
  split at read
  case h_1 data =>
    dsimp only at read
    split at read
    · cases read
    case h_2 type found =>
      obtain ⟨dependsOn, listed, same⟩ := (Result.bind_ok _ _ _).mp read
      exact ⟨data, type, dependsOn, rfl, found, listed, ((Result.pure_ok _ _).mp same).symm⟩
  case h_2 => cases read

/-- Dependencies that are given are a list, one text, or a table, whose keys are taken. -/
theorem dependencies_ok (part : Value) (listed : List Value) (given : part.given = true)
    (read : dependencies part = .ok listed) :
    (part.fields? = none ∧ written "DependsOn" part = .arr listed ∧ listed ≠ []) ∨ ∃ fields, part = .obj fields := by
  cases part with
  | arr items =>
      cases read
      refine Or.inl ⟨rfl, rfl, ?_⟩
      rintro rfl
      cases given
  | str id =>
      cases read
      exact Or.inl ⟨rfl, rfl, List.cons_ne_nil _ _⟩
  | obj fields => exact Or.inr ⟨fields, rfl⟩
  | _ => cases read

/-- What is written of a declared resource, or of one that it equals: each attribute that a template keeps, unless the
dependencies are a table. -/
theorem toValue_carries {held resource : Resource} (fits : held.Fits resource) {value : Value}
    (read : ofValue value = .ok resource) (key : String) (part : Value) (found : value.field? key = some part)
    (given : part.given = true) :
    Carries held.toValue key part ↔ key ∈ attributes ∧ (key = "DependsOn" → part.fields? = none) := by
  obtain ⟨type, properties, dependsOn, condition, policy⟩ := fits.agrees
  obtain ⟨data, own, listed, rfl, typed, depends, rfl⟩ := ofValue_ok value resource read
  have found : Table.find? data key = some part := found
  unfold Carries
  rw [toValue_field?]
  by_cases isType : key = "Type"
  · subst isType
    cases typed.symm.trans found
    exact iff_of_true ⟨held.type, if_pos rfl, type⟩ ⟨by decide, fun other => absurd other (by decide)⟩
  by_cases isProperties : key = "Properties"
  · subst isProperties
    rw [found, Option.getD_some, Value.orElse, if_pos given] at properties
    exact iff_of_true ⟨held.properties, rfl, properties⟩ ⟨by decide, fun other => absurd other (by decide)⟩
  by_cases isCondition : key = "Condition"
  · subst isCondition
    rw [found, Option.getD_some] at condition
    have kept : held.condition.given = true := condition.given.trans given
    exact iff_of_true ⟨held.condition, by simp [kept], condition⟩ ⟨by decide, fun other => absurd other (by decide)⟩
  by_cases isPolicy : key = "DeletionPolicy"
  · subst isPolicy
    rw [found, Option.getD_some] at policy
    have kept : held.deletionPolicy.given = true := policy.given.trans given
    exact iff_of_true ⟨held.deletionPolicy, by simp [kept], policy⟩ ⟨by decide, fun other => absurd other (by decide)⟩
  by_cases isDependsOn : key = "DependsOn"
  · subst isDependsOn
    rw [found, Option.getD_some, Value.orElse, if_pos given] at depends
    rcases dependencies_ok part listed given depends with ⟨plain, whole, full⟩ | ⟨fields, rfl⟩
    · have same : (!held.dependsOn.isEmpty) = !listed.isEmpty := dependsOn.given
      have some : held.dependsOn.isEmpty = false := (Bool.not_inj same).trans (List.isEmpty_eq_false_iff.mpr full)
      exact iff_of_true ⟨.arr held.dependsOn, by simp [some], whole ▸ dependsOn⟩ ⟨by decide, fun _ => plain⟩
    · refine iff_of_false ?_ fun kept => by cases kept.2 rfl
      rintro ⟨other, known, same⟩
      simp only [String.reduceEq, if_false, if_true] at known
      split at known
      · cases known
      · cases known
        rcases same with same | same <;> cases same
  · refine iff_of_false ?_ fun kept => ?_
    · rintro ⟨other, entry, _⟩
      simp [isType, isProperties, isCondition, isPolicy, isDependsOn] at entry
    · simp [attributes, isType, isProperties, isCondition, isPolicy, isDependsOn] at kept

end Resource

namespace Core

/-- Each declared resource, or one that equals it, is in the core graph. -/
theorem graph_holds (service : ServiceConfig) (core : Graph) (seeded : Core.graph service = .ok core) :
    ∃ block, Fields.entries service.resources "Resources" = .ok block ∧ ∀ id value, (id, value) ∈ block →
      ∃ resource held, Resource.ofValue value = .ok resource ∧ core.find? id = some held ∧ held.Fits resource := by
  obtain ⟨seeds, all⟩ := graph_fits service core seeded
  obtain ⟨block, listed, read⟩ := seeds.read
  refine ⟨block, listed, fun id value member => ?_⟩
  obtain ⟨resource, reads, among⟩ := Graph.readResources_mem block seeds.declared read id value member
  obtain ⟨held, found, fits⟩ := all id resource (List.mem_append_right _ among)
  exact ⟨resource, held, reads, found, fits⟩

end Core

namespace Blueprint

/-- A function takes the name of an output: for its version or for its URL. -/
def TakesOutput (blueprint : Blueprint) (id : String) : Prop :=
  ∃ name function, (name, function) ∈ blueprint.functions ∧
    (Compute.isVersioned function blueprint.provider = true ∧ id = Naming.versionOutput name ∨
      (function.url >>= Url.ofSetting?).isSome = true ∧ id = Naming.urlOutput name)

section

variable {blueprint : Blueprint} {core start : Graph} {session : RegistrySession} {w : Workspace}
  {policy : Option ExecutionPolicy} {plans : List Plan} (took : blueprint.Took core session w start policy plans)

include took

/-- The names that functions take are those under which their plans expose something. -/
theorem Took.takesOutput_iff (id : String) :
    blueprint.TakesOutput id ↔ ∃ output, (id, output) ∈ (blueprint.course plans).flatMap Move.exposed := by
  constructor
  · rintro ⟨name, function, declared, taken⟩
    obtain ⟨plan, planned, rfl, rfl⟩ := took.planned name function declared
    obtain ⟨_, _, makes⟩ := took.made plan planned
    have listed {value : Value} {description : String} (exposes : plan.Exposes id value description) :
        ∃ output, (id, output) ∈ (blueprint.course plans).flatMap Move.exposed :=
      ⟨_, (course_exposed blueprint plans id _).mpr ⟨plan, planned, value, description, exposes, rfl⟩⟩
    rcases taken with ⟨versioned, rfl⟩ | ⟨set, rfl⟩
    · obtain ⟨_, digest, published, _⟩ := makes.published versioned
      exact listed (.version digest published)
    · obtain ⟨config, found⟩ := Option.isSome_iff_exists.mp set
      exact listed (.url config found)
  · rintro ⟨output, member⟩
    obtain ⟨plan, planned, _, _, exposes, -⟩ := (course_exposed blueprint plans id output).mp member
    obtain ⟨_, _, makes⟩ := took.made plan planned
    refine ⟨plan.name, plan.function, took.declared plan planned, ?_⟩
    cases exposes with
    | version digest published =>
        refine Or.inl ⟨?_, rfl⟩
        by_contra plain
        cases (makes.plain (by simpa using plain)).symm.trans published
    | url config found => exact Or.inr ⟨by rw [found, Option.isSome_some], rfl⟩

/-- The outputs of a compiled graph: what functions expose, over what is declared, over the one of the bucket. -/
theorem Took.outputs_merged (seeded : Core.graph blueprint.service = .ok core) :
    ∃ block, Fields.entries blueprint.service.resources "Outputs" = .ok block ∧ w.graph.outputs =
      .obj (Table.merge (Table.merge (Core.bucketOutputs blueprint.service) block)
        ((blueprint.course plans).flatMap Move.exposed)) := by
  obtain ⟨block, listed, own⟩ := Core.graph_outputs blueprint.service core seeded
  have begun := (ExecutionPolicy.ofGraph_keeps core start policy took.begins).2.trans own
  have merged : w.graph.outputs = start.outputs.merged ((blueprint.course plans).flatMap Move.exposed) := took.performed.outputs
  exact ⟨block, listed, by rw [merged, begun]; rfl⟩

end

/-- What a service declares is delivered as follows. Each resource stands under its id and carries exactly those of its given
attributes that a template keeps, where dependencies that are a table do not count. Each output stands as it is declared,
unless a function takes its name; the function's own output stands there then. Of outputs under one name the last one
counts. -/
theorem compileService_delivers (blueprint : Blueprint) (previous : Option Graph) (graph : Graph)
    (compiled : List CompiledFunction) (compiles : (blueprint.compileService previous).1 = .ok (graph, compiled))
    (leaves : blueprint.service.LeavesRole) :
    ∃ declared outputs resources exposed,
      Fields.entries blueprint.service.resources "Resources" = .ok declared ∧
      Fields.entries blueprint.service.resources "Outputs" = .ok outputs ∧
      graph.toTemplate.field? "Resources" = some (.obj resources) ∧ graph.toTemplate.field? "Outputs" = some (.obj exposed) ∧
      (∀ id value, (id, value) ∈ declared → ∃ entry, Table.find? resources id = some entry ∧
        ∀ key part, value.field? key = some part → part.given = true →
          (Resource.Carries entry key part ↔
            key ∈ Resource.attributes ∧ (key = "DependsOn" → part.fields? = none))) ∧
      ∀ id output, Table.find? outputs.reverse id = some output →
        (¬ blueprint.TakesOutput id → Table.find? exposed id = some output) ∧
        (blueprint.TakesOutput id → ∃ description value,
          (description = "Current Lambda function version" ∨ description = "Lambda Function URL") ∧
          Table.find? exposed id = some (.obj [("Description", .str description), ("Value", value)])) := by
  obtain ⟨core, w, start, policy, plans, seeded, took, rfl, rfl⟩ := compileService_took compiles
  obtain ⟨declared, listed, fits⟩ := Core.graph_holds blueprint.service core seeded
  obtain ⟨outputs, given, merged⟩ := took.outputs_merged seeded
  have exposed : (previous.elim w.graph w.graph.carryRetained).toTemplate.field? "Outputs" = some (.obj
      (Table.merge (Table.merge (Core.bucketOutputs blueprint.service) outputs)
        ((blueprint.course plans).flatMap Move.exposed))) := by
    rw [← merged, ← Graph.carried_outputs w.graph previous]
    rfl
  refine ⟨declared, outputs, _, _, listed, given, rfl, exposed, fun id value member => ?_, fun id output found => ⟨?_, ?_⟩⟩
  · obtain ⟨resource, held, read, present, alike⟩ := fits id value member
    have apart : id ≠ defaultExecutionRole := by
      rintro rfl
      exact leaves declared listed ((Table.has_iff_keys _ _).mp ((Table.has_iff_mem _ _).mpr ⟨value, member⟩))
    have kept : w.graph.find? id = some held := by
      rw [took.elsewhere id apart, present, Option.some_or]
    refine ⟨held.toValue, ?_, fun key part found given => Resource.toValue_carries alike read key part found given⟩
    rw [Table.find?_mapValues]
    have there := Graph.carried_keeps w.graph previous id held kept
    rw [Graph.find?] at there
    rw [there, Option.map_some]
  · intro free
    have none : Table.find? ((blueprint.course plans).flatMap Move.exposed).reverse id = none := by
      cases taken : Table.find? ((blueprint.course plans).flatMap Move.exposed).reverse id with
      | none => rfl
      | some other =>
          have member := List.mem_reverse.mp (Table.find?_some_mem _ _ _ taken)
          exact absurd ((took.takesOutput_iff id).mpr ⟨other, member⟩) free
    rw [Table.find?_merge, none, Option.none_or, Table.find?_merge, found, Option.some_or]
  · intro takes
    obtain ⟨own, member⟩ := (took.takesOutput_iff id).mp takes
    obtain ⟨other, present⟩ := Option.isSome_iff_exists.mp
      ((Table.has_iff_mem _ id).mpr ⟨own, List.mem_reverse.mpr member⟩)
    obtain ⟨move, taken, exposes⟩ := List.mem_flatMap.mp (List.mem_reverse.mp (Table.find?_some_mem _ _ _ present))
    obtain ⟨plan, _, listed⟩ := List.mem_flatMap.mp taken
    obtain ⟨value, description, own, rfl⟩ :=
      plan.exposes_ok blueprint id other (List.mem_flatMap.mpr ⟨move, listed, exposes⟩)
    refine ⟨description, value, ?_, by rw [Table.find?_merge, present, Option.some_or]⟩
    cases own with
    | version => exact Or.inl rfl
    | url => exact Or.inr rfl

/-- A service that declares a group with an update policy, and exports the URL of its function and an address. -/
def exporting : ServiceConfig := .ofFields [
  ("service", .str "s"),
  ("functions", .obj [
    ("api", .obj [("handler", .str "api.handle"), ("url", .bool true), ("versionFunction", .bool false)])]),
  ("resources", .obj [
    ("Resources", .obj [("Group", .obj [
      ("Type", .str "AWS::AutoScaling::AutoScalingGroup"),
      ("Properties", .obj [("MinSize", .str "1"), ("MaxSize", .str "1")]),
      ("DependsOn", .str "ApiLogGroup"),
      ("UpdatePolicy", .obj [("AutoScalingReplacingUpdate", .obj [("WillReplace", .bool true)])])])]),
    ("Outputs", .obj [
      ("ApiLambdaFunctionUrl", .obj [
        ("Value", Intrinsic.getAtt "ApiLambdaFunctionUrl" "FunctionUrl"), ("Export", .obj [("Name", .str "api-url")])]),
      ("Address", .obj [("Value", .str "localhost"), ("Export", .obj [("Name", .str "address")])])])])]

/-- The group comes with its properties and its dependency and without the update policy, and the address is exported. -/
theorem exporting_delivers : ∃ graph compiled entry, ((packaged exporting).compileService none).1 = .ok (graph, compiled) ∧
    (graph.toTemplate.field? "Resources" >>= (·.field? "Group")) = some entry ∧
    Resource.Carries entry "Properties" (.obj [("MinSize", .str "1"), ("MaxSize", .str "1")]) ∧
    Resource.Carries entry "DependsOn" (.str "ApiLogGroup") ∧
    ¬ Resource.Carries entry "UpdatePolicy" (.obj [("AutoScalingReplacingUpdate", .obj [("WillReplace", .bool true)])]) ∧
    (graph.toTemplate.field? "Outputs" >>= (·.field? "Address")) =
      some (.obj [("Value", .str "localhost"), ("Export", .obj [("Name", .str "address")])]) := by
  obtain ⟨graph, compiled, compiles, _⟩ := compileService_any (packaged exporting) none (fun _ _ => true) (by decide +kernel)
  obtain ⟨declared, outputs, resources, exposed, listed, given, held, shown, each, named⟩ :=
    compileService_delivers (packaged exporting) none graph compiled compiles (by decide +kernel)
  cases listed
  cases given
  obtain ⟨entry, found, attributes⟩ := each "Group" _ (List.mem_cons_self ..)
  have free : ¬ (packaged exporting).TakesOutput "Address" := by
    rintro ⟨name, function, member, ⟨versioned, _⟩ | ⟨_, taken⟩⟩
    · cases List.mem_singleton.mp member
      cases versioned
    · exact absurd taken (Naming.endings_apart "" (Naming.function name) "Address" "Url" 1 (by decide) (by decide))
  refine ⟨graph, compiled, entry, compiles, ?_, (attributes "Properties" _ rfl rfl).mpr ⟨by decide, fun _ => by contradiction⟩,
    (attributes "DependsOn" _ rfl rfl).mpr ⟨by decide, fun _ => rfl⟩,
    fun carries => absurd ((attributes "UpdatePolicy" _ rfl rfl).mp carries).1 (by decide), ?_⟩
  · rw [held]
    exact found
  · rw [shown]
    exact (named "Address" _ rfl).1 free

/-- The update policy is lost, and the URL is no longer exported, as the function's own output stands in its place. -/
theorem exporting_loses : exporting.LeavesRole ∧ ∃ graph compiled group entry output own,
    ((packaged exporting).compileService none).1 = .ok (graph, compiled) ∧
    ((Value.obj exporting.resources).field? "Resources" >>= (·.field? "Group")) = some group ∧
    (group.field? "UpdatePolicy").any Value.given = true ∧
    (graph.toTemplate.field? "Resources" >>= (·.field? "Group")) = some entry ∧ entry.field? "UpdatePolicy" = none ∧
    ((Value.obj exporting.resources).field? "Outputs" >>= (·.field? "ApiLambdaFunctionUrl")) = some output ∧
    output.field? "Export" = some (.obj [("Name", .str "api-url")]) ∧
    (graph.toTemplate.field? "Outputs" >>= (·.field? "ApiLambdaFunctionUrl")) = some own ∧ own.field? "Export" = none := by
  obtain ⟨graph, compiled, compiles, lost⟩ := compileService_any (packaged exporting) none
    (fun graph _ =>
      (graph.toTemplate.field? "Resources" >>= (·.field? "Group")).any (fun entry => (entry.field? "UpdatePolicy").isNone) &&
      (graph.toTemplate.field? "Outputs" >>= (·.field? "ApiLambdaFunctionUrl")).any fun own => (own.field? "Export").isNone)
    (by decide +kernel)
  rw [Bool.and_eq_true, Option.any_eq_true, Option.any_eq_true] at lost
  obtain ⟨⟨entry, found, policy⟩, own, shown, exported⟩ := lost
  exact ⟨by decide +kernel, graph, compiled, _, entry, _, own, compiles, rfl, rfl, found, Option.isNone_iff_eq_none.mp policy,
    rfl, rfl, shown, Option.isNone_iff_eq_none.mp exported⟩

end Blueprint

end FunctionStack
