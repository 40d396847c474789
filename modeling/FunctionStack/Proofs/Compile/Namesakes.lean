import FunctionStack.Proofs.Compile.Sending
import FunctionStack.Proofs.Template.Reordering

/-!
Functions whose names are normalized to one text. They share one id, and the service compiles only if one resource is what
each of them would have been compiled into.
-/

namespace FunctionStack

theorem Naming.function_iff (a b : String) : function a = function b ↔ normalized a = normalized b := by
  constructor
  · intro same
    exact suffix_cancel _ _ _ same
  · intro same
    rw [function, function, same]

namespace Blueprint

/-- A resource is what a function is compiled into, or equals it. -/
def StandsFor (blueprint : Blueprint) (held : Resource) (entry : String × FunctionConfig) : Prop :=
  ∃ session graph plan, blueprint.Makes session graph plan ∧ plan.entry = entry ∧ held.Fits (plan.compute blueprint)

variable {blueprint : Blueprint} {core start : Graph} {session : RegistrySession} {w : Workspace}
  {policy : Option ExecutionPolicy} {plans : List Plan}

/-- Where an id of a function leads, a resource stands for all functions of that id. -/
theorem Took.stands_for (took : blueprint.Took core session w start policy plans) (entry : String × FunctionConfig)
    (declared : entry ∈ blueprint.functions) : ∃ held, w.graph.find? (Naming.function entry.1) = some held ∧
      ∀ other ∈ blueprint.functions, Naming.function other.1 = Naming.function entry.1 → blueprint.StandsFor held other := by
  obtain ⟨plan, planned, rfl⟩ := List.mem_map.mp (took.entries.symm ▸ declared)
  obtain ⟨held, found, -, -⟩ := took.holds planned
  refine ⟨held, found, ?_⟩
  intro other listed shares
  obtain ⟨twin, twinned, rfl⟩ := List.mem_map.mp (took.entries.symm ▸ listed)
  obtain ⟨own, present, fits, -⟩ := took.holds twinned
  have shared : Naming.function twin.name = Naming.function plan.name := shares
  rw [shared, found, Option.some.injEq] at present
  subst present
  obtain ⟨asked, graph, makes⟩ := took.made twin twinned
  exact ⟨asked, graph, twin, makes, rfl, fits⟩

/-- Records have the ids of their functions' normalized names. -/
theorem Took.records_ids (took : blueprint.Took core session w start policy plans) :
    w.compiled.map (·.id) = blueprint.functions.map fun entry => Naming.function entry.1 := by
  rw [took.records, ← took.entries, List.map_map, List.map_map]
  rfl

/-- Functions are compiled under the ids of their normalized names, so these ids differ exactly if the normalized names do.
Functions with one id are compiled into one resource, which is what each of them comes to and so has the name that each of
them is deployed under: functions that are deployed under different names have different ids. -/
theorem compileService_namesakes (service : ServiceConfig) (files : Files) (registry : Registry) (enforce : Bool)
    (proper : (ofService service files registry enforce).IsProper)
    (regular : (Value.obj service.resources).isProper = true) (previous : Option Graph) (graph : Graph)
    (compiled : List CompiledFunction)
    (compiles : ((ofService service files registry enforce).compileService previous).1 = .ok (graph, compiled)) :
    List.Forall₂ (fun entry record => record.name = entry.1 ∧ record.id = Naming.function entry.1)
        service.functions compiled ∧
      ((compiled.map (·.id)).Nodup ↔ Naming.Distinct service.functions) ∧
      (∀ entry ∈ service.functions, ∃ held, graph.find? (Naming.function entry.1) = some held ∧
        ∀ other ∈ service.functions, Naming.function other.1 = Naming.function entry.1 →
          (ofService service files registry enforce).StandsFor held other ∧ held.properties.field? "FunctionName" =
            some (.str (service.deployedName other.1 (some other.2) (some service.provider.stage)))) ∧
      ((service.functions.map fun entry =>
          service.deployedName entry.1 (some entry.2) (some service.provider.stage)).Nodup →
        (compiled.map (·.id)).Nodup) := by
  obtain ⟨core, w, start, policy, plans, seeded, _, ran, rfl, rfl⟩ := compileService_ran proper compiles
  have entries : plans.map Plan.entry = service.functions := ran.entries
  have ids : (plans.map Plan.record).map (·.id) = service.functions.map fun entry => Naming.function entry.1 := by
    rw [← ran.records]
    exact ran.records_ids
  have shared : ∀ entry ∈ service.functions, ∃ held, w.graph.find? (Naming.function entry.1) = some held ∧
      ∀ other ∈ service.functions, Naming.function other.1 = Naming.function entry.1 →
        (ofService service files registry enforce).StandsFor held other ∧ held.properties.field? "FunctionName" =
          some (.str (service.deployedName other.1 (some other.2) (some service.provider.stage))) := by
    intro entry declared
    obtain ⟨held, found, stands⟩ := ran.stands_for entry declared
    refine ⟨held, found, fun other listed shares => ⟨stands other listed shares, ?_⟩⟩
    obtain ⟨plan, planned, name, function⟩ := ran.planned other.1 other.2 listed
    obtain ⟨compute, present, -, deployed⟩ := ran.deployed seeded proper planned regular
    rw [name, shares, found, Option.some.injEq] at present
    rwa [← present, name, function] at deployed
  refine ⟨?_, ?_, ?_, ?_⟩
  · rw [← entries, List.forall₂_map_left_iff, List.forall₂_map_right_iff, List.forall₂_same]
    intro plan _
    exact ⟨rfl, rfl⟩
  · rw [ids, Naming.Distinct]
    simp only [List.Nodup, List.pairwise_map, Ne, Naming.function_iff]
  · intro entry declared
    obtain ⟨held, found, all⟩ := shared entry declared
    exact ⟨held, Graph.carried_keeps w.graph previous _ _ found, all⟩
  · intro apart
    rw [ids, List.Nodup, List.pairwise_map]
    refine (List.pairwise_map.mp apart).imp_of_mem fun {one two} first second differ same => differ ?_
    obtain ⟨held, -, all⟩ := shared one first
    have own := (all one first rfl).2
    have theirs := (all two second same.symm).2
    exact Value.str.inj (Option.some.inj (own.symm.trans theirs))

/-- Two functions with packages of their own, and with names that differ but are normalized to one text. -/
def namesakes : ServiceConfig := .ofFields [
  ("service", .str "s"),
  ("provider", .obj [("versionFunctions", .bool false)]),
  ("functions", .obj [
    ("a_b", .obj [("handler", .str "h"), ("name", .str "ab"), ("disableLogs", .bool true),
      ("package", .obj [("artifact", .str "first/code.zip")])]),
    ("aUnderscoreb", .obj [("handler", .str "h"), ("name", .str "ab"), ("disableLogs", .bool true),
      ("package", .obj [("artifact", .str "second/code.zip")])])])]

/-- Two keys of the functions have one id in the records, and the template has one function for both. -/
theorem namesakes_merged : ∃ graph compiled,
    ((packaged namesakes).compileService none).1 = .ok (graph, compiled) ∧
      namesakes.functions.keys = ["a_b", "aUnderscoreb"] ∧
      compiled.map (fun record => (record.name, record.id)) =
        [("a_b", "AUnderscorebLambdaFunction"), ("aUnderscoreb", "AUnderscorebLambdaFunction")] ∧
      graph.ids = [deploymentBucketId, defaultExecutionRole, "AUnderscorebLambdaFunction"] := by
  obtain ⟨graph, compiled, compiles, known⟩ := compileService_any (packaged namesakes) none
    (fun graph compiled => decide (compiled.map (fun record => (record.name, record.id)) =
        [("a_b", "AUnderscorebLambdaFunction"), ("aUnderscoreb", "AUnderscorebLambdaFunction")] ∧
      graph.ids = [deploymentBucketId, defaultExecutionRole, "AUnderscorebLambdaFunction"])) (by decide +kernel)
  obtain ⟨records, ids⟩ := of_decide_eq_true known
  exact ⟨graph, compiled, compiles, by decide +kernel, records, ids⟩

/-- The one function that is compiled stands for both of them, under the name that both are deployed under. -/
theorem namesakes_stand_together : ∃ graph compiled held,
    ((packaged namesakes).compileService none).1 = .ok (graph, compiled) ∧ ¬ (compiled.map (·.id)).Nodup ∧
      graph.find? "AUnderscorebLambdaFunction" = some held ∧
      held.properties.field? "FunctionName" = some (.str "ab") ∧
      ∀ entry ∈ namesakes.functions, (packaged namesakes).StandsFor held entry := by
  obtain ⟨graph, compiled, compiles, -⟩ := compileService_any (packaged namesakes) none (fun _ _ => true)
    (by decide +kernel)
  obtain ⟨-, distinct, shared, -⟩ := compileService_namesakes namesakes (packaged namesakes).files
    (packaged namesakes).registry false (by decide +kernel) (by decide +kernel) none graph compiled compiles
  have merged : ¬ (compiled.map (·.id)).Nodup := by
    rw [distinct]
    decide +kernel
  have one : ∀ entry ∈ namesakes.functions, Naming.function entry.1 = "AUnderscorebLambdaFunction" := by decide +kernel
  obtain ⟨entry, declared, deployed⟩ : ∃ entry ∈ namesakes.functions,
      namesakes.deployedName entry.1 (some entry.2) (some namesakes.provider.stage) = "ab" := by
    exact ⟨_, List.mem_cons_self .., by decide +kernel⟩
  obtain ⟨held, found, all⟩ := shared entry declared
  have named := (all entry declared rfl).2
  rw [deployed] at named
  rw [one entry declared] at found
  have together (other : String × FunctionConfig) (listed : other ∈ namesakes.functions) :
      (packaged namesakes).StandsFor held other := by
    have shares := (one other listed).trans (one entry declared).symm
    exact (all other listed shares).1
  exact ⟨graph, compiled, held, compiles, merged, found, named, together⟩

end Blueprint

end FunctionStack
