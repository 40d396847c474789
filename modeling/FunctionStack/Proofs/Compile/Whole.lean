import FunctionStack.Proofs.Compile.Course
import FunctionStack.Proofs.Compile.Service
import FunctionStack.Proofs.Template.Complete

/-!
The compilation of all functions into a graph: the policy is bound, the course of the plans is taken from there, and the
graph that it leads to is validated.
-/

namespace FunctionStack

open Build (Yields performAll performAll_ok)

namespace ExecutionPolicy

/-- A policy is completed in its place. -/
theorem ofGraph_keeps (graph after : Graph) (policy : Option ExecutionPolicy)
    (found : ofGraph graph = .ok (after, policy)) : after.ids = graph.ids ∧ after.outputs = graph.outputs := by
  rcases ofGraph_ok graph after policy found with ⟨_, rfl, _⟩ | ⟨_, properties, _, _, rfl, _⟩
  · exact ⟨rfl, rfl⟩
  · exact ⟨setProperties_ids graph defaultExecutionRole properties, rfl⟩

theorem ofGraph_distinct (graph after : Graph) (policy : Option ExecutionPolicy)
    (found : ofGraph graph = .ok (after, policy)) (distinct : graph.IsDistinct) : after.IsDistinct := by
  obtain ⟨ids, outputs⟩ := ofGraph_keeps graph after policy found
  exact ⟨ids ▸ distinct.ids, outputs ▸ distinct.outputs⟩

/-- Completing the policy changes the default role only. -/
theorem ofGraph_elsewhere (graph after : Graph) (policy : Option ExecutionPolicy)
    (found : ofGraph graph = .ok (after, policy)) (id : String) (apart : id ≠ defaultExecutionRole) :
    after.find? id = graph.find? id := by
  rcases ofGraph_ok graph after policy found with ⟨_, rfl, _⟩ | ⟨_, properties, _, _, rfl, _⟩
  · rfl
  · have lookup := (Graph.setProperties_grows graph properties).lookup id apart
    rwa [List.append_nil] at lookup

end ExecutionPolicy

/-- A workspace in which no function has been compiled. -/
def Workspace.fresh (graph : Graph) (policy : Option ExecutionPolicy) (session : RegistrySession) : Workspace :=
  ⟨graph, policy, [], [], session⟩

namespace Blueprint

variable {blueprint : Blueprint}

/-- Completing the role takes and frees no ids. -/
theorem LayersApart.completed {graph completed after : Graph} {policy : Option ExecutionPolicy}
    {functions : List (String × FunctionConfig)} (layers : blueprint.LayersApart graph after functions)
    (bound : ExecutionPolicy.ofGraph graph = .ok (completed, policy)) :
    blueprint.LayersApart completed after functions := by
  intro name function member id listed
  obtain ⟨apart, known⟩ := layers name function member id listed
  have same := ExecutionPolicy.ofGraph_elsewhere graph completed policy bound id apart
  exact ⟨apart, fun present => (congrArg Option.isSome same).trans (known present)⟩

/-- A compilation that has succeeded, as the course of the plans that were made for its functions on the way. -/
structure Took (blueprint : Blueprint) (graph : Graph) (session : RegistrySession) (w : Workspace) (start : Graph)
    (policy : Option ExecutionPolicy) (plans : List Plan) : Prop where
  begins : ExecutionPolicy.ofGraph graph = .ok (start, policy)
  readable : blueprint.checkArtifacts = .ok ()
  entries : plans.map Plan.entry = blueprint.functions
  made : ∀ plan ∈ plans, ∃ session graph, blueprint.Makes session graph plan
  course : Yields (performAll (blueprint.course plans)) (.fresh start policy session) () (w.aside session [])
  records : w.compiled = plans.map Plan.record
  session : w.registry = blueprint.sessionAfter blueprint.functions session
  closed : w.graph.Closed

/-- Such a compilation if what users write is proper: each plan can be made from what the course leaves behind too, unless a
layer of its function is placed on the way. -/
structure Ran (blueprint : Blueprint) (graph : Graph) (first : RegistrySession) (w : Workspace) (start : Graph)
    (policy : Option ExecutionPolicy) (plans : List Plan) : Prop
    extends blueprint.Took graph first w start policy plans where
  makes : ∀ plan ∈ plans, blueprint.LayersApart graph w.graph [plan.entry] → blueprint.Makes first w.graph plan

theorem compile_took {graph : Graph} {session : RegistrySession} {w : Workspace}
    (compiles : blueprint.compile graph session = (.ok (), w)) :
    ∃ start policy plans, blueprint.Took graph session w start policy plans ∧
      (blueprint.IsProper → blueprint.Ran graph session w start policy plans) := by
  obtain ⟨start, policy, begins, readable, each, closed⟩ := (compileAll_ok blueprint _ w).mp compiles
  have each : Yields (blueprint.compileEach blueprint.functions) (.fresh start policy session) () w := each
  obtain ⟨plans, entries, made, makes, course, records, registry⟩ := compileEach_plans _ _ _ w each
  have took : blueprint.Took graph session w start policy plans :=
    ⟨begins, readable, entries, made, course, records, registry, closed⟩
  refine ⟨start, policy, plans, took, fun proper => ⟨took, fun plan member layers => ?_⟩⟩
  have alike : blueprint.registry.Alike w.registry session := by
    rw [registry]
    exact (blueprint.sessionAfter_alike _ _).symm
  have own := proper.functions plan.name plan.function (entries ▸ List.mem_map_of_mem member)
  exact (makes plan member own proper.provider (layers.completed begins)).recalled alike

theorem compile_ran (proper : blueprint.IsProper) {graph : Graph} {session : RegistrySession} {w : Workspace}
    (compiles : blueprint.compile graph session = (.ok (), w)) :
    ∃ start policy plans, blueprint.Ran graph session w start policy plans := by
  obtain ⟨start, policy, plans, -, ran⟩ := compile_took compiles
  exact ⟨start, policy, plans, ran proper⟩

namespace Took

variable {graph start : Graph} {session : RegistrySession} {w : Workspace} {policy : Option ExecutionPolicy}
  {plans : List Plan} (took : blueprint.Took graph session w start policy plans)

include took

theorem performed : Performed (.fresh start policy session) (w.aside session []) (blueprint.course plans) :=
  performAll_ok _ (blueprint.course_regular plans) _ _ took.course

theorem grows : start.Grows w.graph ((blueprint.course plans).flatMap Move.placed) := took.performed.grows

theorem declared (plan : Plan) (planned : plan ∈ plans) : plan.entry ∈ blueprint.functions :=
  took.entries ▸ List.mem_map_of_mem planned

end Took

theorem Ran.sound {graph start : Graph} {session : RegistrySession} {w : Workspace} {policy : Option ExecutionPolicy}
    {plans : List Plan} (ran : blueprint.Ran graph session w start policy plans) (proper : blueprint.IsProper)
    (layers : blueprint.LayersApart graph w.graph blueprint.functions) : blueprint.Sound session w.graph plans where
  shared := proper.provider
  makes := fun plan planned => ran.makes plan planned <| layers.mono fun entry member => by
    rw [List.mem_singleton.mp member]
    exact ran.declared plan planned
  own := fun plan planned => proper.functions plan.name plan.function (ran.declared plan planned)

/-- A service that compiles has taken its course from its core graph, and what it kept of an earlier graph came behind that. -/
theorem compileService_took {previous : Option Graph} {graph : Graph} {compiled : List CompiledFunction}
    (compiles : (blueprint.compileService previous).1 = .ok (graph, compiled)) :
    ∃ core w start policy plans, Core.graph blueprint.service = .ok core ∧
      blueprint.Took core ⟨[], []⟩ w start policy plans ∧ graph = previous.elim w.graph w.graph.carryRetained ∧
      compiled = plans.map Plan.record := by
  obtain ⟨core, w, seeded, built, grown, rfl⟩ := (compileService_ok _ _ _ _).mp compiles
  obtain ⟨start, policy, plans, took, -⟩ := compile_took built
  exact ⟨core, w, start, policy, plans, seeded, took, grown, took.records⟩

/-- A service that compiles has run from its core graph, and what it kept of an earlier graph came behind that. -/
theorem compileService_ran (proper : blueprint.IsProper) {previous : Option Graph} {graph : Graph}
    {compiled : List CompiledFunction} (compiles : (blueprint.compileService previous).1 = .ok (graph, compiled)) :
    ∃ core w start policy plans, Core.graph blueprint.service = .ok core ∧
      blueprint.compile core ⟨[], []⟩ = (.ok (), w) ∧ blueprint.Ran core ⟨[], []⟩ w start policy plans ∧
      graph = previous.elim w.graph w.graph.carryRetained ∧ compiled = plans.map Plan.record := by
  obtain ⟨core, w, seeded, built, grown, rfl⟩ := (compileService_ok _ _ _ _).mp compiles
  obtain ⟨start, policy, plans, ran⟩ := compile_ran proper built
  exact ⟨core, w, start, policy, plans, seeded, built, ran, grown, ran.records⟩

/-- The course of plans that can be made from what it leaves behind is a compilation, if no layer is placed on the way. -/
theorem compile_of_course (proper : blueprint.IsProper) {graph start : Graph} {session : RegistrySession} {last : Workspace}
    {policy : Option ExecutionPolicy} {plans : List Plan} (begins : ExecutionPolicy.ofGraph graph = .ok (start, policy))
    (readable : blueprint.checkArtifacts = .ok ()) (entries : plans.map Plan.entry = blueprint.functions)
    (layers : blueprint.LayersApart start last.graph blueprint.functions)
    (makes : ∀ plan ∈ plans, blueprint.Makes session last.graph plan)
    (course : Yields (performAll (blueprint.course plans)) (.fresh start policy session) () last)
    (closed : last.graph.Closed) :
    ∃ left, blueprint.compile graph session = (.ok (), left) ∧ left.graph = last.graph ∧ left.policy = last.policy ∧
      left.compiled = plans.map Plan.record := by
  let left : Workspace :=
    { last with compiled := plans.map Plan.record, registry := blueprint.sessionAfter blueprint.functions session }
  have performed := performAll_ok _ (blueprint.course_regular plans) _ _ course
  have registry : last.registry = session := performed.registry
  have compiled : last.compiled = [] := performed.compiled
  have aside : left.aside session [] = last := by
    rw [← registry, ← compiled]
    rfl
  have each : Yields (blueprint.compileEach blueprint.functions) (.fresh start policy session) () left := by
    refine (compileEach_iff blueprint _ _ left proper.functions proper.provider layers).mpr
      ⟨plans, entries, fun plan member => ?_, ?_, rfl, rfl⟩
    · exact (makes plan member).recalled (blueprint.sessionAfter_alike _ session)
    · rw [← aside] at course
      exact course
  exact ⟨left, (compileAll_ok blueprint _ left).mpr ⟨start, policy, begins, readable, each, closed⟩, rfl, rfl, rfl⟩

/-- No layer of these functions is the default role or among what compiling a service adds to its core graph. -/
def SparesLayers (blueprint : Blueprint) (functions : List (String × FunctionConfig)) : Prop :=
  ∀ core, Core.graph blueprint.service = .ok core → ∀ w, blueprint.compile core ⟨[], []⟩ = (.ok (), w) →
    blueprint.LayersApart core w.graph functions

instance (blueprint : Blueprint) (functions : List (String × FunctionConfig)) :
    Decidable (blueprint.SparesLayers functions) :=
  decidable_of_iff (((Core.graph blueprint.service).toOption.all fun core =>
    let (outcome, w) := blueprint.compile core ⟨[], []⟩
    !outcome.toBool || decide (blueprint.LayersApart core w.graph functions)) = true) <| by
  unfold SparesLayers
  cases Core.graph blueprint.service with
  | error _ => simp [Except.toOption]
  | ok core =>
      simp only [Except.toOption, Option.all_some, Except.ok.injEq, forall_eq']
      rcases blueprint.compile core ⟨[], []⟩ with ⟨_ | ⟨⟩, w⟩ <;> simp [Except.toBool]

end Blueprint

end FunctionStack
