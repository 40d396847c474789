import FunctionStack.Proofs.Compile.Serving
import FunctionStack.Proofs.Compile.Whole
import FunctionStack.Proofs.Template.Growth

/-!
What a compilation leaves alone, whether it succeeds or fails: resources are only added, and of those that are there only the
default role changes, by what its first policy lacks and by statements behind its own.
-/

namespace FunctionStack

open Build (Yields outcome_bind)

theorem Build.outcome_forFunction {α : Type} (function : String) (step : Build α) (w : Workspace) :
    (forFunction function step).outcome w = ((step.outcome w).1.mapError (attributed function), (step.outcome w).2) := rfl

namespace Graph.RoleExtends

variable {graph start after : Graph} {policy : Option ExecutionPolicy} (extended : start.RoleExtends after)
  (begins : ExecutionPolicy.ofGraph graph = .ok (start, policy))

include extended begins

/-- A default role whose policy has been bound and got statements has grown. -/
theorem grows {role : Resource} (found : graph.find? defaultExecutionRole = some role) :
    ∃ properties, after.find? defaultExecutionRole = some { role with properties := properties } ∧
      ExecutionPolicy.RoleGrows role.properties properties := by
  rcases ExecutionPolicy.ofGraph_ok graph start policy begins with ⟨free, _⟩ | ⟨held, properties, present, completed, rfl, _⟩
  · cases free.symm.trans found
  · rw [found] at present
    cases present
    have complete := ExecutionPolicy.completeRole_grows role.properties properties completed
    have bound : (ExecutionPolicy.setProperties graph defaultExecutionRole properties).find? defaultExecutionRole =
        some { role with properties := properties } := by
      rw [ExecutionPolicy.setProperties_find?, found, Option.map_some, if_pos rfl]
    rcases extended with same | ⟨again, statements, more, held, list, changed⟩
    · exact ⟨properties, same.trans bound, complete⟩
    · rw [bound] at held
      cases held
      exact ⟨_, changed, complete.withStatement list more⟩

theorem absent (free : graph.find? defaultExecutionRole = none) : after.find? defaultExecutionRole = none := by
  rcases ExecutionPolicy.ofGraph_ok graph start policy begins with ⟨_, rfl, _⟩ | ⟨held, _, present, _⟩
  · rcases extended with same | ⟨_, _, _, held, _⟩
    · exact same.trans free
    · cases free.symm.trans held
  · cases free.symm.trans present

end Graph.RoleExtends

namespace Blueprint

variable (blueprint : Blueprint)

/-- The first function of a list is compiled first; if it fails, that is the end. -/
theorem compileEach_outcome_cons (name : String) (function : FunctionConfig) (rest : List (String × FunctionConfig))
    (w : Workspace) : (blueprint.compileEach ((name, function) :: rest)).outcome w =
      match (blueprint.compileFunction name function).outcome w with
      | (.ok compiled, between) =>
        (blueprint.compileEach rest).outcome { between with compiled := between.compiled ++ [compiled] }
      | (.error failure, left) => (.error (Build.attributed name failure), left) := by
  rw [compileEach, outcome_bind, Build.outcome_forFunction]
  rcases (blueprint.compileFunction name function).outcome w with ⟨_ | _, _⟩ <;> rfl

/-- Some functions are compiled after others. -/
theorem compileEach_append (before after : List (String × FunctionConfig)) (w : Workspace) :
    (blueprint.compileEach (before ++ after)).outcome w = match (blueprint.compileEach before).outcome w with
      | (.ok _, between) => (blueprint.compileEach after).outcome between
      | (.error failure, left) => (.error failure, left) := by
  induction before generalizing w with
  | nil => rfl
  | cons entry rest ih =>
      obtain ⟨name, function⟩ := entry
      rw [List.cons_append, compileEach_outcome_cons, compileEach_outcome_cons]
      rcases (blueprint.compileFunction name function).outcome w with ⟨failure | compiled, between⟩
      · rfl
      · exact ih _

theorem compileEach_grows (functions : List (String × FunctionConfig)) (w : Workspace) :
    w.graph.GrownFor (functions.map Prod.fst) ((blueprint.compileEach functions).outcome w).2.graph := by
  induction functions generalizing w with
  | nil => exact .refl _ w.graph
  | cons entry rest ih =>
      obtain ⟨name, function⟩ := entry
      have served := blueprint.compileFunction_serves name function w
      rw [compileEach_outcome_cons]
      generalize (blueprint.compileFunction name function).outcome w = ended at served ⊢
      rcases ended with ⟨failure | compiled, between⟩
      · exact served.grows.mono (List.cons_subset_cons _ (List.nil_subset _))
      · exact served.grows.trans (ih { between with compiled := between.compiled ++ [compiled] })

/-- A workspace that the compilation of a graph comes to once it has compiled these functions. -/
def Reaches (graph : Graph) (session : RegistrySession) (functions : List (String × FunctionConfig)) (w : Workspace) : Prop :=
  ∃ start policy, ExecutionPolicy.ofGraph graph = .ok (start, policy) ∧ blueprint.checkArtifacts = .ok () ∧
    Yields (blueprint.compileEach functions) (.fresh start policy session) () w

/-- What has been checked of a workspace that a compilation comes to. -/
theorem reaches_any (graph : Graph) (session : RegistrySession) (functions : List (String × FunctionConfig))
    (p : Workspace → Bool) (comes : ((ExecutionPolicy.ofGraph graph).toOption.any fun bound =>
      let ended := (blueprint.compileEach functions).outcome (.fresh bound.1 bound.2 session)
      blueprint.checkArtifacts.toBool && ended.1.toBool && p ended.2) = true) :
    ∃ w, blueprint.Reaches graph session functions w ∧ p w = true := by
  rcases begins : ExecutionPolicy.ofGraph graph with failure | ⟨start, policy⟩
  · rw [begins] at comes
    cases comes
  · simp only [begins, Except.toOption, Option.any_some, Bool.and_eq_true] at comes
    obtain ⟨⟨readable, compiles⟩, holds⟩ := comes
    rcases looked : blueprint.checkArtifacts with failure | ⟨⟩
    · rw [looked] at readable
      cases readable
    · rcases ended : (blueprint.compileEach functions).outcome (.fresh start policy session) with ⟨failure | ⟨⟩, w⟩
      · rw [ended] at compiles
        cases compiles
      · rw [ended] at holds
        exact ⟨w, ⟨start, policy, begins, looked, ended⟩, holds⟩

/-- A compilation binds the policy, looks at its artifacts, compiles the functions and validates what they leave. -/
theorem compile_outcome (graph : Graph) (session : RegistrySession) : blueprint.compile graph session =
    match ExecutionPolicy.ofGraph graph with
    | .error failure => (.error failure, .fresh graph none session)
    | .ok (start, policy) => match blueprint.checkArtifacts with
      | .error failure => (.error failure, .fresh start policy session)
      | .ok _ => match (blueprint.compileEach blueprint.functions).outcome (.fresh start policy session) with
        | (.ok _, w) => (w.graph.validate, w)
        | (.error failure, left) => (.error failure, left) := by
  have bound : bindPolicy.outcome (.fresh graph none session) = match ExecutionPolicy.ofGraph graph with
      | .error failure => (.error failure, .fresh graph none session)
      | .ok (start, policy) => (.ok (), .fresh start policy session) := by
    change (Build.ofResult (ExecutionPolicy.ofGraph graph) >>= _).outcome (.fresh graph none session) = _
    rw [outcome_bind]
    cases ExecutionPolicy.ofGraph graph <;> rfl
  change blueprint.compileAll.outcome (.fresh graph none session) = _
  rw [compileAll, outcome_bind, bound]
  rcases ExecutionPolicy.ofGraph graph with failure | ⟨start, policy⟩
  · rfl
  · change (Build.ofResult blueprint.checkArtifacts >>= _).outcome (.fresh start policy session) = _
    rw [outcome_bind]
    rcases blueprint.checkArtifacts with failure | ⟨⟩
    · rfl
    · change (blueprint.compileEach blueprint.functions >>= _).outcome (.fresh start policy session) = _
      rw [outcome_bind]
      dsimp only
      rcases (blueprint.compileEach blueprint.functions).outcome (.fresh start policy session) with ⟨_ | _, _⟩ <;> rfl

/-- What was reached before is part of what a compilation ends with. -/
theorem Reaches.grows {blueprint : Blueprint} {graph : Graph} {session : RegistrySession}
    {before after : List (String × FunctionConfig)} {between : Workspace}
    (reaches : blueprint.Reaches graph session before between) (functions : blueprint.functions = before ++ after) :
    between.graph.GrownFor (after.map Prod.fst) (blueprint.compile graph session).2.graph := by
  obtain ⟨start, policy, begins, readable, compiles⟩ := reaches
  have grown := blueprint.compileEach_grows after between
  rw [compile_outcome, begins, readable, functions]
  change between.graph.GrownFor _ (match (blueprint.compileEach (before ++ after)).outcome (.fresh start policy session) with
    | (.ok _, w) => (w.graph.validate, w)
    | (.error failure, left) => (.error failure, left)).2.graph
  rw [compileEach_append, compiles]
  change between.graph.GrownFor _ (match (blueprint.compileEach after).outcome between with
    | (.ok _, w) => (w.graph.validate, w)
    | (.error failure, left) => (.error failure, left)).2.graph
  generalize (blueprint.compileEach after).outcome between = ended at grown ⊢
  rcases ended with ⟨_ | _, _⟩ <;> exact grown

/-- Whatever comes of a compilation, it has left the graph alone, or it has bound the policy and added for its functions. -/
theorem compile_grows (graph : Graph) (session : RegistrySession) :
    (blueprint.compile graph session).2.graph = graph ∨ ∃ start policy, ExecutionPolicy.ofGraph graph = .ok (start, policy) ∧
      start.GrownFor (blueprint.functions.map Prod.fst) (blueprint.compile graph session).2.graph := by
  rcases begins : ExecutionPolicy.ofGraph graph with failure | ⟨start, policy⟩
  · refine Or.inl ?_
    rw [compile_outcome, begins]
    rfl
  · refine Or.inr ⟨start, policy, rfl, ?_⟩
    cases readable : blueprint.checkArtifacts with
    | error failure =>
        rw [compile_outcome, begins, readable]
        exact .refl _ start
    | ok =>
        have opened : blueprint.Reaches graph session [] (.fresh start policy session) := ⟨start, policy, begins, readable, rfl⟩
        exact opened.grows rfl

/-- Resources are only added, however a compilation ends. Those that are there stay in their places as they are, but for the
properties of the default role, whose first policy grows; and what has been added by the time some functions are compiled is
not touched by the functions after them. -/
theorem compile_only_adds (graph : Graph) (session : RegistrySession) :
    let after := (blueprint.compile graph session).2.graph
    graph.ids <+: after.ids ∧
      (∀ id resource, graph.find? id = some resource →
        ∃ properties, after.find? id = some { resource with properties := properties } ∧
          (properties = resource.properties ∨
            id = defaultExecutionRole ∧ ExecutionPolicy.RoleGrows resource.properties properties)) ∧
      ∀ earlier later between, blueprint.functions = earlier ++ later → blueprint.Reaches graph session earlier between →
        ∀ id resource, graph.find? id = none → between.graph.find? id = some resource → after.find? id = some resource := by
  intro after
  refine ⟨?_, ?_, ?_⟩
  · rcases blueprint.compile_grows graph session with same | ⟨start, policy, begins, grown⟩
    · rw [show after = graph from same]
    · rw [← (ExecutionPolicy.ofGraph_keeps graph start policy begins).1]
      exact grown.ids
  · intro id resource found
    rcases blueprint.compile_grows graph session with same | ⟨start, policy, begins, grown⟩
    · exact ⟨resource.properties, (congrArg (Graph.find? · id) same).trans found, Or.inl rfl⟩
    · by_cases apart : id = defaultExecutionRole
      · subst apart
        obtain ⟨properties, held, grows⟩ := grown.role.grows begins found
        exact ⟨properties, held, Or.inr ⟨rfl, grows⟩⟩
      · have present := (ExecutionPolicy.ofGraph_elsewhere graph start policy begins id apart).trans found
        exact ⟨resource.properties, grown.kept id resource apart present, Or.inl rfl⟩
  · intro earlier later between functions reaches id resource free found
    refine (reaches.grows functions).kept id resource ?_ found
    rintro rfl
    obtain ⟨start, policy, begins, _, compiles⟩ := reaches
    have grown := blueprint.compileEach_grows earlier (.fresh start policy session)
    rw [compiles] at grown
    rw [grown.role.absent begins free] at found
    cases found

/-- A role without policies, in a graph that lacks the log groups: compiling the functions of the service into it fails in
the end, and the role has got a policy with their statements, and what the first of them was compiled into is there. -/
theorem gate_only_adds :
    let graph : Graph := ⟨[(defaultExecutionRole, .make "AWS::IAM::Role" [] none)], .obj []⟩
    ∃ between resource properties, (packaged gate).Reaches graph ⟨[], []⟩ (gate.functions.take 1) between ∧
      between.graph.find? "ApiLambdaFunction" = some resource ∧
      ((packaged gate).compile graph ⟨[], []⟩).1.toBool = false ∧
      ((packaged gate).compile graph ⟨[], []⟩).2.graph.find? "ApiLambdaFunction" = some resource ∧
      ((packaged gate).compile graph ⟨[], []⟩).2.graph.find? defaultExecutionRole =
        some { Resource.make "AWS::IAM::Role" [] none with properties := properties } ∧
      ExecutionPolicy.RoleGrows (.obj []) properties := by
  intro graph
  obtain ⟨_, kept, spared⟩ := compile_only_adds (packaged gate) graph ⟨[], []⟩
  obtain ⟨between, reaches, held⟩ := (packaged gate).reaches_any graph ⟨[], []⟩ (gate.functions.take 1)
    (fun w => (w.graph.find? "ApiLambdaFunction").isSome) (by decide +kernel)
  obtain ⟨resource, found⟩ := Option.isSome_iff_exists.mp held
  obtain ⟨properties, role, same | ⟨_, grows⟩⟩ := kept defaultExecutionRole _ rfl
  · have changed : (((packaged gate).compile graph ⟨[], []⟩).2.graph.find? defaultExecutionRole).any
        (fun role => role.properties.given) = true := by decide +kernel
    rw [role, same] at changed
    cases changed
  · exact ⟨between, resource, properties, reaches, found, by decide +kernel,
      spared _ _ between (List.take_append_drop 1 gate.functions).symm reaches _ _ rfl found, role, grows⟩

end Blueprint

end FunctionStack
