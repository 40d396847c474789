import FunctionStack.Compile.Function
import FunctionStack.Proofs.Compile.Build
import FunctionStack.Proofs.Template.Graph

/-!
A service that compiles: its core resources, its functions one after another, a validated graph, and what is
kept from an earlier template.
-/

namespace FunctionStack.Blueprint

open Build (Yields)

/-- The workspace in which the compilation of a graph begins. -/
def opening (graph : Graph) : Workspace := ⟨graph, none, [], [], ⟨[], []⟩⟩

theorem compileService_ok (blueprint : Blueprint) (previous : Option Graph) (delivered : Graph)
    (compiled : List CompiledFunction) :
    (blueprint.compileService previous).1 = .ok (delivered, compiled) ↔
      ∃ core w, Core.graph blueprint.service = .ok core ∧ Yields blueprint.compileAll (opening core) () w ∧
        delivered = previous.elim w.graph w.graph.carryRetained ∧ compiled = w.compiled := by
  unfold compileService
  cases seeded : Core.graph blueprint.service with
  | error failure => simp
  | ok core =>
      have run : blueprint.compile core ⟨[], []⟩ = blueprint.compileAll.outcome (opening core) := rfl
      simp only [run, Yields, Except.ok.injEq, existsAndEq, true_and]
      generalize blueprint.compileAll.outcome (opening core) = outcome
      rcases outcome with ⟨failure | ⟨⟩, w⟩
      · simp
      · simp [eq_comm]

/-- The functions are compiled with the policy in place, and the graph they leave is validated. -/
theorem compileAll_ok (blueprint : Blueprint) (w left : Workspace) :
    Yields blueprint.compileAll w () left ↔
      ∃ graph policy, ExecutionPolicy.ofGraph w.graph = .ok (graph, policy) ∧
        blueprint.checkArtifacts = .ok () ∧
        Yields (blueprint.compileEach blueprint.functions) { w with graph := graph, policy := policy } () left ∧
        left.graph.Closed := by
  have sealed (after : Workspace) :
      Yields (get >>= fun (w : Workspace) => Build.ofResult w.graph.validate) after () left ↔
        after.graph.Closed ∧ left = after := by
    rw [Build.yields_get, Build.yields_ofResult, Graph.validate_ok]
  simp only [compileAll, bindPolicy, bind_assoc, Build.yields_get, Build.yields_ofResult_bind, Prod.exists,
    Build.yields_modify_bind]
  simp only [Build.yields_bind (blueprint.compileEach blueprint.functions), sealed]
  constructor
  · rintro ⟨graph, policy, found, ⟨⟩, readable, ⟨⟩, between, each, closed, rfl⟩
    exact ⟨graph, policy, found, readable, each, closed⟩
  · rintro ⟨graph, policy, found, readable, each, closed⟩
    exact ⟨graph, policy, found, (), readable, (), left, each, closed, rfl⟩

/-- What a service compiles into by itself is closed, and an earlier template only adds to it. -/
theorem compileService_own (blueprint : Blueprint) (previous : Option Graph) (delivered : Graph)
    (compiled : List CompiledFunction)
    (compiles : (blueprint.compileService previous).1 = .ok (delivered, compiled)) :
    ∃ own, (blueprint.compileService none).1 = .ok (own, compiled) ∧ own.Closed ∧
      delivered = previous.elim own own.carryRetained := by
  obtain ⟨core, w, seeded, built, grown, rfl⟩ := (compileService_ok _ _ _ _).mp compiles
  obtain ⟨_, _, _, _, _, closed⟩ := (compileAll_ok blueprint _ w).mp built
  exact ⟨w.graph, (compileService_ok _ _ _ _).mpr ⟨core, w, seeded, built, rfl, rfl⟩, closed, grown⟩

/-- The delivered template is closed exactly if nothing that is carried over from the earlier one depends on a
resource that is left behind. -/
theorem compileService_closed_iff (blueprint : Blueprint) (previous delivered : Graph)
    (compiled : List CompiledFunction)
    (compiles : (blueprint.compileService (some previous)).1 = .ok (delivered, compiled)) :
    ∃ own, (blueprint.compileService none).1 = .ok (own, compiled) ∧
      (delivered.Closed ↔
        ∀ id resource, (id, resource) ∈ previous.resources → resource.retained = true → own.has id = false →
          ∀ dependency ∈ resource.dependsOn, own.Survives previous dependency) := by
  obtain ⟨own, compilesAlone, closed, rfl⟩ := compileService_own blueprint (some previous) delivered compiled compiles
  exact ⟨own, compilesAlone, Graph.carryRetained_closed own previous closed⟩

/-- A service with a name and nothing else. -/
def bare (name : String) : Blueprint :=
  .ofService (.ofFields [("service", .str name)]) (.empty []) ⟨false, fun _ => .error ""⟩ false

/-- A service with a layer that is packaged and retained, and a function that uses it and has whatever a function can be
compiled into. -/
def gate : ServiceConfig := .ofFields [
  ("service", .str "s"),
  ("package", .obj [("artifact", .str "code.zip")]),
  ("layers", .obj [("base", .obj [("package", .obj [("artifact", .str "base.zip")]), ("retain", .bool true)])]),
  ("functions", .obj [
    ("api", .obj [
      ("handler", .str "api.handle"),
      ("layers", .arr [.obj [("Ref", .str "BaseLambdaLayer")]]),
      ("url", .bool true),
      ("provisionedConcurrency", .int 1),
      ("destinations", .obj [("onSuccess", .str "worker")])]),
    ("worker", .obj [("handler", .str "worker.handle"), ("onError", .str "arn:aws:sns:eu:1:lost")])])]

/-- The compilation of a service whose artifacts are there. -/
def packaged (service : ServiceConfig) : Blueprint :=
  .ofService service ⟨[], .directory [("code.zip", .file (.bytes (.ofText "code"))),
    ("base.zip", .file (.bytes (.ofText "base")))]⟩ ⟨false, fun _ => .error ""⟩ false

/-- What has been checked of a service that compiles. -/
theorem compileService_any (blueprint : Blueprint) (previous : Option Graph) (p : Graph → List CompiledFunction → Bool)
    (succeeds : (blueprint.compileService previous).1.toOption.any (fun delivered => p delivered.1 delivered.2) = true) :
    ∃ graph compiled, (blueprint.compileService previous).1 = .ok (graph, compiled) ∧ p graph compiled = true := by
  revert succeeds
  generalize (blueprint.compileService previous).1 = result
  intro succeeds
  rcases result with _ | ⟨graph, compiled⟩
  · cases succeeds
  · exact ⟨graph, compiled, rfl, succeeds⟩

/-- An earlier template: a retained topic that comes after a queue. -/
def earlierTopic (queuePolicy : Value) : Graph :=
  ⟨[("Topic", { Resource.make "AWS::SNS::Topic" [] none with
      dependsOn := [.str "Queue"], deletionPolicy := Resource.retainPolicy }),
    ("Queue", { Resource.make "AWS::SQS::Queue" [] none with deletionPolicy := queuePolicy })], .obj []⟩

theorem earlierTopic_closed (queuePolicy : Value) : (earlierTopic queuePolicy).Closed := by
  intro id resource member dependency depends
  simp only [earlierTopic, List.mem_cons, List.not_mem_nil, or_false, Prod.mk.injEq] at member
  rcases member with ⟨_, rfl⟩ | ⟨_, rfl⟩
  · rw [List.mem_singleton.mp depends]
    rfl
  · cases depends

/-- A retained topic is kept closed by a queue that is retained as well. -/
theorem bare_closed_over_retained_queue :
    ∃ delivered compiled,
      ((bare "s").compileService (some (earlierTopic Resource.retainPolicy))).1 = .ok (delivered, compiled) ∧
        delivered.Closed := by
  obtain ⟨own, alone, closed⟩ :=
    compileService_closed_iff (bare "s") (earlierTopic Resource.retainPolicy) _ [] rfl
  refine ⟨_, [], rfl, closed.mpr ?_⟩
  intro id resource member retained free dependency depends
  simp only [earlierTopic, List.mem_cons, List.not_mem_nil, or_false, Prod.mk.injEq] at member
  rcases member with ⟨_, rfl⟩ | ⟨_, rfl⟩
  · exact Or.inr ⟨"Queue", _, List.mem_singleton.mp depends, List.mem_cons_of_mem _ (List.mem_singleton.mpr rfl), rfl⟩
  · cases depends

/-- The queue is left behind, and the topic that comes after it is delivered all the same. -/
theorem bare_open_over_plain_queue :
    (earlierTopic .null).Closed ∧ ∃ delivered compiled,
      ((bare "s").compileService (some (earlierTopic .null))).1 = .ok (delivered, compiled) ∧
        ¬ delivered.Closed := by
  refine ⟨earlierTopic_closed .null, _, [], rfl, ?_⟩
  intro closed
  have resolves := closed "Topic" _ (List.mem_cons_of_mem _ (List.mem_singleton.mpr rfl)) (.str "Queue")
    (List.mem_singleton.mpr rfl)
  cases resolves

end FunctionStack.Blueprint
