import FunctionStack.Proofs.Compile.Declared
import FunctionStack.Proofs.Compile.Frame

/-!
The first function that cannot be compiled is the one that is reported, with the code of its own failure, and nothing is
compiled after it. Artifacts that cannot be read wait for the function they belong to.
-/

namespace FunctionStack

open Build (Yields attributed)

/-- The code of a failure; what is no error of its own counts as a failed compilation. -/
def Failure.code : Failure → String
  | .rejected error => error.code
  | _ => ErrorKind.compilation.code

/-- A failure that blames a function or nothing is reported as an error of this function, with the code it has. -/
theorem Failure.Blames.attributed {function : String} {failure : Failure} (blames : failure.Blames function) :
    ∃ error, attributed function failure = .rejected error ∧ error.function? = some function ∧ error.code = failure.code ∧
      ∀ own, failure = .rejected own → error.cause = own.cause := by
  cases failure with
  | rejected error =>
      refine ⟨error.during function, rfl, ?_⟩
      unfold CompileError.during
      rcases blames with unnamed | named
      · rw [unnamed, Option.isSome_none, if_neg Bool.false_ne_true]
        have silent : error.cause.function? = none := by
          unfold CompileError.function? at unnamed
          cases own : error.cause.function? with
          | none => rfl
          | some owner =>
              rw [own] at unnamed
              cases unnamed
        refine ⟨?_, rfl, fun own same => ?_⟩
        · change (error.cause.function? <|> some function) = some function
          rw [silent]
          rfl
        · cases same
          rfl
      · rw [named, Option.isSome_some, if_pos rfl]
        refine ⟨named, rfl, fun own same => ?_⟩
        cases same
        rfl
  | faulty f => exact ⟨_, rfl, rfl, rfl, fun own same => by cases same⟩
  | _ => cases blames

namespace Blueprint

/-- A function that cannot be compiled once those before it have been. -/
structure FirstFailure (blueprint : Blueprint) (graph : Graph) (session : RegistrySession)
    (before : List (String × FunctionConfig)) (name : String) (function : FunctionConfig)
    (after : List (String × FunctionConfig)) (failure : Failure) (w left : Workspace) : Prop where
  declared : blueprint.functions = before ++ (name, function) :: after
  reaches : blueprint.Reaches graph session before w
  fails : (blueprint.compileFunction name function).outcome w = (.error failure, left)

variable (blueprint : Blueprint)

/-- Compiling some functions fails with the failure of the first one that cannot be compiled. -/
theorem compileEach_fails (functions : List (String × FunctionConfig)) (w left : Workspace) (reported : Failure)
    (fails : (blueprint.compileEach functions).outcome w = (.error reported, left)) :
    ∃ before name function after failure between, functions = before ++ (name, function) :: after ∧
      Yields (blueprint.compileEach before) w () between ∧
      (blueprint.compileFunction name function).outcome between = (.error failure, left) := by
  induction functions generalizing w with
  | nil => cases congrArg Prod.fst fails
  | cons entry rest ih =>
      obtain ⟨name, function⟩ := entry
      rw [compileEach_outcome_cons] at fails
      rcases ended : (blueprint.compileFunction name function).outcome w with ⟨failure | compiled, between⟩
      · rw [ended] at fails
        cases (Prod.mk.inj fails).2
        exact ⟨[], name, function, rest, failure, w, rfl, rfl, ended⟩
      · rw [ended] at fails
        obtain ⟨before, other, config, after, failure, middle, rfl, compiles, failed⟩ := ih _ fails
        refine ⟨(name, function) :: before, other, config, after, failure, middle, rfl, ?_, failed⟩
        exact (compileEach_cons _ _ _ _ _ _).mpr ⟨compiled, between, ended, compiles⟩

/-- The records of functions that compile are what each of them has been compiled into, in their order. -/
theorem compileEach_records (functions : List (String × FunctionConfig)) (w left : Workspace)
    (compiles : Yields (blueprint.compileEach functions) w () left) :
    ∃ records, left.compiled = w.compiled ++ records ∧
      List.Forall₂ (fun entry record => record.name = entry.1 ∧
        ∃ earlier later, Yields (blueprint.compileFunction entry.1 entry.2) earlier record later) functions records := by
  induction functions generalizing w with
  | nil =>
      obtain ⟨-, rfl⟩ := (Build.yields_pure _ _ _ _).mp compiles
      exact ⟨[], (List.append_nil _).symm, .nil⟩
  | cons entry rest ih =>
      obtain ⟨name, function⟩ := entry
      obtain ⟨compiled, between, first, others⟩ := (compileEach_cons _ _ _ _ _ _).mp compiles
      obtain ⟨records, grown, each⟩ := ih _ others
      have kept : between.compiled = w.compiled := by
        have served := (blueprint.compileFunction_serves name function w).records
        rwa [first] at served
      obtain ⟨_, _, _, _, _, _, _, _, _, _, _, _, _, _, _, _, _, named⟩ := compileFunction_ok _ _ _ _ _ _ first
      refine ⟨compiled :: records, ?_, .cons ⟨by rw [named], w, between, first⟩ each⟩
      rw [grown, kept, List.append_assoc, List.singleton_append]

theorem checkArtifacts_ok (named : blueprint.hashedArtifacts.any Files.holdsNul = false) :
    blueprint.checkArtifacts = .ok () := by
  rw [checkArtifacts, named]
  rfl

variable {blueprint}

/-- What a first failure makes of the compilation: the error it is reported as, in the workspace that it has left. -/
theorem FirstFailure.reported {graph : Graph} {session : RegistrySession} {before after : List (String × FunctionConfig)}
    {name : String} {function : FunctionConfig} {failure : Failure} {w left : Workspace}
    (first : blueprint.FirstFailure graph session before name function after failure w left) :
    blueprint.compile graph session = (.error (attributed name failure), left) := by
  obtain ⟨declared, ⟨start, policy, begins, readable, compiles⟩, fails⟩ := first
  have each : (blueprint.compileEach blueprint.functions).outcome (.fresh start policy session) =
      (.error (attributed name failure), left) := by
    rw [declared, compileEach_append, compiles]
    dsimp only
    rw [compileEach_outcome_cons, fails]
  rw [compile_outcome, begins, readable]
  dsimp only
  rw [each]

/-- What is there when a first failure is reported and was not there before is for this function or for one before it. -/
theorem FirstFailure.grows {graph : Graph} {session : RegistrySession} {before after : List (String × FunctionConfig)}
    {name : String} {function : FunctionConfig} {failure : Failure} {w left : Workspace}
    (first : blueprint.FirstFailure graph session before name function after failure w left) :
    ∃ start policy, ExecutionPolicy.ofGraph graph = .ok (start, policy) ∧
      start.GrownFor (before.map Prod.fst ++ [name]) left.graph := by
  obtain ⟨_, ⟨start, policy, begins, _, compiles⟩, fails⟩ := first
  have earlier := blueprint.compileEach_grows before (.fresh start policy session)
  have last := (blueprint.compileFunction_serves name function w).grows
  rw [compiles] at earlier
  rw [fails] at last
  exact ⟨start, policy, begins, earlier.trans last⟩

/-- The first function that cannot be compiled is reported. If not all functions compile, there is one that is the first to
fail, and the compilation ends with it: with an error that names this function and has the code of its failure, with the
records of the functions before it, and with resources of these functions only beside those of the core graph. -/
theorem compile_reports_first_failure (blueprint : Blueprint) (core : Graph) (session : RegistrySession)
    (seeded : Core.graph blueprint.service = .ok core) (leaves : blueprint.service.LeavesRole)
    (named : blueprint.hashedArtifacts.any Files.holdsNul = false) :
    ((¬ ∃ w, blueprint.Reaches core session blueprint.functions w) → ∃ before name function after failure w left,
      blueprint.FirstFailure core session before name function after failure w left) ∧
    ∀ before name function after failure w left,
      blueprint.FirstFailure core session before name function after failure w left →
      (∃ error, blueprint.compile core session = (.error (.rejected error), left) ∧ error.function? = some name ∧
        error.code = failure.code ∧ ∀ own, failure = .rejected own → error.cause = own.cause) ∧
      left.compiled = w.compiled ∧
      List.Forall₂ (fun entry record => record.name = entry.1 ∧
        ∃ earlier later, Yields (blueprint.compileFunction entry.1 entry.2) earlier record later) before left.compiled ∧
      ∀ id resource, core.find? id = none → left.graph.find? id = some resource →
        ∃ owner ∈ before.map Prod.fst ++ [name], resource.source = some owner := by
  obtain ⟨policy, begins⟩ := Core.graph_bound blueprint.service core seeded leaves
  have readable := blueprint.checkArtifacts_ok named
  constructor
  · intro incomplete
    rcases ended : (blueprint.compileEach blueprint.functions).outcome (.fresh core policy session) with ⟨reported | ⟨⟩, left⟩
    · obtain ⟨before, name, function, after, failure, between, declared, compiles, fails⟩ :=
        blueprint.compileEach_fails _ _ left reported ended
      exact ⟨before, name, function, after, failure, between, left, declared, ⟨core, policy, begins, readable, compiles⟩, fails⟩
    · exact absurd ⟨left, core, policy, begins, readable, ended⟩ incomplete
  · intro before name function after failure w left first
    have served := blueprint.compileFunction_serves name function w
    rw [first.fails] at served
    obtain ⟨error, same, names, code, cause⟩ := Failure.Blames.attributed served.blames
    obtain ⟨start, _, _, _, compiles⟩ := first.reaches
    obtain ⟨records, listed, each⟩ := blueprint.compileEach_records before _ w compiles
    obtain ⟨start, _, bound, grown⟩ := first.grows
    cases begins.symm.trans bound
    refine ⟨⟨error, ?_, names, code, cause⟩, served.records, ?_, grown.placed⟩
    · rw [first.reported, same]
    · rw [served.records, listed]
      exact each

/-- A service with a function that compiles, one without code, and one whose artifact is missing. -/
def halting : ServiceConfig := .ofFields [
  ("service", .str "s"),
  ("functions", .obj [
    ("first", .obj [("handler", .str "first.handle"), ("url", .bool true), ("versionFunction", .bool false)]),
    ("second", .obj []),
    ("third", .obj [("handler", .str "third.handle"), ("package", .obj [("artifact", .str "missing.zip")])])])]

/-- The function without code is reported, although the artifact of a later one cannot be read. -/
theorem halting_reports_second :
    (∃ reason, (packaged halting).files.readBlob "missing.zip" = .error (.because (.artifactUnreadable reason))) ∧
      (packaged halting).hashedArtifacts = ["missing.zip"] ∧
      ∃ core error left, Core.graph halting = .ok core ∧
        (packaged halting).compile core ⟨[], []⟩ = (.error (.rejected error), left) ∧ error.function? = some "second" ∧
        error.code = "FUNCTION_NEITHER_HANDLER_NOR_IMAGE_DEFINED_ERROR" ∧ left.compiled.map (·.name) = ["first"] ∧
        ∀ id resource, core.find? id = none → left.graph.find? id = some resource →
          resource.source = some "first" ∨ resource.source = some "second" := by
  refine ⟨⟨_, rfl⟩, by decide +kernel, ?_⟩
  have checked : ((Core.graph halting).toOption.any fun core => (ExecutionPolicy.ofGraph core).toOption.any fun bound =>
      let ended := ((packaged halting).compileEach (halting.functions.take 1)).outcome (.fresh bound.1 bound.2 ⟨[], []⟩)
      (packaged halting).checkArtifacts.toBool && ended.1.toBool &&
        decide (ended.2.compiled.map (·.name) = ["first"])) = true := by decide +kernel
  rcases seeded : Core.graph halting with failure | core
  · rw [seeded] at checked
    cases checked
  · rw [seeded] at checked
    obtain ⟨w, reaches, records⟩ := (packaged halting).reaches_any core ⟨[], []⟩ (halting.functions.take 1)
      (fun w => decide (w.compiled.map (·.name) = ["first"])) checked
    have first : (packaged halting).FirstFailure core ⟨[], []⟩ (halting.functions.take 1) "second" (.ofFields [])
        (halting.functions.drop 2) (.because (.neitherHandlerNorImage "second")) w w := ⟨rfl, reaches, rfl⟩
    obtain ⟨⟨error, ends, names, code, _⟩, kept, _, placed⟩ :=
      (compile_reports_first_failure (packaged halting) core ⟨[], []⟩ seeded (by decide +kernel) (by decide +kernel)).2
        _ _ _ _ _ _ _ first
    refine ⟨core, error, w, rfl, ends, names, code, of_decide_eq_true records, fun id resource free found => ?_⟩
    obtain ⟨owner, among, own⟩ := placed id resource free found
    have owners : (halting.functions.take 1).map Prod.fst ++ ["second"] = ["first", "second"] := rfl
    rw [owners] at among
    simp only [List.mem_cons, List.not_mem_nil, or_false] at among
    rcases among with rfl | rfl
    · exact Or.inl own
    · exact Or.inr own

end Blueprint

end FunctionStack
