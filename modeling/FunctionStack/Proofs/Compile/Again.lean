import FunctionStack.Proofs.Compile.Whole

/-!
Compiling once more into the graph that a compilation has left. Every resource finds its equal in its place, the policy
holds every statement already, and so nothing changes.
-/

namespace FunctionStack

open Build (Yields performAll performAll_ok performAll_succeeds)

theorem Value.merged_again (value : Value) (fields : Fields)
    (distinct : ∀ own, value = .obj own → (Table.keys own).Nodup) :
    (value.merged fields).merged fields = value.merged fields := by
  cases value with
  | obj own => exact congrArg Value.obj (Table.merge_again own fields (distinct own rfl))
  | _ => rfl

theorem ExecutionPolicy.start_list (properties : Value) (statements : List Value)
    (held : statementOf properties = .arr statements) : start properties = .inRole := by
  rw [start, held]

/-- The policy of a graph is found again after it has been asked for statements, as it was at first. -/
theorem ExecutionPolicy.ofGraph_again (graph : Graph) (start left : Workspace) (policy : Option ExecutionPolicy)
    (asked : List Value) (bound : ofGraph graph = .ok (start.graph, policy)) (begins : start.policy = policy)
    (answered : Answered start left asked) (distinct : left.graph.ids.Nodup) :
    ofGraph left.graph = .ok (left.graph, policy) := by
  rcases ofGraph_ok graph start.graph policy bound with ⟨none, same, rfl⟩ | ⟨role, properties, found, completed, same, rfl⟩
  · cases answered with
    | idle _ _ role =>
        rw [same, none] at role
        unfold ofGraph
        rw [role]
    | apart _ before => simp [begins] at before
    | inRole _ _ _ before => simp [begins] at before
  · have present : start.graph.find? defaultExecutionRole = some { role with properties := properties } := by
      rw [same, setProperties_find?, found, Option.map_some, if_pos rfl]
    have complete : IsComplete properties := completeRole_complete role.properties properties completed
    cases answered with
    | idle _ _ kept => exact ofGraph_complete left.graph distinct _ (kept.trans present) complete
    | apart _ _ _ kept => exact ofGraph_complete left.graph distinct _ (kept.trans present) complete
    | inRole statements own _ before held listed after changed =>
        rw [present] at held
        cases held
        have grown := ofGraph_complete left.graph distinct _ changed (complete.withStatement _)
        rwa [start_list _ _ (statementOf_withStatement properties _ statements listed),
          ← start_list properties statements listed] at grown

/-- A policy that holds all that it is asked for stays as it is. -/
theorem Answered.again {w left next last : Workspace} {asked : List Value} (proper : ∀ value ∈ asked, value.isProper = true)
    (one : Answered w left asked) (two : Answered next last asked) (policy : next.policy = w.policy)
    (role : next.graph.find? defaultExecutionRole = left.graph.find? defaultExecutionRole) :
    last.policy = left.policy ∧
      last.graph.find? defaultExecutionRole = left.graph.find? defaultExecutionRole := by
  cases one.both two policy Iff.rfl with
  | kept first second _ same => exact ⟨second.trans (policy.trans first.symm), same.trans role⟩
  | apart _ first second _ same => exact ⟨second.trans first.symm, same.trans role⟩
  | inRole statements known own other _ _ present held list first second changed grown =>
      rw [role, changed] at present
      cases present
      rw [ExecutionPolicy.statementOf_withStatement own.properties _ statements held] at list
      cases list
      refine ⟨second.trans first.symm, grown.trans ?_⟩
      rw [changed, Statements.foldl_add_again statements asked proper, ExecutionPolicy.withStatement_again]

/-- A graph in which everything is placed already does not grow. -/
theorem Graph.Grows.again {before graph after : Graph} {placements : Table Resource} (one : Grows before graph placements)
    (two : Grows graph after placements) (distinct : graph.ids.Nodup)
    (role : after.find? defaultExecutionRole = graph.find? defaultExecutionRole) : after.resources = graph.resources := by
  have lookup (id : String) : after.find? id = graph.find? id := by
    by_cases own : id = defaultExecutionRole
    · rw [own, role]
    · rw [two.lookup id own, Table.find?_append, find?]
      cases held : Table.find? graph.resources id with
      | some _ => rfl
      | none =>
          cases placed : Table.find? placements id with
          | none => rfl
          | some resource =>
              obtain ⟨kept, present, _⟩ := one.fits id resource (Table.find?_some_mem placements id resource placed)
              rw [find?, held] at present
              cases present
  obtain ⟨more, grown⟩ := two.ids
  have unrepeated := two.distinct distinct
  have none : more = [] := by
    rw [List.eq_nil_iff_forall_not_mem]
    intro id member
    have there : id ∈ after.ids := grown ▸ List.mem_append_right _ member
    have here : id ∉ graph.ids := fun inside => by
      rw [grown] at unrepeated
      exact (List.nodup_append.mp unrepeated).2.2 id inside id member rfl
    have absent := (Table.find?_none_iff graph.resources id).mpr here
    exact (Table.find?_none_iff after.resources id).mp ((lookup id).trans absent) there
  exact Table.ext _ _ (grown.trans (by rw [none, List.append_nil]; rfl)) unrepeated lookup

namespace Blueprint

variable {blueprint : Blueprint}

/-- The course of some plans can be taken from what it has led to. -/
theorem Sound.performable {session : RegistrySession} {graph : Graph} {plans : List Plan}
    (sound : blueprint.Sound session graph plans) (w left next : Workspace)
    (performed : Yields (performAll (blueprint.course plans)) w () left) (same : next.graph = left.graph)
    (policy : next.policy = w.policy) (granted : next.granted = w.granted) :
    Performable next (blueprint.course plans) where
  answerable := by
    have one := performAll_ok _ (blueprint.course_regular plans) w left performed
    rw [granted]
    by_cases quiet : Move.asked w.granted (blueprint.course plans) = []
    · exact Or.inr quiet
    refine Or.inl ?_
    cases one.answered with
    | idle nothing _ _ => exact Or.inl (policy.trans (nothing.resolve_right quiet))
    | apart statements before _ _ => exact Or.inr (Or.inl ⟨statements, policy.trans before⟩)
    | inRole statements role _ before _ held _ changed =>
        have kept (statement : Value) := ExecutionPolicy.statementOf_withStatement role.properties statement statements held
        exact Or.inr (Or.inr ⟨policy.trans before, _, _, same ▸ changed, kept _⟩)
  outputs := by
    intro id value description member
    have regular := blueprint.course_regular plans
    obtain ⟨outputs, held⟩ := Build.performAll_exposes _ regular w left performed id description value member
    have merged := (performAll_ok _ regular w left performed).outputs
    rw [held] at merged
    exact ⟨_, by rw [same, merged]; rfl⟩
  fits := by
    intro id resource member held found
    have one := performAll_ok _ (blueprint.course_regular plans) w left performed
    obtain ⟨kept, present, fits⟩ := one.grows.fits id resource member
    rw [Graph.find?, ← same] at present
    rw [Table.find?_append, present] at found
    cases found
    rcases fits with rfl | equal
    · exact (sound.placed id held member).same_refl
    · exact equal

/-- What a course leads to is what it leads to once more. -/
theorem Sound.again {session : RegistrySession} {graph : Graph} {plans : List Plan}
    (sound : blueprint.Sound session graph plans) (w left next last : Workspace) (distinct : w.graph.IsDistinct)
    (performed : Yields (performAll (blueprint.course plans)) w () left) (same : next.graph = left.graph)
    (policy : next.policy = w.policy) (granted : next.granted = w.granted)
    (repeated : Yields (performAll (blueprint.course plans)) next () last) :
    last.graph = left.graph ∧ last.policy = left.policy := by
  have one := performAll_ok _ (blueprint.course_regular plans) w left performed
  have two := performAll_ok _ (blueprint.course_regular plans) next last repeated
  have asked := two.answered
  rw [granted] at asked
  obtain ⟨kept, role⟩ := one.answered.again (sound.asked w.granted) asked policy (by rw [same])
  have grown := two.grows
  rw [same] at grown
  have resources := one.grows.again grown (one.grows.distinct distinct.ids) role
  have outputs : last.graph.outputs = left.graph.outputs := by
    rw [two.outputs, same, one.outputs, Value.merged_again _ _ distinct.outputs]
  refine ⟨?_, kept⟩
  cases written : last.graph
  cases known : left.graph
  simp only [written, known] at resources outputs
  rw [resources, outputs]

/-- Compiling once more what has been compiled changes nothing, whatever registries remember, and comes to the same
functions. -/
theorem compile_again (blueprint : Blueprint) (graph : Graph) (session again : RegistrySession) (w : Workspace)
    (distinct : graph.IsDistinct) (proper : blueprint.IsProper)
    (layers : blueprint.LayersApart graph w.graph blueprint.functions)
    (alike : blueprint.registry.Alike w.registry again)
    (compiles : blueprint.compile graph session = (.ok (), w)) :
    ∃ left, blueprint.compile w.graph again = (.ok (), left) ∧ left.graph = w.graph ∧ left.policy = w.policy ∧
      left.compiled = w.compiled := by
  obtain ⟨start, policy, plans, ran⟩ := compile_ran proper compiles
  have sound := ran.sound proper layers
  have unique := ExecutionPolicy.ofGraph_distinct graph start policy ran.begins distinct
  -- The policy is found as it was, and the course starts where it has led to.
  have rebound := ExecutionPolicy.ofGraph_again _ _ _ policy _ ran.begins rfl ran.performed.answered
    (ran.performed.grows.distinct unique.ids)
  let next : Workspace := .fresh w.graph policy again
  obtain ⟨last, repeated⟩ := performAll_succeeds _ (blueprint.course_regular plans) next
    (sound.performable _ _ next ran.course rfl rfl rfl)
  obtain ⟨same, kept⟩ : last.graph = w.graph ∧ last.policy = w.policy :=
    sound.again _ (w.aside session []) next last unique ran.course rfl rfl rfl repeated
  have recalled : blueprint.registry.Alike session again := by
    have asked := blueprint.sessionAfter_alike blueprint.functions session
    rw [← ran.session] at asked
    exact asked.trans alike
  have apart : blueprint.LayersApart w.graph last.graph blueprint.functions := by
    rw [same]
    exact fun name function member id listed => ⟨(layers name function member id listed).1, fun present => present⟩
  obtain ⟨left, compiled, graphs, policies, records⟩ := compile_of_course proper rebound ran.readable ran.entries apart
    (fun plan planned => same ▸ (sound.makes plan planned).recalled recalled) repeated (same ▸ ran.closed)
  exact ⟨left, compiled, graphs.trans same, policies.trans kept, records.trans ran.records.symm⟩

/-- The functions are compiled a second time and nothing is new. -/
theorem gate_again : ∃ graph w left, Core.graph gate = .ok graph ∧
    (packaged gate).compile graph ⟨[], []⟩ = (.ok (), w) ∧ (packaged gate).compile w.graph w.registry = (.ok (), left) ∧
      left.graph = w.graph ∧ left.compiled = w.compiled ∧ w.compiled.length = 2 := by
  let core := (Core.graph gate).toOption.getD .empty
  let w := ((packaged gate).compile core ⟨[], []⟩).2
  have seeded : Core.graph gate = .ok core := by rfl
  have compiles : (packaged gate).compile core ⟨[], []⟩ = (.ok (), w) := by
    have ended (outcome : Result Unit × Workspace) (succeeds : outcome.1.toBool = true) : outcome = (.ok (), outcome.2) := by
      rcases outcome with ⟨_ | ⟨⟩, _⟩
      · cases succeeds
      · rfl
    exact ended _ (by decide +kernel)
  have distinct : core.IsDistinct := by
    refine ⟨by decide +kernel, fun outputs held => ?_⟩
    have keys : ((core.outputs.fields?.getD []).map Prod.fst).Nodup := by decide +kernel
    rwa [held] at keys
  have layers : (packaged gate).LayersApart core w.graph gate.functions := by decide +kernel
  obtain ⟨left, again, same, -, records⟩ := compile_again (packaged gate) core _ w.registry w distinct
    (by decide +kernel) layers (.refl _) compiles
  exact ⟨core, w, left, seeded, compiles, again, same, records, by decide +kernel⟩

end Blueprint

end FunctionStack
