import FunctionStack.Proofs.Compile.Blame
import FunctionStack.Proofs.Compile.Placed

/-!
What compiling a function does to the workspace, whether it succeeds or fails on the way: resources of the function come
behind those that are there, statements come behind those of the default role, and a failure blames the function.
-/

namespace FunctionStack

namespace Graph

/-- The default role, with statements behind those it keeps. -/
def RoleExtends (graph after : Graph) : Prop :=
  after.find? defaultExecutionRole = graph.find? defaultExecutionRole ∨
    ∃ role statements more, graph.find? defaultExecutionRole = some role ∧
      ExecutionPolicy.statementOf role.properties = .arr statements ∧
      after.find? defaultExecutionRole = some { role with
        properties := ExecutionPolicy.withStatement (.arr (statements ++ more)) role.properties }

theorem RoleExtends.trans {first second third : Graph} (one : first.RoleExtends second) (two : second.RoleExtends third) :
    first.RoleExtends third := by
  rcases one with same | ⟨role, statements, more, found, held, changed⟩
  · unfold RoleExtends
    rwa [← same]
  · rcases two with same | ⟨again, others, last, present, list, final⟩
    · exact Or.inr ⟨role, statements, more, found, held, same.trans changed⟩
    · rw [changed] at present
      cases present
      rw [ExecutionPolicy.statementOf_withStatement role.properties _ statements held] at list
      cases list
      refine Or.inr ⟨role, statements, more ++ last, found, held, ?_⟩
      rw [final, ExecutionPolicy.withStatement_again, List.append_assoc]

/-- A graph to which resources of these functions and statements have been added. -/
structure GrownFor (functions : List String) (graph after : Graph) : Prop where
  ids : graph.ids <+: after.ids
  kept : ∀ id resource, id ≠ defaultExecutionRole → graph.find? id = some resource → after.find? id = some resource
  role : graph.RoleExtends after
  placed : ∀ id resource, graph.find? id = none → after.find? id = some resource →
    ∃ function ∈ functions, resource.source = some function

namespace GrownFor

variable {functions others : List String} {first second third : Graph}

theorem refl (functions : List String) (graph : Graph) : GrownFor functions graph graph where
  ids := List.prefix_rfl
  kept := fun _ _ _ found => found
  role := Or.inl rfl
  placed := fun _ _ free found => by cases free.symm.trans found

theorem trans (one : GrownFor functions first second) (two : GrownFor others second third) :
    GrownFor (functions ++ others) first third where
  ids := one.ids.trans two.ids
  kept := fun id resource apart found => two.kept id resource apart (one.kept id resource apart found)
  role := one.role.trans two.role
  placed := by
    intro id resource free found
    cases between : second.find? id with
    | none =>
        obtain ⟨function, member, own⟩ := two.placed id resource between found
        exact ⟨function, List.mem_append_right _ member, own⟩
    | some held =>
        have apart : id ≠ defaultExecutionRole := by
          rintro rfl
          rcases one.role with same | ⟨_, _, _, present, _⟩
          · rw [free, between] at same
            cases same
          · rw [free] at present
            cases present
        rw [two.kept id held apart between] at found
        cases found
        obtain ⟨function, member, own⟩ := one.placed id _ free between
        exact ⟨function, List.mem_append_left _ member, own⟩

theorem mono (grown : GrownFor functions first second) (within : functions ⊆ others) : GrownFor others first second :=
  { grown with
    placed := fun id resource free found => by
      obtain ⟨function, member, own⟩ := grown.placed id resource free found
      exact ⟨function, within member, own⟩ }

theorem again (one : GrownFor functions first second) (two : GrownFor functions second third) :
    GrownFor functions first third :=
  (one.trans two).mono (List.append_subset.mpr ⟨List.Subset.refl _, List.Subset.refl _⟩)

end GrownFor

theorem add_grownFor (graph after : Graph) (function id : String) (resource : Resource) (own : resource.source = some function)
    (apart : id ≠ defaultExecutionRole) (added : graph.add id resource = .ok after) : GrownFor [function] graph after where
  ids := (add_grows graph after id resource added).ids.elim fun more grown => ⟨more, grown.symm⟩
  kept := fun other held _ found => add_find? graph after id other resource held added found
  role := Or.inl (add_elsewhere graph after id defaultExecutionRole resource added apart)
  placed := by
    intro other held free found
    rw [add_lookup graph after id resource added, Table.find?_append, show graph.resources.find? other = none from free,
      Option.none_or, Table.find?_cons] at found
    split at found
    · cases found
      exact ⟨function, List.mem_singleton.mpr rfl, own⟩
    · cases found

theorem grownFor_of_resources (functions : List String) (graph after : Graph) (same : after.resources = graph.resources) :
    GrownFor functions graph after := by
  have lookup (id : String) : after.find? id = graph.find? id := by rw [find?, find?, same]
  refine ⟨?_, fun id resource _ found => (lookup id).trans found, Or.inl (lookup _), fun id resource free found => ?_⟩
  · rw [Graph.ids, Graph.ids, same]
  · cases free.symm.trans ((lookup id).symm.trans found)

/-- Statements change the default role only. -/
theorem setProperties_grownFor (functions : List String) (graph : Graph) (role : Resource) (statements more : List Value)
    (found : graph.find? defaultExecutionRole = some role)
    (held : ExecutionPolicy.statementOf role.properties = .arr statements) :
    GrownFor functions graph (ExecutionPolicy.setProperties graph defaultExecutionRole
      (ExecutionPolicy.withStatement (.arr (statements ++ more)) role.properties)) := by
  have lookup := ExecutionPolicy.setProperties_find? graph defaultExecutionRole
  refine ⟨?_, fun id resource apart present => ?_, Or.inr ⟨role, statements, more, found, held, ?_⟩,
    fun id resource free later => ?_⟩
  · rw [ExecutionPolicy.setProperties_ids]
  · rw [lookup, present, Option.map_some, if_neg apart]
  · rw [lookup, found, Option.map_some, if_pos rfl]
  · rw [lookup, free] at later
    cases later

end Graph

namespace Build

variable {α β : Type} {function : String}

/-- How a step may end that only adds for a function. -/
structure Served (function : String) (w : Workspace) (ended : Result α × Workspace) : Prop where
  grows : w.graph.GrownFor [function] ended.2.graph
  records : ended.2.compiled = w.compiled
  blames : Blames function ended.1

def Serves (function : String) (step : Build α) : Prop := ∀ w, Served function w (step.outcome w)

/-- An ending that has left the graph and the records alone. -/
theorem Served.still {w left : Workspace} {result : Result α} (graph : left.graph = w.graph)
    (compiled : left.compiled = w.compiled) (blames : Blames function result) : Served function w (result, left) where
  grows := by
    rw [graph]
    exact .refl _ _
  records := compiled
  blames := blames

/-- What cannot be had leaves everything as it is. -/
theorem Served.attempt {γ : Type} {result : Result γ} {next : γ → Build β} {w : Workspace} (fails : Blames function result)
    (succeeds : ∀ c, result = .ok c → Served function w ((next c).outcome w)) :
    Served function w ((ofResult result >>= next).outcome w) := by
  cases result with
  | error failure => exact .still rfl rfl fails
  | ok c => exact succeeds c rfl

namespace Serves

theorem pure (a : α) : Serves function (Pure.pure a : Build α) := fun _ => .still rfl rfl trivial

theorem ofResult {result : Result α} (blames : Blames function result) : Serves function (Build.ofResult result) :=
  fun _ => .still rfl rfl blames

theorem bind {step : Build α} {next : α → Build β} (start : Serves function step) (rest : ∀ a, Serves function (next a)) :
    Serves function (step >>= next) := by
  intro w
  have served := start w
  rw [outcome_bind]
  generalize step.outcome w = ended at served ⊢
  rcases ended with ⟨failure | a, between⟩
  · exact ⟨served.grows, served.records, served.blames⟩
  · have later := rest a between
    exact ⟨served.grows.again later.grows, later.records.trans served.records, later.blames⟩

theorem get_bind {next : Workspace → Build β} (each : ∀ w, Serves function (next w)) : Serves function (get >>= next) :=
  fun w => each w w

/-- A change of what is neither graph nor records. -/
theorem modify {change : Workspace → Workspace} (graph : ∀ w, (change w).graph = w.graph)
    (compiled : ∀ w, (change w).compiled = w.compiled) : Serves function (modify change : Build Unit) :=
  fun w => .still (graph w) (compiled w) trivial

theorem attempt {γ : Type} {result : Workspace → Result γ} {next : γ → Build β} (fails : ∀ w, Blames function (result w))
    (succeeds : ∀ w c, result w = .ok c → Served function w ((next c).outcome w)) :
    Serves function (get >>= fun w => Build.ofResult (result w) >>= next) := by
  intro w
  rw [outcome_get_bind]
  exact .attempt (fails w) (succeeds w)

theorem addResource {id : String} {resource : Resource} (own : resource.source = some function)
    (apart : id ≠ defaultExecutionRole) : Serves function (Build.addResource id resource) :=
  attempt (fun w => Graph.add_blames function w.graph id resource own) fun w graph added =>
    ⟨Graph.add_grownFor w.graph graph function id resource own apart added, rfl, trivial⟩

theorem addOutput (id : String) (value : Value) (description : String) :
    Serves function (Build.addOutput id value description) :=
  attempt (fun w => Graph.addOutput_blames function w.graph id description value) fun w graph added =>
    ⟨Graph.grownFor_of_resources _ w.graph graph (Graph.addOutput_ok w.graph graph id description value added), rfl, trivial⟩

theorem grant (fields : Fields) : Serves function (Build.grant (.obj fields)) := by
  intro w
  unfold Build.grant
  rw [outcome_get_bind]
  split
  · exact .still rfl rfl trivial
  case h_2 policy _ =>
    refine .attempt (ExecutionPolicy.add_blames function policy w.graph _) fun ⟨graph, kept, added⟩ made => ?_
    refine ⟨?_, rfl, trivial⟩
    obtain ⟨statements, listed, ⟨_, _, rfl⟩ | ⟨rfl, _, role, found, rfl⟩⟩ :=
      ExecutionPolicy.add_ok w.graph graph policy kept fields added made
    · exact .refl _ _
    · rw [ExecutionPolicy.statements, found, Option.elim_some] at listed
      change Graph.GrownFor _ _ (ExecutionPolicy.setProperties _ _
        (ExecutionPolicy.withStatement (.arr (List.foldl Statements.add statements [.obj fields])) _))
      rw [Statements.foldl_add]
      exact Graph.setProperties_grownFor _ w.graph role statements _ found listed

theorem grantAll {statements : List Value} (tables : ∀ statement ∈ statements, ∃ fields, statement = .obj fields) :
    Serves function (Build.grantAll statements) := by
  induction statements with
  | nil => exact pure ()
  | cons statement rest ih =>
      obtain ⟨⟨fields, rfl⟩, others⟩ := List.forall_mem_cons.mp tables
      exact bind (grant fields) fun _ => ih others

theorem grantDestination (owner : String) (destination : Destination) :
    Serves function (Build.grantDestination owner destination) := by
  refine get_bind fun w => ?_
  split
  · exact pure false
  · split
    · exact pure false
    · rw [Blueprint.allow_sendPermission]
      exact bind (modify (fun _ => rfl) fun _ => rfl) fun _ => grant _

theorem resolveImage (registry : Registry) (provider : ProviderConfig) (image : ImageConfig) :
    Serves function (Build.resolveImage registry provider function image) :=
  get_bind fun w => bind (modify (fun _ => rfl) fun _ => rfl) fun _ =>
    ofResult (Image.resolve_blames registry provider function image w.registry)

end Serves

end Build

theorem TargetAlias.attach_source (resource : Resource) (via : Option TargetAlias) :
    (attach resource via).source = resource.source := by
  cases via <;> rfl

namespace Blueprint

open Build (Serves)

variable (blueprint : Blueprint) (name : String) (function : FunctionConfig)

theorem code_serves : Serves name (blueprint.code name function) := by
  have archive := Serves.ofResult (Compute.archiveCode_blames blueprint.service blueprint.provider name function)
  unfold Blueprint.code
  split
  · split
    · exact .bind (.resolveImage blueprint.registry blueprint.provider _) fun _ => .pure _
    · exact archive
  · exact archive

theorem grantSettings_serves (role : Role) {statements : List Value}
    (tables : ∀ statement ∈ statements, ∃ fields, statement = .obj fields) :
    Serves name (grantSettings role statements) := by
  unfold grantSettings
  split
  · exact .grantAll tables
  · exact .pure ()

theorem addCompute_serves (code : Code) (role : Role) : Serves name (blueprint.addCompute name function code role) := by
  have tables := Plan.statements_tables function blueprint.provider
  have placed : Serves name (Build.addResource (Naming.function name)
      (Compute.resource blueprint.service blueprint.provider blueprint.enforce name function code role)) := by
    refine .addResource ?_ (Naming.function_ne_role name)
    unfold Compute.resource Compute.withDependencies
    split <;> rfl
  unfold addCompute
  refine .bind (grantSettings_serves name role fun _ member => tables _ (List.mem_append_left _ member)) fun _ => ?_
  refine .bind (.ofResult (Compute.checkFileSystem_blames name function _)) fun _ => ?_
  refine .bind (grantSettings_serves name role fun _ member => tables _ (List.mem_append_right _ member)) fun _ => ?_
  split
  · exact .bind (.ofResult (Compute.checkVersioning_blames name function)) fun _ => placed
  · exact placed

theorem addVersion_serves (code : Code) : Serves name (blueprint.addVersion name function code) := by
  refine .get_bind fun w => .bind (.ofResult (blueprint.versionDigest_blames name code w.graph)) fun digest => ?_
  refine .bind (.addResource rfl ?_) fun _ => .bind (.addOutput _ _ _) fun _ => ?_
  · rw [Version.id, Naming.version, Naming.function, String.append_assoc]
    exact Naming.role_apart _ _ _ (by decide)
  · split
    · exact .pure _
    case h_2 via extra found =>
      refine .bind (.addResource rfl ?_) fun _ => .pure _
      rcases Plan.versionAlias_id name function via extra found with same | same <;> rw [same]
      · exact Naming.suffix_ne_role _ _ (by decide)
      · exact Naming.suffix_ne_role _ _ (by decide)

theorem publish_serves (code : Code) : Serves name (blueprint.publish name function code) := by
  unfold publish
  split
  · exact .bind (blueprint.addVersion_serves name function code) fun _ => .pure _
  · exact .pure _

theorem addUrl_serves (via : Option TargetAlias) : Serves name (addUrl name function via) := by
  unfold addUrl
  split
  · exact .pure _
  · refine .bind (.addResource (TargetAlias.attach_source _ _) ?_) fun _ => .bind (.addOutput _ _ _) fun _ => ?_
    · exact Naming.role_apart _ _ _ (by decide)
    · split
      · refine .bind (.addResource (TargetAlias.attach_source _ _) ?_) fun _ => .pure _
        exact Naming.suffix_ne_role _ _ (by decide)
      · exact .pure _

theorem addDestinations_serves (role : Role) (targets : List (String × Value)) :
    Serves name (blueprint.addDestinations name role targets) := by
  induction targets with
  | nil => exact .pure _
  | cons target rest ih =>
      refine .bind (.ofResult (blueprint.destination_blames name target.2)) fun destination => ?_
      split
      · exact .bind (.grantDestination name destination) fun _ => .bind ih fun _ => .pure _
      · exact .bind ih fun _ => .pure _

theorem addEventConfig_serves (role : Role) (via : Option TargetAlias) :
    Serves name (blueprint.addEventConfig name function role via) := by
  unfold addEventConfig
  split
  · refine .bind (blueprint.addDestinations_serves name role _) fun _ => ?_
    refine .bind (.addResource (TargetAlias.attach_source _ _) ?_) fun _ => .pure _
    exact Naming.suffix_ne_role _ _ (by decide)
  · exact .pure _

theorem compileFunction_serves : Serves name (blueprint.compileFunction name function) := by
  unfold compileFunction
  refine .bind (.ofResult (Compute.checkCode_blames name function)) fun _ => ?_
  refine .bind (.ofResult (Role.ofFunction_blames name function _)) fun role => ?_
  refine .bind (blueprint.code_serves name function) fun code => ?_
  refine .bind (blueprint.addCompute_serves name function code role) fun _ => ?_
  refine .bind (blueprint.publish_serves name function code) fun ⟨_, via⟩ => ?_
  refine .bind (addUrl_serves name function via) fun _ => ?_
  exact .bind (blueprint.addEventConfig_serves name function role via) fun _ => .pure _

end Blueprint

end FunctionStack
