import FunctionStack.Proofs.Compile.Course
import FunctionStack.Proofs.Compile.Service
import FunctionStack.Proofs.Template.Complete
import FunctionStack.Proofs.Template.Retention
import FunctionStack.Proofs.Template.Seeds

/-!
Services deployed one after another, each over the template of the one before it. What is retained stays for as long as
no service puts something else in its place.
-/

namespace FunctionStack

open Build (Yields performAll performAll_ok yields_performAll_append)

namespace Core

theorem layerSeeds_mem (service : ServiceConfig) (layers : List (String × LayerConfig)) (seeds : Table Resource)
    (packaged : layerSeeds service layers = .ok seeds) (id : String) (resource : Resource)
    (member : (id, resource) ∈ seeds) :
    ∃ name config artifact, id = Naming.layer name ∧ resource = layer service name config artifact := by
  induction layers generalizing seeds with
  | nil =>
      cases packaged
      cases member
  | cons entry rest ih =>
      simp only [layerSeeds, Result.bind_ok, Result.pure_ok] at packaged
      obtain ⟨artifact, _, others, made, rfl⟩ := packaged
      rcases List.mem_cons.mp member with same | later
      · obtain ⟨rfl, rfl⟩ := Prod.mk.inj same
        exact ⟨entry.1, entry.2, artifact, rfl, rfl⟩
      · exact ih others made later

theorem Seeds.all_settled {service : ServiceConfig} (seeds : Seeds service) (id : String) (resource : Resource)
    (member : (id, resource) ∈ seeds.all) : resource.Settled := by
  simp only [Seeds.all, List.mem_append] at member
  rcases member with (((bucket | role) | log) | packaged) | declared
  · unfold bucketSeeds at bucket
    split at bucket
    · cases bucket
    · obtain ⟨_, rfl⟩ := Prod.mk.inj (List.mem_singleton.mp bucket)
      exact Resource.settled_obj _ _ rfl
  · unfold roleSeeds at role
    split at role
    · obtain ⟨_, rfl⟩ := Prod.mk.inj (List.mem_singleton.mp role)
      exact Resource.settled_obj _ _ rfl
    · cases role
  · obtain ⟨entry, _, same⟩ := List.mem_map.mp log
    obtain ⟨_, rfl⟩ := Prod.mk.inj same
    exact Resource.settled_obj _ _ rfl
  · obtain ⟨name, config, artifact, _, rfl⟩ := layerSeeds_mem service service.layers _ seeds.packaged id resource packaged
    exact Resource.settled_obj _ _ rfl
  · obtain ⟨block, _, read⟩ := seeds.read
    exact Graph.readResources_settled block _ read id resource declared

theorem graph_settled (service : ServiceConfig) (graph : Graph) (made : Core.graph service = .ok graph) :
    graph.Settled := by
  obtain ⟨seeds, lookup⟩ := graph_lookup service graph made
  intro id resource found
  exact seeds.all_settled id resource (Table.find?_some_mem _ _ _ ((lookup id).symm.trans found))

end Core

theorem Resource.Settled.withStatement {role : Resource} (settled : role.Settled) (statement : Value) :
    Resource.Settled { role with properties := ExecutionPolicy.withStatement statement role.properties } := by
  cases table : role.properties with
  | obj fields => exact Resource.settled_obj _ _ rfl
  | _ =>
      rw [Resource.Settled, table] at settled
      exact settled

theorem Answered.settled {w left : Workspace} {asked : List Value} (answered : Answered w left asked)
    (settled : w.graph.Settled) (role : Resource) (found : left.graph.find? defaultExecutionRole = some role) :
    role.Settled := by
  cases answered with
  | idle _ _ same => exact settled _ _ (same.symm.trans found)
  | apart _ _ _ same => exact settled _ _ (same.symm.trans found)
  | inRole _ own _ _ present _ _ changed =>
      rw [changed] at found
      cases found
      exact (settled _ own present).withStatement _

theorem Performed.settled {w left : Workspace} {moves : List Move} (performed : Performed w left moves)
    (settled : w.graph.Settled)
    (placed : ∀ id resource, (id, resource) ∈ moves.flatMap Move.placed → resource.Settled) : left.graph.Settled := by
  intro id resource found
  by_cases role : id = defaultExecutionRole
  · exact performed.answered.settled settled resource (role ▸ found)
  · rw [performed.grows.lookup id role, Table.find?_append] at found
    rcases Option.or_eq_some_iff.mp found with before | ⟨_, new⟩
    · exact settled id resource before
    · exact placed id resource (Table.find?_some_mem _ _ _ new)

namespace Blueprint

theorem compileFunction_settled (blueprint : Blueprint) (name : String) (function : FunctionConfig) (w left : Workspace)
    (compiled : CompiledFunction) (compiles : Yields (blueprint.compileFunction name function) w compiled left)
    (settled : w.graph.Settled) : left.graph.Settled := by
  obtain ⟨plan, middle, _, _, _, opened, finished, _⟩ := (compileFunction_iff _ _ _ _ _ _).mp compiles
  have whole := (yields_performAll_append _ _ _ _).mpr ⟨middle, opened, finished⟩
  refine (performAll_ok _ (plan.moves_regular blueprint) _ _ whole).settled settled fun id resource member => ?_
  obtain ⟨_, places⟩ := (plan.places_iff blueprint id resource).mp member
  obtain ⟨fields, table⟩ := places.table
  exact Resource.settled_obj resource fields table

theorem compileEach_settled (blueprint : Blueprint) (functions : List (String × FunctionConfig)) (w left : Workspace)
    (compiles : Yields (blueprint.compileEach functions) w () left) (settled : w.graph.Settled) : left.graph.Settled := by
  induction functions generalizing w with
  | nil =>
      obtain ⟨_, rfl⟩ := (Build.yields_pure _ _ _ _).mp compiles
      exact settled
  | cons entry rest ih =>
      obtain ⟨compiled, between, first, others⟩ := (compileEach_cons blueprint entry.1 entry.2 rest w left).mp compiles
      exact ih _ others (compileFunction_settled blueprint entry.1 entry.2 w between compiled first settled)

theorem completed_settled (graph after : Graph) (policy : Option ExecutionPolicy)
    (found : ExecutionPolicy.ofGraph graph = .ok (after, policy)) (settled : graph.Settled) : after.Settled := by
  rcases ExecutionPolicy.ofGraph_ok graph after policy found with ⟨_, rfl, _⟩ | ⟨role, properties, _, completed, rfl, _⟩
  · exact settled
  · intro id resource present
    rw [ExecutionPolicy.setProperties_find?] at present
    obtain ⟨origin, before, rfl⟩ := Option.map_eq_some_iff.mp present
    split
    · simp only [ExecutionPolicy.completeRole, Result.bind_ok, Result.pure_ok] at completed
      obtain ⟨_, _, _, _, rfl⟩ := completed
      exact Resource.settled_obj _ _ rfl
    · exact settled id origin before

/-- What a service compiles into by itself is settled. -/
theorem compileService_settled (blueprint : Blueprint) (own : Graph) (compiled : List CompiledFunction)
    (compiles : (blueprint.compileService none).1 = .ok (own, compiled)) : own.Settled := by
  obtain ⟨core, w, seeded, built, rfl, _⟩ := (compileService_ok _ _ _ _).mp compiles
  obtain ⟨graph, policy, bound, _, each, _⟩ := (compileAll_ok _ _ w).mp built
  exact compileEach_settled blueprint _ _ w each
    (completed_settled core graph policy bound (Core.graph_settled blueprint.service core seeded))

/-- What a service has of its own under an id, whatever there was before. -/
def Produces (blueprint : Blueprint) (id : String) (resource : Resource) : Prop :=
  ∃ own compiled, (blueprint.compileService none).1 = .ok (own, compiled) ∧ own.find? id = some resource

end Blueprint

/-- Services are deployed one after another, each with what is retained in the template before it. -/
def deliveries (previous : Option Value) : List Blueprint → Result (List Graph)
  | [] => .ok []
  | blueprint :: rest => do
    let earlier ← previous.mapM Graph.ofTemplate
    let (delivered, _) ← (blueprint.compileService earlier).1
    let others ← deliveries (some delivered.toTemplate) rest
    return delivered :: others

theorem deliveries_cons (previous : Option Value) (blueprint : Blueprint) (rest : List Blueprint) (graphs : List Graph) :
    deliveries previous (blueprint :: rest) = .ok graphs ↔ ∃ earlier delivered compiled others,
      previous.mapM Graph.ofTemplate = .ok earlier ∧ (blueprint.compileService earlier).1 = .ok (delivered, compiled) ∧
        deliveries (some delivered.toTemplate) rest = .ok others ∧ graphs = delivered :: others := by
  simp only [deliveries, Result.bind_ok, Prod.exists, Result.pure_ok]
  constructor
  · rintro ⟨earlier, read, delivered, compiled, compiles, others, delivers, rfl⟩
    exact ⟨earlier, delivered, compiled, others, read, compiles, delivers, rfl⟩
  · rintro ⟨earlier, delivered, compiled, others, read, compiles, delivers, rfl⟩
    exact ⟨earlier, read, delivered, compiled, compiles, others, delivers, rfl⟩

/-- What is delivered is settled, whether or not there was a template before. -/
theorem Blueprint.delivered_settled (blueprint : Blueprint) (previous : Option Value) (earlier : Option Graph)
    (delivered : Graph) (compiled : List CompiledFunction) (read : previous.mapM Graph.ofTemplate = .ok earlier)
    (compiles : (blueprint.compileService earlier).1 = .ok (delivered, compiled)) : delivered.Settled := by
  obtain ⟨own, alone, _, rfl⟩ := compileService_own blueprint earlier delivered compiled compiles
  have settled := compileService_settled blueprint own compiled alone
  cases earlier with
  | none => exact settled
  | some graph =>
      cases previous with
      | none => cases read
      | some template =>
          obtain ⟨known, made, same⟩ := (Result.bind_ok _ _ _).mp read
          cases same
          exact Graph.carryRetained_settled own graph settled (Graph.ofTemplate_settled template graph made)

/-- A delivery over a retained resource holds what the service produces in its place, or that resource. -/
theorem Blueprint.delivered_over (blueprint : Blueprint) (before delivered : Graph) (compiled : List CompiledFunction)
    (compiles : (blueprint.compileService (some before.readBack)).1 = .ok (delivered, compiled)) (id : String)
    (resource : Resource) (found : before.find? id = some resource) (retained : resource.retained = true) :
    (∃ produced, blueprint.Produces id produced ∧ delivered.find? id = some produced) ∨
      delivered.find? id = some resource.readBack := by
  obtain ⟨own, alone, _, rfl⟩ := compileService_own blueprint _ delivered compiled compiles
  cases present : own.find? id with
  | some produced =>
      refine Or.inl ⟨produced, ⟨own, compiled, alone, present⟩, ?_⟩
      rw [Option.elim_some, Graph.carryRetained_find?, present, Option.some_or]
  | none =>
      refine Or.inr (Graph.carryRetained_free own before.readBack id resource.readBack ?_ ?_ present)
      · rw [Graph.readBack_find?, found, Option.map_some]
      · rw [Resource.readBack_retained, retained]

/-- A retained resource through all deliveries that come after it. -/
theorem deliveries_over (before : Graph) (blueprints : List Blueprint) (graphs : List Graph)
    (delivers : deliveries (some before.toTemplate) blueprints = .ok graphs) (last : Nat) (later : Graph)
    (listed : graphs[last]? = some later) (id : String) (resource : Resource) (found : before.find? id = some resource)
    (retained : resource.retained = true) :
    ((∀ (step : Nat) blueprint produced, step ≤ last → blueprints[step]? = some blueprint →
        blueprint.Produces id produced → produced.retained = true) →
      ∃ kept, later.find? id = some kept ∧ kept.retained = true) ∧
    (resource.Settled → (∀ (step : Nat) blueprint produced, step ≤ last → blueprints[step]? = some blueprint →
        ¬ blueprint.Produces id produced) →
      ∃ kept, later.find? id = some kept ∧ kept.toValue = resource.toValue) := by
  induction blueprints generalizing before graphs last resource with
  | nil =>
      cases delivers
      cases listed
  | cons blueprint rest ih =>
      obtain ⟨earlier, delivered, compiled, others, read, compiles, continues, rfl⟩ :=
        (deliveries_cons _ blueprint rest graphs).mp delivers
      have same : earlier = some before.readBack := by
        obtain ⟨known, made, same⟩ := (Result.bind_ok _ _ _).mp read
        rw [Graph.ofTemplate_toTemplate] at made
        cases made
        exact ((Result.pure_ok _ _).mp same).symm
      subst same
      have next := blueprint.delivered_over before delivered compiled compiles id resource found retained
      constructor
      · intro keeps
        have here : ∃ held, delivered.find? id = some held ∧ held.retained = true := by
          rcases next with ⟨produced, own, present⟩ | present
          · exact ⟨produced, present, keeps 0 blueprint produced (Nat.zero_le _) rfl own⟩
          · exact ⟨_, present, by rw [Resource.readBack_retained, retained]⟩
        obtain ⟨held, present, kept⟩ := here
        cases last with
        | zero =>
            cases listed
            exact ⟨held, present, kept⟩
        | succ last =>
            refine (ih delivered others continues last listed held present kept).1 fun step other produced bound at_ own => ?_
            exact keeps (step + 1) other produced (Nat.succ_le_succ bound) at_ own
      · intro settled free
        have present := next.resolve_left fun ⟨produced, own, _⟩ => free 0 blueprint produced (Nat.zero_le _) rfl own
        have text := resource.readBack_toValue settled
        cases last with
        | zero =>
            cases listed
            exact ⟨_, present, text⟩
        | succ last =>
            have kept : resource.readBack.retained = true := by rw [Resource.readBack_retained, retained]
            obtain ⟨held, there, equal⟩ := (ih delivered others continues last listed _ present kept).2
              resource.readBack_settled fun step other produced bound at_ =>
                free (step + 1) other produced (Nat.succ_le_succ bound) at_
            exact ⟨held, there, equal.trans text⟩

/-- Deliveries go on from each of their graphs. -/
theorem deliveries_from (previous : Option Value) (blueprints : List Blueprint) (graphs : List Graph)
    (delivers : deliveries previous blueprints = .ok graphs) (first : Nat) (earlier : Graph)
    (listed : graphs[first]? = some earlier) :
    earlier.Settled ∧
      deliveries (some earlier.toTemplate) (blueprints.drop (first + 1)) = .ok (graphs.drop (first + 1)) := by
  induction blueprints generalizing previous graphs first with
  | nil =>
      cases delivers
      cases listed
  | cons blueprint rest ih =>
      obtain ⟨before, delivered, compiled, others, read, compiles, continues, rfl⟩ :=
        (deliveries_cons _ blueprint rest graphs).mp delivers
      cases first with
      | zero =>
          cases listed
          exact ⟨blueprint.delivered_settled previous before _ compiled read compiles, continues⟩
      | succ first => exact ih _ others continues first listed

/-- A resource that is retained in one delivery is in every later one. It stays retained if whatever the services in
between produce in its place is retained, and its template stays as it is if they produce nothing there. -/
theorem deliveries_retain (previous : Option Value) (blueprints : List Blueprint) (graphs : List Graph)
    (delivers : deliveries previous blueprints = .ok graphs) (first last : Nat) (ordered : first ≤ last)
    (earlier later : Graph) (start : graphs[first]? = some earlier) (finish : graphs[last]? = some later) (id : String)
    (resource : Resource) (found : earlier.find? id = some resource) (retained : resource.retained = true) :
    ((∀ (step : Nat) blueprint produced, first < step → step ≤ last → blueprints[step]? = some blueprint →
        blueprint.Produces id produced → produced.retained = true) →
      ∃ kept, later.find? id = some kept ∧ kept.retained = true) ∧
    ((∀ (step : Nat) blueprint produced, first < step → step ≤ last → blueprints[step]? = some blueprint →
        ¬ blueprint.Produces id produced) →
      ∃ kept, later.find? id = some kept ∧ kept.toValue = resource.toValue) := by
  rcases Nat.eq_or_lt_of_le ordered with rfl | after
  · rw [start] at finish
    cases finish
    exact ⟨fun _ => ⟨resource, found, retained⟩, fun _ => ⟨resource, found, rfl⟩⟩
  · obtain ⟨settled, goes⟩ := deliveries_from previous blueprints graphs delivers first earlier start
    obtain ⟨count, rfl⟩ := Nat.exists_eq_add_of_lt after
    have listed : (graphs.drop (first + 1))[count]? = some later := by
      rw [List.getElem?_drop, ← finish]
      congr 1
      omega
    have step_ (step : Nat) (blueprint : Blueprint) (within : step ≤ count)
        (at_ : (blueprints.drop (first + 1))[step]? = some blueprint) :
        first < first + 1 + step ∧ first + 1 + step ≤ first + count + 1 ∧ blueprints[first + 1 + step]? = some blueprint := by
      rw [List.getElem?_drop] at at_
      exact ⟨by omega, by omega, at_⟩
    obtain ⟨stays, same⟩ := deliveries_over earlier _ _ goes count later listed id resource found retained
    refine ⟨fun keeps => stays fun step blueprint produced within at_ own => ?_,
      fun free => same (settled id resource found) fun step blueprint produced within at_ => ?_⟩
    · obtain ⟨above, below, listed⟩ := step_ step blueprint within at_
      exact keeps _ blueprint produced above below listed own
    · obtain ⟨above, below, listed⟩ := step_ step blueprint within at_
      exact free _ blueprint produced above below listed

/-- A retained layer outlives its service: two deployments of nothing later it is as it was. -/
theorem gate_layer_retained : ∃ graphs earlier later resource kept,
    deliveries none [.packaged Blueprint.gate, .bare "s", .bare "s"] = .ok graphs ∧ graphs[0]? = some earlier ∧
      graphs[2]? = some later ∧ earlier.find? "BaseLambdaLayer" = some resource ∧ resource.retained = true ∧
      later.find? "BaseLambdaLayer" = some kept ∧ kept.toValue = resource.toValue := by
  have ended (result : Result (List Graph)) (succeeds : result.toBool = true) : result = .ok (result.toOption.getD []) := by
    cases result with
    | error _ => cases succeeds
    | ok _ => rfl
  let graphs := (deliveries none [.packaged Blueprint.gate, .bare "s", .bare "s"]).toOption.getD []
  let earlier := graphs[0]?.getD .empty
  let resource := (earlier.find? "BaseLambdaLayer").getD (.make "" [] none)
  have delivers : deliveries none [.packaged Blueprint.gate, .bare "s", .bare "s"] = .ok graphs :=
    ended _ (by decide +kernel)
  have start : graphs[0]? = some earlier := (Option.getD_of_ne_none (by decide +kernel) _).symm
  have finish : graphs[2]? = some (graphs[2]?.getD .empty) := (Option.getD_of_ne_none (by decide +kernel) _).symm
  have found : earlier.find? "BaseLambdaLayer" = some resource := (Option.getD_of_ne_none (by decide +kernel) _).symm
  have retained : resource.retained = true := by decide +kernel
  have nothing (produced : Resource) : ¬ (Blueprint.bare "s").Produces "BaseLambdaLayer" produced := by
    rintro ⟨own, compiled, compiles, holds⟩
    have without : ((Blueprint.bare "s").compileService none).1.toOption.all
        (fun result => !result.1.has "BaseLambdaLayer") = true := by decide +kernel
    have held : own.has "BaseLambdaLayer" = true := Option.isSome_iff_exists.mpr ⟨produced, holds⟩
    rw [compiles, Except.toOption, Option.all_some, held] at without
    cases without
  have later (step : Nat) (blueprint : Blueprint) (after : 0 < step) (before : step ≤ 2)
      (listed : [.packaged Blueprint.gate, .bare "s", .bare "s"][step]? = some blueprint) : blueprint = .bare "s" := by
    match step, after, before, listed with
    | 1, _, _, listed => exact (Option.some.inj listed).symm
    | 2, _, _, listed => exact (Option.some.inj listed).symm
  clear_value graphs earlier resource
  obtain ⟨kept, there, same⟩ := (deliveries_retain none _ graphs delivers 0 2 (by decide) earlier _ start finish _ resource
    found retained).2 fun step blueprint produced after before listed =>
      later step blueprint after before listed ▸ nothing produced
  exact ⟨graphs, earlier, _, resource, kept, delivers, start, finish, found, retained, there, same⟩

end FunctionStack
