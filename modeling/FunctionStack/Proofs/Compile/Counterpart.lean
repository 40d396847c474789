import FunctionStack.Proofs.Compile.Invocation
import FunctionStack.Proofs.Compile.Siblings

/-!
One service compiled with and without the order to hash anew. Both compilations make the same plans but for the digests of
versions, so they ask the policy for the same, and what they place and expose differs only where a version is involved.
-/

namespace FunctionStack

namespace Version

theorem codePart_hash (files : Files) (generation other : Generation) (artifact imageDigest : Option String)
    (own theirs : String × Bytes) (read : codePart files generation artifact imageDigest = .ok own)
    (again : codePart files other artifact imageDigest = .ok theirs) : theirs.1 = own.1 := by
  cases known : Text.given imageDigest with
  | some digest =>
      simp only [codePart, known, Except.ok.injEq] at read again
      rw [← read, ← again]
  | none =>
      cases artifact with
      | none =>
          simp only [codePart, known] at read
          cases read
      | some path =>
          simp only [codePart, known, Result.bind_ok, Result.pure_ok] at read again
          obtain ⟨blob, found, rfl⟩ := read
          obtain ⟨_, present, rfl⟩ := again
          cases found.symm.trans present
          rfl

theorem digest_codePart (files : Files) (generation : Generation) (layerArtifact : String → Result String)
    (properties : Fields) (graph : Graph) (artifact imageDigest : Option String) (digest : VersionDigest)
    (made : Version.digest files generation layerArtifact properties graph artifact imageDigest = .ok digest) :
    ∃ code, codePart files generation artifact imageDigest = .ok (digest.codeHash, code) := by
  simp only [Version.digest, Result.bind_ok, Result.pure_ok] at made
  obtain ⟨_, _, ⟨codeHash, code⟩, coded, _, _, rfl⟩ := made
  exact ⟨code, coded⟩

end Version

/-- A version is of the same code in both generations, whatever else there is to it. -/
theorem Blueprint.versionDigest_codeHash (service : ServiceConfig) (files : Files) (registry : Registry)
    (enforce other : Bool) (name : String) (code : Code) (graph after : Graph) (own theirs : VersionDigest)
    (made : (ofService service files registry enforce).versionDigest name code graph = .ok own)
    (again : (ofService service files registry other).versionDigest name code after = .ok theirs) :
    theirs.codeHash = own.codeHash := by
  unfold versionDigest at made again
  split at made
  · cases made
  · split at again
    · cases again
    · obtain ⟨_, first⟩ := Version.digest_codePart _ _ _ _ _ _ _ _ made
      obtain ⟨_, second⟩ := Version.digest_codePart _ _ _ _ _ _ _ _ again
      exact Version.codePart_hash _ _ _ _ _ _ _ first second

/-- Plans that differ at most in the value of their digests. -/
structure Plan.Matches (plan twin : Plan) : Prop where
  whole : twin = { plan with digest := twin.digest }
  digests : Option.Rel (fun own theirs => theirs.codeHash = own.codeHash) plan.digest twin.digest

/-- The kinds of resources that only functions with a version have, or in which they differ from other functions. -/
def Plan.Kind.isVersioned : Plan.Kind → Bool
  | compute => true
  | version => true
  | targetAlias => true
  | _ => false

/-- The ids of a function with a version that stand for something of these kinds. -/
def CompiledFunction.published (record : CompiledFunction) : List String :=
  record.version.elim [] fun version => [record.id, version] ++ record.targetAlias.toList

/-- Without a version a function is the same, whether it is to be hashed anew or not. -/
theorem Compute.resource_unversioned (service : ServiceConfig) (provider : ProviderConfig) (enforce other : Bool)
    (name : String) (function : FunctionConfig) (code : Code) (role : Role)
    (plain : Compute.isVersioned function provider = false) :
    Compute.resource service provider enforce name function code role =
      Compute.resource service provider other name function code role := by
  have settings (enforce : Bool) (properties : Fields) :
      Compute.versionSettings enforce function provider properties = properties := if_neg (by simp [plain])
  rw [Compute.resource, Compute.resource, Compute.properties, Compute.properties, settings, settings]

namespace Plan

variable {plan twin : Plan}

namespace Matches

theorem isSome (matching : plan.Matches twin) : twin.digest.isSome = plan.digest.isSome := by
  have digests := matching.digests
  generalize plan.digest = own at digests
  generalize twin.digest = theirs at digests
  cases digests <;> rfl

theorem name (matching : plan.Matches twin) : twin.name = plan.name := by rw [matching.whole]

theorem function (matching : plan.Matches twin) : twin.function = plan.function := by rw [matching.whole]

theorem codeHash (matching : plan.Matches twin) (own theirs : VersionDigest) (first : plan.digest = some own)
    (second : twin.digest = some theirs) : theirs.codeHash = own.codeHash := by
  have digests := matching.digests
  rw [first, second] at digests
  cases digests with
  | some same => exact same

theorem symm (matching : plan.Matches twin) : twin.Matches plan where
  whole := by rw [matching.whole]
  digests := by
    have digests := matching.digests
    generalize plan.digest = own at digests
    generalize twin.digest = theirs at digests
    cases digests with
    | none => exact .none
    | some code => exact .some code.symm

theorem via (matching : plan.Matches twin) : twin.via = plan.via := by
  have same := matching.isSome
  rw [Plan.via, Plan.via, matching.whole]
  revert same
  cases plan.digest <;> cases twin.digest <;> intro same
  case none.none => rfl
  case some.some => rfl
  all_goals cases same

theorem record (matching : plan.Matches twin) :
    twin.record = { plan.record with version := twin.record.version } := by
  rw [Plan.record, Plan.record, matching.via, matching.whole]

theorem recorded (matching : plan.Matches twin) : twin.record.version.isSome = plan.record.version.isSome := by
  rw [Plan.record, Plan.record, Option.isSome_map, Option.isSome_map, matching.isSome]

theorem turned {plans twins : List Plan} (matching : List.Forall₂ Plan.Matches plans twins) :
    List.Forall₂ Plan.Matches twins plans := matching.flip.imp fun _ _ alike => alike.symm

end Matches

/-- Matching plans expose the same but for their versions. -/
theorem Matches.exposes (matching : plan.Matches twin) {key description : String} {value : Value}
    (exposes : plan.Exposes key value description)
    (untouched : plan.digest.isSome = true → key ≠ Naming.versionOutput plan.name) : twin.Exposes key value description := by
  rw [matching.whole]
  cases exposes with
  | version digest published => exact absurd rfl (untouched (by rw [published, Option.isSome_some]))
  | url config found => exact .url config found

theorem Places.published {blueprint : Blueprint} {kind : Kind} {id : String} {resource : Resource}
    (places : plan.Places blueprint kind id resource) (touched : kind.isVersioned = true)
    (versioned : plan.digest.isSome = true) : id ∈ plan.record.published := by
  obtain ⟨digest, known⟩ := Option.isSome_iff_exists.mp versioned
  have record : plan.record.version = some (Version.id plan.name digest) := congrArg (Option.map _) known
  rw [CompiledFunction.published, record, Option.elim_some]
  cases places with
  | compute => exact List.mem_cons_self ..
  | version own published =>
      cases known.symm.trans published
      exact List.mem_cons_of_mem _ (List.mem_cons_self ..)
  | targetAlias own via extra published found =>
      refine List.mem_append_right _ (Option.mem_toList.mpr ?_)
      simp [Plan.record, Plan.via, published, found]
  | _ => cases touched

end Plan

/-- A policy that is asked for the same twice comes to the same. -/
theorem Answered.determined {w left next last : Workspace} {asked : List Value} (one : Answered w left asked)
    (two : Answered next last asked) (policy : next.policy = w.policy)
    (role : next.graph.find? defaultExecutionRole = w.graph.find? defaultExecutionRole) :
    last.graph.find? defaultExecutionRole = left.graph.find? defaultExecutionRole := by
  cases one.both two policy Iff.rfl with
  | kept _ _ kept still => exact still.trans (role.trans kept.symm)
  | apart _ _ _ kept still => exact still.trans (role.trans kept.symm)
  | inRole statements known own other _ found present held list _ _ changed grown =>
      cases found.symm.trans (role.symm.trans present)
      cases held.symm.trans list
      exact grown.trans changed.symm

namespace Move

/-- Whether a move has to do with the policy. -/
def isAsking : Move → Bool
  | allow _ => true
  | send _ _ => true
  | _ => false

/-- Moves that have nothing to do with the policy can be left out of what it is asked for. -/
theorem asked_filter (granted : List (String × String)) (moves : List Move) :
    asked granted (moves.filter isAsking) = asked granted moves := by
  induction moves generalizing granted with
  | nil => rfl
  | cons move rest ih =>
      cases move with
      | allow => exact congrArg (List.cons _) (ih granted)
      | send => exact congrArg (List.append _) (ih _)
      | place => exact ih granted
      | expose => exact ih granted

theorem asking_version (name : String) (function : FunctionConfig) (digest : Option VersionDigest) :
    (digest.elim [] (version name function)).filter isAsking = [] := by
  cases digest with
  | none => rfl
  | some digest =>
      rw [Option.elim_some, version]
      cases Blueprint.versionAlias? name function <;> rfl

end Move

namespace Blueprint

section Plans

variable {service : ServiceConfig} {files : Files} {registry : Registry} {enforce other : Bool} {plan twin : Plan}

theorem IsProper.either (proper : (ofService service files registry enforce).IsProper) :
    (ofService service files registry other).IsProper := ⟨proper.provider, proper.functions⟩

/-- Plans for one function match, whether it is to be hashed anew or not. -/
theorem Makes.counterpart {session : RegistrySession} {graph after : Graph}
    (one : (ofService service files registry enforce).Makes session graph plan)
    (two : (ofService service files registry other).Makes session after twin) (same : twin.entry = plan.entry) :
    plan.Matches twin := by
  obtain ⟨role, code⟩ := one.settings two rfl rfl same
  obtain ⟨name, function, _, _, digest, own⟩ := plan
  obtain ⟨_, _, _, _, version, theirs⟩ := twin
  cases same
  cases role
  cases code
  have destinations : theirs = own := by
    refine List.right_unique_forall₂' (fun target first second here there => ?_) two.targets one.targets
    exact Prod.ext (here.1.symm.trans there.1) (Except.ok.inj (here.2.symm.trans there.2))
  subst destinations
  refine ⟨rfl, ?_⟩
  cases versioned : Compute.isVersioned function service.provider with
  | false =>
      rw [show digest = none from one.plain versioned, show version = none from two.plain versioned]
      exact .none
  | true =>
      obtain ⟨-, made, published, first⟩ := one.published versioned
      obtain ⟨-, again, publishedToo, second⟩ := two.published versioned
      rw [show digest = some made from published, show version = some again from publishedToo]
      exact .some (versionDigest_codeHash service files registry enforce other _ _ _ _ _ _ first second)

/-- Matching plans place the same wherever no version is involved. -/
theorem Makes.places {session : RegistrySession} {graph : Graph}
    (makes : (ofService service files registry enforce).Makes session graph plan) (matching : plan.Matches twin)
    {kind : Plan.Kind} {id : String} {resource : Resource}
    (places : plan.Places (ofService service files registry enforce) kind id resource)
    (untouched : id ∉ plan.record.published) : twin.Places (ofService service files registry other) kind id resource := by
  have plain (touched : kind.isVersioned = true) : plan.digest = none := by
    rw [← Option.not_isSome_iff_eq_none]
    exact fun versioned => untouched (places.published touched versioned)
  have via := matching.via
  rw [matching.whole] at via ⊢
  -- Of the kinds that a version touches only the function itself is placed without one.
  cases places with
  | compute =>
      have unversioned : Compute.isVersioned plan.function (ofService service files registry enforce).provider = false := by
        have published := Plan.digest_isSome makes
        rw [plain rfl] at published
        simpa using published
      rw [Plan.compute]
      exact Compute.resource_unversioned service service.provider enforce other _ _ _ _ unversioned ▸ .compute
  | version digest published => cases (plain rfl).symm.trans published
  | targetAlias digest own extra published => cases (plain rfl).symm.trans published
  | url config found => exact via ▸ .url config found
  | permission config found free => exact via ▸ .permission config found free
  | eventConfig needed => exact via ▸ .eventConfig needed

/-- Matching plans ask the policy for the same. -/
theorem moves_asking (matching : plan.Matches twin) :
    (twin.moves (ofService service files registry other)).filter Move.isAsking =
      (plan.moves (ofService service files registry enforce)).filter Move.isAsking := by
  have via := matching.via
  have event : twin.eventConfig = plan.eventConfig := by
    rw [Plan.eventConfig, Plan.eventConfig, via, matching.whole]
  rw [Plan.moves, Plan.moves, Plan.opening, Plan.opening, Plan.finishing, Plan.finishing, event, via, matching.whole]
  simp only [List.filter_append, Move.asking_version]
  rfl

theorem course_asking {plans twins : List Plan} (matching : List.Forall₂ Plan.Matches plans twins) :
    Move.asked [] ((ofService service files registry other).course twins) =
      Move.asked [] ((ofService service files registry enforce).course plans) := by
  have same : ((ofService service files registry other).course twins).filter Move.isAsking =
      ((ofService service files registry enforce).course plans).filter Move.isAsking := by
    induction matching with
    | nil => rfl
    | cons head _ ih =>
        rw [course, course] at ih ⊢
        rw [List.flatMap_cons, List.flatMap_cons, List.filter_append, List.filter_append, moves_asking head, ih]
  rw [← Move.asked_filter, same, Move.asked_filter]

end Plans

section Runs

variable {service : ServiceConfig} {files : Files} {registry : Registry} {enforce other : Bool} {core start : Graph}
  {session : RegistrySession} {w left : Workspace} {policy : Option ExecutionPolicy} {plans twins : List Plan}
  (one : (ofService service files registry enforce).Took core session w start policy plans)
  (two : (ofService service files registry other).Took core session left start policy twins)
  (matching : List.Forall₂ Plan.Matches plans twins)

include one two matching

theorem Took.role_agrees : left.graph.find? defaultExecutionRole = w.graph.find? defaultExecutionRole := by
  have first : Answered (.fresh start policy session) (w.aside session []) (Move.asked [] _) := one.performed.answered
  have second : Answered (.fresh start policy session) (left.aside session []) (Move.asked [] _) := two.performed.answered
  have asked : Move.asked [] ((ofService service files registry other).course twins) =
      Move.asked [] ((ofService service files registry enforce).course plans) := course_asking matching
  rw [asked] at second
  exact (first.determined second rfl rfl :)

/-- What stands in one compiled graph stands in the other one, unless a version is involved. -/
theorem Took.kept (names : Plan.Apart twins) (id : String) (held : Resource) (found : w.graph.find? id = some held)
    (untouched : ∀ plan ∈ plans, id ∉ plan.record.published) : left.graph.find? id = some held := by
  by_cases apart : id = defaultExecutionRole
  · subst apart
    exact (one.role_agrees two matching).trans found
  · rw [one.elsewhere id apart] at found
    -- The core graph comes first in both; only where it is free does the course count.
    rcases Option.or_eq_some_iff.mp found with seed | ⟨free, placed⟩
    · rw [two.elsewhere id apart, seed, Option.some_or]
    · obtain ⟨plan, planned, kind, places⟩ := (course_placed _ plans id held).mp (Table.find?_some_mem _ _ _ placed)
      obtain ⟨twin, twinned, alike⟩ := forall₂_mem_left matching plan planned
      obtain ⟨_, _, makes⟩ := one.made plan planned
      have again : twin.Places (ofService service files registry other) kind id held :=
        makes.places alike places (untouched plan planned)
      have there := course_held names two.grows twinned again
      rwa [ExecutionPolicy.ofGraph_elsewhere core start policy two.begins id apart, free] at there

/-- Outputs are the same, except those of versions. -/
theorem Took.outputs_kept (seeded : Core.graph service = .ok core) (names : Plan.Apart plans) (key : String)
    (untouched : ∀ plan ∈ plans, plan.digest.isSome = true → key ≠ Naming.versionOutput plan.name) :
    left.graph.outputs.field? key = w.graph.outputs.field? key := by
  obtain ⟨outputs, own⟩ := (Core.graph_distinct service core seeded).2
  have begun : start.outputs = .obj outputs := (ExecutionPolicy.ofGraph_keeps core start policy one.begins).2.trans own
  have merged : w.graph.outputs = start.outputs.merged _ := one.performed.outputs
  have mergedToo : left.graph.outputs = start.outputs.merged _ := two.performed.outputs
  rw [merged, mergedToo, begun]
  change Table.find? (Table.merge _ _) key = Table.find? (Table.merge _ _) key
  rw [Table.find?_merge, Table.find?_merge]
  congr 1
  refine Table.find?_unique _ _ key (fun output => ?_) fun output value first second => ?_
  · rw [List.mem_reverse, List.mem_reverse, course_exposed, course_exposed]
    constructor
    · rintro ⟨twin, twinned, value, description, exposes, same⟩
      obtain ⟨plan, planned, alike⟩ := forall₂_mem_right matching twin twinned
      refine ⟨plan, planned, value, description, alike.symm.exposes exposes fun versioned => ?_, same⟩
      rw [alike.name]
      exact untouched plan planned (alike.isSome ▸ versioned)
    · rintro ⟨plan, planned, value, description, exposes, same⟩
      obtain ⟨twin, twinned, alike⟩ := forall₂_mem_left matching plan planned
      exact ⟨twin, twinned, value, description, alike.exposes exposes (untouched plan planned), same⟩
  · exact exposed_once names key output value (List.mem_reverse.mp first) (List.mem_reverse.mp second)

end Runs

end Blueprint

end FunctionStack
