import FunctionStack.Proofs.Compile.Proper
import FunctionStack.Proofs.Compile.Seed

/-!
The resources that a plan places, by their kinds. A plan places at most one of each kind, under ids that begin with the
normalized name of its function, and a resource that equals one of another function shows that both have that name.
-/

namespace FunctionStack

open Value

theorem Url.resource_type (function : String) (url : UrlConfig) (via : Option TargetAlias) :
    (Url.resource function url via).type = .str "AWS::Lambda::Url" := TargetAlias.attach_type _ via

theorem Url.permission_type (function : String) (via : Option TargetAlias) :
    (Url.permission function via).type = .str "AWS::Lambda::Permission" := TargetAlias.attach_type _ via

theorem EventConfig.resource_type (name : String) (function : FunctionConfig) (entries : Fields)
    (via : Option TargetAlias) :
    (EventConfig.resource name function entries via).type = .str "AWS::Lambda::EventInvokeConfig" :=
  TargetAlias.attach_type _ via

namespace Plan

theorem compute_type (plan : Plan) (blueprint : Blueprint) :
    (plan.compute blueprint).type = .str "AWS::Lambda::Function" := Compute.resource_type _ _ _ _ _ _ _

/-- The kinds of resources that functions are compiled into. -/
inductive Kind where
  | compute
  | version
  | targetAlias
  | url
  | permission
  | eventConfig

def Kind.type : Kind → String
  | compute => "AWS::Lambda::Function"
  | version => "AWS::Lambda::Version"
  | targetAlias => "AWS::Lambda::Alias"
  | url => "AWS::Lambda::Url"
  | permission => "AWS::Lambda::Permission"
  | eventConfig => "AWS::Lambda::EventInvokeConfig"

theorem Kind.type_injective (a b : Kind) (same : a.type = b.type) : a = b := by
  cases a <;> cases b <;> first | rfl | exact absurd same (by decide)

/-- What a plan places of each kind, and where. -/
inductive Places (plan : Plan) (blueprint : Blueprint) : Kind → String → Resource → Prop
  | compute : Places plan blueprint .compute (Naming.function plan.name) (plan.compute blueprint)
  | version (digest : VersionDigest) (published : plan.digest = some digest) :
      Places plan blueprint .version (Version.id plan.name digest)
        (Version.resource plan.name digest plan.function.description)
  | targetAlias (digest : VersionDigest) (via : TargetAlias) (extra : Fields) (published : plan.digest = some digest)
      (found : Blueprint.versionAlias? plan.name plan.function = some (via, extra)) :
      Places plan blueprint .targetAlias via.id (via.resource plan.name (Version.id plan.name digest) extra)
  | url (url : UrlConfig) (found : plan.function.url >>= Url.ofSetting? = some url) :
      Places plan blueprint .url (Naming.url plan.name) (Url.resource plan.name url plan.via)
  | permission (url : UrlConfig) (found : plan.function.url >>= Url.ofSetting? = some url)
      (free : Url.isPublic url = true) :
      Places plan blueprint .permission (Naming.urlPermission plan.name) (Url.permission plan.name plan.via)
  | eventConfig (needed : EventConfig.isNeeded plan.function = true) :
      Places plan blueprint .eventConfig (Naming.eventConfig plan.name)
        (EventConfig.resource plan.name plan.function (entries plan.destinations) plan.via)

/-- What a plan exposes, and under which key. -/
inductive Exposes (plan : Plan) : String → Value → String → Prop
  | version (digest : VersionDigest) (published : plan.digest = some digest) :
      Exposes plan (Naming.versionOutput plan.name) (Intrinsic.ref (Version.id plan.name digest))
        "Current Lambda function version"
  | url (url : UrlConfig) (found : plan.function.url >>= Url.ofSetting? = some url) :
      Exposes plan (Naming.urlOutput plan.name) (Intrinsic.getAtt (Naming.url plan.name) "FunctionUrl") "Lambda Function URL"

/-- The moves of a plan. It asks for what its settings and its destinations need if it is under the default role. -/
inductive Takes (plan : Plan) (blueprint : Blueprint) : Move → Prop
  | allow (default : plan.role.isDefault = true) (statement : Value)
      (needed : statement ∈ Compute.settingStatements plan.function blueprint.provider ++
        Compute.fileSystemStatements plan.function) : Takes plan blueprint (.allow statement)
  | send (default : plan.role.isDefault = true) (outcome : String) (destination : Destination)
      (listed : (outcome, destination) ∈ plan.destinations) : Takes plan blueprint (.send plan.name destination)
  | place (kind : Kind) (id : String) (resource : Resource) (places : plan.Places blueprint kind id resource) :
      Takes plan blueprint (.place id resource)
  | expose (id : String) (value : Value) (description : String) (exposes : plan.Exposes id value description) :
      Takes plan blueprint (.expose id value description)

theorem version_takes (plan : Plan) (blueprint : Blueprint) (digest : VersionDigest) (published : plan.digest = some digest)
    (move : Move) (member : move ∈ Move.version plan.name plan.function digest) : plan.Takes blueprint move := by
  rcases List.mem_append.mp member with own | aliased
  · simp only [List.mem_cons, List.not_mem_nil, or_false] at own
    rcases own with rfl | rfl
    · exact .place _ _ _ (.version digest published)
    · exact .expose _ _ _ (.version digest published)
  · split at aliased
    · cases aliased
    case h_2 via extra found =>
      rw [List.mem_singleton.mp aliased]
      exact .place _ _ _ (.targetAlias digest via extra published found)

theorem url_takes (plan : Plan) (blueprint : Blueprint) (move : Move)
    (member : move ∈ Move.url plan.name plan.function plan.via) : plan.Takes blueprint move := by
  unfold Move.url at member
  split at member
  · cases member
  case h_2 config found =>
    rcases List.mem_append.mp member with own | permission
    · simp only [List.mem_cons, List.not_mem_nil, or_false] at own
      rcases own with rfl | rfl
      · exact .place _ _ _ (.url config found)
      · exact .expose _ _ _ (.url config found)
    · split at permission
      case isTrue free =>
        rw [List.mem_singleton.mp permission]
        exact .place _ _ _ (.permission config found free)
      case isFalse => cases permission

theorem eventConfig_takes (plan : Plan) (blueprint : Blueprint) (move : Move) (member : move ∈ plan.eventConfig) :
    plan.Takes blueprint move := by
  unfold eventConfig at member
  split at member
  case isTrue needed =>
    rcases List.mem_append.mp member with sent | placed
    · unfold Move.sends at sent
      split at sent
      case isTrue default =>
        obtain ⟨⟨outcome, destination⟩, listed, rfl⟩ := List.mem_map.mp sent
        exact .send default outcome destination listed
      case isFalse => cases sent
    · rw [List.mem_singleton.mp placed]
      exact .place _ _ _ (.eventConfig needed)
  case isFalse => cases member

/-- A plan takes no moves but these. -/
theorem moves_take (plan : Plan) (blueprint : Blueprint) (move : Move) (member : move ∈ plan.moves blueprint) :
    plan.Takes blueprint move := by
  have settings (statements : List Value) (asked : move ∈ Move.settings plan.role statements)
      (within : statements ⊆ Compute.settingStatements plan.function blueprint.provider ++
        Compute.fileSystemStatements plan.function) : plan.Takes blueprint move := by
    unfold Move.settings at asked
    split at asked
    case isTrue default =>
      obtain ⟨statement, listed, rfl⟩ := List.mem_map.mp asked
      exact .allow default statement (within listed)
    case isFalse => cases asked
  simp only [moves, opening, finishing, List.mem_append, List.mem_singleton] at member
  rcases member with ((first | second) | rfl) | ((version | url) | event)
  · exact settings _ first (List.subset_append_left _ _)
  · exact settings _ second (List.subset_append_right _ _)
  · exact .place _ _ _ .compute
  · cases published : plan.digest with
    | none => simp [published] at version
    | some digest =>
        rw [published] at version
        exact plan.version_takes blueprint digest published move version
  · exact plan.url_takes blueprint move url
  · exact plan.eventConfig_takes blueprint move event

/-- The moves of a plan place these resources and no others. -/
theorem places_iff (plan : Plan) (blueprint : Blueprint) (id : String) (resource : Resource) :
    (id, resource) ∈ (plan.moves blueprint).flatMap Move.placed ↔
      ∃ kind, plan.Places blueprint kind id resource := by
  constructor
  · intro member
    obtain ⟨move, listed, placed⟩ := List.mem_flatMap.mp member
    cases plan.moves_take blueprint move listed with
    | place kind other part places =>
        obtain ⟨rfl, rfl⟩ := Prod.mk.inj (List.mem_singleton.mp placed)
        exact ⟨kind, places⟩
    | _ => cases placed
  · rintro ⟨kind, places⟩
    refine List.mem_flatMap.mpr ⟨.place id resource, ?_, List.mem_singleton.mpr rfl⟩
    simp only [moves, opening, finishing, List.mem_append]
    cases places with
    | compute => exact Or.inl (Or.inr (List.mem_singleton.mpr rfl))
    | version digest published => exact Or.inr (Or.inl (Or.inl (by simp [published, Move.version])))
    | targetAlias digest via extra published found =>
        exact Or.inr (Or.inl (Or.inl (by simp [published, found, Move.version])))
    | url config found => exact Or.inr (Or.inl (Or.inr (by simp [found, Move.url])))
    | permission config found free => exact Or.inr (Or.inl (Or.inr (by simp [found, free, Move.url])))
    | eventConfig needed => exact Or.inr (Or.inr (by simp [needed, eventConfig]))

/-- The moves of a plan expose these outputs and no others. -/
theorem exposes_ok (plan : Plan) (blueprint : Blueprint) (key : String) (output : Value)
    (member : (key, output) ∈ (plan.moves blueprint).flatMap Move.exposed) :
    ∃ value description, plan.Exposes key value description ∧
      output = .obj [("Description", .str description), ("Value", value)] := by
  obtain ⟨move, listed, exposed⟩ := List.mem_flatMap.mp member
  cases plan.moves_take blueprint move listed with
  | expose id value description exposes =>
      obtain ⟨rfl, rfl⟩ := Prod.mk.inj (List.mem_singleton.mp exposed)
      exact ⟨value, description, exposes, rfl⟩
  | _ => cases exposed

/-- Only plans for the default role ask for anything. -/
theorem asks_default (plan : Plan) (blueprint : Blueprint) (move : Move) (member : move ∈ plan.moves blueprint)
    (statement : Value) (asks : move.Asks statement) : plan.role.isDefault = true := by
  cases plan.moves_take blueprint move member with
  | allow default => exact default
  | send default => exact default
  | _ => cases asks

variable {plan other : Plan} {blueprint : Blueprint} {kind : Kind} {id own : String} {resource part : Resource}

theorem Places.type (places : plan.Places blueprint kind id resource) : resource.type = .str kind.type := by
  cases places with
  | compute => exact plan.compute_type blueprint
  | url => exact Url.resource_type _ _ _
  | permission => exact Url.permission_type _ _
  | eventConfig => exact EventConfig.resource_type _ _ _ _
  | _ => rfl

theorem Places.kind_eq {first second : Kind} (one : plan.Places blueprint first id resource)
    (two : other.Places blueprint second own part) (equal : resource.same part = true) : first = second := by
  simp only [Resource.same, Bool.and_eq_true] at equal
  have type := equal.1.1.1.1
  rw [one.type, two.type] at type
  exact Kind.type_injective first second (Value.str.inj (same_str type)).symm

/-- A plan places one resource of each kind. -/
theorem Places.unique (one : plan.Places blueprint kind id resource) (two : plan.Places blueprint kind own part) :
    id = own ∧ resource = part := by
  cases one <;> cases two <;> simp_all

theorem versionAlias_id (name : String) (function : FunctionConfig) (via : TargetAlias) (extra : Fields)
    (found : Blueprint.versionAlias? name function = some (via, extra)) :
    via.id = Naming.provisionedAlias name ∨ via.id = Naming.snapStartAlias name := by
  unfold Blueprint.versionAlias? at found
  split at found
  · obtain ⟨rfl, _⟩ := Prod.mk.inj (Option.some.inj found)
    exact Or.inl rfl
  · split at found
    · obtain ⟨rfl, _⟩ := Prod.mk.inj (Option.some.inj found)
      exact Or.inr rfl
    · cases found

theorem alias_cancel (a b id : String) (first : id = Naming.provisionedAlias a ∨ id = Naming.snapStartAlias a)
    (second : id = Naming.provisionedAlias b ∨ id = Naming.snapStartAlias b) :
    Naming.normalized a = Naming.normalized b := by
  rcases first with rfl | rfl <;> rcases second with same | same
  · exact Naming.suffix_cancel _ _ _ same
  · exact absurd same (Naming.endings_apart _ _ _ _ 12 (by decide) (by decide))
  · exact absurd same (Naming.endings_apart _ _ _ _ 12 (by decide) (by decide))
  · exact Naming.suffix_cancel _ _ _ same

/-- Equal resources in one place belong to functions of one name. A version names its function; anything else has an
id that tells. -/
theorem Places.normalized {first second : Kind} (one : plan.Places blueprint first id resource)
    (two : other.Places blueprint second id part) (equal : resource.same part = true) :
    Naming.normalized plan.name = Naming.normalized other.name := by
  have kind := one.kind_eq two equal
  subst kind
  cases first with
  | compute =>
      cases one
      generalize same : Naming.function plan.name = taken at two
      cases two
      exact Naming.suffix_cancel _ _ _ same
  | version =>
      cases one with
      | version digest _ =>
          generalize Version.id plan.name digest = taken at two
          cases two with
          | version own _ =>
              simp only [Resource.same, Bool.and_eq_true] at equal
              have named : (Version.resource plan.name digest plan.function.description).properties.field? "FunctionName" =
                  some (Intrinsic.ref (Naming.function plan.name)) := rfl
              obtain ⟨name, found, called⟩ := same_field? equal.1.1.1.2 "FunctionName" named
              cases found
              obtain ⟨id, found, named⟩ := same_field? called "Ref" rfl
              cases found
              exact (Naming.suffix_cancel _ _ _ (Value.str.inj (same_str named))).symm
  | targetAlias =>
      cases one with
      | targetAlias digest via extra _ found =>
          generalize same : via.id = taken at two
          cases two with
          | targetAlias own goal settings _ known =>
              have first := versionAlias_id _ _ via extra found
              rw [same] at first
              exact alias_cancel _ _ goal.id first (versionAlias_id _ _ goal settings known)
  | url =>
      cases one
      generalize same : Naming.url plan.name = taken at two
      cases two
      exact Naming.suffix_cancel _ _ _ (Naming.suffix_cancel _ _ _ same)
  | permission =>
      cases one
      generalize same : Naming.urlPermission plan.name = taken at two
      cases two
      exact Naming.suffix_cancel _ _ _ same
  | eventConfig =>
      cases one
      generalize same : Naming.eventConfig plan.name = taken at two
      cases two
      exact Naming.suffix_cancel _ _ _ same

/-- Nothing takes the place of the default role. -/
theorem Places.ne_role (places : plan.Places blueprint kind id resource) : id ≠ defaultExecutionRole := by
  cases places with
  | compute => exact Naming.function_ne_role plan.name
  | version digest _ =>
      rw [Version.id, Naming.version, Naming.function, String.append_assoc]
      exact Naming.role_apart _ _ _ (by decide)
  | targetAlias digest via extra _ found =>
      rcases versionAlias_id _ _ via extra found with same | same <;> rw [same]
      · exact Naming.suffix_ne_role _ _ (by decide)
      · exact Naming.suffix_ne_role _ _ (by decide)
  | url => exact Naming.role_apart _ _ _ (by decide)
  | permission => exact Naming.suffix_ne_role _ _ (by decide)
  | eventConfig => exact Naming.suffix_ne_role _ _ (by decide)

theorem attach_properties (resource : Resource) (via : Option TargetAlias) :
    (TargetAlias.attach resource via).properties = resource.properties := by
  cases via <;> rfl

theorem Places.table (places : plan.Places blueprint kind id resource) : ∃ fields, resource.properties = .obj fields := by
  cases places with
  | compute => exact ⟨_, Compute.resource_properties _ _ _ _ _ _ _⟩
  | version => exact ⟨_, rfl⟩
  | targetAlias => exact ⟨_, rfl⟩
  | url => exact ⟨_, attach_properties _ _⟩
  | permission => exact ⟨_, attach_properties _ _⟩
  | eventConfig => exact ⟨_, attach_properties _ _⟩

theorem statements_tables (function : FunctionConfig) (provider : ProviderConfig) :
    ∀ statement ∈ Compute.settingStatements function provider ++ Compute.fileSystemStatements function,
      ∃ fields, statement = .obj fields := by
  intro statement member
  cases Compute.statements_asked function provider statement member with
  | literal => exact ⟨_, rfl⟩
  | mount => exact ⟨_, rfl⟩

/-- The moves of a plan leave the place of the default role alone and ask for tables. -/
theorem moves_regular (plan : Plan) (blueprint : Blueprint) : ∀ move ∈ plan.moves blueprint, move.Regular := by
  intro move member
  refine ⟨fun id resource placed => ?_, fun statement same => ?_⟩
  · obtain ⟨kind, places⟩ := (plan.places_iff blueprint id resource).mp (List.mem_flatMap.mpr ⟨move, member, placed⟩)
    exact places.ne_role
  · subst same
    cases plan.moves_take blueprint _ member with
    | allow _ _ needed => exact statements_tables plan.function blueprint.provider statement needed

end Plan

theorem forall₂_mem_left {α β : Type} {related : α → β → Prop} {first : List α} {second : List β}
    (all : List.Forall₂ related first second) (a : α) (member : a ∈ first) : ∃ b ∈ second, related a b := by
  induction all with
  | nil => cases member
  | cons head _ ih =>
      rcases List.mem_cons.mp member with rfl | member
      · exact ⟨_, List.mem_cons_self .., head⟩
      · obtain ⟨b, listed, other⟩ := ih member
        exact ⟨b, List.mem_cons_of_mem _ listed, other⟩

theorem forall₂_mem_right {α β : Type} {related : α → β → Prop} {first : List α} {second : List β}
    (all : List.Forall₂ related first second) (b : β) (member : b ∈ second) : ∃ a ∈ first, related a b := by
  induction all with
  | nil => cases member
  | cons head _ ih =>
      rcases List.mem_cons.mp member with rfl | member
      · exact ⟨_, List.mem_cons_self .., head⟩
      · obtain ⟨a, listed, other⟩ := ih member
        exact ⟨a, List.mem_cons_of_mem _ listed, other⟩

/-- What users write is proper. -/
structure Blueprint.IsProper (blueprint : Blueprint) : Prop where
  provider : ∀ value ∈ blueprint.provider.written, value.isProper = true
  functions : ∀ name function, (name, function) ∈ blueprint.functions → ∀ value ∈ function.written, value.isProper = true

instance (blueprint : Blueprint) : Decidable blueprint.IsProper :=
  decidable_of_iff ((∀ value ∈ blueprint.provider.written, value.isProper = true) ∧
      ∀ entry ∈ blueprint.functions, ∀ value ∈ entry.2.written, value.isProper = true)
    ⟨fun ⟨provider, functions⟩ => ⟨provider, fun _ _ member => functions _ member⟩,
      fun proper => ⟨proper.provider, fun _ member => proper.functions _ _ member⟩⟩

namespace Plan

theorem ref_isProper (id : String) : (Intrinsic.ref id).isProper = true := rfl

theorem target_isProper (function : String) (via : Option TargetAlias) :
    (TargetAlias.target function via).isProper = true := by
  cases via <;> rfl

theorem versionAlias_tidy (name : String) (function : FunctionConfig) (via : TargetAlias) (extra : Fields)
    (found : Blueprint.versionAlias? name function = some (via, extra)) :
    Tidy ["ProvisionedConcurrencyConfig"] extra := by
  unfold Blueprint.versionAlias? at found
  split at found
  · obtain ⟨_, rfl⟩ := Prod.mk.inj (Option.some.inj found)
    exact tidy_single _ ((tidy_single "ProvisionedConcurrentExecutions" rfl).isProper (by decide))
  · split at found
    · obtain ⟨_, rfl⟩ := Prod.mk.inj (Option.some.inj found)
      exact tidy_nil
    · cases found

theorem cors_isProper (cors : CorsPolicy) : (Value.obj cors.properties).isProper = true := by
  have list (key : String) (items : Option (List String)) : Tidy [key] (CorsPolicy.listField key items) :=
    tidy_elim _ _ _ fun texts _ => texts_isProper texts
  have credentials : Tidy ["AllowCredentials"] (if cors.credentials then [("AllowCredentials", .bool true)] else []) := by
    split
    · exact tidy_single _ rfl
    · exact tidy_nil
  exact (((((credentials.append (list _ _)).append (list _ _)).append (list _ _)).append (list _ _)).append
    (tidy_elim cors.maxAge "MaxAge" .int fun _ _ => rfl)).isProper (by decide)

theorem url_isProper (function : String) (url : UrlConfig) (via : Option TargetAlias) :
    (Value.obj (Url.properties function url via)).isProper = true := by
  have own : Tidy ["AuthType", "TargetFunctionArn"] [("AuthType", .str (Url.authorization url)),
      ("TargetFunctionArn", TargetAlias.target function via)] :=
    (tidy_single _ (target_isProper function via)).cons _ rfl
  have mode : Tidy ["InvokeMode"] (if url.invokeMode = some "RESPONSE_STREAM" then
      [("InvokeMode", .str "RESPONSE_STREAM")] else []) := by
    split
    · exact tidy_single _ rfl
    · exact tidy_nil
  exact ((own.append (tidy_elim _ "Cors" _ fun cors _ => cors_isProper cors)).append mode).isProper (by decide)

theorem entries_isProper (targets : List (String × Value)) (destinations : List (String × Destination))
    (proper : ∀ entry ∈ destinations, entry.2.reference.isProper = true)
    (same : targets.map Prod.fst = destinations.map Prod.fst) (distinct : (targets.map Prod.fst).Nodup) :
    (Value.obj (entries destinations)).isProper = true := by
  rw [obj_isProper, entries, List.map_map]
  refine ⟨by simpa [Function.comp_def, ← same] using distinct, fun key value member => ?_⟩
  obtain ⟨⟨outcome, destination⟩, listed, same⟩ := List.mem_map.mp member
  obtain ⟨_, rfl⟩ := Prod.mk.inj same
  exact (tidy_single "Destination" (proper _ listed)).isProper (by decide)

theorem reference_isProper (destination : Destination) (proper : destination.pointer.isProper = true) :
    destination.reference.isProper = true := by
  unfold Destination.reference
  split
  · rfl
  · exact proper

section

variable {plan : Plan} {blueprint : Blueprint} {session : RegistrySession} {graph : Graph}
  (makes : blueprint.Makes session graph plan) (own : ∀ value ∈ plan.function.written, value.isProper = true)
  (shared : ∀ value ∈ blueprint.provider.written, value.isProper = true)

include makes own

/-- Each destination of a plan was read from a target that the function declares. -/
theorem destinations_isProper : ∀ entry ∈ plan.destinations, entry.2.pointer.isProper = true := by
  intro entry member
  obtain ⟨target, listed, _, read⟩ := forall₂_mem_right makes.targets entry member
  apply Blueprint.destination_proper blueprint plan.name target.2 entry.2 _ read
  apply own
  have declared : target.2 ∈ Blueprint.declaredTargets plan.function := by
    rw [← Blueprint.declaredTargets_map]
    exact List.mem_map.mpr ⟨target, listed, rfl⟩
  simp [FunctionConfig.written, declared]

theorem moves_proper (move : Move) (member : move ∈ plan.moves blueprint) : move.Proper := by
  cases plan.moves_take blueprint move member with
  | allow default statement needed =>
      refine ⟨fun other asks => ?_, fun _ _ same => by cases same⟩
      cases asks
      exact Compute.statements_isProper plan.function blueprint.provider own statement needed
  | send default outcome destination listed =>
      have pointer := destinations_isProper makes own _ listed
      refine ⟨fun other asks => ?_, fun function target same => ?_⟩
      · cases asks
        exact Blueprint.sendPermission_proper plan.name destination pointer
      · cases same
        exact pointer
  | _ => exact ⟨fun _ asks => (by cases asks), fun _ _ same => (by cases same)⟩

include shared

theorem compute_isProper : (plan.compute blueprint).IsProper := by
  have runsAs := Role.ofFunction_proper plan.function blueprint.provider plan.role own shared makes.role
  have properties := Compute.properties_proper plan.function blueprint.provider own shared blueprint.service
    blueprint.enforce plan.name plan.code plan.role (Compute.code_tidy _ _ _ _ _ makes.code) runsAs.1
  have base (source : Option String) : Resource.IsProper { Resource.make "AWS::Lambda::Function"
      (Compute.properties blueprint.service blueprint.provider blueprint.enforce plan.name plan.function plan.code
        plan.role) source with condition := Value.ofText? plan.function.condition } :=
    { Resource.make_isProper _ _ source properties with
      condition := by cases plan.function.condition <;> rfl }
  unfold compute Compute.resource Compute.withDependencies
  have declared := ((base (some plan.name)).dependOn (plan.function.dependsOn.map Value.str) fun id member => by
    obtain ⟨text, _, rfl⟩ := List.mem_map.mp member
    rfl).dependOn [plan.role.dependency] fun id member => by
      rw [List.mem_singleton.mp member]
      exact runsAs.2
  dsimp only
  split
  · exact declared
  · refine declared.dependFirstOn _ fun id member => ?_
    rw [List.mem_singleton.mp member]
    rfl

theorem Places.isProper {kind : Kind} {id : String} {resource : Resource}
    (places : plan.Places blueprint kind id resource) : resource.IsProper := by
  cases places with
  | compute => exact compute_isProper makes own shared
  | version digest _ =>
      have base : Tidy ["FunctionName", "CodeSha256"] [
          ("FunctionName", Intrinsic.ref (Naming.function plan.name)), ("CodeSha256", .str digest.codeHash)] :=
        (tidy_single _ rfl).cons _ (ref_isProper _)
      have properties : Value.isProper (Version.resource plan.name digest plan.function.description).properties = true := by
        refine (show Tidy ["FunctionName", "CodeSha256", "Description"] _ from base.append ?_).isProper (by decide)
        split
        · exact tidy_single _ rfl
        · exact tidy_nil
      exact { Resource.make_isProper _ _ (some plan.name) properties with deletionPolicy := rfl }
  | targetAlias digest via extra _ found =>
      have base : Tidy ["FunctionName", "FunctionVersion", "Name"] [
          ("FunctionName", Intrinsic.ref (Naming.function plan.name)),
          ("FunctionVersion", Intrinsic.getAtt (Version.id plan.name digest) "Version"), ("Name", .str via.name)] :=
        ((tidy_single _ rfl).cons _ rfl).cons _ (ref_isProper _)
      refine { Resource.make_isProper _ _ (some plan.name)
        ((base.append (versionAlias_tidy _ _ via extra found)).isProper (by decide)) with dependsOn := fun id member => ?_ }
      rw [List.mem_singleton.mp member]
      rfl
  | url url _ => exact (Resource.make_isProper _ _ (some plan.name) (url_isProper plan.name url plan.via)).attach _
  | permission _ _ _ =>
      have properties : Tidy ["FunctionName", "Action", "Principal", "FunctionUrlAuthType"] [
          ("FunctionName", TargetAlias.target plan.name plan.via), ("Action", .str "lambda:InvokeFunctionUrl"),
          ("Principal", .str "*"), ("FunctionUrlAuthType", .str "NONE")] :=
        (((tidy_single _ rfl).cons _ rfl).cons _ rfl).cons _ (target_isProper _ _)
      exact (Resource.make_isProper _ _ (some plan.name) (properties.isProper (by decide))).attach _
  | eventConfig _ =>
      have outcomes : (EventConfig.targets plan.function).map Prod.fst = plan.destinations.map Prod.fst := by
        have each := makes.targets.imp fun _ _ both => both.1
        have mapped : List.Forall₂ (· = ·) ((EventConfig.targets plan.function).map Prod.fst)
            (plan.destinations.map Prod.fst) := List.forall₂_map_left_iff.mpr (List.forall₂_map_right_iff.mpr each)
        rwa [List.forall₂_eq_eq_eq] at mapped
      have distinct : ((EventConfig.targets plan.function).map Prod.fst).Nodup := by
        unfold EventConfig.targets
        cases plan.function.destinations with
        | none => exact List.nodup_nil
        | some declared =>
            exact (by decide : ["OnSuccess", "OnFailure"].Nodup).sublist (List.filter_sublist.map Prod.fst)
      have listed : (Value.obj (entries plan.destinations)).isProper = true := by
        refine entries_isProper _ _ (fun entry member => ?_) outcomes distinct
        exact reference_isProper entry.2 (destinations_isProper makes own entry member)
      have base : Tidy ["FunctionName", "DestinationConfig", "Qualifier"] [
          ("FunctionName", Intrinsic.ref (Naming.function plan.name)), ("DestinationConfig", .obj (entries plan.destinations)),
          ("Qualifier", .str (TargetAlias.qualifier plan.via))] :=
        ((tidy_single _ rfl).cons _ listed).cons _ (ref_isProper _)
      exact (Resource.make_isProper _ _ (some plan.name) (((base.append
        (tidy_elim _ "MaximumEventAgeInSeconds" .int fun _ _ => rfl)).append
        (tidy_elim _ "MaximumRetryAttempts" .int fun _ _ => rfl)).isProper (by decide))).attach _

end

end Plan

end FunctionStack
