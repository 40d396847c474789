import FunctionStack.Proofs.Compile.Mentions
import FunctionStack.Proofs.Template.Core
import FunctionStack.Proofs.Template.Grants
import FunctionStack.Proofs.Value.Same

/-!
The core graph of a service is in order: the bucket and the log groups mention nothing, the layers the bucket, the
default role pseudo parameters, and the declared resources nothing.
-/

namespace FunctionStack

open Value

/-- The ids of the layers and of the declared resources. -/
def ServiceConfig.ownIds (service : ServiceConfig) (declared : Fields) : List String :=
  service.layers.keys.map Naming.layer ++ declared.keys

def ServiceConfig.functionIds (service : ServiceConfig) : List String := service.functions.keys.map Naming.function

/-- Declared resources refer to nothing and come after nothing. -/
def Independent (declared : Fields) : Prop :=
  ∀ id value, (id, value) ∈ declared → value.references = [] ∧ value.field? "DependsOn" = none

/-- A graph in order, with types that are known of its resources. -/
structure Placed (own functions : List String) (known : List (String × String)) (graph : Graph) : Prop where
  orderly : graph.Orderly own functions
  typed : ∀ id type, (id, type) ∈ known → graph.Typed id type

/-- What the core graph of a service is known to hold. -/
structure Seeded (service : ServiceConfig) (own : List String) (known : List (String × String)) : Prop where
  bucket : service.provider.bucket.Refers fun id => (id, "AWS::S3::Bucket") ∈ known
  logs : ∀ name function, (name, function) ∈ service.functions → function.disableLogs = false →
    (Naming.logGroup name, "AWS::Logs::LogGroup") ∈ known
  role : ∀ name function, (name, function) ∈ service.functions →
    Role.ofFunction function service.provider = .ok Role.theDefault →
      (defaultExecutionRole, "AWS::IAM::Role") ∈ known ∧ defaultExecutionRole ∉ own

section

variable {own functions : List String} {known : List (String × String)} {graph after : Graph}

theorem Placed.add {id type : String} {resource : Resource} (placed : Placed own functions known graph)
    (added : graph.add id resource = .ok after) (named : id ∈ own ∨ Naming.isMinted id = true)
    (low : id ∈ own → graph.find? id = none →
      resource.mentions = [] ∨ resource.type = .str "AWS::Lambda::LayerVersion")
    (sits : graph.Sits own functions resource) (made : resource.type = .str type) :
    Placed own functions ((id, type) :: known) after where
  orderly := placed.orderly.add added named low sits
  typed := by
    intro other kind member
    rcases List.mem_cons.mp member with same | member
    · cases same
      exact Graph.add_typed graph after id type resource made added
    · exact (Graph.add_extends graph after id resource added).typed other kind (placed.typed other kind member)

theorem Placed.resources (placed : Placed own functions known graph) (same : after.resources = graph.resources) :
    Placed own functions known after where
  orderly := placed.orderly.resources same
  typed := by
    intro id type member
    obtain ⟨resource, found, kind⟩ := placed.typed id type member
    exact ⟨resource, by rw [Graph.find?, same]; exact found, kind⟩

theorem Placed.weaken {fewer : List (String × String)} (placed : Placed own functions known graph)
    (subset : fewer ⊆ known) : Placed own functions fewer graph :=
  ⟨placed.orderly, fun id type member => placed.typed id type (subset member)⟩

end

namespace Core

variable {allowed : String → Prop}

/-- Whatever equals the default role refers to the region in its name. -/
theorem executionRole_region (service : ServiceConfig) (resource : Resource)
    (equal : (executionRole service).same resource = true) (refers : resource.properties.Refers allowed) :
    allowed "AWS::Region" := by
  simp only [Resource.same, Bool.and_eq_true] at equal
  have properties := equal.1.1.1.2
  have roleName : (executionRole service).properties.field? "RoleName" =
      some (Intrinsic.join "-" [.str (stackName service), Intrinsic.ref "AWS::Region", .str "lambdaRole"]) := rfl
  obtain ⟨name, found, one⟩ := same_field? properties "RoleName" roleName
  obtain ⟨arguments, joined, two⟩ := same_field? one "Fn::Join" rfl
  obtain ⟨_, rfl, three⟩ := same_arr two
  obtain ⟨_, _, _, second, rfl⟩ := List.forall₂_cons_left_iff.mp three
  obtain ⟨parts, _, four, _, rfl⟩ := List.forall₂_cons_left_iff.mp second
  obtain ⟨_, rfl, five⟩ := same_arr four
  obtain ⟨_, _, _, middle, rfl⟩ := List.forall₂_cons_left_iff.mp five
  obtain ⟨region, _, six, _, rfl⟩ := List.forall₂_cons_left_iff.mp middle
  obtain ⟨text, reference, seven⟩ := same_field? six "Ref" rfl
  rw [same_str seven] at reference
  have inside := (refers_arr _).mp ((refers.field? "RoleName" name found).field? "Fn::Join" _ joined)
  have part := (refers_arr _).mp (inside _ (List.mem_cons_of_mem _ (List.mem_cons_self ..))) region
    (List.mem_cons_of_mem _ (List.mem_cons_self ..))
  cases region with
  | obj fields =>
      have entry := (refers_obj fields).mp part "Ref" _ (Table.find?_some_mem _ _ _ reference)
      exact entry.1 _ (by simp [fieldReferences, text?])
  | _ => cases reference

theorem declared_mentions (value : Value) (resource : Resource) (refers : value.references = [])
    (dependsOn : value.field? "DependsOn" = none) (read : Resource.ofValue value = .ok resource) :
    resource.mentions = [] := by
  apply Resource.mentions_nil
  have whole : value.Refers fun _ => False := by
    intro id member
    rw [refers] at member
    cases member
  cases value with
  | obj data =>
      have absent : Table.find? data "DependsOn" = none := dependsOn
      rw [Resource.ofValue] at read
      split at read
      · cases read
      case h_2 type _ =>
        simp only [absent] at read
        cases read
        rw [Resource.mentions_iff]
        refine ⟨fun id member => (by cases member), ?_⟩
        change (((Table.find? data "Properties").getD .null).orElse (.obj [])).Refers _
        rw [Value.orElse]
        split
        · exact Refers.getD ((refers_obj data).mp whole) "Properties"
        · exact (refers_obj _).mpr fieldsRefer_nil
  | _ => cases read

end Core

section Steps

variable {own functions : List String} {known : List (String × String)} {graph after : Graph}
  (service : ServiceConfig)

theorem Placed.empty : Placed own functions [] Graph.empty :=
  ⟨.empty, fun _ _ member => by cases member⟩

/-- Whatever bucket the code is stored in, it is known or it is not part of the stack. -/
theorem Placed.addBucket (own functions : List String) (added : Core.addBucket service Graph.empty = .ok after) :
    ∃ known, Placed own functions known after ∧
      service.provider.bucket.Refers fun id => (id, "AWS::S3::Bucket") ∈ known := by
  unfold Core.addBucket at added
  unfold ProviderConfig.bucket
  cases chosen : Text.given service.provider.deploymentBucket with
  | some name =>
      rw [chosen] at added
      rw [← (Result.pure_ok _ _).mp added]
      exact ⟨[], .empty, refers_str name⟩
  | none =>
      rw [chosen] at added
      simp only [Option.isSome_none, Bool.false_eq_true, if_false, Result.bind_ok] at added
      obtain ⟨next, first, second⟩ := added
      have mentions := Core.bucketResource_mentions
      have placed := (Placed.empty : Placed own functions [] Graph.empty).add first (Or.inr (by decide))
        (fun _ _ => Or.inl mentions) (Or.inl mentions) rfl
      refine ⟨_, placed.resources (Graph.addOutput_ok _ _ _ _ _ second), ?_⟩
      exact (refers_ref _).mpr (List.mem_cons_self ..)

theorem Placed.addRole (bucket : Graph) (placed : Placed own functions known bucket)
    (name : Text.contains service.service "$\x7b" = false)
    (stage : Text.contains service.provider.stage "$\x7b" = false)
    (seeded : Core.addBucket service Graph.empty = .ok bucket) (added : Core.addRole service bucket = .ok after)
    (apart : after.find? defaultExecutionRole = some (Core.executionRole service) → defaultExecutionRole ∉ own) :
    ∃ more, Placed own functions (more ++ known) after ∧
      ∀ name function, (name, function) ∈ service.functions →
        Role.ofFunction function service.provider = .ok Role.theDefault →
          (defaultExecutionRole, "AWS::IAM::Role") ∈ more ∧ defaultExecutionRole ∉ own := by
  rcases Core.addRole_ok service bucket after seeded added with ⟨unused, rfl⟩ | ⟨_, first, found⟩
  · refine ⟨[], placed, fun name function member resolves => ?_⟩
    have uses := Core.usesDefaultRole_iff _ _ _ unused name function _ member resolves rfl
    cases uses
  · have mentions : (Core.executionRole service).Mentions (Graph.Earlier own functions bucket 2) :=
      Core.executionRole_mentions service (Core.logArns_refer service name stage)
        fun id pseudo => .written (Nat.le_refl 2) (Or.inl (Or.inr pseudo))
    refine ⟨[(defaultExecutionRole, "AWS::IAM::Role")], ?_, fun _ _ _ _ => ⟨List.mem_cons_self .., apart found⟩⟩
    exact placed.add first (Or.inr (by decide)) (fun member => absurd member (apart found))
      (Or.inr ⟨_, rfl, mentions⟩) rfl

theorem Placed.addLogGroups (list : List (String × FunctionConfig)) (placed : Placed own functions known graph)
    (added : Core.addLogGroups service graph list = .ok after) :
    ∃ more, Placed own functions (more ++ known) after ∧
      ∀ name function, (name, function) ∈ list → function.disableLogs = false →
        (Naming.logGroup name, "AWS::Logs::LogGroup") ∈ more := by
  induction list generalizing graph known with
  | nil =>
      cases added
      exact ⟨[], placed, fun _ _ member => by cases member⟩
  | cons entry rest ih =>
      obtain ⟨name, function⟩ := entry
      obtain ⟨next, first, others⟩ := Core.addLogGroups_cons service graph after name function rest added
      rcases first with ⟨disabled, rfl⟩ | first
      · obtain ⟨more, placed, listed⟩ := ih placed others
        refine ⟨more, placed, fun other settings member logs => ?_⟩
        rcases List.mem_cons.mp member with same | member
        · cases same
          rw [disabled] at logs
          cases logs
        · exact listed other settings member logs
      · have mentions := Core.logGroup_mentions service name
        have one := placed.add first (Or.inr (Naming.logGroup_minted name)) (fun _ _ => Or.inl mentions)
          (Or.inl mentions) rfl
        obtain ⟨more, placed, listed⟩ := ih one others
        refine ⟨more ++ [(Naming.logGroup name, "AWS::Logs::LogGroup")], by simpa using placed, ?_⟩
        intro other settings member logs
        rcases List.mem_cons.mp member with same | member
        · cases same
          exact List.mem_append_right _ (List.mem_cons_self ..)
        · exact List.mem_append_left _ (listed other settings member logs)

theorem Placed.addLayers (layers : List (String × LayerConfig)) (placed : Placed own functions known graph)
    (bucket : service.provider.bucket.Refers fun id => (id, "AWS::S3::Bucket") ∈ known)
    (belong : ∀ name config, (name, config) ∈ layers → Naming.layer name ∈ own)
    (added : Core.addLayers service graph layers = .ok after) :
    Placed own functions known after ∧
      ∀ name config, (name, config) ∈ layers → after.has (Naming.layer name) = true := by
  induction layers generalizing graph with
  | nil =>
      cases added
      exact ⟨placed, fun _ _ member => by cases member⟩
  | cons entry rest ih =>
      obtain ⟨name, config⟩ := entry
      obtain ⟨artifact, next, first, others⟩ := Core.addLayers_cons service graph after name config rest added
      have mentions : (Core.layer service name config artifact).Mentions (Graph.Earlier own functions graph 1) := by
        apply Core.layer_mentions
        exact bucket.mono fun id member => .made _ (placed.typed id _ member) (by decide)
      have one := placed.add first (Or.inl (belong name config (List.mem_cons_self ..))) (fun _ _ => Or.inr rfl)
        (Or.inr ⟨_, rfl, mentions⟩) rfl
      obtain ⟨whole, listed⟩ := ih (one.weaken (List.subset_cons_self _ _))
        (fun other settings member => belong other settings (List.mem_cons_of_mem _ member)) others
      refine ⟨whole, fun other settings member => ?_⟩
      rcases List.mem_cons.mp member with same | member
      · cases same
        exact (Core.addLayers_extends service next after rest others).has _ (Graph.add_has graph next _ _ first)
      · exact listed other settings member

theorem Placed.addDeclared (declared : Fields) (placed : Placed own functions known graph)
    (independent : Independent declared) (belong : ∀ id ∈ declared.keys, id ∈ own)
    (added : Core.addDeclared graph declared = .ok after) :
    Placed own functions known after ∧ ∀ id ∈ declared.keys, after.has id = true := by
  induction declared generalizing graph with
  | nil =>
      cases added
      exact ⟨placed, fun _ member => by cases member⟩
  | cons entry rest ih =>
      obtain ⟨id, value⟩ := entry
      obtain ⟨resource, next, read, first, others⟩ := Core.addDeclared_cons graph after id value rest added
      have free := independent id value (List.mem_cons_self ..)
      have mentions := Core.declared_mentions value resource free.1 free.2 read
      have grown := Graph.add_extends graph next id resource first
      have one : Placed own functions known next :=
        ⟨placed.orderly.add first (Or.inl (belong id (List.mem_cons_self ..))) (fun _ _ => Or.inl mentions)
          (Or.inl mentions), fun other type member => grown.typed other type (placed.typed other type member)⟩
      obtain ⟨whole, listed⟩ := ih one (fun other value member => independent other value (List.mem_cons_of_mem _ member))
        (fun other member => belong other (List.mem_cons_of_mem _ member)) others
      refine ⟨whole, fun other member => ?_⟩
      rcases List.mem_cons.mp member with rfl | member
      · exact (Core.addDeclared_extends next after rest others).has _ (Graph.add_has graph next _ _ first)
      · exact listed other member

/-- Completing the policy of the role keeps everything in place. -/
theorem Placed.ofGraph (policy : Option ExecutionPolicy) (placed : Placed own functions known graph)
    (bound : ExecutionPolicy.ofGraph graph = .ok (after, policy)) :
    Placed own functions known after ∧ ∀ id, graph.has id = true → after.has id = true := by
  unfold ExecutionPolicy.ofGraph at bound
  cases found : graph.find? defaultExecutionRole with
  | none =>
      rw [found] at bound
      cases bound
      exact ⟨placed, fun _ present => present⟩
  | some role =>
      rw [found] at bound
      simp only [Result.bind_ok, Result.pure_ok, Prod.mk.injEq] at bound
      obtain ⟨properties, completed, rfl, _⟩ := bound
      have refers {allowed : String → Prop} (before : role.properties.Refers allowed) : properties.Refers allowed :=
        ExecutionPolicy.completeRole_refers role.properties properties before completed
      have mentions {allowed : String → Prop} (before : role.Mentions allowed) :
          Resource.Mentions allowed { role with properties := properties } := by
        rw [Resource.mentions_iff] at before ⊢
        exact ⟨before.1, refers before.2⟩
      have nothing (none : role.mentions = []) : Resource.mentions { role with properties := properties } = [] :=
        Resource.mentions_nil _ (mentions (Resource.nothing_mentioned role none))
      refine ⟨⟨placed.orderly.setProperties _ properties (fun _ resource same none => ?_) fun resource same => ?_,
        fun id type member => Graph.setProperties_typed _ properties id type (placed.typed id type member)⟩,
        fun id present => ?_⟩
      · rw [found] at same
        cases same
        exact (List.append_eq_nil_iff.mp (nothing none)).2
      · rw [found] at same
        cases same
        rcases placed.orderly.sits _ role found with none | ⟨type, kind, before⟩
        · exact Or.inl (nothing none)
        · exact Or.inr ⟨type, kind, mentions before⟩
      · obtain ⟨resource, same⟩ := Option.isSome_iff_exists.mp present
        have kept := ExecutionPolicy.setProperties_find? graph defaultExecutionRole id properties
        rw [show graph.find? id = some resource from same, Option.map_some] at kept
        exact Option.isSome_iff_exists.mpr ⟨_, kept⟩

end Steps

/-- A graph in order that holds all that users may refer to. -/
structure Ready (own functions : List String) (known : List (String × String)) (graph : Graph) : Prop
    extends Placed own functions known graph where
  present : ∀ id ∈ own, graph.has id = true

/-- A declared resource cannot take the place of the default role, because the role refers to the region. -/
theorem role_not_own (service : ServiceConfig) (declared : Fields) (layers full : Graph)
    (independent : Independent declared) (added : Core.addDeclared layers declared = .ok full)
    (found : layers.find? defaultExecutionRole = some (Core.executionRole service)) :
    defaultExecutionRole ∉ service.ownIds declared := by
  intro member
  rcases List.mem_append.mp member with layer | listed
  · obtain ⟨name, _, same⟩ := List.mem_map.mp layer
    exact Naming.layer_ne_role name same
  · obtain ⟨value, resource, entry, read, equal⟩ :=
      Core.addDeclared_same layers full declared added defaultExecutionRole _ found listed
    have free := independent _ value entry
    have none := Core.declared_mentions value resource free.1 free.2 read
    have refers : resource.properties.Refers fun _ => False := by
      intro id member
      rw [(List.append_eq_nil_iff.mp none).2] at member
      cases member
    exact Core.executionRole_region service resource equal refers

/-- The core graph of a service is in order and holds what its functions will refer to. -/
theorem Ready.core (service : ServiceConfig) (declared : Fields) (core start : Graph)
    (policy : Option ExecutionPolicy) (block : Fields.entries service.resources "Resources" = .ok declared)
    (independent : Independent declared) (name : Text.contains service.service "$\x7b" = false)
    (stage : Text.contains service.provider.stage "$\x7b" = false) (made : Core.graph service = .ok core)
    (bound : ExecutionPolicy.ofGraph core = .ok (start, policy)) :
    ∃ known, Seeded service (service.ownIds declared) known ∧
      Ready (service.ownIds declared) service.functionIds known start := by
  obtain ⟨bucket, seeded, logs, layers, read, full, outputs, first, second, third, fourth, same, fifth, rfl⟩ :=
    Core.graph_ok service core made
  rw [block] at same
  cases same
  have apart (found : seeded.find? defaultExecutionRole = some (Core.executionRole service)) :
      defaultExecutionRole ∉ service.ownIds declared := by
    have grown := (Core.addLogGroups_extends service seeded logs _ third).trans
      (Core.addLayers_extends service logs layers _ fourth)
    exact role_not_own service declared layers full independent fifth (grown _ _ found)
  obtain ⟨ofBucket, one, bucketKnown⟩ :=
    Placed.addBucket service (service.ownIds declared) service.functionIds first
  obtain ⟨ofRole, two, roleKnown⟩ := Placed.addRole service bucket one name stage first second apart
  obtain ⟨ofLogs, three, logsKnown⟩ := Placed.addLogGroups service _ two third
  have stored : service.provider.bucket.Refers fun id =>
      (id, "AWS::S3::Bucket") ∈ ofLogs ++ (ofRole ++ ofBucket) :=
    bucketKnown.mono fun id member => List.mem_append_right _ (List.mem_append_right _ member)
  obtain ⟨four, layersPresent⟩ := Placed.addLayers service service.layers three stored
    (fun name config member => List.mem_append_left _
      (List.mem_map.mpr ⟨name, List.mem_map.mpr ⟨_, member, rfl⟩, rfl⟩)) fourth
  obtain ⟨five, declaredPresent⟩ := Placed.addDeclared declared four independent
    (fun id member => List.mem_append_right _ member) fifth
  obtain ⟨final, kept⟩ := Placed.ofGraph policy
    (five.resources (Core.addDeclaredOutputs_resources full outputs)) bound
  have has (id : String) (present : full.has id = true) : start.has id = true := by
    apply kept
    rw [Graph.has, Core.addDeclaredOutputs_resources]
    exact present
  refine ⟨_, ⟨stored, fun name function member logged => ?_, fun name function member resolves => ?_⟩,
    ⟨final, fun id member => ?_⟩⟩
  · exact List.mem_append_left _ (logsKnown name function member logged)
  · obtain ⟨listed, other⟩ := roleKnown name function member resolves
    exact ⟨List.mem_append_right _ (List.mem_append_left _ listed), other⟩
  · rcases List.mem_append.mp member with layer | listed
    · obtain ⟨name, keyed, rfl⟩ := List.mem_map.mp layer
      obtain ⟨⟨_, config⟩, entry, rfl⟩ := List.mem_map.mp keyed
      exact has _ ((Core.addDeclared_extends layers full declared fifth).has _ (layersPresent _ config entry))
    · exact has id (declaredPresent id listed)

end FunctionStack
