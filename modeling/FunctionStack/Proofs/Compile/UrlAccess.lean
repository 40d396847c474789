import FunctionStack.Proofs.Compile.Declared
import FunctionStack.Proofs.Compile.Permutation
import FunctionStack.Proofs.Template.Retention

/-!
Who may call the URL of a function. A URL is guarded exactly if its authorizer is the one spelling that is known, and any other
URL is opened to everybody.
-/

namespace FunctionStack

open Value

/-- Lets everybody call a URL. -/
structure Resource.Opens (permission url : Resource) : Prop where
  type : permission.type = .str "AWS::Lambda::Permission"
  everybody : permission.properties.field? "Principal" = some (.str "*")
  target : ∃ target, url.properties.field? "TargetFunctionArn" = some target ∧
    permission.properties.field? "FunctionName" = some target

namespace TargetAlias

theorem target_rigid (function : String) (via : Option TargetAlias) : Rigid (target function via) := by
  have arn := Intrinsic.getAtt_rigid (Naming.function function) "Arn"
  cases via with
  | none => exact arn
  | some via => exact .single _ _ (.pair (.str _) (.pair arn (.str _)))

/-- A target tells whose it is. -/
theorem target_function (function other : String) (via own : Option TargetAlias)
    (same : target function via = target other own) : Naming.function function = Naming.function other := by
  cases via <;> cases own <;> simp_all [target, Intrinsic.getAtt, Intrinsic.join]

end TargetAlias

namespace Url

theorem isPublic_iff (url : UrlConfig) : isPublic url = true ↔ url.authorizer ≠ some "aws_iam" := by
  unfold isPublic authorization
  split <;> simp_all

theorem resource_properties (function : String) (url : UrlConfig) (via : Option TargetAlias) :
    (resource function url via).properties = .obj (properties function url via) := Plan.attach_properties _ _

theorem resource_target (function : String) (url : UrlConfig) (via : Option TargetAlias) :
    (resource function url via).properties.field? "TargetFunctionArn" = some (TargetAlias.target function via) := by
  rw [resource_properties]
  rfl

theorem permission_properties (function : String) (via : Option TargetAlias) :
    (permission function via).properties.field? "Principal" = some (.str "*") ∧
      (permission function via).properties.field? "FunctionName" = some (TargetAlias.target function via) := by
  rw [permission, Plan.attach_properties]
  exact ⟨rfl, rfl⟩

end Url

namespace Blueprint

variable {blueprint : Blueprint} {core start : Graph} {session : RegistrySession} {w : Workspace}
  {policy : Option ExecutionPolicy} {plans : List Plan} {plan : Plan} {config : UrlConfig}

section

variable (ran : blueprint.Ran core session w start policy plans) (seeded : Core.graph blueprint.service = .ok core)
  (proper : blueprint.IsProper) (regular : (Value.obj blueprint.service.resources).isProper = true)
  (planned : plan ∈ plans) (found : plan.function.url >>= Url.ofSetting? = some config)

include ran seeded proper regular planned found

theorem Ran.url : ∃ resource, w.graph.find? (Naming.url plan.name) = some resource ∧
    resource.type = .str "AWS::Lambda::Url" ∧
    resource.properties.field? "AuthType" = some (.str (Url.authorization config)) ∧
    resource.properties.field? "TargetFunctionArn" = some (TargetAlias.target plan.name plan.via) := by
  obtain ⟨held, present, fits, type, known⟩ := ran.holds_proper seeded proper regular planned (.url config found)
  refine ⟨held, present, type, fits.rigid known _ _ (.str _) ?_, fits.rigid known _ _ (TargetAlias.target_rigid _ _) ?_⟩
  · rw [Url.resource_properties]
    rfl
  · exact Url.resource_target _ _ _

/-- A URL that is not guarded is opened to everybody. -/
theorem Ran.opened (free : Url.isPublic config = true) : ∃ resource permission,
    w.graph.find? (Naming.url plan.name) = some resource ∧
      resource.properties.field? "AuthType" = some (.str "NONE") ∧
      w.graph.find? (Naming.urlPermission plan.name) = some permission ∧ permission.Opens resource := by
  obtain ⟨resource, present, _, authorization, target⟩ := ran.url seeded proper regular planned found
  obtain ⟨permission, there, fits, type, known⟩ :=
    ran.holds_proper seeded proper regular planned (.permission config found free)
  obtain ⟨everybody, function⟩ := Url.permission_properties plan.name plan.via
  have none : Url.authorization config = "NONE" := of_decide_eq_true free
  exact ⟨resource, permission, present, none ▸ authorization, there, {
    type := type
    everybody := fits.rigid known _ _ (.str _) everybody
    target := ⟨_, target, fits.rigid known _ _ (TargetAlias.target_rigid _ _) function⟩ }⟩

/-- Whatever opens a guarded URL has been declared. -/
theorem Ran.guarded (names : Plan.Apart plans) (guarded : Url.isPublic config = false) (resource : Resource)
    (present : w.graph.find? (Naming.url plan.name) = some resource) (id : String) (permission : Resource)
    (there : w.graph.find? id = some permission) (opens : permission.Opens resource) :
    ∃ own, blueprint.service.Declares id own := by
  have foreign : ∀ own ∈ Core.ownTypes, permission.type ≠ .str own := opens.type ▸ Plan.Kind.permission.type_foreign
  rcases ran.origin seeded id permission there foreign with ⟨own, declares, _⟩ | ⟨other, listed, kind, places⟩
  · exact ⟨own, declares⟩
  have type := places.type
  rw [opens.type] at type
  have same : .permission = kind := Plan.Kind.type_injective _ _ (Value.str.inj type)
  subst same
  obtain ⟨target, aimed, called⟩ := opens.target
  cases places with
  | permission theirs known free =>
      obtain ⟨held, here, _, _, function⟩ := ran.url seeded proper regular planned found
      rw [present] at here
      cases here
      rw [function] at aimed
      cases aimed
      rw [(Url.permission_properties other.name other.via).2, Option.some.injEq] at called
      -- Targets tell functions apart, and so the permission was placed for this very function.
      have normalized := Naming.suffix_cancel _ _ _ (TargetAlias.target_function _ _ _ _ called)
      rw [List.inj_on_of_nodup_map names listed planned normalized, found] at known
      cases known
      rw [guarded] at free
      cases free

end

/-- The URL of a function is guarded exactly if its authorizer is `aws_iam`. Otherwise, whatever else the authorizer may be,
everybody is allowed to call it; and nothing allows that for a guarded URL but what the service declares itself or what it has
kept of the previous template. -/
theorem compileService_urls (blueprint : Blueprint) (proper : blueprint.IsProper)
    (regular : (Value.obj blueprint.service.resources).isProper = true) (names : Naming.Distinct blueprint.functions)
    (previous : Option Graph) (graph : Graph) (compiled : List CompiledFunction)
    (compiles : (blueprint.compileService previous).1 = .ok (graph, compiled)) (name : String) (function : FunctionConfig)
    (declared : (name, function) ∈ blueprint.functions) (url : UrlConfig)
    (found : function.url >>= Url.ofSetting? = some url) :
    ∃ resource, graph.find? (Naming.url name) = some resource ∧ resource.type = .str "AWS::Lambda::Url" ∧
      (url.authorizer ≠ some "aws_iam" → resource.properties.field? "AuthType" = some (.str "NONE") ∧
        ∃ permission, graph.find? (Naming.urlPermission name) = some permission ∧ permission.Opens resource) ∧
      (url.authorizer = some "aws_iam" → resource.properties.field? "AuthType" = some (.str "AWS_IAM") ∧
        ∀ id permission, graph.find? id = some permission → permission.Opens resource →
          (∃ own, blueprint.service.Declares id own) ∨
            ∃ earlier, previous = some earlier ∧ (id, permission) ∈ earlier.resources ∧ permission.retained = true) := by
  obtain ⟨core, w, start, policy, plans, seeded, built, ran, rfl, rfl⟩ := compileService_ran proper compiles
  obtain ⟨plan, planned, rfl, rfl⟩ := ran.planned name function declared
  have apart : Plan.Apart plans := (Plan.apart_iff plans).mpr (ran.entries.symm ▸ names)
  obtain ⟨resource, present, type, authorization, -⟩ := ran.url seeded proper regular planned found
  refine ⟨resource, Graph.carried_keeps w.graph previous _ _ present, type, fun other => ?_, fun iam => ?_⟩
  · obtain ⟨held, permission, here, none, there, opens⟩ :=
      ran.opened seeded proper regular planned found ((Url.isPublic_iff url).mpr other)
    rw [present] at here
    cases here
    exact ⟨none, permission, Graph.carried_keeps w.graph previous _ _ there, opens⟩
  · have guarded : Url.isPublic url = false := by
      rw [Bool.eq_false_iff, ne_eq, Url.isPublic_iff]
      exact fun other => other iam
    refine ⟨?_, fun id permission there opens => ?_⟩
    · rw [authorization, Url.authorization, if_pos iam]
    · rcases Graph.carried_origin w.graph previous id permission there with own | kept
      · exact Or.inl (ran.guarded seeded proper regular planned found apart guarded resource present id permission own opens)
      · exact Or.inr kept

/-- A service with a function whose URL has an authorizer, and one whose URL has none. -/
def hooks (authorizer : String) : Blueprint :=
  .ofService (.ofFields [
    ("service", .str "s"),
    ("provider", .obj [("versionFunctions", .bool false)]),
    ("functions", .obj [
      ("api", .obj [("handler", .str "api.handle"), ("url", .obj [("authorizer", .str authorizer)])]),
      ("hook", .obj [("handler", .str "hook.handle"), ("url", .bool true)])])])
    (.empty []) ⟨false, fun _ => .error ""⟩ false

theorem hooks_url (authorizer : String) : ∃ function url, ("api", function) ∈ (hooks authorizer).functions ∧
    function.url >>= Url.ofSetting? = some url ∧ url.authorizer = some authorizer :=
  ⟨_, _, List.mem_cons_self .., rfl, rfl⟩

/-- Next to a public URL, nobody is let into the one that is guarded. -/
theorem hooks_guarded : ∃ graph compiled resource,
    ((hooks "aws_iam").compileService none).1 = .ok (graph, compiled) ∧
      graph.find? (Naming.url "api") = some resource ∧
      resource.properties.field? "AuthType" = some (.str "AWS_IAM") ∧
      graph.has (Naming.urlPermission "hook") = true ∧
      ∀ id permission, graph.find? id = some permission → ¬ permission.Opens resource := by
  obtain ⟨graph, compiled, compiles, hook⟩ := compileService_any (hooks "aws_iam") none
    (fun graph _ => graph.has (Naming.urlPermission "hook")) (by decide +kernel)
  obtain ⟨function, url, declared, found, authorizer⟩ := hooks_url "aws_iam"
  obtain ⟨resource, present, _, _, guarded⟩ := compileService_urls (hooks "aws_iam") (by decide +kernel) (by decide +kernel)
    (by decide +kernel) none graph compiled compiles "api" function declared url found
  obtain ⟨authorization, closed⟩ := guarded authorizer
  refine ⟨graph, compiled, resource, compiles, present, authorization, hook, fun id permission there opens => ?_⟩
  rcases closed id permission there opens with ⟨own, block, value, listed, known, _⟩ | ⟨earlier, same, _⟩
  · cases listed
    cases known
  · cases same

/-- With its authorizer in capitals the URL is open to everybody. -/
theorem hooks_capitalized : Naming.Distinct (hooks "AWS_IAM").functions ∧
    ∃ function url graph compiled resource permission,
      ("api", function) ∈ (hooks "AWS_IAM").functions ∧ function.url >>= Url.ofSetting? = some url ∧
      url.authorizer = some "AWS_IAM" ∧ ((hooks "AWS_IAM").compileService none).1 = .ok (graph, compiled) ∧
      graph.find? (Naming.url "api") = some resource ∧ resource.properties.field? "AuthType" = some (.str "NONE") ∧
      graph.find? (Naming.urlPermission "api") = some permission ∧ permission.Opens resource := by
  obtain ⟨graph, compiled, compiles, _⟩ :=
    compileService_any (hooks "AWS_IAM") none (fun _ _ => true) (by decide +kernel)
  obtain ⟨function, url, declared, found, authorizer⟩ := hooks_url "AWS_IAM"
  have proper : (hooks "AWS_IAM").IsProper := by decide +kernel
  have free : Url.isPublic url = true := by
    rw [Url.isPublic_iff, authorizer]
    decide
  obtain ⟨core, w, _, _, plans, seeded, _, ran, rfl, rfl⟩ := compileService_ran proper compiles
  obtain ⟨plan, planned, name, rfl⟩ := ran.planned "api" function declared
  obtain ⟨resource, permission, opened⟩ := ran.opened seeded proper (by decide +kernel) planned found free
  rw [name] at opened
  exact ⟨by decide +kernel, plan.function, url, w.graph, _, resource, permission, declared, found, authorizer, compiles, opened⟩

end Blueprint

end FunctionStack
