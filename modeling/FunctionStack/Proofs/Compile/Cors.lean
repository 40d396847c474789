import FunctionStack.Config.Shapes
import FunctionStack.Proofs.Compile.UrlAccess
import FunctionStack.Proofs.Schema.Kinds
import FunctionStack.Proofs.Text.Listing

/-!
Calls across origins. What a URL says about them comes from its settings as they were given: a list that is missing is the
default one, an explicit null or an empty list is none at all, and any other list holds what it lists once.
-/

namespace FunctionStack

open Schema (validate toBoolean)

/-- What a table gives for a field, under its key or under its plain name. -/
def givenFor (own : Fields) (name : String) : Option Value := ((Shapes.field name .any).1.given? own).map (·.2)

namespace CorsPolicy

/-- What becomes of a list in the settings, where it may have a default: what is given, and what is emitted. -/
inductive Lists (default : Option (List String)) : Option Value → Option Value → Prop
  | absent : Lists default none (default.map Value.texts)
  | null : Lists default (some .null) none
  | empty : Lists default (some (.arr [])) none
  | given (texts firsts : List String) (nonEmpty : texts ≠ []) (first : Text.FirstOccurrences texts firsts) :
      Lists default (some (Value.texts texts)) (some (Value.texts firsts))

/-- What a URL says about calls across origins, for the settings it was given. -/
structure Emits (own emitted : Fields) : Prop where
  origins : Lists (some ["*"]) (givenFor own "allowed_origins") (Table.find? emitted "AllowOrigins")
  headers : Lists (some defaultHeaders) (givenFor own "allowed_headers") (Table.find? emitted "AllowHeaders")
  methods : Lists (some ["*"]) (givenFor own "allowed_methods") (Table.find? emitted "AllowMethods")
  exposed : Lists none (givenFor own "exposed_response_headers") (Table.find? emitted "ExposeHeaders")
  credentials : ∀ value, Table.find? emitted "AllowCredentials" = some value ↔
    value = .bool true ∧ ∃ given, givenFor own "allow_credentials" = some given ∧ toBoolean given = .ok true
  maxAge : ∀ value, Table.find? emitted "MaxAge" = some value ↔
    ∃ given seconds, givenFor own "max_age" = some given ∧ given ≠ .null ∧ Schema.toInteger given = .ok seconds ∧
      value = .int seconds
  only : ∀ key ∈ Table.keys emitted,
    key ∈ ["AllowCredentials", "AllowHeaders", "AllowMethods", "AllowOrigins", "ExposeHeaders", "MaxAge"]
  once : (Table.keys emitted).Nodup
  lists : ∀ key items, (key, Value.arr items) ∈ emitted → items ≠ [] ∧ items.Nodup

end CorsPolicy

namespace Schema

theorem validate_texts (value checked : Value) (valid : validate Shapes.optionalTexts value = .ok checked) :
    value = .null ∧ checked = .null ∨ ∃ texts, value = Value.texts texts ∧ checked = Value.texts texts := by
  rcases validate_optional _ value checked valid with none | ⟨-, taken⟩
  · exact Or.inl none
  · obtain ⟨values, results, rfl, rfl, each⟩ := validate_list .text value checked taken
    have same : ∃ texts : List String, values = texts.map Value.str ∧ results = texts.map Value.str := by
      clear valid taken
      induction each with
      | nil => exact ⟨[], rfl, rfl⟩
      | cons first _ ih =>
          obtain ⟨content, rfl, rfl⟩ := validate_text _ _ first
          obtain ⟨texts, rfl, rfl⟩ := ih
          exact ⟨content :: texts, rfl, rfl⟩
    obtain ⟨texts, rfl, rfl⟩ := same
    exact Or.inr ⟨texts, rfl, rfl⟩

end Schema

namespace CorsPolicy

variable {own checked : Fields}

/-- What a field of the settings is given is validated, or there is nothing. -/
theorem validated (valid : Schema.validateFields Shapes.cors.fields own = .ok checked) (name key : String) (schema : Schema)
    (listed : Shapes.field name schema ∈ Shapes.cors.fields) (spelled : (Shapes.field name schema).1.key = key) :
    (∃ value result, givenFor own name = some value ∧ schema.validate value = .ok result ∧
        Table.find? checked key = some result) ∨
      givenFor own name = none ∧ Table.find? checked key = none := by
  subst spelled
  rcases Schema.validateFields_find? Shapes.cors.fields valid (by decide) _ schema listed with
    ⟨_, value, result, found, taken, held⟩ | ⟨absent, -, free⟩
  · refine Or.inl ⟨value, result, ?_, taken, held⟩
    exact congrArg (Option.map Prod.snd) found
  · refine Or.inr ⟨?_, free⟩
    exact congrArg (Option.map Prod.snd) absent

theorem filterMap_texts (texts : List String) : (texts.map Value.str).filterMap Value.text? = texts := by
  rw [List.filterMap_map]
  exact List.filterMap_some

/-- A list lies over its default. -/
theorem overlay_lists (valid : Schema.validateFields Shapes.cors.fields own = .ok checked) (name key : String)
    (default : List String) (listed : Shapes.field name Shapes.optionalTexts ∈ Shapes.cors.fields)
    (spelled : (Shapes.field name Shapes.optionalTexts).1.key = key) :
    Lists (some default) (givenFor own name)
      ((overlay default (Settings.setting CorsConfig.textsOf? checked key)).map Value.texts) := by
  rcases validated valid name key _ listed spelled with ⟨value, result, found, taken, held⟩ | ⟨absent, free⟩
  · rw [found, Settings.setting, held]
    rcases Schema.validate_texts value result taken with ⟨rfl, rfl⟩ | ⟨texts, rfl, rfl⟩
    · exact .null
    · have read : CorsConfig.textsOf? (Value.texts texts) = some texts := congrArg some (filterMap_texts texts)
      simp only [read, overlay]
      cases texts with
      | nil => exact .empty
      | cons text rest => exact .given _ _ (List.cons_ne_nil _ _) (Text.distinct_first _)
  · rw [absent, Settings.setting, free]
    exact .absent

/-- A list that has no default. -/
theorem exposed_lists (valid : Schema.validateFields Shapes.cors.fields own = .ok checked) :
    Lists none (givenFor own "exposed_response_headers")
      (((Settings.nonEmpty (Settings.texts? checked "exposedResponseHeaders")).map Text.distinct).map Value.texts) := by
  rcases validated valid "exposed_response_headers" "exposedResponseHeaders" Shapes.optionalTexts
    (List.mem_of_getElem? (rfl : Shapes.cors.fields[4]? = some _)) (by decide) with
    ⟨value, result, found, taken, held⟩ | ⟨absent, free⟩
  · rw [found, Settings.texts?, Settings.items?, held]
    rcases Schema.validate_texts value result taken with ⟨rfl, rfl⟩ | ⟨texts, rfl, rfl⟩
    · exact .null
    · have read : ((some (Value.texts texts) >>= Value.items?).map (·.filterMap Value.text?)) = some texts :=
        congrArg some (filterMap_texts texts)
      rw [read, Settings.nonEmpty]
      cases texts with
      | nil => exact .empty
      | cons text rest => exact .given _ _ (List.cons_ne_nil _ _) (Text.distinct_first _)
  · rw [absent, Settings.texts?, Settings.items?, free]
    exact .absent

theorem credentials_iff (valid : Schema.validateFields Shapes.cors.fields own = .ok checked) :
    (Settings.boolean? checked "allowCredentials").getD false = true ↔
      ∃ given, givenFor own "allow_credentials" = some given ∧ toBoolean given = .ok true := by
  rcases validated valid "allow_credentials" "allowCredentials" Shapes.optionalBoolean
    (List.mem_of_getElem? (rfl : Shapes.cors.fields[3]? = some _)) (by decide) with
    ⟨value, result, found, taken, held⟩ | ⟨absent, free⟩
  · rw [found, Settings.boolean?, held]
    simp only [Option.some.injEq, exists_eq_left']
    rcases Schema.validate_optional .boolean value result taken with ⟨rfl, rfl⟩ | ⟨-, taken⟩
    · exact ⟨nofun, nofun⟩
    · obtain ⟨truth, read, rfl⟩ := Schema.validate_boolean value result taken
      rw [read, Except.ok.injEq]
      exact Iff.rfl
  · rw [absent, Settings.boolean?, free]
    exact ⟨nofun, nofun⟩

theorem maxAge_iff (valid : Schema.validateFields Shapes.cors.fields own = .ok checked) (seconds : Int) :
    Settings.integer? checked "maxAge" = some seconds ↔
      ∃ given, givenFor own "max_age" = some given ∧ given ≠ .null ∧ Schema.toInteger given = .ok seconds := by
  rcases validated valid "max_age" "maxAge" Shapes.optionalInteger
    (List.mem_of_getElem? (rfl : Shapes.cors.fields[5]? = some _)) (by decide) with
    ⟨value, result, found, taken, held⟩ | ⟨absent, free⟩
  · rw [found, Settings.integer?, held]
    simp only [Option.some.injEq, exists_eq_left']
    rcases Schema.validate_optional .integer value result taken with ⟨rfl, rfl⟩ | ⟨given, taken⟩
    · simp
    · obtain ⟨number, read, rfl⟩ := Schema.validate_integer value result taken
      simp [read, given]
  · rw [absent, Settings.integer?, free]
    simp

section Properties

variable (policy : CorsPolicy)

theorem find?_listField (key other : String) (items : Option (List String)) :
    Table.find? (listField key items) other = if other = key then items.map Value.texts else none := by
  cases items with
  | none => exact (ite_self _).symm
  | some texts => exact Table.find?_cons [] key other (Value.texts texts)

theorem keys_listField (key : String) (items : Option (List String)) : (Table.keys (listField key items)).Sublist [key] := by
  cases items with
  | none => exact List.nil_sublist _
  | some texts => exact List.Sublist.refl _

theorem find?_properties (key : String) : Table.find? policy.properties key =
    ((((((if policy.credentials && key = "AllowCredentials" then some (.bool true) else none).or
      (if key = "AllowHeaders" then policy.headers.map Value.texts else none)).or
      (if key = "AllowMethods" then policy.methods.map Value.texts else none)).or
      (if key = "AllowOrigins" then policy.origins.map Value.texts else none)).or
      (if key = "ExposeHeaders" then policy.exposedHeaders.map Value.texts else none)).or
      (if key = "MaxAge" then policy.maxAge.map Value.int else none)) := by
  have credentials : Table.find? (if policy.credentials then [("AllowCredentials", Value.bool true)] else []) key =
      if policy.credentials && key = "AllowCredentials" then some (.bool true) else none := by
    cases policy.credentials <;> simp [Table.find?_cons]
  have maxAge : Table.find? (policy.maxAge.elim [] fun seconds => [("MaxAge", Value.int seconds)]) key =
      if key = "MaxAge" then policy.maxAge.map Value.int else none := by
    cases policy.maxAge <;> simp [Table.find?_cons]
  simp only [properties, Table.find?_append, find?_listField, credentials, maxAge]

theorem find?_origins : Table.find? policy.properties "AllowOrigins" = policy.origins.map Value.texts := by
  simp [find?_properties]

theorem find?_headers : Table.find? policy.properties "AllowHeaders" = policy.headers.map Value.texts := by
  simp [find?_properties]

theorem find?_methods : Table.find? policy.properties "AllowMethods" = policy.methods.map Value.texts := by
  simp [find?_properties]

theorem find?_exposed : Table.find? policy.properties "ExposeHeaders" = policy.exposedHeaders.map Value.texts := by
  simp [find?_properties]

theorem find?_credentials : Table.find? policy.properties "AllowCredentials" =
    if policy.credentials then some (.bool true) else none := by
  simp [find?_properties]

theorem find?_maxAge : Table.find? policy.properties "MaxAge" = policy.maxAge.map Value.int := by
  simp [find?_properties]

theorem keys_properties : (Table.keys policy.properties).Sublist
    ["AllowCredentials", "AllowHeaders", "AllowMethods", "AllowOrigins", "ExposeHeaders", "MaxAge"] := by
  have credentials : (Table.keys (if policy.credentials then [("AllowCredentials", Value.bool true)] else [])).Sublist
      ["AllowCredentials"] := by
    cases policy.credentials <;> simp [Table.keys]
  have maxAge : (Table.keys (policy.maxAge.elim [] fun seconds => [("MaxAge", Value.int seconds)])).Sublist ["MaxAge"] := by
    cases policy.maxAge <;> simp [Table.keys]
  have keys (one two : Fields) : Table.keys (one ++ two) = Table.keys one ++ Table.keys two := List.map_append
  rw [properties, keys, keys, keys, keys, keys]
  exact ((((credentials.append (keys_listField _ _)).append (keys_listField _ _)).append (keys_listField _ _)).append
    (keys_listField _ _)).append maxAge

end Properties

theorem Lists.sound {default : Option (List String)} {given : Option Value} {items : List Value}
    (lists : Lists default given (some (.arr items)))
    (usual : ∀ texts, default = some texts → texts ≠ [] ∧ texts.Nodup) : items ≠ [] ∧ items.Nodup := by
  have strings (texts : List String) (nonEmpty : texts ≠ []) (distinct : texts.Nodup) :
      texts.map Value.str ≠ [] ∧ (texts.map Value.str).Nodup :=
    ⟨by simpa using nonEmpty, distinct.map fun _ _ => Value.str.inj⟩
  generalize emits : some (Value.arr items) = emitted at lists
  cases lists with
  | absent =>
      cases default with
      | none => cases emits
      | some texts =>
          cases emits
          exact strings texts (usual texts rfl).1 (usual texts rfl).2
  | null => cases emits
  | empty => cases emits
  | given texts firsts nonEmpty first =>
      cases emits
      apply strings firsts _ first.distinct
      intro none
      rw [none] at first
      exact nonEmpty (List.eq_nil_iff_forall_not_mem.mpr fun text member => List.not_mem_nil ((first.listed text).mpr member))

theorem defaults_usual (texts : List String) (default : some ["*"] = some texts ∨ some defaultHeaders = some texts) :
    texts ≠ [] ∧ texts.Nodup := by
  rcases default with default | default
  · rw [← Option.some.inj default]
    decide
  · rw [← Option.some.inj default]
    decide

/-- Whatever the settings, the policy made of them says what was given. -/
theorem ofConfig_emits (valid : Schema.validateFields Shapes.cors.fields own = .ok checked) :
    Emits own (ofConfig (CorsConfig.ofFields checked)).properties := by
  have origins := overlay_lists valid "allowed_origins" "allowedOrigins" ["*"]
    (List.mem_of_getElem? (rfl : Shapes.cors.fields[0]? = some _)) (by decide)
  have headers := overlay_lists valid "allowed_headers" "allowedHeaders" defaultHeaders
    (List.mem_of_getElem? (rfl : Shapes.cors.fields[1]? = some _)) (by decide)
  have methods := overlay_lists valid "allowed_methods" "allowedMethods" ["*"]
    (List.mem_of_getElem? (rfl : Shapes.cors.fields[2]? = some _)) (by decide)
  have exposed := exposed_lists valid
  have credentials := credentials_iff valid
  have maxAge := maxAge_iff valid
  have keys := keys_properties (ofConfig (CorsConfig.ofFields checked))
  have once : (Table.keys (ofConfig (CorsConfig.ofFields checked)).properties).Nodup := keys.nodup (by decide)
  generalize policy : ofConfig (CorsConfig.ofFields checked) = emitted at keys once
  have fields : emitted = ofConfig (CorsConfig.ofFields checked) := policy.symm
  constructor
  case origins => rw [find?_origins, fields]; exact origins
  case headers => rw [find?_headers, fields]; exact headers
  case methods => rw [find?_methods, fields]; exact methods
  case exposed => rw [find?_exposed, fields]; exact exposed
  case credentials =>
    intro value
    rw [find?_credentials, fields, ← credentials]
    change (if (Settings.boolean? checked "allowCredentials").getD false then some (Value.bool true) else none) = some value ↔ _
    split
    case isTrue on => simp [on, eq_comm]
    case isFalse off => simp [off]
  case maxAge =>
    intro value
    rw [find?_maxAge, fields]
    change (Settings.integer? checked "maxAge").map Value.int = some value ↔ _
    rw [Option.map_eq_some_iff]
    constructor
    · rintro ⟨seconds, held, rfl⟩
      obtain ⟨given, found, set, read⟩ := (maxAge seconds).mp held
      exact ⟨given, seconds, found, set, read, rfl⟩
    · rintro ⟨given, seconds, found, set, read, rfl⟩
      exact ⟨seconds, (maxAge seconds).mpr ⟨given, found, set, read⟩, rfl⟩
  case only => exact fun key member => keys.subset member
  case once => exact once
  case lists =>
    intro key items listed
    have found := Table.find?_of_mem _ key _ once listed
    have known := keys.subset (List.mem_map.mpr ⟨_, listed, rfl⟩)
    simp only [List.mem_cons, List.not_mem_nil, or_false] at known
    rcases known with rfl | rfl | rfl | rfl | rfl | rfl
    · rw [find?_credentials] at found
      split at found <;> cases found
    · rw [find?_headers, fields] at found
      exact (found ▸ headers).sound fun texts usual => defaults_usual texts (Or.inr usual)
    · rw [find?_methods, fields] at found
      exact (found ▸ methods).sound fun texts usual => defaults_usual texts (Or.inl usual)
    · rw [find?_origins, fields] at found
      exact (found ▸ origins).sound fun texts usual => defaults_usual texts (Or.inl usual)
    · rw [find?_exposed, fields] at found
      exact (found ▸ exposed).sound nofun
    · rw [find?_maxAge] at found
      cases age : emitted.maxAge <;> rw [age] at found <;> cases found

end CorsPolicy

namespace Url

/-- The settings for calls across origins in what a URL is given for them, where it asks for such calls; switched on by itself it
asks for them without any settings. -/
def corsSettings? : Value → Option Fields
  | .obj own => some own
  | value => match toBoolean value with
    | .ok true => some []
    | _ => none

/-- A URL has a policy if it is given a table or is switched on. -/
theorem corsSettings?_isSome (value : Value) :
    (corsSettings? value).isSome = true ↔ (∃ own, value = .obj own) ∨ toBoolean value = .ok true := by
  cases value with
  | obj own => exact ⟨fun _ => Or.inl ⟨own, rfl⟩, fun _ => rfl⟩
  | _ =>
      simp only [corsSettings?, reduceCtorEq, exists_false, false_or]
      split
      case h_1 on => exact ⟨fun _ => on, fun _ => rfl⟩
      case h_2 off => exact ⟨nofun, fun on => absurd on off⟩

theorem find?_cors (function : String) (url : UrlConfig) (via : Option TargetAlias) :
    Table.find? (properties function url via) "Cors" =
      (url.cors >>= CorsPolicy.ofSetting?).map fun policy => .obj policy.properties := by
  rw [properties, Table.find?_append, Table.find?_append]
  have none : Table.find? (if url.invokeMode = some "RESPONSE_STREAM" then [("InvokeMode", Value.str "RESPONSE_STREAM")] else [])
      "Cors" = none := by
    split <;> rfl
  rw [none, Option.or_none]
  cases url.cors >>= CorsPolicy.ofSetting? <;> rfl

/-- A policy that is switched on by itself is that of no settings. -/
theorem default_emits : CorsPolicy.Emits [] CorsPolicy.default.properties :=
  @CorsPolicy.ofConfig_emits [] [] rfl

/-- Settings for calls across origins, and the policy that says what they do. -/
inductive Allows : Option Fields → Option CorsPolicy → Prop
  | none : Allows none none
  | policy {own : Fields} {policy : CorsPolicy} (emits : CorsPolicy.Emits own policy.properties) : Allows (some own) (some policy)

/-- The policy that a validated setting stands for. -/
def policy? (checked : Value) : Option CorsPolicy := CorsSetting.ofValue? checked >>= CorsPolicy.ofSetting?

theorem switch_allows (value checked : Value) (other : ∀ own, value ≠ .obj own)
    (valid : validate .boolean value = .ok checked) : Allows (corsSettings? value) (policy? checked) := by
  obtain ⟨truth, read, rfl⟩ := Schema.validate_boolean value checked valid
  rw [corsSettings?, read]
  · cases truth with
    | true => exact .policy default_emits
    | false => exact .none
  · exact other

/-- A validated setting stands for what was given: a table is validated as such, for it cannot be a switch. -/
theorem setting_allows (value checked : Value) (valid : validate (.optional (.either Shapes.cors .boolean)) value = .ok checked) :
    Allows (corsSettings? value) (policy? checked) := by
  rcases Schema.validate_optional _ value checked valid with ⟨rfl, rfl⟩ | ⟨-, taken⟩
  · exact .none
  · rcases Schema.validate_either _ _ value checked taken with table | switch
    · obtain ⟨own, fields, rfl, outcome, rfl⟩ := Schema.validate_model "CorsConfig" Shapes.cors.fields value checked table
      exact .policy (CorsPolicy.ofConfig_emits outcome)
    · apply switch_allows value checked _ switch
      rintro own rfl
      cases switch

variable {given checked : Fields}

theorem cors_allows (valid : validate Shapes.url (.obj given) = .ok (.obj checked)) :
    Allows (givenFor given "cors" >>= corsSettings?) ((UrlConfig.ofFields checked).cors >>= CorsPolicy.ofSetting?) := by
  obtain ⟨_, fields, same, outcome, settled⟩ := Schema.validate_model "UrlConfig" Shapes.url.fields _ _ valid
  cases same
  cases settled
  have listed : Shapes.field "cors" (.optional (.either Shapes.cors .boolean)) ∈ Shapes.url.fields :=
    List.mem_of_getElem? (rfl : Shapes.url.fields[1]? = some _)
  rcases Schema.validateFields_find? Shapes.url.fields outcome (by decide) _ _ listed with
    ⟨_, value, result, found, taken, held⟩ | ⟨absent, -, free⟩
  · have asked : givenFor given "cors" = some value := congrArg (Option.map Prod.snd) found
    have read : (UrlConfig.ofFields checked).cors = CorsSetting.ofValue? result :=
      congrArg (· >>= CorsSetting.ofValue?) held
    rw [asked, read]
    exact setting_allows value result taken
  · have silent : givenFor given "cors" = none := congrArg (Option.map Prod.snd) absent
    have read : (UrlConfig.ofFields checked).cors = none := congrArg (· >>= CorsSetting.ofValue?) free
    rw [silent, read]
    exact .none

/-- A URL has something to say about calls across origins exactly if it is given a table for them or switches them on, and then it
says what is given, and the defaults for the lists that are not. -/
theorem resource_cors (function : String) (via : Option TargetAlias)
    (valid : validate Shapes.url (.obj given) = .ok (.obj checked)) :
    (((resource function (UrlConfig.ofFields checked) via).properties.field? "Cors").isSome = true ↔
        ∃ value, givenFor given "cors" = some value ∧ ((∃ own, value = .obj own) ∨ toBoolean value = .ok true)) ∧
      ∀ own, givenFor given "cors" >>= corsSettings? = some own →
        ∃ emitted, (resource function (UrlConfig.ofFields checked) via).properties.field? "Cors" = some (.obj emitted) ∧
          CorsPolicy.Emits own emitted := by
  have allows := cors_allows valid
  have held : (resource function (UrlConfig.ofFields checked) via).properties.field? "Cors" =
      ((UrlConfig.ofFields checked).cors >>= CorsPolicy.ofSetting?).map fun policy => .obj policy.properties := by
    rw [resource_properties]
    exact find?_cors function _ via
  have asks : (givenFor given "cors" >>= corsSettings?).isSome = true ↔
      ∃ value, givenFor given "cors" = some value ∧ ((∃ own, value = .obj own) ∨ toBoolean value = .ok true) := by
    cases givenFor given "cors" with
    | none => exact ⟨nofun, nofun⟩
    | some value =>
        simp only [Option.some.injEq, exists_eq_left']
        exact corsSettings?_isSome value
  rw [← asks, held]
  generalize givenFor given "cors" >>= corsSettings? = asked at allows ⊢
  generalize (UrlConfig.ofFields checked).cors >>= CorsPolicy.ofSetting? = policy at allows ⊢
  cases allows with
  | none => exact ⟨Iff.rfl, nofun⟩
  | policy emits =>
      refine ⟨⟨fun _ => rfl, fun _ => rfl⟩, ?_⟩
      rintro own ⟨⟩
      exact ⟨_, rfl, emits⟩

/-- Two origins of which one is repeated, no methods, and an age of zero. -/
def shared : Fields := [("cors", .obj [("allowedOrigins", .arr [.str "b", .str "a", .str "b"]), ("allowed_methods", .null),
  ("maxAge", .str "0")])]

theorem shared_cors : ∃ checked emitted, validate Shapes.url (.obj shared) = .ok (.obj checked) ∧
    (resource "api" (UrlConfig.ofFields checked) none).properties.field? "Cors" = some (.obj emitted) ∧
      Table.find? emitted "AllowMethods" = none ∧ Table.find? emitted "MaxAge" = some (.int 0) := by
  have valid : validate Shapes.url (.obj shared) = .ok (.obj [("cors", .obj [
      ("allowedOrigins", .arr [.str "b", .str "a", .str "b"]), ("allowedMethods", .null), ("maxAge", .int 0)])]) := rfl
  obtain ⟨emitted, found, emits⟩ := (resource_cors "api" none valid).2 _ rfl
  refine ⟨_, emitted, valid, found, ?_, (emits.maxAge _).mpr ⟨.str "0", 0, rfl, nofun, rfl, rfl⟩⟩
  have methods : CorsPolicy.Lists (some ["*"]) (some .null) (Table.find? emitted "AllowMethods") := emits.methods
  generalize Table.find? emitted "AllowMethods" = list at methods ⊢
  cases methods with
  | null => rfl

end Url

end FunctionStack
