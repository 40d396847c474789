import FunctionStack.Command.Run
import FunctionStack.Proofs.Compile.Build

/-!
Single steps of a command: with which ending or value each of them leaves the console, and how.
-/

namespace FunctionStack

/-- What is laid over the settings of a service file. -/
def CompileOptions.overrides (options : CompileOptions) : Fields :=
  [("stage", Value.ofText? options.stage), ("region", Value.ofText? options.region)]

namespace Console

/-- A console with one more line of the report. -/
def telling (console : Console) (line : String) : Console :=
  { console with report := console.report ++ Text.unstyled line ++ "\n" }

/-- A console with what a fetch has left behind. -/
def fetching (console : Console) (left : Files) (places : Table String) : Console where
  files := left
  output := console.output
  report := if places.isEmpty then console.report
    else console.report ++ Text.unstyled s!"Downloaded {places.length} artifact(s)" ++ "\n"

end Console

namespace Command

variable {α β : Type}

/-- What a step ends with, and the console that it leaves. -/
def outcome (step : Command α) (console : Console) : Except Ending α × Console := StateT.run (ExceptT.run step) console

theorem outcome_pure (a : α) (console : Console) : (pure a : Command α).outcome console = (.ok a, console) := rfl

theorem outcome_bind (step : Command α) (next : α → Command β) (console : Console) :
    (step >>= next).outcome console = match step.outcome console with
      | (.ok a, between) => (next a).outcome between
      | (.error ending, between) => (.error ending, between) := by
  change StateT.run (ExceptT.bindCont next (StateT.run (ExceptT.run step) console).1)
    (StateT.run (ExceptT.run step) console).2 = _
  unfold outcome
  rcases StateT.run (ExceptT.run step) console with ⟨_ | _, _⟩ <;> rfl

theorem succeeds_bind (step : Command α) (next : α → Command β) (console left : Console) (b : β) :
    (step >>= next).outcome console = (.ok b, left) ↔
      ∃ a between, step.outcome console = (.ok a, between) ∧ (next a).outcome between = (.ok b, left) := by
  rw [outcome_bind]
  rcases step.outcome console with ⟨other | a, between⟩
  · simp
  · simp only [Prod.mk.injEq, Except.ok.injEq]
    exact ⟨fun rest => ⟨a, between, ⟨rfl, rfl⟩, rest⟩, fun ⟨_, _, ⟨rfl, rfl⟩, rest⟩ => rest⟩

theorem outcome_get_bind (next : Console → Command β) (console : Console) :
    (get >>= next).outcome console = (next console).outcome console := rfl

theorem outcome_modify_bind (f : Console → Console) (next : Unit → Command β) (console : Console) :
    (modify f >>= next).outcome console = (next ()).outcome (f console) := rfl

theorem outcome_fail (wording : Wording) (error : CompileError) (console : Console) :
    (fail wording error : Command α).outcome console =
      (.error (.failed error), console.telling s!"Error [{error.code}]: {error.message wording}") := rfl

theorem outcome_orCrash (result : Result α) (console : Console) : (orCrash result).outcome console =
    match result with
    | .ok a => (.ok a, console)
    | .error failure => (.error (.crashed failure), console) := by
  cases result <;> rfl

/-- What a rejection comes to in a command, and any other failure. -/
def failing (wording : Wording) (failure : Failure) (console : Console) : Except Ending α × Console :=
  match failure with
  | .rejected error => (.error (.failed error), console.telling s!"Error [{error.code}]: {error.message wording}")
  | failure => (.error (.crashed failure), console)

theorem outcome_ofResult (wording : Wording) (result : Result α) (console : Console) :
    (ofResult wording result).outcome console =
      match result with
      | .ok a => (.ok a, console)
      | .error failure => failing wording failure console := by
  cases result with
  | ok a => rfl
  | error failure => cases failure <;> rfl

/-- How a step may fail: it has neither written nor printed anything, and it does not end the command well. -/
def Withheld (console : Console) (ending : Ending) (left : Console) : Prop :=
  left.files = console.files ∧ left.output = console.output ∧ ending.exitCode ≠ 0

theorem crash_withheld (console : Console) (failure : Failure) : Withheld console (.crashed failure) console :=
  ⟨rfl, rfl, Nat.one_ne_zero⟩

theorem failing_withheld (wording : Wording) (failure : Failure) (console left : Console) (ending : Ending)
    (failed : failing wording failure console = ((.error ending, left) : Except Ending α × Console)) :
    Withheld console ending left := by
  cases failure with
  | rejected error =>
      cases failed
      exact ⟨rfl, rfl, Nat.one_ne_zero⟩
  | _ =>
      cases failed
      exact crash_withheld console _

theorem outcome_orCrash_ok (result : Result α) (console left : Console) (a : α) :
    (orCrash result).outcome console = (.ok a, left) ↔ result = .ok a ∧ console = left := by
  rw [outcome_orCrash]
  cases result with
  | ok a => simp
  | error failure => simp

theorem outcome_ofResult_ok (wording : Wording) (result : Result α) (console left : Console) (a : α) :
    (ofResult wording result).outcome console = (.ok a, left) ↔ result = .ok a ∧ console = left := by
  rw [outcome_ofResult]
  cases result with
  | ok a => simp
  | error failure => cases failure <;> simp [failing]

/-- A step that leaves the console as it is and does not end the command well. -/
def Looks (step : Command α) : Prop :=
  ∀ console, (step.outcome console).2 = console ∧ ∀ ending, (step.outcome console).1 = .error ending → ending.exitCode ≠ 0

theorem looks_pure (a : α) : Looks (pure a : Command α) := fun _ => ⟨rfl, nofun⟩

theorem looks_throw (ending : Ending) (bad : ending.exitCode ≠ 0) : Looks (throw ending : Command α) := by
  intro console
  refine ⟨rfl, fun other same => ?_⟩
  cases same
  exact bad

theorem looks_bind (step : Command α) (next : α → Command β) (first : Looks step) (rest : ∀ a, Looks (next a)) :
    Looks (step >>= next) := by
  intro console
  obtain ⟨same, bad⟩ := first console
  rw [outcome_bind]
  generalize step.outcome console = ended at same bad
  obtain ⟨ending | a, between⟩ := ended
  · exact ⟨same, fun other fails => bad other (congrArg _ (Except.error.inj fails))⟩
  · cases same
    exact rest a between

theorem looks_get (next : Console → Command β) (rest : ∀ console, Looks (next console)) : Looks (get >>= next) :=
  fun console => rest console console

theorem looks_lookUp (path : String) : Looks (lookUp path) := by
  unfold lookUp
  split
  · exact looks_throw _ nofun
  · refine looks_get _ fun console => ?_
    split
    · exact looks_pure _
    · exact looks_pure _

theorem looks_expect (expectation : Expectation) (path : String) : Looks (expect expectation path) := by
  cases expectation with
  | text => exact looks_pure _
  | file =>
      refine looks_bind _ _ (looks_lookUp path) fun found => ?_
      split
      · exact looks_pure _
      · exact looks_throw _ nofun
      · exact looks_throw _ nofun
  | fileToWrite =>
      refine looks_bind _ _ (looks_lookUp path) fun found => ?_
      split
      · exact looks_throw _ nofun
      · exact looks_pure _

theorem looks_expectAll (values : List (Expectation × String)) : Looks (expectAll values) := by
  induction values with
  | nil => exact looks_pure _
  | cons first rest ih =>
      rw [expectAll]
      exact looks_bind _ _ (looks_expect first.1 first.2) fun _ => ih

theorem looks_operand (expectation : Expectation) (operands : List String) : Looks (operand expectation operands) := by
  cases operands with
  | nil => exact looks_throw _ nofun
  | cons first rest =>
      refine looks_bind _ _ (looks_expect expectation first) fun _ => ?_
      cases rest with
      | nil => exact looks_pure _
      | cons extra others => exact looks_throw _ nofun

/-- What is looked at before a service file is loaded. -/
def checks (given : Arguments) : Command String := do
  expectAll (given.values CommandName.compile.options)
  operand CommandName.compile.operand given.operands

theorem looks_checks (given : Arguments) : Looks (checks given) :=
  looks_bind _ _ (looks_expectAll _) fun _ => looks_operand _ _

theorem perform_compile (surroundings : Surroundings) (arguments : List String) (given : Arguments)
    (invoked : Invocation.ofArguments arguments = .ok ⟨.compile, given⟩) : perform surroundings arguments =
      checks given >>= fun path => compile surroundings (.ofArguments path given) := by
  rw [perform, invoked, checks, bind_assoc]

theorem outcome_load (wording : Wording) (options : CompileOptions) (console : Console) :
    (load wording options).outcome console =
      match ServiceFile.load console.files options.serviceFile options.overrides with
      | .ok loaded => (.ok loaded, console)
      | .error (.invalid issues) => (fail wording ⟨.serviceFileInvalid options.serviceFile issues, none⟩).outcome console
      | .error .unparsable => (fail wording ⟨.serviceFileUnparsable options.serviceFile, none⟩).outcome console
      | .error failure => (.error (.crashed failure), console) := by
  unfold load CompileOptions.overrides
  rw [outcome_get_bind]
  cases ServiceFile.load console.files options.serviceFile _ with
  | ok loaded => rfl
  | error failure => cases failure <;> rfl

theorem outcome_load_ok (wording : Wording) (options : CompileOptions) (console left : Console) (loaded : LoadedService) :
    (load wording options).outcome console = (.ok loaded, left) ↔
      ServiceFile.load console.files options.serviceFile options.overrides = .ok loaded ∧ console = left := by
  rw [outcome_load]
  cases ServiceFile.load console.files options.serviceFile options.overrides with
  | ok own => simp
  | error failure => cases failure <;> simp [outcome_fail]

theorem load_withheld (wording : Wording) (options : CompileOptions) (console left : Console) (ending : Ending)
    (failed : (load wording options).outcome console = (.error ending, left)) : Withheld console ending left := by
  rw [outcome_load] at failed
  split at failed
  case h_1 => cases failed
  case h_2 issues _ => exact failing_withheld wording (.rejected ⟨_, none⟩) console left ending failed
  case h_3 => exact failing_withheld wording (.rejected ⟨_, none⟩) console left ending failed
  case h_4 failure _ _ _ =>
    cases failed
    exact crash_withheld console failure

/-- The text of the earlier template, where one is named; it must be a template. -/
def earlierText (files : Files) (path : Option String) : Result (Option String) :=
  match Text.given path with
  | none => .ok none
  | some path => match files.jsonText (Path.ofText path).toText with
    | .ok text => (templateOf text []).map fun _ => some text
    | .error failure => .error failure

theorem outcome_readPrevious (path : Option String) (console : Console) : (readPrevious path).outcome console =
    match earlierText console.files path with
    | .ok text => (.ok text, console)
    | .error failure => (.error (.crashed failure), console) := by
  unfold readPrevious earlierText
  cases Text.given path with
  | none => rfl
  | some path =>
      dsimp only
      rw [outcome_get_bind, outcome_bind, outcome_orCrash]
      cases console.files.jsonText (Path.ofText path).toText with
      | error failure => rfl
      | ok text =>
          dsimp only
          rw [outcome_bind, outcome_orCrash]
          cases templateOf text [] <;> rfl

/-- A fetch changes the files, and reports how many artifacts it has downloaded, if any. -/
theorem outcome_fetch (surroundings : Surroundings) (service : ServiceConfig) (console : Console) :
    (fetch surroundings service).outcome console =
      match surroundings.store.fetch .default service console.files with
      | (.ok places, left) => (.ok (service.relocate places), console.fetching left places)
      | (.error failure, left) => failing surroundings.wording failure { console with files := left } := by
  unfold fetch
  rw [outcome_get_bind, outcome_modify_bind, outcome_bind, outcome_ofResult]
  rcases surroundings.store.fetch .default service console.files with ⟨failure | places, left⟩
  · cases failure <;> rfl
  · cases places <;> rfl

theorem outcome_deliver (output : Option String) (template : String) (console : Console) :
    (deliver output template).outcome console = match Text.given output with
      | none => (.ok (), { console with output := console.output ++ Text.unstyled template ++ "\n" })
      | some path => match console.files.write (Path.ofText path).toText (.bytes (.ofText (template ++ "\n"))) with
        | .ok files => (.ok (), { console with files := files })
        | .error failure => (.error (.crashed failure), console) := by
  unfold deliver
  cases Text.given output with
  | none => rfl
  | some path =>
      dsimp only
      rw [outcome_get_bind, outcome_bind, outcome_orCrash]
      cases console.files.write (Path.ofText path).toText (.bytes (.ofText (template ++ "\n"))) <;> rfl

/-- A step that only reports. -/
def Tells (step : Command Unit) : Prop := ∀ console, ∃ report, step.outcome console = (.ok (), { console with report := report })

theorem tells_tell (line : String) : Tells (tell line) := fun _ => ⟨_, rfl⟩

theorem tells_bind (first second : Command Unit) (one : Tells first) (two : Tells second) : Tells (do first; second) := by
  intro console
  obtain ⟨report, told⟩ := one console
  obtain ⟨last, more⟩ := two { console with report := report }
  refine ⟨last, ?_⟩
  rw [outcome_bind, told]
  exact more

theorem tells_versions (functions : List CompiledFunction) : Tells (tellVersions functions) := by
  induction functions with
  | nil => exact fun _ => ⟨_, rfl⟩
  | cons function rest ih => exact tells_bind _ _ (tells_tell _) ih

theorem tells_summary (graph : Graph) (compiled : List CompiledFunction) (output : Option String) :
    Tells (do
      summarize graph compiled
      if let some path := Text.given output then tell s!"  Template: {path}") := by
  refine tells_bind _ _ (tells_bind _ _ (tells_tell _) (tells_versions compiled)) ?_
  split
  · exact tells_tell _
  · exact fun _ => ⟨_, rfl⟩

end Command

end FunctionStack
