import FunctionStack.Proofs.Artifact.Spared
import FunctionStack.Proofs.Command.Delivery
import FunctionStack.Proofs.Compile.Template
import FunctionStack.Proofs.Config.Overrides
import FunctionStack.Proofs.Config.Proper

/-!
Runs of the compiler. A run that does not end well prints no template, and of the files that were there it changes only those in
the places of the artifacts that it has downloaded. One that ends well has delivered the template of the compiled graph, which is
read back from what it has printed or written.
-/

namespace FunctionStack

open Text (StandIns)

theorem CompileOptions.overrides_proper (options : CompileOptions) (key : String) (value : Value)
    (member : (key, value) ∈ options.overrides) : value.isProper = true := by
  have text (own : Option String) : (Value.ofText? own).isProper = true := by
    cases own <;> rfl
  simp only [overrides, List.mem_cons, Prod.mk.injEq, List.not_mem_nil, or_false] at member
  rcases member with ⟨-, rfl⟩ | ⟨-, rfl⟩
  · exact text options.stage
  · exact text options.region

theorem FunctionConfig.relocate_written (places : Table String) (function : FunctionConfig) :
    (function.relocate places).written = function.written := by
  unfold relocate
  split <;> rfl

/-- Where the code of a service is makes no difference to what its author has written. -/
theorem ServiceConfig.IsProper.relocate {service : ServiceConfig} (proper : service.IsProper) (places : Table String) :
    (service.relocate places).IsProper where
  provider := proper.provider
  functions := by
    intro name function member
    obtain ⟨⟨known, own⟩, declared, same⟩ := List.mem_map.mp member
    cases same
    rw [FunctionConfig.relocate_written]
    exact proper.functions _ own declared
  resources := proper.resources

namespace Files

variable {files left : Files}

/-- A file that a path leads to, if there is one, is what it was before, and one that was there is still there. -/
structure Untouched (files left : Files) (path : String) : Prop where
  there : ∀ location, left.locate path = .ok location → ∀ content,
    left.node? location = some (.file content) ↔ files.node? location = some (.file content)
  opens : ∀ content, files.openFile path = .ok content → left.openFile path = .ok content

theorem Spares.untouched {places : List String → Prop} (spares : files.Spares left places) (path : String)
    (apart : ∀ location, left.locate path = .ok location → ¬ places location) : files.Untouched left path where
  there := fun location leads => spares.same location (apart location leads)
  opens := spares.openFile path apart

end Files

namespace Command

/-- The console on which a command begins. -/
def start (files : Files) : Console := ⟨files, "", ""⟩

/-- The options that a command has been given, once all that its arguments name has been looked at. -/
def Accepts (files : Files) (given : Arguments) (options : CompileOptions) : Prop :=
  (checks given).outcome (start files) = (.ok options.serviceFile, start files) ∧
    options = .ofArguments options.serviceFile given

/-- A run that has read the service file and the earlier template, and has not fetched anything yet. -/
structure Loads (files : Files) (given : Arguments) (options : CompileOptions) (loaded : LoadedService)
    (previous : Option String) : Prop where
  accepts : Accepts files given options
  loads : ServiceFile.load files options.serviceFile options.overrides = .ok loaded
  earlier : earlierText files options.previous = .ok previous

/-- What a retrieval, which can be skipped, makes of a service and of the files. -/
inductive Fetches (surroundings : Surroundings) (files : Files) (options : CompileOptions) (service : ServiceConfig) :
    ServiceConfig → Files → Prop
  | skipped (skips : options.skipDownload = true) : Fetches surroundings files options service service files
  | fetched (places : Table String) (left : Files) (fetches : options.skipDownload = false)
      (ends : surroundings.store.fetch .default service files = (.ok places, left)) :
      Fetches surroundings files options service (service.relocate places) left

/-- The places of the artifacts that a run has downloaded. -/
inductive Downloaded (surroundings : Surroundings) (files : Files) (given : Arguments) : Path → Prop
  | intro (options : CompileOptions) (loaded : LoadedService) (previous : Option String) (uri : String)
      (loads : Loads files given options loaded previous) (fetches : options.skipDownload = false)
      (delivers : uri ∈ surroundings.store.delivered .default loaded.service files) :
      Downloaded surroundings files given (loaded.service.place uri)

/-- How a run may fail: it has printed nothing, and it has written nothing but the artifacts that it has downloaded. -/
structure Fails (surroundings : Surroundings) (files : Files) (given : Arguments) (ending : Ending) (left : Console) : Prop where
  exitCode : ending.exitCode ≠ 0
  output : left.output = ""
  spares : files.Spares left.files fun location =>
    ∃ place, Downloaded surroundings files given place ∧ left.files.locate place.toText = .ok location

/-- The graph of an earlier template, and stand-ins for halves that occur neither in it nor in the template of another graph. -/
inductive Earlier (own : Graph) : Option String → Option Graph → StandIns → Prop
  | none : Earlier own none none .empty
  | read (text : String) (graph : Graph) (halves : StandIns)
      (reads : templateOf text (own.toTemplate.toJson .compact).toList = .ok (graph, halves)) :
      Earlier own (some text) (some graph) halves

/-- The graph that a run compiles: that of the service with its artifacts fetched, and what is kept of the earlier graph. -/
inductive Compiles (surroundings : Surroundings) (files : Files) (given : Arguments) (options : CompileOptions)
    (halves : StandIns) : Graph → Prop
  | intro (loaded : LoadedService) (previous : Option String) (service : ServiceConfig) (left : Files) (own graph : Graph)
      (compiled : List CompiledFunction) (earlier : Option Graph) (loads : Loads files given options loaded previous)
      (fetches : Fetches surroundings files options loaded.service service left)
      (alone : ((Blueprint.ofService service left surroundings.registry options.enforce).compileService none).1 =
        .ok (own, compiled))
      (reads : Earlier own previous earlier halves)
      (compiles : ((Blueprint.ofService service left surroundings.registry options.enforce).compileService earlier).1 =
        .ok (graph, compiled)) : Compiles surroundings files given options halves graph

/-- What is left of a run when the artifacts have been fetched. -/
def finish (surroundings : Surroundings) (options : CompileOptions) (previous : Option String) (service : ServiceConfig) :
    Command Unit := do
  let blueprint := Blueprint.ofService service (← get).files surroundings.registry options.enforce
  let (compiledGraph, compiled) ← ofResult surroundings.wording (blueprint.compileService none).1
  let (graph, standIns) ← orCrash (succeed compiledGraph previous)
  let text ← orCrash (graph.toTemplate.printed (.indented standIns))
  deliver options.output text
  summarize graph compiled
  if let some path := Text.given options.output then tell s!"  Template: {path}"

/-- The retrieval of artifacts, where it is not skipped. -/
def retrieve (surroundings : Surroundings) (options : CompileOptions) (service : ServiceConfig) : Command ServiceConfig :=
  if options.skipDownload then pure service else fetch surroundings service

theorem compile_eq (surroundings : Surroundings) (options : CompileOptions) : compile surroundings options =
    load surroundings.wording options >>= fun loaded => readPrevious options.previous >>= fun previous =>
      retrieve surroundings options loaded.service >>= finish surroundings options previous := by
  unfold compile retrieve
  refine congrArg _ (funext fun loaded => congrArg _ (funext fun previous => ?_))
  cases options.skipDownload <;> rfl

/-- A run fails and leaves everything as it is, or it comes to the retrieval. -/
theorem compile_cases (surroundings : Surroundings) (options : CompileOptions) (console left : Console)
    (ended : Except Ending Unit) (runs : (compile surroundings options).outcome console = (ended, left)) :
    (∃ ending, ended = .error ending ∧ Withheld console ending left) ∨
      ∃ loaded previous, ServiceFile.load console.files options.serviceFile options.overrides = .ok loaded ∧
        earlierText console.files options.previous = .ok previous ∧
        (retrieve surroundings options loaded.service >>= finish surroundings options previous).outcome console =
          (ended, left) := by
  rw [compile_eq, outcome_bind] at runs
  rcases first : (load surroundings.wording options).outcome console with ⟨ending | loaded, between⟩
  · rw [first] at runs
    cases runs
    exact Or.inl ⟨ending, rfl, load_withheld _ _ _ _ _ first⟩
  · rw [first] at runs
    obtain ⟨loads, rfl⟩ := (outcome_load_ok _ _ _ _ _).mp first
    dsimp only at runs
    rw [outcome_bind, outcome_readPrevious] at runs
    cases earlier : earlierText console.files options.previous with
    | error failure =>
        rw [earlier] at runs
        cases runs
        exact Or.inl ⟨_, rfl, crash_withheld _ failure⟩
    | ok previous =>
        rw [earlier] at runs
        exact Or.inr ⟨loaded, previous, loads, rfl, runs⟩

/-- Whatever a retrieval comes to, it prints nothing, and of the files that were there it changes only those in the places of what
it has downloaded. -/
theorem retrieve_spares (surroundings : Surroundings) (options : CompileOptions) (service : ServiceConfig)
    (console left : Console) (ended : Except Ending ServiceConfig) (rooted : console.files.IsRooted)
    (ends : (retrieve surroundings options service).outcome console = (ended, left)) :
    left.output = console.output ∧ (∀ ending, ended = .error ending → ending.exitCode ≠ 0) ∧
      console.files.Spares left.files fun location => options.skipDownload = false ∧
        ∃ uri ∈ surroundings.store.delivered .default service console.files,
          left.files.locate (service.place uri).toText = .ok location := by
  unfold retrieve at ends
  cases skips : options.skipDownload with
  | true =>
      rw [skips, if_pos rfl, outcome_pure] at ends
      cases ends
      exact ⟨rfl, fun ending same => (by cases same), .refl _ _⟩
  | false =>
      have spares := surroundings.store.fetch_spares .default service rooted
      rw [skips, if_neg Bool.false_ne_true, outcome_fetch] at ends
      rcases fetched : surroundings.store.fetch .default service console.files with ⟨failure | places, after⟩
      · rw [fetched] at ends spares
        cases ended with
        | ok effective => cases failure <;> cases ends
        | error ending =>
            obtain ⟨files, output, bad⟩ := failing_withheld _ failure _ _ ending ends
            refine ⟨output, fun other same => Except.error.inj same ▸ bad, ?_⟩
            rw [files]
            exact spares.mono fun location reached => ⟨rfl, reached⟩
      · rw [fetched] at ends spares
        cases ends
        exact ⟨rfl, fun ending same => (by cases same), spares.mono fun location reached => ⟨rfl, reached⟩⟩

theorem retrieve_ok (surroundings : Surroundings) (options : CompileOptions) (service effective : ServiceConfig)
    (console left : Console) (ends : (retrieve surroundings options service).outcome console = (.ok effective, left)) :
    Fetches surroundings console.files options service effective left.files := by
  unfold retrieve at ends
  cases skips : options.skipDownload with
  | true =>
      rw [skips, if_pos rfl, outcome_pure] at ends
      cases ends
      exact .skipped skips
  | false =>
      rw [skips, if_neg Bool.false_ne_true, outcome_fetch] at ends
      rcases fetched : surroundings.store.fetch .default service console.files with ⟨failure | places, after⟩
      · rw [fetched] at ends
        cases failure <;> cases ends
      · rw [fetched] at ends
        cases ends
        exact .fetched places after skips fetched

theorem Fetches.isProper {surroundings : Surroundings} {files left : Files} {options : CompileOptions}
    {service effective : ServiceConfig} (fetches : Fetches surroundings files options service effective left)
    (proper : service.IsProper) : effective.IsProper := by
  cases fetches with
  | skipped skips => exact proper
  | fetched places _ fetches ends => exact proper.relocate places

/-- And what has been fetched is what the compilation goes on with. -/
theorem Fetches.retrieve {surroundings : Surroundings} {options : CompileOptions} {service effective : ServiceConfig}
    {left : Files} (console : Console) (fetches : Fetches surroundings console.files options service effective left) :
    ∃ report, (Command.retrieve surroundings options service).outcome console =
      (.ok effective, { console with files := left, report := report }) := by
  unfold Command.retrieve
  cases fetches with
  | skipped skips =>
      rw [skips, if_pos rfl, outcome_pure]
      exact ⟨console.report, rfl⟩
  | fetched places left fetches ends =>
      rw [fetches, if_neg Bool.false_ne_true, outcome_fetch, ends]
      exact ⟨(console.fetching left places).report, rfl⟩

theorem templateOf_ok (text : String) (others : List Char) (graph : Graph) (halves : StandIns)
    (reads : templateOf text others = .ok (graph, halves)) :
    graph.IsProper ∧ halves.characters.length ≤ 0x800 := by
  simp only [templateOf, Result.bind_ok, Result.pure_ok, Prod.mk.injEq] at reads
  obtain ⟨template, read, _, graphed, rfl, rfl⟩ := reads
  exact ⟨Graph.ofTemplate_isProper graphed (Value.readJson_isProper _ text template read), StandIns.apartFrom_length _⟩

theorem Earlier.isProper {own : Graph} {previous : Option String} {earlier : Option Graph} {halves : StandIns}
    (reads : Earlier own previous earlier halves) : ∀ graph, earlier = some graph → graph.IsProper := by
  intro graph same
  cases reads with
  | none => cases same
  | read text _ _ reads =>
      cases same
      exact (templateOf_ok _ _ _ _ reads).1

/-- A compiled graph takes over what an earlier one keeps, and its template can be read back. -/
theorem succeed_ok (own graph : Graph) (previous : Option String) (kept : Option StandIns)
    (done : succeed own previous = .ok (graph, kept)) : ∃ earlier halves, Earlier own previous earlier halves ∧
      graph = earlier.elim own own.carryRetained ∧ JsonStyle.Legible (.indented kept) halves := by
  cases previous with
  | none =>
      cases done
      exact ⟨none, .empty, .none, rfl, JsonStyle.indented_legible none .empty (Or.inl rfl)⟩
  | some text =>
      simp only [succeed, Result.bind_ok, Result.pure_ok, Prod.mk.injEq] at done
      obtain ⟨⟨earlier, halves⟩, reads, rfl, rfl⟩ := done
      exact ⟨some earlier, halves, .read text earlier halves reads, rfl,
        JsonStyle.indented_legible _ halves (Or.inr ⟨rfl, (templateOf_ok _ _ _ _ reads).2⟩)⟩

theorem printed_ok (style : JsonStyle) (value : Value) (text : String) (printed : value.printed style = .ok text) :
    value.isPrintable = true ∧ text = value.toJson style := by
  unfold Value.printed at printed
  split at printed
  case isTrue printable =>
    cases printed
    exact ⟨printable, rfl⟩
  case isFalse => cases printed

/-- A service that does compile is delivered as the template of its graph, which is read back. -/
theorem finish_ok (surroundings : Surroundings) (options : CompileOptions) (previous : Option String) (service : ServiceConfig)
    (console left : Console) (fresh : console.output = "") (rooted : console.files.IsRooted) (proper : service.IsProper)
    (done : (finish surroundings options previous service).outcome console = (.ok (), left)) :
    ∃ own compiled earlier halves graph text,
      ((Blueprint.ofService service console.files surroundings.registry options.enforce).compileService none).1 =
        .ok (own, compiled) ∧
      Earlier own previous earlier halves ∧
      ((Blueprint.ofService service console.files surroundings.registry options.enforce).compileService earlier).1 =
        .ok (graph, compiled) ∧
      Delivers options.output left text ∧ Value.readJson halves text = .ok graph.toTemplate := by
  rw [finish, outcome_get_bind, succeeds_bind] at done
  obtain ⟨⟨own, compiled⟩, _, first, done⟩ := done
  obtain ⟨compiles, rfl⟩ := (outcome_ofResult_ok _ _ _ _ _).mp first
  rw [succeeds_bind] at done
  obtain ⟨⟨graph, kept⟩, _, second, done⟩ := done
  obtain ⟨succeeds, rfl⟩ := (outcome_orCrash_ok _ _ _ _).mp second
  rw [succeeds_bind] at done
  obtain ⟨text, _, third, done⟩ := done
  obtain ⟨printed, rfl⟩ := (outcome_orCrash_ok _ _ _ _).mp third
  rw [succeeds_bind] at done
  obtain ⟨⟨⟩, between, delivered, done⟩ := done
  obtain ⟨report, told⟩ := tells_summary graph compiled options.output between
  cases told.symm.trans done
  obtain ⟨earlier, halves, reads, same, legible⟩ := succeed_ok own graph previous kept succeeds
  obtain ⟨printable, rfl⟩ := printed_ok _ _ _ printed
  have again : ((Blueprint.ofService service console.files surroundings.registry options.enforce).compileService earlier).1 =
      .ok (graph, compiled) := by
    obtain ⟨core, w, seeded, built, rfl, listed⟩ := (Blueprint.compileService_ok _ none own compiled).mp compiles
    exact (Blueprint.compileService_ok _ earlier graph compiled).mpr ⟨core, w, seeded, built, same, listed⟩
  have template := (Blueprint.compileService_isProper ⟨proper.provider, proper.functions⟩ proper.resources reads.isProper
    again).toTemplate
  refine ⟨own, compiled, earlier, halves, graph, _, compiles, reads, again, ?_,
    JsonStyle.readJson_indented kept halves legible _ template printable⟩
  exact (deliver_ok _ _ _ _ fresh rooted (JsonStyle.plain_indented kept graph.toTemplate) delivered).reported report

section Run

variable {surroundings : Surroundings} {files : Files} {arguments : List String} {given : Arguments}

theorem checks_ok (path : String) (left : Console) (checked : (checks given).outcome (start files) = (.ok path, left)) :
    start files = left ∧ Accepts files given (.ofArguments path given) := by
  have same := (looks_checks given (start files)).1
  rw [checked] at same
  cases same
  exact ⟨rfl, checked, rfl⟩

/-- What fails before the retrieval leaves all files as they are. -/
theorem Withheld.fails {ending : Ending} {left : Console} (withheld : Withheld (start files) ending left) :
    Fails surroundings files given ending left where
  exitCode := withheld.2.2
  output := withheld.2.1
  spares := by
    rw [withheld.1]
    exact .refl files _

variable (invoked : Invocation.ofArguments arguments = .ok ⟨.compile, given⟩)

include invoked

theorem Accepts.perform {options : CompileOptions} (accepts : Accepts files given options) :
    (Command.perform surroundings arguments).outcome (start files) = (compile surroundings options).outcome (start files) := by
  rw [perform_compile surroundings arguments given invoked, outcome_bind, accepts.1]
  exact congrArg (fun own => (compile surroundings own).outcome (start files)) accepts.2.symm

theorem Loads.perform {options : CompileOptions} {loaded : LoadedService} {previous : Option String}
    (loads : Loads files given options loaded previous) :
    (Command.perform surroundings arguments).outcome (start files) =
      (retrieve surroundings options loaded.service >>= finish surroundings options previous).outcome (start files) := by
  rw [loads.accepts.perform invoked, compile_eq, outcome_bind, outcome_load, start, loads.loads]
  dsimp only
  rw [outcome_bind, outcome_readPrevious, loads.earlier]

/-- A run that ends well has delivered the template of the graph that it has compiled. -/
theorem perform_ok (rooted : files.IsRooted)
    (known : ∀ location value, files.node? location = some (.file (.document (some value))) → value.isProper = true)
    (console : Console) (done : (perform surroundings arguments).outcome (start files) = (.ok (), console)) :
    ∃ options halves graph text, Compiles surroundings files given options halves graph ∧
      Delivers options.output console text ∧ Value.readJson halves text = .ok graph.toTemplate := by
  rw [perform_compile surroundings arguments given invoked, succeeds_bind] at done
  obtain ⟨path, between, checked, done⟩ := done
  obtain ⟨rfl, accepts⟩ := checks_ok path between checked
  rcases compile_cases surroundings _ _ _ _ done with ⟨other, same, -⟩ | ⟨loaded, previous, loads, earlier, rest⟩
  · cases same
  obtain ⟨service, between, fetched, finished⟩ := (succeeds_bind _ _ _ _ _).mp rest
  obtain ⟨output, -, spares⟩ := retrieve_spares _ _ _ _ _ _ rooted fetched
  have fetches := retrieve_ok _ _ _ _ _ _ fetched
  have proper := ServiceFile.load_proper loads known (CompileOptions.overrides_proper _)
  obtain ⟨own, compiled, before, halves, graph, text, alone, reads, compiles, delivers, template⟩ :=
    finish_ok surroundings _ previous service between console output (spares.rooted rooted) (fetches.isProper proper) finished
  exact ⟨_, halves, graph, text, .intro loaded previous service between.files own graph compiled before ⟨accepts, loads, earlier⟩
    fetches alone reads compiles, delivers, template⟩

end Run

end Command

end FunctionStack
