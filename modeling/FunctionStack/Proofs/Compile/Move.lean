import FunctionStack.Proofs.Compile.Effect

/-!
A compilation as one move after another: it asks for a statement of the policy, places a resource or exposes an output.
What the moves of a list come to is told by the list, and so is what they need in order to succeed.
-/

namespace FunctionStack

open Build (Yields)

inductive Move where
  | allow (statement : Value)
  | send (function : String) (destination : Destination)
  | place (id : String) (resource : Resource)
  | expose (id : String) (value : Value) (description : String)

namespace Move

def perform : Move → Build Unit
  | allow statement => do
    let _ ← Build.grant statement
    return ()
  | send function destination => do
    let _ ← Build.grantDestination function destination
    return ()
  | place id resource => Build.addResource id resource
  | expose id value description => Build.addOutput id value description

def placed : Move → Table Resource
  | place id resource => [(id, resource)]
  | _ => []

def exposed : Move → Fields
  | expose id value description => [(id, .obj [("Description", .str description), ("Value", value)])]
  | _ => []

/-- What a move asks the policy for: a destination is asked for once, whoever remembers the grant. -/
def request (granted : List (String × String)) : Move → List Value
  | allow statement => [statement]
  | send function destination =>
    if granted.contains (function, destination.key) then [] else [sendPermission function destination]
  | _ => []

def remembered (granted : List (String × String)) : Move → List (String × String)
  | send function destination =>
    if granted.contains (function, destination.key) then granted else granted ++ [(function, destination.key)]
  | _ => granted

def asked (granted : List (String × String)) : List Move → List Value
  | [] => []
  | move :: rest => move.request granted ++ asked (move.remembered granted) rest

/-- What a move asks for when nothing is granted yet. -/
inductive Asks : Move → Value → Prop
  | allow (statement : Value) : Asks (.allow statement) statement
  | send (function : String) (destination : Destination) :
      Asks (.send function destination) (sendPermission function destination)

theorem asked_mem (granted : List (String × String)) (moves : List Move) (statement : Value)
    (member : statement ∈ asked granted moves) : ∃ move ∈ moves, move.Asks statement := by
  induction moves generalizing granted with
  | nil => cases member
  | cons move rest ih =>
      rcases List.mem_append.mp member with own | others
      · refine ⟨move, List.mem_cons_self .., ?_⟩
        cases move with
        | allow other =>
            rw [List.mem_singleton.mp own]
            exact .allow other
        | send function destination =>
            rw [request] at own
            split at own
            · cases own
            · rw [List.mem_singleton.mp own]
              exact .send function destination
        | _ => cases own
      · obtain ⟨other, listed, asks⟩ := ih _ others
        exact ⟨other, List.mem_cons_of_mem _ listed, asks⟩

/-- What a move asks for is proper, and so is the pointer in it. -/
structure Proper (move : Move) : Prop where
  statement : ∀ statement, move.Asks statement → statement.isProper = true
  pointer : ∀ function destination, move = .send function destination → destination.pointer.isProper = true

/-- Whatever some move asks for is in the list of statements in the end, whoever has asked for it. -/
theorem asked_covers (granted : List (String × String)) (moves : List Move) (known : List Value)
    (proper : ∀ move ∈ moves, move.Proper)
    (held : ∀ function key, (function, key) ∈ granted → ∃ destination : Destination,
      destination.pointer.isProper = true ∧ destination.key = key ∧
        (sendPermission function destination).isIn known = true) :
    ∀ move ∈ moves, ∀ statement, move.Asks statement →
      statement.isIn ((asked granted moves).foldl Statements.add known) = true := by
  induction moves generalizing granted known with
  | nil => exact fun _ member => by cases member
  | cons move rest ih =>
      obtain ⟨regular, others⟩ := List.forall_mem_cons.mp proper
      rw [asked, List.foldl_append]
      have here (statement : Value) (asks : move.Asks statement) :
          statement.isIn ((move.request granted).foldl Statements.add known) = true := by
        cases asks with
        | allow => exact Statements.isIn_added known statement (regular.statement _ (.allow statement))
        | send function destination =>
            rw [request]
            split
            case isTrue granting =>
              obtain ⟨other, pointer, same, present⟩ := held function destination.key (by simpa using granting)
              have own := regular.pointer function destination rfl
              exact Statements.isIn_sorted known _ _
                (Blueprint.sendPermission_sorted function other destination pointer own same) present
            case isFalse => exact Statements.isIn_added known _ (regular.statement _ (.send function destination))
      have later (function key : String) (member : (function, key) ∈ move.remembered granted) :
          ∃ destination : Destination, destination.pointer.isProper = true ∧ destination.key = key ∧
            (sendPermission function destination).isIn ((move.request granted).foldl Statements.add known) = true := by
        have before (member : (function, key) ∈ granted) : ∃ destination : Destination,
            destination.pointer.isProper = true ∧ destination.key = key ∧
              (sendPermission function destination).isIn ((move.request granted).foldl Statements.add known) = true := by
          obtain ⟨destination, pointer, same, present⟩ := held function key member
          exact ⟨destination, pointer, same, Statements.foldl_add_isIn known _ _ present⟩
        cases move with
        | send own destination =>
            rw [remembered] at member
            split at member
            · exact before member
            · rcases List.mem_append.mp member with member | new
              · exact before member
              · obtain ⟨rfl, rfl⟩ := Prod.mk.inj (List.mem_singleton.mp new)
                exact ⟨destination, regular.pointer _ destination rfl, rfl, here _ (.send function destination)⟩
        | _ => exact before member
      refine List.forall_mem_cons.mpr ⟨fun statement asks => ?_, ih _ _ others later⟩
      exact Statements.foldl_add_isIn _ _ _ (here statement asks)

/-- A move that leaves the place of the default role alone and asks for a table if for anything. -/
structure Regular (move : Move) : Prop where
  spares : ∀ id resource, (id, resource) ∈ move.placed → id ≠ defaultExecutionRole
  table : ∀ statement, move = .allow statement → ∃ fields, statement = .obj fields

end Move

namespace Build

def performAll : List Move → Build Unit
  | [] => return ()
  | move :: rest => do
    move.perform
    performAll rest

theorem yields_discard {α : Type} (step : Build α) (w left : Workspace) :
    Yields (do let _ ← step; return ()) w () left ↔ ∃ a, Yields step w a left := by
  rw [yields_bind]
  constructor
  · rintro ⟨a, between, first, last⟩
    obtain ⟨_, rfl⟩ := (yields_pure _ _ _ _).mp last
    exact ⟨a, first⟩
  · rintro ⟨a, first⟩
    exact ⟨a, left, first, (yields_pure _ _ _ _).mpr ⟨rfl, rfl⟩⟩

theorem yields_then {α : Type} (step : Build Unit) (next : Build α) (w left : Workspace) (a : α) :
    Yields (do step; next) w a left ↔ ∃ between, Yields step w () between ∧ Yields next between a left := by
  rw [yields_bind]
  constructor
  · rintro ⟨⟨⟩, between, first, last⟩
    exact ⟨between, first, last⟩
  · rintro ⟨between, first, last⟩
    exact ⟨(), between, first, last⟩

theorem yields_performAll_nil (w left : Workspace) : Yields (performAll []) w () left ↔ w = left := by
  simp [performAll]

theorem yields_performAll_cons (move : Move) (rest : List Move) (w left : Workspace) :
    Yields (performAll (move :: rest)) w () left ↔
      ∃ between, Yields move.perform w () between ∧ Yields (performAll rest) between () left :=
  yields_then move.perform (performAll rest) w left ()

theorem yields_performAll_append (first second : List Move) (w left : Workspace) :
    Yields (performAll (first ++ second)) w () left ↔
      ∃ between, Yields (performAll first) w () between ∧ Yields (performAll second) between () left := by
  induction first generalizing w with
  | nil => simp [yields_performAll_nil]
  | cons move rest ih =>
      simp only [List.cons_append, yields_performAll_cons, ih]
      constructor
      · rintro ⟨next, one, between, others, last⟩
        exact ⟨between, ⟨next, one, others⟩, last⟩
      · rintro ⟨between, ⟨next, one, others⟩, last⟩
        exact ⟨next, one, between, others, last⟩

theorem yields_performAll_single (move : Move) (w left : Workspace) :
    Yields (performAll [move]) w () left ↔ Yields move.perform w () left := by
  simp [yields_performAll_cons, yields_performAll_nil]

end Build

/-- A workspace after some moves. -/
structure Performed (w left : Workspace) (moves : List Move) : Prop where
  grows : w.graph.Grows left.graph (moves.flatMap Move.placed)
  answered : Answered w left (Move.asked w.granted moves)
  outputs : left.graph.outputs = w.graph.outputs.merged (moves.flatMap Move.exposed)
  registry : left.registry = w.registry
  compiled : left.compiled = w.compiled

namespace Performed

theorem nil (w : Workspace) : Performed w w [] :=
  ⟨.refl _, .idle (Or.inr rfl) rfl rfl, (Value.merged_nil _).symm, rfl, rfl⟩

/-- Without a policy there is no difference what has been asked for. -/
theorem unanswered {w left : Workspace} {asked : List Value} (none : w.policy = none)
    (answered : Answered w left asked) (other : List Value) : Answered w left other := by
  cases answered with
  | idle _ policy role => exact .idle (Or.inl none) policy role
  | apart _ before => simp [none] at before
  | inRole _ _ _ before => simp [none] at before

theorem cons {w between left : Workspace} {move : Move} {rest : List Move} (regular : move.Regular)
    (one : Performed w between [move]) (known : w.policy ≠ none → between.granted = move.remembered w.granted)
    (others : Performed between left rest) : Performed w left (move :: rest) where
  grows := by
    have grown := one.grows.trans others.grows
    simp only [List.flatMap_cons, List.flatMap_nil, List.append_nil] at grown ⊢
    exact grown regular.spares
  answered := by
    by_cases none : w.policy = none
    · exact unanswered none (one.answered.trans others.answered) _
    · have whole := one.answered.trans others.answered
      rwa [known none, Move.asked, Move.asked, List.append_nil] at whole
  outputs := by
    rw [others.outputs, one.outputs, Value.merged_append]
    simp
  registry := others.registry.trans one.registry
  compiled := others.compiled.trans one.compiled

end Performed

theorem Move.perform_ok (move : Move) (regular : move.Regular) (w left : Workspace)
    (performed : Yields move.perform w () left) :
    Performed w left [move] ∧ (w.policy ≠ none → left.granted = move.remembered w.granted) := by
  cases move with
  | allow statement =>
      obtain ⟨fields, rfl⟩ := regular.table statement rfl
      obtain ⟨added, granted⟩ := (Build.yields_discard _ _ _).mp performed
      obtain ⟨grows, outputs, known⟩ := Build.grant_grows fields w left added granted
      obtain ⟨registry, compiled⟩ := Build.grant_aside _ w left added granted
      exact ⟨⟨grows, Build.grant_answered fields w left added granted, outputs.trans (Value.merged_nil _).symm, registry,
        compiled⟩, fun _ => known⟩
  | send function destination =>
      obtain ⟨added, granted⟩ := (Build.yields_discard _ _ _).mp performed
      rcases (Build.grantDestination_iff function destination w left added).mp granted with
        ⟨none, _, rfl⟩ | ⟨_, known, _, rfl⟩ | ⟨_, fresh, granted⟩
      · exact ⟨{ Performed.nil _ with answered := .idle (Or.inl none) rfl rfl }, fun bound => absurd none bound⟩
      · refine ⟨{ Performed.nil _ with answered := .idle (Or.inr ?_) rfl rfl }, fun _ => ?_⟩
        · rw [asked, request, if_pos known]
          rfl
        · rw [remembered, if_pos known]
      · obtain ⟨grows, outputs, recorded⟩ := Build.grant_grows _ _ left added granted
        obtain ⟨registry, compiled⟩ := Build.grant_aside _ _ left added granted
        refine ⟨⟨grows, ?_, outputs.trans (Value.merged_nil _).symm, registry, compiled⟩, fun _ => ?_⟩
        · rw [asked, request, fresh]
          exact (Build.grant_answered _ _ left added granted).congr rfl rfl rfl rfl
        · rw [recorded, remembered, fresh]
          rfl
  | place id resource =>
      obtain ⟨graph, added, rfl⟩ := (Build.yields_addResource _ _ _ _ _).mp performed
      have grows := Graph.add_grows w.graph graph id resource added
      refine ⟨⟨grows, .idle (Or.inr rfl) rfl ?_, ?_, rfl, rfl⟩, fun _ => rfl⟩
      · exact Graph.add_elsewhere w.graph graph id _ resource added (regular.spares id resource (List.mem_singleton.mpr rfl))
      · rw [Graph.add_outputs w.graph graph id resource added]
        exact (Value.merged_nil _).symm
  | expose id value description =>
      obtain ⟨graph, added, rfl⟩ := (Build.yields_addOutput _ _ _ _ _ _).mp performed
      have same := Graph.addOutput_ok w.graph graph id description value added
      refine ⟨⟨(Graph.Grows.refl w.graph).resources same, .idle (Or.inr rfl) rfl ?_, ?_, rfl, rfl⟩, fun _ => rfl⟩
      · rw [Graph.find?, same, Graph.find?]
      · exact Graph.addOutput_merged w.graph graph id description value added

theorem Build.performAll_ok (moves : List Move) (regular : ∀ move ∈ moves, move.Regular) (w left : Workspace)
    (performed : Yields (performAll moves) w () left) : Performed w left moves := by
  induction moves generalizing w with
  | nil =>
      rw [(yields_performAll_nil _ _).mp performed]
      exact .nil left
  | cons move rest ih =>
      obtain ⟨between, first, others⟩ := (yields_performAll_cons _ _ _ _).mp performed
      obtain ⟨one, known⟩ := move.perform_ok (regular move (List.mem_cons_self ..)) w between first
      have last := ih (fun other member => regular other (List.mem_cons_of_mem _ member)) between others
      exact .cons (regular move (List.mem_cons_self ..)) one known last

/-- Outputs can only be exposed in a table of outputs. -/
theorem Build.performAll_exposes (moves : List Move) (regular : ∀ move ∈ moves, move.Regular) (w left : Workspace)
    (performed : Yields (performAll moves) w () left) (id description : String) (value : Value)
    (exposed : Move.expose id value description ∈ moves) : ∃ outputs, w.graph.outputs = .obj outputs := by
  induction moves generalizing w with
  | nil => cases exposed
  | cons move rest ih =>
      obtain ⟨between, first, others⟩ := (yields_performAll_cons _ _ _ _).mp performed
      rcases List.mem_cons.mp exposed with rfl | later
      · obtain ⟨graph, added, _⟩ := (Build.yields_addOutput _ _ _ _ _ _).mp first
        unfold Graph.addOutput at added
        split at added
        case h_1 outputs held => exact ⟨outputs, held⟩
        case h_2 => cases added
      · obtain ⟨outputs, held⟩ := ih (fun other member => regular other (List.mem_cons_of_mem _ member)) between others later
        have one := (move.perform_ok (regular move (List.mem_cons_self ..)) w between first).1
        rw [one.outputs] at held
        exact Value.merged_obj _ _ _ held

section Aside

variable (session : RegistrySession) (compiled : List CompiledFunction)

theorem Move.perform_aside (move : Move) (w left : Workspace) (performed : Yields move.perform w () left) :
    Yields move.perform (w.aside session compiled) () (left.aside session compiled) := by
  cases move with
  | allow statement =>
      obtain ⟨added, granted⟩ := (Build.yields_discard _ _ _).mp performed
      exact (Build.yields_discard _ _ _).mpr ⟨added, Build.grant_apart session compiled _ _ _ added granted⟩
  | send function destination =>
      obtain ⟨added, granted⟩ := (Build.yields_discard _ _ _).mp performed
      refine (Build.yields_discard _ _ _).mpr ⟨added, ?_⟩
      rw [Build.grantDestination_iff] at granted ⊢
      rcases granted with ⟨none, rfl, rfl⟩ | ⟨bound, known, rfl, rfl⟩ | ⟨bound, fresh, granted⟩
      · exact Or.inl ⟨none, rfl, rfl⟩
      · exact Or.inr (Or.inl ⟨bound, known, rfl, rfl⟩)
      · exact Or.inr (Or.inr ⟨bound, fresh, Build.grant_apart session compiled _ _ _ added granted⟩)
  | place id resource =>
      obtain ⟨graph, added, rfl⟩ := (Build.yields_addResource _ _ _ _ _).mp performed
      exact (Build.yields_addResource _ _ _ _ _).mpr ⟨graph, added, rfl⟩
  | expose id value description =>
      obtain ⟨graph, added, rfl⟩ := (Build.yields_addOutput _ _ _ _ _ _).mp performed
      exact (Build.yields_addOutput _ _ _ _ _ _).mpr ⟨graph, added, rfl⟩

theorem Build.performAll_aside (moves : List Move) (w left : Workspace) (performed : Yields (performAll moves) w () left) :
    Yields (performAll moves) (w.aside session compiled) () (left.aside session compiled) := by
  induction moves generalizing w with
  | nil =>
      rw [(yields_performAll_nil _ _).mp performed]
      exact (yields_performAll_nil _ _).mpr rfl
  | cons move rest ih =>
      obtain ⟨between, first, others⟩ := (yields_performAll_cons _ _ _ _).mp performed
      exact (yields_performAll_cons _ _ _ _).mpr ⟨_, move.perform_aside session compiled w between first, ih between others⟩

end Aside

/-- What moves need in order to succeed: a policy that takes what they ask for, a table of outputs if they expose any, and
under each id at most one resource. -/
structure Performable (w : Workspace) (moves : List Move) : Prop where
  answerable : w.TakesStatements ∨ Move.asked w.granted moves = []
  outputs : ∀ id value description, .expose id value description ∈ moves → ∃ outputs, w.graph.outputs = .obj outputs
  fits : ∀ id resource, (id, resource) ∈ moves.flatMap Move.placed →
    ∀ held, Table.find? (w.graph.resources ++ moves.flatMap Move.placed) id = some held → held.same resource = true

theorem Move.perform_succeeds (move : Move) (rest : List Move) (w : Workspace)
    (performable : Performable w (move :: rest)) : ∃ left, Yields move.perform w () left := by
  cases move with
  | allow statement =>
      have takes : w.TakesStatements := performable.answerable.resolve_right (by simp [asked, request])
      obtain ⟨added, left, granted⟩ := Build.grant_succeeds statement w takes
      exact ⟨left, (Build.yields_discard _ _ _).mpr ⟨added, granted⟩⟩
  | send function destination =>
      rcases performable.answerable with takes | nothing
      · obtain ⟨added, left, granted⟩ := Build.grantDestination_succeeds function destination w takes
        exact ⟨left, (Build.yields_discard _ _ _).mpr ⟨added, granted⟩⟩
      · have known : w.granted.contains (function, destination.key) = true := by
          by_contra fresh
          rw [asked, request, if_neg fresh] at nothing
          simp at nothing
        refine ⟨w, (Build.yields_discard _ _ _).mpr ⟨false, (Build.grantDestination_iff _ _ _ _ _).mpr ?_⟩⟩
        by_cases unbound : w.policy = none
        · exact Or.inl ⟨unbound, rfl, rfl⟩
        · exact Or.inr (Or.inl ⟨unbound, known, rfl, rfl⟩)
  | place id resource =>
      have fits (held : Resource) (found : w.graph.find? id = some held) : held.same resource = true := by
        refine performable.fits id resource (List.mem_append_left _ (List.mem_singleton.mpr rfl)) held ?_
        rw [Table.find?_append, show Table.find? w.graph.resources id = some held from found, Option.some_or]
      obtain ⟨after, added⟩ := w.graph.add_succeeds id resource fits
      exact ⟨{ w with graph := after }, (Build.yields_addResource _ _ _ _ _).mpr ⟨after, added, rfl⟩⟩
  | expose id value description =>
      obtain ⟨outputs, held⟩ := performable.outputs id value description (List.mem_cons_self ..)
      have added : ∃ after, w.graph.addOutput id value description = .ok after := by
        rw [Graph.addOutput, held]
        exact ⟨_, rfl⟩
      obtain ⟨after, added⟩ := added
      exact ⟨{ w with graph := after }, (Build.yields_addOutput _ _ _ _ _ _).mpr ⟨after, added, rfl⟩⟩

theorem Performable.rest {w between : Workspace} {move : Move} {rest : List Move} (regular : ∀ other ∈ rest, other.Regular)
    (performable : Performable w (move :: rest)) (one : Performed w between [move])
    (known : w.policy ≠ none → between.granted = move.remembered w.granted) : Performable between rest where
  answerable := by
    rcases performable.answerable with takes | nothing
    · exact Or.inl (one.answered.takesStatements takes)
    · by_cases none : w.policy = none
      · exact Or.inl (one.answered.takesStatements (Or.inl none))
      · rw [known none]
        exact Or.inr (List.append_eq_nil_iff.mp nothing).2
  outputs := by
    intro id value description member
    obtain ⟨outputs, held⟩ := performable.outputs id value description (List.mem_cons_of_mem _ member)
    rw [one.outputs, held]
    exact ⟨_, rfl⟩
  fits := by
    intro id resource member held found
    obtain ⟨other, listed, placed⟩ := List.mem_flatMap.mp member
    have apart := (regular other listed).spares id resource placed
    refine performable.fits id resource (List.mem_append_right _ member) held ?_
    have lookup := one.grows.lookup id apart
    rw [List.flatMap_cons, List.flatMap_nil, List.append_nil, Graph.find?] at lookup
    rw [Table.find?_append, lookup] at found
    rw [List.flatMap_cons, ← List.append_assoc, Table.find?_append, found]

theorem Build.performAll_succeeds (moves : List Move) (regular : ∀ move ∈ moves, move.Regular) (w : Workspace)
    (performable : Performable w moves) : ∃ left, Yields (performAll moves) w () left := by
  induction moves generalizing w with
  | nil => exact ⟨w, (yields_performAll_nil _ _).mpr rfl⟩
  | cons move rest ih =>
      obtain ⟨between, first⟩ := move.perform_succeeds rest w performable
      obtain ⟨one, known⟩ := move.perform_ok (regular move (List.mem_cons_self ..)) w between first
      have others := fun other member => regular other (List.mem_cons_of_mem _ member)
      obtain ⟨left, last⟩ := ih others between (performable.rest others one known)
      exact ⟨left, (yields_performAll_cons _ _ _ _).mpr ⟨between, first, last⟩⟩

end FunctionStack
