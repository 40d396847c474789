import FunctionStack.Proofs.Template.Policy
import FunctionStack.Proofs.Value.Same

/-!
Statements that are added to a policy one after the other. The policy keeps what it holds already and takes, behind it, the first
occurrences of what equals none of that. Equality of values is an equivalence, so that the same additions in another order leave
as many statements, and each of them has an equal one.
-/

namespace FunctionStack

namespace Value

/-- Two values are equal exactly if they equal the same values. -/
theorem same_iff_eq {a b : Value} (proper : a.isProper = true) (regular : b.isProper = true) :
    a.same b = true ↔ a.same = b.same := by
  constructor
  · intro equal
    funext c
    rw [Bool.eq_iff_iff]
    exact ⟨same_trans (same_symm proper regular equal), same_trans equal⟩
  · intro classes
    rw [classes]
    exact same_refl b regular

theorem isIn_append (value : Value) (first second : List Value) :
    value.isIn (first ++ second) = (value.isIn first || value.isIn second) := List.any_append

/-- Values that differ from one another are no more than values among which each of them has an equal one. -/
theorem length_le_of_isIn {values others : List Value} (proper : ∀ value ∈ values, value.isProper = true)
    (regular : ∀ value ∈ others, value.isProper = true)
    (apart : values.Pairwise fun earlier later => later.same earlier = false)
    (covered : ∀ value ∈ values, value.isIn others = true) : values.length ≤ others.length := by
  have distinct : (values.map same).Nodup := by
    rw [List.Nodup, List.pairwise_map]
    refine apart.imp_of_mem fun {earlier later} one two differ classes => ?_
    rw [(same_iff_eq (proper later two) (proper earlier one)).mpr classes.symm] at differ
    cases differ
  have subset : values.map same ⊆ others.map same := by
    intro kind member
    obtain ⟨value, listed, rfl⟩ := List.mem_map.mp member
    obtain ⟨other, held, equal⟩ := List.any_eq_true.mp (covered value listed)
    exact List.mem_map.mpr ⟨other, held, ((same_iff_eq (proper value listed) (regular other held)).mp equal).symm⟩
  have bound := (List.subperm_of_subset distinct subset).length_le
  rwa [List.length_map, List.length_map] at bound

end Value

namespace Statements

/-- A list that takes a value holds it from then on, whether it was appended or not. -/
theorem add_isIn (known : List Value) (statement other : Value) :
    other.isIn (add known statement) = other.isIn (known ++ [statement]) := by
  unfold add
  split
  case isFalse => rfl
  case isTrue present =>
    rw [Value.isIn_append, Bool.eq_iff_iff, Bool.or_eq_true]
    constructor
    · exact Or.inl
    · rintro (before | own)
      · exact before
      · -- the statement itself is not in the list, but something that it equals is
        obtain ⟨found, held, equal⟩ := List.any_eq_true.mp present
        rw [Value.isIn, List.any_cons, List.any_nil, Bool.or_false] at own
        exact List.any_eq_true.mpr ⟨found, held, Value.same_trans own equal⟩

/-- Of each value whether it is new: whether it equals neither a known one nor one before it. -/
def news (known values : List Value) : List Bool :=
  values.mapIdx fun place value => !value.isIn (known ++ values.take place)

theorem news_cons (known : List Value) (value : Value) (rest : List Value) :
    news known (value :: rest) = (!value.isIn known) :: news (known ++ [value]) rest := by
  simp [news, List.mapIdx_cons]

theorem news_add (known : List Value) (value : Value) (rest : List Value) :
    news (add known value) rest = news (known ++ [value]) rest := by
  unfold news
  congr 1
  funext place other
  rw [Value.isIn_append, add_isIn, ← Value.isIn_append]

theorem firstOccurrences_news (known values : List Value) :
    firstOccurrences known values = ((values.zip (news known values)).filter Prod.snd).map Prod.fst := by
  induction values generalizing known with
  | nil => rfl
  | cons value rest ih =>
      rw [firstOccurrences, news_cons, List.zip_cons_cons]
      cases present : value.isIn known with
      | true =>
          have unchanged : news (known ++ [value]) rest = news known rest := by
            rw [← news_add, add, if_pos present]
          rw [unchanged, if_pos rfl, ih]
          rfl
      | false =>
          rw [if_neg Bool.false_ne_true, ih]
          rfl

/-- First occurrences are among the values and equal nothing that is known. -/
theorem firstOccurrences_mem (known values : List Value) :
    ∀ value ∈ firstOccurrences known values, value ∈ values ∧ value.isIn known = false := by
  induction values generalizing known with
  | nil => exact fun _ member => by cases member
  | cons first rest ih =>
      intro value member
      rw [firstOccurrences] at member
      split at member
      case isTrue =>
        obtain ⟨later, new⟩ := ih known value member
        exact ⟨List.mem_cons_of_mem _ later, new⟩
      case isFalse fresh =>
        rcases List.mem_cons.mp member with rfl | member
        · exact ⟨List.mem_cons_self .., Bool.eq_false_iff.mpr fresh⟩
        · obtain ⟨later, new⟩ := ih _ value member
          rw [Value.isIn_append, Bool.or_eq_false_iff] at new
          exact ⟨List.mem_cons_of_mem _ later, new.1⟩

theorem firstOccurrences_apart (known values : List Value) :
    (firstOccurrences known values).Pairwise fun earlier later => later.same earlier = false := by
  induction values generalizing known with
  | nil => exact .nil
  | cons first rest ih =>
      rw [firstOccurrences]
      split
      · exact ih known
      · refine .cons (fun later member => ?_) (ih _)
        have new := (firstOccurrences_mem _ rest later member).2
        rw [Value.isIn_append, Bool.or_eq_false_iff, Value.isIn, Value.isIn, List.any_cons, Bool.or_eq_false_iff] at new
        exact new.2.1

section

variable {known values others : List Value} (proper : ∀ value ∈ known ++ others, value.isProper = true)
  (subset : values ⊆ others)

include proper subset

/-- What some additions leave has equals in what these and more leave. -/
theorem foldl_add_subset : ∀ value ∈ values.foldl add known, value.isIn (others.foldl add known) = true := by
  obtain ⟨before, added⟩ := List.forall_mem_append.mp proper
  intro value member
  rcases mem_foldl_add known values value member with held | own
  · exact foldl_add_isIn known others value (List.any_eq_true.mpr ⟨value, held, Value.same_refl value (before value held)⟩)
  · exact foldl_add_added known others added value (subset own)

theorem firstOccurrences_length_le : (firstOccurrences known values).length ≤ (firstOccurrences known others).length := by
  have regular := (List.forall_mem_append.mp proper).2
  have covered : ∀ value ∈ firstOccurrences known values, value.isIn (firstOccurrences known others) = true := by
    intro value member
    obtain ⟨own, new⟩ := firstOccurrences_mem known values value member
    have held := foldl_add_added known others regular value (subset own)
    rw [foldl_add, Value.isIn_append, new, Bool.false_or] at held
    exact held
  refine Value.length_le_of_isIn ?_ ?_ (firstOccurrences_apart known values) covered
  · exact fun value member => regular value (subset (firstOccurrences_mem known values value member).1)
  · exact fun value member => regular value (firstOccurrences_mem known others value member).1

end

end Statements

namespace ExecutionPolicy

/-- Adds statements one after the other; tells of each whether it was appended. -/
def addEach (graph : Graph) (policy : ExecutionPolicy) : List Value → Result (Graph × ExecutionPolicy × List Bool)
  | [] => return (graph, policy, [])
  | statement :: rest => do
    let (graph, policy, added) ← policy.add graph statement
    let (graph, policy, others) ← addEach graph policy rest
    return (graph, policy, added :: others)

/-- A run of additions: each finds what those before it have left. -/
theorem addEach_listed (statements : List Value) (graph : Graph) (policy : ExecutionPolicy) (items : List Value)
    (listed : policy.statements graph = .arr items) :
    ∃ after left, policy.addEach graph statements = .ok (after, left, Statements.news items statements) ∧
      left.statements after = .arr (statements.foldl Statements.add items) := by
  induction statements generalizing graph policy items with
  | nil => exact ⟨graph, policy, rfl, listed⟩
  | cons statement rest ih =>
      obtain ⟨between, next, added, grown⟩ := add_listed graph policy items statement listed
      obtain ⟨after, left, others, final⟩ := ih between next _ grown
      refine ⟨after, left, ?_, final⟩
      simp only [addEach, Result.bind_ok, Result.pure_ok]
      refine ⟨_, added, _, others, ?_⟩
      rw [Statements.news_add, ← Statements.news_cons]

/-- Additions leave what the policy holds already, with equal statements in it or without, and append to it those that are new:
the first occurrences of statements that equal none of those. In another order they leave as many statements, and the statements
of either list have equals in the other one. -/
theorem addEach_firsts (graph : Graph) (policy : ExecutionPolicy) (initial statements : List Value)
    (listed : policy.statements graph = .arr initial)
    (proper : ∀ statement ∈ initial ++ statements, statement.isProper = true) :
    ∃ after left answers appended, policy.addEach graph statements = .ok (after, left, answers) ∧
      left.statements after = .arr (initial ++ appended) ∧
      answers = Statements.news initial statements ∧
      appended = ((statements.zip answers).filter Prod.snd).map Prod.fst ∧
      ∀ order : List Value, order.Perm statements →
        ∃ last next told others, policy.addEach graph order = .ok (last, next, told) ∧
          next.statements last = .arr (initial ++ others) ∧
          (initial ++ others).length = (initial ++ appended).length ∧
          (∀ statement ∈ initial ++ appended, statement.isIn (initial ++ others) = true) ∧
          ∀ statement ∈ initial ++ others, statement.isIn (initial ++ appended) = true := by
  obtain ⟨after, left, added, grown⟩ := addEach_listed statements graph policy initial listed
  rw [Statements.foldl_add] at grown
  refine ⟨after, left, _, _, added, grown, rfl, Statements.firstOccurrences_news initial statements, ?_⟩
  intro order permuted
  have regular : ∀ statement ∈ initial ++ order, statement.isProper = true := fun statement member =>
    proper statement ((permuted.append_left initial).mem_iff.mp member)
  obtain ⟨last, next, told, held⟩ := addEach_listed order graph policy initial listed
  rw [Statements.foldl_add] at held
  refine ⟨last, next, _, _, told, held, ?_, ?_, ?_⟩
  · rw [List.length_append, List.length_append, Nat.add_left_cancel_iff]
    exact le_antisymm (Statements.firstOccurrences_length_le proper permuted.subset)
      (Statements.firstOccurrences_length_le regular permuted.symm.subset)
  · rw [← Statements.foldl_add, ← Statements.foldl_add]
    exact Statements.foldl_add_subset regular permuted.symm.subset
  · rw [← Statements.foldl_add, ← Statements.foldl_add]
    exact Statements.foldl_add_subset proper permuted.subset

/-- A statement with a condition, and its keys in either order. -/
def limited (condition : Value) : Value := .obj [("Effect", .str "Allow"), ("Condition", condition)]

def turned (condition : Value) : Value := .obj [("Condition", condition), ("Effect", .str "Allow")]

/-- One statement twice, for one is a number of several kinds. -/
def doubled : List Value := [limited (.int 1), turned (.float (.finite false (2 ^ 52) 1022))]

/-- Numbers count as truth values within lists as well. -/
def repeated : List Value := [limited (.bool true), turned (.arr [.int 0]), limited (.arr [.bool false]), limited (.int 2)]

/-- Two of the additions are new, and what is there twice stays there twice. -/
theorem addEach_repeated :
    (apart (.arr doubled)).statements .empty = .arr doubled ∧
      (∀ statement ∈ doubled ++ repeated, statement.isProper = true) ∧
      ∃ after left, (apart (.arr doubled)).addEach .empty repeated = .ok (after, left, [false, true, false, true]) ∧
        left.statements after = .arr (doubled ++ [turned (.arr [.int 0]), limited (.int 2)]) := by
  have proper : ∀ statement ∈ doubled ++ repeated, statement.isProper = true := by decide +kernel
  have news : Statements.news doubled repeated = [false, true, false, true] := by decide +kernel
  refine ⟨rfl, proper, ?_⟩
  obtain ⟨after, left, answers, appended, added, grown, rfl, rfl, -⟩ :=
    addEach_firsts .empty (.apart (.arr doubled)) doubled repeated rfl proper
  rw [news] at added grown
  exact ⟨after, left, added, grown⟩

end ExecutionPolicy

end FunctionStack
