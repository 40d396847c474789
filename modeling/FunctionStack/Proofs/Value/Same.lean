import FunctionStack.Proofs.Number.ReadBack
import FunctionStack.Proofs.Value.Alike

/-!
What equal values have in common. Numbers of all kinds are equal if they stand for one quantity; a table that equals another
one has just its keys.
-/

namespace FunctionStack.Value

theorem same_str {text : String} {value : Value} (equal : (Value.str text).same value = true) : value = .str text := by
  cases value <;> simp_all [same]

theorem str_same {text : String} {value : Value} (equal : value.same (.str text) = true) : value = .str text := by
  cases value <;> simp_all [same]

theorem same_arr {items : List Value} {value : Value} (equal : (Value.arr items).same value = true) :
    ∃ others, value = .arr others ∧ List.Forall₂ (fun a b => a.same b = true) items others := by
  cases value with
  | arr others =>
      rw [same, sameItems_forall] at equal
      exact ⟨others, rfl, equal⟩
  | _ => simp [same] at equal

theorem same_field? {a b part : Value} (equal : a.same b = true) (key : String) (found : a.field? key = some part) :
    ∃ other, b.field? key = some other ∧ part.same other = true := by
  cases a with
  | obj fields =>
      cases b with
      | obj others =>
          rw [same, Bool.and_eq_true, sameFields_iff] at equal
          exact equal.2 key part (Table.find?_some_mem fields key part found)
      | _ => simp [same] at equal
  | _ => cases found

theorem field?_isProper {value part : Value} (proper : value.isProper = true) (key : String)
    (found : value.field? key = some part) : part.isProper = true := by
  cases value with
  | obj fields => exact ((obj_isProper fields).mp proper).2 key part (Table.find?_some_mem fields key part found)
  | _ => cases found

/-- A table has all the keys of a table that it equals. -/
theorem field?_same {a b part : Value} (proper : a.isProper = true) (equal : a.same b = true) (key : String)
    (found : b.field? key = some part) : ∃ other, a.field? key = some other ∧ other.same part = true := by
  cases b with
  | obj others =>
      cases a with
      | obj fields =>
          have each := equal
          rw [same, Bool.and_eq_true, decide_eq_true_eq, sameFields_iff] at each
          have subset : fields.map Prod.fst ⊆ others.map Prod.fst := by
            intro known member
            obtain ⟨⟨_, value⟩, listed, rfl⟩ := List.mem_map.mp member
            obtain ⟨target, inside, _⟩ := each.2 _ value listed
            exact List.mem_map.mpr ⟨_, Table.find?_some_mem others _ target inside, rfl⟩
          have member := keys_all fields others ((obj_isProper fields).mp proper).1 each.1 subset key
            (List.mem_map.mpr ⟨_, Table.find?_some_mem others key part found, rfl⟩)
          obtain ⟨other, held⟩ := Option.isSome_iff_exists.mp ((Table.has_iff_mem fields key).mpr
            (by obtain ⟨⟨_, value⟩, listed, rfl⟩ := List.mem_map.mp member; exact ⟨value, listed⟩))
          obtain ⟨target, present, alike⟩ := same_field? equal key held
          rw [found] at present
          cases present
          exact ⟨other, held, alike⟩
      | _ => simp [same] at equal
  | _ => cases found

theorem same_single {key : String} {part value : Value} (equal : value.same (.obj [(key, part)]) = true) :
    ∃ own, value = .obj [(key, own)] ∧ own.same part = true := by
  cases value with
  | obj fields =>
      rw [same, Bool.and_eq_true, decide_eq_true_eq, sameFields_iff] at equal
      obtain ⟨⟨known, own⟩, rfl⟩ := List.length_eq_one_iff.mp equal.1
      obtain ⟨found, held, alike⟩ := equal.2 known own (List.mem_singleton.mpr rfl)
      have entry := Table.find?_some_mem [(key, part)] known found held
      rw [List.mem_singleton, Prod.mk.injEq] at entry
      obtain ⟨rfl, rfl⟩ := entry
      exact ⟨own, rfl, alike⟩
  | _ => simp [same] at equal

theorem single_same {key : String} {part value : Value} (equal : (Value.obj [(key, part)]).same value = true) :
    ∃ other, value = .obj [(key, other)] ∧ part.same other = true := by
  cases value with
  | obj fields =>
      obtain ⟨other, found, alike⟩ := same_field? equal key (Table.find?_cons [] key key part ▸ if_pos rfl)
      rw [same, Bool.and_eq_true, decide_eq_true_eq] at equal
      obtain ⟨⟨known, own⟩, rfl⟩ := List.length_eq_one_iff.mp equal.1.symm
      have entry := Table.find?_some_mem [(known, own)] key other found
      rw [List.mem_singleton, Prod.mk.injEq] at entry
      obtain ⟨rfl, rfl⟩ := entry
      exact ⟨other, rfl, alike⟩
  | _ => simp [same] at equal

/-- Values without numbers and with one key in each table; nothing else equals them. -/
inductive Rigid : Value → Prop
  | str (text : String) : Rigid (.str text)
  | arr (items : List Value) (each : ∀ item ∈ items, Rigid item) : Rigid (.arr items)
  | single (key : String) (part : Value) (inner : Rigid part) : Rigid (.obj [(key, part)])

theorem Rigid.eq_of_same {rigid : Value} (is : Rigid rigid) (value : Value) (equal : value.same rigid = true) :
    value = rigid := by
  induction is generalizing value with
  | str text => exact str_same equal
  | arr items each ih =>
      clear each
      cases value with
      | arr own =>
          rw [same, sameItems_forall] at equal
          rw [Value.arr.injEq]
          induction equal with
          | nil => rfl
          | cons head _ tail =>
              obtain ⟨here, later⟩ := List.forall_mem_cons.mp ih
              rw [here _ head, tail later]
      | _ => simp [same] at equal
  | single key part _ ih =>
      obtain ⟨own, rfl, alike⟩ := same_single equal
      rw [ih own alike]

theorem Rigid.pair {first second : Value} (one : Rigid first) (two : Rigid second) : Rigid (.arr [first, second]) :=
  .arr _ (List.forall_mem_cons.mpr ⟨one, List.forall_mem_singleton.mpr two⟩)

/-- The number a value stands for, in units of the smallest positive one. -/
def quantity? : Value → Option Int
  | .bool truth => some ((if truth then 1 else 0) * (Double.unitsPerOne : Int))
  | .int number => some (number * (Double.unitsPerOne : Int))
  | .float number => number.units?
  | _ => none

theorem equals_units (a b : Double) (units : Int) (known : a.units? = some units) :
    a.equals b = true ↔ b.units? = some units := by
  cases a with
  | finite negative significand scale =>
      cases known
      cases b with
      | finite => exact decide_eq_true_iff.trans (eq_comm.trans (Option.some.injEq _ _).symm.to_iff)
      | _ => exact iff_of_false Bool.false_ne_true (Option.some_ne_none _).symm
  | _ => cases known

theorem same_quantity (a b : Value) (quantity : Int) (number : a.quantity? = some quantity) :
    a.same b = true ↔ b.quantity? = some quantity := by
  have whole (m n : Int) : m = n ↔ some (n * (Double.unitsPerOne : Int)) = some (m * (Double.unitsPerOne : Int)) := by
    have units : (Double.unitsPerOne : Int) ≠ 0 := by exact_mod_cast Double.unitsPerOne_pos.ne'
    rw [Option.some.injEq, mul_left_inj' units, eq_comm]
  cases a with
  | bool truth =>
      cases number
      cases b with
      | bool other =>
          rw [same, quantity?, ← whole]
          cases truth <;> cases other <;> decide
      | int other => exact decide_eq_true_iff.trans (whole _ _)
      | float other => exact decide_eq_true_iff
      | _ => exact iff_of_false Bool.false_ne_true (Option.some_ne_none _).symm
  | int own =>
      cases number
      cases b with
      | bool other => exact decide_eq_true_iff.trans (whole _ _)
      | int other => exact decide_eq_true_iff.trans (whole _ _)
      | float other => exact decide_eq_true_iff
      | _ => exact iff_of_false Bool.false_ne_true (Option.some_ne_none _).symm
  | float own =>
      have known : own.units? = some quantity := number
      cases b with
      | float other => exact equals_units own other quantity known
      | bool other => rw [same, quantity?, Double.equalsInt, known, decide_eq_true_eq, eq_comm]
      | int other => rw [same, quantity?, Double.equalsInt, known, decide_eq_true_eq, eq_comm]
      | _ => exact iff_of_false Bool.false_ne_true (Option.some_ne_none _).symm
  | _ => cases number

/-- A float that stands for no number equals itself only. -/
theorem same_unbounded (own : Double) (value : Value) (equal : (Value.float own).same value = true)
    (unbounded : own.units? = none) : value = .float own := by
  cases value with
  | float other =>
      rw [same] at equal
      cases own <;> cases other <;> simp_all [Double.equals, Double.units?]
  | bool truth => exact absurd (unbounded.symm.trans (of_decide_eq_true equal)) (Option.some_ne_none _).symm
  | int number => exact absurd (unbounded.symm.trans (of_decide_eq_true equal)) (Option.some_ne_none _).symm
  | _ => cases equal

theorem forall₂_chain {related : Value → Value → Prop} {first second third : List Value}
    (trans : ∀ a ∈ first, ∀ b c, related a b → related b c → related a c) (one : List.Forall₂ related first second)
    (two : List.Forall₂ related second third) : List.Forall₂ related first third := by
  induction one generalizing third with
  | nil => exact two
  | cons head _ tail =>
      cases two with
      | cons next rest =>
          obtain ⟨here, later⟩ := List.forall_mem_cons.mp trans
          exact .cons (here _ _ head next) (tail later rest)

/-- Whatever equals something equal is equal. -/
theorem same_trans {a b c : Value} (one : a.same b = true) (two : b.same c = true) : a.same c = true := by
  have numbers (a b c : Value) (quantity : Int) (number : a.quantity? = some quantity) (one : a.same b = true)
      (two : b.same c = true) : a.same c = true := by
    rw [same_quantity a b quantity number] at one
    rw [same_quantity b c quantity one] at two
    rwa [same_quantity a c quantity number]
  induction a using nested generalizing b c with
  | null =>
      cases b with
      | null => exact two
      | _ => cases one
  | bool truth => exact numbers _ b c _ rfl one two
  | int number => exact numbers _ b c _ rfl one two
  | float own =>
      cases units : own.units? with
      | some quantity => exact numbers _ b c quantity units one two
      | none =>
          rw [same_unbounded own b one units] at two
          exact two
  | str text =>
      rw [same_str one] at two
      exact two
  | arr items ih =>
      obtain ⟨others, rfl, first⟩ := same_arr one
      obtain ⟨last, rfl, second⟩ := same_arr two
      rw [same, sameItems_forall]
      exact forall₂_chain (fun item member _ _ => ih item member) first second
  | obj fields ih =>
      cases b with
      | obj others =>
          cases c with
          | obj last =>
              rw [same, Bool.and_eq_true, decide_eq_true_eq, sameFields_iff] at one two ⊢
              refine ⟨one.1.trans two.1, fun key value member => ?_⟩
              obtain ⟨found, present, first⟩ := one.2 key value member
              obtain ⟨other, held, second⟩ := two.2 key found (Table.find?_some_mem others key found present)
              exact ⟨other, held, ih key value member first second⟩
          | _ => cases two
      | _ => cases one

theorem forall₂_turn {related : Value → Value → Prop} {first second : List Value}
    (symm : ∀ a ∈ first, ∀ b ∈ second, related a b → related b a) (each : List.Forall₂ related first second) :
    List.Forall₂ related second first := by
  induction each with
  | nil => exact .nil
  | cons head _ tail =>
      refine .cons (symm _ (List.mem_cons_self ..) _ (List.mem_cons_self ..) head) (tail fun a first b second => ?_)
      exact symm a (List.mem_cons_of_mem _ first) b (List.mem_cons_of_mem _ second)

/-- Whatever a value equals is equal to it. -/
theorem same_symm {a b : Value} (proper : a.isProper = true) (regular : b.isProper = true) (equal : a.same b = true) :
    b.same a = true := by
  have numbers (a b : Value) (quantity : Int) (number : a.quantity? = some quantity) (equal : a.same b = true) :
      b.same a = true := by
    rw [same_quantity a b quantity number] at equal
    rwa [same_quantity b a quantity equal]
  induction a using nested generalizing b with
  | null =>
      cases b with
      | null => rfl
      | _ => cases equal
  | bool truth => exact numbers _ b _ rfl equal
  | int number => exact numbers _ b _ rfl equal
  | float own =>
      cases units : own.units? with
      | some quantity => exact numbers _ b quantity units equal
      | none =>
          have own := same_unbounded own b equal units
          subst own
          exact equal
  | str text =>
      have own := same_str equal
      subst own
      exact equal
  | arr items ih =>
      obtain ⟨others, rfl, each⟩ := same_arr equal
      rw [isProper, areProper_iff] at proper regular
      rw [same, sameItems_forall]
      exact forall₂_turn (fun item first other second => ih item first (proper item first) (regular other second)) each
  | obj fields ih =>
      cases b with
      | obj others =>
          have distinct := ((obj_isProper others).mp regular).1
          have whole := equal
          rw [same, Bool.and_eq_true, decide_eq_true_eq] at whole ⊢
          rw [sameFields_iff]
          refine ⟨whole.1.symm, fun key value member => ?_⟩
          have present := Table.find?_of_mem others key value distinct member
          obtain ⟨own, found, alike⟩ := field?_same proper equal key present
          refine ⟨own, found, ih key own (Table.find?_some_mem fields key own found) ?_ ?_ alike⟩
          · exact field?_isProper proper key found
          · exact field?_isProper regular key present
      | _ => cases equal

end FunctionStack.Value

theorem FunctionStack.Intrinsic.getAtt_rigid (id member : String) : Value.Rigid (getAtt id member) :=
  .single _ _ (.pair (.str id) (.str member))
