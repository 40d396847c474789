import FunctionStack.Proofs.Number.ReadBack
import FunctionStack.Proofs.Template.Graph
import FunctionStack.Value.Json
import FunctionStack.Value.Same
import Mathlib.Data.String.Basic
import Mathlib.Tactic

/-!
Values up to the order of keys. Ordering the keys of every table brings two values to the same form exactly if they
differ in that order only, and structural equality does not see the difference.
-/

namespace FunctionStack.Value

/-- A value is a scalar, or it is made of the values in it. -/
theorem nested {motive : Value → Prop} (null : motive .null) (bool : ∀ truth, motive (.bool truth))
    (int : ∀ number, motive (.int number)) (float : ∀ number, motive (.float number))
    (str : ∀ text, motive (.str text))
    (arr : ∀ items, (∀ item ∈ items, motive item) → motive (.arr items))
    (obj : ∀ fields, (∀ key value, (key, value) ∈ fields → motive value) → motive (.obj fields)) :
    ∀ value, motive value
  | .null => null
  | .bool truth => bool truth
  | .int number => int number
  | .float number => float number
  | .str text => str text
  | .arr items => arr items fun item member =>
      have := List.sizeOf_lt_of_mem member
      nested null bool int float str arr obj item
  | .obj fields => obj fields fun key value member =>
      have := List.sizeOf_lt_of_mem member
      nested null bool int float str arr obj value
termination_by value => sizeOf value
decreasing_by all_goals simp_all; omega

mutual

/-- A value as it is read: no key twice in a table, and one form for each number. -/
def isProper : Value → Bool
  | .float number => number.isCanonical
  | .arr items => areProper items
  | .obj fields => decide (fields.map Prod.fst).Nodup && properFields fields
  | _ => true

def areProper : List Value → Bool
  | [] => true
  | item :: items => isProper item && areProper items

def properFields : List (String × Value) → Bool
  | [] => true
  | (_, value) :: fields => isProper value && properFields fields

end

theorem areProper_iff (items : List Value) : areProper items = true ↔ ∀ item ∈ items, item.isProper = true := by
  induction items with
  | nil => simp [areProper]
  | cons item items ih => simp [areProper, ih]

theorem properFields_iff (fields : Fields) :
    properFields fields = true ↔ ∀ key value, (key, value) ∈ fields → value.isProper = true := by
  induction fields with
  | nil => simp [properFields]
  | cons field fields ih =>
      obtain ⟨known, value⟩ := field
      rw [properFields, Bool.and_eq_true, ih]
      constructor
      · rintro ⟨head, tail⟩ key found member
        rcases List.mem_cons.mp member with same | member
        · cases same
          exact head
        · exact tail key found member
      · intro all
        exact ⟨all known value (List.mem_cons_self ..), fun key found member => all key found (List.mem_cons_of_mem _ member)⟩

theorem obj_isProper (fields : Fields) : (Value.obj fields).isProper = true ↔
    (fields.map Prod.fst).Nodup ∧ ∀ key value, (key, value) ∈ fields → value.isProper = true := by
  rw [isProper, Bool.and_eq_true, decide_eq_true_eq, properFields_iff]

theorem insertByKey_perm (key : String) (value : Value) (fields : Fields) :
    (insertByKey key value fields).Perm ((key, value) :: fields) := by
  induction fields with
  | nil => exact List.Perm.refl _
  | cons field fields ih =>
      rw [insertByKey]
      split
      · exact List.Perm.refl _
      · exact (ih.cons field).trans (List.Perm.swap ..)

/-- The fields of a table with ordered tables in them. -/
def settled (fields : Fields) : Fields := fields.map fun field => (field.1, field.2.sortKeys)

theorem sortFields_perm (fields : Fields) : (sortFields fields).Perm (settled fields) := by
  induction fields with
  | nil => exact List.Perm.refl _
  | cons field fields ih =>
      obtain ⟨key, value⟩ := field
      rw [sortFields]
      exact (insertByKey_perm key _ _).trans (ih.cons _)

theorem sortItems_map (items : List Value) : sortItems items = items.map sortKeys := by
  induction items with
  | nil => rfl
  | cons item items ih => rw [sortItems, ih, List.map_cons]

def Ordered (fields : Fields) : Prop := fields.Pairwise fun a b => a.1 ≤ b.1

theorem insertByKey_ordered (key : String) (value : Value) (fields : Fields) (ordered : Ordered fields) :
    Ordered (insertByKey key value fields) := by
  induction fields with
  | nil => exact List.pairwise_singleton ..
  | cons field fields ih =>
      obtain ⟨head, tail⟩ := List.pairwise_cons.mp ordered
      rw [insertByKey]
      split
      case isTrue first =>
        apply List.pairwise_cons.mpr
        refine ⟨fun other member => ?_, ordered⟩
        rcases List.mem_cons.mp member with rfl | member
        · exact first
        · exact le_trans first (head other member)
      case isFalse later =>
        apply List.pairwise_cons.mpr
        refine ⟨fun other member => ?_, ih tail⟩
        rcases List.mem_cons.mp ((insertByKey_perm key value fields).mem_iff.mp member) with rfl | member
        · exact le_of_lt (lt_of_not_ge later)
        · exact head other member

theorem sortFields_ordered (fields : Fields) : Ordered (sortFields fields) := by
  induction fields with
  | nil => exact List.Pairwise.nil
  | cons field fields ih => exact insertByKey_ordered field.1 _ _ ih

theorem settled_keys (fields : Fields) : (settled fields).map Prod.fst = fields.map Prod.fst := by
  simp [settled]

/-- Two tables without repeated keys are ordered alike if they hold the same fields. -/
theorem sortFields_eq (a b : Fields) (distinct : (a.map Prod.fst).Nodup) (same : (settled a).Perm (settled b)) :
    sortFields a = sortFields b := by
  have perm := (sortFields_perm a).trans (same.trans (sortFields_perm b).symm)
  have keys : ((sortFields a).map Prod.fst).Nodup := by
    rw [((sortFields_perm a).map Prod.fst).nodup_iff, settled_keys]
    exact distinct
  refine perm.eq_of_pairwise ?_ (sortFields_ordered a) (sortFields_ordered b)
  intro x y inside outside le ge
  have key : x.1 = y.1 := le_antisymm le ge
  exact List.inj_on_of_nodup_map keys inside (perm.mem_iff.mpr outside) key

theorem sortFields_exchange (a b : Fields) (same : sortFields a = sortFields b) (key : String) (value : Value)
    (member : (key, value) ∈ a) : ∃ other, (key, other) ∈ b ∧ value.sortKeys = other.sortKeys := by
  have perm : (settled a).Perm (settled b) := (sortFields_perm a).symm.trans (same ▸ sortFields_perm b)
  have present : (key, value.sortKeys) ∈ settled b := perm.mem_iff.mp (List.mem_map.mpr ⟨_, member, rfl⟩)
  obtain ⟨⟨_, other⟩, inside, pair⟩ := List.mem_map.mp present
  obtain ⟨rfl, sorted⟩ := Prod.mk.inj pair
  exact ⟨other, inside, sorted.symm⟩

theorem sortFields_length (a b : Fields) (same : sortFields a = sortFields b) : a.length = b.length := by
  have first := (sortFields_perm a).length_eq
  have second := (sortFields_perm b).length_eq
  rw [settled, List.length_map] at first second
  rw [← first, ← second, same]

theorem sortKeys_proper (value : Value) (proper : value.isProper = true) : value.sortKeys.isProper = true := by
  induction value using nested with
  | arr items ih =>
      rw [isProper, areProper_iff] at proper
      rw [sortKeys, isProper, areProper_iff, sortItems_map]
      intro sorted member
      obtain ⟨item, inside, rfl⟩ := List.mem_map.mp member
      exact ih item inside (proper item inside)
  | obj fields ih =>
      rw [obj_isProper] at proper
      rw [sortKeys, obj_isProper, ((sortFields_perm fields).map Prod.fst).nodup_iff, settled_keys]
      refine ⟨proper.1, fun key sorted member => ?_⟩
      obtain ⟨⟨_, value⟩, inside, pair⟩ := List.mem_map.mp ((sortFields_perm fields).mem_iff.mp member)
      obtain ⟨-, rfl⟩ := Prod.mk.inj pair
      exact ih _ value inside (proper.2 _ value inside)
  | _ => exact proper

theorem sameItems_forall (a b : List Value) : sameItems a b = true ↔ List.Forall₂ (fun x y => same x y = true) a b := by
  induction a generalizing b with
  | nil => cases b <;> simp [sameItems]
  | cons x a ih => cases b <;> simp [sameItems, ih]

theorem sameFields_iff (a b : Fields) : sameFields a b = true ↔
    ∀ key value, (key, value) ∈ a → ∃ found, List.lookup key b = some found ∧ same value found = true := by
  induction a with
  | nil => simp [sameFields]
  | cons field a ih =>
      obtain ⟨known, first⟩ := field
      rw [sameFields, Bool.and_eq_true, ih]
      constructor
      · rintro ⟨head, tail⟩ key value member
        rcases List.mem_cons.mp member with same | member
        · cases same
          split at head
          · exact ⟨_, by assumption, head⟩
          · cases head
        · exact tail key value member
      · intro all
        refine ⟨?_, fun key value member => all key value (List.mem_cons_of_mem _ member)⟩
        obtain ⟨found, present, equal⟩ := all known first (List.mem_cons_self ..)
        rw [present]
        exact equal

/-- Structural equality does not see the order of keys. -/
theorem same_sorted (a b c : Value) (sorted : a.sortKeys = b.sortKeys) (equal : same a c = true) :
    same b c = true := by
  induction a using nested generalizing b c with
  | arr items ih =>
      cases b <;> simp only [sortKeys, Value.arr.injEq, reduceCtorEq] at sorted
      cases c <;> simp only [same, Bool.false_eq_true] at equal ⊢
      rename_i others found
      rw [sameItems_forall] at equal ⊢
      rw [sortItems_map, sortItems_map] at sorted
      induction equal generalizing others with
      | nil =>
          rw [List.map_nil, eq_comm, List.map_eq_nil_iff] at sorted
          rw [sorted]
          exact .nil
      | cons head _ tail =>
          cases others with
          | nil => cases sorted
          | cons other others =>
              obtain ⟨first, rest⟩ := List.cons.inj sorted
              exact .cons (ih _ (List.mem_cons_self ..) other _ first head)
                (tail (fun item member => ih item (List.mem_cons_of_mem _ member)) others rest)
  | obj fields ih =>
      cases b <;> simp only [sortKeys, Value.obj.injEq, reduceCtorEq] at sorted
      cases c <;> simp only [same, Bool.false_eq_true] at equal ⊢
      rename_i others found
      rw [Bool.and_eq_true, decide_eq_true_eq, sameFields_iff] at equal ⊢
      refine ⟨(sortFields_length _ _ sorted).symm.trans equal.1, fun key value member => ?_⟩
      obtain ⟨original, inside, settled⟩ := sortFields_exchange _ _ sorted.symm key value member
      obtain ⟨target, present, equal⟩ := equal.2 key original inside
      exact ⟨target, present, ih key original inside value target settled.symm equal⟩
  | _ => cases b <;> simp_all [sortKeys]

mutual

/-- Equality up to the order of keys: scalars are the same in kind and value. -/
def alike : Value → Value → Bool
  | .null, .null => true
  | .bool a, .bool b => a = b
  | .int a, .int b => a = b
  | .float a, .float b => a = b
  | .str a, .str b => a = b
  | .arr a, .arr b => alikeItems a b
  | .obj a, .obj b => a.length = b.length && alikeFields a b
  | _, _ => false

def alikeItems : List Value → List Value → Bool
  | [], [] => true
  | a :: as, b :: bs => alike a b && alikeItems as bs
  | _, _ => false

/-- Each field of the first table is in the second with a value like it. -/
def alikeFields : List (String × Value) → List (String × Value) → Bool
  | [], _ => true
  | (key, value) :: rest, other =>
    (match List.lookup key other with
      | some found => alike value found
      | none => false) && alikeFields rest other

end

theorem alikeItems_forall (a b : List Value) :
    alikeItems a b = true ↔ List.Forall₂ (fun x y => alike x y = true) a b := by
  induction a generalizing b with
  | nil => cases b <;> simp [alikeItems]
  | cons x a ih => cases b <;> simp [alikeItems, ih]

theorem alikeFields_iff (a b : Fields) : alikeFields a b = true ↔
    ∀ key value, (key, value) ∈ a → ∃ found, List.lookup key b = some found ∧ alike value found = true := by
  induction a with
  | nil => simp [alikeFields]
  | cons field a ih =>
      obtain ⟨known, first⟩ := field
      rw [alikeFields, Bool.and_eq_true, ih]
      constructor
      · rintro ⟨head, tail⟩ key value member
        rcases List.mem_cons.mp member with same | member
        · cases same
          split at head
          · exact ⟨_, by assumption, head⟩
          · cases head
        · exact tail key value member
      · intro all
        refine ⟨?_, fun key value member => all key value (List.mem_cons_of_mem _ member)⟩
        obtain ⟨found, present, equal⟩ := all known first (List.mem_cons_self ..)
        rw [present]
        exact equal

/-- Values are equal up to the order of keys exactly if ordering the keys makes them equal. -/
theorem alike_iff_sorted (a b : Value) (proper : a.isProper = true) (regular : b.isProper = true) :
    alike a b = true ↔ a.sortKeys = b.sortKeys := by
  induction a using nested generalizing b with
  | arr items ih =>
      cases b <;> simp only [alike, sortKeys, Bool.false_eq_true, reduceCtorEq, Value.arr.injEq]
      rename_i others
      rw [isProper, areProper_iff] at proper regular
      rw [alikeItems_forall, sortItems_map, sortItems_map, ← List.forall₂_eq_eq_eq, List.forall₂_map_left_iff,
        List.forall₂_map_right_iff]
      induction items generalizing others with
      | nil => cases others <;> simp
      | cons item items rest =>
          cases others with
          | nil => simp
          | cons other others =>
              rw [List.forall₂_cons, List.forall₂_cons]
              apply and_congr
              · exact ih item (List.mem_cons_self ..) other (proper item (List.mem_cons_self ..))
                  (regular other (List.mem_cons_self ..))
              · exact rest (fun x member => ih x (List.mem_cons_of_mem _ member))
                  (fun x member => proper x (List.mem_cons_of_mem _ member)) others
                  (fun x member => regular x (List.mem_cons_of_mem _ member))
  | obj fields ih =>
      cases b <;> simp only [alike, sortKeys, Bool.false_eq_true, reduceCtorEq, Value.obj.injEq]
      rename_i others
      rw [obj_isProper] at proper regular
      rw [Bool.and_eq_true, decide_eq_true_eq, alikeFields_iff]
      constructor
      · rintro ⟨size, matched⟩
        apply sortFields_eq fields others proper.1
        apply List.Subperm.perm_of_length_le
        · apply List.subperm_of_subset
          · exact List.Nodup.of_map Prod.fst (by rw [settled_keys]; exact proper.1)
          · intro entry member
            obtain ⟨⟨key, value⟩, inside, rfl⟩ := List.mem_map.mp member
            obtain ⟨found, present, equal⟩ := matched key value inside
            have target := Table.find?_some_mem others key found present
            have sorted := (ih key value inside found (proper.2 key value inside) (regular.2 key found target)).mp equal
            exact List.mem_map.mpr ⟨(key, found), target, by rw [sorted]⟩
        · simp [settled, size]
      · intro sorted
        refine ⟨sortFields_length _ _ sorted, fun key value member => ?_⟩
        obtain ⟨found, target, settled⟩ := sortFields_exchange _ _ sorted key value member
        refine ⟨found, Table.find?_of_mem others key found regular.1 target, ?_⟩
        exact (ih key value member found (proper.2 key value member) (regular.2 key found target)).mpr settled
  | _ => cases b <;> simp [alike, sortKeys]

end FunctionStack.Value
