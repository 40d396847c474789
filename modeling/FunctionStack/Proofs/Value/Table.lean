import FunctionStack.Proofs.Value.Alike

/-!
Tables as finite maps: what merging and replacing do under each key, and when two tables are the same.
-/

namespace FunctionStack

namespace Table

variable {α : Type}

@[simp] theorem find?_nil (key : String) : find? ([] : Table α) key = none := rfl

theorem has_iff_keys (table : Table α) (key : String) : table.has key = true ↔ key ∈ table.keys := by
  rw [has_iff_mem]
  exact (List.mem_map.trans ⟨fun ⟨(_, value), member, same⟩ => ⟨value, same ▸ member⟩,
    fun ⟨value, member⟩ => ⟨_, member, rfl⟩⟩).symm

theorem find?_none_iff (table : Table α) (key : String) : table.find? key = none ↔ key ∉ table.keys := by
  rw [← has_iff_keys, has, Bool.not_eq_true, Option.isSome_eq_false_iff, Option.isNone_iff_eq_none]

theorem find?_mapValues {β : Type} (table : Table α) (f : α → β) (key : String) :
    (table.mapValues f).find? key = (table.find? key).map f := by
  induction table with
  | nil => rfl
  | cons entry table ih =>
      obtain ⟨known, value⟩ := entry
      change find? ((known, f value) :: mapValues f table) key = _
      rw [find?_cons, find?_cons, ih]
      split <;> rfl

theorem insert_present (table : Table α) (key : String) (value : α) (found : table.find? key = some value) :
    table.insert key value = table := by
  induction table with
  | nil => cases found
  | cons entry table ih =>
      obtain ⟨known, first⟩ := entry
      rw [find?_cons] at found
      rw [insert]
      by_cases same : known = key
      · rw [if_pos same.symm] at found
        cases found
        rw [if_pos same, same]
      · rw [if_neg (Ne.symm same)] at found
        rw [if_neg same, ih found]

theorem update_present (table : Table α) (key : String) (f : α → α)
    (still : ∀ value, (key, value) ∈ table → f value = value) : table.update key f = table := by
  have each (entry : String × α) (member : entry ∈ table) :
      (entry.1, if entry.1 = key then f entry.2 else entry.2) = entry := by
    obtain ⟨known, value⟩ := entry
    by_cases same : known = key
    · subst same
      rw [if_pos rfl, still value member]
    · rw [if_neg same]
  unfold update
  conv => rhs; rw [← List.map_id table]
  exact List.map_congr_left each

/-- Tables with the same keys, each once, and the same value under each key. -/
theorem ext (first second : Table α) (keys : first.keys = second.keys) (distinct : first.keys.Nodup)
    (values : ∀ key, first.find? key = second.find? key) : first = second := by
  induction first generalizing second with
  | nil =>
      cases second with
      | nil => rfl
      | cons _ _ => cases keys
  | cons entry first ih =>
      obtain ⟨known, value⟩ := entry
      cases second with
      | nil => cases keys
      | cons other second =>
          obtain ⟨name, found⟩ := other
          obtain ⟨rfl, rest⟩ := List.cons.inj keys
          obtain ⟨fresh, distinct⟩ := List.nodup_cons.mp distinct
          have here := values known
          simp only [find?_cons, if_true, Option.some.injEq] at here
          subst here
          rw [ih second rest distinct fun key => ?_]
          by_cases same : key = known
          · subst same
            rw [(find?_none_iff first key).mpr fresh, (find?_none_iff second key).mpr (by rwa [Table.keys, ← rest])]
          · have there := values key
            rwa [find?_cons, find?_cons, if_neg same, if_neg same] at there

@[simp] theorem keys_cons (table : Table α) (key : String) (value : α) :
    keys ((key, value) :: table) = key :: keys table := rfl

theorem keys_insert (table : Table α) (key : String) (value : α) :
    (table.insert key value).keys = if key ∈ table.keys then table.keys else table.keys ++ [key] := by
  induction table with
  | nil => rfl
  | cons entry table ih =>
      obtain ⟨known, first⟩ := entry
      rw [insert]
      by_cases same : known = key
      · rw [if_pos same, keys_cons, keys_cons, if_pos (same ▸ List.mem_cons_self ..)]
      · have tail : key ∈ known :: keys table ↔ key ∈ keys table := by
          rw [List.mem_cons, or_iff_right (Ne.symm same)]
        rw [if_neg same, keys_cons, keys_cons, ih]
        simp only [tail]
        split <;> rfl

theorem insert_fresh (table : Table α) (key : String) (value : α) (fresh : key ∉ table.keys) :
    table.insert key value = table ++ [(key, value)] := by
  induction table with
  | nil => rfl
  | cons entry table ih =>
      obtain ⟨known, first⟩ := entry
      rw [keys_cons, List.mem_cons, not_or] at fresh
      rw [insert, if_neg (Ne.symm fresh.1), ih fresh.2, List.cons_append]

theorem find?_merge (table other : Table α) (key : String) :
    (table.merge other).find? key = (find? other.reverse key).or (table.find? key) := by
  unfold merge
  induction other generalizing table with
  | nil => rfl
  | cons entry other ih =>
      obtain ⟨known, value⟩ := entry
      rw [List.foldl_cons, ih, find?_insert, List.reverse_cons, find?_append, find?_cons]
      cases find? other.reverse key with
      | some _ => rfl
      | none =>
          by_cases same : key = known
          · rw [if_pos same, if_pos same]
            rfl
          · rw [if_neg same, if_neg same]
            rfl

theorem keys_merge_nodup (table other : Table α) (distinct : table.keys.Nodup) : (table.merge other).keys.Nodup := by
  unfold merge
  induction other generalizing table with
  | nil => exact distinct
  | cons entry other ih => exact ih _ (keys_insert_nodup table entry.1 entry.2 distinct)

theorem mem_keys_merge (table other : Table α) (key : String) :
    key ∈ (table.merge other).keys ↔ key ∈ table.keys ∨ key ∈ other.keys := by
  rw [← has_iff_keys, ← has_iff_keys, has, has, find?_merge, Option.isSome_or, Bool.or_eq_true, or_comm]
  have turned : (find? other.reverse key).isSome = true ↔ key ∈ other.keys := by
    rw [show (find? other.reverse key).isSome = has other.reverse key from rfl, has_iff_keys, keys, List.map_reverse,
      List.mem_reverse, keys]
  rw [turned]

theorem keys_merge_present (table other : Table α) (present : ∀ key ∈ other.keys, key ∈ table.keys) :
    (table.merge other).keys = table.keys := by
  unfold merge
  induction other generalizing table with
  | nil => rfl
  | cons entry other ih =>
      obtain ⟨key, value⟩ := entry
      have same : (table.insert key value).keys = table.keys := by
        rw [keys_insert, if_pos (present key (List.mem_cons_self ..))]
      rw [List.foldl_cons, ih _ fun known member => ?_, same]
      rw [same]
      exact present known (List.mem_cons_of_mem _ member)

/-- What has been laid over a table can be laid over it again. -/
theorem merge_again (table other : Table α) (distinct : table.keys.Nodup) :
    (table.merge other).merge other = table.merge other := by
  have keys := keys_merge_present (table.merge other) other fun key member =>
    (mem_keys_merge table other key).mpr (Or.inr member)
  refine ext _ _ keys ?_ fun key => ?_
  · rw [keys]
    exact keys_merge_nodup table other distinct
  · rw [find?_merge, find?_merge]
    cases find? other.reverse key <;> rfl

/-- Where a table holds one value at most under a key, it does not matter in which order. -/
theorem find?_unique (first second : Table α) (key : String) (same : ∀ value, (key, value) ∈ second ↔ (key, value) ∈ first)
    (once : ∀ value other, (key, value) ∈ first → (key, other) ∈ first → value = other) :
    second.find? key = first.find? key := by
  cases found : first.find? key with
  | some value =>
      have listed := (same value).mpr (find?_some_mem first key value found)
      obtain ⟨other, present⟩ := Option.isSome_iff_exists.mp ((has_iff_mem second key).mpr ⟨value, listed⟩)
      have held := (same other).mp (find?_some_mem second key other present)
      rw [present, once value other (find?_some_mem first key value found) held]
  | none =>
      cases present : second.find? key with
      | none => rfl
      | some other =>
          have held := (same other).mp (find?_some_mem second key other present)
          have there := (has_iff_mem first key).mpr ⟨other, held⟩
          rw [has, found] at there
          cases there

theorem find?_perm (first second : Table α) (permuted : second.Perm first) (distinct : first.keys.Nodup) (key : String) :
    second.find? key = first.find? key := by
  refine find?_unique first second key (fun _ => permuted.mem_iff) fun value other one two => ?_
  exact (Prod.mk.inj (List.inj_on_of_nodup_map distinct one two rfl)).2

/-- Tables that hold the same under each key are the same up to order. -/
theorem perm_of_find? (first second : Table α) (distinct : first.keys.Nodup) (unrepeated : second.keys.Nodup)
    (same : ∀ key, second.find? key = first.find? key) : second.Perm first := by
  refine (List.perm_ext_iff_of_nodup unrepeated.of_map distinct.of_map).mpr fun entry => ?_
  obtain ⟨key, value⟩ := entry
  constructor
  · intro member
    exact find?_some_mem first key value ((same key).symm.trans (find?_of_mem second key value unrepeated member))
  · intro member
    exact find?_some_mem second key value ((same key).trans (find?_of_mem first key value distinct member))

end Table

end FunctionStack
