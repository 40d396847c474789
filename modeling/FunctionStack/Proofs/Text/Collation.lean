import FunctionStack.Text.Case
import Mathlib

/-!
The collation of ASCII texts. What it looks at in a text tells the text, so that it is a strict order of texts that differ:
the order of their small forms, and between texts with one small form the first place where they differ, a small letter first.
-/

namespace FunctionStack.Text

def IsAscii (text : String) : Prop := ∀ c ∈ text.toList, c.toNat < 128

instance (text : String) : Decidable (IsAscii text) := List.decidableBAll (fun c : Char => c.toNat < 128) text.toList

/-- A letter in the other case. -/
def otherCase (c : Char) : Char := if c.isLower then c.toUpper else c.toLower

/-- At the first place where the texts differ, the first one has a small letter and the second one a capital. -/
def SmallFirst : List Char → List Char → Prop
  | c :: one, d :: two => if c = d then SmallFirst one two else c.isLower = true ∧ d.isUpper = true
  | _, _ => False

/-- The order of texts in which case decides only between texts that are equal otherwise. -/
def Collates (one two : String) : Prop :=
  one.toLower < two.toLower ∨ one.toLower = two.toLower ∧ SmallFirst one.toList two.toList

/-- A code below some runs has no partner in them. -/
theorem partner?_below (runs : List CaseRun) (code : Nat) (below : ∀ run ∈ runs, code < run.first) :
    runs.findSome? (CaseRun.partner? code) = none := by
  rw [List.findSome?_eq_none_iff]
  intro run member
  have outside : ¬ run.first ≤ code := Nat.not_le.mpr (below run member)
  simp [CaseRun.partner?, CodeRange.has, outside]

/-- Where only the first run lies within ASCII, it has the partners of ASCII letters. -/
theorem partner?_ascii (runs : List CaseRun) (run : CaseRun) (code : Nat) (ascii : code < 128) (first : runs.head? = some run)
    (beyond : (runs.tail.all fun run => 128 ≤ run.first) = true) :
    runs.findSome? (CaseRun.partner? code) = run.partner? code := by
  obtain ⟨others, rfl⟩ := List.head?_eq_some_iff.mp first
  have none := partner?_below others code fun other member =>
    Nat.lt_of_lt_of_le ascii (of_decide_eq_true (List.all_eq_true.mp beyond other member))
  rw [List.findSome?_cons, none]
  cases run.partner? code <;> rfl

/-- Of the tables only the first run of capitals and the first one of small letters lie within ASCII. -/
theorem beyond_ascii : (smallRuns.tail.all fun run => 128 ≤ run.first) = true ∧
    (capitalRuns.tail.all fun run => 128 ≤ run.first) = true ∧ (longCapitals.all fun entry => 128 ≤ entry.1) = true ∧
    (titleLetters.all fun range => 128 ≤ range.1) = true := by
  decide +kernel

/-- The letters of a code within ASCII: where its small letter is, where its other case, and what the first runs say. -/
theorem ascii_codes : ∀ code < 128,
    (Char.ofNat code).toLower.toNat = (if 65 ≤ code ∧ code ≤ 90 then code + 32 else code) ∧
    (otherCase (Char.ofNat code)).toNat =
      (if 65 ≤ code ∧ code ≤ 90 then code + 32 else if 97 ≤ code ∧ code ≤ 122 then code - 32 else code) ∧
    otherCase (otherCase (Char.ofNat code)) = Char.ofNat code ∧
    ((CaseRun.partner? code ⟨65, 90, 1, 32⟩).map Char.ofNat).getD (Char.ofNat code) = (Char.ofNat code).toLower ∧
    ((CaseRun.partner? code ⟨97, 122, 1, -32⟩).map Char.ofNat).getD (Char.ofNat code) = (Char.ofNat code).toUpper ∧
    (if [(Char.ofNat code).toLower] ≠ [Char.ofNat code] then [(Char.ofNat code).toLower] else [(Char.ofNat code).toUpper]) =
      [otherCase (Char.ofNat code)] := by
  decide +kernel

section Ascii

variable {c d : Char}

theorem toLower_code (ascii : c.toNat < 128) :
    c.toLower.toNat = if 65 ≤ c.toNat ∧ c.toNat ≤ 90 then c.toNat + 32 else c.toNat := by
  simpa only [Char.ofNat_toNat] using (ascii_codes c.toNat ascii).1

theorem otherCase_code (ascii : c.toNat < 128) : (otherCase c).toNat = if 65 ≤ c.toNat ∧ c.toNat ≤ 90 then c.toNat + 32
    else if 97 ≤ c.toNat ∧ c.toNat ≤ 122 then c.toNat - 32 else c.toNat := by
  simpa only [Char.ofNat_toNat] using (ascii_codes c.toNat ascii).2.1

theorem otherCase_involutive (ascii : c.toNat < 128) : otherCase (otherCase c) = c := by
  simpa only [Char.ofNat_toNat] using (ascii_codes c.toNat ascii).2.2.1

theorem small_ascii (ascii : c.toNat < 128) : small c = [c.toLower] := by
  have dotted : c.toNat ≠ 304 := by omega
  have first := (ascii_codes c.toNat ascii).2.2.2.1
  rw [Char.ofNat_toNat] at first
  rw [small, if_neg dotted, partner?_ascii smallRuns _ _ ascii rfl beyond_ascii.1, first]

theorem capital_ascii (ascii : c.toNat < 128) : capital c = [c.toUpper] := by
  have short : longCapitals.lookup c.toNat = none := by
    refine List.lookup_eq_none_iff.mpr fun entry member => ?_
    have above : 128 ≤ entry.1 := of_decide_eq_true (List.all_eq_true.mp beyond_ascii.2.2.1 entry member)
    exact bne_iff_ne.mpr (by omega)
  have first := (ascii_codes c.toNat ascii).2.2.2.2.1
  rw [Char.ofNat_toNat] at first
  rw [capital, short, partner?_ascii capitalRuns _ _ ascii rfl beyond_ascii.2.1, first]

theorem isTitleLetter_ascii (ascii : c.toNat < 128) : isTitleLetter c = false := by
  refine List.any_eq_false.mpr fun range member => ?_
  have above : 128 ≤ range.1 := of_decide_eq_true (List.all_eq_true.mp beyond_ascii.2.2.2 range member)
  have outside : ¬ range.1 ≤ c.toNat := by omega
  simp [CodeRange.has, outside]

theorem swapped_ascii (ascii : c.toNat < 128) :
    (if isTitleLetter c then [c] else if small c ≠ [c] then small c else capital c) = [otherCase c] := by
  rw [isTitleLetter_ascii ascii, small_ascii ascii, capital_ascii ascii, if_neg Bool.false_ne_true]
  simpa only [Char.ofNat_toNat] using (ascii_codes c.toNat ascii).2.2.2.2.2

theorem isLower_code : c.isLower = true ↔ 97 ≤ c.toNat ∧ c.toNat ≤ 122 := by
  simp [Char.isLower, UInt32.le_iff_toNat_le]

theorem isUpper_code : c.isUpper = true ↔ 65 ≤ c.toNat ∧ c.toNat ≤ 90 := by
  simp [Char.isUpper, UInt32.le_iff_toNat_le]

/-- Of the two cases of a letter, the small one goes first once they are exchanged. -/
theorem otherCase_lt (ascii : c.toNat < 128) (also : d.toNat < 128) (folded : c.toLower = d.toLower) (apart : c ≠ d) :
    otherCase c < otherCase d ↔ c.isLower = true ∧ d.isUpper = true := by
  have codes := congrArg Char.toNat folded
  have different : c.toNat ≠ d.toNat := fun same => apart (Char.toNat_inj.mp same)
  rw [toLower_code ascii, toLower_code also] at codes
  have less : otherCase c < otherCase d ↔ (otherCase c).toNat < (otherCase d).toNat := Iff.rfl
  rw [less, otherCase_code ascii, otherCase_code also, isLower_code, isUpper_code]
  split_ifs at codes ⊢ <;> omega

theorem smallAfter_ascii (before text : List Char) (ascii : ∀ c ∈ text, c.toNat < 128) :
    smallAfter before text = text.map Char.toLower := by
  induction text generalizing before with
  | nil => rfl
  | cons c rest ih =>
      obtain ⟨here, later⟩ := List.forall_mem_cons.mp ascii
      rw [smallAfter, if_neg (by omega), small_ascii here, ih _ later]
      rfl

theorem swapAfter_ascii (before text : List Char) (ascii : ∀ c ∈ text, c.toNat < 128) :
    swapAfter before text = text.map otherCase := by
  induction text generalizing before with
  | nil => rfl
  | cons c rest ih =>
      obtain ⟨here, later⟩ := List.forall_mem_cons.mp ascii
      have sigma : c.toNat ≠ 931 := by omega
      rw [swapAfter, if_neg sigma, swapped_ascii here, ih _ later]
      rfl

/-- Between texts with one small form the exchanged cases decide as the texts themselves do, with small letters first. -/
theorem map_otherCase_lt (one two : List Char) (ascii : ∀ c ∈ one, c.toNat < 128) (also : ∀ c ∈ two, c.toNat < 128)
    (folded : one.map Char.toLower = two.map Char.toLower) :
    one.map otherCase < two.map otherCase ↔ SmallFirst one two := by
  induction one generalizing two with
  | nil =>
      cases two with
      | nil => simp [SmallFirst]
      | cons d two => cases folded
  | cons c one ih =>
      cases two with
      | nil => cases folded
      | cons d two =>
          obtain ⟨small, rest⟩ := List.cons.inj folded
          obtain ⟨here, later⟩ := List.forall_mem_cons.mp ascii
          obtain ⟨there, others⟩ := List.forall_mem_cons.mp also
          rw [List.map_cons, List.map_cons, List.cons_lt_cons_iff, SmallFirst]
          by_cases same : c = d
          · subst same
            rw [if_pos rfl, ih two later others rest]
            simp
          · have apart : otherCase c ≠ otherCase d := fun equal =>
              same (by rw [← otherCase_involutive here, equal, otherCase_involutive there])
            rw [if_neg same, otherCase_lt here there small same]
            simp [apart]

end Ascii

variable {one two : String}

theorem collationKey_ascii (ascii : IsAscii one) :
    collationKey one = ⟨one.toLower, .ofList (one.toList.map otherCase)⟩ := by
  rw [collationKey, toSmall, swapCase, smallAfter_ascii _ _ ascii, swapAfter_ascii _ _ ascii, String.toLower,
    ← String.toList_map, String.ofList_toList]

/-- What collation looks at in a text tells the text. -/
theorem collationKey_injective (ascii : IsAscii one) (also : IsAscii two) (same : collationKey one = collationKey two) :
    one = two := by
  rw [collationKey_ascii ascii, collationKey_ascii also, CollationKey.mk.injEq] at same
  have back (text : String) (each : IsAscii text) : (text.toList.map otherCase).map otherCase = text.toList := by
    rw [List.map_map]
    exact (List.map_congr_left fun c member => otherCase_involutive (each c member)).trans (List.map_id _)
  rw [← String.toList_inj, ← back one ascii, String.ofList_inj.mp same.2, back two also]

/-- The small forms decide, and the exchanged ones if those are equal. -/
theorem precedes_lex (a b : CollationKey) :
    a.precedes b = true ↔ a.small < b.small ∨ a.small = b.small ∧ a.exchanged ≤ b.exchanged := by
  unfold CollationKey.precedes
  by_cases same : a.small = b.small
  · simp [same]
  · simp [same, le_iff_lt_or_eq]

theorem precedes_total (a b : CollationKey) : (a.precedes b || b.precedes a) = true := by
  rw [Bool.or_eq_true, precedes_lex, precedes_lex]
  rcases lt_trichotomy a.small b.small with less | same | greater
  · exact .inl (.inl less)
  · rcases le_total a.exchanged b.exchanged with first | second
    · exact .inl (.inr ⟨same, first⟩)
    · exact .inr (.inr ⟨same.symm, second⟩)
  · exact .inr (.inl greater)

theorem precedes_trans (a b c : CollationKey) (first : a.precedes b = true) (second : b.precedes c = true) :
    a.precedes c = true := by
  rw [precedes_lex] at *
  rcases first with less | ⟨same, le⟩
  · rcases second with next | ⟨equal, _⟩
    · exact .inl (lt_trans less next)
    · exact .inl (equal ▸ less)
  · rcases second with next | ⟨equal, more⟩
    · exact .inl (same ▸ next)
    · exact .inr ⟨same.trans equal, le_trans le more⟩

theorem precedes_antisymm (a b : CollationKey) (first : a.precedes b = true) (second : b.precedes a = true) : a = b := by
  rw [precedes_lex] at first second
  rcases first with less | ⟨same, le⟩
  · rcases second with next | ⟨equal, _⟩
    · exact absurd next (lt_asymm less)
    · exact absurd equal.symm less.ne
  · rcases second with next | ⟨_, ge⟩
    · exact absurd same.symm next.ne
    · cases a
      cases b
      exact (CollationKey.mk.injEq ..).mpr ⟨same, le_antisymm le ge⟩

/-- The order of keys is the collation of texts, for texts that differ. -/
theorem precedes_iff (ascii : IsAscii one) (also : IsAscii two) (apart : one ≠ two) :
    (collationKey one).precedes (collationKey two) = true ↔ Collates one two := by
  have different : collationKey one ≠ collationKey two := fun same => apart (collationKey_injective ascii also same)
  rw [collationKey_ascii ascii, collationKey_ascii also] at *
  unfold CollationKey.precedes Collates
  by_cases same : one.toLower = two.toLower
  · have folded : one.toList.map Char.toLower = two.toList.map Char.toLower := by
      rw [← String.toList_map, ← String.toList_map]
      exact congrArg String.toList same
    rw [if_pos same, decide_eq_true_eq, ← map_otherCase_lt _ _ ascii also folded]
    have exchanged : String.ofList (one.toList.map otherCase) ≠ .ofList (two.toList.map otherCase) := fun equal =>
      different (by rw [same, equal])
    rw [le_iff_lt_or_eq, String.lt_iff_toList_lt]
    simp [same, exchanged]
  · rw [if_neg same, decide_eq_true_eq, le_iff_lt_or_eq]
    simp [same]

end FunctionStack.Text
