import FunctionStack.Number.Shortest
import Mathlib.Tactic

/-!
The decimal chosen for a floating-point number reads back as that number. A reading depends on the value of
a decimal only, so zeros may be moved between its digits and its power of ten. Every reading is in canonical form.
-/

namespace FunctionStack.Double

/-- The form every reading produces: one pair of significand and scale for each number. -/
def isCanonical : Double → Bool
  | .finite _ significand scale =>
    significand < 2 ^ 53 && (scale = 0 || 2 ^ 52 ≤ significand) && scale ≤ 2045
  | _ => true

theorem unitsPerOne_eq : unitsPerOne = 2 ^ 1074 := by rw [unitsPerOne, Nat.pow_eq]

theorem unitsPerOne_pos : 0 < unitsPerOne := by
  rw [unitsPerOne_eq]
  positivity

theorem ofRatio_packed (negative : Bool) (numerator denominator : Nat) :
    ofRatio negative numerator denominator =
      packed negative
        (roundHalfEven (numerator * unitsPerOne)
          (denominator * 2 ^ scaleOf (numerator * unitsPerOne / denominator)))
        (scaleOf (numerator * unitsPerOne / denominator)) := rfl

theorem round_exact (whole denominator : Nat) (positive : 0 < denominator) :
    roundHalfEven (whole * denominator) denominator = whole := by
  simp [roundHalfEven, positive]

theorem round_scaled (factor numerator denominator : Nat) (positive : 0 < factor) :
    roundHalfEven (factor * numerator) (factor * denominator) = roundHalfEven numerator denominator := by
  have quotient := Nat.mul_div_mul_left numerator denominator positive
  have remainder := Nat.mul_mod_mul_left factor numerator denominator
  have below : 2 * (factor * (numerator % denominator)) < factor * denominator ↔
      2 * (numerator % denominator) < denominator := by
    rw [Nat.mul_left_comm]
    exact Nat.mul_lt_mul_left positive
  have above : factor * denominator < 2 * (factor * (numerator % denominator)) ↔
      denominator < 2 * (numerator % denominator) := by
    rw [Nat.mul_left_comm]
    exact Nat.mul_lt_mul_left positive
  simp only [roundHalfEven, quotient, remainder, below, above]

theorem round_neighbour (top bottom : Nat) :
    roundHalfEven top bottom = top / bottom ∨ roundHalfEven top bottom = top / bottom + 1 := by
  unfold roundHalfEven
  dsimp only
  split
  · exact Or.inl rfl
  · split
    · exact Or.inr rfl
    · have := Nat.mod_two_eq_zero_or_one (top / bottom)
      omega

theorem ofRatio_scaled (negative : Bool) (factor numerator denominator : Nat) (positive : 0 < factor) :
    ofRatio negative (factor * numerator) (factor * denominator) = ofRatio negative numerator denominator := by
  have quotient : factor * numerator * unitsPerOne / (factor * denominator) =
      numerator * unitsPerOne / denominator := by
    rw [Nat.mul_assoc, Nat.mul_div_mul_left _ _ positive]
  rw [ofRatio_packed, ofRatio_packed, quotient, Nat.mul_assoc, Nat.mul_assoc, round_scaled _ _ _ positive]

theorem ofDecimal_whole (negative : Bool) (digits : Nat) (power : Int) (whole : 0 ≤ power) :
    ofDecimal negative digits power = ofRatio negative (digits * 10 ^ power.toNat) 1 := by
  simp only [ofDecimal, if_pos whole, Nat.pow_eq]

theorem ofDecimal_places (negative : Bool) (digits places : Nat) :
    ofDecimal negative digits (-(places : Int)) = ofRatio negative digits (10 ^ places) := by
  cases places with
  | zero => simp [ofDecimal]
  | succ places =>
      simp only [ofDecimal, Nat.pow_eq]
      rw [if_neg (by omega), Int.neg_neg, Int.toNat_natCast]

theorem ofDecimal_shifted (negative : Bool) (digits places : Nat) (power : Int) :
    ofDecimal negative (digits * 10 ^ places) (power - places) = ofDecimal negative digits power := by
  by_cases whole : 0 ≤ power
  · rw [ofDecimal_whole _ _ _ whole]
    by_cases still : 0 ≤ power - places
    · have split : power.toNat = places + (power - places).toNat := by omega
      rw [ofDecimal_whole _ _ _ still, split, pow_add, Nat.mul_assoc]
    · obtain ⟨gap, short⟩ : ∃ gap : Nat, power - places = -(gap : Int) :=
        ⟨(-(power - places)).toNat, by omega⟩
      have split : places = gap + power.toNat := by omega
      rw [short, ofDecimal_places, split, pow_add,
        ← ofRatio_scaled negative (10 ^ gap) (digits * 10 ^ power.toNat) 1 (by positivity), Nat.mul_one,
        Nat.mul_left_comm]
  · obtain ⟨depth, below⟩ : ∃ depth : Nat, power = -(depth : Int) := ⟨(-power).toNat, by omega⟩
    have deeper : power - places = -((places + depth : Nat) : Int) := by omega
    rw [deeper, below, ofDecimal_places, ofDecimal_places, pow_add, Nat.mul_comm digits,
      ofRatio_scaled _ _ _ _ (by positivity)]

theorem scaleOf_canonical (significand scale : Nat) (small : significand < 2 ^ 53)
    (normal : scale = 0 ∨ 2 ^ 52 ≤ significand) : scaleOf (significand * 2 ^ scale) = scale := by
  rcases normal with rfl | normal
  · have : Nat.log2 (significand * 2 ^ 0) < 53 := by
      by_cases zero : significand = 0
      · subst zero
        decide
      · rw [Nat.log2_lt (by simpa using zero)]
        simpa using small
    simp only [scaleOf]
    omega
  · have positive : significand * 2 ^ scale ≠ 0 := by positivity
    have low : 52 + scale ≤ Nat.log2 (significand * 2 ^ scale) := by
      rw [Nat.le_log2 positive, pow_add]
      exact Nat.mul_le_mul_right _ normal
    have high : Nat.log2 (significand * 2 ^ scale) < 53 + scale := by
      rw [Nat.log2_lt positive, pow_add]
      exact Nat.mul_lt_mul_of_pos_right small (by positivity)
    simp only [scaleOf]
    omega

/-- A canonical number read from its exact size is itself. -/
theorem ofRatio_exact (negative : Bool) (significand scale : Nat)
    (canonical : isCanonical (.finite negative significand scale)) :
    ofRatio negative (significand * 2 ^ scale) unitsPerOne = .finite negative significand scale := by
  simp only [isCanonical, Bool.and_eq_true, Bool.or_eq_true, decide_eq_true_eq] at canonical
  obtain ⟨⟨small, normal⟩, bound⟩ := canonical
  have whole : significand * 2 ^ scale * unitsPerOne / unitsPerOne = significand * 2 ^ scale :=
    Nat.mul_div_cancel _ unitsPerOne_pos
  have rounded : roundHalfEven (significand * 2 ^ scale * unitsPerOne) (unitsPerOne * 2 ^ scale) =
      significand := by
    rw [Nat.mul_assoc, Nat.mul_comm (2 ^ scale)]
    exact round_exact _ _ (Nat.mul_pos unitsPerOne_pos (by positivity))
  rw [ofRatio_packed, whole, scaleOf_canonical significand scale small normal, rounded, packed, Nat.pow_eq,
    if_neg (Nat.ne_of_lt small), bounded, if_pos bound]

theorem expansion_readsBack (significand scale places : Nat) (unit : unitsPerOne = 2 ^ places)
    (canonical : isCanonical (.finite false significand scale)) :
    ofDecimal false (significand * 2 ^ scale * 5 ^ places) (-(places : Int)) =
      .finite false significand scale := by
  have ten : (10 : Nat) ^ places = 5 ^ places * 2 ^ places := Nat.mul_pow 5 2 places
  rw [ofDecimal_places, ten, ← unit, Nat.mul_comm _ (5 ^ places),
    ofRatio_scaled _ (5 ^ places) _ _ (by positivity), ofRatio_exact false significand scale canonical]

theorem atPlace_readsBack (significand scale : Nat) (power : Int) (found : Nat × Int)
    (placed : atPlace significand scale power = some found) :
    ofDecimal false found.1 found.2 = .finite false significand scale := by
  simp only [atPlace, readsBack] at placed
  generalize inPowers _ _ _ = ratio at placed
  obtain ⟨top, bottom⟩ := ratio
  have neighbour := round_neighbour top bottom
  split at placed <;> simp_all only [decide_eq_true_eq, Option.some.injEq, reduceCtorEq]
  · subst placed
    rcases neighbour with same | same <;> simp_all only
  · subst placed
    assumption
  · subst placed
    assumption

/-- The shortest decimal of a canonical number reads back as the number. -/
theorem shortest_readsBack (significand scale : Nat)
    (canonical : isCanonical (.finite false significand scale)) :
    ofDecimal false (shortest significand scale).1 (shortest significand scale).2 =
      .finite false significand scale := by
  simp only [shortest]
  generalize leadingPower _ _ = first
  cases short : (List.range 17).findSome? fun (i : Nat) => atPlace significand scale (first - i) with
  | some found =>
      obtain ⟨place, _, placed⟩ := List.exists_of_findSome?_eq_some short
      exact atPlace_readsBack significand scale _ found placed
  | none => exact expansion_readsBack significand scale 1074 unitsPerOne_eq canonical

theorem units_large : 2 ^ 2098 ≤ 10 ^ 400 * unitsPerOne := by
  rw [unitsPerOne_eq]
  decide +kernel

theorem units_small : 2 * unitsPerOne < 10 ^ 400 := by
  rw [unitsPerOne_eq]
  decide +kernel

theorem packed_infinite (negative : Bool) (significand scale : Nat) (large : 2045 < scale) :
    packed negative significand scale = .infinite negative := by
  unfold packed bounded
  split
  · exact if_neg (by omega)
  · exact if_neg (by omega)

theorem ofRatio_infinite (negative : Bool) (numerator denominator : Nat) (positive : 0 < denominator)
    (large : 10 ^ 400 * denominator ≤ numerator) :
    ofRatio negative numerator denominator = .infinite negative := by
  rw [ofRatio_packed]
  apply packed_infinite
  have units : 2 ^ 2098 ≤ numerator * unitsPerOne / denominator := by
    rw [Nat.le_div_iff_mul_le positive]
    calc
      2 ^ 2098 * denominator ≤ 10 ^ 400 * unitsPerOne * denominator :=
        Nat.mul_le_mul_right _ units_large
      _ = 10 ^ 400 * denominator * unitsPerOne := Nat.mul_right_comm _ _ _
      _ ≤ numerator * unitsPerOne := Nat.mul_le_mul_right _ large
  have nonzero : numerator * unitsPerOne / denominator ≠ 0 :=
    Nat.ne_of_gt (Nat.lt_of_lt_of_le (by positivity) units)
  have := (Nat.le_log2 nonzero).mpr units
  unfold scaleOf
  omega

theorem ofRatio_zero (negative : Bool) (numerator denominator : Nat)
    (small : 10 ^ 400 * numerator < denominator) :
    ofRatio negative numerator denominator = .finite negative 0 0 := by
  have half : 2 * (numerator * unitsPerOne) < denominator := by
    calc
      2 * (numerator * unitsPerOne) = 2 * unitsPerOne * numerator := by ring
      _ ≤ 10 ^ 400 * numerator := Nat.mul_le_mul_right _ (Nat.le_of_lt units_small)
      _ < denominator := small
  have below : numerator * unitsPerOne < denominator := by omega
  have none : numerator * unitsPerOne / denominator = 0 := Nat.div_eq_of_lt below
  have scale : scaleOf 0 = 0 := rfl
  have rounded : roundHalfEven (numerator * unitsPerOne) (denominator * 2 ^ 0) = 0 := by
    unfold roundHalfEven
    rw [pow_zero, Nat.mul_one, none, Nat.mod_eq_of_lt below, if_pos half]
  rw [ofRatio_packed, none, scale, rounded]
  rfl

theorem ofDecimal_infinite (negative : Bool) (digits count : Nat) (power : Int)
    (least : 10 ^ count ≤ 10 * digits) (huge : 400 < power + count) :
    ofDecimal negative digits power = .infinite negative := by
  by_cases whole : 0 ≤ power
  · rw [ofDecimal_whole _ _ _ whole]
    apply ofRatio_infinite _ _ _ (by decide)
    have raised : 10 ^ 400 * 10 ≤ 10 * digits * 10 ^ power.toNat := by
      calc
        10 ^ 400 * 10 = 10 ^ (400 + 1) := (Nat.pow_succ ..).symm
        _ ≤ 10 ^ (count + power.toNat) := Nat.pow_le_pow_right (by decide) (by omega)
        _ = 10 ^ count * 10 ^ power.toNat := pow_add ..
        _ ≤ 10 * digits * 10 ^ power.toNat := Nat.mul_le_mul_right _ least
    rw [Nat.mul_assoc] at raised
    omega
  · obtain ⟨depth, below⟩ : ∃ depth : Nat, power = -(depth : Int) := ⟨(-power).toNat, by omega⟩
    rw [below, ofDecimal_places]
    apply ofRatio_infinite _ _ _ (by positivity)
    have raised : 10 ^ 400 * 10 ^ depth * 10 ≤ 10 * digits := by
      calc
        10 ^ 400 * 10 ^ depth * 10 = 10 ^ (400 + depth + 1) := by rw [← pow_add, ← pow_succ]
        _ ≤ 10 ^ count := Nat.pow_le_pow_right (by decide) (by omega)
        _ ≤ 10 * digits := least
    omega

theorem ofDecimal_zero (negative : Bool) (digits count : Nat) (power : Int)
    (most : digits < 10 ^ count) (tiny : power + count < -400) :
    ofDecimal negative digits power = .finite negative 0 0 := by
  obtain ⟨depth, below⟩ : ∃ depth : Nat, power = -(depth : Int) := ⟨(-power).toNat, by omega⟩
  rw [below, ofDecimal_places]
  apply ofRatio_zero
  calc
    10 ^ 400 * digits < 10 ^ 400 * 10 ^ count := Nat.mul_lt_mul_of_pos_left most (by positivity)
    _ = 10 ^ (400 + count) := (pow_add ..).symm
    _ ≤ 10 ^ depth := Nat.pow_le_pow_right (by decide) (by omega)

/-- A decimal of so many digits that stands for a finite number other than zero is in the range where it is
read by its value. -/
theorem ofDigits_finite (negative : Bool) (digits count significand scale : Nat) (power : Int)
    (least : 10 ^ count ≤ 10 * digits) (most : digits < 10 ^ count) (nonzero : significand ≠ 0)
    (reads : ofDecimal negative digits power = .finite negative significand scale) :
    ofDigits negative digits count power = .finite negative significand scale := by
  have positive : digits ≠ 0 := by
    rintro rfl
    have : 0 < 10 ^ count := by positivity
    omega
  unfold ofDigits
  rw [if_neg positive, if_neg, if_neg, reads]
  · intro tiny
    rw [ofDecimal_zero negative digits count power most tiny] at reads
    injection reads with _ zero
    exact nonzero zero.symm
  · intro huge
    rw [ofDecimal_infinite negative digits count power least huge] at reads
    cases reads

theorem bounded_canonical (negative : Bool) (significand scale : Nat) (small : significand < 2 ^ 53)
    (normal : scale = 0 ∨ 2 ^ 52 ≤ significand) : isCanonical (bounded negative significand scale) = true := by
  rw [bounded]
  split
  case isTrue within =>
    simp only [isCanonical, Bool.and_eq_true, Bool.or_eq_true, decide_eq_true_eq]
    exact ⟨⟨small, normal⟩, within⟩
  case isFalse => rfl

/-- The quotient at the chosen scale has at most 53 bits, and exactly as many where the scale is not zero. -/
theorem quotient_bounds (units : Nat) :
    units / 2 ^ scaleOf units < 2 ^ 53 ∧ (scaleOf units = 0 ∨ 2 ^ 52 ≤ units / 2 ^ scaleOf units) := by
  by_cases zero : units = 0
  · subst zero
    exact ⟨by norm_num, Or.inl rfl⟩
  · have high : units < 2 ^ 53 * 2 ^ scaleOf units := by
      rw [← pow_add, ← Nat.log2_lt zero, scaleOf]
      omega
    refine ⟨Nat.div_lt_of_lt_mul (by rwa [Nat.mul_comm]), ?_⟩
    by_cases flat : scaleOf units = 0
    · exact Or.inl flat
    · have low : 2 ^ 52 * 2 ^ scaleOf units ≤ units := by
        rw [← pow_add, ← Nat.le_log2 zero]
        rw [scaleOf] at flat ⊢
        omega
      exact Or.inr ((Nat.le_div_iff_mul_le (by positivity)).mpr low)

theorem ofRatio_canonical (negative : Bool) (numerator denominator : Nat) :
    isCanonical (ofRatio negative numerator denominator) = true := by
  rw [ofRatio_packed]
  obtain ⟨small, normal⟩ := quotient_bounds (numerator * unitsPerOne / denominator)
  rw [Nat.div_div_eq_div_mul] at small normal
  have near := round_neighbour (numerator * unitsPerOne)
    (denominator * 2 ^ scaleOf (numerator * unitsPerOne / denominator))
  rw [packed, Nat.pow_eq, Nat.pow_eq]
  split
  case isTrue => exact bounded_canonical negative _ _ (by norm_num) (Or.inr (Nat.le_refl _))
  case isFalse short =>
    apply bounded_canonical negative
    · omega
    · omega

theorem ofDecimal_canonical (negative : Bool) (digits : Nat) (exponent : Int) :
    isCanonical (ofDecimal negative digits exponent) = true := by
  rw [ofDecimal]
  split <;> exact ofRatio_canonical ..

theorem ofDigits_canonical (negative : Bool) (digits count : Nat) (exponent : Int) :
    isCanonical (ofDigits negative digits count exponent) = true := by
  rw [ofDigits]
  split
  · rfl
  · split
    · rfl
    · split
      · rfl
      · exact ofDecimal_canonical ..

end FunctionStack.Double
