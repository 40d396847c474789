import FunctionStack.Proofs.Number.ReadBack
import FunctionStack.Value.Json.Reader

/-!
The text of a floating-point number reads back as that number, wherever it ends in something that belongs to
no number.
-/

namespace FunctionStack.Double

open JsonReader (decimal readMagnitude readFraction readExponent)

/-- What may follow a number: nothing that could belong to it. -/
def EndsNumber (rest : List Char) : Prop :=
  ∀ c ∈ rest.head?, c.isDigit = false ∧ c ≠ '.' ∧ c ≠ 'e' ∧ c ≠ 'E'

def AllDigits (text : List Char) : Prop := ∀ c ∈ text, c.isDigit = true

def NoDigitNext (rest : List Char) : Prop := ∀ c ∈ rest.head?, c.isDigit = false

/-- The digits of a positive number, as they are written. -/
structure IsNumeral (text : List Char) : Prop where
  digits : AllDigits text
  lead : text.head? ≠ some '0'
  nonempty : text ≠ []

theorem takeWhile_digits (text rest : List Char) (digits : AllDigits text) (next : NoDigitNext rest) :
    (text ++ rest).takeWhile Char.isDigit = text := by
  rw [List.takeWhile_append_of_pos digits]
  cases rest with
  | nil => simp
  | cons c rest => simp [List.takeWhile, next c (by simp)]

theorem dropWhile_digits (text rest : List Char) (digits : AllDigits text) (next : NoDigitNext rest) :
    (text ++ rest).dropWhile Char.isDigit = rest := by
  rw [List.dropWhile_append_of_pos digits]
  cases rest with
  | nil => rfl
  | cons c rest => simp [List.dropWhile, next c (by simp)]

theorem decimal_eq (text : List Char) : decimal text = Nat.ofDigitChars 10 text 0 := by
  simp only [decimal, JsonReader.digitOf, Nat.ofDigitChars_eq_foldl]

theorem decimal_toDigits (n : Nat) : decimal (Nat.toDigits 10 n) = n := by
  rw [decimal_eq, Nat.ofDigitChars_ten_toDigits]

theorem decimal_zeros (text : List Char) (count : Nat) :
    decimal (text ++ List.replicate count '0') = decimal text * 10 ^ count := by
  rw [decimal_eq, decimal_eq, Nat.ofDigitChars_append, Nat.ofDigitChars_replicate_zero, Nat.mul_comm]

theorem digit_value (c : Char) (digit : c.isDigit = true) :
    c.toNat - '0'.toNat < 10 ∧ (c ≠ '0' → 0 < c.toNat - '0'.toNat) := by
  have bounds : 48 ≤ c.toNat ∧ c.toNat ≤ 57 := by simpa [Char.isDigit, UInt32.le_iff_toNat_le] using digit
  refine ⟨by simp; omega, fun other => ?_⟩
  have : c.toNat ≠ '0'.toNat := fun same => other (Char.toNat_inj.mp same)
  simp at *
  omega

theorem decimal_lt (text : List Char) (digits : AllDigits text) : decimal text < 10 ^ text.length := by
  rw [decimal_eq]
  induction text with
  | nil => simp
  | cons c rest ih =>
      have tail := ih fun d member => digits d (List.mem_cons_of_mem _ member)
      have lead := (digit_value c (digits c (by simp))).1
      rw [Nat.ofDigitChars_cons, Nat.ofDigitChars_eq_ofDigitChars_zero, List.length_cons, pow_succ]
      nlinarith

theorem numeral_least (text : List Char) (numeral : IsNumeral text) :
    10 ^ text.length ≤ 10 * decimal text := by
  cases text with
  | nil => exact absurd rfl numeral.nonempty
  | cons c rest =>
      have lead := (digit_value c (numeral.digits c (by simp))).2 (by simpa using numeral.lead)
      rw [decimal_eq, Nat.ofDigitChars_cons, Nat.ofDigitChars_eq_ofDigitChars_zero, List.length_cons,
        pow_succ]
      nlinarith [Nat.mul_le_mul_left (10 ^ rest.length) lead]

theorem toDigits_numeral (n : Nat) (positive : n ≠ 0) : IsNumeral (Nat.toDigits 10 n) where
  digits _ member := Nat.isDigit_of_mem_toDigits (by decide) (by decide) member
  nonempty := Nat.toDigits_ne_nil
  lead := by
    induction n using Nat.strong_induction_on with
    | _ n ih =>
      by_cases small : n < 10
      · rw [Nat.toDigits_of_lt_base small]
        have : ∀ d < 10, d ≠ 0 → Nat.digitChar d ≠ '0' := by decide
        simpa using this n small positive
      · rw [Nat.toDigits_of_base_le (by decide) (by omega), List.head?_append_of_ne_nil _ Nat.toDigits_ne_nil]
        exact ih (n / 10) (by omega) (by omega)

theorem all_zeros (text : List Char) (zeros : ∀ c ∈ text, c = '0') :
    text = List.replicate text.length '0' := List.eq_replicate_iff.mpr ⟨rfl, zeros⟩

theorem dropZeros_append (text : List Char) (numeral : IsNumeral text) :
    IsNumeral (dropZeros text) ∧ ∃ count, text = dropZeros text ++ List.replicate count '0' := by
  have split : text = (text.reverse.dropWhile (· = '0')).reverse ++
      (text.reverse.takeWhile (· = '0')).reverse := by
    rw [← List.reverse_append, List.takeWhile_append_dropWhile, List.reverse_reverse]
  have zeros := all_zeros (text.reverse.takeWhile (· = '0')).reverse fun c member => by
    simpa using List.all_eq_true.mp List.all_takeWhile c (List.mem_reverse.mp member)
  rw [zeros] at split
  generalize (text.reverse.takeWhile (· = '0')).reverse.length = count at split
  unfold dropZeros
  cases kept : (text.reverse.dropWhile (· = '0')).reverse with
  | nil =>
      rw [kept, List.nil_append] at split
      cases count with
      | zero => exact absurd split numeral.nonempty
      | succ count => exact absurd (by rw [split]; rfl) numeral.lead
  | cons c rest =>
      rw [kept] at split
      refine ⟨⟨fun d member => numeral.digits d ?_, ?_, List.cons_ne_nil c rest⟩, count, split⟩
      · rw [split]
        exact List.mem_append_left _ member
      · have := numeral.lead
        rwa [split] at this

theorem readFraction_digits (fraction rest : List Char) (digits : AllDigits fraction)
    (nonempty : fraction ≠ []) (next : NoDigitNext rest) :
    readFraction ('.' :: (fraction ++ rest)) = (fraction, rest) := by
  simp [readFraction, takeWhile_digits _ _ digits next, dropWhile_digits _ _ digits next, nonempty]

theorem readFraction_none (rest : List Char) (next : ∀ c ∈ rest.head?, c ≠ '.') :
    readFraction rest = ([], rest) := by
  unfold readFraction
  split
  · exact absurd rfl (next '.' (by simp))
  · rfl

theorem readExponent_none (rest : List Char) (next : ∀ c ∈ rest.head?, c ≠ 'e' ∧ c ≠ 'E') :
    readExponent rest = (none, rest) := by
  cases rest with
  | nil => rfl
  | cons c rest =>
      have := next c (by simp)
      simp [readExponent, this]

theorem readExponent_digits (negative : Bool) (size rest : List Char) (digits : AllDigits size)
    (nonempty : size ≠ []) (next : NoDigitNext rest) :
    readExponent ('e' :: (if negative then '-' else '+') :: (size ++ rest)) =
      (some (if negative then -(decimal size : Int) else decimal size), rest) := by
  cases negative <;>
    simp [readExponent, JsonReader.readSign, takeWhile_digits _ _ digits next,
      dropWhile_digits _ _ digits next, nonempty]

/-- A number is read by its whole part, its fraction and its exponent. -/
theorem readMagnitude_parts (negative : Bool) (whole tail fraction middle rest : List Char)
    (exponent : Option Int) (digits : AllDigits whole) (nonempty : whole ≠ [])
    (lead : whole = ['0'] ∨ whole.head? ≠ some '0') (next : NoDigitNext tail)
    (fractional : readFraction tail = (fraction, middle)) (powered : readExponent middle = (exponent, rest))
    (marked : fraction ≠ [] ∨ exponent.isSome) :
    readMagnitude negative (whole ++ tail) =
      .ok (.float (ofDigits negative (decimal ((whole ++ fraction).dropWhile (· = '0')))
        ((whole ++ fraction).dropWhile (· = '0')).length (exponent.getD 0 - fraction.length)), rest) := by
  have run := takeWhile_digits whole tail digits next
  have taken : (if whole.head? = some '0' then ['0'] else whole) = whole := by
    rcases lead with rfl | lead
    · rfl
    · rw [if_neg lead]
  have float : (fraction.isEmpty && exponent.isNone) = false := by
    rcases marked with marked | marked
    · simp [marked]
    · obtain ⟨power, rfl⟩ := Option.isSome_iff_exists.mp marked
      simp
  unfold readMagnitude
  simp only [run, taken, List.drop_left, fractional, powered, float, List.isEmpty_iff, nonempty, if_false,
    Bool.false_eq_true]

theorem drop_leading_zeros (zeros : Nat) (text : List Char) (numeral : IsNumeral text) :
    (List.replicate zeros '0' ++ text).dropWhile (· = '0') = text := by
  rw [List.dropWhile_append_of_pos (by simp)]
  cases text with
  | nil => rfl
  | cons c rest =>
      have := numeral.lead
      simp_all [List.dropWhile]

theorem IsNumeral.append {digits : List Char} (numeral : IsNumeral digits) {more : List Char}
    (others : AllDigits more) : IsNumeral (digits ++ more) where
  digits c member := (List.mem_append.mp member).elim (numeral.digits c) (others c)
  lead := by rw [List.head?_append_of_ne_nil _ numeral.nonempty]; exact numeral.lead
  nonempty := by simp [numeral.nonempty]

theorem EndsNumber.noDigit {rest : List Char} (ends : EndsNumber rest) : NoDigitNext rest :=
  fun c first => (ends c first).1

theorem EndsNumber.powerless {rest : List Char} (ends : EndsNumber rest) :
    readExponent rest = (none, rest) :=
  readExponent_none rest fun c first => (ends c first).2.2

theorem readExponent_text (exponent : Int) (rest : List Char) (next : NoDigitNext rest) :
    readExponent ('e' :: (exponentText exponent ++ rest)) = (some exponent, rest) := by
  have digits : AllDigits (Nat.toDigits 10 exponent.natAbs) := fun _ member =>
    Nat.isDigit_of_mem_toDigits (by decide) (by decide) member
  unfold exponentText
  generalize written : (if (Nat.toDigits 10 exponent.natAbs).length < 2 then
    '0' :: Nat.toDigits 10 exponent.natAbs else Nat.toDigits 10 exponent.natAbs) = size
  have shown : AllDigits size ∧ size ≠ [] ∧ decimal size = exponent.natAbs := by
    have value := decimal_toDigits exponent.natAbs
    subst written
    split
    · refine ⟨fun c member => ?_, List.cons_ne_nil _ _, ?_⟩
      · rcases List.mem_cons.mp member with rfl | member
        · rfl
        · exact digits c member
      · rw [decimal_eq, Nat.ofDigitChars_cons] at *
        exact value
    · exact ⟨digits, Nat.toDigits_ne_nil, value⟩
  have read := readExponent_digits (decide (exponent < 0)) size rest shown.1 shown.2.1 next
  simp only [decide_eq_true_eq] at read
  dsimp only
  rw [written, List.cons_append, read, shown.2.2]
  congr 2
  split <;> omega

theorem zeros_digits (count : Nat) : AllDigits (List.replicate count '0') := by
  intro c member
  rw [List.eq_of_mem_replicate member]
  rfl

section Layouts

variable (negative : Bool) (digits rest : List Char) (numeral : IsNumeral digits) (ends : EndsNumber rest)
include numeral ends

/-- As in `0.00123`. -/
theorem readMagnitude_below_one (zeros : Nat) :
    readMagnitude negative ('0' :: '.' :: (List.replicate zeros '0' ++ digits) ++ rest) =
      .ok (.float (ofDigits negative (decimal digits) digits.length (-(zeros + digits.length : Nat))), rest) := by
  have fraction : AllDigits (List.replicate zeros '0' ++ digits) := by
    intro c member
    exact (List.mem_append.mp member).elim (zeros_digits zeros c) (numeral.digits c)
  have nonempty : List.replicate zeros '0' ++ digits ≠ [] := by simp [numeral.nonempty]
  have kept : (['0'] ++ (List.replicate zeros '0' ++ digits)).dropWhile (· = '0') = digits :=
    drop_leading_zeros (zeros + 1) digits numeral
  have parts := readMagnitude_parts negative ['0'] _ _ _ rest none (by simp [AllDigits]) (by simp)
    (Or.inl rfl) (by simp [NoDigitNext]) (readFraction_digits _ rest fraction nonempty ends.noDigit)
    ends.powerless (Or.inl nonempty)
  rw [kept] at parts
  simpa using parts

/-- As in `12300.0`. -/
theorem readMagnitude_whole (zeros : Nat) :
    readMagnitude negative (digits ++ List.replicate zeros '0' ++ ['.', '0'] ++ rest) =
      .ok (.float (ofDigits negative (decimal (digits ++ List.replicate (zeros + 1) '0'))
        (digits.length + (zeros + 1)) (-1)), rest) := by
  have whole := numeral.append (zeros_digits zeros)
  have longer := numeral.append (zeros_digits (zeros + 1))
  have kept : (digits ++ List.replicate zeros '0' ++ ['0']).dropWhile (· = '0') =
      digits ++ List.replicate (zeros + 1) '0' := by
    rw [List.append_assoc, ← List.replicate_succ']
    exact drop_leading_zeros 0 _ longer
  have parts := readMagnitude_parts negative _ _ _ _ rest none whole.digits whole.nonempty
    (Or.inr whole.lead) (by simp [NoDigitNext])
    (readFraction_digits ['0'] rest (zeros_digits 1) (by simp) ends.noDigit) ends.powerless
    (Or.inl (by simp))
  rw [kept] at parts
  simpa using parts

/-- As in `12.3`. -/
theorem readMagnitude_inner (place : Nat) (positive : 0 < place) (inside : place < digits.length) :
    readMagnitude negative (digits.take place ++ '.' :: digits.drop place ++ rest) =
      .ok (.float (ofDigits negative (decimal digits) digits.length (-(digits.length - place : Nat))),
        rest) := by
  have whole : AllDigits (digits.take place) := fun c member =>
    numeral.digits c (List.mem_of_mem_take member)
  have fraction : AllDigits (digits.drop place) := fun c member =>
    numeral.digits c (List.mem_of_mem_drop member)
  have nonempty : digits.take place ≠ [] := by
    simp only [ne_eq, List.take_eq_nil_iff, numeral.nonempty, or_false]
    omega
  have lead : (digits.take place).head? ≠ some '0' := by
    rw [List.head?_take, if_neg (by omega)]
    exact numeral.lead
  have remains : digits.drop place ≠ [] := by
    simp only [ne_eq, List.drop_eq_nil_iff]
    omega
  have parts := readMagnitude_parts negative _ _ _ _ rest none whole nonempty (Or.inr lead)
    (by simp [NoDigitNext]) (readFraction_digits _ rest fraction remains ends.noDigit) ends.powerless
    (Or.inl remains)
  have kept : digits.dropWhile (· = '0') = digits := drop_leading_zeros 0 digits numeral
  rw [List.take_append_drop, kept] at parts
  simpa using parts

/-- As in `1.23e+45`. -/
theorem readMagnitude_scientific (exponent : Int) :
    readMagnitude negative (scientific digits exponent ++ rest) =
      .ok (.float (ofDigits negative (decimal digits) digits.length (exponent - (digits.length - 1 : Nat))),
        rest) := by
  have kept : digits.dropWhile (· = '0') = digits := drop_leading_zeros 0 digits numeral
  have powered := readExponent_text exponent rest ends.noDigit
  have first : AllDigits (digits.take 1) := fun c member => numeral.digits c (List.mem_of_mem_take member)
  have fraction : AllDigits (digits.drop 1) := fun c member => numeral.digits c (List.mem_of_mem_drop member)
  have nonempty : digits.take 1 ≠ [] := by simp [numeral.nonempty]
  have lead : (digits.take 1).head? ≠ some '0' := by
    rw [List.head?_take, if_neg (by decide)]
    exact numeral.lead
  unfold scientific
  by_cases remains : digits.drop 1 = []
  · have alone : digits.take 1 = digits := by
      rw [← List.append_nil (digits.take 1), ← remains, List.take_append_drop]
    have parts := readMagnitude_parts negative (digits.take 1) _ [] _ rest (some exponent) first nonempty
      (Or.inr lead) (by simp [NoDigitNext]) (readFraction_none ('e' :: (exponentText exponent ++ rest))
        (by simp)) powered (Or.inr rfl)
    rw [List.append_nil, alone, kept] at parts
    have single : digits.length - 1 = 0 := by simpa using congrArg List.length remains
    simpa [remains, alone, single] using parts
  · have parts := readMagnitude_parts negative (digits.take 1) _ _ _ rest (some exponent) first nonempty
      (Or.inr lead) (by simp [NoDigitNext])
      (readFraction_digits (digits.drop 1) ('e' :: (exponentText exponent ++ rest)) fraction remains
        (by simp [NoDigitNext])) powered (Or.inl remains)
    rw [List.take_append_drop, kept] at parts
    have shown : (digits.drop 1).isEmpty = false := by simpa using remains
    simp only [shown, Bool.false_eq_true, if_false, List.append_assoc, List.cons_append, parts,
      Option.getD_some, List.length_drop]

end Layouts

/-- The text of a decimal reads as the number of its digits and power, with some zeros moved. -/
theorem readMagnitude_layout (negative : Bool) (digits rest : List Char) (point : Int)
    (numeral : IsNumeral digits) (ends : EndsNumber rest) :
    ∃ zeros : Nat, readMagnitude negative (layout digits point ++ rest) =
      .ok (.float (ofDigits negative (decimal (digits ++ List.replicate zeros '0'))
        (digits.length + zeros) (point - digits.length - zeros)), rest) := by
  have positive : 0 < digits.length := List.length_pos_of_ne_nil numeral.nonempty
  unfold layout
  by_cases near : -4 < point ∧ point ≤ 16
  · rw [if_pos near]
    by_cases below : point ≤ 0
    · rw [if_pos below, readMagnitude_below_one negative digits rest numeral ends]
      have power : -(((-point).toNat + digits.length : Nat) : Int) = point - digits.length - (0 : Nat) := by
        omega
      exact ⟨0, by rw [power]; simp⟩
    · rw [if_neg below]
      by_cases short : (digits.length : Int) ≤ point
      · rw [if_pos short, readMagnitude_whole negative digits rest numeral ends]
        have power : (-1 : Int) =
            point - digits.length - (((point - digits.length).toNat + 1 : Nat) : Int) := by omega
        exact ⟨(point - digits.length).toNat + 1, by rw [← power]⟩
      · rw [if_neg short, readMagnitude_inner negative digits rest numeral ends _ (by omega) (by omega)]
        have power : -((digits.length - point.toNat : Nat) : Int) = point - digits.length - (0 : Nat) := by
          omega
        exact ⟨0, by rw [power]; simp⟩
  · rw [if_neg near, readMagnitude_scientific negative digits rest numeral ends]
    have power : point - 1 - ((digits.length - 1 : Nat) : Int) = point - digits.length - (0 : Nat) := by
      omega
    exact ⟨0, by rw [power]; simp⟩

theorem bounded_negative (negative : Bool) (significand scale kept place : Nat)
    (reads : bounded false significand scale = .finite false kept place) :
    bounded negative significand scale = .finite negative kept place := by
  unfold bounded at *
  split at reads
  · injection reads with _ same place
    rw [if_pos (by assumption), same, place]
  · cases reads

/-- The sign of a decimal is the sign of the number it reads as. -/
theorem ofDecimal_negative (negative : Bool) (digits significand scale : Nat) (power : Int)
    (reads : ofDecimal false digits power = .finite false significand scale) :
    ofDecimal negative digits power = .finite negative significand scale := by
  have ratio : ∀ numerator denominator, ofRatio false numerator denominator = .finite false significand scale →
      ofRatio negative numerator denominator = .finite negative significand scale := by
    intro numerator denominator reads
    rw [ofRatio_packed] at reads ⊢
    generalize roundHalfEven _ _ = rounded at reads ⊢
    generalize scaleOf _ = place at reads ⊢
    unfold packed at *
    split at reads
    · rw [if_pos (by assumption)]
      exact bounded_negative negative _ _ _ _ reads
    · rw [if_neg (by assumption)]
      exact bounded_negative negative _ _ _ _ reads
  unfold ofDecimal at *
  split at reads
  · rw [if_pos (by assumption)]
    exact ratio _ _ reads
  · rw [if_neg (by assumption)]
    exact ratio _ _ reads

theorem ofRatio_none (negative : Bool) (denominator : Nat) (positive : 0 < denominator) :
    ofRatio negative 0 denominator = .finite negative 0 0 := by
  have rounded : roundHalfEven 0 denominator = 0 := by simp [roundHalfEven, positive]
  have scale : scaleOf 0 = 0 := rfl
  rw [ofRatio_packed, Nat.zero_mul, Nat.zero_div, scale, pow_zero, Nat.mul_one, rounded]
  rfl

theorem ofDecimal_none (negative : Bool) (power : Int) : ofDecimal negative 0 power = .finite negative 0 0 := by
  unfold ofDecimal
  split
  · rw [Nat.zero_mul]
    exact ofRatio_none negative 1 (by decide)
  · exact ofRatio_none negative _ (Nat.pow_pos (by decide))

theorem shortest_nonzero (significand scale : Nat) (nonzero : significand ≠ 0)
    (canonical : isCanonical (.finite false significand scale)) : (shortest significand scale).1 ≠ 0 := by
  intro none
  have reads := shortest_readsBack significand scale canonical
  rw [none, ofDecimal_none] at reads
  injection reads with _ zero
  exact nonzero zero.symm

theorem readMagnitude_zero (negative : Bool) (rest : List Char) (ends : EndsNumber rest) :
    readMagnitude negative ('0' :: '.' :: '0' :: rest) = .ok (.float (.finite negative 0 0), rest) :=
  readMagnitude_parts negative ['0'] _ _ _ rest none (zeros_digits 1) (by simp) (Or.inl rfl)
    (by simp [NoDigitNext]) (readFraction_digits ['0'] rest (zeros_digits 1) (by simp) ends.noDigit)
    ends.powerless (Or.inl (by simp))

/-- The text of a canonical number reads back as the number. -/
theorem readMagnitude_text (negative : Bool) (significand scale : Nat) (rest : List Char)
    (canonical : isCanonical (.finite false significand scale)) (ends : EndsNumber rest) :
    readMagnitude negative (magnitudeText significand scale ++ rest) =
      .ok (.float (.finite negative significand scale), rest) := by
  unfold magnitudeText
  by_cases zero : significand = 0
  · have first : scale = 0 := by
      simp only [isCanonical, zero, Bool.and_eq_true, Bool.or_eq_true, decide_eq_true_eq] at canonical
      omega
    rw [if_pos zero, zero, first]
    exact readMagnitude_zero negative rest ends
  · rw [if_neg zero]
    have reads := ofDecimal_negative negative _ _ _ _ (shortest_readsBack significand scale canonical)
    have numeral := toDigits_numeral _ (shortest_nonzero significand scale zero canonical)
    generalize shortest significand scale = found at *
    obtain ⟨digits, power⟩ := found
    dsimp only at *
    obtain ⟨kept, dropped, split⟩ := dropZeros_append _ numeral
    obtain ⟨zeros, read⟩ := readMagnitude_layout negative _ rest ((Nat.toDigits 10 digits).length + power)
      kept ends
    have longer := kept.append (zeros_digits zeros)
    have least := numeral_least _ longer
    have most := decimal_lt _ longer.digits
    have value : decimal (dropZeros (Nat.toDigits 10 digits)) * 10 ^ dropped = digits := by
      rw [← decimal_zeros, ← split, decimal_toDigits]
    have size : (Nat.toDigits 10 digits).length = (dropZeros (Nat.toDigits 10 digits)).length + dropped := by
      rw [congrArg List.length split, List.length_append, List.length_replicate]
    rw [List.length_append, List.length_replicate] at least most
    rw [read]
    generalize dropZeros (Nat.toDigits 10 digits) = text at *
    have place : ((Nat.toDigits 10 digits).length : Int) + power - text.length - zeros =
        power + dropped - zeros := by omega
    have moved : ofDecimal negative (decimal (text ++ List.replicate zeros '0')) (power + dropped - zeros) =
        .finite negative significand scale := by
      rw [decimal_zeros, ofDecimal_shifted, ← ofDecimal_shifted negative _ dropped, value,
        Int.add_sub_cancel, reads]
    rw [place, ofDigits_finite negative _ _ significand scale _ least most zero moved]

end FunctionStack.Double
