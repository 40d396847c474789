import FunctionStack.Proofs.Number.Text
import FunctionStack.Value.Json

/-!
Numbers in JSON texts. What stands between a number and the next delimiter tells the number, and whether it is an
integer.
-/

namespace FunctionStack.JsonStyle

open Double (EndsNumber NoDigitNext AllDigits isCanonical magnitudeText readMagnitude_text takeWhile_digits
  dropWhile_digits decimal_toDigits)
open JsonReader (readMagnitude decimal maximumDigits)

theorem toDigits_digits (n : Nat) : AllDigits (Nat.toDigits 10 n) := fun _ member =>
  Nat.isDigit_of_mem_toDigits (by decide) (by decide) member

theorem toDigits_begins (n : Nat) : ∃ c tail, Nat.toDigits 10 n = c :: tail ∧ c.isDigit = true := by
  cases written : Nat.toDigits 10 n with
  | nil => exact absurd written Nat.toDigits_ne_nil
  | cons c tail => exact ⟨c, tail, rfl, toDigits_digits n c (by rw [written]; exact List.mem_cons_self ..)⟩

/-- A magnitude behind its sign. -/
def signed (negative : Bool) (text : List Char) : List Char := if negative then '-' :: text else text

theorem signed_unique (negative minus : Bool) (one two : List Char) (first : one.head? ≠ some '-')
    (second : two.head? ≠ some '-') (same : signed negative one = signed minus two) :
    negative = minus ∧ one = two := by
  cases negative <;> cases minus
  · exact ⟨rfl, same⟩
  · exact absurd (congrArg List.head? same) first
  · exact absurd (congrArg List.head? same).symm second
  · exact ⟨rfl, (List.cons.inj same).2⟩

theorem intText_signed (n : Int) (rest : List Char) :
    (toString n).toList ++ rest = signed (n < 0) (Nat.toDigits 10 n.natAbs ++ rest) := by
  cases n with
  | ofNat n => simp [signed, toString, Int.repr, Nat.toList_repr]
  | negSucc n => simp [signed, toString, Int.repr, Nat.toList_repr, Int.negSucc_lt_zero]

theorem toDigits_unsigned (n : Nat) (rest : List Char) : (Nat.toDigits 10 n ++ rest).head? ≠ some '-' := by
  obtain ⟨c, tail, written, digit⟩ := toDigits_begins n
  rw [written]
  simp only [List.cons_append, List.head?_cons, ne_eq, Option.some.injEq]
  rintro rfl
  cases digit

theorem toDigits_unique (m n : Nat) (r s : List Char) (first : NoDigitNext r) (second : NoDigitNext s)
    (same : Nat.toDigits 10 m ++ r = Nat.toDigits 10 n ++ s) : m = n ∧ r = s := by
  have digits := congrArg (List.takeWhile Char.isDigit) same
  have rests := congrArg (List.dropWhile Char.isDigit) same
  rw [takeWhile_digits _ _ (toDigits_digits m) first, takeWhile_digits _ _ (toDigits_digits n) second] at digits
  rw [dropWhile_digits _ _ (toDigits_digits m) first, dropWhile_digits _ _ (toDigits_digits n) second] at rests
  refine ⟨?_, rests⟩
  rw [← decimal_toDigits m, digits, decimal_toDigits]

theorem intText_unique (a b : Int) (r s : List Char) (first : NoDigitNext r) (second : NoDigitNext s)
    (same : (toString a).toList ++ r = (toString b).toList ++ s) : a = b ∧ r = s := by
  rw [intText_signed, intText_signed] at same
  obtain ⟨sign, text⟩ := signed_unique _ _ _ _ (toDigits_unsigned _ r) (toDigits_unsigned _ s) same
  obtain ⟨size, rest⟩ := toDigits_unique _ _ r s first second text
  rw [decide_eq_decide] at sign
  exact ⟨by omega, rest⟩

/-- Digits without a fraction or an exponent are an integer, unless they are too many. -/
theorem readMagnitude_digits (negative : Bool) (n : Nat) (rest : List Char) (ends : EndsNumber rest) :
    readMagnitude negative (Nat.toDigits 10 n ++ rest) =
      if maximumDigits < (Nat.toDigits 10 n).length then .error .numberTooLong
      else .ok (.int (if negative then -n else n), rest) := by
  have run := takeWhile_digits _ rest (toDigits_digits n) ends.noDigit
  have plain : JsonReader.readFraction rest = ([], rest) :=
    Double.readFraction_none rest fun c first => (ends c first).2.1
  have taken : (if (Nat.toDigits 10 n).head? = some '0' then ['0'] else Nat.toDigits 10 n) =
      Nat.toDigits 10 n := by
    by_cases zero : n = 0
    · rw [zero]
      rfl
    · rw [if_neg (Double.toDigits_numeral n zero).lead]
  have filled : (Nat.toDigits 10 n).isEmpty = false := by
    obtain ⟨c, tail, written, -⟩ := toDigits_begins n
    rw [written]
    rfl
  unfold readMagnitude
  simp only [run, taken, List.drop_left, plain, ends.powerless, filled]
  simp [decimal_toDigits]

theorem readMagnitude_integer (negative : Bool) (n : Nat) (rest after : List Char) (number : Double)
    (ends : EndsNumber rest) : readMagnitude negative (Nat.toDigits 10 n ++ rest) ≠ .ok (.float number, after) := by
  rw [readMagnitude_digits negative n rest ends]
  split <;> simp

theorem readMagnitude_begins (negative : Bool) (text : List Char) (found : Value × List Char)
    (reads : readMagnitude negative text = .ok found) : ∃ c tail, text = c :: tail ∧ c.isDigit = true := by
  cases text with
  | nil => simp [readMagnitude] at reads
  | cons c tail =>
      refine ⟨c, tail, rfl, ?_⟩
      by_contra other
      simp [readMagnitude, other] at reads

theorem magnitude_begins (significand scale : Nat) (rest : List Char)
    (canonical : isCanonical (.finite false significand scale)) (ends : EndsNumber rest) :
    ∃ c tail, magnitudeText significand scale ++ rest = c :: tail ∧ c.isDigit = true :=
  readMagnitude_begins false _ _ (readMagnitude_text false significand scale rest canonical ends)

theorem magnitude_ne (significand scale : Nat) (c : Char) (r text : List Char)
    (canonical : isCanonical (.finite false significand scale)) (ends : EndsNumber r) (lead : text.head? = some c)
    (other : c.isDigit = false) : magnitudeText significand scale ++ r ≠ text := by
  obtain ⟨digit, tail, written, isDigit⟩ := magnitude_begins significand scale r canonical ends
  rw [written]
  rintro rfl
  cases lead
  rw [other] at isDigit
  cases isDigit

theorem magnitude_unique (significand scale other place : Nat) (r s : List Char)
    (canonical : isCanonical (.finite false significand scale)) (regular : isCanonical (.finite false other place))
    (first : EndsNumber r) (second : EndsNumber s)
    (same : magnitudeText significand scale ++ r = magnitudeText other place ++ s) :
    significand = other ∧ scale = place ∧ r = s := by
  have one := readMagnitude_text false significand scale r canonical first
  have two := readMagnitude_text false other place s regular second
  rw [same, two] at one
  simp only [Except.ok.injEq, Prod.mk.injEq, Value.float.injEq, Double.finite.injEq, true_and] at one
  obtain ⟨⟨rfl, rfl⟩, rfl⟩ := one
  exact ⟨rfl, rfl, rfl⟩

def isNegative : Double → Bool
  | .finite negative _ _ => negative
  | .infinite negative => negative
  | .nan => false

def unsigned : Double → List Char
  | .finite _ significand scale => magnitudeText significand scale
  | .infinite _ => ['I', 'n', 'f', 'i', 'n', 'i', 't', 'y']
  | .nan => ['N', 'a', 'N']

theorem writeFloat_signed (number : Double) (rest : List Char) :
    writeFloat number ++ rest = signed (isNegative number) (unsigned number ++ rest) := by
  cases number with
  | finite negative significand scale =>
      unfold writeFloat
      cases negative <;> simp [isNegative, unsigned, signed]
  | infinite negative => cases negative <;> rfl
  | nan => rfl

theorem unsigned_head (number : Double) (rest : List Char) (canonical : number.isCanonical)
    (ends : EndsNumber rest) : (unsigned number ++ rest).head? ≠ some '-' := by
  cases number with
  | finite negative significand scale =>
      obtain ⟨c, tail, text, digit⟩ := magnitude_begins significand scale rest canonical ends
      rw [unsigned, text, List.head?_cons, ne_eq, Option.some.injEq]
      rintro rfl
      cases digit
  | infinite negative => simp [unsigned]
  | nan => simp [unsigned]

/-- The first characters of a floating-point number. -/
theorem writeFloat_begins (number : Double) (canonical : number.isCanonical) :
    ∃ c tail, writeFloat number = c :: tail ∧ (c.isDigit || c = '-' || c = 'I' || c = 'N') = true := by
  have text := writeFloat_signed number []
  rw [List.append_nil, List.append_nil] at text
  rw [text]
  unfold signed
  split
  · exact ⟨'-', _, rfl, rfl⟩
  · cases number with
    | finite negative significand scale =>
        obtain ⟨c, tail, written, digit⟩ :=
          magnitude_begins significand scale [] canonical (by simp [EndsNumber])
        rw [List.append_nil] at written
        exact ⟨c, tail, by rw [unsigned, written], by simp [digit]⟩
    | infinite negative => exact ⟨'I', _, rfl, rfl⟩
    | nan => exact ⟨'N', _, rfl, rfl⟩

theorem unsigned_unique (a b : Double) (r s : List Char) (canonical : a.isCanonical) (regular : b.isCanonical)
    (first : EndsNumber r) (second : EndsNumber s) (sign : isNegative a = isNegative b)
    (same : unsigned a ++ r = unsigned b ++ s) : a = b ∧ r = s := by
  cases a with
  | finite negative significand scale =>
      rw [unsigned] at same
      cases b with
      | finite minus other place =>
          rw [unsigned] at same
          obtain ⟨rfl, rfl, rest⟩ := magnitude_unique _ _ _ _ r s canonical regular first second same
          rw [isNegative, isNegative] at sign
          rw [sign]
          exact ⟨rfl, rest⟩
      | infinite minus => exact absurd same (magnitude_ne _ _ 'I' r _ canonical first rfl rfl)
      | nan => exact absurd same (magnitude_ne _ _ 'N' r _ canonical first rfl rfl)
  | infinite negative =>
      cases b with
      | finite minus other place =>
          rw [unsigned.eq_1] at same
          exact absurd same.symm (magnitude_ne _ _ 'I' s _ regular second rfl rfl)
      | infinite minus =>
          rw [isNegative, isNegative] at sign
          rw [sign]
          exact ⟨rfl, List.append_cancel_left same⟩
      | nan => simp [unsigned] at same
  | nan =>
      cases b with
      | finite minus other place =>
          rw [unsigned.eq_1] at same
          exact absurd same.symm (magnitude_ne _ _ 'N' s _ regular second rfl rfl)
      | infinite minus => simp [unsigned] at same
      | nan => exact ⟨rfl, List.append_cancel_left same⟩

theorem writeFloat_unique (a b : Double) (r s : List Char) (canonical : a.isCanonical) (regular : b.isCanonical)
    (first : EndsNumber r) (second : EndsNumber s) (same : writeFloat a ++ r = writeFloat b ++ s) :
    a = b ∧ r = s := by
  rw [writeFloat_signed, writeFloat_signed] at same
  obtain ⟨sign, text⟩ := signed_unique _ _ _ _ (unsigned_head a r canonical first)
    (unsigned_head b s regular second) same
  exact unsigned_unique a b r s canonical regular first second sign text

theorem intText_ne_float (n : Int) (number : Double) (r s : List Char) (canonical : number.isCanonical)
    (first : EndsNumber r) (second : EndsNumber s) : (toString n).toList ++ r ≠ writeFloat number ++ s := by
  intro same
  rw [intText_signed, writeFloat_signed] at same
  have text := (signed_unique _ _ _ _ (toDigits_unsigned _ r) (unsigned_head number s canonical second) same).2
  cases number with
  | finite negative significand scale =>
      have reads := readMagnitude_text false significand scale s canonical second
      rw [unsigned] at text
      rw [← text] at reads
      exact readMagnitude_integer false _ r s _ first reads
  | infinite negative =>
      obtain ⟨c, tail, written, digit⟩ := toDigits_begins n.natAbs
      rw [written] at text
      rw [(List.cons.inj text).1] at digit
      cases digit
  | nan =>
      obtain ⟨c, tail, written, digit⟩ := toDigits_begins n.natAbs
      rw [written] at text
      rw [(List.cons.inj text).1] at digit
      cases digit

end FunctionStack.JsonStyle
