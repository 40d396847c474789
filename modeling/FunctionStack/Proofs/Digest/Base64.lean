import FunctionStack.Digest.Blob
import Mathlib.Tactic

/-!
Base 64 can be read back, so that a content hash is as good as the hash itself; and it is a text of a known length from
a known alphabet.
-/

namespace FunctionStack.Digest

theorem sextetValue_sextet (n : Nat) : sextetValue (sextet n) = n % 64 := by
  have each : ∀ k < 64, sextetValue (alphabet.getD k 'A') = k := by decide +kernel
  exact each (n % 64) (Nat.mod_lt n (by decide))

/-- The characters that can stand in a text in base 64. -/
def isBase64Char (c : Char) : Bool := c = '=' || alphabet.contains c

theorem sextet_plain (n : Nat) : sextet n ≠ '=' ∧ isBase64Char (sextet n) = true := by
  have each : ∀ k < 64, alphabet.getD k 'A' ≠ '=' ∧ isBase64Char (alphabet.getD k 'A') = true := by decide +kernel
  exact each (n % 64) (Nat.mod_lt n (by decide))

/-- The number that four characters stand for. -/
theorem sextets_value (n : Nat) (small : n < 16777216) :
    sextetValue (sextet (n / 262144)) * 262144 + sextetValue (sextet (n / 4096)) * 4096 +
      sextetValue (sextet (n / 64)) % 64 * 64 + sextetValue (sextet n) % 64 = n := by
  simp only [sextetValue_sextet]
  omega

theorem byte_unique (n : Nat) (byte : UInt8) (same : n % 256 = byte.toNat) : UInt8.ofNat n = byte := by
  apply UInt8.toNat_inj.mp
  rw [UInt8.toNat_ofNat', ← same]

theorem ofBase64Chars_base64Chars (bytes : List UInt8) : ofBase64Chars (base64Chars bytes) = bytes := by
  have pad : sextetValue '=' % 64 = 0 := by decide +kernel
  have none : ofBase64Chars [] = [] := rfl
  induction bytes using base64Chars.induct with
  | case1 => rfl
  | case2 a =>
      have bound := a.toNat_lt
      rw [base64Chars, ofBase64Chars, none]
      simp only [sextetValue_sextet, pad, if_true, List.take_succ_cons, List.take_zero, List.append_nil,
        List.cons.injEq, and_true]
      exact byte_unique _ a (by omega)
  | case3 a b =>
      have first := a.toNat_lt
      have second := b.toNat_lt
      have apart := (sextet_plain ((a.toNat * 65536 + b.toNat * 256) / 64)).1
      rw [base64Chars, ofBase64Chars, none]
      simp only [sextetValue_sextet, pad, if_neg apart, if_true, List.take_succ_cons, List.take_zero, List.append_nil,
        List.cons.injEq, and_true]
      exact ⟨byte_unique _ a (by omega), byte_unique _ b (by omega)⟩
  | case4 a b c rest ih =>
      have first := a.toNat_lt
      have second := b.toNat_lt
      have third := c.toNat_lt
      have apart := (sextet_plain ((a.toNat * 65536 + b.toNat * 256 + c.toNat) / 64)).1
      have whole := (sextet_plain (a.toNat * 65536 + b.toNat * 256 + c.toNat)).1
      rw [base64Chars, ofBase64Chars, ih, if_neg apart, if_neg whole, sextets_value _ (by omega)]
      simp only [List.cons_append, List.nil_append, List.cons.injEq, and_true]
      exact ⟨byte_unique _ a (by omega), byte_unique _ b (by omega), byte_unique _ c (by omega)⟩

theorem base64_unique (a b : Bytes) (same : base64 a = base64 b) : a = b := by
  have chars := String.ofList_inj.mp same
  have lists : a.data.toList = b.data.toList := by
    rw [← ofBase64Chars_base64Chars a.data.toList, chars, ofBase64Chars_base64Chars]
  exact ByteArray.ext (Array.toList_inj.mp lists)

theorem base64Chars_length (bytes : List UInt8) : (base64Chars bytes).length = 4 * ((bytes.length + 2) / 3) := by
  induction bytes using base64Chars.induct with
  | case1 => rfl
  | case2 a => simp [base64Chars]
  | case3 a b => simp [base64Chars]
  | case4 a b c rest ih =>
      simp only [base64Chars, List.length_cons, ih]
      omega

theorem base64Chars_alphabet (bytes : List UInt8) : ∀ c ∈ base64Chars bytes, isBase64Char c = true := by
  have digit (n : Nat) := (sextet_plain n).2
  have pad : isBase64Char '=' = true := by decide +kernel
  induction bytes using base64Chars.induct with
  | case1 => simp [base64Chars]
  | case2 a => simp [base64Chars, digit, pad]
  | case3 a b => simp [base64Chars, digit, pad]
  | case4 a b c rest ih => simpa [base64Chars, digit] using ih

/-- A hash has eight words of four bytes. -/
theorem sha256_size (message : Bytes) : (sha256 message).size = 32 := by
  rw [sha256, Sha256.State.toBytes, List.size_toByteArray]
  rfl

theorem contentHash_length (data : Bytes) : (contentHash data).toList.length = 44 := by
  rw [contentHash, base64, String.toList_ofList, base64Chars_length, Array.length_toList]
  have size : (sha256 data).data.size = 32 := sha256_size data
  rw [size]

theorem contentHash_alphabet (data : Bytes) : ∀ c ∈ (contentHash data).toList, isBase64Char c = true := by
  rw [contentHash, base64, String.toList_ofList]
  exact base64Chars_alphabet _

/-- Two messages of which the hash is the same are themselves the same. -/
def NoCollision (a b : Bytes) : Prop := sha256 a = sha256 b → a = b

theorem contentHash_iff (a b : Bytes) (apart : NoCollision a b) : contentHash a = contentHash b ↔ a = b := by
  constructor
  · exact fun same => apart (base64_unique _ _ same)
  · exact fun same => congrArg contentHash same

theorem contentHashes_iff (first second : List Bytes) (apart : ∀ a ∈ first, ∀ b ∈ second, NoCollision a b) :
    first.map contentHash = second.map contentHash ↔ first = second := by
  constructor
  · intro same
    induction first generalizing second with
    | nil => exact (List.map_eq_nil_iff.mp same.symm).symm
    | cons a rest ih =>
        cases second with
        | nil => cases same
        | cons b others =>
            obtain ⟨head, tail⟩ := List.cons.inj same
            have equal := (contentHash_iff a b (apart a (List.mem_cons_self ..) b (List.mem_cons_self ..))).mp head
            have remaining := ih others
              (fun x member y listed => apart x (List.mem_cons_of_mem _ member) y (List.mem_cons_of_mem _ listed)) tail
            rw [equal, remaining]
  · exact congrArg (List.map contentHash)

end FunctionStack.Digest
