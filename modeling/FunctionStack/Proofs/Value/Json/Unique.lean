import FunctionStack.Proofs.Value.Json.Number
import FunctionStack.Proofs.Value.Json.Text
import FunctionStack.Proofs.Value.Sort

/-!
A JSON text on one line spells one value only, keys in their order: the first character of a value tells its kind,
and where a value ends can be told from its text.
-/

namespace FunctionStack.JsonStyle

open Double (EndsNumber)

/-- A spelling on one line, with whole characters and commas for commas. -/
structure OneLine (style : JsonStyle) : Prop where
  whole : style.halves = none
  level : style.indent = none
  comma : style.comma.head? = some ','

theorem compact_oneLine : OneLine compact := ⟨rfl, rfl, rfl⟩

theorem spaced_oneLine : OneLine spaced := ⟨rfl, rfl, rfl⟩

inductive Kind where
  | null
  | bool
  | number
  | str
  | arr
  | obj
  deriving DecidableEq

def kindOf : Value → Kind
  | .null => .null
  | .bool _ => .bool
  | .int _ => .number
  | .float _ => .number
  | .str _ => .str
  | .arr _ => .arr
  | .obj _ => .obj

/-- The kind of the values that begin with a character. -/
def kindFrom? (c : Char) : Option Kind :=
  if c = 'n' then some .null
  else if c = 't' || c = 'f' then some .bool
  else if c = '"' then some .str
  else if c = '[' then some .arr
  else if c = Char.ofNat 123 then some .obj
  else if c.isDigit || c = '-' || c = 'I' || c = 'N' then some .number
  else none

theorem kindFrom?_number (c : Char) (lead : (c.isDigit || c = '-' || c = 'I' || c = 'N') = true) :
    kindFrom? c = some .number := by
  have apart : ∀ d ∈ ['n', 't', 'f', '"', '[', Char.ofNat 123], c ≠ d := by
    rintro d member rfl
    simp only [List.mem_cons, List.not_mem_nil, or_false] at member
    rcases member with rfl | rfl | rfl | rfl | rfl | rfl <;> exact absurd lead (by decide)
  simp only [List.mem_cons, List.not_mem_nil, or_false, forall_eq_or_imp, forall_eq] at apart
  unfold kindFrom?
  simp [apart, lead]

/-- The first character of a value tells its kind. -/
theorem write_begins (style : JsonStyle) (depth : Nat) (value : Value) (proper : value.isProper = true) :
    ∃ c tail, style.write depth value = c :: tail ∧ kindFrom? c = some (kindOf value) := by
  cases value with
  | null => exact ⟨'n', ['u', 'l', 'l'], by rw [write]; rfl, rfl⟩
  | bool truth =>
      cases truth
      · exact ⟨'f', ['a', 'l', 's', 'e'], by rw [write]; rfl, rfl⟩
      · exact ⟨'t', ['r', 'u', 'e'], by rw [write]; rfl, rfl⟩
  | int number =>
      have text := intText_signed number []
      rw [List.append_nil, List.append_nil] at text
      rw [write, text]
      obtain ⟨c, tail, digits, digit⟩ := toDigits_begins number.natAbs
      unfold signed
      split
      · exact ⟨'-', _, rfl, rfl⟩
      · exact ⟨c, tail, digits, kindFrom?_number c (by simp [digit])⟩
  | float number =>
      obtain ⟨c, tail, text, lead⟩ := writeFloat_begins number (by simpa [Value.isProper] using proper)
      exact ⟨c, tail, by rw [write, text], kindFrom?_number c lead⟩
  | str text => exact ⟨'"', _, by rw [write, writeText, List.cons_append], rfl⟩
  | arr items =>
      cases items with
      | nil => exact ⟨'[', _, by rw [write], rfl⟩
      | cons item items => exact ⟨'[', _, by simp only [write, List.cons_append]; rfl, rfl⟩
  | obj fields =>
      cases fields with
      | nil => exact ⟨Char.ofNat 123, _, by rw [write], rfl⟩
      | cons field fields => exact ⟨Char.ofNat 123, _, by simp only [write, List.cons_append]; rfl, rfl⟩

theorem write_kind (style : JsonStyle) (depth : Nat) (a b : Value) (r s : List Char)
    (proper : a.isProper = true) (regular : b.isProper = true)
    (same : style.write depth a ++ r = style.write depth b ++ s) : kindOf a = kindOf b := by
  obtain ⟨c, tail, first, kind⟩ := write_begins style depth a proper
  obtain ⟨d, rest, second, other⟩ := write_begins style depth b regular
  rw [first, second] at same
  rw [(List.cons.inj same).1, other] at kind
  exact Option.some.inj kind.symm

theorem write_no_close (style : JsonStyle) (depth : Nat) (value : Value) (r s : List Char) (c : Char)
    (proper : value.isProper = true) (other : kindFrom? c = none) : style.write depth value ++ r ≠ c :: s := by
  obtain ⟨lead, tail, text, kind⟩ := write_begins style depth value proper
  rw [text]
  intro clash
  rw [(List.cons.inj clash).1, other] at kind
  cases kind

section OneLine

variable (style : JsonStyle) (flat : OneLine style)
include flat

theorem OneLine.lineBreak (depth : Nat) : style.lineBreak depth = [] := by
  unfold JsonStyle.lineBreak
  rw [flat.level]

theorem OneLine.comma_cons : style.comma = ',' :: style.comma.tail := by
  have := flat.comma
  cases comma : style.comma <;> simp_all

theorem write_items (depth : Nat) (item : Value) (items : List Value) (r : List Char) :
    style.write depth (.arr (item :: items)) ++ r =
      '[' :: (style.write (depth + 1) item ++ (style.writeItems (depth + 1) items ++ ']' :: r)) := by
  rw [write, flat.lineBreak, flat.lineBreak]
  simp only [List.append_nil, List.cons_append, List.append_assoc, List.nil_append]

theorem writeItems_step (depth : Nat) (item : Value) (items : List Value) (r : List Char) :
    style.writeItems depth (item :: items) ++ r =
      ',' :: (style.comma.tail ++ (style.write depth item ++ (style.writeItems depth items ++ r))) := by
  rw [writeItems, flat.lineBreak]
  conv => lhs; rw [flat.comma_cons]
  simp only [List.append_nil, List.cons_append, List.append_assoc]

theorem write_fields (depth : Nat) (key : String) (value : Value) (fields : Fields) (r : List Char) :
    style.write depth (.obj ((key, value) :: fields)) ++ r =
      Char.ofNat 123 :: (style.writeText key ++ (style.colon ++ (style.write (depth + 1) value ++
        (style.writeFields (depth + 1) fields ++ Char.ofNat 125 :: r)))) := by
  rw [write, flat.lineBreak, flat.lineBreak]
  simp only [List.append_nil, List.cons_append, List.append_assoc, List.nil_append]

theorem writeFields_step (depth : Nat) (key : String) (value : Value) (fields : Fields) (r : List Char) :
    style.writeFields depth ((key, value) :: fields) ++ r =
      ',' :: (style.comma.tail ++ (style.writeText key ++ (style.colon ++ (style.write depth value ++
        (style.writeFields depth fields ++ r))))) := by
  rw [writeFields, flat.lineBreak]
  conv => lhs; rw [flat.comma_cons]
  simp only [List.append_nil, List.cons_append, List.append_assoc]

theorem items_ends (depth : Nat) (items : List Value) (r : List Char) :
    EndsNumber (style.writeItems depth items ++ ']' :: r) := by
  cases items with
  | nil => simp [writeItems, EndsNumber]
  | cons item items =>
      rw [writeItems_step style flat]
      simp [EndsNumber]

theorem fields_ends (depth : Nat) (fields : Fields) (r : List Char) :
    EndsNumber (style.writeFields depth fields ++ Char.ofNat 125 :: r) := by
  cases fields with
  | nil => simp [writeFields, EndsNumber]
  | cons field fields =>
      rw [writeFields_step style flat]
      simp [EndsNumber]

/-- What a value that is followed by a delimiter says about itself and about what follows. -/
def Unique (a : Value) : Prop := ∀ (depth : Nat) (b : Value) (r s : List Char), a.isProper = true →
  b.isProper = true → EndsNumber r → EndsNumber s → style.write depth a ++ r = style.write depth b ++ s →
    a = b ∧ r = s

theorem writeItems_unique (depth : Nat) (a b : List Value) (r s : List Char)
    (parts : ∀ item ∈ a, Unique style item) (proper : ∀ item ∈ a, item.isProper = true)
    (regular : ∀ item ∈ b, item.isProper = true)
    (same : style.writeItems depth a ++ ']' :: r = style.writeItems depth b ++ ']' :: s) : a = b ∧ r = s := by
  induction a generalizing b with
  | nil =>
      cases b with
      | nil => simpa [writeItems] using same
      | cons y b =>
          rw [writeItems_step style flat, writeItems, List.nil_append] at same
          cases (List.cons.inj same).1
  | cons x a ih =>
      cases b with
      | nil =>
          rw [writeItems_step style flat, writeItems, List.nil_append] at same
          cases (List.cons.inj same).1
      | cons y b =>
          rw [writeItems_step style flat, writeItems_step style flat] at same
          have text := List.append_cancel_left (List.cons.inj same).2
          obtain ⟨rfl, rest⟩ := parts x (List.mem_cons_self ..) depth y _ _ (proper x (List.mem_cons_self ..))
            (regular y (List.mem_cons_self ..)) (items_ends style flat depth a r) (items_ends style flat depth b s) text
          obtain ⟨rfl, remains⟩ := ih b (fun item member => parts item (List.mem_cons_of_mem _ member))
            (fun item member => proper item (List.mem_cons_of_mem _ member))
            (fun item member => regular item (List.mem_cons_of_mem _ member)) rest
          exact ⟨rfl, remains⟩

theorem writeFields_unique (depth : Nat) (a b : Fields) (r s : List Char)
    (parts : ∀ key value, (key, value) ∈ a → Unique style value)
    (proper : ∀ key value, (key, value) ∈ a → value.isProper = true)
    (regular : ∀ key value, (key, value) ∈ b → value.isProper = true)
    (same : style.writeFields depth a ++ Char.ofNat 125 :: r = style.writeFields depth b ++ Char.ofNat 125 :: s) :
    a = b ∧ r = s := by
  induction a generalizing b with
  | nil =>
      cases b with
      | nil => simpa [writeFields] using same
      | cons y b =>
          rw [writeFields_step style flat, writeFields, List.nil_append] at same
          cases (List.cons.inj same).1
  | cons x a ih =>
      cases b with
      | nil =>
          rw [writeFields_step style flat, writeFields, List.nil_append] at same
          cases (List.cons.inj same).1
      | cons y b =>
          obtain ⟨key, value⟩ := x
          obtain ⟨other, found⟩ := y
          rw [writeFields_step style flat, writeFields_step style flat] at same
          have text := List.append_cancel_left (List.cons.inj same).2
          obtain ⟨rfl, behind⟩ := writeText_unique style flat.whole key other _ _ text
          obtain ⟨rfl, rest⟩ := parts key value (List.mem_cons_self ..) depth found _ _
            (proper key value (List.mem_cons_self ..)) (regular key found (List.mem_cons_self ..))
            (fields_ends style flat depth a r) (fields_ends style flat depth b s) (List.append_cancel_left behind)
          obtain ⟨rfl, remains⟩ := ih b (fun k v member => parts k v (List.mem_cons_of_mem _ member))
            (fun k v member => proper k v (List.mem_cons_of_mem _ member))
            (fun k v member => regular k v (List.mem_cons_of_mem _ member)) rest
          exact ⟨rfl, remains⟩

theorem arr_unique (items : List Value) (parts : ∀ item ∈ items, Unique style item) :
    Unique style (.arr items) := by
  intro depth b r s proper regular first second same
  have kind := write_kind style depth _ b r s proper regular same
  cases b <;> simp only [kindOf, reduceCtorEq] at kind
  rename_i others
  rw [Value.isProper, Value.areProper_iff] at proper regular
  cases items with
  | nil =>
      cases others with
      | nil => exact ⟨rfl, List.append_cancel_left same⟩
      | cons other others =>
          rw [write_items style flat, write, List.cons_append] at same
          exact absurd (List.cons.inj same).2.symm
            (write_no_close style _ other _ _ ']' (regular other (List.mem_cons_self ..)) rfl)
  | cons item items =>
      cases others with
      | nil =>
          rw [write_items style flat, write, List.cons_append] at same
          exact absurd (List.cons.inj same).2
            (write_no_close style _ item _ _ ']' (proper item (List.mem_cons_self ..)) rfl)
      | cons other others =>
          rw [write_items style flat, write_items style flat] at same
          obtain ⟨rfl, rest⟩ := parts item (List.mem_cons_self ..) (depth + 1) other _ _
            (proper item (List.mem_cons_self ..)) (regular other (List.mem_cons_self ..))
            (items_ends style flat _ items r) (items_ends style flat _ others s) (List.cons.inj same).2
          obtain ⟨rfl, remains⟩ := writeItems_unique style flat _ items others r s
            (fun x member => parts x (List.mem_cons_of_mem _ member))
            (fun x member => proper x (List.mem_cons_of_mem _ member))
            (fun x member => regular x (List.mem_cons_of_mem _ member)) rest
          exact ⟨rfl, remains⟩

theorem obj_unique (fields : Fields) (parts : ∀ key value, (key, value) ∈ fields → Unique style value) :
    Unique style (.obj fields) := by
  intro depth b r s proper regular first second same
  have kind := write_kind style depth _ b r s proper regular same
  cases b <;> simp only [kindOf, reduceCtorEq] at kind
  rename_i others
  rw [Value.obj_isProper] at proper regular
  have quoted (key : String) (rest tail : List Char) : style.writeText key ++ rest ≠ Char.ofNat 125 :: tail := by
    rw [writeText, List.cons_append, List.cons_append]
    intro clash
    cases (List.cons.inj clash).1
  cases fields with
  | nil =>
      cases others with
      | nil => exact ⟨rfl, List.append_cancel_left same⟩
      | cons other others =>
          rw [write_fields style flat, write, List.cons_append] at same
          exact absurd (List.cons.inj same).2.symm (quoted _ _ _)
  | cons field fields =>
      cases others with
      | nil =>
          rw [write_fields style flat, write, List.cons_append] at same
          exact absurd (List.cons.inj same).2 (quoted _ _ _)
      | cons other others =>
          obtain ⟨key, value⟩ := field
          obtain ⟨label, found⟩ := other
          rw [write_fields style flat, write_fields style flat] at same
          obtain ⟨rfl, behind⟩ := writeText_unique style flat.whole key label _ _ (List.cons.inj same).2
          obtain ⟨rfl, rest⟩ := parts key value (List.mem_cons_self ..) (depth + 1) found _ _
            (proper.2 key value (List.mem_cons_self ..)) (regular.2 key found (List.mem_cons_self ..))
            (fields_ends style flat _ fields r) (fields_ends style flat _ others s) (List.append_cancel_left behind)
          obtain ⟨rfl, remains⟩ := writeFields_unique style flat _ fields others r s
            (fun k v member => parts k v (List.mem_cons_of_mem _ member))
            (fun k v member => proper.2 k v (List.mem_cons_of_mem _ member))
            (fun k v member => regular.2 k v (List.mem_cons_of_mem _ member)) rest
          exact ⟨rfl, remains⟩

/-- Two values in front of delimiters are the same if their texts run the same from their start on. -/
theorem write_unique (a : Value) : Unique style a := by
  induction a using Value.nested with
  | arr items ih => exact arr_unique style flat items ih
  | obj fields ih => exact obj_unique style flat fields ih
  | null =>
      intro depth b r s proper regular first second same
      have kind := write_kind style depth _ b r s proper regular same
      cases b <;> simp only [kindOf, reduceCtorEq] at kind
      exact ⟨rfl, List.append_cancel_left same⟩
  | bool truth =>
      intro depth b r s proper regular first second same
      have kind := write_kind style depth _ b r s proper regular same
      cases b <;> simp only [kindOf, reduceCtorEq] at kind
      rename_i other
      cases truth <;> cases other <;> simp_all [write]
  | int number =>
      intro depth b r s proper regular first second same
      have kind := write_kind style depth _ b r s proper regular same
      cases b <;> simp only [kindOf, reduceCtorEq] at kind
      case int other =>
        rw [write, write] at same
        obtain ⟨rfl, rest⟩ := intText_unique number other r s first.noDigit second.noDigit same
        exact ⟨rfl, rest⟩
      case float other =>
        rw [write, write] at same
        exact absurd same (intText_ne_float number other r s (by simpa [Value.isProper] using regular) first second)
  | float number =>
      intro depth b r s proper regular first second same
      have kind := write_kind style depth _ b r s proper regular same
      cases b <;> simp only [kindOf, reduceCtorEq] at kind
      case int other =>
        rw [write, write] at same
        exact absurd same.symm
          (intText_ne_float other number s r (by simpa [Value.isProper] using proper) second first)
      case float other =>
        rw [write, write] at same
        obtain ⟨rfl, rest⟩ := writeFloat_unique number other r s (by simpa [Value.isProper] using proper)
          (by simpa [Value.isProper] using regular) first second same
        exact ⟨rfl, rest⟩
  | str text =>
      intro depth b r s proper regular first second same
      have kind := write_kind style depth _ b r s proper regular same
      cases b <;> simp only [kindOf, reduceCtorEq] at kind
      rename_i other
      rw [write, write] at same
      obtain ⟨rfl, rest⟩ := writeText_unique style flat.whole text other r s same
      exact ⟨rfl, rest⟩

theorem toJson_unique (a b : Value) (proper : a.isProper = true) (regular : b.isProper = true)
    (same : a.toJson style = b.toJson style) : a = b := by
  have text : style.write 0 a ++ [] = style.write 0 b ++ [] := by
    rw [List.append_nil, List.append_nil]
    exact String.ofList_inj.mp same
  exact (write_unique style flat a 0 b [] [] proper regular (by simp [EndsNumber]) (by simp [EndsNumber]) text).1

end OneLine

end FunctionStack.JsonStyle
