import FunctionStack.Proofs.Template.References
import FunctionStack.Template.Core

/-!
Placeholders in texts that are put together: a name without a placeholder adds none to an ARN around it.
-/

namespace FunctionStack

/-- A text in which a placeholder begins. -/
def opensPlaceholder (text : List Char) : Bool := Text.occursIn ['$', Char.ofNat 123] text

theorem contains_opens (text : String) : Text.contains text "$\x7b" = opensPlaceholder text.toList := rfl

theorem opensPlaceholder_cons (c : Char) (rest : List Char) :
    opensPlaceholder (c :: rest) = ((c = '$' && rest.head? = some (Char.ofNat 123)) || opensPlaceholder rest) := by
  rw [opensPlaceholder, Text.occursIn]
  congr 1
  cases rest with
  | nil => simp [List.isPrefixOf]
  | cons d rest => simp [List.isPrefixOf, eq_comm, BEq.beq]

theorem opensPlaceholder_append (a b : List Char) (d : Char) (apart : d ≠ Char.ofNat 123) :
    opensPlaceholder (a ++ d :: b) = (opensPlaceholder a || opensPlaceholder (d :: b)) := by
  induction a with
  | nil => rfl
  | cons c a ih =>
      rw [List.cons_append, opensPlaceholder_cons, opensPlaceholder_cons, ih, Bool.or_assoc]
      congr 2
      cases a with
      | nil => simp [apart]
      | cons _ _ => rfl

theorem placeholders_plain (text : List Char) (plain : opensPlaceholder text = false) : placeholders text = [] := by
  induction text with
  | nil => rfl
  | cons c rest ih =>
      rw [opensPlaceholder_cons, Bool.or_eq_false_iff] at plain
      rw [placeholders, plain.1, if_neg Bool.false_ne_true]
      exact ih plain.2

/-- What follows a dollar sign shows whether a placeholder begins there, and where it ends. -/
def isSettled : List Char → Bool
  | [] => false
  | c :: name => c ≠ Char.ofNat 123 || name.contains (Char.ofNat 125)

/-- Every placeholder that begins in a text also ends in it. -/
def isBalanced : List Char → Bool
  | [] => true
  | c :: rest => (c ≠ '$' || isSettled rest) && isBalanced rest

theorem takeWhile_stopped (p : Char → Bool) (a b : List Char) (stops : ∃ c ∈ a, p c = false) :
    (a ++ b).takeWhile p = a.takeWhile p := by
  induction a with
  | nil =>
      obtain ⟨c, member, _⟩ := stops
      cases member
  | cons c a ih =>
      rw [List.cons_append, List.takeWhile_cons, List.takeWhile_cons]
      cases taken : p c with
      | false => rfl
      | true =>
          obtain ⟨d, member, stop⟩ := stops
          rcases List.mem_cons.mp member with rfl | member
          · rw [taken] at stop
            cases stop
          · simp only [if_true]
            rw [ih ⟨d, member, stop⟩]

theorem placeholders_append (a b : List Char) (balanced : isBalanced a = true) :
    placeholders (a ++ b) = placeholders a ++ placeholders b := by
  induction a with
  | nil => rfl
  | cons c rest ih =>
      rw [isBalanced, Bool.and_eq_true] at balanced
      obtain ⟨head, tail⟩ := balanced
      rw [List.cons_append, placeholders, placeholders, ih tail]
      by_cases dollar : c = '$'
      · cases rest with
        | nil => simp [dollar, isSettled] at head
        | cons d name =>
            by_cases brace : d = Char.ofNat 123
            · have ends : ∃ e ∈ name, (decide (e ≠ Char.ofNat 125)) = false := by
                exact ⟨Char.ofNat 125, by simpa [dollar, brace, isSettled] using head, by simp⟩
              have name_same := takeWhile_stopped (fun e => decide (e ≠ Char.ofNat 125)) name b ends
              simp only [dollar, brace, List.cons_append, List.head?_cons, List.tail_cons, decide_true, Bool.and_self,
                if_true]
              rw [name_same]
            · simp [brace]
      · simp [dollar]

namespace Value

theorem substituted_append (locals : Fields) (a b : String) (balanced : isBalanced a.toList = true) :
    substituted locals (a ++ b) = substituted locals a ++ substituted locals b := by
  rw [substituted, String.toList_append, placeholders_append _ _ balanced, List.filter_append, List.map_append]
  rfl

theorem substituted_plain (locals : Fields) (text : String) (plain : Text.contains text "$\x7b" = false) :
    substituted locals text = [] := by
  rw [substituted, placeholders_plain text.toList plain]
  rfl

variable {allowed : String → Prop}

theorem refers_sub (text : String) :
    (Intrinsic.sub text).Refers allowed ↔ ∀ id ∈ substituted [] text, allowed id := by
  simp [Intrinsic.sub, Refers, references, tableReferences, fieldReferences]

/-- An ARN made from a deployed name refers to nothing. -/
theorem functionArn_refers (deployedName : String) (plain : Text.contains deployedName "$\x7b" = false) :
    (Intrinsic.functionArn deployedName).Refers allowed := by
  rw [Intrinsic.functionArn, refers_sub, substituted_append _ _ _ (by decide +kernel),
    substituted_plain [] deployedName plain, List.append_nil]
  have none : substituted [] "arn:$\x7bAWS::Partition\x7d:lambda:$\x7bAWS::Region\x7d:$\x7bAWS::AccountId\x7d:function:" =
      [] := by decide +kernel
  rw [none]
  simp

theorem refers_allow (actions resources : Value) (act : actions.Refers allowed) (on : resources.Refers allowed)
    (sid : Option String) : (Statements.allow actions resources sid).Refers allowed := by
  have head : FieldsRefer allowed ((Text.given sid).elim [] fun s => [("Sid", .str s)]) := by
    cases Text.given sid with
    | none => exact fieldsRefer_nil
    | some s => exact (fieldsRefer_cons _ _ _ rfl).mpr ⟨refers_str s, fieldsRefer_nil⟩
  rw [Statements.allow, refers_obj, fieldsRefer_append]
  refine ⟨head, ?_⟩
  rw [fieldsRefer_cons _ _ _ rfl, fieldsRefer_cons _ _ _ rfl, fieldsRefer_cons _ _ _ rfl]
  exact ⟨refers_str _, act, on, fieldsRefer_nil⟩

end Value

namespace Core

theorem stackName_plain (service : ServiceConfig) (name : Text.contains service.service "$\x7b" = false)
    (stage : Text.contains service.provider.stage "$\x7b" = false) (rest : List Char)
    (plain : opensPlaceholder ('*' :: rest) = false) :
    opensPlaceholder ((stackName service).toList ++ '*' :: rest) = false := by
  rw [contains_opens] at name stage
  have text : (stackName service).toList = service.service.toList ++ '-' :: service.provider.stage.toList := by
    simp [stackName, toString]
  have dash : opensPlaceholder ('-' :: service.provider.stage.toList) = false := by
    rw [opensPlaceholder_cons, stage]
    rfl
  rw [opensPlaceholder_append _ _ _ (by decide), text, opensPlaceholder_append _ _ _ (by decide), name, dash, plain]
  rfl

variable {allowed : String → Prop}

theorem logPrefix_refers (name : String) (plain : Text.contains name "$\x7b" = false) : ∀ id ∈ Value.substituted []
    ("arn:$\x7bAWS::Partition\x7d:logs:$\x7bAWS::Region\x7d:$\x7bAWS::AccountId\x7d:log-group:/aws/lambda/" ++ name),
    allowed id := by
  have balanced : isBalanced
      "arn:$\x7bAWS::Partition\x7d:logs:$\x7bAWS::Region\x7d:$\x7bAWS::AccountId\x7d:log-group:/aws/lambda/".toList =
        true := by decide +kernel
  have none : Value.substituted []
      "arn:$\x7bAWS::Partition\x7d:logs:$\x7bAWS::Region\x7d:$\x7bAWS::AccountId\x7d:log-group:/aws/lambda/" = [] := by
    decide +kernel
  rw [Value.substituted_append _ _ _ balanced, none, Value.substituted_plain [] name plain]
  simp

theorem logGroupArn_refers (service : ServiceConfig) (name : Text.contains service.service "$\x7b" = false)
    (stage : Text.contains service.provider.stage "$\x7b" = false) (tail : String) (rest : List Char)
    (starts : tail.toList = '*' :: rest) (plain : opensPlaceholder tail.toList = false) :
    (Intrinsic.sub (logGroupArn service ++ tail)).Refers allowed := by
  have quiet : Text.contains (stackName service ++ tail) "$\x7b" = false := by
    rw [contains_opens, String.toList_append, starts]
    exact stackName_plain service name stage rest (by rw [← starts]; exact plain)
  unfold logGroupArn
  rw [Value.refers_sub, String.append_assoc]
  exact logPrefix_refers _ quiet

/-- The ARNs of the log groups of a service. -/
def logArns (service : ServiceConfig) : List Value :=
  [Intrinsic.sub (logGroupArn service ++ "*:*"), Intrinsic.sub (logGroupArn service ++ "*:*:*")]

/-- Made from names without placeholders, they refer to nothing. -/
theorem logArns_refer (service : ServiceConfig) (name : Text.contains service.service "$\x7b" = false)
    (stage : Text.contains service.provider.stage "$\x7b" = false) : ∀ arn ∈ logArns service, arn.Refers allowed := by
  intro arn member
  simp only [logArns, List.mem_cons, List.not_mem_nil, or_false] at member
  rcases member with rfl | rfl
  · exact logGroupArn_refers service name stage "*:*" _ rfl rfl
  · exact logGroupArn_refers service name stage "*:*:*" _ rfl rfl

theorem logStatements_refer (service : ServiceConfig) (arns : ∀ arn ∈ logArns service, arn.Refers allowed) :
    (Value.arr (logStatements service)).Refers allowed := by
  have allows (actions : List String) (arn : Value) (listed : arn ∈ logArns service) :
      (Statements.allow (Value.texts actions) (.arr [arn]) none).Refers allowed :=
    Value.refers_allow _ _ (Value.refers_texts _)
      ((Value.refers_arr _).mpr (List.forall_mem_singleton.mpr (arns arn listed))) none
  unfold logStatements
  rw [Value.refers_arr]
  intro statement member
  simp only [List.mem_cons, List.not_mem_nil, or_false] at member
  rcases member with rfl | rfl
  · exact allows _ _ (by simp [logArns])
  · exact allows _ _ (by simp [logArns])

end Core

end FunctionStack
