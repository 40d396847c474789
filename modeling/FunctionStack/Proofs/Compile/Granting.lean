import FunctionStack.Proofs.Compile.Effect
import FunctionStack.Proofs.Value.Json.Text
import FunctionStack.Proofs.Value.Same

/-!
Permissions to send, asked for one after the other. Two requests ask for one permission if their functions have one
normalized name and their destinations are of one kind and point at the same up to the order of keys. The first one of
them is granted, under an identifier that no other statement has.
-/

namespace FunctionStack

namespace Digest

theorem sha1_size (message : Bytes) : (sha1 message).size = 20 := by
  rw [sha1, Sha1.State.toBytes, List.size_toByteArray]
  rfl

theorem hex_length (bytes : Bytes) : (hex bytes).toList.length = 2 * bytes.size := by
  have wide (byte : UInt8) : (Text.hexDigits 2 byte.toNat).length = 2 :=
    Text.hexDigits_length 2 _ (by decide) byte.toNat_lt
  rw [hex, String.toList_ofList, List.length_flatMap, List.map_congr_left fun byte _ => wide byte]
  rw [List.map_const', List.sum_replicate, Array.length_toList, smul_eq_mul, Nat.mul_comm]
  rfl

end Digest

namespace Destination

/-- The digits of a destination in the identifier of a statement: the beginning of its key's hash. -/
def digits (destination : Destination) : String :=
  .ofList ((Digest.hex (Digest.sha1 (Digest.textBytes destination.key))).toList.take 10)

theorem digits_length (destination : Destination) : destination.digits.toList.length = 10 := by
  rw [digits, String.toList_ofList, List.length_take, Digest.hex_length, Digest.sha1_size]
  rfl

/-- An identifier can be taken apart, for the digits are always as many. -/
theorem sid_iff (f g : String) (a b : Destination) :
    a.sid f = b.sid g ↔ Naming.normalized f = Naming.normalized g ∧ a.digits = b.digits := by
  have form (name : String) (destination : Destination) :
      destination.sid name = Naming.normalized name ++ "Destination" ++ destination.digits := rfl
  rw [form, form]
  constructor
  · intro same
    have characters := congrArg String.toList same
    simp only [String.toList_append] at characters
    obtain ⟨named, digits⟩ := List.append_inj' characters (a.digits_length.trans b.digits_length.symm)
    exact ⟨String.toList_inj.mp (List.append_cancel_right named), String.toList_inj.mp digits⟩
  · rintro ⟨named, digits⟩
    rw [named, digits]

/-- The key of a destination is its kind and what it points at, up to the order of keys. -/
theorem key_iff (a b : Destination) (proper : a.pointer.isProper = true) (regular : b.pointer.isProper = true) :
    a.key = b.key ↔ a.kind = b.kind ∧ a.pointer.alike b.pointer = true := by
  rw [Value.alike_iff_sorted _ _ proper regular]
  constructor
  · exact key_unique a b proper regular
  · rintro ⟨kind, sorted⟩
    simp only [key, Value.sortKeys, Value.sortFields, kind, sorted]

end Destination

/-- A function, by its name, asks for the permission to send to a destination. -/
structure SendRequest where
  function : String
  destination : Destination

namespace SendRequest

/-- A request repeats another one if it asks for the same: scalars in the pointers are compared exactly. -/
def repeats (request earlier : SendRequest) : Bool :=
  Naming.normalized request.function = Naming.normalized earlier.function &&
    request.destination.kind = earlier.destination.kind &&
    request.destination.pointer.alike earlier.destination.pointer

/-- The statement that a request asks for. -/
def statement (request : SendRequest) : Value := sendPermission request.function request.destination

def sid (request : SendRequest) : String := request.destination.sid request.function

theorem statement_sid (request : SendRequest) : request.statement.field? "Sid" = some (.str request.sid) := rfl

/-- Whether each request is a new one, after some earlier ones. -/
def news (earlier : List SendRequest) : List SendRequest → List Bool
  | [] => []
  | request :: rest => (!earlier.any request.repeats) :: news (earlier ++ [request]) rest

/-- The requests that are new, after some earlier ones. -/
def firsts (earlier : List SendRequest) : List SendRequest → List SendRequest
  | [] => []
  | request :: rest =>
    (if earlier.any request.repeats then [] else [request]) ++ firsts (earlier ++ [request]) rest

/-- The requests are read from a template, and a beginning of a hash tells their keys apart. -/
structure Distinguished (requests : List SendRequest) : Prop where
  proper : ∀ request ∈ requests, request.destination.pointer.isProper = true
  apart : ∀ a ∈ requests, ∀ b ∈ requests, a.destination.digits = b.destination.digits →
    a.destination.key = b.destination.key

section

variable {requests : List SendRequest} (distinguished : Distinguished requests) {a b : SendRequest} (one : a ∈ requests)
  (other : b ∈ requests)

include distinguished one other

/-- Requests for one permission are those whose statements have one identifier. -/
theorem repeats_iff : a.repeats b = true ↔ a.sid = b.sid := by
  have same : a.destination.digits = b.destination.digits ↔ a.destination.key = b.destination.key :=
    ⟨distinguished.apart a one b other, fun key => by rw [Destination.digits, key, Destination.digits]⟩
  rw [repeats, Bool.and_eq_true, Bool.and_eq_true, decide_eq_true_eq, decide_eq_true_eq, and_assoc,
    ← Destination.key_iff _ _ (distinguished.proper a one) (distinguished.proper b other), ← same, ← Destination.sid_iff]
  rfl

/-- Statements are equal exactly if they are asked for by repeated requests. -/
theorem statement_same_iff : a.statement.same b.statement = true ↔ a.repeats b = true := by
  constructor
  · intro same
    obtain ⟨sid, found, text⟩ := Value.same_field? same "Sid" a.statement_sid
    rw [b.statement_sid, Option.some.injEq] at found
    rw [← found] at text
    exact (repeats_iff distinguished one other).mpr (Value.str.inj (Value.same_str text)).symm
  · intro repeated
    have sid := (repeats_iff distinguished one other).mp repeated
    rw [repeats, Bool.and_eq_true, Bool.and_eq_true, decide_eq_true_eq, decide_eq_true_eq] at repeated
    have sorted : b.statement.sortKeys = a.statement.sortKeys := by
      have pointers := (Value.alike_iff_sorted _ _ (distinguished.proper a one) (distinguished.proper b other)).mp repeated.2
      rw [SendRequest.sid, SendRequest.sid] at sid
      simp only [statement, sendPermission, Value.sortKeys, Value.sortFields, repeated.1.2, pointers, sid]
    exact Value.same_sorted _ _ _ sorted
      (Value.same_refl _ (Blueprint.sendPermission_proper b.function b.destination (distinguished.proper b other)))

end

/-- Asks for some permissions; tells for each request whether a statement was appended. -/
def grantEach : List SendRequest → Build (List Bool)
  | [] => return []
  | request :: rest => do
    let added ← Build.grantDestination request.function request.destination
    let others ← grantEach rest
    return added :: others

/-- After some requests the policy holds, behind the statements it began with, those of the granted requests. These are
among the requests, ask for different permissions, and each request asks for the permission of one of them. -/
structure Granted (w : Workspace) (initial : List Value) (earlier granted : List SendRequest) : Prop where
  policy : ∃ policy, w.policy = some policy ∧ policy.statements w.graph = .arr (initial ++ granted.map statement)
  recorded : ∀ function key, (function, key) ∈ w.granted →
    ∃ request ∈ earlier, request.function = function ∧ request.destination.key = key
  subset : granted ⊆ earlier
  covered : ∀ request ∈ earlier, ∃ first ∈ granted, request.sid = first.sid
  apart : granted.Pairwise fun a b => a.sid ≠ b.sid

namespace Granted

variable {w left : Workspace} {initial : List Value} {earlier granted : List SendRequest}

/-- What is recorded after one more request. -/
theorem recorded_more (held : Granted w initial earlier granted) (request : SendRequest)
    (more : left.granted ⊆ w.granted ++ [(request.function, request.destination.key)]) (function key : String)
    (member : (function, key) ∈ left.granted) :
    ∃ other ∈ earlier ++ [request], other.function = function ∧ other.destination.key = key := by
  rcases List.mem_append.mp (more member) with before | own
  · obtain ⟨other, before, same⟩ := held.recorded function key before
    exact ⟨other, List.mem_append_left _ before, same⟩
  · cases List.mem_singleton.mp own
    exact ⟨request, by simp, rfl, rfl⟩

/-- A request for a permission that was asked for before leaves the list as it is. -/
theorem again (held : Granted w initial earlier granted) {request other : SendRequest} (before : other ∈ earlier)
    (sid : request.sid = other.sid)
    (policy : ∃ policy, left.policy = some policy ∧ policy.statements left.graph = .arr (initial ++ granted.map statement))
    (more : left.granted ⊆ w.granted ++ [(request.function, request.destination.key)]) :
    Granted left initial (earlier ++ [request]) granted where
  policy := policy
  recorded := held.recorded_more request more
  subset := List.Subset.trans held.subset (List.subset_append_left ..)
  covered := by
    obtain ⟨first, among, same⟩ := held.covered other before
    exact List.forall_mem_append.mpr ⟨held.covered, List.forall_mem_singleton.mpr ⟨first, among, sid.trans same⟩⟩
  apart := held.apart

/-- A request that is new goes to the end of the list. -/
theorem append (held : Granted w initial earlier granted) {request : SendRequest}
    (new : ∀ other ∈ earlier, request.sid ≠ other.sid)
    (policy : ∃ policy, left.policy = some policy ∧
      policy.statements left.graph = .arr (initial ++ (granted ++ [request]).map statement))
    (more : left.granted ⊆ w.granted ++ [(request.function, request.destination.key)]) :
    Granted left initial (earlier ++ [request]) (granted ++ [request]) where
  policy := policy
  recorded := held.recorded_more request more
  subset := List.append_subset.mpr
    ⟨List.Subset.trans held.subset (List.subset_append_left ..), List.subset_append_right ..⟩
  covered := List.forall_mem_append.mpr
    ⟨fun other before => by
      obtain ⟨first, among, same⟩ := held.covered other before
      exact ⟨first, List.mem_append_left _ among, same⟩,
    List.forall_mem_singleton.mpr ⟨request, by simp, rfl⟩⟩
  apart := List.pairwise_append.mpr ⟨held.apart, List.pairwise_singleton .., fun first among other own => by
    cases List.mem_singleton.mp own
    exact (new first (held.subset among)).symm⟩

end Granted

section

variable {requests : List SendRequest} (distinguished : Distinguished requests) {w : Workspace} {initial : List Value}
  (unnamed : ∀ statement ∈ initial, statement.field? "Sid" = none) {earlier granted : List SendRequest}

include distinguished

theorem any_repeats_iff (request : SendRequest) (known : request ∈ requests) (met : earlier ⊆ requests) :
    earlier.any request.repeats = true ↔ ∃ other ∈ earlier, request.sid = other.sid := by
  rw [List.any_eq_true]
  refine exists_congr fun other => and_congr_right fun member => ?_
  exact repeats_iff distinguished known (met member)

include unnamed

/-- The policy holds a statement exactly if an earlier request asked for it. -/
theorem Granted.isIn_iff (held : Granted w initial earlier granted) (request : SendRequest) (known : request ∈ requests)
    (met : earlier ⊆ requests) :
    request.statement.isIn (initial ++ granted.map statement) = earlier.any request.repeats := by
  rw [Bool.eq_iff_iff, any_repeats_iff distinguished request known met, Value.isIn, List.any_append, Bool.or_eq_true,
    List.any_eq_true, List.any_map, List.any_eq_true]
  simp only [Function.comp_apply]
  constructor
  · rintro (⟨statement, listed, same⟩ | ⟨first, listed, same⟩)
    · obtain ⟨sid, found, _⟩ := Value.same_field? same "Sid" request.statement_sid
      rw [unnamed statement listed] at found
      cases found
    · have repeated := (statement_same_iff distinguished known (met (held.subset listed))).mp same
      exact ⟨first, held.subset listed, (repeats_iff distinguished known (met (held.subset listed))).mp repeated⟩
  · rintro ⟨other, listed, sid⟩
    obtain ⟨first, granted, same⟩ := held.covered other listed
    have repeated := (repeats_iff distinguished known (met (held.subset granted))).mpr (sid.trans same)
    exact Or.inr ⟨first, granted, (statement_same_iff distinguished known (met (held.subset granted))).mpr repeated⟩

/-- One request: it is granted if it is new, and otherwise nothing happens. -/
theorem Granted.step (held : Granted w initial earlier granted) (request : SendRequest) (known : request ∈ requests)
    (met : earlier ⊆ requests) :
    ∃ left, Build.Yields (Build.grantDestination request.function request.destination) w
        (!earlier.any request.repeats) left ∧
      Granted left initial (earlier ++ [request])
        (granted ++ if earlier.any request.repeats then [] else [request]) := by
  obtain ⟨policy, bound, listed⟩ := held.policy
  have repeated := any_repeats_iff distinguished request known met
  by_cases recorded : w.granted.contains (request.function, request.destination.key) = true
  · -- The very function has asked for this key: the request does not get as far as the policy.
    obtain ⟨other, before, function, key⟩ := held.recorded _ _ (List.contains_iff_mem.mp recorded)
    have sid : request.sid = other.sid :=
      (Destination.sid_iff ..).mpr ⟨by rw [function], by rw [Destination.digits, ← key, Destination.digits]⟩
    rw [repeated.mpr ⟨other, before, sid⟩, if_pos rfl, List.append_nil]
    refine ⟨w, (Build.grantDestination_iff ..).mpr (Or.inr (Or.inl ⟨by simp [bound], recorded, rfl, rfl⟩)), ?_⟩
    exact held.again before sid ⟨policy, bound, listed⟩ (List.subset_append_left ..)
  · have present := held.isIn_iff distinguished unnamed request known met
    obtain ⟨graph, kept, added, grown⟩ := ExecutionPolicy.add_listed w.graph policy _ request.statement listed
    rw [present] at added
    rw [Statements.add, present] at grown
    refine ⟨{ w with
      graph := graph, policy := some kept, granted := w.granted ++ [(request.function, request.destination.key)] }, ?_, ?_⟩
    · refine (Build.grantDestination_iff ..).mpr (Or.inr (Or.inr ⟨by simp [bound], by simpa using recorded, ?_⟩))
      exact (Build.grant_iff ..).mpr (Or.inr ⟨policy, graph, kept, bound, added, rfl⟩)
    · cases fresh : earlier.any request.repeats with
      | true =>
          -- Another name of the function has asked for it, or a destination with its keys in another order.
          obtain ⟨other, before, sid⟩ := repeated.mp fresh
          rw [fresh, if_pos rfl] at grown
          rw [if_pos rfl, List.append_nil]
          exact held.again before sid ⟨kept, rfl, grown⟩ (List.Subset.refl _)
      | false =>
          rw [fresh, if_neg Bool.false_ne_true] at grown
          rw [if_neg Bool.false_ne_true]
          refine held.append (fun other before same => ?_) ⟨kept, rfl, ?_⟩ (List.Subset.refl _)
          · rw [repeated.mpr ⟨other, before, same⟩] at fresh
            cases fresh
          · rw [grown, List.map_append, List.append_assoc]
            rfl

/-- A run of requests: the new ones are granted, in their order. -/
theorem Granted.run (held : Granted w initial earlier granted) (asked : List SendRequest) (known : asked ⊆ requests)
    (met : earlier ⊆ requests) :
    ∃ left, Build.Yields (grantEach asked) w (news earlier asked) left ∧
      Granted left initial (earlier ++ asked) (granted ++ firsts earlier asked) := by
  induction asked generalizing w earlier granted with
  | nil => exact ⟨w, by simp [grantEach, news], by simpa [firsts] using held⟩
  | cons request rest ih =>
      obtain ⟨here, others⟩ := List.cons_subset.mp known
      obtain ⟨between, first, after⟩ := held.step distinguished unnamed request here met
      obtain ⟨left, more, final⟩ := ih after others (List.append_subset.mpr ⟨met, List.cons_subset.mpr ⟨here, List.nil_subset _⟩⟩)
      refine ⟨left, ?_, ?_⟩
      · simp only [grantEach, Build.yields_bind]
        exact ⟨_, between, first, _, left, more, by simp [news]⟩
      · rwa [firsts, ← List.append_assoc, List.append_cons]

end

/-- The new requests are those that are answered so. -/
theorem firsts_answered (earlier asked : List SendRequest) :
    firsts earlier asked = ((asked.zip (news earlier asked)).filter Prod.snd).map Prod.fst := by
  induction asked generalizing earlier with
  | nil => rfl
  | cons request rest ih =>
      rw [firsts, news, List.zip_cons_cons, ih]
      cases earlier.any request.repeats <;> rfl

/-- Behind statements without identifiers, a policy gets one statement for each permission that is asked for, in the
order in which these are first asked for, and each under an identifier that is its own. A request is told that a
statement was appended exactly if it is the first one for its permission. -/
theorem grantEach_firsts (requests : List SendRequest) (w : Workspace) (policy : ExecutionPolicy) (initial : List Value)
    (bound : w.policy = some policy) (listed : policy.statements w.graph = .arr initial) (idle : w.granted = [])
    (unnamed : ∀ statement ∈ initial, statement.field? "Sid" = none) (distinguished : Distinguished requests) :
    ∃ answers appended left after, Build.Yields (grantEach requests) w answers left ∧
      answers = news [] requests ∧
      left.policy = some after ∧
      after.statements left.graph = .arr (initial ++ appended.map statement) ∧
      appended = ((requests.zip answers).filter Prod.snd).map Prod.fst ∧
      (∀ request ∈ requests, ∃ first ∈ appended, request.repeats first = true) ∧
      appended.Pairwise (fun earlier later => later.repeats earlier = false) ∧
      (initial ++ appended.map statement).Pairwise fun a b =>
        ∀ sid, a.field? "Sid" = some sid → b.field? "Sid" ≠ some sid := by
  have start : Granted w initial [] [] := {
    policy := ⟨policy, bound, by rw [listed, List.map_nil, List.append_nil]⟩
    recorded := fun function key member => by rw [idle] at member; cases member
    subset := List.nil_subset _
    covered := fun request member => by cases member
    apart := .nil }
  obtain ⟨left, yields, final⟩ :=
    start.run distinguished unnamed requests (List.Subset.refl _) (List.nil_subset _)
  rw [List.nil_append, List.nil_append] at final
  obtain ⟨after, kept, grown⟩ := final.policy
  refine ⟨_, firsts [] requests, left, after, yields, rfl, kept, grown, firsts_answered [] requests, ?_, ?_, ?_⟩
  · intro request member
    obtain ⟨first, among, same⟩ := final.covered request member
    exact ⟨first, among, (repeats_iff distinguished member (final.subset among)).mpr same⟩
  · refine final.apart.imp_of_mem fun {a b} one other apart => Bool.eq_false_iff.mpr fun repeated => ?_
    exact apart ((repeats_iff distinguished (final.subset other) (final.subset one)).mp repeated).symm
  · refine List.pairwise_append.mpr ⟨?_, List.pairwise_map.mpr (final.apart.imp ?_), ?_⟩
    · refine List.pairwise_of_forall_mem_list fun a member b _ sid found => ?_
      rw [unnamed a member] at found
      cases found
    · intro a b apart sid found same
      rw [a.statement_sid, Option.some.injEq] at found
      rw [b.statement_sid, ← found, Option.some.injEq, Value.str.injEq] at same
      exact apart same.symm
    · intro a member b _ sid found
      rw [unnamed a member] at found
      cases found

/-- A role with a statement for the logs. -/
def logger : Workspace where
  graph := ⟨[(defaultExecutionRole, .make "AWS::IAM::Role" [("Policies", .arr [.obj [("PolicyDocument", .obj
    [("Statement", .arr [permission ["logs:PutLogEvents"] (.str "*")])])]])] none)], .obj []⟩
  policy := some .inRole
  granted := []
  compiled := []
  registry := ⟨[], []⟩

def counted : Destination := ⟨.queue, .obj [("x", .int 1), ("y", .null)], none⟩

/-- The same table in another order. -/
def turned : Destination := ⟨.queue, .obj [("y", .null), ("x", .int 1)], none⟩

/-- A table that counts as equal, with a scalar of another kind. -/
def flagged : Destination := ⟨.queue, .obj [("x", .bool true), ("y", .null)], none⟩

/-- One permission asked for under two names, and another one. -/
def overlapping : List SendRequest := [⟨"a_b", counted⟩, ⟨"aUnderscoreb", turned⟩, ⟨"a_b", flagged⟩]

/-- The first two requests are answered by one statement, and the last one gets another. -/
theorem grantEach_overlapping :
    logger.policy = some .inRole ∧ logger.granted = [] ∧ Distinguished overlapping ∧
      ∃ left after statements, Build.Yields (grantEach overlapping) logger [true, false, true] left ∧
        left.policy = some after ∧ after.statements left.graph = .arr statements ∧ statements.length = 3 := by
  have digits : [counted.digits, flagged.digits] = ["f74cd76156", "875a56a71e"] := by decide +kernel
  have apart : counted.digits ≠ flagged.digits := by
    simp only [List.cons.injEq, and_true] at digits
    rw [digits.1, digits.2]
    decide
  have key : turned.key = counted.key := by decide +kernel
  have two : ∀ request ∈ overlapping, request.destination.key = counted.key ∨ request.destination.key = flagged.key := by
    simp [overlapping, key]
  have distinguished : Distinguished overlapping := by
    refine ⟨by decide, fun a one b other same => ?_⟩
    rw [Destination.digits, Destination.digits] at same
    rcases two a one with first | first <;> rcases two b other with second | second <;> rw [first, second] at same ⊢
    · exact absurd same apart
    · exact absurd same.symm apart
  refine ⟨rfl, rfl, distinguished, ?_⟩
  obtain ⟨answers, appended, left, after, yields, rfl, kept, grown, rfl, _⟩ :=
    grantEach_firsts overlapping logger .inRole [permission ["logs:PutLogEvents"] (.str "*")] rfl rfl rfl
      (by decide) distinguished
  exact ⟨left, after, _, yields, kept, grown, rfl⟩

end SendRequest

end FunctionStack
