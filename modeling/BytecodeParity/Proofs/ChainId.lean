import BytecodeParity.Proofs.Json.Acceptance
import BytecodeParity.Proofs.Node
import BytecodeParity.Proofs.Numeral
/-!
# The chain that a node names

Answers of success are read, whatever else stands in them and however they are laid out
(`parse_of_isSuccess`). So the result of such an answer to the question for the chain decides what
is answered: **digits behind a mark are the number they denote if 64 bits hold it, and else an
error** (`chainId_exact`). Zeros in front do not count for the size, and only marks are dropped.
-/

namespace BytecodeParity.Node

open Json.Reader

variable {s : String} {members : List (String × Text)} {t w : Text} {name : String}

/-! ## Answers of success are read -/

theorem delimited_fields : ∀ f ∈ layout.fields, ∀ a, Delimited (f.read a) := by
  have hvalue := (delimited_value (depthLimit - 1)).optional
  simp only [layout, List.forall_mem_cons, List.not_mem_nil, false_implies, implies_true, and_true]
  exact ⟨fun a => (delimited_text _).bind, fun a => delimited_nat64.bind, fun a => hvalue.bind,
    fun a => hvalue.bind⟩

/-- What is taken from the member of a name in an answer of success with a text as its result. -/
structure MemberTaken (s : String) (name : String) (w : Text) : Prop where
  version : name = "jsonrpc" → ∃ version, Takes (text "a string") w version
  id : name = "id" → ∃ n, Takes nat64 w n
  result : name = "result" → Takes readValue w (some (.string s))
  error : name = "error" → Takes readValue w none
  other : name ∉ ["jsonrpc", "id", "result", "error"] → Takes skipValue w ()

theorem HasOnly.parse {value : Json} (h : HasOnly members name value) (hm : (name, t) ∈ members) :
    Json.parse (String.ofList t) = .ok value := by
  obtain ⟨t', hfilter, hvalue⟩ := h
  have hmem : (name, t) ∈ members.filter fun m => m.1 = name := by simpa using hm
  rw [hfilter] at hmem
  obtain rfl : t = t' := by simpa using hmem
  exact hvalue

theorem SuccessMembers.taken (h : SuccessMembers members s) (hm : (name, t) ∈ members) :
    ∃ w, Trimmed t w ∧ MemberTaken s name w := by
  by_cases hname : name ∈ ["jsonrpc", "id", "result", "error"]
  · simp only [List.mem_cons, List.not_mem_nil, or_false] at hname
    rcases hname with rfl | rfl | rfl | rfl
    · obtain ⟨version, hversion⟩ := h.version
      obtain ⟨w, hw, htakes⟩ := takes_text_of_parse "a string" (hversion.parse hm)
      exact ⟨w, hw, fun _ => ⟨version, htakes⟩, by simp, by simp, by simp, by simp⟩
    · obtain ⟨n, hn⟩ := h.id
      obtain ⟨w, hw, htakes⟩ := takes_nat64_of_parse (hn.parse hm)
      exact ⟨w, hw, by simp, fun _ => ⟨n, htakes⟩, by simp, by simp, by simp⟩
    · obtain ⟨w, hw, htakes⟩ := takes_some_string_of_parse (depthLimit - 1) (h.result.parse hm)
      exact ⟨w, hw, by simp, by simp, fun _ => htakes, by simp, by simp⟩
    · rcases h.no_error with hnone | hnull
      · exact absurd rfl (hnone _ hm)
      · obtain ⟨w, hw, htakes⟩ := takes_none_of_parse (hnull.parse hm)
        exact ⟨w, hw, by simp, by simp, by simp, fun _ => htakes, by simp⟩
  · have hskip := h.others _ hm hname
    refine ⟨t, Trimmed.refl t, ?_, ?_, ?_, ?_, fun _ => hskip⟩ <;> rintro rfl <;> simp at hname

/-- The fields take the members of their names, and the others are passed over. -/
theorem MemberTaken.field (h : MemberTaken s name w) :
    (∀ f, (layout.fields.find? fun f => f.name == name) = some f →
        ∀ a, ∃ a', Takes (f.read a) w a') ∧
      ((layout.fields.find? fun f => f.name == name) = none → Takes skipValue w ()) := by
  refine ⟨fun f hfind a => ?_, fun hnone => ?_⟩
  · have hfound : f.name = name := by simpa using List.find?_some hfind
    have hname := hfound.symm
    have hmem := List.mem_of_find?_eq_some hfind
    simp only [layout, List.mem_cons, List.not_mem_nil, or_false] at hmem
    rcases hmem with rfl | rfl | rfl | rfl
    · obtain ⟨version, hversion⟩ := h.version hname
      exact ⟨_, hversion.bind⟩
    · obtain ⟨n, hn⟩ := h.id hname
      exact ⟨_, hn.bind⟩
    · exact ⟨_, (h.result hname).bind⟩
    · exact ⟨_, (h.error hname).bind⟩
  · refine h.other fun hmem => ?_
    simp only [List.mem_cons, List.not_mem_nil, or_false] at hmem
    rcases hmem with rfl | rfl | rfl | rfl <;> cases hnone

theorem HasOnly.count {value : Json} (h : HasOnly members name value) :
    (members.map Prod.fst).count name = 1 := by
  obtain ⟨t, hfilter, -⟩ := h
  have hcount : (members.map Prod.fst).count name =
      (members.filter fun m => m.1 = name).length := by
    rw [List.count, List.countP_map, List.countP_eq_length_filter]
    rfl
  rw [hcount, hfilter]
  rfl

/-- The names of the members of an answer of success. -/
structure SuccessNames (names : List String) : Prop where
  version : names.count "jsonrpc" = 1
  id : names.count "id" = 1
  result : names.count "result" = 1
  error : names.count "error" ≤ 1

theorem SuccessMembers.names (h : SuccessMembers members s) :
    SuccessNames (members.map Prod.fst) where
  version := h.version.elim fun _ hversion => hversion.count
  id := h.id.elim fun _ hid => hid.count
  result := h.result.count
  error := by
    rcases h.no_error with hnone | hnull
    · have habsent : "error" ∉ members.map Prod.fst := by
        intro hmem
        obtain ⟨m, hm, hname⟩ := List.mem_map.mp hmem
        exact hnone m hm hname
      rw [List.count_eq_zero_of_not_mem habsent]
      exact Nat.zero_le 1
    · exact hnull.count.le

theorem exists_filled_of_taken (h : ∀ m ∈ members, MemberTaken s m.1 m.2)
    (hnames : SuccessNames (members.map Prod.fst)) :
    ∃ a, layout.Filled [] layout.initial members a ∧ a.value = .ok (.string s) := by
  have hversion : "jsonrpc" ∈ members.map Prod.fst :=
    List.count_pos_iff.mp (by simp [hnames.version])
  have hid : "id" ∈ members.map Prod.fst := List.count_pos_iff.mp (by simp [hnames.id])
  have hresult : "result" ∈ members.map Prod.fst := List.count_pos_iff.mp (by simp [hnames.result])
  obtain ⟨a, ha⟩ : ∃ a, layout.Filled [] layout.initial members a := by
    refine Layout.exists_filled (fun m hm => (h m hm).field.1) (fun m hm => (h m hm).field.2) ?_ ?_
    · simp [layout, hnames.version, hnames.id, hnames.result, hnames.error]
    · simp only [layout, List.forall_mem_cons]
      exact ⟨fun _ => hversion, fun _ => hid, by simp, by simp, by simp⟩
  have hvalue : Delimited readValue := (delimited_value (depthLimit - 1)).optional
  have hnone : a.error = none := by
    rcases ha.part sets_error (by simp) with ⟨w, hfilter, hw⟩ | ⟨-, -, hpart⟩
    · have hm : ("error", w) ∈ members :=
        List.mem_of_mem_filter (hfilter ▸ List.mem_singleton_self _)
      exact hvalue.unique hw ((h _ hm).error rfl)
    · exact hpart
  have hsome : a.result = some (.string s) := by
    rcases ha.part sets_result (by simp) with ⟨w, hfilter, hw⟩ | ⟨-, hnone, -⟩
    · have hm : ("result", w) ∈ members :=
        List.mem_of_mem_filter (hfilter ▸ List.mem_singleton_self _)
      exact hvalue.unique hw ((h _ hm).result rfl)
    · obtain ⟨m, hm, hname⟩ := List.mem_map.mp hresult
      exact absurd hname (hnone m hm)
  refine ⟨a, ha, ?_⟩
  rw [Answer.value, hnone, hsome]

/-- The items of an answer of success fill one, but for the blanks behind them. -/
theorem SuccessItems.filled {items : List Text} (h : SuccessItems s items) :
    ∃ items' a, List.Forall₂ Trimmed items items' ∧
      Layout.FilledInOrder layout.fields layout.initial items' a ∧ a.value = .ok (.string s) := by
  obtain ⟨hversion, hid, hresult, herror⟩ := h
  obtain ⟨w₁, h₁, hversion⟩ := takes_text_of_parse "a string" hversion
  obtain ⟨w₂, h₂, hid⟩ := takes_nat64_of_parse hid
  obtain ⟨w₃, h₃, hresult⟩ := takes_some_string_of_parse (depthLimit - 1) hresult
  obtain ⟨w₄, h₄, herror⟩ := takes_none_of_parse (r := value (depthLimit - 1)) herror
  exact ⟨[w₁, w₂, w₃, w₄], _, .cons h₁ (.cons h₂ (.cons h₃ (.cons h₄ .nil))),
    .field hversion.bind (.field hid.bind (.field hresult.bind (.field herror.bind
      (.done (by simp))))), rfl⟩

/-- **Answers of success with a text are read as such.** -/
theorem parse_of_isSuccess {body : String} (h : IsSuccess body.toList s) :
    ∃ a, layout.parse body = .ok a ∧ a.value = .ok (.string s) := by
  rcases h with ⟨members, hbody, hsuccess⟩ | ⟨items, hbody, hsuccess⟩
  · -- The blanks behind a value are not taken with it, so it is cut off in front of them.
    have htaken : ∀ m ∈ members, ∃ w, Trimmed m.2 w ∧ MemberTaken s m.1 w :=
      fun m hm => hsuccess.taken hm
    choose! trim htrim htakes using htaken
    obtain ⟨b, t, e, hb, he, htext, hmembers⟩ := hbody
    obtain ⟨a, hfilled, hvalue⟩ : ∃ a, layout.Filled [] layout.initial
        (members.map fun m => (m.1, trim m)) a ∧ a.value = .ok (.string s) :=
      exists_filled_of_taken (List.forall_mem_map.mpr htakes)
        (by simpa [Function.comp_def] using hsuccess.names)
    exact ⟨a, Layout.parse_of_filled delimited_fields
      ⟨b, t, e, hb, he, htext, hmembers.trimmed htrim⟩ hfilled, hvalue⟩
  · obtain ⟨items', a, htrim, hfilled, hvalue⟩ := hsuccess.filled
    obtain ⟨b, t, e, hb, he, htext, hitems⟩ := hbody
    exact ⟨a, Layout.parse_of_filledInOrder delimited_fields
      ⟨b, t, e, hb, he, htext, hitems.trimmed htrim⟩ hfilled, hvalue⟩

/-! ## The chain -/

/-- The result of an answer of success is what is asked for. -/
theorem result_ask {servers : Http.Servers} {endpoint : String} {question : Json}
    {reply : Http.Reply}
    (hreply : (Http.send servers .post endpoint (some question)).result = .ok reply)
    (hsuccess : IsSuccess reply.content.toList s) :
    (ask servers endpoint question).result = .ok (.string s) := by
  obtain ⟨a, hparse, hvalue⟩ := parse_of_isSuccess hsuccess
  rw [ask]
  simp only [hreply, hparse, Except.mapError, bind, Except.bind, hvalue]

/-- Only marks are dropped: no digit of a number behind a mark is. -/
theorem dropMarks_digits {h : Text} (hdigits : Hex.Digits h) : dropMarks h = h := by
  unfold dropMarks
  split
  · next t => exact absurd rfl (Hex.ne_of_digit (hdigits 'x' (by simp)) (by decide))
  · rfl

theorem readChainId_digits {h : Text} (hne : h ≠ []) (hdigits : Hex.Digits h) :
    readChainId (.string (String.ofList ('0' :: 'x' :: h))) =
      if Numeral.value 16 h < UInt64.size then .ok (Numeral.value 16 h)
      else .error (.numeral .tooLarge) := by
  rw [readChainId, String.toList_ofList, dropMarks, dropMarks_digits hdigits,
    Numeral.read_of_digits (by decide) (by decide) hne hdigits]
  split_ifs <;> rfl

/-- **The number of a chain is read exactly or not at all.** Where an answer of success has digits
behind a mark as its result, the chain is the number that they denote if 64 bits hold it, and else
there is none. So the numeral of each such number in letters of either case gives that number. -/
theorem chainId_exact (servers : Http.Servers) (endpoint : String) (reply : Http.Reply) (h : Text)
    (hreply : (Http.send servers .post endpoint (some chainIdQuestion)).result = .ok reply)
    (hsuccess : IsSuccess reply.content.toList (String.ofList ('0' :: 'x' :: h)))
    (hne : h ≠ []) (hdigits : Hex.Digits h) :
    (∀ n, (chainId servers endpoint).result = .ok n ↔ n = Numeral.value 16 h ∧ n < 2 ^ 64) ∧
      (2 ^ 64 ≤ Numeral.value 16 h →
        (chainId servers endpoint).result = .error (.numeral .tooLarge)) ∧
      ∀ n < 2 ^ 64, Text.lower h = Text.hexDigits n →
        (chainId servers endpoint).result = .ok n := by
  have hresult : (chainId servers endpoint).result =
      if Numeral.value 16 h < 2 ^ 64 then .ok (Numeral.value 16 h)
      else .error (.numeral .tooLarge) := by
    rw [chainId, result_ask hreply hsuccess]
    exact readChainId_digits hne hdigits
  rw [hresult]
  refine ⟨fun n => ?_, fun hlarge => if_neg (Nat.not_lt.mpr hlarge), fun n hn hnumeral => ?_⟩
  · split_ifs with hlt
    · simp only [Except.ok.injEq]
      exact ⟨fun hn => ⟨hn.symm, hn ▸ hlt⟩, fun hn => hn.1.symm⟩
    · simp only [false_iff]
      rintro ⟨rfl, hn⟩
      exact hlt hn
  · have hvalue : Numeral.value 16 h = n := by
      rw [← Numeral.value_lower, hnumeral]
      exact (Numeral.toDigits_denotes n).2
    rw [hvalue, if_pos hn]

/-- A body that is read as an answer with a text is one. -/
theorem isSuccess_of_text? {body : String}
    (h : (layout.parse body).toOption.bind (fun a => a.value.toOption.bind Json.text?) = some s) :
    IsSuccess body.toList s := by
  simp only [Option.bind_eq_some_iff, toOption_eq_some_iff] at h
  obtain ⟨a, hparse, j, hvalue, hj⟩ := h
  cases j with
  | string text =>
    obtain rfl := Option.some.inj hj
    exact isSuccess_of_parse hparse hvalue
  | _ => cases hj

/-- More zeros in front than 64 bits have digits, and a capital letter. -/
theorem chainId_exact_leading_zeros :
    (chainId (fun _ => some (answer 200 "1" "0x000000000000000000000018C7"))
      "http://127.0.0.1:8545").result = .ok 6343 := by
  have hreply : (Http.send (fun _ => some (answer 200 "1" "0x000000000000000000000018C7")) .post
      "http://127.0.0.1:8545" (some chainIdQuestion)).result =
        .ok (answer 200 "1" "0x000000000000000000000018C7") :=
    toOption_eq_some_iff.mp (by decide +kernel)
  have hsuccess : IsSuccess (answer 200 "1" "0x000000000000000000000018C7").content.toList
      (String.ofList ('0' :: 'x' :: "000000000000000000000018C7".toList)) :=
    isSuccess_of_text? (by decide +kernel)
  obtain ⟨hexact, -, -⟩ := chainId_exact _ _ _ _ hreply hsuccess (by decide) (by decide +kernel)
  exact (hexact 6343).mpr (by decide +kernel)

end BytecodeParity.Node
