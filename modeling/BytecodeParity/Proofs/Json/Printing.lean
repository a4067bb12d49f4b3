import BytecodeParity.Json.Printer
import BytecodeParity.Proofs.Json.Acceptance
import BytecodeParity.Proofs.Numeral
/-!
# What is printed is read

A string in its quotes is read back character by character (`takes_string`), and a natural number
digit by digit as long as 64 bits hold it (`takes_nat64`, `takes_nat64Name`), as they hold all that
are read (`gives_nat64`). A list over several lines is its items in their order, with nothing but
blanks around them (`isList_prettyAt`), and an object its members (`isObject_prettyAt`). So **an
object is read back if its members are**, be it a record (`Layout.parse_pretty_of_filled`) or a map
(`takes_map`).
-/

namespace BytecodeParity.Json.Reader

variable {α : Type} {t rest : Text} {n : Nat}

/-! ## Strings -/

theorem fourDigits_spec (h : n < 0x20) :
    (fourDigits n).length = 4 ∧ Text.byteSize (fourDigits n) = 4 ∧
      (Numeral.readDigits 16 UInt16.size 0 (fourDigits n)).toOption = some n := by
  revert h n
  decide +kernel

theorem hexUnit_fourDigits (h : n < 0x20) (t : Text) :
    hexUnit (fourDigits n ++ t) = .ok (n, t) := by
  obtain ⟨hlength, hsize, hread⟩ := fourDigits_spec h
  have htake : (fourDigits n ++ t).take 4 = fourDigits n := List.take_left' hlength
  have hdrop : (fourDigits n ++ t).drop 4 = t := List.drop_left' hlength
  simp only [hexUnit, htake, hdrop, hsize, toOption_eq_some_iff.mp hread, hlength]
  rfl

theorem codePoint_fourDigits {c : Char} (h : c.toNat < 0x20) (t : Text) :
    codePoint (fourDigits c.toNat ++ t) = .ok (c, t) := by
  refine bind_eq_ok.mpr ⟨c.toNat, t, hexUnit_fourDigits h t, ?_⟩
  rw [if_neg (by omega), if_pos (by omega), Char.ofNat_toNat]
  rfl

/-- A character as it stands in a string is read as that character. -/
theorem stringFrom_escapeChar (fuel : Nat) (read : List Char) (c : Char) (t : Text) :
    stringFrom codePoint (fuel + 1) read (escapeChar c ++ t) =
      stringFrom codePoint fuel (c :: read) t := by
  unfold escapeChar
  split_ifs with hself hline hreturn htab hback hfeed hcontrol
  · simp only [Bool.or_eq_true, decide_eq_true_eq] at hself
    rcases hself with rfl | rfl <;> rfl
  · subst hline; rfl
  · subst hreturn; rfl
  · subst htab; rfl
  · subst hback; rfl
  · subst hfeed; rfl
  · have hescape : escape codePoint ('u' :: (fourDigits c.toNat ++ t)) = .ok (c, t) :=
      codePoint_fourDigits hcontrol t
    rw [List.append_assoc, List.cons_append, stringFrom_cons, if_neg (by decide), if_pos rfl]
    simp only [bind, StateT.bind, List.singleton_append, hescape, Except.bind]
  · simp only [Bool.or_eq_true, decide_eq_true_eq, not_or] at hself
    rw [List.singleton_append, stringFrom_cons, if_neg hself.1, if_neg hself.2, if_neg hcontrol]

theorem stringFrom_flatMap {fuel : Nat} {read cs : List Char} (h : cs.length < fuel) :
    stringFrom codePoint fuel read (cs.flatMap escapeChar ++ '"' :: t) =
      .ok (read.reverse ++ cs, t) := by
  induction cs generalizing fuel read with
  | nil =>
    obtain ⟨fuel, rfl⟩ : ∃ n, fuel = n + 1 := ⟨fuel - 1, by omega⟩
    simp [stringFrom_cons]
  | cons c cs ih =>
    obtain ⟨fuel, rfl⟩ : ∃ n, fuel = n + 1 := ⟨fuel - 1, by omega⟩
    rw [List.flatMap_cons, List.append_assoc, stringFrom_escapeChar, ih (by simpa using h)]
    simp

/-- What stands in a string behind its opening quote. -/
def written (s : String) : Text := s.toList.flatMap escapeChar ++ ['"']

theorem toList_quote (s : String) : (quote s).toList = '"' :: written s := by
  simp [quote, written]

theorem takes_string (s : String) : Takes string (written s) s := by
  refine ⟨[], bind_eq_ok.mpr ⟨_, _, rfl, bind_eq_ok.mpr ⟨s.toList, [], ?_, ?_⟩⟩⟩
  · have h : stringFrom codePoint (s.toList.length + 1) [] (written s) = .ok (s.toList, []) :=
      stringFrom_flatMap (Nat.lt_succ_self _)
    rw [List.append_nil]
    exact stringFrom_of_length_lt advances_codePoint h (Nat.lt_succ_self _)
  · rw [String.ofList_toList]
    rfl

theorem takes_text (expected s : String) : Takes (text expected) (quote s).toList s := by
  obtain ⟨rest, h⟩ := takes_string s
  refine ⟨rest, ?_⟩
  rw [toList_quote, text, List.cons_append, peekSolid_bind_cons rfl]
  exact bind_eq_ok.mpr ⟨(), _, rfl, h⟩

/-! ## Numbers -/

theorem isDigit_of_mem_toDigits {c : Char} (h : c ∈ Nat.toDigits 10 n) : isDigit c = true := by
  have hdigit := Nat.isDigit_of_mem_toDigits (by decide) (by decide) h
  simp only [Char.isDigit, Bool.and_eq_true, decide_eq_true_eq] at hdigit
  simp only [isDigit, Bool.and_eq_true, decide_eq_true_eq]
  exact hdigit

theorem le_ofDigitChars (t : Text) (m : Nat) : m ≤ Nat.ofDigitChars 10 t m := by
  induction t generalizing m with
  | nil => simp
  | cons c t ih =>
    rw [Nat.ofDigitChars_cons]
    exact le_trans (by omega) (ih _)

/-- As long as the number fits, all digits are appended. -/
theorem appendDigits_eq {m : Nat} (h : Nat.ofDigitChars 10 t m < UInt64.size) :
    appendDigits m t = (Nat.ofDigitChars 10 t m, 0) := by
  induction t generalizing m with
  | nil => simp [appendDigits]
  | cons c t ih =>
    rw [Nat.ofDigitChars_cons] at h ⊢
    rw [appendDigits, if_pos (Nat.lt_of_le_of_lt (le_ofDigitChars t _) h), ih h]

/-- Only zero has a numeral that begins with zero. -/
theorem head?_toDigits_ne (h : n ≠ 0) : (Nat.toDigits 10 n).head? ≠ some '0' := by
  induction n using Nat.strongRecOn with
  | ind n ih =>
    by_cases hlt : n < 10
    · have hfew : ∀ m < 10, m ≠ 0 → [Nat.digitChar m].head? ≠ some '0' := by decide
      rw [Nat.toDigits_of_lt_base hlt]
      exact hfew n hlt h
    · rw [Nat.toDigits_of_base_le (by decide) (Nat.le_of_not_lt hlt),
        List.head?_append_of_ne_nil _ Nat.toDigits_ne_nil]
      exact ih (n / 10) (by omega) (by omega)

theorem wholeDigits_toDigits (h : n < UInt64.size) : WholeDigits false (Nat.toDigits 10 n) n where
  some_digit := Nat.toDigits_ne_nil
  no_leading_zero d rest heq := by
    by_cases hzero : n = 0
    · subst hzero
      simp at heq
    · exact head?_toDigits_ne hzero (by rw [heq, List.head?_cons])
  fits := by rw [appendDigits_eq (by rwa [Nat.ofDigitChars_ten_toDigits])]
  value := by
    rw [appendDigits_eq (by rwa [Nat.ofDigitChars_ten_toDigits]), Nat.ofDigitChars_ten_toDigits]
    rfl

/-- A number that fits is read from its digits. -/
theorem takes_nat64 (h : n < UInt64.size) : Takes nat64 (Nat.toDigits 10 n) n := by
  have hdigits : ∀ c ∈ Nat.toDigits 10 n, isDigit c = true := fun c hc => isDigit_of_mem_toDigits hc
  have hnumber := unsigned_of_wholeDigits (wholeDigits_toDigits h) hdigits
  obtain ⟨c, ds, hds⟩ := List.exists_cons_of_ne_nil (Nat.toDigits_ne_nil (b := 10) (n := n))
  rw [hds] at hdigits hnumber ⊢
  have hc : isDigit c = true := hdigits c List.mem_cons_self
  have hopens : (c = '-' || isDigit c) = true := by simp [hc]
  refine ⟨[], ?_⟩
  rw [List.append_nil, nat64, peekSolid_bind_cons (isBlank_of_number hopens)]
  dsimp only
  rw [if_pos hopens]
  refine bind_eq_ok.mpr ⟨.integer n, [], bind_eq_ok.mpr ⟨some c, c :: ds, rfl, ?_⟩, ?_⟩
  · generalize hd : some c = d
    split
    · cases hd
      exact absurd hc (by decide)
    · exact hnumber
  · exact congrFun (if_pos (Int.natCast_nonneg n)) []

/-- No digit is escaped. -/
theorem written_toString (n : Nat) : written (toString n) = Nat.toDigits 10 n ++ ['"'] := by
  have hdigits : (Nat.toDigits 10 n).flatMap escapeChar = (Nat.toDigits 10 n).flatMap ([·]) := by
    refine List.flatMap_congr fun c hc => ?_
    have hdigit := isDigit_of_mem_toDigits hc
    simp only [isDigit, Bool.and_eq_true, decide_eq_true_eq] at hdigit
    have hne (d : Char) (hd : d.toNat < '0'.toNat ∨ '9'.toNat < d.toNat) : c ≠ d := by
      rintro rfl
      omega
    have hcontrol : ¬ c.toNat < 0x20 := fun h => absurd (lt_of_le_of_lt hdigit.1 h) (by decide)
    simp [escapeChar, hne, hcontrol]
  rw [written, show (toString n).toList = Nat.toDigits 10 n by simp, hdigits,
    List.flatMap_singleton']

/-- A number that fits is read from its name. -/
theorem takes_nat64Name (h : n < UInt64.size) : Takes nat64Name (written (toString n)) n := by
  rw [written_toString]
  have hnat : nat64 (Nat.toDigits 10 n ++ ['"']) = .ok (n, ['"']) :=
    delimited_nat64.append (takes_nat64 h) (apart_cons.mpr rfl)
  obtain ⟨c, ds, hds⟩ := List.exists_cons_of_ne_nil (Nat.toDigits_ne_nil (b := 10) (n := n))
  have hc : isDigit c = true := isDigit_of_mem_toDigits (n := n) (by simp [hds])
  rw [hds] at hnat ⊢
  refine ⟨[], bind_eq_ok.mpr ⟨some c, _, rfl, ?_⟩⟩
  dsimp only
  rw [if_pos (by simp [hc]), List.append_nil]
  exact bind_eq_ok.mpr ⟨n, ['"'], hnat, rfl⟩

theorem appendDigits_lt {m : Nat} (h : m < UInt64.size) (t : Text) :
    (appendDigits m t).1 < UInt64.size := by
  induction t generalizing m with
  | nil => exact h
  | cons c t ih =>
    rw [appendDigits]
    split
    · next hlonger => exact ih hlonger
    · exact h

theorem gives_unsigned (negative : Bool) :
    Gives (unsigned negative) fun x => ∀ k, x = .integer k → k < UInt64.size := by
  rintro t _ t' h k rfl
  obtain ⟨hds, -⟩ := wholeDigits_of_unsigned h
  have hlt : (appendDigits 0 (t.takeWhile isDigit)).1 < UInt64.size := appendDigits_lt (by decide) _
  have hvalue := hds.value
  unfold integer at hvalue
  split_ifs at hvalue
  · obtain ⟨⟩ := hvalue
    omega
  · obtain ⟨⟩ := hvalue
    omega

theorem gives_number : Gives number fun x => ∀ k, x = .integer k → k < UInt64.size := by
  refine Gives.bind fun c => ?_
  split
  · exact Gives.bind fun _ => gives_unsigned true
  · exact gives_unsigned false

/-- A natural number that was read fits. -/
theorem gives_nat64 : Gives nat64 (· < UInt64.size) := by
  refine Gives.bind fun c => ?_
  split
  · split
    · refine Gives.bind_of gives_number fun x hx => ?_
      split
      · next k =>
        split
        · have hk := hx k rfl
          exact Gives.pure (by omega)
        · exact Gives.throw
      · exact Gives.throw
    · exact fun _ _ _ h => absurd h (unexpected_ne_ok _)
  · exact fun _ _ _ h => absurd h (unexpected_ne_ok _)

theorem gives_nat64Name : Gives nat64Name (· < UInt64.size) := by
  refine Gives.bind fun c => ?_
  split
  · split
    · refine Gives.bind_of gives_nat64 fun n hn => Gives.bind fun c => ?_
      split
      · exact Gives.bind fun _ => Gives.pure hn
      · exact Gives.throw
    · exact Gives.throw
  · exact Gives.throw

/-- An integer is its digits, behind a sign if it is negative. -/
theorem toList_prettyAt_integer (indent : String) (k : Int) :
    (prettyAt indent (.number (.integer k))).toList =
      if k < 0 then '-' :: Nat.toDigits 10 k.natAbs else Nat.toDigits 10 k.natAbs := by
  rw [prettyAt, Number.text, String.toList_ofList]
  cases k with
  | ofNat n =>
    have htext : (toString (Int.ofNat n)).toList = Nat.toDigits 10 n := by
      change (toString n).toList = _
      simp
    rw [htext, if_neg (by simp)]
    rfl
  | negSucc n =>
    have htext : (toString (Int.negSucc n)).toList = '-' :: Nat.toDigits 10 (n + 1) := by
      change ("-" ++ toString (n + 1)).toList = _
      simp
    rw [htext, if_pos (by omega)]
    rfl

/-! ## Containers over several lines -/

variable {indent outer closing : String} {first : Bool}

/-- What follows an opening bracket: the parts from the first or from a further one on, each on a
line of its own, and what closes the container. -/
def lined (closing outer : String) : Bool → List String → Text
  | _, [] => '\n' :: outer.toList ++ closing.toList
  | first, part :: parts =>
    (if first then [] else [',']) ++ '\n' :: part.toList ++ lined closing outer false parts

theorem toList_intercalate (part : String) (parts : List String) :
    '\n' :: (",\n".intercalate (part :: parts)).toList ++ '\n' :: outer.toList ++ closing.toList =
      lined closing outer true (part :: parts) := by
  induction parts generalizing part with
  | nil => simp [lined]
  | cons next parts ih =>
    -- Behind the first part and a comma the others stand as they would alone.
    have hfurther : lined closing outer false (next :: parts) =
        ',' :: lined closing outer true (next :: parts) := rfl
    rw [String.intercalate_cons_cons, lined, hfurther, ← ih next]
    simp

/-- A container is closed behind its parts, and at once if it has none. -/
theorem exists_toList_block (opening closing outer : String) (parts : List String) :
    ∃ u, (block opening closing outer parts).toList = opening.toList ++ u ∧
      (u = lined closing outer true parts ∨ parts = [] ∧ u = closing.toList) := by
  cases parts with
  | nil => exact ⟨_, by simp [block], .inr ⟨rfl, rfl⟩⟩
  | cons part parts =>
    refine ⟨_, ?_, .inl rfl⟩
    rw [← toList_intercalate]
    simp [block]

theorem separator_lines (hindent : Blank indent.toList) :
    Separator first ((if first then [] else [',']) ++ '\n' :: indent.toList) := by
  have hline : Blank ('\n' :: indent.toList) := List.forall_mem_cons.mpr ⟨rfl, hindent⟩
  cases first with
  | true => exact hline
  | false => exact ⟨[], _, blank_nil, hline, rfl⟩

theorem blank_space : Blank [' '] := by simp [Blank, isBlank]

theorem Delimited.behind_space {r : Reader α} {a : α} (h : Delimited r) (ht : Takes r t a) :
    Takes r (' ' :: t) a :=
  h.behind_blanks ht blank_space

theorem blank_deeper (houter : Blank outer.toList) : Blank (outer ++ "  ").toList := by
  rw [String.toList_append]
  exact houter.append (blank_space.append blank_space)

theorem lined_item (v : Json) (vs : List Json) :
    lined closing outer first (prettyItems indent (v :: vs)) =
      ((if first then [] else [',']) ++ '\n' :: indent.toList) ++ (prettyAt indent v).toList ++
        lined closing outer false (prettyItems indent vs) := by
  simp [prettyItems, lined]

theorem lined_member (m : String × Json) (ms : List (String × Json)) :
    lined closing outer first (prettyMembers indent (m :: ms)) =
      ((if first then [] else [',']) ++ '\n' :: indent.toList) ++ '"' :: written m.1 ++ [] ++
        ':' :: (' ' :: (prettyAt indent m.2).toList) ++
          lined closing outer false (prettyMembers indent ms) := by
  simp [prettyMembers, lined, toList_quote]

theorem itemsText_lined (hindent : Blank indent.toList) (houter : Blank outer.toList)
    (vs : List Json) :
    ItemsText first (vs.map fun v => (prettyAt indent v).toList)
      (lined "]" outer first (prettyItems indent vs)) := by
  induction vs generalizing first with
  | nil => exact .close (List.forall_mem_cons.mpr ⟨rfl, houter⟩)
  | cons v vs ih =>
    rw [lined_item]
    exact .item (separator_lines hindent) ih

/-- **A list over several lines has its items.** -/
theorem isList_prettyAt (houter : Blank outer.toList) (vs : List Json) :
    IsList (vs.map fun v => (prettyAt (outer ++ "  ") v).toList)
      (prettyAt outer (.array vs)).toList := by
  obtain ⟨u, htext, hu⟩ := exists_toList_block "[" "]" outer (prettyItems (outer ++ "  ") vs)
  refine ⟨[], u, [], blank_nil, blank_nil, by simp [prettyAt, htext], ?_⟩
  obtain rfl | ⟨hnone, rfl⟩ := hu
  · exact itemsText_lined (blank_deeper houter) houter vs
  · cases vs with
    | nil => exact .close blank_nil
    | cons v vs => simp [prettyItems] at hnone

/-- Blanks in front of a list do not matter. -/
theorem IsList.behind_blanks {items : List Text} (h : IsList items t) {b : Text} (hb : Blank b) :
    IsList items (b ++ t) := by
  obtain ⟨front, u, e, hfront, he, rfl, hu⟩ := h
  exact ⟨b ++ front, u, e, hb.append hfront, he, by simp, hu⟩

theorem membersText_lined (hindent : Blank indent.toList) (houter : Blank outer.toList)
    (ms : List (String × Json)) :
    MembersText first (ms.map fun m => (m.1, ' ' :: (prettyAt indent m.2).toList))
      (lined "\x7d" outer first (prettyMembers indent ms)) := by
  induction ms generalizing first with
  | nil => exact .close (List.forall_mem_cons.mpr ⟨rfl, houter⟩)
  | cons m ms ih =>
    rw [lined_member]
    exact .member (separator_lines hindent) (takes_string m.1) blank_nil ih

/-- **An object over several lines has its members.** -/
theorem isObject_prettyAt (houter : Blank outer.toList) (ms : List (String × Json)) :
    IsObject (ms.map fun m => (m.1, ' ' :: (prettyAt (outer ++ "  ") m.2).toList))
      (prettyAt outer (.object ms)).toList := by
  obtain ⟨u, htext, hu⟩ :=
    exists_toList_block "\x7b" "\x7d" outer (prettyMembers (outer ++ "  ") ms)
  refine ⟨[], u, [], blank_nil, blank_nil, by simp [prettyAt, htext], ?_⟩
  obtain rfl | ⟨hnone, rfl⟩ := hu
  · exact membersText_lined (blank_deeper houter) houter ms
  · cases ms with
    | nil => exact .close blank_nil
    | cons m ms => simp [prettyMembers] at hnone

namespace Layout

variable {σ : Type} {l : Layout σ} {seen : List String} {r r' : σ} {ms : List (String × Json)}

/-- Blanks in front of the values do not matter. -/
theorem Filled.behind_blanks {b : Text} {members : List (String × Text)} (hb : Blank b)
    (hread : ∀ f ∈ l.fields, ∀ r, Delimited (f.read r)) (h : Filled l seen r members r') :
    Filled l seen r (members.map fun m => (m.1, b ++ m.2)) r' := by
  induction h with
  | done habsent => exact .done habsent
  | unknown hfind hvalue _ ih =>
    exact .unknown hfind (delimited_skipValue.behind_blanks hvalue hb) ih
  | known hfind hnew hvalue _ ih =>
    have hfield := hread _ (List.mem_of_find?_eq_some hfind)
    exact .known hfind hnew ((hfield _).behind_blanks hvalue hb) ih

/-- **A record over several lines is read** if the values of its members fill it. -/
theorem parse_pretty_of_filled (hread : ∀ f ∈ l.fields, ∀ r, Delimited (f.read r))
    (h : Filled l [] l.initial (ms.map fun m => (m.1, (prettyAt "  " m.2).toList)) r) :
    l.parse (Json.object ms).pretty = .ok r := by
  have hfilled := h.behind_blanks blank_space hread
  rw [List.map_map] at hfilled
  have hobject : IsObject _ (Json.object ms).pretty.toList := isObject_prettyAt (by simp [Blank]) ms
  exact parse_of_filled hread hobject hfilled

end Layout

section Map

variable {κ : Type} {name : Reader κ} {value : Reader α} {es : List (κ × α)}
  {print : κ × α → String × Json}

/-- The members of a map are entered if the names and values that are printed are read. -/
theorem entered_lined (hindent : Blank indent.toList) (houter : Blank outer.toList)
    (hname : ∀ e ∈ es, Takes name (written (print e).1) e.1)
    (hvalue : ∀ e ∈ es, Takes value (' ' :: (prettyAt indent (print e).2).toList) e.2) :
    Entered name value first es
      (lined "\x7d" outer first (prettyMembers indent (es.map print))) := by
  induction es generalizing first with
  | nil => exact .close (List.forall_mem_cons.mpr ⟨rfl, houter⟩)
  | cons e es ih =>
    obtain ⟨hname, hnames⟩ := List.forall_mem_cons.mp hname
    obtain ⟨hvalue, hvalues⟩ := List.forall_mem_cons.mp hvalue
    rw [List.map_cons, lined_member]
    exact .entry (separator_lines hindent) hname blank_nil hvalue (ih hnames hvalues)

/-- A map over several lines, or without members, is read. -/
theorem takes_map [LT κ] [DecidableLT κ] [DecidableEq κ] {depth : Nat} (hdepth : depth ≠ 0)
    (hlocal : Local name) (hdelimited : Delimited value) (houter : Blank outer.toList)
    (hname : ∀ e ∈ es, Takes name (written (print e).1) e.1)
    (hvalue : ∀ e ∈ es, Takes value (prettyAt (outer ++ "  ") (print e).2).toList e.2) :
    Takes (map depth name value) (prettyAt outer (.object (es.map print))).toList
      (OrderedMap.ofList es) := by
  obtain ⟨u, htext, hu⟩ :=
    exists_toList_block "\x7b" "\x7d" outer (prettyMembers (outer ++ "  ") (es.map print))
  have hentered : Entered name value true es u := by
    obtain rfl | ⟨hnone, rfl⟩ := hu
    · exact entered_lined (blank_deeper houter) houter hname fun e he =>
        hdelimited.behind_space (hvalue e he)
    · cases es with
      | nil => exact .close blank_nil
      | cons e es => simp [prettyMembers] at hnone
  rw [prettyAt, htext]
  exact takes_map_of_entered hdepth hlocal hdelimited hentered

end Map

end BytecodeParity.Json.Reader
