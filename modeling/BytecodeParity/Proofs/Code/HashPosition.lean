import BytecodeParity.Proofs.Code.HashSearch
/-!
# At which byte the search for a hash finds it

The search reads a code as text and halves the offset of the first occurrence. The bytes of a code
are two digits each, so an occurrence says something about bytes only if it begins with the first
digit of one (`standsAt_iff`). One that begins with the second digit is made of halves: the hash can
be read there, and no byte of the code is the first byte of the hash.

The search does not look at that. **The byte it tells is the first at which the hash stands exactly
if the first occurrence is not made of halves**, and for every hash there is a code in which it is
(`found_iff_least`). The byte that is told then lies in front of the byte that was meant, or there
is none that was meant.
-/

namespace BytecodeParity

namespace Hex

/-! ## The bytes that digits stand for -/

/-- The number that a digit stands for. -/
def digitValue (c : Char) : Nat := (Numeral.digitValue? 16 c).getD 0

/-- The bytes of a text of digits, as numbers. A digit that is left over stands for none. -/
def bytes : Text → List Nat
  | [] => []
  | [_] => []
  | high :: low :: t => (16 * digitValue high + digitValue low) :: bytes t

theorem digitValue_lt {c : Char} (h : isDigit c = true) : digitValue c < 16 :=
  of_digit (P := fun c => digitValue c < 16) (by decide) h

/-- Digits stand for the same number exactly if they are equal up to case. -/
theorem digitValue_eq_iff {c d : Char} (hc : isDigit c = true) (hd : isDigit d = true) :
    digitValue c = digitValue d ↔ c.toLower = d.toLower :=
  of_digit (P := fun d => digitValue c = digitValue d ↔ c.toLower = d.toLower)
    (of_digit (P := fun c => ∀ d ∈ alphabet, digitValue c = digitValue d ↔ c.toLower = d.toLower)
      (by decide) hc) hd

theorem length_bytes (t : Text) : (bytes t).length = t.length / 2 := by
  induction t using bytes.induct with
  | case1 => rfl
  | case2 => simp [bytes]
  | case3 high low t ih =>
    simp only [bytes, List.length_cons, ih]
    omega

/-- Leaving out bytes is leaving out twice as many digits. -/
theorem bytes_drop (t : Text) (p : Nat) : bytes (t.drop (2 * p)) = (bytes t).drop p := by
  induction p generalizing t with
  | zero => rfl
  | succ p ih =>
    match t with
    | [] => simp [bytes]
    | [_] => simp [bytes, Nat.mul_succ]
    | high :: low :: t => exact ih t

/-- **Bytes begin with bytes where the digits begin with the digits.** -/
theorem bytes_prefix_iff {v t : Text} (hv : WholeBytes v) (ht : Digits t) :
    bytes v <+: bytes t ↔ Text.lower v <+: Text.lower t := by
  induction v using bytes.induct generalizing t with
  | case1 => simp [bytes]
  | case2 c => exact absurd hv.even (by simp)
  | case3 a b v ih =>
    have ha : isDigit a = true := hv.digits a (by simp)
    have hb : isDigit b = true := hv.digits b (by simp)
    have heven : (v.length + 2) % 2 = 0 := hv.even
    have hrest : WholeBytes v := ⟨fun c hc => hv.digits c (by simp [hc]), by omega⟩
    match t, ht with
    | [], _ => simp [bytes]
    | [_], _ => simp [bytes, List.cons_prefix_cons]
    | c :: d :: t, ht =>
      have hc : isDigit c = true := ht c (by simp)
      have hd : isDigit d = true := ht d (by simp)
      have htail : Digits t := fun e he => ht e (by simp [he])
      -- A byte falls apart into its two digits, because the second is less than sixteen.
      have hbyte : 16 * digitValue a + digitValue b = 16 * digitValue c + digitValue d ↔
          a.toLower = c.toLower ∧ b.toLower = d.toLower := by
        rw [← digitValue_eq_iff ha hc, ← digitValue_eq_iff hb hd]
        have := digitValue_lt hb
        have := digitValue_lt hd
        omega
      simp only [bytes, Text.lower_cons, List.cons_prefix_cons, hbyte, ih hrest htail, and_assoc]

end Hex

namespace Code

open Text Hex

variable {code expected reference : Text}

/-! ## Standing in a code and being read in it -/

/-- The bytes of the code from the given one on are those of the hash. -/
def StandsAt (code hash : Text) (p : Nat) : Prop :=
  ((bytes (body code)).drop p).take 32 = bytes hash

instance (code hash : Text) (p : Nat) : Decidable (StandsAt code hash p) :=
  inferInstanceAs (Decidable (_ = _))

/-- The first byte at which the hash stands. -/
def LeastByte (code hash : Text) (p : Nat) : Prop :=
  StandsAt code hash p ∧ ∀ q < p, ¬ StandsAt code hash q

/-- The first digit of the body at which the digits of the hash can be read, in either case. -/
def FirstRead (code hash : Text) (n : Nat) : Prop :=
  occursAt (lower hash) (lower (body code)) n = true ∧
    ∀ j < n, occursAt (lower hash) (lower (body code)) j = false

theorem Hash.wholeBytes {t : Text} (h : Hash t) : WholeBytes t :=
  ⟨h.digits, by rw [h.length_eq]⟩

/-- **The hash stands at a byte if it can be read from the first digit of the byte on.** -/
theorem standsAt_iff (hcode : WholeBytes (body code)) (h : Hash expected) (p : Nat) :
    StandsAt code expected p ↔
      occursAt (lower expected) (lower (body code)) (2 * p) = true := by
  have hsize : (bytes expected).length = 32 := by rw [length_bytes, h.length_eq]
  have hrest : Digits ((body code).drop (2 * p)) :=
    hcode.digits.sublist (List.drop_sublist _ _)
  rw [StandsAt, ← hsize, eq_comm, ← List.prefix_iff_eq_take, ← bytes_drop,
    bytes_prefix_iff h.wholeBytes hrest, occursAt, List.isPrefixOf_iff_prefix, lower, lower,
    lower, List.map_drop]

theorem FirstRead.unique {n m : Nat} (hn : FirstRead code expected n)
    (hm : FirstRead code expected m) : n = m := by
  rcases Nat.lt_trichotomy n m with h | h | h
  · exact absurd hn.1 (by simp [hm.2 n h])
  · exact h
  · exact absurd hm.1 (by simp [hn.2 m h])

/-- Where the hash can be read there is a first place at which it can. -/
theorem exists_firstRead {i : Nat}
    (h : occursAt (lower expected) (lower (body code)) i = true) :
    ∃ n ≤ i, FirstRead code expected n := by
  have hsome : ∃ n, occursAt (lower expected) (lower (body code)) n = true := ⟨i, h⟩
  exact ⟨Nat.find hsome, Nat.find_min' hsome h, Nat.find_spec hsome,
    fun j hj => Bool.eq_false_iff.mpr (Nat.find_min hsome hj)⟩

/-- The answer is half of the first place at which the hash can be read. -/
theorem found_iff_firstRead (hcode : WholeBytes (body code)) (h : Hash expected) (p : Nat) :
    locatePoolHash code expected reference = .found p ↔
      ∃ n, FirstRead code expected n ∧ n / 2 = p := by
  have hfirst : ∀ {q}, locatePoolHash code expected reference = .found q →
      ∃ n, FirstRead code expected n ∧ n / 2 = q := by
    intro q hq
    obtain ⟨n, hn, hoffset⟩ := offset?_of_found hq
    rw [h.digits.raw_eq] at hoffset
    exact ⟨n, of_offset? hcode.digits.lower hoffset, hn⟩
  refine ⟨hfirst, ?_⟩
  rintro ⟨n, hn, rfl⟩
  have hcarried : Carries code expected := by
    rw [carries_iff h.digits h.ne_nil]
    exact (List.isPrefixOf_iff_prefix.mp hn.1).isInfix.trans (List.drop_suffix _ _).isInfix
  obtain ⟨q, hq⟩ := (found_iff_carries code expected reference).mpr hcarried
  obtain ⟨m, hm, rfl⟩ := hfirst hq
  rwa [hn.unique hm]

/-! ## Places between two bytes -/

/-- The first place is the first byte if it lies at the front of a byte. -/
theorem FirstRead.leastByte {p : Nat} (hcode : WholeBytes (body code)) (h : Hash expected)
    (hfirst : FirstRead code expected (2 * p)) : LeastByte code expected p := by
  refine ⟨(standsAt_iff hcode h p).mpr hfirst.1, fun q hq => ?_⟩
  rw [standsAt_iff hcode h, hfirst.2 (2 * q) (by omega)]
  exact Bool.false_ne_true

/-- Up to a first place in the middle of a byte the hash stands nowhere. -/
theorem FirstRead.not_standsAt {p : Nat} (hcode : WholeBytes (body code)) (h : Hash expected)
    (hfirst : FirstRead code expected (2 * p + 1)) : ∀ q ≤ p, ¬ StandsAt code expected q := by
  intro q hq
  rw [standsAt_iff hcode h, hfirst.2 (2 * q) (by omega)]
  exact Bool.false_ne_true

/-- A hash written twice, behind the same digit each time. The first begins in the middle of a byte
and the second at the front of one. -/
def twiceBehind (pad : Char) (hash : Text) : Text := (pad :: hash) ++ (pad :: hash)

theorem exists_pad (c : Char) : ∃ pad : Char, isDigit pad = true ∧ pad.toLower ≠ c.toLower := by
  by_cases hzero : '0'.toLower = c.toLower
  · exact ⟨'1', by decide, fun hone => absurd (hone.trans hzero.symm) (by decide)⟩
  · exact ⟨'0', by decide, hzero⟩

section TwiceBehind

variable {pad first : Char} {hash rest : Text}

theorem digits_twiceBehind (hpad : isDigit pad = true) (h : Hash hash) :
    Digits (twiceBehind pad hash) :=
  have hhalf : Digits (pad :: hash) := List.forall_mem_cons.mpr ⟨hpad, h.digits⟩
  hhalf.append hhalf

theorem wholeBytes_twiceBehind (hpad : isDigit pad = true) (h : Hash hash) :
    WholeBytes (body (twiceBehind pad hash)) := by
  rw [(digits_twiceBehind hpad h).body_eq]
  exact ⟨digits_twiceBehind hpad h, by rw [twiceBehind, List.length_append]; omega⟩

/-- It can be read behind the first digit and, if that digit is another than its own, not before. -/
theorem firstRead_twiceBehind (hpad : isDigit pad = true) (h : Hash (first :: rest))
    (hne : pad.toLower ≠ first.toLower) :
    FirstRead (twiceBehind pad (first :: rest)) (first :: rest) 1 := by
  rw [FirstRead, (digits_twiceBehind hpad h).body_eq]
  refine ⟨?_, fun j hj => ?_⟩
  · rw [occursAt, List.isPrefixOf_iff_prefix]
    exact ⟨lower (pad :: first :: rest), by simp [twiceBehind]⟩
  · obtain rfl : j = 0 := by omega
    rw [occursAt, Bool.eq_false_iff, ne_eq, List.isPrefixOf_iff_prefix]
    intro hfront
    obtain ⟨hsame, -⟩ := List.cons_prefix_cons.mp hfront
    exact hne hsame.symm

theorem standsAt_twiceBehind (hpad : isDigit pad = true) (h : Hash hash) :
    StandsAt (twiceBehind pad hash) hash 33 := by
  rw [standsAt_iff (wholeBytes_twiceBehind hpad h) h, (digits_twiceBehind hpad h).body_eq]
  have hlength : 2 * 33 = (lower (pad :: hash) ++ [pad.toLower]).length := by
    simp [h.length_eq]
  have hsplit : lower (twiceBehind pad hash) =
      (lower (pad :: hash) ++ [pad.toLower]) ++ lower hash := by
    simp [twiceBehind]
  rw [hsplit, occursAt, hlength, List.drop_left]
  exact List.isPrefixOf_iff_prefix.mpr List.prefix_rfl

end TwiceBehind

/-- For every hash there is a code in which it is read half a byte behind the front and stands only
later. -/
theorem exists_read_between (h : Hash expected) :
    ∃ code p, WholeBytes (body code) ∧ FirstRead code expected 1 ∧ LeastByte code expected p := by
  obtain ⟨first, rest, rfl⟩ := List.exists_cons_of_ne_nil h.ne_nil
  obtain ⟨pad, hpad, hne⟩ := exists_pad first
  have hstands : ∃ p, StandsAt (twiceBehind pad (first :: rest)) (first :: rest) p :=
    ⟨33, standsAt_twiceBehind hpad h⟩
  exact ⟨twiceBehind pad (first :: rest), Nat.find hstands, wholeBytes_twiceBehind hpad h,
    firstRead_twiceBehind hpad h hne, Nat.find_spec hstands,
    fun q hq => Nat.find_min hstands hq⟩

/-- **When the byte that is told is the byte that is meant.** The search tells half of the first
place at which the hash can be read. That is always the first byte at which the hash stands, and
told whenever there is one, exactly if this place is not in the middle of a byte. If it is, then the
hash stands neither at the byte that is told nor in front of it, and it may well stand behind it:
every hash stands in some code from a later byte on and is told to be found at byte zero. -/
theorem found_iff_least (hcode : WholeBytes (body code)) (h : Hash expected) :
    (∀ p, locatePoolHash code expected reference = .found p ↔
      ∃ n, FirstRead code expected n ∧ n / 2 = p) ∧
    ((∀ p, locatePoolHash code expected reference = .found p ↔ LeastByte code expected p) ↔
      ∀ n, FirstRead code expected n → n % 2 = 0) ∧
    (∀ p, locatePoolHash code expected reference = .found p →
      LeastByte code expected p ∨
        FirstRead code expected (2 * p + 1) ∧ ∀ q ≤ p, ¬ StandsAt code expected q) ∧
    ∃ other p, WholeBytes (body other) ∧ 0 < p ∧ LeastByte other expected p ∧
      locatePoolHash other expected reference = .found 0 := by
  have hfound : ∀ p, locatePoolHash code expected reference = .found p ↔
      ∃ n, FirstRead code expected n ∧ n / 2 = p := found_iff_firstRead hcode h
  refine ⟨hfound, ⟨fun hall n hn => ?_, fun heven p => ?_⟩, fun p hp => ?_, ?_⟩
  · -- The hash stands at the byte that is told, so the first place is no later than its front.
    have hleast := (hall (n / 2)).mp ((hfound _).mpr ⟨n, hn, rfl⟩)
    have hread := (standsAt_iff hcode h _).mp hleast.1
    by_contra hodd
    rw [hn.2 (2 * (n / 2)) (by omega)] at hread
    cases hread
  · rw [hfound]
    constructor
    · rintro ⟨n, hn, rfl⟩
      have hfront : 2 * (n / 2) = n := by have := heven n hn; omega
      rw [← hfront] at hn
      exact hn.leastByte hcode h
    · intro hleast
      obtain ⟨n, hle, hn⟩ := exists_firstRead ((standsAt_iff hcode h p).mp hleast.1)
      have hfront : n = 2 * (n / 2) := by have := heven n hn; omega
      refine ⟨n, hn, ?_⟩
      rcases Nat.lt_or_ge (n / 2) p with hlt | hge
      · rw [hfront] at hn
        exact absurd (hn.leastByte hcode h).1 (hleast.2 _ hlt)
      · omega
  · obtain ⟨n, hn, rfl⟩ := (hfound p).mp hp
    rcases Nat.mod_two_eq_zero_or_one n with heven | hodd
    · left
      have hfront : n = 2 * (n / 2) := by omega
      rw [hfront] at hn
      exact hn.leastByte hcode h
    · right
      have hmiddle : n = 2 * (n / 2) + 1 := by omega
      rw [hmiddle] at hn
      exact ⟨hn, hn.not_standsAt hcode h⟩
  · obtain ⟨other, p, hother, hfirst, hleast⟩ := exists_read_between h
    refine ⟨other, p, hother, Nat.pos_of_ne_zero ?_, hleast,
      (found_iff_firstRead hother h 0).mpr ⟨1, hfirst, rfl⟩⟩
    rintro rfl
    exact FirstRead.not_standsAt hother h hfirst 0 (Nat.le_refl 0) hleast.1

/-- The hash of zeros, written twice with a one in front of each. The first place is the second
digit of byte zero. The second is the front of byte thirty-three, where the hash stands, and byte
zero is told. -/
theorem found_iff_least_zeros :
    let zeros := List.replicate 64 '0'
    let canonical := List.replicate 64 'f'
    let code := '1' :: zeros ++ '1' :: zeros
    LeastByte code zeros 33 ∧ locatePoolHash code zeros canonical = .found 0 ∧
      ¬ ∀ p, locatePoolHash code zeros canonical = .found p ↔ LeastByte code zeros p := by
  intro zeros canonical code
  have hcode : WholeBytes (body code) := by decide +kernel
  have hzeros : Hash zeros := ⟨by decide, rfl⟩
  obtain ⟨hfound, haligned, -, -⟩ := @found_iff_least code zeros canonical hcode hzeros
  have hfirst : FirstRead code zeros 1 := by
    refine ⟨by decide +kernel, fun j hj => ?_⟩
    obtain rfl : j = 0 := by omega
    decide +kernel
  refine ⟨⟨by decide +kernel, by decide +kernel⟩, (hfound 0).mpr ⟨1, hfirst, rfl⟩, fun hall => ?_⟩
  exact absurd (haligned.mp hall 1 hfirst) (by decide)

end Code

end BytecodeParity
