import BytecodeParity.Text.Lossy
import Mathlib.Data.List.Basic
/-!
# Chunks of two bytes and what they show

A code is compared in chunks of two bytes of its UTF-8 form, and not the chunks are compared but
the text that each of them shows. On digits a chunk shows itself. On other text it may be half a
character, shown as the replacement character, and then chunks of different bytes show the same.

This file says how much is lost. `chunk` names the bytes by position and `showChunk` the text of
one chunk, so that the texts to be compared are `showChunk` after `chunk` (`getElem?_pairs`). **The
replacement character is the only loss**: what shows without it encodes to the chunk again
(`utf8_showChunk`), a text is told from its chunks (`eq_of_chunk_eq`, `utf8_injective`), and text of
one byte a character shows without any loss (`showChunk_ascii`).
-/

namespace BytecodeParity.Text

/-! ## Bytes by position -/

/-- The UTF-8 form determines the text. -/
theorem utf8_injective {s t : Text} (h : utf8 s = utf8 t) : s = t := by
  have hbytes : String.ofList s = String.ofList t := by
    rw [← String.toByteArray_inj, String.toByteArray_ofList, String.toByteArray_ofList]
    exact congrArg List.toByteArray h
  rw [← String.toList_ofList (l := s), hbytes, String.toList_ofList]

/-- The chunk of two bytes at a position. It has one byte at an odd end and none behind the end. -/
def chunk (bytes : List UInt8) (p : Nat) : List UInt8 := (bytes.drop (2 * p)).take 2

theorem chunk_cons_cons (a b : UInt8) (bytes : List UInt8) (p : Nat) :
    chunk (a :: b :: bytes) (p + 1) = chunk bytes p := rfl

theorem length_chunk_le (bytes : List UInt8) (p : Nat) : (chunk bytes p).length ≤ 2 := by
  rw [chunk, List.length_take]
  exact Nat.min_le_left _ _

theorem chunk_eq_nil_iff {bytes : List UInt8} {p : Nat} :
    chunk bytes p = [] ↔ bytes.length ≤ 2 * p := by
  simp [chunk]

theorem getElem?_chunk {bytes : List UInt8} {p i : Nat} (hi : i < 2) :
    (chunk bytes p)[i]? = bytes[2 * p + i]? := by
  rw [chunk, List.getElem?_take_of_lt hi, List.getElem?_drop]

/-- Bytes are told from their chunks. -/
theorem eq_of_chunk_eq {bs cs : List UInt8} (h : ∀ p, chunk bs p = chunk cs p) : bs = cs := by
  refine List.ext_getElem? fun i => ?_
  have hi : 2 * (i / 2) + i % 2 = i := Nat.div_add_mod i 2
  have hlt : i % 2 < 2 := Nat.mod_lt i (by decide)
  have hchunk := congrArg (fun bytes : List UInt8 => bytes[i % 2]?) (h (i / 2))
  simp only [getElem?_chunk hlt, hi] at hchunk
  exact hchunk

/-! ## What a chunk shows -/

/-- The text of a chunk. -/
def showChunk : List UInt8 → Text
  | [] => []
  | [b] => [showByte b]
  | a :: b :: _ => showPair a b

theorem length_pairs (bytes : List UInt8) : (pairs bytes).length = (bytes.length + 1) / 2 := by
  induction bytes using pairs.induct with
  | case1 => rfl
  | case2 b => simp [pairs]
  | case3 a b rest ih =>
    rw [pairs, List.length_cons, ih]
    simp only [List.length_cons]
    omega

/-- **The texts to be compared are those of the chunks.** -/
theorem getElem?_pairs (bytes : List UInt8) (p : Nat) :
    (pairs bytes)[p]? =
      if chunk bytes p = [] then none else some (showChunk (chunk bytes p)) := by
  induction bytes using pairs.induct generalizing p with
  | case1 => simp [pairs, chunk]
  | case2 b =>
    cases p with
    | zero => rfl
    | succ p => simp [pairs, chunk]
  | case3 a b rest ih =>
    cases p with
    | zero => rfl
    | succ p => rw [pairs, List.getElem?_cons_succ, chunk_cons_cons, ih]

/-! ## Text of one byte a character -/

/-- Text of one byte a character. -/
def Ascii (t : Text) : Prop := ∀ c ∈ t, c.toNat < 0x80

theorem utf8EncodeChar_ascii {c : Char} (h : c.toNat < 0x80) :
    String.utf8EncodeChar c = [c.toNat.toUInt8] := by
  have hsize : c.utf8Size = 1 := by
    rw [Char.utf8Size_eq_one_iff, UInt32.le_iff_toNat_le]
    exact Nat.le_of_lt_succ h
  rw [String.utf8EncodeChar_eq_singleton hsize]
  rfl

theorem utf8_ascii {t : Text} (h : Ascii t) : utf8 t = t.map fun c => c.toNat.toUInt8 := by
  induction t with
  | nil => rfl
  | cons c t ih =>
    rw [utf8, List.flatMap_cons, utf8EncodeChar_ascii (h c List.mem_cons_self), List.map_cons]
    exact congrArg _ (ih fun d hd => h d (List.mem_cons_of_mem c hd))

theorem length_utf8 {t : Text} (h : Ascii t) : (utf8 t).length = t.length := by
  rw [utf8_ascii h, List.length_map]

theorem toNat_toUInt8 {c : Char} (h : c.toNat < 0x80) : c.toNat.toUInt8.toNat = c.toNat :=
  Nat.mod_eq_of_lt (by omega)

/-- A byte of one character shows that character. -/
theorem showByte_ascii {c : Char} (h : c.toNat < 0x80) : showByte c.toNat.toUInt8 = c := by
  rw [showByte, if_pos (by rw [UInt8.lt_iff_toNat_lt, toNat_toUInt8 h]; exact h),
    toNat_toUInt8 h, Char.ofNat_toNat]

/-- A byte below `0x80` begins no longer character. -/
theorem showPair_of_lt {a : UInt8} (h : a < 0x80) (b : UInt8) :
    showPair a b = [showByte a, showByte b] := by
  have ha : a.toNat < 128 := UInt8.lt_iff_toNat_lt.mp h
  have hpair : encodesPair a b = false := by
    simp [encodesPair, UInt8.le_iff_toNat_le]
    omega
  have hlong : beginsLonger a b = false := by
    simp [beginsLonger, UInt8.le_iff_toNat_le, ← UInt8.toNat_inj]
    omega
  rw [showPair, hpair, hlong]
  rfl

theorem showPair_ascii {a b : Char} (ha : a.toNat < 0x80) (hb : b.toNat < 0x80) :
    showPair a.toNat.toUInt8 b.toNat.toUInt8 = [a, b] := by
  have hlt : a.toNat.toUInt8 < 0x80 := by
    rw [UInt8.lt_iff_toNat_lt, toNat_toUInt8 ha]
    exact ha
  rw [showPair_of_lt hlt, showByte_ascii ha, showByte_ascii hb]

/-- **A chunk of such text shows its own characters.** -/
theorem showChunk_ascii {t : Text} (h : Ascii t) (p : Nat) :
    showChunk (chunk (utf8 t) p) = (t.drop (2 * p)).take 2 := by
  have hrest : Ascii (t.drop (2 * p)) := fun c hc => h c (List.mem_of_mem_drop hc)
  rw [chunk, utf8_ascii h, ← List.map_drop, ← List.map_take]
  match t.drop (2 * p), hrest with
  | [], _ => rfl
  | [a], hrest => exact congrArg (· :: []) (showByte_ascii (hrest a (by simp)))
  | a :: b :: _, hrest => exact showPair_ascii (hrest a (by simp)) (hrest b (by simp))

/-! ## What is lost -/

theorem showByte_of_lt {b : UInt8} (h : b < 0x80) : showByte b = Char.ofNat b.toNat := if_pos h

theorem showByte_of_not_lt {b : UInt8} (h : ¬ b < 0x80) : showByte b = replacement := if_neg h

theorem toNat_ofNat {n : Nat} (h : n < 0xD800) : (Char.ofNat n).toNat = n := by
  rw [Char.ofNat, dif_pos (Or.inl h)]
  rfl

theorem toNat_showByte {b : UInt8} (h : b < 0x80) : (showByte b).toNat = b.toNat := by
  have hb : b.toNat < 128 := UInt8.lt_iff_toNat_lt.mp h
  rw [showByte_of_lt h, toNat_ofNat (by omega)]

theorem utf8EncodeChar_showByte {b : UInt8} (h : showByte b ≠ replacement) :
    String.utf8EncodeChar (showByte b) = [b] := by
  have hlt : b < 0x80 := not_not.mp (mt showByte_of_not_lt h)
  have hb : b.toNat < 128 := UInt8.lt_iff_toNat_lt.mp hlt
  have hc := toNat_showByte hlt
  rw [utf8EncodeChar_ascii (by rw [hc]; exact hb), hc]
  exact congrArg (· :: []) (UInt8.ofNat_toNat)

theorem bounds_of_encodesPair {a b : UInt8} (h : encodesPair a b = true) :
    (0xC2 ≤ a.toNat ∧ a.toNat ≤ 0xDF) ∧ 0x80 ≤ b.toNat ∧ b.toNat ≤ 0xBF := by
  simp only [encodesPair, isContinuation, Bool.and_eq_true, decide_eq_true_eq,
    UInt8.le_iff_toNat_le, UInt8.reduceToNat] at h
  exact h

theorem bounds_of_beginsLonger {a b : UInt8} (h : beginsLonger a b = true) :
    0x80 ≤ a.toNat ∧ 0x80 ≤ b.toNat := by
  simp only [beginsLonger, isContinuation, Bool.or_eq_true, Bool.and_eq_true, decide_eq_true_eq,
    beq_iff_eq, UInt8.le_iff_toNat_le, UInt8.reduceToNat, ← UInt8.toNat_inj] at h
  omega

/-- A character of two bytes encodes to the two that it is read off. -/
theorem utf8EncodeChar_pair {a b : UInt8} (h : encodesPair a b = true) :
    String.utf8EncodeChar (Char.ofNat ((a.toNat - 0xC0) * 0x40 + (b.toNat - 0x80))) = [a, b] := by
  obtain ⟨⟨hal, hau⟩, hbl, hbu⟩ := bounds_of_encodesPair h
  generalize hn : (a.toNat - 0xC0) * 0x40 + (b.toNat - 0x80) = n
  have hc : (Char.ofNat n).val.toNat = n := toNat_ofNat (by omega)
  have hsize : (Char.ofNat n).utf8Size = 2 := by
    rw [Char.utf8Size_eq_two_iff, UInt32.lt_iff_toNat_lt, UInt32.le_iff_toNat_le, hc]
    simp only [UInt32.reduceToNat]
    omega
  rw [String.utf8EncodeChar_eq_cons_cons hsize]
  -- Six bits go into the second byte, what is above them into the first.
  refine congrArg₂ List.cons ?_ (congrArg (· :: []) ?_)
  · have hbits : n >>> 6 % 256 &&& 31 = a.toNat - 192 := by
      rw [Nat.shiftRight_eq_div_pow, Nat.and_two_pow_sub_one_eq_mod _ 5]
      omega
    rw [← UInt8.toNat_inj]
    simp only [UInt8.toNat_or, UInt8.toNat_and, UInt32.toNat_toUInt8, UInt32.toNat_shiftRight, hc,
      UInt8.reduceToNat, UInt32.reduceToNat, Nat.reduceMod]
    rw [hbits, Nat.or_comm]
    have hor : 192 + (a.toNat - 192) = 192 ||| (a.toNat - 192) :=
      Nat.two_pow_add_eq_or_of_lt (i := 6) (by omega) 3
    omega
  · have hbits : n % 256 &&& 63 = b.toNat - 128 := by
      rw [Nat.and_two_pow_sub_one_eq_mod _ 6]
      omega
    rw [← UInt8.toNat_inj]
    simp only [UInt8.toNat_or, UInt8.toNat_and, UInt32.toNat_toUInt8, hc, UInt8.reduceToNat]
    rw [hbits, Nat.or_comm]
    have hor : 128 + (b.toNat - 128) = 128 ||| (b.toNat - 128) :=
      Nat.two_pow_add_eq_or_of_lt (i := 6) (by omega) 2
    omega

/-- **What shows without the replacement character encodes to the chunk again.** -/
theorem utf8_showChunk {c : List UInt8} (hlen : c.length ≤ 2) (h : replacement ∉ showChunk c) :
    utf8 (showChunk c) = c := by
  match c, hlen with
  | [], _ => rfl
  | [b], _ =>
    rw [showChunk, List.mem_singleton] at h
    rw [showChunk, utf8, List.flatMap_singleton, utf8EncodeChar_showByte (Ne.symm h)]
  | [a, b], _ =>
    -- One character of two bytes, the front of a longer one, or two bytes by themselves.
    rw [showChunk, showPair] at h ⊢
    split at h
    next hpair =>
      rw [if_pos hpair, utf8, List.flatMap_singleton, utf8EncodeChar_pair hpair]
    next hpair =>
      split at h
      · exact absurd List.mem_cons_self h
      next hlong =>
        simp only [List.mem_cons, List.not_mem_nil, or_false, not_or] at h
        rw [if_neg hpair, if_neg hlong, utf8, List.flatMap_cons, List.flatMap_singleton,
          utf8EncodeChar_showByte (Ne.symm h.1), utf8EncodeChar_showByte (Ne.symm h.2)]
        rfl

/-- A byte below `0x80` is the only one that shows its character. -/
theorem eq_showByte_iff {x : Char} (hx : x.toNat < 0x80) {b : UInt8} :
    x = showByte b ↔ x.toNat.toUInt8 = b := by
  constructor
  · intro h
    have hlt : b < 0x80 := by
      by_contra hge
      rw [showByte_of_not_lt hge] at h
      exact absurd hx (by rw [h]; decide)
    rw [← UInt8.toNat_inj, toNat_toUInt8 hx, h, toNat_showByte hlt]
  · rintro rfl
    exact (showByte_ascii hx).symm

/-- A character of one byte is shown by a chunk exactly if its byte stands there. -/
theorem mem_showChunk_ascii {c : List UInt8} (hlen : c.length ≤ 2) {x : Char}
    (hx : x.toNat < 0x80) : x ∈ showChunk c ↔ x.toNat.toUInt8 ∈ c := by
  -- Bytes of a longer character are no characters of their own.
  have hlong : ∀ {a b : UInt8}, 0x80 ≤ a.toNat → 0x80 ≤ b.toNat →
      x.toNat.toUInt8 ∉ [a, b] := by
    intro a b ha hb hmem
    have hval := toNat_toUInt8 hx
    simp only [List.mem_cons, List.not_mem_nil, or_false] at hmem
    rcases hmem with h | h
    · rw [h] at hval
      omega
    · rw [h] at hval
      omega
  match c, hlen with
  | [], _ => simp [showChunk]
  | [b], _ =>
    rw [showChunk, List.mem_singleton, List.mem_singleton]
    exact eq_showByte_iff hx
  | [a, b], _ =>
    rw [showChunk, showPair]
    split
    next hpair =>
      obtain ⟨⟨hal, hau⟩, hbl, hbu⟩ := bounds_of_encodesPair hpair
      refine iff_of_false (fun h => ?_) (hlong (by omega) hbl)
      rw [List.mem_singleton.mp h, toNat_ofNat (by omega)] at hx
      omega
    next =>
      split
      next hb =>
        obtain ⟨ha, hb⟩ := bounds_of_beginsLonger hb
        refine iff_of_false (fun h => ?_) (hlong ha hb)
        exact absurd hx (by rw [List.mem_singleton.mp h]; decide)
      next =>
        simp only [List.mem_cons, List.not_mem_nil, or_false, eq_showByte_iff hx]

end BytecodeParity.Text
