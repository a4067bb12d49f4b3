import BytecodeParity.Report.Summary
import Mathlib.Data.List.Basic
import Mathlib.Data.Nat.Find
/-!
# Reading what is printed

What a report tells somebody who has nothing but the output is what can be read from it. So that
nothing is taken from the definitions that print, readers name the texts around a value and the
codes of the colours themselves. This module has the readers for the parts of a line and for lines
one after the other, each with a lemma that it reads what is printed; those for whole reports are
put together from them.

A reader for a part of a line goes from the front and gives what is left. A reader for lines tells
its lines from the next ones by the texts at their fronts, so what comes first in a line decides
(`Diverge`).
-/

namespace BytecodeParity.Report

variable {α β γ : Type} {n : Nat} {t rest : Text} {front back line : String} {colours : Bool}

/-! ## Output -/

/-- Lines are printed one after the other, each with a line feed behind it, and nothing else. -/
def Prints (lines : List String) (output : String) : Prop :=
  output.toList = lines.flatMap fun line => line.toList ++ ['\n']

theorem toList_join (parts : List String) :
    (String.join parts).toList = parts.flatMap String.toList := by
  induction parts with
  | nil => rfl
  | cons part parts ih => simp [String.join_cons, ih]

theorem prints_printed (lines : List String) : Prints lines (printed lines) := by
  rw [Prints, printed, toList_join, List.flatMap_map]
  simp

/-! ## Colours -/

/-- The code at the front of a coloured text. -/
def lit (colours : Bool) (number : String) : String :=
  if colours then "\x1b[" ++ number ++ "m" else ""

/-- The code at the end of a coloured text. -/
def unlit (colours : Bool) : String := if colours then "\x1b[0m" else ""

/-- A text between the codes of a colour, if there are colours. -/
def coloured (colours : Bool) (number text : String) : String :=
  lit colours number ++ text ++ unlit colours

theorem replaceFrom_of_notMem {c : Char} {old new : Text} (hc : c ∉ t) :
    Text.replaceFrom (c :: old) new 0 t = t := by
  induction t with
  | nil => rfl
  | cons d t ih =>
    obtain ⟨hd, ht⟩ := not_or.mp (mt List.mem_cons.mpr hc)
    have hprefix : (c :: old).isPrefixOf (d :: t) = false := by simp [List.isPrefixOf, hd]
    rw [Text.replaceFrom, hprefix, if_neg Bool.false_ne_true, ih ht]

/-- A text without codes is between those of its style. -/
theorem paint_eq_coloured (style : Style) (number : String) {text : String}
    (h : '\x1b' ∉ text.toList) (hnumber : toString style.code = number) :
    style.paint colours text = coloured colours number text := by
  subst hnumber
  cases colours
  · simp [Style.paint, coloured, lit, unlit]
  · have hsame : Text.replaceAll Style.reset.toList (Style.reset ++ Style.start style.code).toList
        text.toList = text.toList := replaceFrom_of_notMem h
    simp only [Style.paint, if_true, hsame, String.ofList_toList]
    rfl

/-- A number with a text behind it has no codes unless the text has. -/
theorem escape_notMem (n : Nat) (hback : '\x1b' ∉ back.toList) :
    '\x1b' ∉ (toString n ++ back).toList := by
  rw [String.toList_append, Nat.toString_eq_repr, Nat.toList_repr, List.mem_append]
  rintro (hmem | hmem)
  · have hdigit := Nat.isDigit_of_mem_toDigits (by decide) (by decide) hmem
    simp at hdigit
  · exact hback hmem

/-! ## The front of a line -/

theorem dropPrefix?_append (front rest : Text) : (front ++ rest).dropPrefix? front = some rest :=
  List.dropPrefix?_append_of_beq rest (beq_self_eq_true front)

/-- What stands in a line behind the text at its front. -/
def behind? (front line : String) : Option Text := line.toList.dropPrefix? front.toList

theorem behind?_append (t : String) : behind? front (front ++ t) = some t.toList := by
  rw [behind?, String.toList_append, dropPrefix?_append]

/-- Neither text goes on from the other. -/
def Diverge (front other : String) : Prop :=
  ¬ front.toList <+: other.toList ∧ ¬ other.toList <+: front.toList

instance (front other : String) : Decidable (Diverge front other) :=
  inferInstanceAs (Decidable (_ ∧ _))

/-- A line with another front is not taken for one with this front. -/
theorem behind?_of_diverge {other : String} (h : Diverge front other) (t : String) :
    behind? front (other ++ t) = none := by
  cases hbehind : behind? front (other ++ t) with
  | none => rfl
  | some u =>
    obtain ⟨p, hp, hfront⟩ := List.dropPrefix?_eq_some_iff.mp hbehind
    obtain rfl : p = front.toList := by simpa using hfront
    rw [String.toList_append] at hp
    have hline : front.toList <+: other.toList ++ t.toList := ⟨u, hp.symm⟩
    rcases List.prefix_or_prefix_of_prefix hline (List.prefix_append _ _) with hle | hle
    · exact absurd hle h.1
    · exact absurd hle h.2

/-- What stands in a line between a text at its front and another at its end. -/
def between? (front back line : String) : Option String := do
  let t ← behind? front line
  (t.dropSuffix? back.toList).map String.ofList

theorem between?_append (t : String) : between? front back (front ++ (t ++ back)) = some t := by
  have hback : (t ++ back).toList.dropSuffix? back.toList = some t.toList := by
    rw [List.dropSuffix?_eq_some_iff]
    exact ⟨back.toList, String.toList_append, beq_self_eq_true _⟩
  simp only [between?, behind?_append, bind, Option.bind, hback, Option.map_some,
    String.ofList_toList]

/-- A line with another end is not taken for one with this end. -/
theorem between?_of_not_suffix {other : String} (hback : ¬ back.toList <:+ other.toList)
    (hother : ¬ other.toList <:+ back.toList) (t : String) :
    between? front back (front ++ (t ++ other)) = none := by
  cases hcut : (t ++ other).toList.dropSuffix? back.toList with
  | none => simp only [between?, behind?_append, bind, Option.bind, hcut, Option.map_none]
  | some p =>
    obtain ⟨s, hs, hmark⟩ := List.dropSuffix?_eq_some_iff.mp hcut
    obtain rfl : s = back.toList := by simpa using hmark
    rw [String.toList_append] at hs
    have hline : back.toList <:+ t.toList ++ other.toList := ⟨p, hs.symm⟩
    rcases List.suffix_or_suffix_of_suffix hline (List.suffix_append _ _) with hle | hle
    · exact absurd hle hback
    · exact absurd hle hother

/-! ## Marks within a line -/

/-- A text that does not begin again within itself. -/
def Borderless (mark : Text) : Prop := ∀ k < mark.length, 0 < k → ¬ mark.drop k <+: mark

instance (mark : Text) : Decidable (Borderless mark) :=
  inferInstanceAs (Decidable (∀ k < mark.length, 0 < k → ¬ mark.drop k <+: mark))

/-- A line with a mark in it is cut at one. -/
theorem exists_dropInfix? (p mark s : Text) :
    ∃ q r, (p ++ mark ++ s).dropInfix? mark = some (q, r) ∧ q ++ mark ++ r = p ++ mark ++ s := by
  classical
  have hcut : ∃ k q r, p ++ mark ++ s = q ++ mark ++ r ∧ q.length = k := ⟨_, p, s, rfl, rfl⟩
  -- It is cut at the first one.
  obtain ⟨q, r, hqr, hlength⟩ := Nat.find_spec hcut
  refine ⟨q, r, List.dropInfix?_eq_some_iff.mpr ⟨⟨mark, hqr, beq_self_eq_true _⟩, ?_⟩, hqr.symm⟩
  intro q' mark' r' hqr' hmark
  obtain rfl : mark' = mark := by simpa using hmark
  rw [hlength]
  exact Nat.find_min' hcut ⟨q', r', hqr', rfl⟩

/-- It is cut at this one if there is none in front. -/
theorem dropInfix?_append {p mark : Text} (hmark : Borderless mark) (hp : ¬ mark <:+: p)
    (s : Text) : (p ++ mark ++ s).dropInfix? mark = some (p, s) := by
  refine List.dropInfix?_eq_some_iff.mpr ⟨⟨mark, rfl, beq_self_eq_true _⟩, ?_⟩
  intro q mark' r hqr hmark'
  obtain rfl : mark' = mark := by simpa using hmark'
  refine Nat.le_of_not_lt fun hlt => ?_
  obtain ⟨u, rfl⟩ : q <+: p := by
    have hq : q <+: p ++ mark' ++ s := ⟨mark' ++ r, by rw [← List.append_assoc, hqr]⟩
    have hp : p <+: p ++ mark' ++ s := ⟨mark' ++ s, by rw [List.append_assoc]⟩
    exact List.prefix_of_prefix_length_le hq hp (Nat.le_of_lt hlt)
  have hrest : u ++ (mark' ++ s) = mark' ++ r := by simpa using hqr
  have hu : u <+: u ++ (mark' ++ s) := List.prefix_append _ _
  rcases List.prefix_or_prefix_of_prefix hu ⟨r, hrest.symm⟩ with hle | hle
  · -- Both marks overlap.
    obtain ⟨v, rfl⟩ := hle
    have hv : v <+: u ++ v := by
      have hv : v <+: u ++ v ++ s := ⟨r, by simpa using hrest.symm⟩
      exact List.prefix_of_prefix_length_le hv (List.prefix_append _ _) (by simp)
    have hlength : 0 < u.length := by simpa using hlt
    by_cases hnil : v = []
    · subst hnil
      exact hp ⟨q, [], by simp⟩
    · refine hmark u.length ?_ hlength (by simpa using hv)
      simpa using List.length_pos_iff.mpr hnil
  · obtain ⟨v, rfl⟩ := hle
    exact hp ⟨q, v, by simp⟩

/-! ## Numbers -/

/-- The number at the front of a text, and what is left. -/
def number? (t : Text) : Option (Nat × Text) :=
  let digits := t.takeWhile Char.isDigit
  if digits = [] then none
  else some (Nat.ofDigitChars 10 digits 0, t.dropWhile Char.isDigit)

theorem number?_toDigits (hrest : ∀ c ∈ rest.head?, c.isDigit = false) :
    number? (Nat.toDigits 10 n ++ rest) = some (n, rest) := by
  have hdigits : ∀ c ∈ Nat.toDigits 10 n, c.isDigit = true := by
    intro c hc
    exact Nat.isDigit_of_mem_toDigits (by decide) (by decide) hc
  have hend : rest.takeWhile Char.isDigit = [] ∧ rest.dropWhile Char.isDigit = rest := by
    cases rest with
    | nil => exact ⟨rfl, rfl⟩
    | cons c t =>
      have hc : c.isDigit = false := hrest c rfl
      simp [hc]
  have htake : (Nat.toDigits 10 n ++ rest).takeWhile Char.isDigit = Nat.toDigits 10 n := by
    rw [List.takeWhile_append_of_pos hdigits, hend.1, List.append_nil]
  have hdrop : (Nat.toDigits 10 n ++ rest).dropWhile Char.isDigit = rest := by
    rw [List.dropWhile_append_of_pos hdigits, hend.2]
  rw [number?, htake, hdrop, if_neg Nat.toDigits_ne_nil, Nat.ofDigitChars_ten_toDigits]

theorem number?_toDigits_nil (n : Nat) : number? (Nat.toDigits 10 n) = some (n, []) := by
  have h : number? (Nat.toDigits 10 n ++ []) = some (n, []) := number?_toDigits (by simp)
  rwa [List.append_nil] at h

/-- The number at the front of a text with its sign, and what is left. -/
def signed? : Text → Option (Int × Text)
  | '+' :: t => (number? t).map fun read => (read.1, read.2)
  | '-' :: t => (number? t).map fun read => (-read.1, read.2)
  | _ => none

theorem signed?_formatSigned (n : Int) (hrest : ∀ c ∈ rest.head?, c.isDigit = false) :
    signed? ((formatSigned n).toList ++ rest) = some (n, rest) := by
  have hnumber : number? (Nat.toDigits 10 n.natAbs ++ rest) = some (n.natAbs, rest) :=
    number?_toDigits hrest
  by_cases hneg : n < 0
  · have hsigned : (formatSigned n).toList = '-' :: Nat.toDigits 10 n.natAbs := by
      simp [formatSigned, hneg]
    rw [hsigned, List.cons_append, signed?, hnumber, Option.map_some]
    have habs : -(n.natAbs : Int) = n := by omega
    rw [habs]
  · have hsigned : (formatSigned n).toList = '+' :: Nat.toDigits 10 n.natAbs := by
      simp [formatSigned, hneg]
    rw [hsigned, List.cons_append, signed?, hnumber, Option.map_some]
    have habs : (n.natAbs : Int) = n := by omega
    rw [habs]

/-- The number between two texts, where these three are the whole line. -/
def numberBetween? (front back line : String) : Option Nat := do
  let (n, rest) ← number? (← behind? front line)
  if rest = back.toList then some n else none

theorem numberBetween?_append (hback : ∀ c ∈ back.toList.head?, c.isDigit = false) :
    numberBetween? front back (front ++ (toString n ++ back)) = some n := by
  have hnumber : number? (toString n ++ back).toList = some (n, back.toList) := by
    simpa using number?_toDigits hback
  simp only [numberBetween?, behind?_append, bind, Option.bind, hnumber, if_true]

theorem numberBetween?_append_nil : numberBetween? front "" (front ++ toString n) = some n := by
  have h : numberBetween? front "" (front ++ (toString n ++ "")) = some n :=
    numberBetween?_append (by simp)
  rwa [String.append_empty] at h

theorem numberBetween?_of_ne {other : String} (hother : ∀ c ∈ other.toList.head?, c.isDigit = false)
    (hne : other ≠ back) : numberBetween? front back (front ++ (toString n ++ other)) = none := by
  have hnumber : number? (toString n ++ other).toList = some (n, other.toList) := by
    simpa using number?_toDigits hother
  simp only [numberBetween?, behind?_append, bind, Option.bind, hnumber]
  exact if_neg fun h => hne (String.toList_inj.mp h)

theorem numberBetween?_of_behind? (h : behind? front line = none) :
    numberBetween? front back line = none := by
  rw [numberBetween?, h]
  rfl

/-- The number with its sign between two texts, where these three are the whole line. -/
def signedBetween? (front back line : String) : Option Int := do
  let (n, rest) ← signed? (← behind? front line)
  if rest = back.toList then some n else none

theorem signedBetween?_append (n : Int) (hback : ∀ c ∈ back.toList.head?, c.isDigit = false) :
    signedBetween? front back (front ++ (formatSigned n ++ back)) = some n := by
  have hsigned : signed? (formatSigned n ++ back).toList = some (n, back.toList) := by
    rw [String.toList_append]
    exact signed?_formatSigned n hback
  simp only [signedBetween?, behind?_append, bind, Option.bind, hsigned, if_true]

/-! ## Lines one after the other -/

/-- Reads the first line, if it can be read. -/
def takeIf (read : γ → Option α) : List γ → Option α × List γ
  | [] => (none, [])
  | line :: lines =>
    match read line with
    | some a => (some a, lines)
    | none => (none, line :: lines)

/-- Reads the first lines, as far as they can be read. -/
def takeAll (read : γ → Option α) : List γ → List α × List γ
  | [] => ([], [])
  | line :: lines =>
    match read line with
    | some a => (a :: (takeAll read lines).1, (takeAll read lines).2)
    | none => ([], line :: lines)

variable {read : γ → Option α} {lines : List γ}

theorem takeIf_print {print : α → γ} (o : Option α) (hread : ∀ a ∈ o, read (print a) = some a)
    (hlines : ∀ line ∈ lines.head?, read line = none) :
    takeIf read ((o.map print).toList ++ lines) = (o, lines) := by
  cases o with
  | some a => simp [takeIf, hread a rfl]
  | none =>
    cases lines with
    | nil => rfl
    | cons line lines => simp [takeIf, hlines line (by simp)]

theorem takeAll_print {print : β → γ} {value : β → α} (bs : List β)
    (hread : ∀ b ∈ bs, read (print b) = some (value b))
    (hlines : ∀ line ∈ lines.head?, read line = none) :
    takeAll read (bs.map print ++ lines) = (bs.map value, lines) := by
  induction bs with
  | nil =>
    cases lines with
    | nil => rfl
    | cons line lines => simp [takeAll, hlines line (by simp)]
  | cons b bs ih =>
    have hrest := ih fun b' hb' => hread b' (List.mem_cons_of_mem b hb')
    simp [takeAll, hread b List.mem_cons_self, hrest]

end BytecodeParity.Report
