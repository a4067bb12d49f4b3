import BytecodeParity.Proofs.Report.Printed
import Mathlib.Data.List.Forall2
/-!
# What the lines on a comparison tell

Of codes that differ only the first differences are shown. A `Digest` is what somebody takes from
the lines who is told nothing else: it is read from the lines alone, one after the other, and only
if none is left over (`Digest.read?`). **The lines on codes that differ can be read, and what is
read accounts for all differences**: those shown are the first ones in their order, each with its
position and both bytes, and together with those only counted they make up the number in the
verdict (`lines_account`).

No difference can spoil that, whatever its bytes are. Behind its indentation a line with a
difference goes on with its position, the line that counts the others with a full stop, and the
lines around them are not indented. All that a byte can hide is where it ends itself, by looking
like what stands between both bytes (`Difference.ReadAs`).
-/

namespace BytecodeParity

open Report

/-! ## Differences -/

namespace Difference

/-- What stands between the two bytes of a difference. -/
def arrow : Text := " -> 0x".toList

/-- The difference that a line shows: behind blanks the position, and then the two bytes. -/
def shown? (line : String) : Option Difference := do
  let t ← behind? "  " line
  let (position, t) ← number? (t.dropWhile (· == ' '))
  let bytes ← t.dropPrefix? ": 0x".toList
  let (deployed, reference) ← bytes.dropInfix? arrow
  some ⟨position, deployed, reference⟩

/-- What a difference is read as. -/
structure ReadAs (d read : Difference) : Prop where
  position_eq : read.position = d.position
  bytes_eq : read.deployed ++ arrow ++ read.reference = d.deployed ++ arrow ++ d.reference
  /-- It is told which byte is which, unless the first one goes on like the text behind it. -/
  eq : ¬ arrow <:+: d.deployed → read = d

/-- The difference with the bytes told apart at the first arrow. -/
def asRead (d : Difference) : Difference :=
  match (d.deployed ++ arrow ++ d.reference).dropInfix? arrow with
  | some (deployed, reference) => ⟨d.position, deployed, reference⟩
  | none => d

theorem readAs_asRead (d : Difference) : d.ReadAs d.asRead := by
  obtain ⟨x, y, hcut, hxy⟩ := exists_dropInfix? d.deployed arrow d.reference
  rw [asRead, hcut]
  refine ⟨rfl, hxy, fun hfree => ?_⟩
  rw [dropInfix?_append (by decide) hfree] at hcut
  obtain ⟨⟩ := hcut
  rfl

/-- Behind the blanks that set it to the right, a position is in its digits. -/
theorem dropWhile_alignRight (width n : Nat) (rest : Text) :
    ((alignRight width n).toList ++ rest).dropWhile (· == ' ') = Nat.toDigits 10 n ++ rest := by
  obtain ⟨digit, digits, hdigits⟩ :=
    List.exists_cons_of_ne_nil (Nat.toDigits_ne_nil (b := 10) (n := n))
  have hmem : digit ∈ Nat.toDigits 10 n := by simp [hdigits]
  have hdigit : digit.isDigit = true := Nat.isDigit_of_mem_toDigits (by decide) (by decide) hmem
  have hne : digit ≠ ' ' := by
    rintro rfl
    simp at hdigit
  have hblanks : ∀ c ∈ List.replicate (width - (Nat.toDigits 10 n).length) ' ',
      (c == ' ') = true := by
    intro c hc
    simp [List.eq_of_mem_replicate hc]
  simp only [alignRight, String.toList_ofList, List.append_assoc]
  rw [List.dropWhile_append_of_pos hblanks, hdigits]
  simp [hne]

/-- **A difference is read from its line.** -/
theorem shown?_format (d : Difference) : shown? ("  " ++ d.format) = some d.asRead := by
  have htext : d.format.toList = (alignRight 6 d.position).toList ++
      (": 0x".toList ++ (d.deployed ++ arrow ++ d.reference)) := by
    unfold format arrow
    simp only [String.toList_append, String.toList_ofList, List.append_assoc]
  have hnumber : number? (d.format.toList.dropWhile (· == ' ')) =
      some (d.position, ": 0x".toList ++ (d.deployed ++ arrow ++ d.reference)) := by
    rw [htext, dropWhile_alignRight]
    exact number?_toDigits (by simp)
  obtain ⟨x, y, hcut, -⟩ := exists_dropInfix? d.deployed arrow d.reference
  simp only [shown?, behind?_append, hnumber, dropPrefix?_append, hcut, asRead, bind, Option.bind]

end Difference

namespace Comparison

/-- What the lines on codes that differ tell. -/
structure Digest where
  /-- The number of differences. -/
  count : Nat
  sizeDelta : Option Int
  shown : List Difference
  /-- The number of differences that are not shown. -/
  further : Option Nat
  note : Option String
  deriving DecidableEq

namespace Digest

variable {n : Nat} {name : String} {colours : Bool}

/-! ## Reading a line -/

/-- The number of differences that a verdict tells. -/
def count? (colours : Bool) (line : String) : Option Nat :=
  numberBetween? (coloured colours "31" "[FAIL]" ++ " ") " byte(s) differ" line

/-- The change in size that a line tells. -/
def sizeDelta? (line : String) : Option Int :=
  signedBetween? "Size delta after normalization: " " byte(s)" line

/-- The number of differences that a line only counts. -/
def further? (line : String) : Option Nat := numberBetween? "  ... and " " more" line

/-- The difference that a line calls expected. -/
def note? (colours : Bool) (line : String) : Option String :=
  (behind? (coloured colours "36" "[NOTE]" ++ " Expected difference: ") line).map String.ofList

/-! ## Reading all lines -/

/-- The line over the differences. -/
def heading : String := "First differences (position: deployed -> reference):"

/-- Reads the lines behind the verdict. -/
def readBody? (colours : Bool) (count : Nat) (lines : List String) : Option Digest :=
  let (sizeDelta, lines) := takeIf sizeDelta? lines
  match lines with
  | [] => none
  | line :: lines =>
    let (shown, lines) := takeAll Difference.shown? lines
    let (further, lines) := takeIf further? lines
    let (note, lines) := takeIf (note? colours) lines
    if line = heading ∧ lines = [] then some ⟨count, sizeDelta, shown, further, note⟩ else none

/-- Reads the lines on codes that differ, up to the last one. -/
def read? (colours : Bool) : List String → Option Digest
  | [] => none
  | verdict :: lines => do readBody? colours (← count? colours verdict) lines

/-- A digest accounts for all differences of a comparison. -/
structure Accounts (d : Digest) (c : Comparison) (name : String) : Prop where
  count_eq : d.count = c.differences.length
  sizeDelta_eq : d.sizeDelta = if c.sizeDelta = 0 then none else some c.sizeDelta
  /-- The first differences in their order, each once. -/
  shown : List.Forall₂ Difference.ReadAs (c.differences.take 5) d.shown
  length_shown : d.shown.length = min d.count 5
  isSome_further_iff : d.further.isSome ↔ 5 < d.count
  /-- Those shown and those only counted are all there are. -/
  total : d.shown.length + d.further.getD 0 = d.count
  note_eq : d.note = expectedDifference? name

/-! ## The lines of a comparison -/

variable {c : Comparison}

theorem count?_verdictLine :
    count? colours (c.verdictLine colours) = some c.differences.length := by
  rw [count?, verdictLine, paint_eq_coloured .red "31" (by decide) rfl, String.append_assoc]
  exact numberBetween?_append (by simp)

/-- How a change in size is told. -/
def sizeLine (delta : Int) : String :=
  "Size delta after normalization: " ++ formatSigned delta ++ " byte(s)"

theorem sizeDelta?_sizeLine (delta : Int) : sizeDelta? (sizeLine delta) = some delta := by
  unfold sizeDelta? sizeLine
  rw [String.append_assoc]
  exact signedBetween?_append delta (by simp)

theorem sizeLines_eq :
    c.sizeLines = ((if c.sizeDelta = 0 then none else some c.sizeDelta).map sizeLine).toList := by
  unfold sizeLines
  split <;> rfl

/-- How differences that are not shown are counted. -/
def furtherLine (n : Nat) : String := "  ... and " ++ toString n ++ " more"

theorem further?_furtherLine : further? (furtherLine n) = some n := by
  rw [further?, furtherLine, String.append_assoc]
  exact numberBetween?_append (by simp)

theorem shown?_furtherLine : Difference.shown? (furtherLine n) = none := by
  have hline : furtherLine n = "  " ++ ("... and " ++ toString n ++ " more") := by
    simp [furtherLine, ← String.toList_inj]
  rw [hline, Difference.shown?, behind?_append]
  simp [number?]

theorem remainderLines_eq :
    c.remainderLines =
      ((if 5 < c.differences.length then some (c.differences.length - 5) else none).map
        furtherLine).toList := by
  unfold remainderLines shownDifferences
  split_ifs <;> first | rfl | omega

/-- How an expected difference is told. -/
def noteLine (colours : Bool) (note : String) : String :=
  coloured colours "36" "[NOTE]" ++ " Expected difference: " ++ note

theorem note?_noteLine (note : String) : note? colours (noteLine colours note) = some note := by
  rw [note?, noteLine, behind?_append]
  simp

theorem noteLines_eq :
    noteLines colours name = ((expectedDifference? name).map (noteLine colours)).toList := by
  have hpaint : Style.cyan.paint colours "[NOTE]" = coloured colours "36" "[NOTE]" :=
    paint_eq_coloured .cyan "36" (by decide) rfl
  unfold noteLines noteLine
  rw [hpaint]
  split <;> simp_all

/-- A note is not indented, with colours or without. -/
theorem diverge_note (colours : Bool) :
    Diverge "  " (coloured colours "36" "[NOTE]") ∧
      Diverge "  ... and " (coloured colours "36" "[NOTE]") := by
  cases colours <;> decide

/-! ## The digest of a comparison -/

/-- What there is to tell about a comparison. -/
def ofComparison (c : Comparison) (name : String) : Digest where
  count := c.differences.length
  sizeDelta := if c.sizeDelta = 0 then none else some c.sizeDelta
  shown := (c.differences.take shownDifferences).map Difference.asRead
  further := if shownDifferences < c.differences.length then
    some (c.differences.length - shownDifferences) else none
  note := expectedDifference? name

theorem accounts_ofComparison : (ofComparison c name).Accounts c name where
  count_eq := rfl
  sizeDelta_eq := rfl
  shown := by
    rw [ofComparison, List.forall₂_map_right_iff, shownDifferences, List.forall₂_same]
    exact fun d _ => d.readAs_asRead
  length_shown := by simp [ofComparison, shownDifferences, Nat.min_comm]
  isSome_further_iff := by
    simp only [ofComparison, shownDifferences]
    split_ifs with hmore <;> simp [hmore]
  total := by
    by_cases hmore : shownDifferences < c.differences.length
    · simp [ofComparison, hmore]
      omega
    · simp [ofComparison, hmore]
      omega
  note_eq := rfl

theorem sizeDelta?_heading : sizeDelta? heading = none := by decide

theorem shown?_noteLine (note : String) : Difference.shown? (noteLine colours note) = none := by
  rw [noteLine, String.append_assoc, Difference.shown?, behind?_of_diverge (diverge_note colours).1]
  rfl

theorem further?_noteLine (note : String) : further? (noteLine colours note) = none := by
  rw [noteLine, String.append_assoc, further?]
  exact numberBetween?_of_behind? (behind?_of_diverge (diverge_note colours).2 _)

theorem readBody?_lines :
    readBody? colours c.differences.length
      (c.sizeLines ++ (heading :: (c.differenceLines ++ (c.remainderLines ++
        noteLines colours name)))) = some (ofComparison c name) := by
  have hsize : takeIf sizeDelta? (c.sizeLines ++ (heading :: (c.differenceLines ++
      (c.remainderLines ++ noteLines colours name)))) = ((ofComparison c name).sizeDelta,
        heading :: (c.differenceLines ++ (c.remainderLines ++ noteLines colours name))) := by
    rw [sizeLines_eq]
    apply takeIf_print
    · intro delta _
      exact sizeDelta?_sizeLine delta
    · simp [sizeDelta?_heading]
  have hshown : takeAll Difference.shown? (c.differenceLines ++ (c.remainderLines ++
      noteLines colours name)) = ((ofComparison c name).shown,
        c.remainderLines ++ noteLines colours name) := by
    apply takeAll_print
    · intro d _
      exact d.shown?_format
    · rw [remainderLines_eq, noteLines_eq]
      split_ifs
      · simp [shown?_furtherLine]
      · cases expectedDifference? name <;> simp [shown?_noteLine]
  have hfurther : takeIf further? (c.remainderLines ++ noteLines colours name) =
      ((ofComparison c name).further, noteLines colours name) := by
    rw [remainderLines_eq]
    apply takeIf_print
    · intro n _
      exact further?_furtherLine
    · rw [noteLines_eq]
      cases expectedDifference? name <;> simp [further?_noteLine]
  have hnote : takeIf (note? colours) (noteLines colours name) =
      ((ofComparison c name).note, []) := by
    have h : takeIf (note? colours) (((expectedDifference? name).map (noteLine colours)).toList ++
        []) = (expectedDifference? name, []) :=
      takeIf_print _ (fun note _ => note?_noteLine note) (by simp)
    rwa [List.append_nil, ← noteLines_eq] at h
  simp only [readBody?, hsize, hshown, hfurther, hnote]
  rfl

theorem read?_lines (colours : Bool) (name : String) (hdiffer : c.identical = false) :
    read? colours (c.lines colours name) = some (ofComparison c name) := by
  have hlines : c.lines colours name = c.verdictLine colours :: (c.sizeLines ++
      (heading :: (c.differenceLines ++ (c.remainderLines ++ noteLines colours name)))) := by
    simp [lines, hdiffer, heading]
  rw [hlines, read?, count?_verdictLine]
  exact readBody?_lines

end Digest

/-! ## Verdicts -/

/-- What the lines on a comparison tell. -/
inductive Verdict where
  | identical
  | differing (digest : Digest)
  deriving DecidableEq

namespace Verdict

variable {c : Comparison}

/-- Reads the lines on a comparison. A line that stands alone can only say that no byte differs. -/
def read? (colours : Bool) : List String → Option Verdict
  | [line] => (behind? (coloured colours "32" "[PASS]" ++ " IDENTICAL") line).map fun _ => identical
  | lines => (Digest.read? colours lines).map differing

/-- A verdict accounts for a comparison. -/
inductive Accounts (c : Comparison) (name : String) : Verdict → Prop
  | identical (h : c.identical = true) : Accounts c name .identical
  | differing {d : Digest} (h : c.identical = false) (hd : d.Accounts c name) :
    Accounts c name (.differing d)

/-- Codes that do not differ take one line, which is read as such. -/
theorem read?_of_identical (colours : Bool) (name : String) (h : c.identical = true) :
    ∃ line, c.lines colours name = [line] ∧ read? colours [line] = some .identical := by
  refine ⟨_, if_pos h, ?_⟩
  have hline : Style.green.paint colours "[PASS]" ++ " IDENTICAL - Logic bytecode matches" =
      coloured colours "32" "[PASS]" ++ " IDENTICAL" ++ " - Logic bytecode matches" := by
    rw [paint_eq_coloured .green "32" (by decide) rfl, String.append_assoc]
    rfl
  rw [read?, hline, behind?_append]
  rfl

/-- **The lines on a comparison can be read**, and what is read accounts for it. -/
theorem exists_read?_lines (colours : Bool) (name : String) (c : Comparison) :
    ∃ v, read? colours (c.lines colours name) = some v ∧ Accounts c name v := by
  cases h : c.identical with
  | true =>
    obtain ⟨line, hline, hread⟩ := read?_of_identical colours name h
    exact ⟨.identical, hline ▸ hread, .identical h⟩
  | false =>
    have hread := Digest.read?_lines colours name h
    refine ⟨_, ?_, .differing h Digest.accounts_ofComparison⟩
    -- A digest is read from two lines at least.
    rw [read?, hread]
    · rfl
    · intro line hline
      rw [hline, Digest.read?] at hread
      cases hcount : Digest.count? colours line with
      | none => simp [hcount] at hread
      | some n => simp [hcount, Digest.readBody?, takeIf] at hread

end Verdict

/-- The lines on codes that do not differ are one line that says so. Those on codes that differ can
be read up to the last one, and account for all differences. -/
theorem lines_account (colours : Bool) (name : String) (c : Comparison) :
    (c.identical = true → ∃ line, c.lines colours name = [line] ∧
      Verdict.read? colours [line] = some .identical) ∧
      (c.identical = false →
        ∃ d, Digest.read? colours (c.lines colours name) = some d ∧ d.Accounts c name) :=
  ⟨Verdict.read?_of_identical colours name, fun hdiffer =>
    ⟨_, Digest.read?_lines colours name hdiffer, Digest.accounts_ofComparison⟩⟩

end Comparison

end BytecodeParity
