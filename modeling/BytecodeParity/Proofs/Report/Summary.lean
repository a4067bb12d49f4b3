import BytecodeParity.Proofs.Report.Printed
import BytecodeParity.Proofs.Run
import Mathlib.Data.List.DropRight
/-!
# What the summary of a run tells

The summary is a table. Its cells are read back from its lines by cutting these at their bars
(`Table.filterMap_cells?`), as long as no cell has a bar, a line break or blanks at its ends. From
the cells of a row it is read what became of a contract, and from the last row how often each thing
happened (`summary?`). **The rows tell of each contract what its report says, and the last row
counts those above it** (`exists_summary?_summaryLines`).
-/

namespace BytecodeParity

/-! ## Cells of a table -/

namespace Table

/-- A cell without the blanks around it. -/
def unpadded (t : Text) : Text := (t.dropWhile (· == ' ')).rdropWhile (· == ' ')

/-- The cells between the bars of a line. A rule has no bars. -/
def cells? (line : String) : Option (List String) :=
  match line.toList with
  | '|' :: t => some ((t.splitOn '|').dropLast.map fun cell => String.ofList (unpadded cell))
  | _ => none

/-- A text without breaks and bars. -/
def Clean (t : Text) : Prop := ∀ c ∈ t, c ≠ '\n' ∧ c ≠ '|'

/-- A cell that keeps its form in a table. -/
structure Plain (cell : String) : Prop where
  clean : Clean cell.toList
  head?_ne : cell.toList.head? ≠ some ' '
  getLast?_ne : cell.toList.getLast? ≠ some ' '

instance (t : Text) : Decidable (Clean t) :=
  inferInstanceAs (Decidable (∀ c ∈ t, c ≠ '\n' ∧ c ≠ '|'))

instance (cell : String) : Decidable (Plain cell) :=
  decidable_of_iff (Clean cell.toList ∧ cell.toList.head? ≠ some ' ' ∧
    cell.toList.getLast? ≠ some ' ') ⟨fun h => ⟨h.1, h.2.1, h.2.2⟩, fun h => ⟨h.1, h.2, h.3⟩⟩

variable {cell : String} {row : List String} {rows : List (List String)} {widths : List Nat}
  {t : Text}

theorem unpadded_blanks (hhead : t.head? ≠ some ' ') (hlast : t.getLast? ≠ some ' ') (k : Nat) :
    unpadded (' ' :: (t ++ List.replicate k ' ' ++ [' '])) = t := by
  have hblanks : ∀ c ∈ List.replicate (k + 1) ' ', (c == ' ') = true := by
    intro c hc
    simp [List.eq_of_mem_replicate hc]
  have hfront : (' ' :: (t ++ List.replicate k ' ' ++ [' '])).dropWhile (· == ' ') =
      (t ++ List.replicate (k + 1) ' ').dropWhile (· == ' ') := by
    rw [List.dropWhile_cons_of_pos rfl, List.append_assoc, ← List.replicate_succ']
  rw [unpadded, hfront]
  cases t with
  | nil => rw [List.nil_append, List.dropWhile_eq_nil_iff.mpr hblanks, List.rdropWhile_nil]
  | cons c u =>
    have hc : c ≠ ' ' := fun hc => hhead (by simp [hc])
    rw [List.cons_append, List.dropWhile_cons_of_neg (by simpa using hc), ← List.cons_append,
      List.rdropWhile, List.reverse_append, List.reverse_replicate,
      List.dropWhile_append_of_pos hblanks]
    refine List.rdropWhile_eq_self_iff.mpr fun hne hblank => hlast ?_
    rw [List.getLast?_eq_some_getLast hne]
    simpa using hblank

theorem cellLines_of_clean (h : Clean cell.toList) :
    (cellLines cell).length ≤ 1 ∧ ((cellLines cell)[0]?).getD [] = cell.toList := by
  have hsplit : cell.toList.splitOn '\n' = [cell.toList] :=
    List.splitOn_eq_singleton fun hmem => (h _ hmem).1 rfl
  have hlines : cellLines cell = [cell.toList].filter fun l => !l.isEmpty := by
    rw [cellLines, Text.lines, hsplit]
    rfl
  rw [hlines]
  cases cell.toList <;> simp

/-- Between bars that end them there are the pieces. -/
theorem splitOn_flatten {pieces : List Text} (h : ∀ piece ∈ pieces, '|' ∉ piece) :
    (pieces.map (· ++ ['|'])).flatten.splitOn '|' = pieces ++ [[]] := by
  induction pieces with
  | nil => rfl
  | cons piece pieces ih =>
    obtain ⟨hpiece, hpieces⟩ := List.forall_mem_cons.mp h
    rw [List.map_cons, List.flatten_cons, List.append_assoc, List.singleton_append,
      List.splitOn_append_cons_self, List.splitOn_eq_singleton hpiece, ih hpieces]
    rfl

theorem foldl_max_eq {ns : List Nat} (h : ∀ n ∈ ns, n ≤ 1) : ns.foldl max 1 = 1 := by
  induction ns with
  | nil => rfl
  | cons n ns ih =>
    obtain ⟨hn, hns⟩ := List.forall_mem_cons.mp h
    rw [List.foldl_cons, Nat.max_eq_left hn, ih hns]

/-- The cells of a row stand between bars, each with blanks around it. -/
theorem exists_pieces (hrow : ∀ cell ∈ row, Plain cell) (hwidths : row.length ≤ widths.length) :
    ∃ pieces : List Text,
      (String.join ((widths.zip (row.map cellLines)).map fun e =>
        padded e.1 ((e.2[0]?).getD []))).toList = (pieces.map (· ++ ['|'])).flatten ∧
      (∀ piece ∈ pieces, '|' ∉ piece) ∧
      pieces.map (fun piece => String.ofList (unpadded piece)) = row := by
  induction row generalizing widths with
  | nil => exact ⟨[], by simp, by simp, rfl⟩
  | cons cell row ih =>
    obtain ⟨hcell, hcells⟩ := List.forall_mem_cons.mp hrow
    obtain ⟨width, widths, rfl⟩ : ∃ w ws, widths = w :: ws := by
      cases widths with
      | nil => simp at hwidths
      | cons w ws => exact ⟨w, ws, rfl⟩
    obtain ⟨pieces, hjoin, hbars, hread⟩ := ih hcells (Nat.le_of_succ_le_succ hwidths)
    let blanks := List.replicate (width - lineWidth cell.toList) ' '
    refine ⟨(' ' :: (cell.toList ++ blanks ++ [' '])) :: pieces, ?_, ?_, ?_⟩
    · -- The first cell has its blanks, and the others stand as they would alone.
      rw [List.map_cons, List.zip_cons_cons, List.map_cons, String.join_cons, String.toList_append,
        hjoin, (cellLines_of_clean hcell.clean).2]
      simp [padded, blanks]
    · refine List.forall_mem_cons.mpr ⟨fun hmem => ?_, hbars⟩
      have hbar : '|' ∈ cell.toList := by simpa [blanks] using hmem
      exact (hcell.clean _ hbar).2 rfl
    · rw [List.map_cons, hread, unpadded_blanks hcell.head?_ne hcell.getLast?_ne,
        String.ofList_toList]

/-- **A row is one line, from which its cells are read.** -/
theorem exists_rowLines (hrow : ∀ cell ∈ row, Plain cell) (hwidths : row.length ≤ widths.length) :
    ∃ line, rowLines widths row = [line] ∧ cells? line = some row := by
  have hheight : ((row.map cellLines).map List.length).foldl max 1 = 1 := by
    apply foldl_max_eq
    rw [List.map_map, List.forall_mem_map]
    exact fun cell hcell => (cellLines_of_clean (hrow cell hcell).clean).1
  obtain ⟨pieces, hjoin, hbars, hread⟩ := exists_pieces hrow hwidths
  refine ⟨_, by rw [rowLines, hheight]; rfl, ?_⟩
  rw [cells?, String.toList_append, hjoin]
  show some (((pieces.map (· ++ ['|'])).flatten.splitOn '|').dropLast.map _) = _
  rw [splitOn_flatten hbars, List.dropLast_concat, hread]

theorem cells?_rule (widths : List Nat) : cells? (rule widths) = none := by
  rw [cells?, rule, String.toList_append]
  rfl

theorem le_foldl_max (ns : List Nat) (m : Nat) :
    m ≤ ns.foldl max m ∧ ∀ n ∈ ns, n ≤ ns.foldl max m := by
  induction ns generalizing m with
  | nil => simp
  | cons n ns ih =>
    obtain ⟨hstart, hall⟩ := ih (max m n)
    rw [List.foldl_cons]
    refine ⟨by omega, List.forall_mem_cons.mpr ⟨by omega, hall⟩⟩

/-- **The cells of a table are read from its lines.** -/
theorem filterMap_cells? (hrows : ∀ row ∈ rows, ∀ cell ∈ row, Plain cell) :
    (Table.lines rows).filterMap cells? = rows := by
  have hwidths : ∀ row ∈ rows, row.length ≤ (columnWidths rows).length := by
    intro row hrow
    rw [columnWidths, List.length_map, List.length_range]
    exact (le_foldl_max _ 0).2 _ (List.mem_map_of_mem hrow)
  have hread : ∀ row ∈ rows, (rowLines (columnWidths rows) row ++
      [rule (columnWidths rows)]).filterMap cells? = [row] := by
    intro row hrow
    obtain ⟨line, hline, hcells⟩ := exists_rowLines (hrows row hrow) (hwidths row hrow)
    rw [hline]
    simp [hcells, cells?_rule]
  rw [Table.lines, List.filterMap_cons_none (cells?_rule _), List.filterMap_flatMap,
    List.flatMap_congr hread, List.flatMap_singleton']

end Table

/-! ## Rows of the summary -/

namespace Report

variable {colours : Bool} {r : ContractReport} {n : Nat}

/-- What became of a contract, in a few words. -/
inductive Status where
  | identical
  | differing (count : Nat) (expected : Bool)
  | notDeployed
  | noCode (side : Side)
  | failed
  deriving DecidableEq

/-- What a row of the summary tells. -/
structure Row where
  name : String
  status : Status
  /-- The change in size, if codes were compared. -/
  sizeDelta : Option Int
  deriving DecidableEq

/-- How much is told without a number, and in which colour. -/
def wordings : List (String × String × Status) :=
  [ ("32", "identical", .identical), ("2", "not deployed", .notDeployed),
    ("33", "no deployed code", .noCode .deployed), ("33", "no reference code", .noCode .reference),
    ("31", "error", .failed) ]

/-- What a cell tells to have become of a contract. -/
def status? (colours : Bool) (cell : String) : Option Status :=
  (numberBetween? (lit colours "31") (" byte(s) differ" ++ unlit colours) cell).map
      (Status.differing · false) <|>
    (numberBetween? (lit colours "33") (" byte(s) differ (expected)" ++ unlit colours) cell).map
      (Status.differing · true) <|>
    (wordings.find? fun w => coloured colours w.1 w.2.1 = cell).map fun w => w.2.2

/-- The change in size that a cell tells, or that there is none to tell. -/
def sizeDelta? (cell : String) : Option (Option Int) :=
  if cell = "-" then some none else (signedBetween? "" "" cell).map some

/-- What the cells of a row tell. -/
def row? (colours : Bool) : List String → Option Row
  | [name, status, sizeDelta] => do
    some ⟨name, ← status? colours status, ← sizeDelta? sizeDelta⟩
  | _ => none

/-- The number at the front of a text with the words behind it, and what is left. -/
def counted? (words : String) (t : Text) : Option (Nat × Text) := do
  let (n, t) ← number? t
  return (n, ← t.dropPrefix? words.toList)

/-- The counts that a cell tells. -/
def counts? (cell : String) : Option RunSummary := do
  let (identical, t) ← counted? " identical, " cell.toList
  let (differing, t) ← counted? " differing, " t
  let (skipped, t) ← counted? " skipped, " t
  let (failed, t) ← counted? " failed" t
  if t = [] then some ⟨identical, differing, skipped, failed⟩ else none

/-- Reads the summary: a row for each contract, and the counts at the end. -/
def summary? (colours : Bool) (lines : List String) : Option (List Row × RunSummary) :=
  match lines.filterMap Table.cells? with
  | ["Contract", "Status", "Size delta"] :: rows =>
    match takeAll (row? colours) rows with
    | (read, [["Total", counts, _]]) => (counts? counts).map fun s => (read, s)
    | _ => none
  | _ => none

/-- Whether codes are told to differ. -/
@[simp] def Status.tellsDifferences : Status → Bool
  | .differing _ _ => true
  | _ => false

/-- Whether a comparison is told not to have come about. -/
@[simp] def Status.tellsFailure : Status → Bool
  | .noCode _ | .failed => true
  | _ => false

/-- How often each thing became of a contract. -/
def tally (rows : List Row) : RunSummary where
  identical := rows.countP fun row => row.status = .identical
  differing := rows.countP fun row => row.status.tellsDifferences
  skipped := rows.countP fun row => row.status = .notDeployed
  failed := rows.countP fun row => row.status.tellsFailure

/-- A row tells of a contract what its report says. -/
inductive Row.Tells (r : ContractReport) : Row → Prop
  | identical {c : Comparison} (h : r.outcome = .compared c) (hsame : c.identical = true) :
    Tells r ⟨r.name, .identical, some c.sizeDelta⟩
  | differing {c : Comparison} (h : r.outcome = .compared c) (hdiffer : c.identical = false) :
    Tells r ⟨r.name, .differing c.differences.length (expectedDifference? r.name).isSome,
      some c.sizeDelta⟩
  | notDeployed (h : r.outcome = .notDeployed) : Tells r ⟨r.name, .notDeployed, none⟩
  | noCode {side : Side} (h : r.outcome = .noCode side) : Tells r ⟨r.name, .noCode side, none⟩
  | failed {message : String} (h : r.outcome = .failed message) : Tells r ⟨r.name, .failed, none⟩

/-! ## What can be read -/

theorem status?_of_wording (colours : Bool) :
    ∀ w ∈ wordings, status? colours (coloured colours w.1 w.2.1) = some w.2.2 ∧
      Table.Plain (coloured colours w.1 w.2.1) := by
  cases colours <;> decide +kernel

theorem status?_differing (colours : Bool) (n : Nat) :
    status? colours (coloured colours "31" (toString n ++ " byte(s) differ")) =
      some (.differing n false) := by
  have hcell : coloured colours "31" (toString n ++ " byte(s) differ") =
      lit colours "31" ++ (toString n ++ (" byte(s) differ" ++ unlit colours)) := by
    simp only [coloured, String.append_assoc]
  rw [hcell, status?, numberBetween?_append (by simp)]
  rfl

theorem status?_expected (colours : Bool) (n : Nat) :
    status? colours (coloured colours "33" (toString n ++ " byte(s) differ (expected)")) =
      some (.differing n true) := by
  have hcell : coloured colours "33" (toString n ++ " byte(s) differ (expected)") =
      lit colours "33" ++ (toString n ++ (" byte(s) differ (expected)" ++ unlit colours)) := by
    simp only [coloured, String.append_assoc]
  have hother : numberBetween? (lit colours "31") (" byte(s) differ" ++ unlit colours)
      (lit colours "33" ++ (toString n ++ (" byte(s) differ (expected)" ++ unlit colours))) =
        none := by
    cases colours with
    | false => exact numberBetween?_of_ne (by simp) (by decide)
    | true => exact numberBetween?_of_behind? (behind?_of_diverge (by decide) _)
  rw [hcell, status?, hother, numberBetween?_append (by simp)]
  rfl

theorem sizeDelta?_formatSigned (delta : Int) :
    sizeDelta? (formatSigned delta) = some (some delta) := by
  have hread : signedBetween? "" "" ("" ++ (formatSigned delta ++ "")) = some delta :=
    signedBetween?_append delta (by simp)
  rewrite [String.empty_append, String.append_empty] at hread
  have hne : formatSigned delta ≠ "-" := by
    intro h
    have hdash : signedBetween? "" "" "-" = none := by decide
    rw [h, hdash] at hread
    exact Option.some_ne_none delta hread.symm
  unfold sizeDelta?
  rw [if_neg hne, hread]
  rfl

theorem counted?_append {words : String} (hwords : words.toList.head?.any (!·.isDigit) = true)
    (n : Nat) (t : Text) :
    counted? words (Nat.toDigits 10 n ++ (words.toList ++ t)) = some (n, t) := by
  have hend : ∀ c ∈ (words.toList ++ t).head?, c.isDigit = false := by
    cases hlist : words.toList with
    | nil => simp [hlist] at hwords
    | cons c u => simpa [hlist] using hwords
  simp only [counted?, number?_toDigits hend, dropPrefix?_append, bind, Option.bind]
  rfl

/-- **The counts are read from their cell.** -/
theorem counts?_describe (s : RunSummary) : counts? s.describe = some s := by
  obtain ⟨a, b, c, d⟩ := s
  have htext : (RunSummary.describe ⟨a, b, c, d⟩).toList =
      Nat.toDigits 10 a ++ (" identical, ".toList ++ (Nat.toDigits 10 b ++ (" differing, ".toList ++
        (Nat.toDigits 10 c ++ (" skipped, ".toList ++
          (Nat.toDigits 10 d ++ (" failed".toList ++ []))))))) := by
    unfold RunSummary.describe
    simp only [String.toList_append, Nat.toString_eq_repr, Nat.toList_repr, List.append_assoc,
      List.append_nil]
  unfold counts?
  rewrite [htext]
  simp (disch := decide) only [counted?_append, bind, Option.bind]
  rfl

/-- What there is to tell about a contract in a row. -/
def Row.ofReport (r : ContractReport) : Row :=
  match r.outcome with
  | .compared c =>
    ⟨r.name,
      if c.identical then .identical
      else .differing c.differences.length (expectedDifference? r.name).isSome, some c.sizeDelta⟩
  | .notDeployed => ⟨r.name, .notDeployed, none⟩
  | .noCode side => ⟨r.name, .noCode side, none⟩
  | .failed _ => ⟨r.name, .failed, none⟩

theorem Row.tells_ofReport (r : ContractReport) : (Row.ofReport r).Tells r := by
  rw [Row.ofReport]
  split
  next c houtcome =>
    cases hsame : c.identical with
    | true => exact .identical houtcome hsame
    | false => exact .differing houtcome hsame
  next houtcome => exact .notDeployed houtcome
  next houtcome => exact .noCode houtcome
  next houtcome => exact .failed houtcome

/-! ## Cells of the summary -/

section Plain

open Table

theorem clean_append_iff {s t : Text} : Clean (s ++ t) ↔ Clean s ∧ Clean t :=
  List.forall_mem_append

/-- No digit is a break, a bar or a blank. -/
theorem ne_of_mem_toDigits {c : Char} (hc : c ∈ Nat.toDigits 10 n) :
    (c ≠ '\n' ∧ c ≠ '|') ∧ c ≠ ' ' := by
  have hdigit := Nat.isDigit_of_mem_toDigits (by decide) (by decide) hc
  refine ⟨⟨?_, ?_⟩, ?_⟩ <;> rintro rfl <;> simp at hdigit

theorem clean_toDigits (n : Nat) : Clean (Nat.toDigits 10 n) :=
  fun _ hc => (ne_of_mem_toDigits hc).1

theorem clean_toString (n : Nat) : Clean (toString n).toList := by
  rw [Nat.toString_eq_repr, Nat.toList_repr]
  exact clean_toDigits n

/-- A number with a text behind it keeps its form. -/
theorem plain_toString_append (n : Nat) {back : String} (hback : Clean back.toList)
    (hne : back.toList ≠ []) (hlast : back.toList.getLast? ≠ some ' ') :
    Plain (toString n ++ back) where
  clean := by
    rw [String.toList_append, clean_append_iff]
    exact ⟨clean_toString n, hback⟩
  head?_ne := by
    rw [String.toList_append, Nat.toString_eq_repr, Nat.toList_repr,
      List.head?_append_of_ne_nil _ Nat.toDigits_ne_nil]
    exact fun h => (ne_of_mem_toDigits (List.mem_of_mem_head? h)).2 rfl
  getLast?_ne := by rwa [String.toList_append, List.getLast?_append_of_ne_nil _ hne]

theorem plain_coloured {number text : String} (hnumber : Clean number.toList) (h : Plain text) :
    Plain (coloured colours number text) := by
  cases colours with
  | false =>
    have hsame : coloured false number text = text := by simp [coloured, lit, unlit]
    rwa [hsame]
  | true =>
    have htext : (coloured true number text).toList =
        "\x1b[".toList ++ (number.toList ++ "m".toList ++ text.toList) ++ "\x1b[0m".toList := by
      simp [coloured, lit, unlit]
    have hcodes : Clean "\x1b[".toList ∧ Clean "m".toList ∧ Clean "\x1b[0m".toList := by decide
    refine ⟨?_, ?_, ?_⟩
    · simp only [htext, clean_append_iff]
      exact ⟨⟨hcodes.1, ⟨hnumber, hcodes.2.1⟩, h.clean⟩, hcodes.2.2⟩
    · rw [htext]
      simp
    · rw [htext, List.getLast?_append_of_ne_nil _ (by decide)]
      decide

theorem plain_formatSigned (delta : Int) : Plain (formatSigned delta) := by
  have htext : ∃ sign, (sign = '+' ∨ sign = '-') ∧
      (formatSigned delta).toList = [sign] ++ Nat.toDigits 10 delta.natAbs := by
    by_cases hneg : delta < 0
    · exact ⟨'-', .inr rfl, by simp [formatSigned, hneg]⟩
    · exact ⟨'+', .inl rfl, by simp [formatSigned, hneg]⟩
  obtain ⟨sign, hsign, htext⟩ := htext
  have hplain : Clean [sign] ∧ [sign].head? ≠ some ' ' := by
    rcases hsign with rfl | rfl <;> decide
  refine ⟨?_, ?_, ?_⟩
  · rw [htext, clean_append_iff]
    exact ⟨hplain.1, clean_toDigits _⟩
  · rw [htext]
    exact hplain.2
  · rw [htext, List.getLast?_append_of_ne_nil _ Nat.toDigits_ne_nil]
    exact fun h => (ne_of_mem_toDigits (List.mem_of_getLast? h)).2 rfl

theorem plain_describe (s : RunSummary) : Plain s.describe := by
  obtain ⟨a, b, c, d⟩ := s
  have htext : RunSummary.describe ⟨a, b, c, d⟩ = toString a ++ (" identical, " ++ toString b ++
      " differing, " ++ toString c ++ " skipped, " ++ toString d ++ " failed") := by
    unfold RunSummary.describe
    simp only [String.append_assoc]
  rw [htext]
  apply plain_toString_append
  · simp only [String.toList_append, clean_append_iff, clean_toString, and_true]
    decide
  · simp
  · rw [String.toList_append, List.getLast?_append_of_ne_nil _ (by decide)]
    decide

/-- **What a cell tells of a contract is read from it**, and it keeps its form. -/
theorem status?_statusCell (colours : Bool) (r : ContractReport) :
    status? colours (r.statusCell colours) = some (Row.ofReport r).status ∧
      Plain (r.statusCell colours) := by
  have hwording := status?_of_wording colours
  unfold ContractReport.statusCell Row.ofReport
  cases r.outcome with
  | notDeployed =>
    dsimp only
    rw [paint_eq_coloured .dimmed "2" (by decide) rfl]
    exact hwording ("2", "not deployed", .notDeployed) (by decide)
  | failed message =>
    dsimp only
    rw [paint_eq_coloured .red "31" (by decide) rfl]
    exact hwording ("31", "error", .failed) (by decide)
  | noCode side =>
    cases side with
    | deployed =>
      dsimp only
      rw [paint_eq_coloured .yellow "33" (by decide) rfl]
      exact hwording ("33", "no deployed code", .noCode .deployed) (by decide)
    | reference =>
      dsimp only
      rw [paint_eq_coloured .yellow "33" (by decide) rfl]
      exact hwording ("33", "no reference code", .noCode .reference) (by decide)
  | compared c =>
    dsimp only
    split_ifs with hsame hexpected
    · rw [paint_eq_coloured .green "32" (by decide) rfl]
      exact hwording ("32", "identical", .identical) (by decide)
    · have htext : toString c.differences.length ++ " byte(s) differ" ++ " (expected)" =
          toString c.differences.length ++ " byte(s) differ (expected)" := by
        rw [String.append_assoc]
        rfl
      rw [htext, paint_eq_coloured .yellow "33" (escape_notMem _ (by decide)) rfl, hexpected,
        status?_expected]
      exact ⟨rfl, plain_coloured (by decide)
        (plain_toString_append _ (by decide) (by decide) (by decide))⟩
    · rw [paint_eq_coloured .red "31" (escape_notMem _ (by decide)) rfl,
        Bool.eq_false_of_not_eq_true hexpected, status?_differing]
      exact ⟨rfl, plain_coloured (by decide)
        (plain_toString_append _ (by decide) (by decide) (by decide))⟩

theorem plain_sizeCell (r : ContractReport) : Plain r.sizeCell := by
  rw [ContractReport.sizeCell]
  split
  · exact plain_formatSigned _
  · decide

end Plain

/-! ## The summary -/

/-- **A row is read.** -/
theorem row?_cells (colours : Bool) (r : ContractReport) :
    row? colours [r.name, r.statusCell colours, r.sizeCell] = some (Row.ofReport r) := by
  rw [row?, (status?_statusCell colours r).1]
  unfold ContractReport.sizeCell Row.ofReport
  cases r.outcome with
  | compared c => simp only [sizeDelta?_formatSigned, bind, Option.bind]
  | notDeployed => rfl
  | noCode side => rfl
  | failed message => rfl

/-- **Counting reports is counting the rows** that tell of them. -/
theorem foldl_count_eq {reports : List ContractReport} {rows : List Row}
    (h : List.Forall₂ (fun r row => row.Tells r) reports rows) (s : RunSummary) :
    reports.foldl (fun s r => s.count r.outcome) s =
      ⟨s.identical + (tally rows).identical, s.differing + (tally rows).differing,
        s.skipped + (tally rows).skipped, s.failed + (tally rows).failed⟩ := by
  -- Reports are counted from the first one on, so the counts so far stay general.
  induction h generalizing s with
  | nil => rfl
  | cons hrow _ ih =>
    rw [List.foldl_cons, ih]
    cases hrow with
    | identical houtcome hsame =>
      simp [RunSummary.count, tally, houtcome, hsame]
      omega
    | differing houtcome hdiffer =>
      simp [RunSummary.count, tally, houtcome, hdiffer]
      omega
    | notDeployed houtcome =>
      simp [RunSummary.count, tally, houtcome]
      omega
    | noCode houtcome =>
      simp [RunSummary.count, tally, houtcome]
      omega
    | failed houtcome =>
      simp [RunSummary.count, tally, houtcome]
      omega

theorem ofReports_eq_tally {reports : List ContractReport} {rows : List Row}
    (h : List.Forall₂ (fun r row => row.Tells r) reports rows) :
    RunSummary.ofReports reports = tally rows := by
  rw [RunSummary.ofReports, foldl_count_eq h]
  simp [RunSummary.empty]

/-- The last row tells of no contract. -/
theorem row?_total (colours : Bool) (counts : String) :
    row? colours ["Total", counts, ""] = none := by
  have hsize : sizeDelta? "" = none := by decide
  rw [row?]
  cases status? colours counts with
  | none => rfl
  | some status => simp only [hsize, bind, Option.bind]

/-- **The summary tells of each contract what its report says**, and counts the rows that do. -/
theorem exists_summary?_summaryLines (colours : Bool) {reports : List ContractReport}
    (hname : ∀ r ∈ reports, Table.Plain r.name) :
    ∃ rows, summary? colours (summaryLines colours reports) = some (rows, tally rows) ∧
      List.Forall₂ (fun r row => row.Tells r) reports rows := by
  have htells : List.Forall₂ (fun r row => row.Tells r) reports (reports.map Row.ofReport) := by
    rw [List.forall₂_map_right_iff, List.forall₂_same]
    exact fun r _ => Row.tells_ofReport r
  refine ⟨reports.map Row.ofReport, ?_, htells⟩
  have hplain : ∀ row ∈ summaryRows colours reports, ∀ cell ∈ row, Table.Plain cell := by
    have hhead : ∀ cell ∈ ["Contract", "Status", "Size delta"], Table.Plain cell := by decide
    have hempty : Table.Plain "Total" ∧ Table.Plain "" := by decide
    simp only [summaryRows, List.cons_append, List.mem_cons, List.mem_append, List.mem_map,
      List.not_mem_nil, or_false]
    rintro row (rfl | ⟨r, hr, rfl⟩ | rfl)
    · exact hhead
    · simpa using ⟨hname r hr, (status?_statusCell colours r).2, plain_sizeCell r⟩
    · simpa using ⟨hempty.1, plain_describe _, hempty.2⟩
  have hcells : (summaryLines colours reports).filterMap Table.cells? =
      summaryRows colours reports := by
    rw [summaryLines, List.filterMap_cons_none (by decide), Table.filterMap_cells? hplain]
  have hrows : takeAll (row? colours) ((reports.map fun r =>
      [r.name, r.statusCell colours, r.sizeCell]) ++
        [["Total", (RunSummary.ofReports reports).describe, ""]]) =
      (reports.map Row.ofReport, [["Total", (RunSummary.ofReports reports).describe, ""]]) :=
    takeAll_print reports (fun r _ => row?_cells colours r) (by simp [row?_total])
  rw [summary?, hcells, summaryRows, List.cons_append]
  simp only [hrows, counts?_describe, Option.map_some]
  rw [ofReports_eq_tally htells]

end Report

end BytecodeParity
