import BytecodeParity.Json.Record
import Mathlib.Data.List.Basic
/-!
# What readers take

A reader takes what it reads off the front of a text. All readers are put together from a few that
take characters, so that **what is left is the end of what there was** (`Advances`), and the text of
what was read can be spoken of. What all that a reader gives has in common is said by `Gives`.

Both come with one lemma for readers one behind another (`Advances.bind`, `Gives.bind_of`), by which
the proofs follow the readers as they are written.
-/

namespace BytecodeParity.Json.Reader

variable {α β : Type} {r : Reader α} {f : α → Reader β} {t t' : Text} {a : α} {b : β}

/-! ## One reader behind another -/

theorem bind_eq_ok : (r >>= f) t = .ok (b, t') ↔ ∃ a u, r t = .ok (a, u) ∧ f a u = .ok (b, t') := by
  simp only [bind, StateT.bind, Except.bind]
  cases r t with
  | error e => simp
  | ok taken =>
    obtain ⟨a, u⟩ := taken
    simp only [Except.ok.injEq, Prod.mk.injEq]
    constructor
    · exact fun h => ⟨a, u, ⟨rfl, rfl⟩, h⟩
    · rintro ⟨_, _, ⟨rfl, rfl⟩, h⟩
      exact h

/-- A reader takes from the front only. -/
def Advances (r : Reader α) : Prop := ∀ t a t', r t = .ok (a, t') → t' <:+ t

/-- All that a reader gives has a property. -/
def Gives (r : Reader α) (P : α → Prop) : Prop := ∀ t a t', r t = .ok (a, t') → P a

theorem Gives.bind_of {P : α → Prop} {Q : β → Prop} (hr : Gives r P)
    (hf : ∀ a, P a → Gives (f a) Q) : Gives (r >>= f) Q := by
  intro t b t' h
  obtain ⟨a, u, ha, hb⟩ := bind_eq_ok.mp h
  exact hf a (hr t a u ha) u b t' hb

theorem Gives.bind {P : β → Prop} (h : ∀ a, Gives (f a) P) : Gives (r >>= f) P :=
  Gives.bind_of (P := fun _ => True) (fun _ _ _ _ => trivial) fun a _ => h a

theorem Gives.pure {P : α → Prop} (h : P a) : Gives (pure a) P := by
  rintro t b t' ⟨⟩
  exact h

theorem Gives.throw {P : α → Prop} {e : Fault} : Gives (throw e) P := by
  rintro t b t' ⟨⟩

theorem Advances.bind (hr : Advances r) (hf : ∀ a, Advances (f a)) : Advances (r >>= f) := by
  intro t b t' h
  obtain ⟨a, u, hu, hb⟩ := bind_eq_ok.mp h
  exact (hf a u b t' hb).trans (hr t a u hu)

theorem Advances.pure : Advances (pure a : Reader α) := by
  rintro t b t' ⟨⟩
  exact List.suffix_rfl

theorem Advances.throw {e : Fault} : Advances (throw e : Reader α) := by
  rintro t b t' ⟨⟩

/-! ## Readers of characters -/

theorem advances_peek : Advances peek := by
  rintro t b t' ⟨⟩
  exact List.suffix_rfl

theorem advances_remaining : Advances remaining := by
  rintro t b t' ⟨⟩
  exact List.suffix_rfl

theorem advances_drop : Advances drop := by
  rintro t b t' ⟨⟩
  exact List.tail_suffix t

theorem advances_next : Advances next := by
  rintro t b t' ⟨⟩
  exact List.tail_suffix t

theorem advances_peekSolid : Advances peekSolid := by
  rintro t b t' ⟨⟩
  exact List.dropWhile_suffix _

theorem advances_digits : Advances digits := by
  rintro t b t' ⟨⟩
  exact List.dropWhile_suffix _

theorem advances_word (w : List Char) : Advances (word w) := by
  induction w with
  | nil => exact Advances.pure
  | cons c w ih =>
    refine advances_next.bind fun d => ?_
    split
    · exact Advances.throw
    · split
      · exact ih
      · exact Advances.throw

/-! ## Readers of numbers -/

theorem advances_missingDigit : Advances (missingDigit : Reader α) :=
  advances_peek.bind fun c => by split <;> exact Advances.throw

theorem advances_real (negative : Bool) (n : Nat) (e : Int) : Advances (real negative n e) := by
  rw [real]
  split
  · exact Advances.pure
  · exact Advances.throw

theorem advances_exponentPart (negative : Bool) (n : Nat) (shift : Int) :
    Advances (exponentPart negative n shift) := by
  rw [exponentPart]
  refine advances_peek.bind fun sign => ?_
  extract_lets rest
  have hrest : ∀ u, Advances (rest u) := by
    intro u
    refine advances_digits.bind fun ds => ?_
    split
    · exact advances_missingDigit
    · dsimp only
      split
      · split
        · exact Advances.throw
        · exact Advances.pure
      · exact advances_real negative n _
  split
  · exact advances_drop.bind hrest
  · exact hrest ()

theorem advances_unsigned (negative : Bool) : Advances (unsigned negative) := by
  rw [unsigned]
  refine advances_digits.bind fun ds => ?_
  split
  · exact advances_missingDigit
  · exact Advances.throw
  · refine advances_peek.bind fun mark => ?_
    split
    · refine advances_drop.bind fun _ => advances_digits.bind fun fraction => ?_
      split
      · exact advances_missingDigit
      · refine advances_peek.bind fun mark => ?_
        split
        · exact advances_drop.bind fun _ => advances_exponentPart negative _ _
        · exact advances_real negative _ _
    · split
      · exact advances_drop.bind fun _ => advances_exponentPart negative _ _
      · split
        · exact Advances.pure
        · exact advances_real negative _ _

theorem advances_number : Advances number := by
  refine advances_peek.bind fun c => ?_
  split
  · exact advances_drop.bind fun _ => advances_unsigned true
  · exact advances_unsigned false

theorem advances_skipDigits : Advances skipDigits := by
  refine advances_digits.bind fun ds => ?_
  split
  · exact Advances.throw
  · exact Advances.pure

theorem advances_skipExponent : Advances skipExponent := by
  refine advances_peek.bind fun c => ?_
  split
  · refine advances_drop.bind fun _ => advances_peek.bind fun sign => ?_
    split
    · exact advances_drop.bind fun _ => advances_skipDigits
    · exact advances_skipDigits
  · exact Advances.pure

theorem advances_skipNumber : Advances skipNumber := by
  rw [skipNumber]
  refine advances_peek.bind fun sign => ?_
  extract_lets exponent rest
  have hrest : ∀ u, Advances (rest u) := by
    intro u
    refine advances_digits.bind fun ds => ?_
    split
    · exact Advances.throw
    · exact Advances.throw
    · refine advances_peek.bind fun c => ?_
      split
      · exact advances_drop.bind fun _ => advances_skipDigits.bind fun _ => advances_skipExponent
      · exact advances_skipExponent
  split
  · exact advances_drop.bind hrest
  · exact hrest ()

/-! ## Readers of strings -/

theorem advances_hexUnit : Advances hexUnit := by
  intro t a t' h
  rw [hexUnit] at h
  split at h
  · cases h
  · split at h
    · split at h
      · cases h
        exact List.drop_suffix 4 t
      · cases h
    · cases h

theorem advances_pairMark (c : Char) : Advances (pairMark c) := by
  refine advances_next.bind fun d => ?_
  split
  · exact Advances.throw
  · split
    · exact Advances.pure
    · exact Advances.throw

theorem advances_codePoint : Advances codePoint := by
  refine advances_hexUnit.bind fun high => ?_
  split
  · exact Advances.throw
  · split
    · exact Advances.pure
    · refine (advances_pairMark _).bind fun _ => (advances_pairMark _).bind fun _ =>
        advances_hexUnit.bind fun low => ?_
      split
      · exact Advances.pure
      · exact Advances.throw

theorem advances_escape {codePoint : Reader Char} (h : Advances codePoint) :
    Advances (escape codePoint) := by
  refine advances_next.bind fun c => ?_
  split
  · exact Advances.throw
  · exact h
  all_goals first | exact Advances.pure | (split; exact Advances.pure; exact Advances.throw)

theorem advances_stringFrom {codePoint : Reader Char} (h : Advances codePoint) (fuel : Nat)
    (read : List Char) : Advances (stringFrom codePoint fuel read) := by
  induction fuel generalizing read with
  | zero => exact Advances.throw
  | succ fuel ih =>
    refine advances_next.bind fun c => ?_
    split
    · exact Advances.throw
    · exact Advances.pure
    · exact (advances_escape h).bind fun c => ih (c :: read)
    · split
      · exact Advances.throw
      · exact ih _

theorem advances_string : Advances string :=
  advances_remaining.bind fun fuel =>
    (advances_stringFrom advances_codePoint (fuel + 1) []).bind fun _ => Advances.pure

theorem advances_skipString : Advances skipString :=
  advances_remaining.bind fun fuel =>
    (advances_stringFrom (advances_hexUnit.bind fun _ => Advances.pure) (fuel + 1) []).bind
      fun _ => Advances.pure

/-! ## Readers of values -/

theorem advances_nextItem (first : Bool) : Advances (nextItem first) := by
  refine advances_peekSolid.bind fun c => ?_
  split
  · exact Advances.throw
  · exact Advances.pure
  · split
    · exact Advances.pure
    · split
      · refine advances_drop.bind fun _ => advances_peekSolid.bind fun c => ?_
        split
        · exact Advances.throw
        · exact Advances.throw
        · exact Advances.pure
      · exact Advances.throw

theorem advances_nextName (first : Bool) : Advances (nextName first) := by
  refine advances_peekSolid.bind fun c => ?_
  split
  · exact Advances.throw
  · exact Advances.pure
  · split
    · split
      · exact advances_drop.bind fun _ => Advances.pure
      · exact Advances.throw
    · split
      · refine advances_drop.bind fun _ => advances_peekSolid.bind fun c => ?_
        split
        · exact Advances.throw
        · exact advances_drop.bind fun _ => Advances.pure
        · exact Advances.throw
        · exact Advances.throw
      · exact Advances.throw

theorem advances_colon : Advances colon := by
  refine advances_peekSolid.bind fun c => ?_
  split
  · exact Advances.throw
  · exact advances_drop
  · exact Advances.throw

theorem advances_itemsFrom {item : Reader α} (h : Advances item) (fuel : Nat) (first : Bool)
    (read : List α) : Advances (itemsFrom item fuel first read) := by
  induction fuel generalizing first read with
  | zero => exact Advances.throw
  | succ fuel ih =>
    refine (advances_nextItem first).bind fun more => ?_
    split
    · exact h.bind fun a => ih false (a :: read)
    · exact advances_drop.bind fun _ => Advances.pure

theorem advances_membersFrom {κ : Type} [LT κ] [DecidableLT κ] [DecidableEq κ] {name : Reader κ}
    {value : Reader α} (hname : Advances name) (hvalue : Advances value) (fuel : Nat)
    (first : Bool) (read : OrderedMap κ α) : Advances (membersFrom name value fuel first read) := by
  induction fuel generalizing first read with
  | zero => exact Advances.throw
  | succ fuel ih =>
    refine (advances_nextName first).bind fun more => ?_
    split
    · exact hname.bind fun k => advances_colon.bind fun _ => hvalue.bind fun a => ih false _
    · exact advances_drop.bind fun _ => Advances.pure

theorem advances_scalar : Advances scalar := by
  refine advances_peek.bind fun c => ?_
  split
  · exact advances_drop.bind fun _ => (advances_word _).bind fun _ => Advances.pure
  · exact advances_drop.bind fun _ => (advances_word _).bind fun _ => Advances.pure
  · exact advances_drop.bind fun _ => (advances_word _).bind fun _ => Advances.pure
  · exact advances_drop.bind fun _ => advances_string.bind fun _ => Advances.pure
  · split
    · exact advances_number.bind fun _ => Advances.pure
    · exact Advances.throw
  · exact Advances.throw

theorem advances_value (depth : Nat) : Advances (value depth) := by
  induction depth with
  | zero =>
    refine advances_peekSolid.bind fun c => ?_
    split
    · exact Advances.throw
    · exact Advances.throw
    · exact advances_scalar
  | succ depth ih =>
    refine advances_peekSolid.bind fun c => ?_
    split
    · exact advances_drop.bind fun _ => (advances_remaining.bind fun n =>
        advances_itemsFrom ih (n + 1) true []).bind fun _ => Advances.pure
    · exact advances_drop.bind fun _ => (advances_remaining.bind fun n =>
        advances_membersFrom advances_string ih (n + 1) true []).bind fun _ => Advances.pure
    · exact advances_scalar

theorem advances_skipScalar : Advances skipScalar := by
  refine advances_peek.bind fun c => ?_
  split
  · exact advances_drop.bind fun _ => advances_word _
  · exact advances_drop.bind fun _ => advances_word _
  · exact advances_drop.bind fun _ => advances_word _
  · exact advances_drop.bind fun _ => advances_skipString
  · split
    · exact advances_skipNumber
    · exact Advances.throw
  · exact Advances.throw

theorem advances_skipName : Advances skipName := by
  refine advances_peekSolid.bind fun c => ?_
  split
  · exact Advances.throw
  · exact advances_drop.bind fun _ => advances_skipString.bind fun _ => advances_colon
  · exact Advances.throw

theorem advances_skipFrom (fuel : Nat) (position : Position) (stack : List Container) :
    Advances (skipFrom fuel position stack) := by
  induction fuel generalizing position stack with
  | zero => exact Advances.throw
  | succ fuel ih =>
    have enter (container : Container) (stack : List Container) :
        Advances (if container = .object then do
            skipName
            skipFrom fuel .beforeValue (container :: stack)
          else skipFrom fuel .beforeValue (container :: stack)) := by
      split
      · exact advances_skipName.bind fun _ => ih .beforeValue _
      · exact ih .beforeValue _
    -- The equations of the reader go by position and by whether anything is open.
    match position, stack with
    | .beforeValue, stack =>
      rw [skipFrom]
      refine advances_peekSolid.bind fun c => ?_
      split
      · exact advances_drop.bind fun _ => ih .opened _
      · exact advances_drop.bind fun _ => ih .opened _
      · exact advances_skipScalar.bind fun _ => ih .afterValue _
    | .opened, [] | .afterValue, [] =>
      rw [skipFrom]
      · exact Advances.pure
      · rintro ⟨⟩
    | .opened, container :: stack | .afterValue, container :: stack =>
      rw [skipFrom]
      · refine advances_peekSolid.bind fun c => ?_
        split
        · exact Advances.throw
        · split
          · exact advances_drop.bind fun _ => ih .afterValue _
          · split
            · exact enter container stack
            · split
              · exact advances_drop.bind fun _ => enter container stack
              · exact Advances.throw
      · rintro ⟨⟩

theorem advances_skipValue : Advances skipValue :=
  advances_remaining.bind fun _ => advances_skipFrom _ _ _

/-! ## Readers of known shapes -/

/-- The reader for what is not of the expected type gives nothing. -/
theorem unexpected_ne_ok (expected : String) : unexpected expected t ≠ .ok (a, t') := by
  intro h
  obtain ⟨c, u, -, h⟩ := bind_eq_ok.mp h
  split at h
  · cases h
  · cases h
  · obtain ⟨found, u, -, h⟩ := bind_eq_ok.mp h
    cases h

theorem advances_unexpected (expected : String) : Advances (unexpected expected : Reader α) :=
  fun _ _ _ h => absurd h (unexpected_ne_ok expected)

theorem advances_text (expected : String) : Advances (text expected) := by
  refine advances_peekSolid.bind fun c => ?_
  split
  · exact advances_drop.bind fun _ => advances_string
  · exact advances_unexpected expected

theorem advances_nat64 : Advances nat64 := by
  refine advances_peekSolid.bind fun c => ?_
  split
  · split
    · refine advances_number.bind fun n => ?_
      split
      · split
        · exact Advances.pure
        · exact Advances.throw
      · exact Advances.throw
    · exact advances_unexpected _
  · exact advances_unexpected _

theorem advances_optional (h : Advances r) : Advances (optional r) := by
  refine advances_peekSolid.bind fun c => ?_
  split
  · exact advances_drop.bind fun _ => (advances_word _).bind fun _ => Advances.pure
  · exact h.bind fun _ => Advances.pure

end BytecodeParity.Json.Reader
