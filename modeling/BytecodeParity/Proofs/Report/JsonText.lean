import BytecodeParity.Proofs.Json.Printing
import BytecodeParity.Proofs.Report.Printed
import BytecodeParity.Report.Comparison
import Mathlib.Data.List.Forall2
/-!
# What a result in JSON tells

A result can also be printed as a JSON text, for programs that read it. **The text tells the whole
result** (`Comparison.tells_pretty`): whether the codes are identical, the change in size, and all
differences in their order, each with its position and both bytes. That a text tells a result is
said of the text, by the objects and lists that it is made of, and not of a value it was printed
from. Positions and counts may be of any size.
-/

namespace BytecodeParity

open Json.Reader Report

/-- The integer that a text is, if blanks in front of it do not count. -/
def Json.integer? (t : Text) : Option Int :=
  match t.dropWhile isBlank with
  | '-' :: t => do
    let (n, rest) ← number? t
    if rest = [] then some (-n) else none
  | t => do
    let (n, rest) ← number? t
    if rest = [] then some n else none

/-- A text is an object that tells a difference. -/
inductive Difference.ToldBy (d : Difference) : Text → Prop
  | intro {t position deployed reference : Text}
    (hobject : IsObject [("bytePosition", position), ("deployedByte", deployed),
      ("referenceByte", reference)] t)
    (hposition : Json.integer? position = some d.position)
    (hdeployed : Takes (text "a string") deployed (String.ofList d.deployed))
    (hreference : Takes (text "a string") reference (String.ofList d.reference)) : ToldBy d t

/-- A text is an object that tells the result of a comparison. -/
inductive Comparison.ToldBy (c : Comparison) : Text → Prop
  | intro {t identical sizeDelta differences : Text} {items : List Text}
    (hobject : IsObject [("identical", identical), ("sizeDeltaBytes", sizeDelta),
      ("differences", differences)] t)
    (hidentical : identical.dropWhile isBlank = (if c.identical then "true" else "false").toList)
    (hsizeDelta : Json.integer? sizeDelta = some c.sizeDelta)
    (hdifferences : IsList items differences)
    (hitems : List.Forall₂ Difference.ToldBy c.differences items) : ToldBy c t

theorem Json.integer?_pretty (indent : String) (k : Int) :
    integer? (' ' :: (prettyAt indent (.number (.integer k))).toList) = some k := by
  have hnumber := number?_toDigits_nil k.natAbs
  rw [toList_prettyAt_integer]
  split_ifs with hneg
  · have hsolid : (' ' :: '-' :: Nat.toDigits 10 k.natAbs).dropWhile isBlank =
        '-' :: Nat.toDigits 10 k.natAbs := rfl
    rw [integer?, hsolid]
    simp only [hnumber, bind, Option.bind, if_true]
    congr 1
    omega
  · obtain ⟨digit, digits, hdigits⟩ :=
      List.exists_cons_of_ne_nil (Nat.toDigits_ne_nil (b := 10) (n := k.natAbs))
    have hdigit : Reader.isDigit digit = true :=
      isDigit_of_mem_toDigits (n := k.natAbs) (by simp [hdigits])
    have hsolid : (' ' :: Nat.toDigits 10 k.natAbs).dropWhile isBlank =
        Nat.toDigits 10 k.natAbs := by
      rw [hdigits, List.dropWhile_cons_of_pos rfl,
        List.dropWhile_cons_of_neg (by simp [isBlank_of_number, hdigit])]
    rw [integer?, hsolid]
    -- A digit comes first, and so there is no sign.
    split
    next t hminus =>
      obtain ⟨rfl, -⟩ := List.cons.inj (hdigits.symm.trans hminus)
      cases hdigit
    next =>
      simp only [hnumber, bind, Option.bind, if_true]
      congr 1
      omega

/-- The value that is printed for a difference. -/
def Difference.toJson (d : Difference) : Json :=
  .object
    [ ("bytePosition", .number (.integer d.position)),
      ("deployedByte", .string (String.ofList d.deployed)),
      ("referenceByte", .string (String.ofList d.reference)) ]

theorem Difference.toldBy_pretty (d : Difference) {outer : String} (houter : Blank outer.toList) :
    d.ToldBy (d.toJson.prettyAt outer).toList := by
  have hobject := isObject_prettyAt houter
    [ ("bytePosition", .number (.integer d.position)),
      ("deployedByte", .string (String.ofList d.deployed)),
      ("referenceByte", .string (String.ofList d.reference)) ]
  have hstring (s : String) : Takes (text "a string")
      (' ' :: (Json.prettyAt (outer ++ "  ") (.string s)).toList) s := by
    rw [Json.prettyAt]
    exact (delimited_text _).behind_space (takes_text _ s)
  exact .intro hobject (Json.integer?_pretty _ _) (hstring _) (hstring _)

/-- **The whole result is told** by the text that is printed for it. -/
theorem Comparison.toldBy_pretty (c : Comparison) : c.ToldBy c.toJson.pretty.toList := by
  have hblank : Blank "".toList := by simp [Blank]
  have hdeeper : Blank ("" ++ "  ").toList := blank_deeper hblank
  have hobject := isObject_prettyAt hblank
    [ ("identical", .bool c.identical),
      ("sizeDeltaBytes", .number (.integer c.sizeDelta)),
      ("differences", .array (c.differences.map Difference.toJson)) ]
  have hlist := (isList_prettyAt hdeeper (c.differences.map Difference.toJson)).behind_blanks
    blank_space
  refine .intro hobject ?_ (Json.integer?_pretty _ _) hlist ?_
  · cases c.identical <;> rfl
  · rw [List.map_map, List.forall₂_map_right_iff, List.forall₂_same]
    exact fun d _ => d.toldBy_pretty (blank_deeper hdeeper)

end BytecodeParity
