import Mathlib.Data.List.Forall2
import Mathlib.Data.List.TakeWhile
import BytecodeParity.Code.PoolHash
import BytecodeParity.Proofs.Code.Exactness
import BytecodeParity.Proofs.Code.Order
import BytecodeParity.Proofs.Contract.Registry
/-!
# Spellings

One sequence of digits reaches a comparison in many spellings: behind a small mark, a capital one
or none, in letters of either case, and an address or a hash between blanks as well. Several
definitions look at marks or at case, each in its own way. `stripMetadata` keeps the mark it finds,
`zeroAbsentFeatures` makes letters small for some contracts and leaves them alone for the others,
`Hex.raw` takes off blanks before it looks for a mark, and `locatePoolHash` does not expect blanks
around a code.

They meet in two forms. Of a code nothing counts but its body in small letters: the length field is
read alike in both cases (`strippedBody_congr`), and zeroing begins with making letters small
(`recased_zeroAbsentFeatures`). Of an address or a hash nothing counts but its raw form
(`SpellsValue.raw_eq`), so that registries do not tell spellings apart (`ofDeployment_respelled`).
**A comparison and the search for a hash come to the same for all spellings**
(`compareContract_respelled`), with any number of digits.
-/

namespace BytecodeParity

namespace Hex

/-! ## Writing digits -/

/-- What may stand in front of digits. -/
def marks : List Text := [[], ['0', 'x'], ['0', 'X']]

/-- A text of blanks. -/
def Blank (t : Text) : Prop := ∀ c ∈ t, Text.isBlank c = true

instance (t : Text) : Decidable (Blank t) := decidableForallMem t

/-- A code is written as its digits behind one of the marks. -/
def SpellsCode (t digits : Text) : Prop := ∃ mark ∈ marks, t = mark ++ digits

/-- An address or a hash may have blanks around that. -/
def SpellsValue (t digits : Text) : Prop :=
  ∃ front back s, (Blank front ∧ Blank back) ∧ SpellsCode s digits ∧ t = front ++ s ++ back

/-- Digits that differ in the case of their letters only. -/
structure Recased (s s' : Text) : Prop where
  left : Digits s
  right : Digits s'
  lower_eq : Text.lower s = Text.lower s'

/-- Two spellings of one code. -/
def SameCode (t t' : Text) : Prop := ∃ s s', Recased s s' ∧ SpellsCode t s ∧ SpellsCode t' s'

/-- Two spellings of one address or of one hash. -/
def SameValue (t t' : Text) : Prop := ∃ s s', Recased s s' ∧ SpellsValue t s ∧ SpellsValue t' s'

variable {s s' t t' front back : Text}

theorem SpellsCode.body_eq (h : SpellsCode t s) (hs : Digits s) : body t = s := by
  obtain ⟨mark, hmark, rfl⟩ := h
  have hcases : mark = [] ∨ mark = ['0', 'x'] ∨ mark = ['0', 'X'] := by
    simpa [marks] using hmark
  exact congrArg Prod.snd (hs.splitMark_append hcases)

/-- No blanks have to be there. -/
theorem SpellsCode.value (h : SpellsCode t s) : SpellsValue t s :=
  ⟨[], [], t, ⟨List.forall_mem_nil _, List.forall_mem_nil _⟩, h, (List.append_nil t).symm⟩

theorem SpellsCode.not_blank (h : SpellsCode t s) (hs : Digits s) :
    ∀ c ∈ t, Text.isBlank c = false := by
  obtain ⟨mark, hmark, rfl⟩ := h
  have hclear : ∀ mark ∈ marks, ∀ c ∈ mark, Text.isBlank c = false := by
    decide
  intro c hc
  rcases List.mem_append.mp hc with hc | hc
  · exact hclear mark hmark c hc
  · exact not_blank_of_digit (hs c hc)

/-! ## Blanks -/

/-- Blanks behind a text without blanks come off only if it is empty. -/
theorem reverse_dropWhile_append (hback : Blank back) (ht : ∀ c ∈ t, Text.isBlank c = false) :
    (((t ++ back).dropWhile Text.isBlank).reverse.dropWhile Text.isBlank).reverse = t := by
  have hback' : Blank back.reverse := fun c hc => hback c (List.mem_reverse.mp hc)
  cases t with
  | nil =>
    have hnil : back.dropWhile Text.isBlank = [] := List.dropWhile_eq_nil_iff.mpr hback
    rw [List.nil_append, hnil]
    rfl
  | cons c t =>
    have hstart : ∀ u, ((c :: t) ++ u).dropWhile Text.isBlank = (c :: t) ++ u := fun u =>
      List.dropWhile_cons_of_neg (by simp [ht c List.mem_cons_self])
    have htrim : Text.trim (c :: t) = c :: t := trim_eq_self ht
    have hself : (c :: t).dropWhile Text.isBlank = c :: t := by
      simpa using hstart []
    rw [Text.trim, hself] at htrim
    rw [hstart, List.reverse_append, List.dropWhile_append_of_pos hback', htrim]

/-- **Blanks around a text without blanks come off, and nothing else.** -/
theorem trim_between (hfront : Blank front) (hback : Blank back)
    (ht : ∀ c ∈ t, Text.isBlank c = false) : Text.trim (front ++ t ++ back) = t := by
  rw [Text.trim, List.append_assoc, List.dropWhile_append_of_pos hfront,
    reverse_dropWhile_append hback ht]

/-- **The raw form of a value is its digits in small letters.** -/
theorem SpellsValue.raw_eq (h : SpellsValue t s) (hs : Digits s) : raw t = Text.lower s := by
  obtain ⟨front, back, u, ⟨hfront, hback⟩, hu, rfl⟩ := h
  rw [raw, trim_between hfront hback (hu.not_blank hs), hu.body_eq hs]

theorem SameValue.raw_eq (h : SameValue t t') : raw t = raw t' := by
  obtain ⟨s, s', hcase, ht, ht'⟩ := h
  rw [ht.raw_eq hcase.left, ht'.raw_eq hcase.right, hcase.lower_eq]

theorem SameCode.recased (h : SameCode t t') : Recased (body t) (body t') := by
  obtain ⟨s, s', hcase, ht, ht'⟩ := h
  rw [ht.body_eq hcase.left, ht'.body_eq hcase.right]
  exact hcase

end Hex

open Hex

/-! ## Registries -/

namespace OrderedMap

variable {κ α : Type} [DecidableEq κ] {R : α → α → Prop} {m m' : OrderedMap κ α}

/-- Maps with related entries under the same keys have related answers. -/
theorem rel_find? (h : List.Forall₂ (fun e e' => e.1 = e'.1 ∧ R e.2 e'.2) m m') (k : κ) :
    Option.Rel R (find? k m) (find? k m') := by
  induction h with
  | nil => exact Option.Rel.none
  | cons he _ ih =>
    obtain ⟨hkey, hvalue⟩ := he
    rw [find?, find?, hkey]
    split
    · exact Option.Rel.some hvalue
    · exact ih

end OrderedMap

/-- Two spellings of one map of contract addresses. -/
def SameAddresses (contracts contracts' : OrderedMap String String) : Prop :=
  List.Forall₂ (fun e e' => e.1 = e'.1 ∧ SameValue e.2.toList e'.2.toList) contracts contracts'

namespace Registry

variable {contracts contracts' : OrderedMap String String} {poolHash poolHash' : Text}

/-- An entry gives the same value to its role in all spellings. -/
theorem given?_respelled {entry entry' : Option String}
    (h : Option.Rel (fun e e' => SameValue e.toList e'.toList) entry entry') :
    entry.bind Role.given? = entry'.bind Role.given? := by
  cases h with
  | none => rfl
  | some hsame => rw [Option.bind_some, Option.bind_some, Role.given?, Role.given?, hsame.raw_eq]

/-- A role has the same value in all spellings. -/
theorem value?_respelled (hcontracts : SameAddresses contracts contracts')
    (hhash : SameValue poolHash poolHash') (role : Role) :
    role.value? contracts poolHash = role.value? contracts' poolHash' := by
  by_cases hrole : role = .poolInitCodeHash
  · rw [Role.value?, Role.value?, if_pos hrole, if_pos hrole, hhash.raw_eq]
  · -- The hash does not count for any other role.
    have hentry : role.value? contracts [] = role.value? contracts' [] := by
      cases hkey : role.addressKey? with
      | none => exact Role.value?_of_no_key hkey contracts'
      | some key =>
        have hfound := OrderedMap.rel_find? (R := fun e e' : String => SameValue e.toList e'.toList)
          hcontracts key
        rw [Role.value?_of_key hkey, Role.value?_of_key hkey, given?_respelled hfound]
    calc role.value? contracts poolHash
        = role.value? contracts [] := value?_of_ne hrole
      _ = role.value? contracts' [] := hentry
      _ = role.value? contracts' poolHash' := (value?_of_ne hrole).symm

/-- **Registries do not tell spellings apart.** -/
theorem ofDeployment_respelled (hcontracts : SameAddresses contracts contracts')
    (hhash : SameValue poolHash poolHash') :
    ofDeployment contracts poolHash = ofDeployment contracts' poolHash' := by
  have hvalues : Role.value? contracts poolHash = Role.value? contracts' poolHash' :=
    funext fun role => value?_respelled hcontracts hhash role
  rw [ofDeployment, ofDeployment, hvalues]

end Registry

/-! ## Codes -/

namespace Code

variable {code code' : Text}

/-- **A body in small letters determines what is left of it without its trailer.** -/
theorem strippedBody_congr (h : Recased (body code) (body code')) :
    strippedBody code = strippedBody code' := by
  have hsmall : ∀ {code : Text}, Digits (body code) → strippedBody code =
      (Text.lower (body code)).take
        ((Text.lower (body code)).length - cutSize (Text.lower (body code))) := by
    intro code hdigits
    rw [strippedBody, body_stripMetadata hdigits, lower_take, cutSize_lower hdigits, length_lower]
  rw [hsmall h.left, hsmall h.right, h.lower_eq]

/-- Zeroing absent features keeps spellings of one code together. Where there are none the code
stays as it is, and where there are some it is brought to small letters first. -/
theorem recased_zeroAbsentFeatures (h : Recased (body code) (body code')) (name : String) :
    Recased (body (zeroAbsentFeatures name code)) (body (zeroAbsentFeatures name code')) := by
  rw [body_zeroAbsentFeatures h.left, body_zeroAbsentFeatures h.right]
  split
  · exact h
  · have hsmall : Digits ((absentAddresses name).foldl zeroAddress (Text.lower (body code))) :=
      (zeroAddresses_digits (fun _ ha => value_of_mem_absentAddresses ha) h.left.lower).1
    rw [← h.lower_eq]
    exact ⟨hsmall, hsmall, rfl⟩

variable {d d' r r' poolHash poolHash' : Text} {contracts contracts' : OrderedMap String String}

/-- Masking begins with small letters, so that it gets to see the stripped body only. -/
theorem mask_withoutTrailer_congr (h : Recased (body code) (body code')) (values : List Text) :
    mask values (withoutTrailer code) = mask values (withoutTrailer code') := by
  have hsmall : ∀ code, Text.lower (withoutTrailer code) = '0' :: 'x' :: strippedBody code :=
    fun _ => rfl
  rw [mask, mask, hsmall, hsmall, strippedBody_congr h]

/-- The search for a hash looks at small letters and at raw forms only. -/
theorem locatePoolHash_congr {expected expected' reference reference' : Text}
    (hcode : Recased (body code) (body code')) (hexpected : SameValue expected expected')
    (hreference : SameValue reference reference') :
    locatePoolHash code expected reference = locatePoolHash code' expected' reference' := by
  rw [locatePoolHash, locatePoolHash, hcode.lower_eq, hexpected.raw_eq, hreference.raw_eq]

/-- **Spellings do not count.** Not those of the codes, nor those of the addresses and of the hash
that the registry is made of, nor those of the hashes searched in the deployed code. -/
theorem compareContract_respelled (hdeployed : SameCode d d') (hreference : SameCode r r')
    (hcontracts : SameAddresses contracts contracts') (hhash : SameValue poolHash poolHash')
    (name : String) :
    compareContract name d r (Registry.ofDeployment contracts poolHash) Registry.canonical =
        compareContract name d' r' (Registry.ofDeployment contracts' poolHash')
          Registry.canonical ∧
      ∀ hash hash', SameValue hash hash' →
        locatePoolHash d poolHash hash = locatePoolHash d' poolHash' hash' := by
  constructor
  · rw [compareContract, compareContract, normalize, normalize,
      Registry.ofDeployment_respelled hcontracts hhash,
      mask_withoutTrailer_congr hdeployed.recased,
      mask_withoutTrailer_congr (recased_zeroAbsentFeatures hreference.recased name)]
  · intro hash hash' hsame
    exact locatePoolHash_congr hdeployed.recased hhash hsame

/-- A factory with its own address in its code, in two spellings of everything. -/
theorem compareContract_respelled_factory :
    let address := "1F98431c8aD98523631AE4a59f267346ea31F984"
    let small := "1f98431c8ad98523631ae4a59f267346ea31f984"
    let hash := List.replicate 64 'f'
    let report (d r address : String) (hash : Text) :=
      compareContract "UniswapV3Factory" d.toList r.toList
        (Registry.ofDeployment [("UniswapV3Factory", address)] hash) Registry.canonical
    report ("0x73" ++ address) "73aB" (" 0X" ++ address ++ "\n") (' ' :: '0' :: 'x' :: hash) =
        report ("73" ++ small) "0X73AB" small hash ∧
      locatePoolHash ("0x73" ++ address).toList (' ' :: '0' :: 'x' :: hash) "0XeE".toList =
        locatePoolHash ("73" ++ small).toList hash "Ee".toList := by
  intro address small hash report
  have hdeployed : SameCode ("0x73" ++ address).toList ("73" ++ small).toList :=
    ⟨'7' :: '3' :: address.toList, '7' :: '3' :: small.toList, ⟨by decide, by decide, by decide⟩,
      ⟨['0', 'x'], by decide, by decide⟩, ⟨[], by decide, by decide⟩⟩
  have hreference : SameCode "73aB".toList "0X73AB".toList :=
    ⟨"73aB".toList, "73AB".toList, ⟨by decide, by decide, by decide⟩,
      ⟨[], by decide, by decide⟩, ⟨['0', 'X'], by decide, by decide⟩⟩
  have hentry : SameValue (" 0X" ++ address ++ "\n").toList small.toList :=
    ⟨address.toList, small.toList, ⟨by decide, by decide, by decide⟩,
      ⟨[' '], ['\n'], _, by decide, ⟨['0', 'X'], by decide, rfl⟩, by decide⟩,
      SpellsCode.value ⟨[], by decide, rfl⟩⟩
  have hhash : SameValue (' ' :: '0' :: 'x' :: hash) hash :=
    ⟨hash, hash, ⟨by decide, by decide, rfl⟩,
      ⟨[' '], [], _, by decide, ⟨['0', 'x'], by decide, rfl⟩, by decide⟩,
      SpellsCode.value ⟨[], by decide, rfl⟩⟩
  have hother : SameValue "0XeE".toList "Ee".toList :=
    ⟨"eE".toList, "Ee".toList, ⟨by decide, by decide, by decide⟩,
      SpellsCode.value ⟨['0', 'X'], by decide, by decide⟩,
      SpellsCode.value ⟨[], by decide, rfl⟩⟩
  have hcontracts : SameAddresses [("UniswapV3Factory", " 0X" ++ address ++ "\n")]
      [("UniswapV3Factory", small)] :=
    .cons ⟨rfl, hentry⟩ .nil
  have hsame := compareContract_respelled hdeployed hreference hcontracts hhash "UniswapV3Factory"
  exact ⟨hsame.1, hsame.2 _ _ hother⟩

end Code

end BytecodeParity
