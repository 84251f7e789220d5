import Mathlib.Data.List.Basic
import ProjectLint.Text.Letter

/-!
# The bytes of a name

The system knows names as bytes. A name of letters stands for the bytes of its characters in UTF-8;
a half of a surrogate pair stands for the byte from which it was made, if it was made from one.
Other halves stand for nothing, and a name with one of them cannot be handed to the system.

## Main definitions

* `Letter.Encodes`: letters stand for some bytes.
* `Letter.Encodable`: letters stand for any bytes.
* `Letter.Names`: letters stand for the bytes of a text.

## Main results

* `Letter.encode_eq_ok_iff`: the bytes that letters stand for.
* `Letter.encodable_iff`: letters stand for bytes if all halves in them do.
* `Letter.names_ofText_iff`: a text of characters stands for no other text.
-/

namespace ProjectLint.Text.Letter

variable {ls : List Letter} {bytes : List UInt8}

/-- Letters stand for some bytes. -/
inductive Encodes : List Letter → List UInt8 → Prop
  | nil : Encodes [] []
  | char (c : Char) {ls : List Letter} {bytes : List UInt8} (h : Encodes ls bytes) :
    Encodes (.char c :: ls) (String.utf8EncodeChar c ++ bytes)
  /-- The halves from U+DC80 to U+DCFF are made from the bytes that are not ASCII. -/
  | escape (b : UInt8) {ls : List Letter} {bytes : List UInt8} (hb : 0x80 ≤ b)
    (h : Encodes ls bytes) : Encodes (.half (0xdc00 + b.toNat) :: ls) (b :: bytes)

/-- Letters stand for any bytes. -/
def Encodable (ls : List Letter) : Prop := ∃ bytes, Encodes ls bytes

/-- Letters stand for the bytes of a text. -/
def Names (ls : List Letter) (s : String) : Prop := Encodes ls s.toByteArray.data.toList

/-! ### Letters one by one -/

/-- The halves that stand for bytes. -/
theorem exists_byte_iff {code : Nat} :
    (∃ b : UInt8, 0x80 ≤ b ∧ 0xdc00 + b.toNat = code) ↔ 0xdc80 ≤ code ∧ code ≤ 0xdcff := by
  constructor
  · rintro ⟨b, hb, rfl⟩
    have hlow : 0x80 ≤ b.toNat := UInt8.le_iff_toNat_le.mp hb
    have hhigh : b.toNat < 256 := b.toNat_lt
    omega
  · rintro ⟨hlow, hhigh⟩
    have hb : (UInt8.ofNat (code - 0xdc00)).toNat = code - 0xdc00 := by
      rw [UInt8.toNat_ofNat']
      omega
    refine ⟨UInt8.ofNat (code - 0xdc00), UInt8.le_iff_toNat_le.mpr ?_, by omega⟩
    rw [hb]
    change 128 ≤ code - 0xdc00
    omega

theorem bytes?_half {b : UInt8} (hb : 0x80 ≤ b) : (half (0xdc00 + b.toNat)).bytes? = some [b] := by
  rw [bytes?, if_pos (exists_byte_iff.mp ⟨b, hb, rfl⟩)]
  have hmod : UInt8.ofNat (0xdc00 + b.toNat) = b := by
    rw [← UInt8.toNat_inj, UInt8.toNat_ofNat']
    have hlt := b.toNat_lt
    omega
  rw [hmod]

/-- The bytes of the first letter come first. -/
theorem encodes_cons_iff {l : Letter} :
    Encodes (l :: ls) bytes ↔
      ∃ bs rest, l.bytes? = some bs ∧ Encodes ls rest ∧ bs ++ rest = bytes := by
  constructor
  · intro h
    cases h with
    | char c h => exact ⟨_, _, rfl, h, rfl⟩
    | escape b hb h => exact ⟨_, _, bytes?_half hb, h, rfl⟩
  · rintro ⟨bs, rest, hl, hrest, rfl⟩
    cases l with
    | char c =>
      cases hl
      exact .char c hrest
    | half code =>
      by_cases hcode : 0xdc80 ≤ code ∧ code ≤ 0xdcff
      · obtain ⟨b, hb, rfl⟩ := exists_byte_iff.mpr hcode
        rw [bytes?_half hb] at hl
        cases hl
        exact .escape b hb hrest
      · rw [bytes?, if_neg hcode] at hl
        cases hl

theorem encodeFrom_eq_ok_iff (position : Nat) :
    encodeFrom position ls = .ok bytes ↔ Encodes ls bytes := by
  induction ls generalizing position bytes with
  | nil =>
    constructor
    · rintro ⟨⟩
      exact .nil
    · rintro ⟨⟩
      rfl
  | cons l ls ih =>
    simp only [encodes_cons_iff, ← ih (position + 1)]
    rw [encodeFrom]
    cases l.bytes? with
    | none => simp
    | some bs => cases encodeFrom (position + 1) ls <;> simp [Except.map]

/-- **The bytes that letters stand for.** -/
theorem encode_eq_ok_iff : encode ls = .ok bytes ↔ Encodes ls bytes := encodeFrom_eq_ok_iff 0

instance : DecidablePred Encodable := fun ls =>
  decidable_of_iff ((encode ls).toOption.isSome = true) (by
    simp only [Encodable, ← encode_eq_ok_iff]
    cases encode ls <;> simp [Except.toOption])

/-- Letters stand for bytes exactly if all halves in them do. -/
theorem encodable_iff :
    Encodable ls ↔ ∀ code, half code ∈ ls → 0xdc80 ≤ code ∧ code ≤ 0xdcff := by
  constructor
  · rintro ⟨bytes, h⟩
    induction h with
    | nil => simp
    | char c _ ih => simpa using ih
    | escape b hb _ ih =>
      intro code hcode
      rcases List.mem_cons.mp hcode with heq | hcode
      · exact exists_byte_iff.mp ⟨b, hb, (half.inj heq).symm⟩
      · exact ih code hcode
  · intro h
    induction ls with
    | nil => exact ⟨[], .nil⟩
    | cons l ls ih =>
      obtain ⟨bytes, hbytes⟩ := ih fun code hcode => h code (List.mem_cons_of_mem l hcode)
      cases l with
      | char c => exact ⟨_, .char c hbytes⟩
      | half code =>
        obtain ⟨b, hb, rfl⟩ := exists_byte_iff.mpr (h code List.mem_cons_self)
        exact ⟨_, .escape b hb hbytes⟩

/-! ### Texts of characters -/

theorem encodes_ofChars_iff {cs : List Char} :
    Encodes (ofChars cs) bytes ↔ bytes = cs.flatMap String.utf8EncodeChar := by
  induction cs generalizing bytes with
  | nil =>
    constructor
    · rintro ⟨⟩
      rfl
    · rintro rfl
      exact .nil
  | cons c cs ih =>
    constructor
    · intro h
      cases h with
      | char _ h =>
        rw [ih.mp h]
        rfl
    · rintro rfl
      exact .char c (ih.mpr rfl)

theorem bytes_eq (s : String) :
    s.toByteArray.data.toList = s.toList.flatMap String.utf8EncodeChar := by
  rw [← String.utf8Encode_toList, List.utf8Encode, List.data_toByteArray]

/-- **A text of characters stands for no other text.** -/
theorem names_ofText_iff {s t : String} : Names (ofText s) t ↔ s = t := by
  rw [Names, ofText, encodes_ofChars_iff, ← bytes_eq, Array.toList_inj, ByteArray.ext_iff.symm,
    String.toByteArray_inj, eq_comm]

end ProjectLint.Text.Letter
