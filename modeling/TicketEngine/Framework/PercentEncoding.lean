import Mathlib.Data.List.Basic
import Mathlib.Tactic.Common

namespace TicketEngine

/-! ## `encodeURIComponent` -/

namespace Percent

/-- Letters, digits and the marks that are written as they are. -/
def unreserved (c : Char) : Bool :=
  c.isAlphanum || c.toNat ∈ [45, 95, 46, 33, 126, 42, 39, 40, 41]

def hexDigit (n : Nat) : Char := Char.ofNat (if n < 10 then 48 + n else 55 + n)

def hexValue (c : Char) : Nat := if c.toNat < 65 then c.toNat - 48 else c.toNat - 55

def encodeByte (b : UInt8) : List Char :=
  ['%', hexDigit (b.toNat / 16), hexDigit (b.toNat % 16)]

def encodeChar (c : Char) : List Char :=
  if unreserved c then [c] else (String.utf8EncodeChar c).flatMap encodeByte

/-- The bytes a percent-encoded text stands for. -/
def decode : List Char → List UInt8
  | '%' :: high :: low :: rest => UInt8.ofNat (hexValue high * 16 + hexValue low) :: decode rest
  | c :: rest => UInt8.ofNat c.toNat :: decode rest
  | [] => []

theorem hexValue_hexDigit {n : Nat} (h : n < 16) : hexValue (hexDigit n) = n := by
  have hall : ∀ m : Fin 16, hexValue (hexDigit m) = m := by decide
  exact hall ⟨n, h⟩

theorem unreserved_ascii {c : Char} (h : unreserved c = true) : c.toNat < 128 ∧ c ≠ '%' := by
  constructor
  · have hranges : unreserved c = (((decide (c.val ≥ 'A'.val ∧ c.val ≤ 'Z'.val) ||
        decide (c.val ≥ 'a'.val) && decide (c.val ≤ 'z'.val)) ||
        decide (c.val ≥ '0'.val) && decide (c.val ≤ '9'.val)) ||
        decide (c.toNat ∈ [45, 95, 46, 33, 126, 42, 39, 40, 41])) := rfl
    simp only [hranges, ge_iff_le, Bool.or_eq_true, Bool.and_eq_true, decide_eq_true_eq,
      List.mem_cons, List.not_mem_nil, or_false, UInt32.le_iff_toNat_le] at h
    have hc : c.toNat = c.val.toNat := rfl
    have hupper : 'Z'.val.toNat = 90 := rfl
    have hlower : 'z'.val.toNat = 122 := rfl
    have hdigit : '9'.val.toNat = 57 := rfl
    omega
  · intro hc
    subst hc
    exact absurd h (by decide)

theorem decode_cons {c : Char} (h : c ≠ '%') (rest : List Char) :
    decode (c :: rest) = UInt8.ofNat c.toNat :: decode rest := by
  rw [decode]
  intro high low tail hc
  exact absurd hc h

theorem decode_encodeByte (b : UInt8) (rest : List Char) :
    decode (encodeByte b ++ rest) = b :: decode rest := by
  have hb : b.toNat < 256 := b.toNat_lt_size
  have hhigh : hexValue (hexDigit (b.toNat / 16)) = b.toNat / 16 := hexValue_hexDigit (by omega)
  have hlow : hexValue (hexDigit (b.toNat % 16)) = b.toNat % 16 := hexValue_hexDigit (by omega)
  have hsum : b.toNat / 16 * 16 + b.toNat % 16 = b.toNat := by omega
  simp only [encodeByte, List.cons_append, List.nil_append, decode]
  rw [hhigh, hlow, hsum, UInt8.ofNat_toNat]

theorem decode_encodeBytes (bytes : List UInt8) (rest : List Char) :
    decode (bytes.flatMap encodeByte ++ rest) = bytes ++ decode rest := by
  induction bytes with
  | nil => rfl
  | cons b bytes ih =>
    rw [List.flatMap_cons, List.append_assoc, decode_encodeByte, ih, List.cons_append]

theorem decode_encodeChar (c : Char) (rest : List Char) :
    decode (encodeChar c ++ rest) = String.utf8EncodeChar c ++ decode rest := by
  unfold encodeChar
  split_ifs with h
  · obtain ⟨hascii, hpercent⟩ := unreserved_ascii h
    have hsize : c.utf8Size = 1 := by
      rw [Char.utf8Size_eq_one_iff, UInt32.le_iff_toNat_le]
      have hc : c.toNat = c.val.toNat := rfl
      simp only [UInt32.reduceToNat]
      omega
    rw [List.singleton_append, decode_cons hpercent, String.utf8EncodeChar_eq_singleton hsize]
    rfl
  · exact decode_encodeBytes _ rest

theorem decode_encode (text : List Char) :
    decode (text.flatMap encodeChar) = text.flatMap String.utf8EncodeChar := by
  induction text with
  | nil => rfl
  | cons c text ih => rw [List.flatMap_cons, decode_encodeChar, ih, List.flatMap_cons]

end Percent

def encodeURIComponent (text : String) : String :=
  String.ofList (text.toList.flatMap Percent.encodeChar)

example : encodeURIComponent "::1" = "%3A%3A1" := by decide +kernel

/-- Different texts have different encodings. -/
theorem encodeURIComponent_inj {a b : String} (h : encodeURIComponent a = encodeURIComponent b) :
    a = b := by
  have hchars : a.toList.flatMap Percent.encodeChar = b.toList.flatMap Percent.encodeChar := by
    have := congrArg String.toList h
    simpa only [encodeURIComponent, String.toList_ofList] using this
  have hbytes := congrArg Percent.decode hchars
  rw [Percent.decode_encode, Percent.decode_encode] at hbytes
  have hutf8 : a.toList.utf8Encode = b.toList.utf8Encode := by
    unfold List.utf8Encode
    rw [hbytes]
  have hofList := String.toByteArray_inj (s := String.ofList a.toList)
    (t := String.ofList b.toList)
  rw [String.toByteArray_ofList, String.toByteArray_ofList, String.ofList_toList,
    String.ofList_toList] at hofList
  exact hofList.mp hutf8

end TicketEngine
