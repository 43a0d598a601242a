import ChromiumHmos.Lib.TextPieces

set_option autoImplicit false

/-! # The decimal digits of a number as bytes -/

namespace ChromiumHmos.Lib

def decimal (n : Nat) : List UInt8 := (Nat.toDigits 10 n).map fun digit => digit.toUInt8

/-- The value of digits read from the left, on top of what was read before. -/
def digitsValue (bytes : List UInt8) : Nat :=
  bytes.foldl (fun value byte => value * 10 + (byte.toNat - 48)) 0

theorem toUTF8_ascii (text : List Char) (ascii : ∀ c ∈ text, c.utf8Size = 1) :
    (String.ofList text).toUTF8.toList = text.map fun c => c.toUInt8 := by
  have encoded : (String.ofList text).toUTF8 = (text.flatMap String.utf8EncodeChar).toByteArray :=
    String.toByteArray_ofList
  rw [byteArray_toList, encoded, List.toList_data_toByteArray]
  induction text with
  | nil => rfl
  | cons head rest ih =>
    rw [List.flatMap_cons, String.utf8EncodeChar_eq_singleton (ascii head List.mem_cons_self),
      ih (fun c held => ascii c (List.mem_cons_of_mem _ held)) String.toByteArray_ofList]
    simp

theorem digit_range (c : Char) (digit : c.isDigit = true) : 48 <= c.toNat /\ c.toNat <= 57 := by
  simp only [Char.isDigit, Bool.and_eq_true, decide_eq_true_eq, ge_iff_le,
    UInt32.le_iff_toNat_le] at digit
  exact digit

theorem digit_toUInt8 (c : Char) (digit : c.isDigit = true) : c.toUInt8.toNat = c.toNat := by
  have range := digit_range c digit
  have byte : c.toUInt8.toNat = c.toNat % 256 := by
    rw [<- Char.toUInt8_val, UInt32.toNat_toUInt8]
    rfl
  omega

theorem digit_utf8Size (c : Char) (digit : c.isDigit = true) : c.utf8Size = 1 := by
  have range := digit_range c digit
  have small : c.val <= 0x7f := by
    rw [UInt32.le_iff_toNat_le]
    exact Nat.le_trans range.2 (by decide)
  simp [Char.utf8Size, small]

variable (n : Nat)

theorem toUTF8_toString : (toString n).toUTF8.toList = decimal n := by
  rw [Nat.toString_eq_ofList_toDigits, toUTF8_ascii _ fun c held =>
    digit_utf8Size c (Nat.isDigit_of_mem_toDigits (by omega) (by omega) held), decimal]

theorem decimal_digits (byte : UInt8) (held : byte ∈ decimal n) : 48 <= byte /\ byte <= 57 := by
  obtain ⟨c, member, rfl⟩ := List.mem_map.mp held
  have digit : c.isDigit = true := Nat.isDigit_of_mem_toDigits (by omega) (by omega) member
  have range := digit_range c digit
  rw [UInt8.le_iff_toNat_le, UInt8.le_iff_toNat_le, digit_toUInt8 c digit]
  exact range

theorem decimal_ne_nil : decimal n ≠ [] := by
  simp [decimal, Nat.toDigits_ne_nil]

theorem decimal_length (n k : Nat) (positive : 0 < k) : (decimal n).length <= k ↔ n < 10 ^ k := by
  rw [decimal, List.length_map]
  exact Nat.length_toDigits_le_iff (by omega) positive

theorem digitsValue_decimal : digitsValue (decimal n) = n := by
  have same (text : List Char) (read : Nat) (digits : ∀ c ∈ text, c.isDigit = true) :
      (text.map fun c => c.toUInt8).foldl (fun value byte => value * 10 + (byte.toNat - 48)) read =
        Nat.ofDigitChars 10 text read := by
    induction text generalizing read with
    | nil => rfl
    | cons head rest ih =>
      rw [List.map_cons, List.foldl_cons, ih _ fun c held => digits c (List.mem_cons_of_mem _ held),
        Nat.ofDigitChars_cons, digit_toUInt8 head (digits head List.mem_cons_self), Nat.mul_comm]
      rfl
  rw [digitsValue, decimal, same _ _ fun c held => Nat.isDigit_of_mem_toDigits (by omega) (by omega) held]
  exact Nat.ofDigitChars_ten_toDigits

end ChromiumHmos.Lib
