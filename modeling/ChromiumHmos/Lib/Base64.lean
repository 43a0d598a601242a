import Mathlib

set_option autoImplicit false

/-! # Base64 with padding: the text of a list of bytes, and the bytes of a text -/

namespace ChromiumHmos.Lib

def base64Letter (sextet : Nat) : Char :=
  if sextet < 26 then Char.ofNat (65 + sextet)
  else if sextet < 52 then Char.ofNat (71 + sextet)
  else if sextet < 62 then Char.ofNat (sextet - 4)
  else if sextet = 62 then '+'
  else '/'

def base64Sextet (letter : Char) : Option Nat :=
  let code := letter.toNat
  if 65 ≤ code ∧ code ≤ 90 then some (code - 65)
  else if 97 ≤ code ∧ code ≤ 122 then some (code - 71)
  else if 48 ≤ code ∧ code ≤ 57 then some (code + 4)
  else if letter = '+' then some 62
  else if letter = '/' then some 63
  else none

def base64Letters : List UInt8 -> List Char
  | [] => []
  | [a] => [base64Letter (a.toNat / 4), base64Letter (a.toNat % 4 * 16), '=', '=']
  | [a, b] =>
    [base64Letter (a.toNat / 4), base64Letter (a.toNat % 4 * 16 + b.toNat / 16),
      base64Letter (b.toNat % 16 * 4), '=']
  | a :: b :: c :: rest =>
    base64Letter (a.toNat / 4) :: base64Letter (a.toNat % 4 * 16 + b.toNat / 16) ::
      base64Letter (b.toNat % 16 * 4 + c.toNat / 64) :: base64Letter (c.toNat % 64) ::
      base64Letters rest

-- Four letters stand for three bytes; padding is looked for in the last group only.
def base64Bytes : List Char -> Option (List UInt8)
  | [] => some []
  | p :: q :: r :: s :: rest => do
      let first <- base64Sextet p
      let second <- base64Sextet q
      let a := UInt8.ofNat (first * 4 + second / 16)
      if rest = [] ∧ r = '=' ∧ s = '=' then return [a]
      let third <- base64Sextet r
      let b := UInt8.ofNat (second % 16 * 16 + third / 4)
      if rest = [] ∧ s = '=' then return [a, b]
      let fourth <- base64Sextet s
      let c := UInt8.ofNat (third % 4 * 64 + fourth)
      let later <- base64Bytes rest
      return a :: b :: c :: later
  | _ => none

def base64Encode (bytes : List UInt8) : String := String.ofList (base64Letters bytes)

def base64Decode (text : String) : Option (List UInt8) := base64Bytes text.toList

theorem base64Sextet_letter (sextet : Nat) (small : sextet < 64) :
    base64Sextet (base64Letter sextet) = some sextet := by
  have all : ∀ n : Fin 64, base64Sextet (base64Letter n.val) = some n.val := by decide
  exact all ⟨sextet, small⟩

theorem base64Letter_ne_padding (sextet : Nat) (small : sextet < 64) :
    base64Letter sextet ≠ '=' := by
  intro padding
  have read := base64Sextet_letter sextet small
  rw [padding] at read
  have unread : base64Sextet '=' = none := by decide
  simp [unread] at read

theorem byte_of_parts (byte : UInt8) (value : Nat) (same : value = byte.toNat) :
    UInt8.ofNat value = byte := by
  rw [same]
  exact UInt8.ofNat_toNat

theorem base64Bytes_letters (bytes : List UInt8) :
    base64Bytes (base64Letters bytes) = some bytes := by
  induction bytes using base64Letters.induct with
  | case1 => rfl
  | case2 a =>
    have boundA := a.toNat_lt
    have first := base64Sextet_letter (a.toNat / 4) (by omega)
    have second := base64Sextet_letter (a.toNat % 4 * 16) (by omega)
    have byteA := byte_of_parts a (a.toNat / 4 * 4 + a.toNat % 4 * 16 / 16) (by omega)
    simp only [base64Letters, base64Bytes, first, second, byteA, Option.bind_eq_bind,
      Option.bind_some, and_self, if_true]
    rfl
  | case3 a b =>
    have boundA := a.toNat_lt
    have boundB := b.toNat_lt
    have first := base64Sextet_letter (a.toNat / 4) (by omega)
    have second := base64Sextet_letter (a.toNat % 4 * 16 + b.toNat / 16) (by omega)
    have third := base64Sextet_letter (b.toNat % 16 * 4) (by omega)
    have unpadded := base64Letter_ne_padding (b.toNat % 16 * 4) (by omega)
    have byteA := byte_of_parts a
      (a.toNat / 4 * 4 + (a.toNat % 4 * 16 + b.toNat / 16) / 16) (by omega)
    have byteB := byte_of_parts b
      ((a.toNat % 4 * 16 + b.toNat / 16) % 16 * 16 + b.toNat % 16 * 4 / 4) (by omega)
    simp only [base64Letters, base64Bytes, first, second, third, unpadded, byteA, byteB,
      Option.bind_eq_bind, Option.bind_some, false_and, and_false, if_false, and_self, if_true]
    rfl
  | case4 a b c rest ih =>
    have boundA := a.toNat_lt
    have boundB := b.toNat_lt
    have boundC := c.toNat_lt
    have first := base64Sextet_letter (a.toNat / 4) (by omega)
    have second := base64Sextet_letter (a.toNat % 4 * 16 + b.toNat / 16) (by omega)
    have third := base64Sextet_letter (b.toNat % 16 * 4 + c.toNat / 64) (by omega)
    have fourth := base64Sextet_letter (c.toNat % 64) (by omega)
    have thirdUnpadded := base64Letter_ne_padding (b.toNat % 16 * 4 + c.toNat / 64) (by omega)
    have fourthUnpadded := base64Letter_ne_padding (c.toNat % 64) (by omega)
    have byteA := byte_of_parts a
      (a.toNat / 4 * 4 + (a.toNat % 4 * 16 + b.toNat / 16) / 16) (by omega)
    have byteB := byte_of_parts b
      ((a.toNat % 4 * 16 + b.toNat / 16) % 16 * 16 +
        (b.toNat % 16 * 4 + c.toNat / 64) / 4) (by omega)
    have byteC := byte_of_parts c
      ((b.toNat % 16 * 4 + c.toNat / 64) % 4 * 64 + c.toNat % 64) (by omega)
    simp only [base64Letters, base64Bytes, first, second, third, fourth, thirdUnpadded,
      fourthUnpadded, byteA, byteB, byteC, ih, Option.bind_eq_bind, Option.bind_some, and_false,
      if_false]
    rfl

theorem base64Decode_encode (bytes : List UInt8) :
    base64Decode (base64Encode bytes) = some bytes := by
  simp [base64Decode, base64Encode, base64Bytes_letters]

end ChromiumHmos.Lib
