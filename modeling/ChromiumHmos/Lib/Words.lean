import Mathlib

set_option autoImplicit false

/-!
# Words in memory

Words of 32 and of 64 bits as four and eight bytes each, the lowest first.
-/

namespace ChromiumHmos.Lib

def wordBytes (word : UInt32) : List UInt8 :=
  [.ofNat word.toNat, .ofNat (word.toNat / 256), .ofNat (word.toNat / 65536),
    .ofNat (word.toNat / 16777216)]

-- Bytes that are missing count as zero.
def wordOf (bytes : List UInt8) : UInt32 :=
  .ofNat ((bytes.getD 0 0).toNat + 256 * (bytes.getD 1 0).toNat + 65536 * (bytes.getD 2 0).toNat +
    16777216 * (bytes.getD 3 0).toNat)

theorem wordOf_wordBytes (word : UInt32) (rest : List UInt8) :
    wordOf (wordBytes word ++ rest) = word := by
  have low := word.toNat_lt
  apply UInt32.toNat_inj.mp
  simp only [wordOf, wordBytes, List.cons_append, List.nil_append, List.getD_cons_zero,
    List.getD_cons_succ, UInt8.toNat_ofNat', UInt32.toNat_ofNat']
  omega

def longBytes (long : UInt64) : List UInt8 :=
  wordBytes (.ofNat long.toNat) ++ wordBytes (.ofNat (long.toNat / 4294967296))

def longOf (bytes : List UInt8) : UInt64 :=
  .ofNat ((wordOf bytes).toNat + 4294967296 * (wordOf (bytes.drop 4)).toNat)

theorem longOf_longBytes (long : UInt64) (rest : List UInt8) : longOf (longBytes long ++ rest) = long := by
  have low := long.toNat_lt
  have first : wordOf (longBytes long ++ rest) = .ofNat long.toNat := by
    rw [longBytes, List.append_assoc, wordOf_wordBytes]
  have second : wordOf ((longBytes long ++ rest).drop 4) = .ofNat (long.toNat / 4294967296) := by
    rw [show (longBytes long ++ rest).drop 4 =
      wordBytes (.ofNat (long.toNat / 4294967296)) ++ rest from rfl, wordOf_wordBytes]
  apply UInt64.toNat_inj.mp
  rw [longOf, first, second]
  simp only [UInt32.toNat_ofNat', UInt64.toNat_ofNat']
  omega

end ChromiumHmos.Lib
