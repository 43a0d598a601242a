import Mathlib

set_option autoImplicit false

/-! # Stretches of an axis and the affine maps between them -/

namespace ChromiumHmos.Lib

variable {K : Type} [Field K]

@[ext] structure Span (K : Type) where
  start : K
  length : K

namespace Span

def stop (span : Span K) : K := span.start + span.length

/-- The affine map that takes the source span to the target span. -/
def transport (source target : Span K) (point : K) : K :=
  target.start + (point - source.start) * (target.length / source.length)

def pullback (source target : Span K) (left right : K) : Span K where
  start := source.start + (left - target.start) * (source.length / target.length)
  length := (right - left) * (source.length / target.length)

def wholeTarget (source target : Span K) (total : K) : Span K where
  start := target.start + -source.start * (target.length / source.length)
  length := total * (target.length / source.length)

theorem transport_pullback (source target : Span K) (left right point : K)
    (sized : source.length ≠ 0) (shown : target.length ≠ 0) (kept : right - left ≠ 0) :
    transport (pullback source target left right) ⟨left, right - left⟩ point =
      transport source target point := by
  simp only [transport, pullback]
  field_simp
  ring

theorem transport_wholeTarget (source target : Span K) (total point : K)
    (sized : source.length ≠ 0) (filled : total ≠ 0) :
    transport ⟨0, total⟩ (wholeTarget source target total) point = transport source target point := by
  simp only [transport, wholeTarget]
  field_simp
  ring

variable [LinearOrder K]

def Inside (inner outer : Span K) : Prop :=
  outer.start ≤ inner.start ∧ inner.stop ≤ outer.stop

/-- The points from the start, included, to the stop, excluded. -/
def Holds (span : Span K) (point : K) : Prop := span.start ≤ point ∧ point < span.stop

variable [IsStrictOrderedRing K]

theorem pullback_inside (source target : Span K) (left right : K) (sized : 0 < source.length)
    (shown : 0 < target.length) (from_start : target.start <= left) (to_stop : right <= target.stop) :
    (pullback source target left right).Inside source := by
  have scale : 0 < source.length / target.length := div_pos sized shown
  have offset : 0 <= (left - target.start) * (source.length / target.length) :=
    mul_nonneg (sub_nonneg.mpr from_start) scale.le
  have covered : (right - target.start) * (source.length / target.length) <= source.length := by
    calc (right - target.start) * (source.length / target.length)
        <= target.length * (source.length / target.length) := by
          refine mul_le_mul_of_nonneg_right ?_ scale.le
          simp only [stop] at to_stop
          linarith
      _ = source.length := mul_div_cancel₀ _ shown.ne'
  constructor
  · simpa only [pullback, le_add_iff_nonneg_right] using offset
  · simp only [pullback, stop]
    calc source.start + (left - target.start) * (source.length / target.length) +
          (right - left) * (source.length / target.length)
        = source.start + (right - target.start) * (source.length / target.length) := by ring
      _ <= source.start + source.length := by linarith

theorem pullback_length_pos (source target : Span K) (left right : K) (sized : 0 < source.length)
    (shown : 0 < target.length) (kept : left < right) :
    0 < (pullback source target left right).length :=
  mul_pos (sub_pos.mpr kept) (div_pos sized shown)

end Span

end ChromiumHmos.Lib
