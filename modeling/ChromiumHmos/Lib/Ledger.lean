import Mathlib

set_option autoImplicit false

/-!
# Callbacks held and called

Callbacks are numbered in the order in which they are given. Each is held until it is called, and it is
called once.
-/

namespace ChromiumHmos.Lib

def Accounted (held called : List ℕ) (given : ℕ) : Prop := (held ++ called).Perm (List.range given)

variable {held called rest : List ℕ} {given id : ℕ}

theorem accounted_none : Accounted [] [] 0 := .nil

theorem Accounted.congr {other : List ℕ} (accounted : Accounted held called given) (same : other.Perm held) :
    Accounted other called given :=
  (same.append_right called).trans accounted

theorem Accounted.give (accounted : Accounted held called given) :
    Accounted (given :: held) called (given + 1) := by
  have after : (given :: (held ++ called)).Perm (given :: List.range given) := accounted.cons given
  have next : (List.range (given + 1)).Perm (given :: List.range given) := by
    rw [List.range_succ]
    exact List.perm_append_singleton _ _
  exact after.trans next.symm

theorem Accounted.call (taken : List ℕ) (accounted : Accounted (taken ++ rest) called given) :
    Accounted rest (called ++ taken) given := by
  refine List.Perm.trans ?_ accounted
  have moved : (rest ++ (called ++ taken)).Perm (taken ++ (rest ++ called)) := by
    rw [<- List.append_assoc]
    exact List.perm_append_comm
  simpa [List.append_assoc] using moved

theorem Accounted.refuse (accounted : Accounted held called given) :
    Accounted held (called ++ [given]) (given + 1) :=
  Accounted.call [given] accounted.give

end ChromiumHmos.Lib
