import Mathlib

set_option autoImplicit false

namespace ChromiumHmos.Base

-- Microseconds, as `base::Time`, `base::TimeTicks` and `base::TimeDelta` count them.
abbrev Time := Int
abbrev TimeTicks := Int
abbrev TimeDelta := Int

abbrev Bytes := List UInt8

def milliseconds (count : Int) : TimeDelta := count * 1000
def seconds (count : Int) : TimeDelta := milliseconds (count * 1000)
def minutes (count : Int) : TimeDelta := seconds (count * 60)
def hours (count : Int) : TimeDelta := minutes (count * 60)
def days (count : Int) : TimeDelta := hours (count * 24)

inductive Double
  | finite (value : Rat)
  | notFinite
deriving DecidableEq

inductive Value
  | none
  | bool (value : Bool)
  | int (value : Int)
  | double (value : Double)
  | string (value : String)
  | dict (entries : List (String × Value))
  | list (items : List Value)

abbrev DictValue := List (String × Value)

namespace DictValue

def find (dict : DictValue) (key : String) : Option Value := dict.lookup key

def contains (dict : DictValue) (key : String) : Bool := (dict.find key).isSome

def set (dict : DictValue) (key : String) (value : Value) : DictValue :=
  (key, value) :: dict.filter fun entry => entry.1 ≠ key

def findBool (dict : DictValue) (key : String) : Option Bool :=
  match dict.find key with
  | some (.bool value) => some value
  | _ => none

def findInt (dict : DictValue) (key : String) : Option Int :=
  match dict.find key with
  | some (.int value) => some value
  | _ => none

-- An integer reads as a double too.
def findDouble (dict : DictValue) (key : String) : Option Double :=
  match dict.find key with
  | some (.double value) => some value
  | some (.int value) => some (.finite value)
  | _ => none

def findString (dict : DictValue) (key : String) : Option String :=
  match dict.find key with
  | some (.string value) => some value
  | _ => none

def findList (dict : DictValue) (key : String) : Option (List Value) :=
  match dict.find key with
  | some (.list items) => some items
  | _ => none

def findDict (dict : DictValue) (key : String) : Option DictValue :=
  match dict.find key with
  | some (.dict entries) => some entries
  | _ => none

theorem lookup_filter_ne (entries : DictValue) (key other : String) (distinct : other ≠ key) :
    (entries.filter fun entry => entry.1 ≠ key).lookup other = entries.lookup other := by
  induction entries with
  | nil => rfl
  | cons head rest ih =>
    obtain ⟨name, value⟩ := head
    by_cases same : name = key
    · subst same
      have missed : (other == name) = false := beq_eq_false_iff_ne.mpr distinct
      simpa [List.lookup_cons, missed] using ih
    · by_cases hit : other = name <;> simp_all [List.lookup_cons]

theorem find_set (dict : DictValue) (key other : String) (value : Value) :
    (dict.set key value).find other = if other = key then some value else dict.find other := by
  by_cases same : other = key
  · simp [set, find, same]
  · have missed : (other == key) = false := beq_eq_false_iff_ne.mpr same
    simp only [set, find, List.lookup_cons, missed, same, if_false]
    exact lookup_filter_ne dict key other same

end DictValue

end ChromiumHmos.Base
