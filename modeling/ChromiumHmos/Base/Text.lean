import Mathlib

set_option autoImplicit false

namespace ChromiumHmos.Base

-- `UTF8ToUTF16(text).size()`.
def utf16Length (text : String) : Nat :=
  (text.toList.map fun c => if c.toNat < 0x10000 then 1 else 2).sum

end ChromiumHmos.Base
