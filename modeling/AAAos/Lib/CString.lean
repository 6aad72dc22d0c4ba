import Mathlib.Data.List.Basic

/-!
# C strings

A C string is the bytes before the first NUL.  `strlen` is the length of that list, and `strcmp` answers
zero exactly for equal lists.
-/

namespace AAAos

/-- A C string: the bytes before the first NUL. -/
def CString := { l : List UInt8 // (0 : UInt8) ∉ l }
deriving DecidableEq

namespace CString

def empty : CString := ⟨[], List.not_mem_nil⟩

/-- `strncpy` into a buffer with one byte more, and the NUL there. -/
def truncate (s : CString) (len : Nat) : CString :=
  ⟨s.1.take len, fun h => s.2 (List.mem_of_mem_take h)⟩

/-- `strcat`. -/
def append (s t : CString) : CString :=
  ⟨s.1 ++ t.1, fun h => (List.mem_append.mp h).elim s.2 t.2⟩

lemma truncate_of_le {s : CString} {len : Nat} (h : s.1.length ≤ len) : s.truncate len = s :=
  Subtype.ext (List.take_of_length_le h)

end CString

end AAAos
