import Mathlib.Data.UInt

/-!
# Bytes

A byte has 256 values, so that what a table or a mask makes of a byte can be tried out.
-/

namespace AAAos

lemma forall_octet {p : UInt8 → Bool} (h : (List.range 256).all (fun n => p (UInt8.ofNat n)) = true)
    (octet : UInt8) : p octet = true := by
  have hoctet := List.all_eq_true.mp h octet.toNat (List.mem_range.mpr octet.toNat_lt)
  rwa [UInt8.ofNat_toNat] at hoctet

end AAAos
