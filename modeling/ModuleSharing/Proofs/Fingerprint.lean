import ModuleSharing.Fingerprint

/-! A text that is fingerprinted is known from its bytes (`Fingerprint.terminated_inj`). -/

namespace ModuleSharing.Fingerprint

/-- The bytes from some place on are read one after the other. -/
theorem toList_loop (bytes : ByteArray) (i : Nat) (read : List UInt8) :
    ByteArray.toList.loop bytes i read = read.reverse ++ bytes.data.toList.drop i := by
  fun_induction ByteArray.toList.loop bytes i read with
  | case1 i read hplace ih =>
    have hlength : i < bytes.data.toList.length := by simpa using hplace
    have hbyte : bytes.get! i = bytes.data.toList[i] := by
      rw [ByteArray.get!, getElem!_pos bytes.data i (by simpa using hplace), Array.getElem_toList]
    rw [ih, List.reverse_cons, List.append_assoc, List.drop_eq_getElem_cons hlength, hbyte]
    rfl
  | case2 i read hend => simpa using hend

theorem terminated_inj {s t : String} (h : terminated s = terminated t) : s = t := by
  have hread (bytes : ByteArray) : bytes.toList = bytes.data.toList := toList_loop bytes 0 []
  have hbytes := List.append_cancel_right h
  rw [hread, hread, Array.toList_inj] at hbytes
  exact String.toByteArray_inj.mp (ByteArray.ext hbytes)

end ModuleSharing.Fingerprint
