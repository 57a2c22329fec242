import Mathlib.Data.String.Basic

/-!
# Octets of texts

The octets of a text, described by the encodings of its characters.
-/

namespace Utf8

open ByteArray List

theorem toList_loop (bytes : ByteArray) (index : Nat) (taken : List UInt8) :
    toList.loop bytes index taken = taken.reverse ++ bytes.data.toList.drop index := by
  induction index, taken using toList.loop.induct bytes with
  | case1 index taken inside ih =>
    have inside_list : index < bytes.data.toList.length := by simpa using inside
    have octet_eq : bytes.get! index = bytes.data.toList[index] := by
      exact getElem!_pos bytes.data index (by simpa using inside)
    rw [toList.loop, if_pos inside, ih, drop_eq_getElem_cons inside_list, octet_eq]
    simp
  | case2 index taken outside =>
    have outside_list : bytes.data.toList.length ≤ index := by simpa using outside
    rw [toList.loop, if_neg outside, drop_eq_nil_of_le outside_list, append_nil]

theorem toList_toUTF8 (text : String) :
    text.toUTF8.toList = text.toList.flatMap String.utf8EncodeChar := by
  rw [String.toUTF8_eq_toByteArray, ← String.utf8Encode_toList, toList, toList_loop,
    utf8Encode, toList_data_toByteArray]
  rfl

theorem length_toList_toUTF8 (text : String) : text.toUTF8.toList.length = text.utf8ByteSize := by
  rw [toList, toList_loop]
  rfl

end Utf8
