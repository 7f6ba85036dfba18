import Mathlib.Tactic.Common
import TagWeave.Text.Utf8

/-!
# Encoding texts

The bytes of a text tell the text.
-/

namespace TagWeave.Text

/-- What is left to do of a traversal of bytes, after those that were taken. -/
theorem toList_loop_eq_drop (bytes : ByteArray) (i : Nat) (taken : List UInt8) :
    ByteArray.toList.loop bytes i taken = taken.reverse ++ bytes.data.toList.drop i := by
  induction hleft : bytes.size - i generalizing i taken with
  | zero =>
      have hdone : bytes.data.toList.length ≤ i := by
        have : bytes.size = bytes.data.toList.length := rfl
        omega
      rw [ByteArray.toList.loop, if_neg (by omega), List.drop_eq_nil_of_le hdone, List.append_nil]
  | succ left ih =>
      have hlt : i < bytes.data.toList.length := by
        have : bytes.size = bytes.data.toList.length := rfl
        omega
      have hget : bytes.get! i = bytes.data.toList[i] := by
        obtain ⟨data⟩ := bytes
        simp only [ByteArray.get!, Array.getElem_toList]
        exact getElem!_pos data i (by simpa using hlt)
      rw [ByteArray.toList.loop, if_pos (by omega), ih (i + 1) _ (by omega),
        List.drop_eq_getElem_cons hlt, hget]
      simp

theorem bytes_toList_injective {bytes bytes' : ByteArray} (h : bytes.toList = bytes'.toList) :
    bytes = bytes' := by
  simp only [ByteArray.toList, toList_loop_eq_drop, List.reverse_nil, List.nil_append,
    List.drop_zero] at h
  exact ByteArray.ext (Array.toList_inj.mp h)

theorem encode_injective {s t : String} (h : encode s = encode t) : s = t :=
  String.toByteArray_inj.mp (bytes_toList_injective h)

end TagWeave.Text
