import Mathlib.Tactic.Common
import TagWeave.Json.Escape
import TagWeave.Json.Reader

/-!
# Quoted texts are read back

A reader of JSON reads what was written between quotes as the text that was written,
and stops behind the closing quote. So no two texts have the same quoted form, even if
something follows them.
-/

namespace TagWeave.Json

open TagWeave.Text

theorem hexValue?_hexDigit : ∀ n < 16, hexValue? (hexDigit n) = some n := by decide

theorem readUnit_hexDigits {n : Nat} (h : n < 65536) (rest : List Char) :
    readUnit (hexDigits 4 n ++ rest) = some (n, rest) := by
  have digit : ∀ k, hexValue? (hexDigit (k % 16)) = some (k % 16) :=
    fun k => hexValue?_hexDigit _ (Nat.mod_lt _ (by decide))
  have value : ((n / 16 / 16 / 16 % 16 * 16 + n / 16 / 16 % 16) * 16 + n / 16 % 16) * 16 + n % 16 =
      n := by omega
  simp only [hexDigits, List.nil_append, List.cons_append, readUnit, digit, value]

/-- Reading undoes the escape of a character. -/
theorem readText_escaped (c : Char) (fuel : Nat) (rest : List Char) :
    readText (fuel + 1) (escaped c ++ rest) =
      (readText fuel rest).map fun (cs, rest) => (c :: cs, rest) := by
  unfold escaped
  split_ifs with own own own own own own own control
  -- the characters with an escape of their own
  iterate 7
    · rw [own]
      rfl
  · have read : readNumbered (hexDigits 4 c.toNat ++ rest) = some (c, rest) := by
      rw [readNumbered, readUnit_hexDigits (by omega)]
      simp only
      rw [if_neg (by omega), ofCodePoint, if_neg (by simp; omega), Char.ofNat_toNat]
    simp only [unitEscape, List.cons_append, readText, read]
  · rw [List.singleton_append, readText]
    · rw [if_neg control, if_neg ‹c ≠ '\\'›]
    all_goals simp_all

theorem readText_quoted (cs rest : List Char) {fuel : Nat} (h : cs.length < fuel) :
    readText fuel (cs.flatMap escaped ++ '"' :: rest) = some (cs, rest) := by
  induction cs generalizing fuel with
  | nil =>
      obtain ⟨fuel, rfl⟩ : ∃ k, fuel = k + 1 := ⟨fuel - 1, by simp at h; omega⟩
      rfl
  | cons c cs ih =>
      obtain ⟨fuel, rfl⟩ : ∃ k, fuel = k + 1 := ⟨fuel - 1, by simp at h; omega⟩
      rw [List.flatMap_cons, List.append_assoc, readText_escaped, ih (by simpa using h)]
      rfl

/-- The quoted form tells the text, and where it ends. -/
theorem quotedBy_escaped_append_inj {cs cs' rest rest' : List Char}
    (h : quotedBy escaped cs ++ rest = quotedBy escaped cs' ++ rest') :
    cs = cs' ∧ rest = rest' := by
  simp only [quotedBy, List.cons_append, List.append_assoc, List.nil_append, List.cons.injEq,
    true_and] at h
  have read := @readText_quoted cs rest (cs.length + cs'.length + 1) (by omega)
  rw [h, readText_quoted cs' rest' (by omega)] at read
  obtain ⟨rfl, rfl⟩ := Prod.mk.inj (Option.some.inj read)
  exact ⟨rfl, rfl⟩

end TagWeave.Json
