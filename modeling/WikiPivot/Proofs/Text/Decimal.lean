import WikiPivot.Text.Basic
import Mathlib.Tactic.IntervalCases

/-! # Numbers in decimal

The decimal form holds digits alone, and the number can be read back from it.
-/
namespace WikiPivot.Text

theorem digit_of_mem_ofNat {n : Nat} {c : Char} (h : c ∈ ofNat n) :
    ∃ d < 10, c = Char.ofNat (48 + d) := by
  induction n using ofNat.induct with
  | case1 n hn =>
    rw [ofNat, if_pos hn, List.mem_singleton] at h
    exact ⟨n, hn, h⟩
  | case2 n hn ih =>
    rw [ofNat, if_neg hn] at h
    rcases List.mem_append.mp h with h | h
    · exact ih h
    · exact ⟨n % 10, Nat.mod_lt _ (by decide), List.mem_singleton.mp h⟩

def value (t : Text) : Nat := t.foldl (fun n c => 10 * n + (c.toNat - 48)) 0

theorem digit_toNat {d : Nat} (h : d < 10) : (Char.ofNat (48 + d)).toNat - 48 = d := by
  interval_cases d <;> rfl

theorem value_ofNat (n : Nat) : value (ofNat n) = n := by
  induction n using ofNat.induct with
  | case1 n hn =>
    rw [ofNat, if_pos hn]
    simp [value, digit_toNat hn]
  | case2 n hn ih =>
    have hd : n % 10 < 10 := Nat.mod_lt _ (by decide)
    rw [ofNat, if_neg hn]
    simp only [value] at ih
    simp only [value, List.foldl_append, List.foldl_cons, List.foldl_nil, ih, digit_toNat hd]
    omega

theorem ofNat_injective {m n : Nat} (h : ofNat m = ofNat n) : m = n := by
  rw [← value_ofNat m, h, value_ofNat]

theorem asciiLowercase_ofNat (n : Nat) : asciiLowercase (ofNat n) = ofNat n := by
  unfold asciiLowercase
  conv_rhs => rw [← List.map_id (ofNat n)]
  apply List.map_congr_left
  intro c hc
  obtain ⟨d, hd, rfl⟩ := digit_of_mem_ofNat hc
  interval_cases d <;> rfl

end WikiPivot.Text
