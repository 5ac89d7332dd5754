import TraceFields.Proofs.IdentityHeaders

namespace TraceFields.Identity

open Numeral
open Traceparent (isLowerHex)

structure IdForm (text : Int → String) (width bits : Nat) : Prop where
  read_text : ∀ n, readId (some (text n)) = .ok n
  fits : ∀ n, 0 ≤ n → n < 2 ^ bits →
    (text n).toList.length = width ∧ (text n).toList.all isLowerHex = true
  longer : ∀ n, 2 ^ bits ≤ n → width < (text n).toList.length
  text_read : ∀ s : String, s.toList.length = width → s.toList.all isLowerHex = true →
    ∃ n, readId (some s) = .ok n ∧ text n = s ∧ 0 ≤ n ∧ n < 2 ^ bits

lemma two_pow_bits (width : Nat) : (2 : Int) ^ (4 * width) = ((16 ^ width : Nat) : Int) := by
  rw [pow_mul]
  norm_cast

lemma idForm_write {width : Nat} (hw : 0 < width) : IdForm (Hex.write width) width (4 * width) where
  read_text n := readId_of_read? (Hex.read?_write width n)
  fits n hpos hlt := by
    obtain ⟨m, rfl⟩ := Int.eq_ofNat_of_zero_le hpos
    rw [two_pow_bits, Int.ofNat_lt] at hlt
    rw [Hex.write, String.toList_ofList]
    exact ⟨Hex.length_chars hw hlt, Hex.all_lowerHex_chars⟩
  longer n hle := by
    rw [two_pow_bits] at hle
    obtain ⟨m, rfl⟩ := Int.eq_ofNat_of_zero_le (le_trans (Int.natCast_nonneg _) hle)
    rw [Hex.write, String.toList_ofList]
    exact Hex.lt_length_chars (Int.ofNat_le.1 hle)
  text_read s hl hs := by
    have hne : s.toList ≠ [] := List.ne_nil_of_length_pos (hl ▸ hw)
    have hread := Hex.read?_lowerHex hs hne
    rw [String.ofList_toList] at hread
    refine ⟨_, readId_of_read? hread, ?_, Int.natCast_nonneg _, ?_⟩
    · rw [← hl, Hex.write, Hex.chars_value hs (hl ▸ hw), String.ofList_toList]
    · rw [two_pow_bits, Int.ofNat_lt, ← hl]
      exact Hex.value_lt hs

theorem ids_convert : IdForm traceIdText 32 128 ∧ IdForm spanIdText 16 64 :=
  ⟨idForm_write (by decide), idForm_write (by decide)⟩

end TraceFields.Identity
