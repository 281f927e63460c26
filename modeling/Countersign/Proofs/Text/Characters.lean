import Countersign.Text.Basic
/-! Laws about bytes and characters that are checked one by one. -/

namespace Countersign.Text

theorem of_every_byte {P : UInt8 → Prop} (h : ∀ n < 256, P (.ofNat n)) (b : UInt8) : P b := by
  rw [← UInt8.ofNat_toNat (x := b)]
  exact h b.toNat b.toNat_lt

/-- Only capitals are changed, and into small letters. -/
theorem eq_of_toLower {c d : Char} (hc : c.toNat < 97) (h : d.toLower = c) : d = c := by
  unfold Char.toLower at h
  split at h
  · next hd =>
    have hval : (d.val + 32).toNat = c.toNat := by rw [← h]; rfl
    have hlow : 65 ≤ d.val.toNat := hd.1
    have hhigh : d.val.toNat ≤ 90 := hd.2
    rw [UInt32.toNat_add] at hval
    have h32 : (32 : UInt32).toNat = 32 := rfl
    omega
  · exact h

/-- What lower case changes is a capital. -/
theorem toLower_eq_or_capital (c : Char) :
    c.toLower = c ∨ ∃ n < 26, c = Char.ofNat ('A'.toNat + n) := by
  by_cases hc : c.val ≥ 'A'.val ∧ c.val ≤ 'Z'.val
  · have hlow : 65 ≤ c.toNat := hc.1
    have hhigh : c.toNat ≤ 90 := hc.2
    have hA : 'A'.toNat = 65 := rfl
    refine .inr ⟨c.toNat - 65, by omega, ?_⟩
    rw [hA, Nat.add_sub_cancel' hlow, Char.ofNat_toNat]
  · exact .inl (dif_neg hc)

/-- What no capital tells from its small letter, lower case does not change. -/
theorem apply_toLower {p : Char → Bool}
    (h : ∀ n < 26, p (Char.ofNat ('A'.toNat + n)).toLower = p (Char.ofNat ('A'.toNat + n)))
    (c : Char) : p c.toLower = p c := by
  rcases toLower_eq_or_capital c with hsame | ⟨n, hn, rfl⟩
  · rw [hsame]
  · exact h n hn

/-- A small letter is no capital. -/
theorem toLower_toLower (c : Char) : c.toLower.toLower = c.toLower := by
  by_cases hc : c.val ≥ 'A'.val ∧ c.val ≤ 'Z'.val
  · have hval : c.toLower.val.toNat = c.val.toNat + 32 := by
      have hlow : 65 ≤ c.val.toNat := hc.1
      have hhigh : c.val.toNat ≤ 90 := hc.2
      have hgap : ('a'.val - 'A'.val).toNat = 32 := rfl
      unfold Char.toLower
      rw [dif_pos hc, UInt32.toNat_add, hgap]
      omega
    refine dif_neg ?_
    rintro ⟨-, h⟩
    have hlow : 65 ≤ c.val.toNat := hc.1
    have hhigh : c.toLower.val.toNat ≤ 90 := h
    omega
  · have hsame : c.toLower = c := dif_neg hc
    rw [hsame, hsame]

/-- Letters and digits are visible ASCII. -/
theorem toNat_of_isAlphanum {c : Char} (h : c.isAlphanum = true) :
    48 ≤ c.toNat ∧ c.toNat ≤ 122 := by
  unfold Char.isAlphanum Char.isAlpha Char.isUpper Char.isLower Char.isDigit at h
  simp only [Bool.or_eq_true, Bool.and_eq_true, decide_eq_true_eq, UInt32.le_iff_toNat_le,
    ge_iff_le] at h
  have hA : 'A'.val.toNat = 65 ∧ 'Z'.val.toNat = 90 := by decide
  have ha : 'a'.val.toNat = 97 ∧ 'z'.val.toNat = 122 := by decide
  have h0 : '0'.val.toNat = 48 ∧ '9'.val.toNat = 57 := by decide
  have hc : c.toNat = c.val.toNat := rfl
  omega

theorem isUpper_iff {c : Char} : c.isUpper = true ↔ ∃ n < 26, c = Char.ofNat ('A'.toNat + n) := by
  constructor
  · intro h
    have hrange : 65 ≤ c.toNat ∧ c.toNat ≤ 90 := by
      unfold Char.isUpper at h
      simpa [UInt32.le_iff_toNat_le] using h
    have hA : 'A'.toNat = 65 := rfl
    refine ⟨c.toNat - 65, by omega, ?_⟩
    rw [hA, Nat.add_sub_cancel' hrange.1, Char.ofNat_toNat]
  · rintro ⟨n, hn, rfl⟩
    have hall : ∀ n < 26, (Char.ofNat ('A'.toNat + n)).isUpper = true := by decide
    exact hall n hn

theorem isUpper_toLower (c : Char) : c.toLower.isUpper = false := by
  have hchanged : ∀ n < 26, (Char.ofNat ('A'.toNat + n)).toLower ≠ Char.ofNat ('A'.toNat + n) := by
    decide
  rw [Bool.eq_false_iff]
  intro hupper
  obtain ⟨n, hn, hc⟩ := isUpper_iff.1 hupper
  refine hchanged n hn ?_
  rw [← hc, toLower_toLower]

theorem lower_of_small {t : Text} (h : ∀ c ∈ t, c.isUpper = false) : lower t = t := by
  refine (List.map_congr_left fun c hc => ?_).trans (List.map_id t)
  rcases toLower_eq_or_capital c with hsame | hcapital
  · exact hsame
  · exact absurd (isUpper_iff.2 hcapital) (Bool.eq_false_iff.1 (h c hc))

theorem lower_lower (t : Text) : lower (lower t) = lower t :=
  (List.map_map ..).trans (List.map_congr_left fun c _ => toLower_toLower c)

theorem not_mem_lower {c : Char} {t : Text} (hc : c.toNat < 97) (h : c ∉ t) : c ∉ lower t := by
  intro hmem
  obtain ⟨d, hd, hdc⟩ := List.mem_map.1 hmem
  exact h (eq_of_toLower hc hdc ▸ hd)

end Countersign.Text
