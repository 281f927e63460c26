import Countersign.Proofs.Text.Trimming
/-! A number is read back from its digits. -/

namespace Countersign.Text.Decimal

variable {bound n : Nat} {t : Text}

theorem value_render (n : Nat) : value (render n) = n := by
  have hfold : value (render n) = Nat.ofDigitChars 10 (render n) 0 := by
    rw [value, Nat.ofDigitChars_eq_foldl]
    refine congrArg (fun f => (render n).foldl f 0) (funext fun m => funext fun c => ?_)
    rw [Nat.mul_comm]
    rfl
  rw [hfold, render, Nat.ofDigitChars_toDigits (by decide) (by decide)]

theorem isDigit_of_mem_render {c : Char} (h : c ∈ render n) : isDigit c = true := by
  have hdigit := Nat.isDigit_of_mem_toDigits (by decide) (by decide) h
  simpa [isDigit, Char.isDigit, Char.le_def] using hdigit

theorem trim_render (n : Nat) : trim (render n) = render n :=
  trim_of_trimmed (trimmed_of_free fun _ hc => isBlank_of_isDigit (isDigit_of_mem_render hc))

/-- A text without a sign is read whole. -/
theorem read?_unsigned (h : '+' ∉ t) : read? bound t =
    if t ≠ [] ∧ t.all isDigit ∧ value t < bound then some (value t) else none := by
  unfold read?
  extract_lets digits
  have hdigits : digits = t := by
    dsimp only [digits]
    split
    · exact absurd List.mem_cons_self h
    · rfl
  simp only [hdigits]

theorem read?_render (h : n < bound) : read? bound (render n) = some n := by
  have hunsigned : '+' ∉ render n := fun hplus => absurd (isDigit_of_mem_render hplus) (by decide)
  have hall : (render n).all isDigit = true :=
    List.all_eq_true.2 fun _ hc => isDigit_of_mem_render hc
  rw [read?_unsigned hunsigned, value_render, if_pos ⟨Nat.toDigits_ne_nil, hall, h⟩]

theorem lt_of_read? (h : read? bound t = some n) : n < bound := by
  unfold read? at h
  obtain ⟨⟨-, -, hlt⟩, hn⟩ := Option.ite_none_right_eq_some.1 h
  exact Option.some.inj hn ▸ hlt

end Countersign.Text.Decimal
