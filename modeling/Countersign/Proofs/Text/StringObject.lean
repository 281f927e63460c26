import Countersign.Text.StringObject
/-! An object of strings is read back from the way it is written: a string up to its closing
quote, whatever its characters are, a member up to the comma or the brace behind it, and the
object up to its end. -/

namespace Countersign.Text.StringObject

variable {t r : Text} {c e : Char} {members : List (Text × Text)}

/-! ## Characters -/

/-- A character is written as a letter or a mark behind a backslash, or, if it is another
control, with its code point, or else as itself. -/
theorem escape_cases (c : Char) :
    (∃ e, escape c = ['\\', e] ∧ plainEscape? e = some c) ∨
      (c.toNat < 0x20 ∧ escape c =
        ['\\', 'u', '0', '0', Hex.digit (c.toNat / 16), Hex.digit (c.toNat % 16)]) ∨
      (c ≠ '"' ∧ c ≠ '\\' ∧ 0x20 ≤ c.toNat ∧ escape c = [c]) := by
  unfold escape
  -- seven characters have a letter or a mark of their own
  iterate 7
    split
    · next h => exact .inl ⟨_, rfl, h ▸ rfl⟩
  split
  · next h => exact .inr (.inl ⟨h, rfl⟩)
  · next h => exact .inr (.inr ⟨‹_›, ‹_›, Nat.le_of_not_lt h, rfl⟩)

theorem readString_named (h : plainEscape? e = some c) (t : Text) :
    readString none ('\\' :: e :: t) = (readString none t).map fun (s, r) => (c :: s, r) := by
  have hu : e ≠ 'u' := by
    rintro rfl
    cases h
  simp [readString, h, hu]

/-- The two digits of a control are those of its code point, and no half of a pair. -/
theorem readString_control (h : c.toNat < 0x20) (t : Text) :
    readString none ('\\' :: 'u' :: '0' :: '0' :: Hex.digit (c.toNat / 16) ::
      Hex.digit (c.toNat % 16) :: t) = (readString none t).map fun (s, r) => (c :: s, r) := by
  have hunit : ∀ n < 0x20, unit? '0' '0' (Hex.digit (n / 16)) (Hex.digit (n % 16)) = some n := by
    decide
  have hlow : ¬ (0xd800 ≤ c.toNat ∧ c.toNat < 0xdc00) := by omega
  have hhigh : ¬ (0xdc00 ≤ c.toNat ∧ c.toNat < 0xe000) := by omega
  -- the rest stays unread
  conv =>
    lhs
    unfold readString
  simp only [hunit _ h, if_neg hlow, if_neg hhigh, Char.ofNat_toNat]

theorem readString_plain (hquote : c ≠ '"') (hslash : c ≠ '\\') (h : 0x20 ≤ c.toNat) (t : Text) :
    readString none (c :: t) = (readString none t).map fun (s, r) => (c :: s, r) := by
  simp [readString, hquote, hslash, Nat.not_lt.2 h]

theorem readString_escape (c : Char) (t : Text) : readString none (escape c ++ t) =
    (readString none t).map fun (s, r) => (c :: s, r) := by
  rcases escape_cases c with ⟨e, hescape, hc⟩ | ⟨hc, hescape⟩ | ⟨hquote, hslash, hc, hescape⟩
  · rw [hescape]
    exact readString_named hc t
  · rw [hescape]
    exact readString_control hc t
  · rw [hescape]
    exact readString_plain hquote hslash hc t

/-! ## Strings and members -/

theorem readQuoted_quote (t r : Text) : readQuoted (quote t ++ r) = some (t, r) := by
  have hread : readString none (t.flatMap escape ++ '"' :: r) = some (t, r) := by
    induction t with
    | nil => simp [readString]
    | cons c t ih =>
      rw [List.flatMap_cons, List.append_assoc, readString_escape, ih, Option.map_some]
  rwa [quote, List.append_assoc]

theorem skip_cons (h : isSpace c = false) (t : Text) : skip (c :: t) = c :: t :=
  List.dropWhile_cons_of_neg (by simp [h])

theorem skip_quote (t r : Text) : skip (quote t ++ r) = quote t ++ r := skip_cons rfl _

/-- A member as it is written. -/
def member (m : Text × Text) : Text := quote m.1 ++ ':' :: quote m.2

theorem readMembers_last (n : Nat) (m : Text × Text) (r : Text) :
    readMembers (n + 1) (member m ++ '\x7d' :: r) = some ([m], r) := by
  have hcolon : ∀ t, skip (':' :: t) = ':' :: t := fun t => skip_cons rfl t
  have hbrace : skip ('\x7d' :: r) = '\x7d' :: r := skip_cons rfl r
  rw [member, List.append_assoc, List.cons_append, readMembers, skip_quote, readQuoted_quote]
  simp only [bind, Option.bind, hcolon, skip_quote, readQuoted_quote, hbrace]
  rfl

theorem readMembers_more {n : Nat} {ms : List (Text × Text)} (h : readMembers n t = some (ms, r))
    (m : Text × Text) : readMembers (n + 1) (member m ++ ',' :: t) = some (m :: ms, r) := by
  have hcolon : ∀ t, skip (':' :: t) = ':' :: t := fun t => skip_cons rfl t
  have hcomma : skip (',' :: t) = ',' :: t := skip_cons rfl t
  rw [member, List.append_assoc, List.cons_append, readMembers, skip_quote, readQuoted_quote]
  simp only [bind, Option.bind, hcolon, skip_quote, readQuoted_quote, hcomma, h]

/-- The members are read up to the brace behind them, if they are allowed to be as many. -/
theorem readMembers_join {n : Nat} (hne : members ≠ []) (hn : members.length ≤ n) (r : Text) :
    readMembers n (join "," (members.map member) ++ '\x7d' :: r) = some (members, r) := by
  induction members generalizing n with
  | nil => exact absurd rfl hne
  | cons m ms ih =>
    obtain ⟨n, rfl⟩ := Nat.exists_eq_add_one_of_ne_zero (Nat.ne_zero_of_lt hn)
    cases ms with
    | nil => exact readMembers_last n m r
    | cons m' ms =>
      have hrest := ih (List.cons_ne_nil m' ms) (Nat.le_of_succ_le_succ hn)
      rw [List.map_cons, List.map_cons, join, List.append_assoc, List.append_assoc]
      exact readMembers_more hrest m

theorem length_le_join (members : List (Text × Text)) :
    members.length ≤ (join "," (members.map member)).length := by
  induction members with
  | nil => exact Nat.le_refl 0
  | cons m ms ih =>
    cases ms with
    | nil => exact Nat.succ_le_succ (Nat.zero_le _)
    | cons m' ms =>
      have hcomma : ",".toList.length = 1 := rfl
      rw [List.map_cons, List.map_cons, join, List.length_append, List.length_append,
        ← List.map_cons, List.length_cons]
      omega

/-- What is written is read. -/
theorem read?_render (members : List (Text × Text)) : read? (render members) = some members := by
  have hbrace : ∀ t, skip ('\x7b' :: t) = '\x7b' :: t := fun t => skip_cons rfl t
  have hrender : render members = '\x7b' :: (join "," (members.map member) ++ ['\x7d']) := rfl
  rw [hrender, read?, hbrace]
  cases members with
  | nil => rfl
  | cons m ms =>
    obtain ⟨t, ht⟩ : ∃ t, join "," ((m :: ms).map member) ++ ['\x7d'] = '"' :: t := by
      cases ms <;> exact ⟨_, rfl⟩
    have hlength : (m :: ms).length ≤ ('"' :: t).length := by
      rw [← ht, List.length_append]
      exact Nat.le_add_right_of_le (length_le_join _)
    have hread := readMembers_join (List.cons_ne_nil m ms) hlength []
    have hskip : skip ('"' :: t) = '"' :: t := skip_cons rfl t
    rw [ht] at hread ⊢
    simp only [hskip, hread]
    rfl

end Countersign.Text.StringObject
