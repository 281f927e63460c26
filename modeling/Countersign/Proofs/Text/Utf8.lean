import Countersign.Text.Utf8
/-! UTF-8 written and read back. What was written is read as it was, whatever follows;
and bytes that are read without damage are what writing makes of the text read. -/

namespace Countersign.Text.Utf8

/-- The number that a pending character comes to when `bs` follows. -/
def Pending.value (p : Pending) (bs : Bytes) : Nat :=
  bs.foldl (fun n b => n * 64 + (b.toNat - 0x80)) p.bits

/-- `bs` is all that a pending character waits for. -/
def Pending.Completed (p : Pending) : Bytes → Prop
  | [] => False
  | b :: bs => (p.lo ≤ b.toNat ∧ b.toNat ≤ p.hi) ∧ bs.length + 1 = p.more ∧
      ∀ c ∈ bs, 0x80 ≤ c.toNat ∧ c.toNat ≤ 0xbf

variable {p : Pending} {b : UInt8} {bs rest : Bytes}

/-- The pending character after one more byte in range. -/
def Pending.next (p : Pending) (b : UInt8) : Pending :=
  ⟨p.bits * 64 + (b.toNat - 0x80), p.more - 1, 0x80, 0xbf⟩

theorem Pending.more_next : (p.next b).more = p.more - 1 := rfl

theorem Pending.bits_next : (p.next b).bits = p.bits * 64 + (b.toNat - 0x80) := rfl

theorem Pending.value_nil : p.value [] = p.bits := rfl

theorem Pending.value_cons : p.value (b :: bs) = (p.next b).value bs := by
  unfold value next
  rw [List.foldl_cons]

theorem scan_last (h : p.lo ≤ b.toNat ∧ b.toNat ≤ p.hi) (hmore : p.more = 1) (bs : Bytes) :
    scan (some p) (b :: bs) = some (Char.ofNat (p.value [b])) :: scan none bs := by
  unfold Pending.value
  rw [scan, if_pos h, if_pos hmore, List.foldl_cons, List.foldl_nil]

theorem scan_more (h : p.lo ≤ b.toNat ∧ b.toNat ≤ p.hi) (hmore : p.more ≠ 1) (bs : Bytes) :
    scan (some p) (b :: bs) = scan (some (p.next b)) bs := by
  unfold Pending.next
  rw [scan, if_pos h, if_neg hmore]

theorem scan_completed (h : p.Completed bs) (rest : Bytes) :
    scan (some p) (bs ++ rest) = some (Char.ofNat (p.value bs)) :: scan none rest := by
  induction bs generalizing p with
  | nil => exact h.elim
  | cons b bs ih =>
    obtain ⟨hb, hlen, hbs⟩ := h
    cases bs with
    | nil => exact scan_last hb hlen.symm rest
    | cons c bs =>
      rw [List.cons_append, scan_more hb (by rw [← hlen]; simp), Pending.value_cons]
      refine ih ⟨hbs c (by simp), ?_, fun d hd => hbs d (by simp [hd])⟩
      rw [Pending.more_next, ← hlen, List.length_cons, Nat.add_sub_cancel]

/-- Where reading meets no damage, the pending character is completed. -/
theorem completed_of_scan (hmore : p.more ≠ 0) (h : none ∉ scan (some p) bs) :
    ∃ front rest, bs = front ++ rest ∧ p.Completed front := by
  induction bs generalizing p with
  | nil => simp [scan] at h
  | cons b bs ih =>
    by_cases hb : p.lo ≤ b.toNat ∧ b.toNat ≤ p.hi
    · by_cases hone : p.more = 1
      · exact ⟨[b], bs, rfl, hb, hone.symm, nofun⟩
      · rw [scan_more hb hone] at h
        have hnext : (p.next b).more ≠ 0 := by
          rw [Pending.more_next]
          omega
        obtain ⟨front, rest, rfl, hc⟩ := ih hnext h
        cases front with
        | nil => exact hc.elim
        | cons c front =>
          obtain ⟨hc, hlen, hfront⟩ := hc
          refine ⟨b :: c :: front, rest, rfl, hb, ?_, List.forall_mem_cons.2 ⟨hc, hfront⟩⟩
          rw [Pending.more_next] at hlen
          rw [List.length_cons, hlen]
          omega
    · rw [scan, if_neg hb] at h
      split at h <;> simp at h

theorem scan_some_ne_nil (p : Pending) (bs : Bytes) : scan (some p) bs ≠ [] := by
  induction bs generalizing p with
  | nil => simp [scan]
  | cons b bs ih =>
    by_cases hb : p.lo ≤ b.toNat ∧ b.toNat ≤ p.hi
    · by_cases hone : p.more = 1
      · simp [scan_last hb hone]
      · rw [scan_more hb hone]
        exact ih _
    · rw [scan, if_neg hb]
      split <;> simp

/-- Damaged or not, bytes are read as some text. -/
theorem decodeLossy_eq_nil : decodeLossy bs = [] ↔ bs = [] := by
  refine ⟨fun h => ?_, fun h => h ▸ rfl⟩
  cases bs with
  | nil => rfl
  | cons b bs =>
    have hscan : scan none (b :: bs) ≠ [] := by
      rw [scan]
      split
      · simp
      · exact scan_some_ne_nil _ bs
      · simp
    exact absurd (List.map_eq_nil_iff.1 h) hscan

/-! ## One character -/

theorem encodeChar_ne_nil (c : Char) : encodeChar c ≠ [] := by
  simp only [encodeChar]
  repeat' split
  all_goals exact List.cons_ne_nil _ _

theorem toNat_ofNat {n : Nat} (h : n.isValidChar) : (Char.ofNat n).toNat = n := by
  rw [Char.ofNat, dif_pos h]
  rfl

theorem ofNat_eq {n : Nat} (h : n = b.toNat) : UInt8.ofNat n = b := by
  rw [h, UInt8.ofNat_toNat]

theorem encodeChar_two {a b : UInt8} {x : Nat} (ha : a.toNat = 0xc0 + x) (hlong : 2 ≤ x)
    (hx : x < 32) (hb : 0x80 ≤ b.toNat ∧ b.toNat ≤ 0xbf) :
    encodeChar (.ofNat (x * 64 + (b.toNat - 0x80))) = [a, b] := by
  generalize hn : x * 64 + (b.toNat - 0x80) = n
  simp only [encodeChar, toNat_ofNat (.inl (show n < 0xd800 by omega))]
  rw [if_neg (by omega), if_pos (by omega), ofNat_eq (b := a) (by omega),
    ofNat_eq (b := b) (by omega)]

theorem encodeChar_three {a b c : UInt8} {x : Nat} (ha : a.toNat = 0xe0 + x)
    (hb : 0x80 ≤ b.toNat ∧ b.toNat ≤ 0xbf) (hc : 0x80 ≤ c.toNat ∧ c.toNat ≤ 0xbf)
    (hx : x < 16) (hlong : x = 0 → 0xa0 ≤ b.toNat) (hpair : x = 13 → b.toNat ≤ 0x9f) :
    encodeChar (.ofNat ((x * 64 + (b.toNat - 0x80)) * 64 + (c.toNat - 0x80))) = [a, b, c] := by
  generalize hn : (x * 64 + (b.toNat - 0x80)) * 64 + (c.toNat - 0x80) = n
  have hvalid : n.isValidChar := by
    unfold Nat.isValidChar
    omega
  simp only [encodeChar, toNat_ofNat hvalid]
  rw [if_neg (by omega), if_neg (by omega), if_pos (by omega), ofNat_eq (b := a) (by omega),
    ofNat_eq (b := b) (by omega), ofNat_eq (b := c) (by omega)]

theorem encodeChar_four {a b c d : UInt8} {x : Nat} (ha : a.toNat = 0xf0 + x)
    (hb : 0x80 ≤ b.toNat ∧ b.toNat ≤ 0xbf) (hc : 0x80 ≤ c.toNat ∧ c.toNat ≤ 0xbf)
    (hd : 0x80 ≤ d.toNat ∧ d.toNat ≤ 0xbf)
    (hx : x ≤ 4) (hlong : x = 0 → 0x90 ≤ b.toNat) (hlast : x = 4 → b.toNat ≤ 0x8f) :
    encodeChar (.ofNat (((x * 64 + (b.toNat - 0x80)) * 64 + (c.toNat - 0x80)) * 64 +
      (d.toNat - 0x80))) = [a, b, c, d] := by
  generalize hn : ((x * 64 + (b.toNat - 0x80)) * 64 + (c.toNat - 0x80)) * 64 + (d.toNat - 0x80) = n
  have hvalid : n.isValidChar := by
    unfold Nat.isValidChar
    omega
  simp only [encodeChar, toNat_ofNat hvalid]
  rw [if_neg (by omega), if_neg (by omega), if_neg (by omega), ofNat_eq (b := a) (by omega),
    ofNat_eq (b := b) (by omega), ofNat_eq (b := c) (by omega), ofNat_eq (b := d) (by omega)]

/-- What a byte may open: a character of two, three or four bytes, its first bits and
the range of the next byte. -/
inductive Opens (b : UInt8) (p : Pending) : Prop
  | two (more : p.more = 1) (bits : b.toNat = 0xc0 + p.bits) (long : 2 ≤ p.bits)
      (short : p.bits < 32) (lo : 0x80 ≤ p.lo) (hi : p.hi ≤ 0xbf)
  | three (more : p.more = 2) (bits : b.toNat = 0xe0 + p.bits) (short : p.bits < 16)
      (lo : 0x80 ≤ p.lo) (hi : p.hi ≤ 0xbf) (long : p.bits = 0 → 0xa0 ≤ p.lo)
      (pair : p.bits = 13 → p.hi ≤ 0x9f)
  | four (more : p.more = 3) (bits : b.toNat = 0xf0 + p.bits) (short : p.bits ≤ 4)
      (lo : 0x80 ≤ p.lo) (hi : p.hi ≤ 0xbf) (long : p.bits = 0 → 0x90 ≤ p.lo)
      (last : p.bits = 4 → p.hi ≤ 0x8f)

theorem Opens.more_ne_zero (h : Opens b p) : p.more ≠ 0 := by
  cases h <;> omega

theorem opens_of_lead (h : lead b = .opens p) : Opens b p := by
  simp only [lead] at h
  split at h
  · cases h
  split at h
  · cases h
  split at h
  · obtain rfl := Lead.opens.inj h
    constructor <;> simp only <;> omega
  split at h
  · obtain rfl := Lead.opens.inj h
    apply Opens.three <;> simp only <;> omega
  split at h
  · obtain rfl := Lead.opens.inj h
    apply Opens.three <;> simp only <;> omega
  split at h
  · obtain rfl := Lead.opens.inj h
    apply Opens.three <;> simp only <;> omega
  split at h
  · obtain rfl := Lead.opens.inj h
    apply Opens.four <;> simp only <;> omega
  split at h
  · obtain rfl := Lead.opens.inj h
    apply Opens.four <;> simp only <;> omega
  split at h
  · obtain rfl := Lead.opens.inj h
    apply Opens.four <;> simp only <;> omega
  · cases h

/-- Bytes that open a character and complete it are the bytes of that character. -/
theorem encodeChar_of_opens (h : Opens b p) (hc : p.Completed bs) :
    encodeChar (.ofNat (p.value bs)) = b :: bs := by
  cases h with
  | two more bits long short lo hi =>
    match bs, hc with
    | [c], ⟨hc, _, _⟩ =>
      rw [Pending.value_cons, Pending.value_nil, Pending.bits_next]
      exact encodeChar_two bits long short (by omega)
    | _ :: _ :: _, ⟨_, hlen, _⟩ => simp [more] at hlen
  | three more bits short lo hi long pair =>
    match bs, hc with
    | [_], ⟨_, hlen, _⟩ => simp [more] at hlen
    | [c, d], ⟨hc, _, hd⟩ =>
      rw [Pending.value_cons, Pending.value_cons, Pending.value_nil, Pending.bits_next,
        Pending.bits_next]
      exact encodeChar_three bits (by omega) (hd d (by simp)) short (by omega) (by omega)
    | _ :: _ :: _ :: _, ⟨_, hlen, _⟩ => simp [more] at hlen
  | four more bits short lo hi long last =>
    match bs, hc with
    | [_], ⟨_, hlen, _⟩ => simp [more] at hlen
    | [_, _], ⟨_, hlen, _⟩ => simp [more] at hlen
    | [c, d, e], ⟨hc, _, hde⟩ =>
      rw [Pending.value_cons, Pending.value_cons, Pending.value_cons, Pending.value_nil,
        Pending.bits_next, Pending.bits_next, Pending.bits_next]
      exact encodeChar_four bits (by omega) (hde d (by simp)) (hde e (by simp)) short (by omega)
        (by omega)
    | _ :: _ :: _ :: _ :: _, ⟨_, hlen, _⟩ => simp [more] at hlen

theorem encodeChar_of_char {c : Char} (h : lead b = .char c) : encodeChar c = [b] := by
  simp only [lead] at h
  split at h
  · next hb =>
    obtain rfl := Lead.char.inj h
    simp only [encodeChar, toNat_ofNat (.inl (show b.toNat < 0xd800 by omega))]
    rw [if_pos hb, UInt8.ofNat_toNat]
  repeat' (split at h; cases h)
  cases h

theorem lead_two {x : Nat} (hb : b.toNat = 0xc0 + x) (hlong : 2 ≤ x) (hx : x < 32) :
    lead b = .opens ⟨x, 1, 0x80, 0xbf⟩ := by
  simp only [lead, hb]
  rw [if_neg (by omega), if_neg (by omega), if_pos (by omega), Nat.add_sub_cancel_left]

theorem lead_three {x y : Nat} (hb : b.toNat = 0xe0 + x) (hx : x < 16) (hlo : 0x80 ≤ y)
    (hhi : y ≤ 0xbf) (hlong : x = 0 → 0xa0 ≤ y) (hpair : x = 13 → y ≤ 0x9f) :
    ∃ p, lead b = .opens p ∧ p.more = 2 ∧ p.bits = x ∧ p.lo ≤ y ∧ y ≤ p.hi := by
  simp only [lead, hb]
  rw [if_neg (by omega), if_neg (by omega), if_neg (by omega)]
  by_cases h₀ : x = 0
  · exact ⟨⟨0, 2, 0xa0, 0xbf⟩, by simp [h₀], rfl, h₀.symm, hlong h₀, hhi⟩
  · by_cases h₁ : x = 13
    · exact ⟨⟨13, 2, 0x80, 0x9f⟩, by simp [h₁], rfl, h₁.symm, hlo, hpair h₁⟩
    · refine ⟨⟨x, 2, 0x80, 0xbf⟩, ?_, rfl, rfl, hlo, hhi⟩
      rw [if_neg (by omega), if_neg (by omega), if_pos (by omega), Nat.add_sub_cancel_left]

theorem lead_four {x y : Nat} (hb : b.toNat = 0xf0 + x) (hx : x ≤ 4) (hlo : 0x80 ≤ y)
    (hhi : y ≤ 0xbf) (hlong : x = 0 → 0x90 ≤ y) (hlast : x = 4 → y ≤ 0x8f) :
    ∃ p, lead b = .opens p ∧ p.more = 3 ∧ p.bits = x ∧ p.lo ≤ y ∧ y ≤ p.hi := by
  simp only [lead, hb]
  rw [if_neg (by omega), if_neg (by omega), if_neg (by omega), if_neg (by omega),
    if_neg (by omega), if_neg (by omega)]
  by_cases h₀ : x = 0
  · exact ⟨⟨0, 3, 0x90, 0xbf⟩, by simp [h₀], rfl, h₀.symm, hlong h₀, hhi⟩
  · by_cases h₁ : x = 4
    · exact ⟨⟨4, 3, 0x80, 0x8f⟩, by simp [h₁], rfl, h₁.symm, hlo, hlast h₁⟩
    · refine ⟨⟨x, 3, 0x80, 0xbf⟩, ?_, rfl, rfl, hlo, hhi⟩
      rw [if_neg (by omega), if_pos (by omega), Nat.add_sub_cancel_left]

theorem toNat_byte {n : Nat} (h : n < 256) : (UInt8.ofNat n).toNat = n :=
  UInt8.toNat_ofNat_of_lt' h

/-- Every character is one byte that stands for it, or a byte that opens it and bytes
that complete it. -/
theorem encodeChar_cases (c : Char) :
    (∃ b, encodeChar c = [b] ∧ lead b = .char c) ∨
    ∃ b p bs, encodeChar c = b :: bs ∧ lead b = .opens p ∧ p.Completed bs ∧
      Char.ofNat (p.value bs) = c := by
  have hvalid : c.toNat < 0xd800 ∨ 0xdfff < c.toNat ∧ c.toNat < 0x110000 := c.valid
  unfold encodeChar
  generalize hn : c.toNat = n at hvalid
  have hc : Char.ofNat n = c := by rw [← hn, Char.ofNat_toNat]
  -- One case for each length; in the last two the range of the second byte depends on the first.
  simp only
  split
  · next h =>
    refine .inl ⟨_, rfl, ?_⟩
    simp only [lead, toNat_byte (show n < 256 by omega)]
    rw [if_pos h, hc]
  split
  · next h₁ h₂ =>
    have hb := toNat_byte (show 0xc0 + n / 64 < 256 by omega)
    have hx := toNat_byte (show 0x80 + n % 64 < 256 by omega)
    refine .inr ⟨_, _, _, rfl, lead_two hb (by omega) (by omega), ⟨?_, rfl, nofun⟩, ?_⟩
    · simp only [hx]
      omega
    · rw [Pending.value_cons, Pending.value_nil, Pending.bits_next, hx, ← hc]
      refine congrArg Char.ofNat ?_
      simp only
      omega
  split
  · next h₁ h₂ h₃ =>
    have hb := toNat_byte (show 0xe0 + n / 4096 < 256 by omega)
    have hx := toNat_byte (show 0x80 + n / 64 % 64 < 256 by omega)
    have hy := toNat_byte (show 0x80 + n % 64 < 256 by omega)
    obtain ⟨p, hp, hmore, hbits, hlo, hhi⟩ := lead_three (y := 0x80 + n / 64 % 64) hb (by omega)
      (by omega) (by omega) (by omega) (by omega)
    refine .inr ⟨_, p, _, rfl, hp, ⟨?_, hmore.symm, ?_⟩, ?_⟩
    · rw [hx]
      exact ⟨hlo, hhi⟩
    · simp only [List.mem_singleton, forall_eq, hy]
      omega
    · rw [Pending.value_cons, Pending.value_cons, Pending.value_nil, Pending.bits_next,
        Pending.bits_next, hx, hy, hbits, ← hc]
      refine congrArg Char.ofNat ?_
      omega
  · next h₁ h₂ h₃ =>
    have hb := toNat_byte (show 0xf0 + n / 262144 < 256 by omega)
    have hx := toNat_byte (show 0x80 + n / 4096 % 64 < 256 by omega)
    have hy := toNat_byte (show 0x80 + n / 64 % 64 < 256 by omega)
    have hz := toNat_byte (show 0x80 + n % 64 < 256 by omega)
    obtain ⟨p, hp, hmore, hbits, hlo, hhi⟩ := lead_four (y := 0x80 + n / 4096 % 64) hb (by omega)
      (by omega) (by omega) (by omega) (by omega)
    refine .inr ⟨_, p, _, rfl, hp, ⟨?_, hmore.symm, ?_⟩, ?_⟩
    · rw [hx]
      exact ⟨hlo, hhi⟩
    · simp only [List.forall_mem_cons, hy, hz]
      exact ⟨by omega, by omega, nofun⟩
    · rw [Pending.value_cons, Pending.value_cons, Pending.value_cons, Pending.value_nil,
        Pending.bits_next, Pending.bits_next, Pending.bits_next, hx, hy, hz, hbits, ← hc]
      refine congrArg Char.ofNat ?_
      omega

/-! ## Texts -/

theorem scan_encodeChar (c : Char) (bs : Bytes) :
    scan none (encodeChar c ++ bs) = some c :: scan none bs := by
  rcases encodeChar_cases c with ⟨b, hb, hlead⟩ | ⟨b, p, cs, hb, hlead, hcs, hc⟩
  · rw [hb, List.singleton_append, scan, hlead]
  · rw [hb, List.cons_append, scan, hlead]
    simp only
    rw [scan_completed hcs, hc]

/-- What was written is read as it was, whatever follows. -/
theorem scan_encode (t : Text) (bs : Bytes) :
    scan none (encode t ++ bs) = t.map some ++ scan none bs := by
  induction t with
  | nil => rfl
  | cons c t ih =>
    rw [encode, List.flatMap_cons, ← encode, List.append_assoc, scan_encodeChar, ih]
    rfl

theorem encode_cons (c : Char) (t : Text) : encode (c :: t) = encodeChar c ++ encode t :=
  List.flatMap_cons

theorem encode_append (s t : Text) : encode (s ++ t) = encode s ++ encode t := List.flatMap_append

theorem decodeLossy_encode_append (t : Text) (bs : Bytes) :
    decodeLossy (encode t ++ bs) = t ++ decodeLossy bs := by
  simp [decodeLossy, scan_encode, Function.comp_def]

theorem decodeLossy_encode (t : Text) : decodeLossy (encode t) = t := by
  have h := decodeLossy_encode_append t []
  rwa [List.append_nil, show decodeLossy [] = [] from rfl, List.append_nil] at h

theorem decode?_encode (t : Text) : decode? (encode t) = some t := by
  have hscan := scan_encode t []
  rw [List.append_nil, show scan none [] = [] from rfl, List.append_nil] at hscan
  rw [decode?, hscan, List.mapM_map]
  exact List.mapM_pure.trans (congrArg some (List.map_id t))

theorem encode_inj {s t : Text} : encode s = encode t ↔ s = t := by
  refine ⟨fun h => ?_, congrArg encode⟩
  rw [← decodeLossy_encode s, h, decodeLossy_encode]

/-- Bytes that are read without damage are a written text. -/
theorem exists_encode_of_scan (bs : Bytes) (h : none ∉ scan none bs) : ∃ t, bs = encode t := by
  match bs with
  | [] => exact ⟨[], rfl⟩
  | b :: bs =>
    rw [scan] at h
    split at h
    · next c hlead =>
      obtain ⟨t, ht⟩ := exists_encode_of_scan bs (by simpa using h)
      exact ⟨c :: t, by rw [encode_cons, encodeChar_of_char hlead, ← ht, List.singleton_append]⟩
    · next p hlead =>
      have hopens := opens_of_lead hlead
      obtain ⟨front, rest, rfl, hc⟩ := completed_of_scan hopens.more_ne_zero h
      rw [scan_completed hc] at h
      obtain ⟨t, ht⟩ := exists_encode_of_scan rest (by simpa using h)
      refine ⟨.ofNat (p.value front) :: t, ?_⟩
      rw [encode_cons, encodeChar_of_opens hopens hc, ← ht, List.cons_append]
    · simp at h
termination_by bs.length

/-- A text without the replacement character was read from the bytes of that text only. -/
theorem eq_encode_of_decodeLossy {bs : Bytes} (h : '\uFFFD' ∉ decodeLossy bs) :
    bs = encode (decodeLossy bs) := by
  obtain ⟨t, rfl⟩ := exists_encode_of_scan bs fun hnone =>
    h (List.mem_map.2 ⟨none, hnone, rfl⟩)
  rw [decodeLossy_encode]

end Countersign.Text.Utf8
