import Countersign.Proofs.Text.Characters
import Countersign.Proofs.Text.Utf8
import Countersign.Text.Percent
/-! Percent-escapes written and read back. Two components have one spelling exactly when
they spell the same text. A text comes from its own bytes only, unless it holds the
replacement character, which damaged bytes are read as. -/

namespace Countersign.Text.Percent

variable {t : Text} {c : Char}

theorem decode_cons (hc : c ≠ '%') (t : Text) : decode (c :: t) = Utf8.encodeChar c ++ decode t := by
  match t with
  | [] => simp [decode]
  | [_] => rfl
  | _ :: _ :: _ => rw [decode, if_neg hc]

theorem value?_digitUpper {n : Nat} (h : n < 16) : Hex.value? (Hex.digitUpper n) = some n := by
  have hall : ∀ n < 16, Hex.value? (Hex.digitUpper n) = some n := by decide
  exact hall n h

theorem decode_escape (b : UInt8) (t : Text) : decode (escape b ++ t) = b :: decode t := by
  have hb := b.toNat_lt
  rw [escape, List.cons_append, List.cons_append, List.cons_append, List.nil_append, decode,
    if_pos rfl, value?_digitUpper (show b.toNat / 16 < 16 by omega),
    value?_digitUpper (show b.toNat % 16 < 16 by omega)]
  simp only
  rw [Utf8.ofNat_eq (b := b) (by omega)]

theorem decode_encodeByte (b : UInt8) (t : Text) : decode (encodeByte b ++ t) = b :: decode t := by
  unfold encodeByte
  split
  · next h =>
    have hself : ∀ b, isUnreserved b = true →
        Char.ofNat b.toNat ≠ '%' ∧ Utf8.encodeChar (Char.ofNat b.toNat) = [b] :=
      of_every_byte (by decide +kernel)
    rw [List.singleton_append, decode_cons (hself b h).1, (hself b h).2, List.singleton_append]
  · exact decode_escape b t

theorem decode_encode (bs : Bytes) : decode (encode bs) = bs := by
  induction bs with
  | nil => rfl
  | cons b bs ih => rw [encode, List.flatMap_cons, ← encode, decode_encodeByte, ih]

theorem encode_inj {bs cs : Bytes} : encode bs = encode cs ↔ bs = cs := by
  refine ⟨fun h => ?_, congrArg encode⟩
  rw [← decode_encode bs, h, decode_encode]

/-- What no byte is written with stands nowhere in a spelling. -/
theorem not_mem_encode (h : ∀ b, c ∉ encodeByte b) (bs : Bytes) : c ∉ encode bs := by
  intro hmem
  obtain ⟨b, -, hc⟩ := List.mem_flatMap.1 hmem
  exact h b hc

/-! ## What a component spells -/

theorem spelled_encode (bs : Bytes) : spelled (encode bs) = Utf8.decodeLossy bs := by
  rw [spelled, decode_encode]

theorem decode_eq_nil : decode t = [] ↔ t = [] := by
  refine ⟨fun h => ?_, fun h => h ▸ rfl⟩
  match t with
  | [] => rfl
  | [c] => exact absurd h (Utf8.encodeChar_ne_nil c)
  | [c, d] => exact absurd (List.append_eq_nil_iff.1 h).1 (Utf8.encodeChar_ne_nil c)
  | c :: d :: e :: t =>
    rw [decode] at h
    split at h
    · split at h
      · cases h
      · exact absurd (List.append_eq_nil_iff.1 h).1 (Utf8.encodeChar_ne_nil c)
    · exact absurd (List.append_eq_nil_iff.1 h).1 (Utf8.encodeChar_ne_nil c)

/-- Only the empty component spells nothing. -/
theorem spelled_eq_nil : spelled t = [] ↔ t = [] := Utf8.decodeLossy_eq_nil.trans decode_eq_nil

/-- A text without the replacement character is spelled by its own bytes only. -/
theorem decode_eq_of_spelled (h : '\uFFFD' ∉ spelled t) : decode t = Utf8.encode (spelled t) :=
  Utf8.eq_encode_of_decodeLossy h

/-- Any other text is spelled by other bytes as well: the replacement character may be
written as itself, or as a byte that begins no character. -/
theorem exists_companion (h : '\uFFFD' ∈ spelled t) :
    ∃ bs, spelled (encode bs) = spelled t ∧ bs ≠ decode t := by
  obtain ⟨u, v, huv⟩ := List.append_of_mem h
  have hself : Utf8.decodeLossy (Utf8.encode (spelled t)) = spelled t := Utf8.decodeLossy_encode _
  have hstray : Utf8.decodeLossy (Utf8.encode u ++ 0xff :: Utf8.encode v) = spelled t := by
    have hread : Utf8.decodeLossy (0xff :: Utf8.encode v) =
        '\uFFFD' :: Utf8.decodeLossy (Utf8.encode v) := rfl
    rw [Utf8.decodeLossy_encode_append, hread, Utf8.decodeLossy_encode, huv]
  -- Where the bytes are those of the text itself, the stray byte is what is needed.
  by_cases hbytes : decode t = Utf8.encode (spelled t)
  · refine ⟨_, (spelled_encode _).trans hstray, ?_⟩
    rw [hbytes, huv, Utf8.encode_append]
    intro heq
    have htail := List.append_cancel_left heq
    rw [Utf8.encode_cons, show Utf8.encodeChar '\uFFFD' = [0xef, 0xbf, 0xbd] from rfl] at htail
    exact absurd (List.cons.inj htail).1 (by decide)
  · exact ⟨_, (spelled_encode _).trans hself, Ne.symm hbytes⟩

end Countersign.Text.Percent
