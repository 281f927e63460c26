import Countersign.Http.Headers
import Countersign.Proofs.Text.Characters
import Countersign.Proofs.Text.Cutting
/-! Header values as texts: a text of tabs and visible ASCII may stand as a value, and
is read back from it. -/

namespace Countersign.Http

namespace Header

/-- A tab or a visible ASCII character. -/
def isTextChar (c : Char) : Bool := c == '\t' || (decide (' ' ≤ c) && decide (c ≤ '~'))

/-- A text that may stand as a value and is read back from it. -/
def IsText (t : Text) : Prop := ∀ c ∈ t, isTextChar c = true

instance (t : Text) : Decidable (IsText t) :=
  decidable_of_iff (t.all isTextChar = true) List.all_eq_true

theorem isText_append {s t : Text} : IsText (s ++ t) ↔ IsText s ∧ IsText t :=
  List.forall_mem_append

theorem isText_join {sep : Text} {qs : List Text} (hsep : IsText sep) :
    IsText (Text.join sep qs) ↔ ∀ q ∈ qs, IsText q := by
  constructor
  · exact fun h q hq c hc => h c (Text.mem_join_of_mem hq hc)
  · intro h c hc
    rcases Text.mem_join hc with hc | ⟨q, hq, hc⟩
    · exact hsep c hc
    · exact h q hq c hc

theorem isText_lower {t : Text} : IsText (Text.lower t) ↔ IsText t := by
  have hchar : ∀ c : Char, isTextChar c.toLower = isTextChar c := Text.apply_toLower (by decide)
  unfold IsText Text.lower
  rw [List.forall_mem_map]
  simp only [hchar]

theorem toNat_of_isTextChar {c : Char} (h : isTextChar c = true) :
    c.toNat = 9 ∨ 32 ≤ c.toNat ∧ c.toNat < 127 := by
  simp only [isTextChar, Bool.or_eq_true, beq_iff_eq, Bool.and_eq_true, decide_eq_true_eq] at h
  rcases h with rfl | ⟨h, h'⟩
  · exact .inl rfl
  · have h₁ : ' '.toNat ≤ c.toNat := h
    have h₂ : c.toNat ≤ '~'.toNat := h'
    exact .inr ⟨h₁, Nat.lt_succ_of_le h₂⟩

theorem isTextChar_of_byte (b : UInt8) :
    isTextChar (Char.ofNat b.toNat) = true ↔ isTextByte b = true :=
  Text.of_every_byte
    (P := fun b => isTextChar (.ofNat b.toNat) = true ↔ isTextByte b = true) (by decide +kernel) b

/-- What is read from a value may stand as one. -/
theorem isText_of_text? {v : Bytes} {t : Text} (h : text? v = some t) : IsText t := by
  unfold text? at h
  split at h
  · next hv =>
    obtain rfl := Option.some.inj h
    intro c hc
    obtain ⟨b, hb, rfl⟩ := List.mem_map.1 hc
    exact (isTextChar_of_byte b).2 (List.all_eq_true.1 hv b hb)
  · cases h

theorem encode_of_isText {t : Text} (h : IsText t) :
    Text.Utf8.encode t = t.map fun c => UInt8.ofNat c.toNat := by
  induction t with
  | nil => rfl
  | cons c t ih =>
    obtain ⟨hc, ht⟩ := List.forall_mem_cons.1 h
    have hlt : c.toNat < 0x80 := by
      have := toNat_of_isTextChar hc
      omega
    rw [Text.Utf8.encode, List.flatMap_cons, ← Text.Utf8.encode, ih ht, Text.Utf8.encodeChar,
      if_pos hlt]
    rfl

theorem byte_of_isTextChar {c : Char} (h : isTextChar c = true) :
    isTextByte (.ofNat c.toNat) = true ∧ isValueByte (.ofNat c.toNat) = true ∧
      Char.ofNat (UInt8.ofNat c.toNat).toNat = c := by
  have hnat := toNat_of_isTextChar h
  have hmod : (UInt8.ofNat c.toNat).toNat = c.toNat := by
    rw [UInt8.toNat_ofNat']
    omega
  refine ⟨?_, ?_, by rw [hmod, Char.ofNat_toNat]⟩
  all_goals
    simp only [isTextByte, isValueByte, UInt8.le_iff_toNat_le, UInt8.lt_iff_toNat_lt, hmod,
      ← UInt8.toNat_inj, beq_iff_eq, bne_iff_ne, Bool.or_eq_true, Bool.and_eq_true,
      decide_eq_true_eq, ne_eq]
    simp only [UInt8.reduceToNat]
    omega

/-- The value of a text is its bytes. -/
theorem eq_encode_of_value? {t : Text} {v : Bytes} (h : value? t = some v) :
    v = Text.Utf8.encode t :=
  (Option.some.inj (Option.ite_none_right_eq_some.1 h).2).symm

theorem value?_of_isText {t : Text} (h : IsText t) :
    ∃ v, value? t = some v ∧ text? v = some t := by
  have hvalue : (Text.Utf8.encode t).all isValueByte = true := by
    rw [encode_of_isText h, List.all_map, List.all_eq_true]
    exact fun c hc => (byte_of_isTextChar (h c hc)).2.1
  have htext : (Text.Utf8.encode t).all isTextByte = true := by
    rw [encode_of_isText h, List.all_map, List.all_eq_true]
    exact fun c hc => (byte_of_isTextChar (h c hc)).1
  refine ⟨_, if_pos hvalue, ?_⟩
  rw [text?, if_pos htext, encode_of_isText h, List.map_map]
  exact congrArg some ((List.map_congr_left fun c hc => (byte_of_isTextChar (h c hc)).2.2).trans
    (List.map_id t))

end Header

namespace Headers

variable {hs : Headers} {name other : Text} {v : Bytes}

theorem first?_set_self : (hs.set name v).first? name = some v := by
  rw [first?, values_set, if_pos rfl]
  rfl

theorem first?_set_other (h : name ≠ other) :
    (hs.set name v).first? other = hs.first? other := by
  rw [first?, values_set, if_neg h, first?]

theorem erase_set_self : (hs.set name v).erase name = hs.erase name := by
  simp [set, add, erase]

theorem erase_set_other (h : name ≠ other) :
    (hs.set name v).erase other = (hs.erase other).set name v := by
  simp only [set, add, erase, List.filter_append, List.filter_filter]
  congr 1
  · exact List.filter_congr fun x _ => Bool.and_comm ..
  · simp [h]

/-- Headers that differ in one name have the same values under any other. -/
theorem values_of_erase {hs' : Headers} (h : hs.erase name = hs'.erase name) (hne : other ≠ name) :
    hs.values other = hs'.values other := by
  have hvalues := congrArg (values · other) h
  simpa only [values_erase, if_neg hne] using hvalues

theorem set_of_erase {hs' : Headers} (h : hs.erase name = hs'.erase name) :
    hs.set name v = hs'.set name v := by
  rw [set, set, h]

theorem text?_set_self : (hs.set name v).text? name = Header.text? v := by
  rw [text?, first?_set_self, Option.bind_some]

theorem text?_set_other (h : name ≠ other) : (hs.set name v).text? other = hs.text? other := by
  rw [text?, first?_set_other h, text?]

end Headers

end Countersign.Http
