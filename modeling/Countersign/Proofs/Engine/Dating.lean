import Countersign.Proofs.Engine.Scope
import Countersign.Proofs.Text.Utf8
import Countersign.Proofs.Timestamp.Reading
/-! The day that a request is signed for. It is cut out of the time that the request tells, as
the first eight characters, while that time may also be told in shorter numbers, with blanks
or with a sign. Eight digits in front of it are always its date; where it is not told in
sixteen characters, what is in front may be no date at all. -/

namespace Countersign.Signature

open Countersign.Http
open Credential (isDate)
open Timestamp (Tells Formed Spells Plain)

variable {hs : Headers} {t : Text} {y : Int} {m d : Nat}

/-- The text of the time header, without the blanks around it. -/
def Dated (hs : Headers) (t : Text) : Prop :=
  ∃ v s, hs.first? "x-amz-date" = some v ∧ Header.text? v = some s ∧ Text.trim s = t

theorem timestamp_eq_ok : timestamp hs = .ok t ↔ Dated hs t ∧ ∃ y m d, Tells t y m d := by
  have hcheck : Timestamp.check t = .ok () ↔ ∃ y m d, Tells t y m d := by
    rw [Timestamp.check_eq_ok]
    exact ⟨fun ⟨w, y, m, d, h⟩ => ⟨y, m, d, w, h⟩, fun ⟨y, m, d, w, h⟩ => ⟨w, y, m, d, h⟩⟩
  rw [← hcheck]
  unfold timestamp
  constructor
  · intro h
    split at h
    · cases h
    next v hv =>
    split at h
    · cases h
    next s hs =>
    split at h
    · next hok =>
      obtain rfl := Except.ok.inj h
      exact ⟨⟨v, s, hv, hs, rfl⟩, hok⟩
    · cases h
  · rintro ⟨⟨v, s, hv, hs, rfl⟩, hok⟩
    simp only [hv, hs, hok]

theorem Dated.isText (h : Dated hs t) : Header.IsText t := by
  obtain ⟨v, s, -, hs, rfl⟩ := h
  exact fun c hc => Header.isText_of_text? hs c (Text.mem_of_mem_trim hc)

/-- Of a text of visible characters the day is cut out as characters. -/
theorem dateOf_eq_take (h : Header.IsText t) : dateOf t = t.take 8 := by
  have htake : Header.IsText (t.take 8) := fun c hc => h c (List.mem_of_mem_take hc)
  have hbytes : (Text.Utf8.encode t).take 8 = Text.Utf8.encode (t.take 8) := by
    rw [Header.encode_of_isText h, Header.encode_of_isText htake, List.map_take]
  have hlength : (Text.Utf8.encode (t.take 8)).length = min 8 t.length := by
    rw [Header.encode_of_isText htake, List.length_map, List.length_take]
  unfold dateOf
  rw [hbytes]
  dsimp only
  rw [Text.Utf8.decode?_encode]
  dsimp only
  rw [hlength]
  split
  · rfl
  · rw [List.take_of_length_le (by omega)]

theorem isDate_iff : isDate t = true ↔ t.length = 8 ∧ ∀ c ∈ t, Text.Decimal.isDigit c = true := by
  simp [isDate]

theorem isDate_of_spells (h : Spells t y m d) : isDate t = true := by
  obtain ⟨year, month, day, rfl, hyear, hmonth, hday, heach, -⟩ := h
  refine isDate_iff.2 ⟨?_, heach⟩
  rw [List.length_append, List.length_append, hyear, hmonth, hday]

/-- The times that are taken, over all headers, and the day that a request is signed for. Each
time in sixteen characters is taken, and of the others those whose parts are written shorter,
with blanks or with a sign. The first eight characters make the scope line and the key: if they
are digits, as in sixteen characters they are, they spell the date of the time. -/
theorem timestamp_tells_date (r : RequestHead) :
    (∀ t, timestamp r.headers = .ok t ↔ Dated r.headers t ∧ ∃ y m d, Tells t y m d) ∧
    (∀ t, Dated r.headers t → Formed t → timestamp r.headers = .ok t) ∧
    ∀ t, timestamp r.headers = .ok t →
      (Formed t ↔ t.length = 16 ∧ ∀ c ∈ t, Plain c) ∧
      (∀ y m d, Tells t y m d → (isDate (dateOf t) = true ↔ Spells (dateOf t) y m d) ∧
        (Formed t → Spells (dateOf t) y m d)) ∧
      ∀ a secret host s, signRequest r a secret host = .ok s ↔
        SignedAt a.credential secret t (canonicalOf r a host) s := by
  refine ⟨fun t => timestamp_eq_ok, fun t ht hformed => timestamp_eq_ok.2 ⟨ht, hformed.tells⟩,
    fun t h => ?_⟩
  obtain ⟨hdated, y, m, d, htells⟩ := timestamp_eq_ok.1 h
  refine ⟨htells.formed_iff, fun y m d htells => ?_, fun a secret host s => ?_⟩
  · have hspells : isDate (dateOf t) = true → Spells (dateOf t) y m d := by
      rw [dateOf_eq_take hdated.isText]
      exact fun hdate => htells.spells (isDate_iff.1 hdate).2
    refine ⟨⟨hspells, isDate_of_spells⟩, fun hformed => hspells ?_⟩
    rw [dateOf_eq_take hdated.isText, isDate_iff, List.length_take, (htells.formed_iff.1 hformed).1]
    exact ⟨rfl, hformed.each_date⟩
  · rw [signRequest_eq_ok_iff]
    constructor
    · rintro ⟨time, htime, hs⟩
      obtain rfl := Except.ok.inj (htime.symm.trans h)
      exact hs
    · exact fun hs => ⟨t, h, hs⟩

theorem timestamp_tells_date_of_noon : ∃ s,
    let t : Text := "20240101T120000Z"
    signRequest (Engine.dated t) sample "secret" "one.test" = .ok s ∧
      SignedAt sample.credential "secret" t (canonicalOf (Engine.dated t) sample "one.test") s ∧
      Spells (dateOf t) 2024 1 1 := by
  have hexact : (⟨"2024", "01", "01", "12", "00", "00"⟩ : Timestamp.Written).Exact :=
    ⟨rfl, List.all_eq_true.1 rfl, ⟨rfl, List.all_eq_true.1 rfl, by decide⟩,
      ⟨rfl, List.all_eq_true.1 rfl, by decide⟩, ⟨rfl, List.all_eq_true.1 rfl, by decide⟩,
      ⟨rfl, List.all_eq_true.1 rfl, by decide⟩, ⟨rfl, List.all_eq_true.1 rfl, by decide⟩⟩
  have hformed : Formed "20240101T120000Z" := ⟨_, rfl, hexact⟩
  obtain ⟨-, htaken, hall⟩ := timestamp_tells_date (Engine.dated "20240101T120000Z")
  have htime := htaken _ ⟨_, _, rfl, rfl, rfl⟩ hformed
  obtain ⟨-, hday, hsigned⟩ := hall _ htime
  obtain ⟨s, hs⟩ : ∃ s, signRequest (Engine.dated "20240101T120000Z") sample "secret" "one.test" =
      .ok s := ⟨_, signRequest_eq_ok_iff.2 ⟨_, htime, rfl⟩⟩
  exact ⟨s, hs, (hsigned ..).1 hs, (hday 2024 1 1 ⟨_, rfl, hexact.fits⟩).2 hformed⟩

/-- A time with a one-digit day is taken, and the letter behind the date is signed as a part
of the day. -/
theorem timestamp_takes_short_day :
    let t : Text := "2024101T120000Z"
    timestamp (Engine.dated t).headers = .ok t ∧ ¬ Formed t ∧ dateOf t = "2024101T" ∧
      isDate (dateOf t) = false := by
  refine ⟨by decide +kernel, fun ⟨w, hw, hexact⟩ => ?_, by decide +kernel, by decide +kernel⟩
  have hlength := hexact.length
  rw [hw] at hlength
  cases hlength

end Countersign.Signature
