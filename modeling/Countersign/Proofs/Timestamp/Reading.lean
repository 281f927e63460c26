import Mathlib.Data.List.Induction
import Countersign.Proofs.Fallible
import Countersign.Proofs.Text.Trimming
import Countersign.Timestamp
/-! What the reader of times takes. Its numbers are as long as they can be, blanks may stand
in front of each, and a year may have a sign and any length; so a time that is read is the
text of six parts, each of which ends where the reader left off. -/

namespace Countersign.Timestamp

open Text (exists_blanks isBlank isBlank_of_isDigit trimLeft trimLeft_append)
open Text.Decimal (isDigit value)

variable {most lo hi n month day : Nat} {t u digits rest part : Text} {y : Int}

/-! ## Numbers -/

/-- A row of at most `most` digits, which ends when it is full or no digit follows. -/
structure Row (most : Nat) (digits rest : Text) : Prop where
  nonempty : digits ≠ []
  each : ∀ c ∈ digits, isDigit c = true
  length : digits.length ≤ most
  ends : digits.length < most → ∀ c ∈ rest.head?, isDigit c = false

theorem takeWhile_take (hdigits : ∀ c ∈ digits, isDigit c = true) (hlength : digits.length ≤ most)
    (rest : Text) : ((digits ++ rest).take most).takeWhile isDigit =
      digits ++ (rest.take (most - digits.length)).takeWhile isDigit := by
  rw [List.take_append, List.take_of_length_le hlength, List.takeWhile_append_of_pos hdigits]

theorem takeWhile_take_eq_nil {k : Nat} :
    (rest.take k).takeWhile isDigit = [] ↔ (0 < k → ∀ c ∈ rest.head?, isDigit c = false) := by
  cases k with
  | zero => simp
  | succ k =>
    cases rest with
    | nil => simp
    | cons c rest => cases hc : isDigit c <;> simp [hc]

theorem Row.takeWhile_eq (h : Row most digits rest) :
    ((digits ++ rest).take most).takeWhile isDigit = digits := by
  rw [takeWhile_take h.each h.length, takeWhile_take_eq_nil.2, List.append_nil]
  exact fun hk => h.ends (by omega)

/-- The digits in front of a text are a row of it. -/
theorem row_takeWhile (h : (t.take most).takeWhile isDigit ≠ []) :
    ∃ rest, t = (t.take most).takeWhile isDigit ++ rest ∧
      Row most ((t.take most).takeWhile isDigit) rest := by
  generalize hrow : (t.take most).takeWhile isDigit = digits at h ⊢
  have hdigits : ∀ c ∈ digits, isDigit c = true := fun c hc =>
    List.all_eq_true.1 List.all_takeWhile c (hrow ▸ hc)
  have hlength : digits.length ≤ most := by
    rw [← hrow]
    exact Nat.le_trans (List.takeWhile_sublist _).length_le (List.length_take_le ..)
  obtain ⟨rest, hrest⟩ : digits <+: t :=
    hrow ▸ (List.takeWhile_prefix _).trans (List.take_prefix ..)
  have hnil : (rest.take (most - digits.length)).takeWhile isDigit = [] := by
    rw [← hrest, takeWhile_take hdigits hlength] at hrow
    exact List.append_right_eq_self.1 hrow
  exact ⟨rest, hrest.symm, h, hdigits, hlength, fun hlt =>
    takeWhile_take_eq_nil.1 hnil (by omega)⟩

theorem number_eq_ok (hmost : 0 < most) : number most t = .ok (n, rest) ↔
    ∃ digits, t = digits ++ rest ∧ Row most digits rest ∧ value digits = n ∧ n < bound := by
  constructor
  · intro h
    unfold number at h
    split at h
    · cases h
    next c u =>
    split at h
    · cases h
    next hc =>
    obtain ⟨k, rfl⟩ := Nat.exists_eq_succ_of_ne_zero (Nat.ne_of_gt hmost)
    have hne : ((c :: u).take (k + 1)).takeWhile isDigit ≠ [] := by simp_all
    obtain ⟨rest', hrest, hrow⟩ := row_takeWhile hne
    generalize ((c :: u).take (k + 1)).takeWhile isDigit = digits at h hrest hrow
    dsimp only at h
    split at h
    · next hbound =>
      obtain ⟨rfl, hdrop⟩ := Prod.mk.inj (Except.ok.inj h)
      rw [hrest, List.drop_left] at hdrop
      exact ⟨digits, hdrop ▸ hrest, hdrop ▸ hrow, rfl, hbound⟩
    · cases h
  · rintro ⟨digits, rfl, hrow, rfl, hbound⟩
    have htake := hrow.takeWhile_eq
    obtain ⟨c, ds, rfl⟩ := List.exists_cons_of_ne_nil hrow.nonempty
    have hc : isDigit c = true := hrow.each c (by simp)
    rw [List.cons_append] at htake ⊢
    unfold number
    simp [hc, htake, hbound]

theorem Row.head_not_blank (h : Row most digits rest) :
    ∀ c ∈ (digits ++ rest).head?, isBlank c = false := by
  obtain ⟨c, ds, rfl⟩ := List.exists_cons_of_ne_nil h.nonempty
  simpa using isBlank_of_isDigit (h.each c (by simp))

/-! ## Parts -/

/-- Blanks and one or two digits, a number in a range. -/
def Field (lo hi : Nat) (part : Text) (n : Nat) (rest : Text) : Prop :=
  ∃ blanks digits, part = blanks ++ digits ∧ (∀ c ∈ blanks, isBlank c = true) ∧
    Row 2 digits rest ∧ value digits = n ∧ lo ≤ n ∧ n ≤ hi

theorem field_eq_ok (hhi : hi < bound) : field lo hi t = .ok (n, rest) ↔
    ∃ part, t = part ++ rest ∧ Field lo hi part n rest := by
  unfold field
  rw [bind_eq_ok]
  constructor
  · rintro ⟨⟨m, u⟩, hnumber, h⟩
    obtain ⟨digits, hdigits, hrow, hvalue, -⟩ := (number_eq_ok (by decide)).1 hnumber
    obtain ⟨blanks, hblanks, ht⟩ := exists_blanks t
    dsimp only at h
    split at h
    · next hrange =>
      obtain ⟨rfl, rfl⟩ := Prod.mk.inj (Except.ok.inj h)
      exact ⟨blanks ++ digits, by rw [ht, hdigits, List.append_assoc],
        blanks, digits, rfl, hblanks, hrow, hvalue, hrange⟩
    · cases h
  · rintro ⟨part, rfl, blanks, digits, rfl, hblanks, hrow, hvalue, hrange⟩
    have htrim := trimLeft_append hblanks hrow.head_not_blank
    refine ⟨(n, rest), ?_, if_pos hrange⟩
    rw [List.append_assoc, htrim]
    exact (number_eq_ok (by decide)).2 ⟨digits, rfl, hrow, hvalue, Nat.lt_of_le_of_lt hrange.2 hhi⟩

/-- A year: up to four digits, or a sign and digits without end. -/
def YearBody (body : Text) (y : Int) (rest : Text) : Prop :=
  Row 4 body rest ∧ y = value body ∨
    ∃ digits, Row (digits ++ rest).length digits rest ∧
      (body = '+' :: digits ∧ y = value digits ∨ body = '-' :: digits ∧ y = -value digits)

/-- Blanks and a year that fits into a word. -/
def Year (part : Text) (y : Int) (rest : Text) : Prop :=
  ∃ blanks body, part = blanks ++ body ∧ (∀ c ∈ blanks, isBlank c = true) ∧ inWord y = true ∧
    YearBody body y rest

/-- Before its size is looked at. -/
def yearOf (t : Text) : Except Fault (Int × Text) :=
  match t with
  | '-' :: r => do let (n, r) ← number r.length r; .ok (-(n : Int), r)
  | '+' :: r => do let (n, r) ← number r.length r; .ok ((n : Int), r)
  | t => do let (n, r) ← number 4 t; .ok ((n : Int), r)

theorem year_eq (t : Text) : year t = (do
    let (y, r) ← yearOf (trimLeft t)
    if inWord y then .ok (y, r) else .error .outOfRange) := by
  unfold year
  generalize trimLeft t = u
  unfold yearOf
  split <;> simp only [bind_assoc]

theorem signed_eq_ok (hmost : 0 < most) (sign : Nat → Int) :
    (do let (n, r) ← number most u; .ok (sign n, r)) = Except.ok (y, rest) ↔
      ∃ digits, u = digits ++ rest ∧ Row most digits rest ∧ y = sign (value digits) ∧
        value digits < bound := by
  rw [bind_eq_ok]
  constructor
  · rintro ⟨⟨n, r⟩, hnumber, h⟩
    obtain ⟨digits, rfl, hrow, rfl, hbound⟩ := (number_eq_ok hmost).1 hnumber
    obtain ⟨rfl, rfl⟩ := Prod.mk.inj (Except.ok.inj h)
    exact ⟨digits, rfl, hrow, rfl, hbound⟩
  · rintro ⟨digits, rfl, hrow, rfl, hbound⟩
    exact ⟨(value digits, rest), (number_eq_ok hmost).2 ⟨digits, rfl, hrow, rfl, hbound⟩, rfl⟩

theorem bound_of_inWord (h : inWord y = true) : y < bound ∧ -y < bound := by
  have hword : -2147483648 ≤ y ∧ y ≤ 2147483647 := of_decide_eq_true h
  unfold bound
  omega

theorem yearBody_of_yearOf (h : yearOf t = .ok (y, rest)) :
    ∃ body, t = body ++ rest ∧ YearBody body y rest := by
  have hsigned : ∀ (sign : Nat → Int) {u : Text},
      (do let (n, r) ← number u.length u; .ok (sign n, r)) = Except.ok (y, rest) →
      ∃ digits, u = digits ++ rest ∧ Row (digits ++ rest).length digits rest ∧
        y = sign (value digits) := by
    intro sign u h
    cases u with
    | nil => cases h
    | cons c u =>
      -- behind a sign the row may take all that is left
      obtain ⟨digits, hu, hrow, hy, -⟩ := (signed_eq_ok (by simp) sign).1 h
      exact ⟨digits, hu, hu ▸ hrow, hy⟩
  unfold yearOf at h
  split at h
  · obtain ⟨digits, rfl, hrow, hy⟩ := hsigned (fun n => -(n : Int)) h
    exact ⟨'-' :: digits, rfl, .inr ⟨digits, hrow, .inr ⟨rfl, hy⟩⟩⟩
  · obtain ⟨digits, rfl, hrow, hy⟩ := hsigned (fun n => (n : Int)) h
    exact ⟨'+' :: digits, rfl, .inr ⟨digits, hrow, .inl ⟨rfl, hy⟩⟩⟩
  · obtain ⟨digits, rfl, hrow, hy, -⟩ := (signed_eq_ok (by decide) (fun n => (n : Int))).1 h
    exact ⟨digits, rfl, .inl ⟨hrow, hy⟩⟩

theorem yearOf_of_yearBody {body : Text} (hword : inWord y = true) (h : YearBody body y rest) :
    yearOf (body ++ rest) = .ok (y, rest) := by
  obtain ⟨hlow, hhigh⟩ := bound_of_inWord hword
  rcases h with ⟨hrow, rfl⟩ | ⟨digits, hrow, ⟨rfl, rfl⟩ | ⟨rfl, rfl⟩⟩
  · have hplain : yearOf (body ++ rest) = (do
        let (n, r) ← number 4 (body ++ rest)
        .ok ((n : Int), r)) := by
      obtain ⟨c, ds, rfl⟩ := List.exists_cons_of_ne_nil hrow.nonempty
      have hc : isDigit c = true := hrow.each c (by simp)
      unfold yearOf
      split
      · next heq =>
        obtain ⟨rfl, -⟩ := List.cons.inj heq
        cases hc
      · next heq =>
        obtain ⟨rfl, -⟩ := List.cons.inj heq
        cases hc
      · rfl
    rw [hplain]
    exact (signed_eq_ok (by decide) (fun n => (n : Int))).2 ⟨body, rfl, hrow, rfl, by omega⟩
  all_goals
    have hmost : 0 < (digits ++ rest).length :=
      List.length_pos_iff.2 fun h => hrow.nonempty (List.append_eq_nil_iff.1 h).1
  · exact (signed_eq_ok hmost (fun n => (n : Int))).2 ⟨digits, rfl, hrow, rfl, by omega⟩
  · exact (signed_eq_ok hmost (fun n => -(n : Int))).2 ⟨digits, rfl, hrow, rfl, by omega⟩

/-- Neither a digit nor a sign is a blank. -/
theorem YearBody.head_not_blank {body : Text} (h : YearBody body y rest) :
    ∀ c ∈ (body ++ rest).head?, isBlank c = false := by
  rcases h with ⟨hrow, -⟩ | ⟨digits, -, ⟨rfl, -⟩ | ⟨rfl, -⟩⟩
  · exact hrow.head_not_blank
  · simpa using show isBlank '+' = false by decide
  · simpa using show isBlank '-' = false by decide

theorem year_eq_ok : year t = .ok (y, rest) ↔ ∃ part, t = part ++ rest ∧ Year part y rest := by
  rw [year_eq, bind_eq_ok]
  constructor
  · rintro ⟨⟨z, u⟩, hyear, h⟩
    dsimp only at h
    split at h
    · next hword =>
      obtain ⟨rfl, rfl⟩ := Prod.mk.inj (Except.ok.inj h)
      obtain ⟨body, hbody, hyear⟩ := yearBody_of_yearOf hyear
      obtain ⟨blanks, hblanks, ht⟩ := exists_blanks t
      exact ⟨blanks ++ body, by rw [ht, hbody, List.append_assoc], blanks, body, rfl, hblanks,
        hword, hyear⟩
    · cases h
  · rintro ⟨part, rfl, blanks, body, rfl, hblanks, hword, hyear⟩
    refine ⟨(y, rest), ?_, if_pos hword⟩
    rw [List.append_assoc, trimLeft_append hblanks hyear.head_not_blank]
    exact yearOf_of_yearBody hword hyear

theorem literal_eq_ok {x : Char} : literal x t = .ok rest ↔ t = x :: rest := by
  cases t with
  | nil => exact ⟨nofun, nofun⟩
  | cons c t => by_cases h : c = x <;> simp [literal, h]

/-! ## Whole times -/

/-- The parts of a time, as they are written. -/
structure Written where
  year : Text
  month : Text
  day : Text
  hour : Text
  minute : Text
  second : Text

namespace Written

variable {w : Written}

def fromSecond (w : Written) : Text := w.second ++ "Z"
def fromMinute (w : Written) : Text := w.minute ++ w.fromSecond
def fromHour (w : Written) : Text := w.hour ++ w.fromMinute
def fromDay (w : Written) : Text := w.day ++ 'T' :: w.fromHour
def fromMonth (w : Written) : Text := w.month ++ w.fromDay
def text (w : Written) : Text := w.year ++ w.fromMonth

/-- Each part is read as far as it goes, and together they tell a time on a day that
exists. -/
structure Fits (w : Written) (y : Int) (m d : Nat) : Prop where
  year : Year w.year y w.fromMonth
  month : Field 1 12 w.month m w.fromDay
  day : Field 1 31 w.day d ('T' :: w.fromHour)
  hour : ∃ n, Field 0 23 w.hour n w.fromMinute
  minute : ∃ n, Field 0 59 w.minute n w.fromSecond
  second : ∃ n, Field 0 60 w.second n "Z"
  calendar : inCalendar y = true ∧ d ≤ daysIn y m

end Written

/-- The times that are read. -/
theorem check_eq_ok : check t = .ok () ↔
    ∃ (w : Written) (y : Int) (m d : Nat), w.text = t ∧ w.Fits y m d := by
  unfold check
  simp only [bind_eq_ok, Prod.exists, year_eq_ok, field_eq_ok (show 12 < bound by decide),
    field_eq_ok (show 31 < bound by decide), field_eq_ok (show 23 < bound by decide),
    field_eq_ok (show 59 < bound by decide), field_eq_ok (show 60 < bound by decide),
    literal_eq_ok]
  constructor
  · rintro ⟨y, u₁, ⟨year, rfl, hyear⟩, m, u₂, ⟨month, rfl, hmonth⟩, d, u₃, ⟨day, rfl, hday⟩, u₄, rfl,
      h, u₅, ⟨hour, rfl, hhour⟩, mi, u₆, ⟨minute, rfl, hminute⟩, s, u₇, ⟨second, rfl, hsecond⟩, u₈,
      rfl, hend⟩
    split at hend
    · cases hend
    next hnil =>
    split at hend
    · next hcalendar =>
      obtain rfl : u₈ = [] := Classical.not_not.1 hnil
      exact ⟨⟨year, month, day, hour, minute, second⟩, y, m, d, rfl,
        hyear, hmonth, hday, ⟨h, hhour⟩, ⟨mi, hminute⟩, ⟨s, hsecond⟩, hcalendar⟩
    · cases hend
  · rintro ⟨w, y, m, d, rfl, hw⟩
    obtain ⟨h, hhour⟩ := hw.hour
    obtain ⟨mi, hminute⟩ := hw.minute
    obtain ⟨s, hsecond⟩ := hw.second
    exact ⟨y, _, ⟨_, rfl, hw.year⟩, m, _, ⟨_, rfl, hw.month⟩, d, _, ⟨_, rfl, hw.day⟩, _, rfl,
      h, _, ⟨_, rfl, hhour⟩, mi, _, ⟨_, rfl, hminute⟩, s, _, ⟨_, rfl, hsecond⟩, [], rfl,
      by simp [hw.calendar]⟩

/-- A text that is read as a time of a date. -/
def Tells (t : Text) (y : Int) (m d : Nat) : Prop :=
  ∃ w : Written, w.text = t ∧ w.Fits y m d

/-! ## Sixteen characters -/

/-- Two digits in a range. -/
structure Pair (lo hi : Nat) (part : Text) : Prop where
  length : part.length = 2
  each : ∀ c ∈ part, isDigit c = true
  range : lo ≤ value part ∧ value part ≤ hi

theorem Pair.field {part : Text} {hi' : Nat} (h : Pair lo hi part) (hhi : hi ≤ hi') (rest : Text) :
    Field lo hi' part (value part) rest :=
  ⟨[], part, rfl, nofun,
    ⟨List.ne_nil_of_length_eq_add_one h.length, h.each, Nat.le_of_eq h.length,
      fun hlt => absurd h.length (Nat.ne_of_lt hlt)⟩,
    rfl, h.range.1, Nat.le_trans h.range.2 hhi⟩

/-- Each part at its full length, and a day that exists. -/
structure Written.Exact (w : Written) : Prop where
  yearLength : w.year.length = 4
  yearEach : ∀ c ∈ w.year, isDigit c = true
  month : Pair 1 12 w.month
  day : Pair 1 (daysIn (value w.year) (value w.month)) w.day
  hour : Pair 0 23 w.hour
  minute : Pair 0 59 w.minute
  second : Pair 0 60 w.second

/-- A time as `YYYYMMDDTHHMMSSZ`. -/
def Formed (t : Text) : Prop := ∃ w : Written, w.text = t ∧ w.Exact

/-- The year, the month and the day of a date, in four, two and two digits. -/
def Spells (t : Text) (y : Int) (m d : Nat) : Prop :=
  ∃ year month day : Text, t = year ++ month ++ day ∧
    year.length = 4 ∧ month.length = 2 ∧ day.length = 2 ∧ (∀ c ∈ t, isDigit c = true) ∧
    value year = y ∧ value month = m ∧ value day = d

theorem daysIn_le (y : Int) (month : Nat) : daysIn y month ≤ 31 := by
  unfold daysIn
  split_ifs <;> decide

theorem value_lt (h : ∀ c ∈ t, isDigit c = true) : value t < Nat.pow 10 t.length := by
  induction t using List.reverseRecOn with
  | nil => decide
  | append_singleton t c ih =>
    obtain ⟨ht, hc⟩ := List.forall_mem_append.1 h
    have hdigit : '0' ≤ c ∧ c ≤ '9' := by simpa [isDigit] using hc
    have hrange : 48 ≤ c.toNat ∧ c.toNat ≤ 57 := hdigit
    have hvalue : value (t ++ [c]) = value t * 10 + (c.toNat - 48) := by simp [value]
    have := ih ht
    rw [hvalue, List.length_append, List.length_singleton]
    change _ < Nat.pow 10 t.length * 10
    omega

namespace Written

variable {w : Written}

theorem length_text (w : Written) : w.text.length = w.year.length + w.month.length +
    w.day.length + w.hour.length + w.minute.length + w.second.length + 2 := by
  simp only [text, fromMonth, fromDay, fromHour, fromMinute, fromSecond, List.length_append,
    List.length_cons, show List.length (α := Char) "Z" = 1 from rfl]
  omega

theorem Exact.fits (h : w.Exact) : w.Fits (value w.year) (value w.month) (value w.day) := by
  have hyear : value w.year < 10000 := by
    have hlt := value_lt h.yearEach
    rwa [h.yearLength] at hlt
  have hword : inWord (value w.year) = true := decide_eq_true (by omega)
  have hcalendar : inCalendar (value w.year) = true := decide_eq_true (by omega)
  have hrow : Row 4 w.year w.fromMonth :=
    ⟨List.ne_nil_of_length_eq_add_one h.yearLength, h.yearEach, Nat.le_of_eq h.yearLength,
      fun hlt => absurd h.yearLength (Nat.ne_of_lt hlt)⟩
  exact ⟨⟨[], w.year, rfl, nofun, hword, .inl ⟨hrow, rfl⟩⟩, h.month.field (Nat.le_refl _) _,
    h.day.field (daysIn_le ..) _, ⟨_, h.hour.field (Nat.le_refl _) _⟩,
    ⟨_, h.minute.field (Nat.le_refl _) _⟩, ⟨_, h.second.field (Nat.le_refl _) _⟩,
    hcalendar, h.day.range.2⟩

end Written

/-! ## Blanks and signs left out -/

/-- Neither a blank nor a sign. -/
def Plain (c : Char) : Prop := isBlank c = false ∧ c ≠ '+' ∧ c ≠ '-'

theorem plain_of_isDigit {c : Char} (h : isDigit c = true) : Plain c := by
  refine ⟨isBlank_of_isDigit h, ?_, ?_⟩
  all_goals
    rintro rfl
    cases h

theorem Field.row (h : Field lo hi part n rest) (hhead : ∀ c ∈ part.head?, isBlank c = false) :
    Row 2 part rest ∧ value part = n ∧ lo ≤ n ∧ n ≤ hi := by
  obtain ⟨blanks, digits, rfl, hblanks, hrow, hvalue, hrange⟩ := h
  cases blanks with
  | nil => exact ⟨hrow, hvalue, hrange⟩
  | cons c blanks => cases (hblanks c (by simp)).symm.trans (hhead c rfl)

theorem Year.row (h : Year part y rest) (hhead : ∀ c ∈ part.head?, Plain c) :
    Row 4 part rest ∧ value part = y := by
  obtain ⟨blanks, body, rfl, hblanks, -, hbody⟩ := h
  cases blanks with
  | nil =>
    rcases hbody with ⟨hrow, rfl⟩ | ⟨digits, -, ⟨rfl, -⟩ | ⟨rfl, -⟩⟩
    · exact ⟨hrow, rfl⟩
    · exact absurd rfl (hhead '+' rfl).2.1
    · exact absurd rfl (hhead '-' rfl).2.2
  | cons c blanks => cases (hblanks c (by simp)).symm.trans (hhead c rfl).1

/-- A row that goes on in digits is full. -/
theorem Row.full {k : Nat} (h : Row most digits rest) (hrest : rest ≠ [])
    (heach : ∀ c ∈ (digits ++ rest).take (most + k), isDigit c = true) :
    digits.length = most ∧ (digits ++ rest).take (most + k) = digits ++ rest.take k := by
  have hlength : digits.length = most := by
    refine Nat.le_antisymm h.length (Nat.le_of_not_lt fun hlt => ?_)
    obtain ⟨c, rest, rfl⟩ := List.exists_cons_of_ne_nil hrest
    have hc : c ∈ (digits ++ c :: rest).take (most + k) := by
      obtain ⟨j, hj⟩ : ∃ j, most + k = digits.length + (j + 1) := ⟨most + k - digits.length - 1, by omega⟩
      rw [hj, List.take_length_add_append]
      simp
    cases (heach c hc).symm.trans (h.ends hlt c rfl)
  exact ⟨hlength, by rw [← hlength, List.take_length_add_append]⟩

theorem mem_take_of_head {c : Char} {k : Nat} (h : c ∈ part.head?) :
    c ∈ (part ++ rest).take (k + 1) := by
  cases part with
  | nil => cases h
  | cons d part => simp_all

namespace Written

variable {w : Written} {m d : Nat}

/-- A time whose first eight characters are digits spells its date with them. -/
theorem Fits.spells (h : w.Fits y m d) (heach : ∀ c ∈ w.text.take 8, isDigit c = true) :
    Spells (w.text.take 8) y m d := by
  -- part by part: it starts with a digit, so it is a row, and goes on in digits, so it is full
  have hall := heach
  rw [text] at hall
  obtain ⟨hyear, hy⟩ := h.year.row fun c hc =>
    plain_of_isDigit (hall c (mem_take_of_head hc))
  obtain ⟨hyearLength, htake⟩ := hyear.full (k := 4) (by simp [fromMonth, fromDay]) hall
  rw [htake] at hall
  have hall := (List.forall_mem_append.1 hall).2
  rw [fromMonth] at hall
  obtain ⟨hmonth, hm, -⟩ := h.month.row fun c hc =>
    isBlank_of_isDigit (hall c (mem_take_of_head hc))
  obtain ⟨hmonthLength, htake'⟩ := hmonth.full (k := 2) (by simp [fromDay]) hall
  rw [htake'] at hall
  have hall := (List.forall_mem_append.1 hall).2
  rw [fromDay] at hall
  obtain ⟨hday, hd, -⟩ := h.day.row fun c hc =>
    isBlank_of_isDigit (hall c (mem_take_of_head hc))
  obtain ⟨hdayLength, htake''⟩ := hday.full (k := 0) (by simp) hall
  refine ⟨w.year, w.month, w.day, ?_, hyearLength, hmonthLength, hdayLength, heach, hy, hm, hd⟩
  rw [text, htake, fromMonth, htake', fromDay, htake'', List.take_zero, List.append_nil,
    List.append_assoc]

/-- A time of sixteen characters without blanks and signs has each part at its full length. -/
theorem Fits.exact (h : w.Fits y m d) (hlength : w.text.length = 16)
    (hplain : ∀ c ∈ w.text, Plain c) : w.Exact := by
  simp only [text, fromMonth, fromDay, fromHour, fromMinute, fromSecond, List.forall_mem_append,
    List.forall_mem_cons] at hplain
  obtain ⟨hyears, hmonths, hdays, -, hhours, hminutes, hseconds, -⟩ := hplain
  obtain ⟨hyear, rfl⟩ := h.year.row fun c hc => hyears c (List.mem_of_mem_head? hc)
  have hfield : ∀ {lo hi : Nat} {part : Text} {n : Nat} {rest : Text}, Field lo hi part n rest →
      (∀ c ∈ part, Plain c) → Row 2 part rest ∧ value part = n ∧ lo ≤ n ∧ n ≤ hi :=
    fun hpart hplain => hpart.row fun c hc => (hplain c (List.mem_of_mem_head? hc)).1
  obtain ⟨hmonth, rfl, hmonthRange⟩ := hfield h.month hmonths
  obtain ⟨hday, rfl, hdayRange⟩ := hfield h.day hdays
  obtain ⟨_, hhourField⟩ := h.hour
  obtain ⟨hhour, rfl, hhourRange⟩ := hfield hhourField hhours
  obtain ⟨_, hminuteField⟩ := h.minute
  obtain ⟨hminute, rfl, hminuteRange⟩ := hfield hminuteField hminutes
  obtain ⟨_, hsecondField⟩ := h.second
  obtain ⟨hsecond, rfl, hsecondRange⟩ := hfield hsecondField hseconds
  -- the parts share fourteen characters, and fourteen is the most that they can have
  rw [length_text] at hlength
  have := hyear.length
  have := hmonth.length
  have := hday.length
  have := hhour.length
  have := hminute.length
  have := hsecond.length
  exact ⟨by omega, hyear.each, ⟨by omega, hmonth.each, hmonthRange⟩,
    ⟨by omega, hday.each, hdayRange.1, h.calendar.2⟩, ⟨by omega, hhour.each, hhourRange⟩,
    ⟨by omega, hminute.each, hminuteRange⟩, ⟨by omega, hsecond.each, hsecondRange⟩⟩

theorem Exact.length (h : w.Exact) : w.text.length = 16 := by
  rw [length_text, h.yearLength, h.month.length, h.day.length, h.hour.length, h.minute.length,
    h.second.length]

theorem Exact.plain (h : w.Exact) : ∀ c ∈ w.text, Plain c := by
  have hpart : ∀ {part : Text}, (∀ c ∈ part, isDigit c = true) → ∀ c ∈ part, Plain c :=
    fun heach c hc => plain_of_isDigit (heach c hc)
  simp only [text, fromMonth, fromDay, fromHour, fromMinute, fromSecond, List.forall_mem_append,
    List.forall_mem_cons]
  have hletter : ∀ c : Char, c = 'T' ∨ c = 'Z' → Plain c := by
    rintro c (rfl | rfl)
    all_goals exact ⟨by decide, by decide, by decide⟩
  exact ⟨hpart h.yearEach, hpart h.month.each, hpart h.day.each, hletter _ (.inl rfl),
    hpart h.hour.each, hpart h.minute.each, hpart h.second.each,
    fun c hc => hletter c (.inr (List.mem_singleton.1 hc))⟩

theorem Exact.take (h : w.Exact) : w.text.take 8 = w.year ++ w.month ++ w.day := by
  have hlength : (w.year ++ w.month ++ w.day).length = 8 := by
    rw [List.length_append, List.length_append, h.yearLength, h.month.length, h.day.length]
  have hsplit : w.text = (w.year ++ w.month ++ w.day) ++ 'T' :: w.fromHour := by
    simp [text, fromMonth, fromDay]
  rw [hsplit, ← hlength, List.take_left]

end Written

section

variable {m d : Nat}

theorem Formed.tells (h : Formed t) : ∃ y m d, Tells t y m d := by
  obtain ⟨w, rfl, hw⟩ := h
  exact ⟨_, _, _, w, rfl, hw.fits⟩

/-- Of the times that are read, those in sixteen characters are the ones without blanks and
signs that are as long. -/
theorem Tells.formed_iff (h : Tells t y m d) :
    Formed t ↔ t.length = 16 ∧ ∀ c ∈ t, Plain c := by
  obtain ⟨w, rfl, hw⟩ := h
  constructor
  · rintro ⟨w', hw', hexact⟩
    rw [← hw']
    exact ⟨hexact.length, hexact.plain⟩
  · exact fun ⟨hlength, hplain⟩ => ⟨w, rfl, hw.exact hlength hplain⟩

/-- The first eight characters of a time are its date, or not digits. -/
theorem Tells.spells (h : Tells t y m d) (heach : ∀ c ∈ t.take 8, isDigit c = true) :
    Spells (t.take 8) y m d := by
  obtain ⟨w, rfl, hw⟩ := h
  exact hw.spells heach

theorem Formed.each_date (h : Formed t) : ∀ c ∈ t.take 8, isDigit c = true := by
  obtain ⟨w, rfl, hw⟩ := h
  rw [hw.take]
  exact List.forall_mem_append.2
    ⟨List.forall_mem_append.2 ⟨hw.yearEach, hw.month.each⟩, hw.day.each⟩

end

end Countersign.Timestamp
