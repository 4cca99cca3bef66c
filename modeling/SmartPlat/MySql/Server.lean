import Mathlib.Data.List.Lex
import SmartPlat.Lib.Printf
import SmartPlat.TimeManage

set_option autoImplicit false

/-! # Constants in comparisons with dates (`mysqlctrl.c`)

The statements compare `datetime` columns with constants printed from the members of a time. One that is
a date and time is converted. What becomes of another one depends on the server: from version 8.0.16 on
it refuses the statement, before that it compares the two as texts. -/

namespace SmartPlat.MySql

open SmartPlat.Lib

/-- The characters of a time. -/
def TimeByte (b : UInt8) : Prop := NumberByte b ∨ b = 32 ∨ b = 58

/-- What is left open of the server. As an inferred model it is carried through the statements without
    an argument to each of them. Its collation is in the texts themselves: two texts of a column that it
    takes as equal are written alike. -/
class Server where
  /-- A statement with a constant that is no date and time is refused. -/
  refuses : Bool
  /-- What a character counts for where texts are compared. -/
  weight : UInt8 → ℕ
  weight_inj : ∀ a b, TimeByte a → TimeByte b → weight a = weight b → a = b
  /-- `UNIX_TIMESTAMP(column)`, with the time zone of the server and its range. -/
  unixTimestamp : TimeYMD → ℤ

/-- What a `datetime` column can hold: a date with zeros in it, too. -/
def IsDatetime (t : TimeYMD) : Prop :=
  t.month ≤ 12 ∧ t.day ≤ 31 ∧ t.hour < 24 ∧ t.min < 60 ∧ t.sec < 60

instance (t : TimeYMD) : Decidable (IsDatetime t) :=
  inferInstanceAs (Decidable (t.month ≤ 12 ∧ t.day ≤ 31 ∧ t.hour < 24 ∧ t.min < 60 ∧ t.sec < 60))

theorem isDatetime_of_valid {time : TimeYMD} (h : time.Valid) : IsDatetime time := by
  have hdays := daysInMonth_le time.year time.month
  obtain ⟨⟨-, hm, -, hd⟩, htime⟩ := h
  exact ⟨hm, Nat.le_trans hd hdays, htime⟩

/-! ## Texts -/

/-- `'%04d-%02d-%02d %02d:%02d:%02d'` -/
def dateText (year month day hour min sec : ℤ) : List UInt8 :=
  printf (ascii "%04d-%02d-%02d %02d:%02d:%02d")
    [.int year, .int month, .int day, .int hour, .int min, .int sec]

def timeText (t : TimeYMD) : List UInt8 := dateText t.year t.month t.day t.hour t.min t.sec

/-- The text of a column, from its value as in `TimeYMD.datetime`. -/
def columnText (value : ℕ) : List UInt8 :=
  let days := value / 86400
  let sec := value % 86400
  timeText ⟨days / 32 / 13, days / 32 % 13, days % 32, sec / 3600, sec / 60 % 60, sec % 60⟩

theorem columnText_datetime {t : TimeYMD} (h : IsDatetime t) : columnText t.datetime = timeText t := by
  obtain ⟨year, month, day, hour, min, sec⟩ := t
  simp only [IsDatetime] at h
  rw [columnText]
  refine congrArg timeText ?_
  simp only [TimeYMD.mk.injEq, TimeYMD.datetime, TimeYMD.secOfDay]
  omega

/-- Up to the day. -/
def textBeforeDay (year month : ℤ) : List UInt8 :=
  zeroPadded 4 year ++ 45 :: (zeroPadded 2 month ++ [45])

/-- From the day on. -/
def textFromDay (day hour min sec : ℤ) : List UInt8 :=
  zeroPadded 2 day ++ 32 :: (zeroPadded 2 hour ++ 58 :: (zeroPadded 2 min ++ 58 :: zeroPadded 2 sec))

theorem dateText_eq (year month day hour min sec : ℤ) :
    dateText year month day hour min sec = textBeforeDay year month ++ textFromDay day hour min sec := by
  simp [dateText, printf, ascii, textBeforeDay, textFromDay]

theorem timeByte_of_mem {year month day hour min sec : ℤ} {b : UInt8}
    (h : b ∈ dateText year month day hour min sec) : TimeByte b := by
  have hnumber : ∀ {width : ℕ} {n : ℤ}, b ∈ zeroPadded width n → TimeByte b := fun h =>
    .inl (numberByte_zeroPadded h)
  have hminus : b = 45 → TimeByte b := fun h => .inl (.inl h)
  rw [dateText_eq, textBeforeDay, textFromDay] at h
  simp only [List.mem_append, List.mem_cons, List.not_mem_nil, or_false] at h
  rcases h with (h | h | h | h) | h | h | h | h | h | h | h
  all_goals first
    | exact hnumber h
    | exact hminus h
    | exact .inr (.inl h)
    | exact .inr (.inr h)

/-- A text between two that begin alike begins so. -/
theorem prefix_of_lt_of_lt {p r s x : List ℕ} (hr : p ++ r < x) (hs : x < p ++ s) : p <+: x := by
  induction p generalizing x with
  | nil => exact List.nil_prefix
  | cons a p ih =>
      cases x with
      | nil => exact absurd hr (List.not_lt_nil _)
      | cons b x =>
          rw [List.cons_append, List.cons_lt_cons_iff] at hr hs
          obtain rfl : a = b := by omega
          exact List.cons_prefix_cons.2 ⟨rfl, ih (by simpa using hr) (by simpa using hs)⟩

section

variable [Server]

def textBefore (s t : List UInt8) : Bool := s.map Server.weight < t.map Server.weight

theorem prefix_of_textBefore {p r s x : List UInt8} (hp : ∀ b ∈ p ++ r, TimeByte b)
    (hx : ∀ b ∈ x, TimeByte b) (hr : textBefore (p ++ r) x = true) (hs : textBefore x (p ++ s) = true) :
    p <+: x := by
  have hr' := of_decide_eq_true hr
  have hs' := of_decide_eq_true hs
  rw [List.map_append] at hr' hs'
  obtain ⟨rest, hrest⟩ := prefix_of_lt_of_lt hr' hs'
  obtain ⟨p', x', rfl, hp', -⟩ := List.map_eq_append_iff.1 hrest.symm
  refine ⟨x', congrArg (· ++ x') ?_⟩
  replace hp : ∀ b ∈ p, TimeByte b := fun b hb => hp b (List.mem_append_left _ hb)
  clear hr hs hr' hs' hrest
  induction p generalizing p' with
  | nil => exact (List.map_eq_nil_iff.1 hp').symm
  | cons b p ih =>
      obtain ⟨c, q, rfl, hc, hq⟩ := List.map_eq_cons_iff.1 hp'
      obtain ⟨hb, hpb⟩ := List.forall_mem_cons.1 hp
      obtain ⟨hcx, hqx⟩ := List.forall_mem_cons.1 hx
      rw [Server.weight_inj b c hb hcx hc.symm, ih q hqx hq hpb]

/-! ## Comparisons -/

/-- `date < 'constant'` -/
def dateBefore (date constant : TimeYMD) : Bool :=
  if IsDatetime constant then date.datetime < constant.datetime
  else textBefore (columnText date.datetime) (timeText constant)

/-- `date > 'constant'` -/
def dateAfter (date constant : TimeYMD) : Bool :=
  if IsDatetime constant then date.datetime > constant.datetime
  else textBefore (timeText constant) (columnText date.datetime)

/-- Between two texts of one month there are times of that month only. -/
theorem month_of_textBefore {s t e : TimeYMD} (hy : t.year = s.year) (hm : t.month = s.month)
    (hs : textBefore (timeText s) (timeText e) = true) (ht : textBefore (timeText e) (timeText t) = true) :
    e.year = s.year ∧ e.month = s.month := by
  have hbytes : ∀ b ∈ timeText s, TimeByte b := fun b => timeByte_of_mem
  rw [timeText, dateText_eq] at hs hbytes
  rw [timeText, timeText, dateText_eq t.year, hy, hm] at ht
  obtain ⟨rest, hrest⟩ := prefix_of_textBefore hbytes (fun b => timeByte_of_mem) hs ht
  rw [dateText_eq, textBeforeDay, textBeforeDay, List.append_assoc, List.append_assoc, List.cons_append,
    List.cons_append, List.append_assoc, List.append_assoc] at hrest
  obtain ⟨hyear, hrest⟩ := zeroPadded_cons_inj (by decide) hrest
  exact ⟨hyear.symm, (zeroPadded_cons_inj (by decide) hrest).1.symm⟩

/-- And between two of one day, times of that day. -/
theorem date_of_textBefore {s t e : TimeYMD} (hst : t.date = s.date)
    (hs : textBefore (timeText s) (timeText e) = true) (ht : textBefore (timeText e) (timeText t) = true) :
    e.date = s.date := by
  obtain ⟨hy, hm, hd⟩ : t.year = s.year ∧ t.month = s.month ∧ t.day = s.day := by
    simpa [TimeYMD.date] using hst
  obtain ⟨hey, hem⟩ := month_of_textBefore hy hm hs ht
  have hbytes : ∀ b ∈ timeText s, TimeByte b := fun b => timeByte_of_mem
  have hsplit : ∀ year month day hour min sec : ℤ, dateText year month day hour min sec =
      (textBeforeDay year month ++ (zeroPadded 2 day ++ [32])) ++
        (zeroPadded 2 hour ++ 58 :: (zeroPadded 2 min ++ 58 :: zeroPadded 2 sec)) := by
    intro year month day hour min sec
    rw [dateText_eq, textFromDay]
    simp only [List.append_assoc, List.singleton_append]
  rw [timeText, hsplit] at hs hbytes
  rw [timeText, timeText, hsplit t.year, hy, hm, hd] at ht
  obtain ⟨rest, hrest⟩ := prefix_of_textBefore hbytes (fun b => timeByte_of_mem) hs ht
  rw [dateText_eq, hey, hem, textFromDay, List.append_assoc, List.append_cancel_left_eq,
    List.append_assoc] at hrest
  obtain ⟨hday, -⟩ := zeroPadded_cons_inj (by decide) hrest
  simp only [TimeYMD.date, hey, hem, hday]

/-- The server evaluates a comparison with the constant. -/
def Evaluates (constant : TimeYMD) : Prop := constant.Valid ∨ Server.refuses = false

instance (constant : TimeYMD) : Decidable (Evaluates constant) :=
  inferInstanceAs (Decidable (constant.Valid ∨ Server.refuses = false))

/-! ## Windows of a month and of a day -/

variable {s t e : TimeYMD}

theorem month_of_between (hy : t.year = s.year) (hm : t.month = s.month)
    (hst : IsDatetime s ↔ IsDatetime t) (he : IsDatetime e) (hs : dateAfter e s = true)
    (ht : dateBefore e t = true) : e.year = s.year ∧ e.month = s.month := by
  rw [dateAfter] at hs
  rw [dateBefore] at ht
  by_cases h : IsDatetime s
  · rw [if_pos h, decide_eq_true_iff] at hs
    rw [if_pos (hst.1 h), decide_eq_true_iff] at ht
    have h' := hst.1 h
    simp only [IsDatetime] at h h' he
    simp only [TimeYMD.datetime, TimeYMD.secOfDay] at hs ht
    omega
  · rw [if_neg h, columnText_datetime he] at hs
    rw [if_neg (mt hst.2 h), columnText_datetime he] at ht
    exact month_of_textBefore hy hm hs ht

theorem date_of_between (hdate : t.date = s.date) (hst : IsDatetime s ↔ IsDatetime t)
    (he : IsDatetime e) (hs : dateAfter e s = true) (ht : dateBefore e t = true) : e.date = s.date := by
  rw [dateAfter] at hs
  rw [dateBefore] at ht
  by_cases h : IsDatetime s
  · rw [if_pos h, decide_eq_true_iff] at hs
    rw [if_pos (hst.1 h), decide_eq_true_iff] at ht
    have h' := hst.1 h
    simp only [IsDatetime] at h h' he
    simp only [TimeYMD.date, Date.mk.injEq] at hdate ⊢
    simp only [TimeYMD.datetime, TimeYMD.secOfDay] at hs ht
    omega
  · rw [if_neg h, columnText_datetime he] at hs
    rw [if_neg (mt hst.2 h), columnText_datetime he] at ht
    exact date_of_textBefore hdate hs ht

end

/-! ## Servers -/

/-- One that compares texts by their bytes, and refuses statements or not. -/
abbrev Server.binary (refuses : Bool) : Server where
  refuses := refuses
  weight b := b.toNat
  weight_inj _ _ _ _ h := UInt8.toNat_inj.1 h
  unixTimestamp := timeLocalYMD2Sec

/-- From 8.0.16 on. -/
abbrev Server.refusing : Server := .binary true

/-- Before. -/
abbrev Server.textual : Server := .binary false

end SmartPlat.MySql
