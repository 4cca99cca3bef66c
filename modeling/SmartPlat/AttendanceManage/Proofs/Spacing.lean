import SmartPlat.AttendanceManage.Lists

set_option autoImplicit false

/-! # Half an hour between the records of an employee

The record that is looked up has the time of the employee's latest one, even where it is somebody
else's; only its time is used. On one day the comparison of the seconds of the day is the comparison of
the times; on another day it is not made. -/

namespace SmartPlat.AttendanceManage

open SmartPlat.Lib SmartPlat.MySql

variable {t t' : AttendanceTable} {number : String} {r : AttendanceRow} {c : AttendanceAtt}
  {e : AttendanceEvent} {now : TimeYMD}

/-! ## What is claimed -/

/-- The last record of an employee. -/
def lastEntry (t : AttendanceTable) (number : String) : Option AttendanceRow :=
  (t.rows.filter fun r => r.number = number).getLast?

/-- More than half an hour has passed since it, if there is one. -/
def Due (t : AttendanceTable) (number : String) (now : TimeYMD) : Prop :=
  ∀ r ∈ lastEntry t number, timeLocalYMD2Sec r.time + 30 * 60 < timeLocalYMD2Sec now

/-- The records of each employee are more than half an hour apart. -/
def Spaced (t : AttendanceTable) : Prop :=
  t.rows.Pairwise fun r s => r.number = s.number →
    timeLocalYMD2Sec r.time + 30 * 60 < timeLocalYMD2Sec s.time

instance (t : AttendanceTable) (number : String) (now : TimeYMD) : Decidable (Due t number now) :=
  inferInstanceAs (Decidable (∀ r ∈ lastEntry t number, _ < _))

instance (t : AttendanceTable) : Decidable (Spaced t) :=
  inferInstanceAs (Decidable (t.rows.Pairwise _))

/-- What a capture should leave: spaced records, its own among them when it is due. -/
structure AttendanceCorrect (t : AttendanceTable) (e : AttendanceEvent) (t' : AttendanceTable) : Prop where
  spaced : Spaced t'
  recorded : Due t e.capture.attendanceattr.usrid e.capture.attendanceattr.snapTime →
    t'.rows = t.rows ++ [attendanceRow e.capture.attendanceattr]

def SameDay (s u : TimeYMD) : Prop := s.year = u.year ∧ s.month = u.month ∧ s.day = u.day

instance (s u : TimeYMD) : Decidable (SameDay s u) :=
  inferInstanceAs (Decidable (s.year = u.year ∧ s.month = u.month ∧ s.day = u.day))

/-- When it does: a capture that is due has a new token; one that is not is of an employee with a
    number, on the day of his last record, or has a token that is taken. -/
def WellTimed (t : AttendanceTable) (e : AttendanceEvent) : Prop :=
  (Due t e.capture.attendanceattr.usrid e.capture.attendanceattr.snapTime →
    ∀ r ∈ t.rows, r.id ≠ e.capture.attendanceattr.snapToken) ∧
  (¬ Due t e.capture.attendanceattr.usrid e.capture.attendanceattr.snapTime →
    (e.capture.attendanceattr.usrid ≠ "" ∧ ∀ r ∈ lastEntry t e.capture.attendanceattr.usrid,
      SameDay e.capture.attendanceattr.snapTime r.time) ∨
    ∃ r ∈ t.rows, r.id = e.capture.attendanceattr.snapToken)

/-! ## The last record -/

theorem lastEntry_spec (h : lastEntry t number = some r) : r ∈ t.rows ∧ r.number = number := by
  obtain ⟨hmem, hnumber⟩ := List.mem_filter.mp (List.mem_of_getLast? h)
  exact ⟨hmem, of_decide_eq_true hnumber⟩

theorem lastEntry_eq_none (h : lastEntry t number = none) : ∀ u ∈ t.rows, u.number ≠ number := by
  intro u hu hnumber
  rw [lastEntry, List.getLast?_eq_none_iff] at h
  exact List.not_mem_nil (h ▸ List.mem_filter.mpr ⟨hu, decide_eq_true hnumber⟩)

/-- Spaced records grow in time, so the last is the latest. -/
theorem le_lastEntry (hs : Spaced t) (h : lastEntry t number = some r) {u : AttendanceRow}
    (hu : u ∈ t.rows) (hnumber : u.number = number) :
    timeLocalYMD2Sec u.time ≤ timeLocalYMD2Sec r.time := by
  obtain ⟨init, hinit⟩ := List.getLast?_eq_some_iff.mp h
  have hmem : u ∈ init ++ [r] := hinit ▸ List.mem_filter.mpr ⟨hu, decide_eq_true hnumber⟩
  have hpair := hs.filter fun r => r.number = number
  rw [hinit, List.pairwise_append] at hpair
  rcases List.mem_append.mp hmem with hu' | hu'
  · have hlt := hpair.2.2 u hu' r (by simp) (hnumber.trans (lastEntry_spec h).2.symm)
    omega
  · exact Int.le_of_eq (List.mem_singleton.mp hu' ▸ rfl)

/-- Records at times of the calendar, spaced. -/
structure WellKept (t : AttendanceTable) : Prop where
  times : ∀ r ∈ t.rows, r.time.Valid
  spaced : Spaced t

theorem getLatestAttendance_none (h : lastEntry t number = none) (order : RowOrder) :
    mySqlCtrlGetLatestAttendanceInfo order number t = none := by
  rw [mySqlCtrlGetLatestAttendanceInfo, selectLatestAttendance, latestRows_eq_nil (lastEntry_eq_none h),
    List.perm_nil.mp (order.perm [])]
  split <;> rfl

/-- Whoever's record it is that is read, it has the time of the employee's last one. -/
theorem getLatestAttendance_some (hI : WellKept t) (h : lastEntry t number = some r) (hnumber : number ≠ "")
    (order : RowOrder) :
    ∃ info, mySqlCtrlGetLatestAttendanceInfo order number t = some info ∧ info.snapTime = r.time := by
  obtain ⟨hmem, hr⟩ := lastEntry_spec h
  have hperm := order.perm (selectLatestAttendance number t)
  rw [mySqlCtrlGetLatestAttendanceInfo, if_neg hnumber]
  have hle : ∀ u ∈ t.rows, u.number = number → u.time.datetime ≤ r.time.datetime := by
    intro u hu hnumber
    have hle := le_lastEntry hI.spaced h hu hnumber
    have hlt := TimeYMD.datetime_lt_iff (hI.times r hmem) (hI.times u hu)
    omega
  have hselected : r ∈ selectLatestAttendance number t :=
    mem_latestRows.mpr ⟨hmem, ⟨r, hmem, hr, rfl⟩, hle⟩
  cases hlast : (order.arrange (selectLatestAttendance number t)).getLast? with
  | none =>
      rw [List.getLast?_eq_none_iff] at hlast
      rw [hlast, List.nil_perm] at hperm
      exact absurd (hperm ▸ hselected) List.not_mem_nil
  | some u =>
      obtain ⟨hu, ⟨s, hs, hs', htime⟩, hlatest⟩ :=
        mem_latestRows.mp (hperm.mem_iff.mp (List.mem_of_getLast? hlast))
      have htime_le := hle s hs hs'
      have hle_time := hlatest r hmem hr
      refine ⟨attendanceAtt u, rfl, TimeYMD.eq_of_datetime_eq (hI.times u hu) (hI.times r hmem) ?_⟩
      show u.time.datetime = r.time.datetime
      omega

/-! ## One capture -/

theorem sec_sub_of_sameDay {s u : TimeYMD} (h : SameDay s u) :
    timeLocalYMD2Sec s - timeLocalYMD2Sec u = (s.secOfDay : ℤ) - u.secOfDay := by
  obtain ⟨hyear, hmonth, hday⟩ := h
  unfold timeLocalYMD2Sec
  rw [hyear, hmonth, hday]
  omega

/-- **When a capture is recorded.** It is, when its token is new: without a number; on another day than
    the employee's last record; and otherwise when it is due. -/
theorem setAttendanceRecord_cases (hI : WellKept t) (order : RowOrder) :
    ((c.usrid = "" ∨ Due t c.usrid c.snapTime ∨ ∃ r ∈ lastEntry t c.usrid, ¬ SameDay c.snapTime r.time) ∧
        (setAttendanceRecord order c t).2 = (mySqlCtrlAddAttendanceInfo c t).2) ∨
      (c.usrid ≠ "" ∧ ¬ Due t c.usrid c.snapTime ∧
        (∀ r ∈ lastEntry t c.usrid, SameDay c.snapTime r.time) ∧
        (setAttendanceRecord order c t).2 = t) := by
  by_cases hnumber : c.usrid = ""
  · refine .inl ⟨.inl hnumber, ?_⟩
    rw [setAttendanceRecord, mySqlCtrlGetLatestAttendanceInfo, if_pos hnumber]
  cases hlast : lastEntry t c.usrid with
  | none =>
      refine .inl ⟨.inr (.inl fun r hr => absurd (hlast.symm.trans hr) (by simp)), ?_⟩
      rw [setAttendanceRecord, getLatestAttendance_none hlast]
  | some r =>
      obtain ⟨info, hinfo, htime⟩ := getLatestAttendance_some hI hlast hnumber order
      have hdue : Due t c.usrid c.snapTime ↔
          timeLocalYMD2Sec r.time + 30 * 60 < timeLocalYMD2Sec c.snapTime := by
        simp [Due, hlast]
      rw [setAttendanceRecord, hinfo, hdue]
      simp only [htime, Option.mem_def, Option.some.injEq, exists_eq_left', forall_eq']
      split
      · next hcond =>
          refine .inl ⟨.inr ?_, rfl⟩
          by_cases hday : SameDay c.snapTime r.time
          · have hsub := sec_sub_of_sameDay hday
            obtain ⟨hyear, hmonth, hday⟩ := hday
            simp only [hyear, hmonth, hday, ne_eq, not_true, false_or] at hcond
            unfold TimeYMD.secOfDay at hsub
            exact .inl (by omega)
          · exact .inr hday
      · next hcond =>
          simp only [not_or, not_not] at hcond
          obtain ⟨hyear, hmonth, hday, hlate⟩ := hcond
          have hsub := sec_sub_of_sameDay ⟨hyear, hmonth, hday⟩
          unfold TimeYMD.secOfDay at hsub
          exact .inr ⟨hnumber, by omega, ⟨hyear, hmonth, hday⟩, rfl⟩

theorem addAttendanceInfo_fresh (h : ∀ r ∈ t.rows, r.id ≠ c.snapToken) :
    (mySqlCtrlAddAttendanceInfo c t).2.rows = t.rows ++ [attendanceRow c] := by
  rw [mySqlCtrlAddAttendanceInfo, dif_pos h]

theorem addAttendanceInfo_taken (h : ∃ r ∈ t.rows, r.id = c.snapToken) :
    (mySqlCtrlAddAttendanceInfo c t).2 = t := by
  obtain ⟨r, hr, hid⟩ := h
  rw [mySqlCtrlAddAttendanceInfo, dif_neg fun hfresh => hfresh r hr hid]

/-- Due means half an hour after every record of the employee. -/
theorem due_iff (hs : Spaced t) : Due t number now ↔ ∀ u ∈ t.rows, u.number = number →
    timeLocalYMD2Sec u.time + 30 * 60 < timeLocalYMD2Sec now := by
  constructor
  · intro hdue u hu hnumber
    cases hlast : lastEntry t number with
    | none => exact absurd hnumber (lastEntry_eq_none hlast u hu)
    | some r =>
        have hle := le_lastEntry hs hlast hu hnumber
        have hlt := hdue r hlast
        omega
  · intro hall r hr
    obtain ⟨hmem, hnumber⟩ := lastEntry_spec hr
    exact hall r hmem hnumber

/-- A record that is added keeps the records spaced exactly when it was due. -/
theorem spaced_append (hs : Spaced t) (h : t'.rows = t.rows ++ [attendanceRow c]) :
    Spaced t' ↔ Due t c.usrid c.snapTime := by
  rw [due_iff hs, Spaced, h, List.pairwise_append]
  simp only [List.pairwise_singleton, List.mem_singleton, forall_eq, true_and]
  exact and_iff_right hs

theorem rows_ne_append (row : AttendanceRow) : t.rows ≠ t.rows ++ [row] := by
  intro h
  have hlength := congrArg List.length h
  simp at hlength

theorem wellTimed_correct (hI : WellKept t) (hplain : e.capture.Plain) (hreg : WellTimed t e)
    (hstep : attendanceStep t e t') : WellKept t' ∧ AttendanceCorrect t e t' := by
  have ht' := hstep hplain
  by_cases hdue : Due t e.capture.attendanceattr.usrid e.capture.attendanceattr.snapTime
  · -- a capture that is due is recorded
    have hfresh := hreg.1 hdue
    rcases setAttendanceRecord_cases hI e.order (c := e.capture.attendanceattr) with
      ⟨-, hadd⟩ | ⟨-, hnot, -⟩
    · have hrows : t'.rows = t.rows ++ [attendanceRow e.capture.attendanceattr] := by
        rw [← ht', hadd, addAttendanceInfo_fresh hfresh]
      have hspaced := (spaced_append hI.spaced hrows).mpr hdue
      refine ⟨⟨fun r hr => ?_, hspaced⟩, hspaced, fun _ => hrows⟩
      rw [hrows, List.mem_append, List.mem_singleton] at hr
      rcases hr with hr | rfl
      · exact hI.times r hr
      · exact e.capture.isTime.1
    · exact absurd hdue hnot
  · -- one that is not changes nothing
    obtain rfl : t' = t := by
      rcases setAttendanceRecord_cases hI e.order (c := e.capture.attendanceattr) with
        ⟨hcond, hadd⟩ | ⟨-, -, -, hkeep⟩
      · rcases hreg.2 hdue with ⟨hnumber, hday⟩ | htaken
        · rcases hcond with hempty | hdue' | ⟨r, hr, hother⟩
          · exact absurd hempty hnumber
          · exact absurd hdue' hdue
          · exact absurd (hday r hr) hother
        · rw [← ht', hadd, addAttendanceInfo_taken htaken]
      · rw [← ht', hkeep]
    exact ⟨hI, hI.spaced, fun h => absurd h hdue⟩

theorem illTimed_incorrect (hI : WellKept t) (hplain : e.capture.Plain) (hreg : ¬ WellTimed t e)
    (hstep : attendanceStep t e t') : ¬ AttendanceCorrect t e t' := by
  intro hcorrect
  have ht' := hstep hplain
  refine hreg ⟨fun hdue => ?_, fun hdue => ?_⟩
  · -- it was recorded, so its token was new
    have hrows := hcorrect.recorded hdue
    by_contra htaken
    push Not at htaken
    have hadd : (mySqlCtrlAddAttendanceInfo e.capture.attendanceattr t).2 = t :=
      addAttendanceInfo_taken htaken
    rcases setAttendanceRecord_cases hI e.order (c := e.capture.attendanceattr) with
      ⟨-, hrun⟩ | ⟨-, hnot, -⟩
    · rw [← ht', hrun, hadd] at hrows
      exact rows_ne_append _ hrows
    · exact hnot hdue
  · -- it was not recorded, since the records are still spaced
    by_contra hcond
    push Not at hcond
    obtain ⟨hday, hfresh⟩ := hcond
    rcases setAttendanceRecord_cases hI e.order (c := e.capture.attendanceattr) with
      ⟨-, hrun⟩ | ⟨hnumber, -, hsame, -⟩
    · have hrows : t'.rows = t.rows ++ [attendanceRow e.capture.attendanceattr] := by
        rw [← ht', hrun, addAttendanceInfo_fresh hfresh]
      exact hdue ((spaced_append hI.spaced hrows).mp hcorrect.spaced)
    · obtain ⟨r, hr, hother⟩ := hday hnumber
      exact hother (hsame r hr)

/-! ## Histories -/

/-- **Half an hour apart.** In a history of captures without quotes and backslashes the records of each
    employee stay more than half an hour apart, and every capture that comes later than that after his
    last record is recorded, exactly if the captures are regular: none that is not due falls on
    another day than his last record. The order of the captures does not matter. -/
theorem attendance_spaced_iff {tr : List AttendanceEvent} :
    Run (stepThat AttendanceCorrect (stepWhen (fun _ e => e.capture.Plain) attendanceStep)) .empty tr t ↔
      Run (stepWhen WellTimed (stepWhen (fun _ e => e.capture.Plain) attendanceStep)) .empty tr t := by
  refine Run.each_iff WellKept ?_ ?_ ?_
  · exact ⟨fun r hr => absurd hr List.not_mem_nil, List.Pairwise.nil⟩
  · exact fun t e t' hI hreg hstep => wellTimed_correct hI hstep.1 hreg hstep.2
  · exact fun t e t' hI hreg hstep => illTimed_incorrect hI hstep.1 hreg hstep.2

/-- The same employee at ten to twelve at night and at ten past. -/
theorem midnight_recorded_twice :
    let before : AttendanceAtt := ⟨⟨2024, 1, 31, 23, 50, 0⟩, "", "Li", "", "", "1", "7"⟩
    let after : AttendanceAtt := ⟨⟨2024, 2, 1, 0, 10, 0⟩, "", "Li", "", "", "2", "7"⟩
    let t₁ := (setAttendanceRecord .asFound before .empty).2
    let t₂ := (setAttendanceRecord .asFound after t₁).2
    t₂.rows = [attendanceRow before, attendanceRow after] ∧
      timeLocalYMD2Sec after.snapTime - timeLocalYMD2Sec before.snapTime = 20 * 60 ∧
      ¬ Due t₁ after.usrid after.snapTime ∧ ¬ Spaced t₂ := by
  decide +kernel

end SmartPlat.AttendanceManage
