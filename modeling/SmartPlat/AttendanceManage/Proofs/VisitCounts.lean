import SmartPlat.AttendanceManage.Visits

set_option autoImplicit false

/-! # Numbers of visits, scores and levels

The number of visits in a month and the score are kept in the latest record of a visitor. They stay
right as long as it is his record that is read, and as long as a new month has another number and
begins after a break of two days. -/

namespace SmartPlat.AttendanceManage

open SmartPlat.Lib SmartPlat.MySql SmartPlat.MqttAPI SmartPlat.VehicleDataAnalysis CJsonItem

variable {t t' : VisitorsTable} {name : String} {r : VisitorsRow} {info : VIPCustomer} {zone : ℤ}

/-! ## What the records say -/

/-- The last record of a visitor. -/
def latestRecord (t : VisitorsTable) (name : String) : Option VisitorsRow :=
  (t.rows.filter fun r => r.name = name).getLast?

/-- The same calendar month. -/
def SameMonth (s u : TimeYMD) : Prop := s.year = u.year ∧ s.month = u.month

instance (s u : TimeYMD) : Decidable (SameMonth s u) :=
  inferInstanceAs (Decidable (s.year = u.year ∧ s.month = u.month))

/-- The recorded visits of a visitor in the month of `time`. -/
def monthVisits (t : VisitorsTable) (name : String) (time : TimeYMD) : ℕ :=
  t.rows.countP fun r => r.name = name ∧ SameMonth r.time time

/-- The whole days between two times. -/
def daysBetween (last now : TimeYMD) : ℤ := (timeLocalYMD2Sec now - timeLocalYMD2Sec last) / (3600 * 24)

/-- The score of a visitor at `now`, before a visit. -/
def decayedScore (t : VisitorsTable) (name : String) (now : TimeYMD) : ℤ :=
  match latestRecord t name with
  | none => 0
  | some r =>
      if daysBetween r.time now > 1 then decayed r.gradescore (daysBetween r.time now) else r.gradescore

/-- What a call of `AddVisitorsInfo` should leave: the number of visits of the month in the record it
    adds, 200 more for the first of a month, no negative score, and in the message what the latest
    record says. -/
structure VisitCorrect (t : VisitorsTable) (e : VisitEvent) (t' : VisitorsTable) : Prop where
  counted : ∀ r, t'.rows = t.rows ++ [r] → r.frequency = (monthVisits t' r.name r.time : ℤ)
  first : ∀ r, t'.rows = t.rows ++ [r] → monthVisits t r.name r.time = 0 →
    r.frequency = 1 ∧ r.gradescore = decayedScore t r.name r.time + 200
  nonneg : ∀ r ∈ t'.rows, 0 ≤ r.gradescore
  pushed : Ends e.pushed fun pushed => ∀ c ∈ pushed, ∃ r, latestRecord t' c.name = some r ∧
    c.StoreFrequency = r.frequency ∧ c.GradeScore = r.gradescore

theorem latestRecord_spec (h : latestRecord t name = some r) : r ∈ t.rows ∧ r.name = name := by
  obtain ⟨hmem, hname⟩ := List.mem_filter.1 (List.mem_of_getLast? h)
  exact ⟨hmem, of_decide_eq_true hname⟩

theorem latestRecord_eq_none (h : latestRecord t name = none) : ∀ u ∈ t.rows, u.name ≠ name := by
  intro u hu hname
  rw [latestRecord, List.getLast?_eq_none_iff] at h
  exact List.not_mem_nil (h ▸ List.mem_filter.2 ⟨hu, decide_eq_true hname⟩)

theorem latestRecord_concat (h : t'.rows = t.rows ++ [r]) :
    latestRecord t' name = if r.name = name then some r else latestRecord t name := by
  rw [latestRecord, h, List.filter_append]
  by_cases hname : r.name = name
  · have hone : [r].filter (fun r => r.name = name) = [r] := by simp [hname]
    rw [if_pos hname, hone, List.getLast?_concat]
  · have hnone : [r].filter (fun r => r.name = name) = [] := by simp [hname]
    rw [if_neg hname, hnone, List.append_nil, latestRecord]

theorem monthVisits_concat (h : t'.rows = t.rows ++ [r]) (time : TimeYMD) :
    monthVisits t' name time =
      monthVisits t name time + if r.name = name ∧ SameMonth r.time time then 1 else 0 := by
  rw [monthVisits, h, List.countP_append, List.countP_singleton, monthVisits]
  simp only [decide_eq_true_iff]

theorem monthVisits_congr {s u : TimeYMD} (h : SameMonth s u) :
    monthVisits t name s = monthVisits t name u := by
  refine List.countP_congr fun r _ => ?_
  rw [decide_eq_true_iff, decide_eq_true_iff]
  simp only [SameMonth, h.1, h.2]

theorem monthVisits_eq_zero {time : TimeYMD} :
    monthVisits t name time = 0 ↔ ∀ u ∈ t.rows, u.name = name → ¬ SameMonth u.time time := by
  rw [monthVisits, List.countP_eq_zero]
  simp only [decide_eq_true_iff, not_and]

/-! ## Months -/

/-- Between two times of one month there is no other month. -/
theorem sameMonth_of_between {s u v : TimeYMD} (hs : s.Valid) (hu : u.Valid) (hv : v.Valid)
    (hsu : s.datetime ≤ u.datetime) (huv : u.datetime ≤ v.datetime) (h : SameMonth s v) :
    SameMonth u v := by
  have hs1 := TimeYMD.secOfDay_lt hs
  have hu1 := TimeYMD.secOfDay_lt hu
  have hv1 := TimeYMD.secOfDay_lt hv
  have hds := daysInMonth_le s.year s.month
  have hdu := daysInMonth_le u.year u.month
  have hdv := daysInMonth_le v.year v.month
  obtain ⟨⟨-, -, -, hs2⟩, -⟩ := hs
  obtain ⟨⟨hu3, hu4, -, hu2⟩, -⟩ := hu
  obtain ⟨⟨hv3, hv4, -, hv2⟩, -⟩ := hv
  obtain ⟨hyear, hmonth⟩ := h
  unfold TimeYMD.datetime at hsu huv
  unfold SameMonth
  omega

/-! ## The record that is read -/

/-- What holds as long as the visits are regular. -/
structure Counted (t : VisitorsTable) : Prop where
  times : ∀ r ∈ t.rows, r.time.Valid
  nonneg : ∀ r ∈ t.rows, 0 ≤ r.gradescore
  latest : ∀ name r, latestRecord t name = some r →
    ∀ u ∈ t.rows, u.name = name → u.time.datetime ≤ r.time.datetime
  counted : ∀ name r, latestRecord t name = some r → r.frequency = (monthVisits t name r.time : ℤ)

theorem selectLatest_eq (hI : Counted t) (h : latestRecord t name = some r) :
    selectLatest name t = t.rows.filter fun u => u.time.datetime = r.time.datetime := by
  obtain ⟨hmem, hname⟩ := latestRecord_spec h
  have hmax : ((t.rows.filter fun r => r.name = name).map fun r => r.time.datetime).max?
      = some r.time.datetime := by
    rw [List.max?_eq_some_iff]
    refine ⟨List.mem_map.2 ⟨r, List.mem_filter.2 ⟨hmem, decide_eq_true hname⟩, rfl⟩, ?_⟩
    rw [List.forall_mem_map]
    intro u hu
    obtain ⟨hu, huname⟩ := List.mem_filter.1 hu
    exact hI.latest name r h u hu (of_decide_eq_true huname)
  rw [selectLatest, hmax]

/-- A visitor with a record: the row that is read has the time of his latest. -/
theorem getLatest_some (hI : Counted t) (h : latestRecord t name = some r) (hname : name ≠ "")
    (order : RowOrder) : ∃ u ∈ t.rows, u.time = r.time ∧
      mySqlCtrlGetLatestVisitorsInfo order name t = some (vipCustomer u) := by
  obtain ⟨hmem, -⟩ := latestRecord_spec h
  have hperm := order.perm (selectLatest name t)
  rw [selectLatest_eq hI h] at hperm
  rw [mySqlCtrlGetLatestVisitorsInfo, if_neg hname, selectLatest_eq hI h]
  cases hlast : (order.arrange (t.rows.filter fun u => u.time.datetime = r.time.datetime)).getLast? with
  | none =>
      rw [List.getLast?_eq_none_iff] at hlast
      rw [hlast, List.nil_perm, List.filter_eq_nil_iff] at hperm
      exact absurd (decide_eq_true rfl) (hperm r hmem)
  | some u =>
      obtain ⟨hu, htime⟩ := List.mem_filter.1 (hperm.mem_iff.1 (List.mem_of_getLast? hlast))
      exact ⟨u, hu, TimeYMD.eq_of_datetime_eq (hI.times u hu) (hI.times r hmem)
        (of_decide_eq_true htime), rfl⟩

/-- A visitor without one. -/
theorem getLatest_none (h : latestRecord t name = none) (order : RowOrder) :
    mySqlCtrlGetLatestVisitorsInfo order name t = none := by
  have hnone : selectLatest name t = [] := by
    rw [latestRecord, List.getLast?_eq_none_iff] at h
    rw [selectLatest, h]
    rfl
  rw [mySqlCtrlGetLatestVisitorsInfo, hnone, List.perm_nil.1 (order.perm [])]
  split <;> rfl

/-! ## Steps -/

theorem addVisitorsInfo_rows (h : ∀ r ∈ t.rows, r.id ≠ info.snapToken) :
    (mySqlCtrlAddVisitorsInfo info t).2.rows = t.rows ++ [visitorsRow info] := by
  rw [mySqlCtrlAddVisitorsInfo, dif_pos h]

/-- A record with the right number and score keeps the records right. -/
theorem Counted.store (hI : Counted t) {e : VisitEvent} (hpushed : e.pushed = .ok (some info))
    (hrows : t'.rows = t.rows ++ [visitorsRow info]) (htime : info.snapTime.Valid)
    (hnonneg : 0 ≤ info.GradeScore)
    (hlatest : ∀ u ∈ t.rows, u.name = info.name → u.time.datetime ≤ info.snapTime.datetime)
    (hcount : info.StoreFrequency = (monthVisits t info.name info.snapTime : ℤ) + 1)
    (hfirst : monthVisits t info.name info.snapTime = 0 →
      info.GradeScore = decayedScore t info.name info.snapTime + 200) :
    Counted t' ∧ VisitCorrect t e t' := by
  have hmem : ∀ {u}, u ∈ t'.rows ↔ u ∈ t.rows ∨ u = visitorsRow info := by
    intro u
    rw [hrows, List.mem_append, List.mem_singleton]
  have hcounted : (visitorsRow info).frequency =
      (monthVisits t' (visitorsRow info).name (visitorsRow info).time : ℤ) := by
    rw [monthVisits_concat hrows, if_pos ⟨rfl, rfl, rfl⟩]
    exact hcount
  have hlast : latestRecord t' info.name = some (visitorsRow info) := by
    rw [latestRecord_concat hrows]
    exact if_pos rfl
  have hkept : ∀ u ∈ t'.rows, 0 ≤ u.gradescore := by
    intro u hu
    rcases hmem.1 hu with hu | rfl
    · exact hI.nonneg u hu
    · exact hnonneg
  have hadded : ∀ {r}, t'.rows = t.rows ++ [r] → r = visitorsRow info := by
    intro r hr
    exact List.singleton_inj.1 (List.append_cancel_left (hr.symm.trans hrows))
  refine ⟨⟨?_, hkept, ?_, ?_⟩, ⟨?_, ?_, hkept, ?_⟩⟩
  · intro u hu
    rcases hmem.1 hu with hu | rfl
    · exact hI.times u hu
    · exact htime
  -- the new record is the latest of its visitor, and every other visitor keeps his
  · intro name r hr u hu hname
    rw [latestRecord_concat hrows] at hr
    split at hr
    · next heq =>
        obtain rfl := Option.some.inj hr
        rcases hmem.1 hu with hu | rfl
        · exact hlatest u hu (hname.trans heq.symm)
        · exact Nat.le_refl _
    · next hne =>
        rcases hmem.1 hu with hu | rfl
        · exact hI.latest name r hr u hu hname
        · exact absurd hname hne
  · intro name r hr
    rw [latestRecord_concat hrows] at hr
    split at hr
    · next heq =>
        obtain rfl := Option.some.inj hr
        exact heq ▸ hcounted
    · next hne =>
        rw [monthVisits_concat hrows, if_neg fun h => hne h.1]
        exact hI.counted name r hr
  · intro r hr
    obtain rfl := hadded hr
    exact hcounted
  · intro r hr hzero
    obtain rfl := hadded hr
    refine ⟨?_, hfirst hzero⟩
    have hzero' : monthVisits t info.name info.snapTime = 0 := hzero
    rw [hzero'] at hcount
    exact hcount
  · refine ⟨_, hpushed, fun c hc => ?_⟩
    obtain rfl := Option.some.inj hc
    exact ⟨visitorsRow info, hlast, rfl, rfl⟩

/-- A call that records nothing, with a message that says what the latest record says or none. -/
theorem Counted.keep (hI : Counted t) {e : VisitEvent}
    (hpushed : Ends e.pushed fun pushed => ∀ c ∈ pushed, ∃ r, latestRecord t c.name = some r ∧
      c.StoreFrequency = r.frequency ∧ c.GradeScore = r.gradescore) :
    Counted t ∧ VisitCorrect t e t := by
  have hnone : ∀ r, t.rows ≠ t.rows ++ [r] := by
    intro r h
    have hlen := congrArg List.length h
    rw [List.length_append, List.length_singleton] at hlen
    omega
  exact ⟨hI, ⟨fun r hr => absurd hr (hnone r), fun r hr => absurd hr (hnone r), hI.nonneg, hpushed⟩⟩

/-! ## Regular visits -/

/-- The message of a capture with this number of visits fits `sendMsg`, with a NUL behind it. -/
def Fits (c : VIPCustomer) (StoreFrequency : ℤ) : Prop :=
  2 * escapedLength (.ofBuffer (utf8 c.snapToken)) + escapedLength (.ofBuffer (utf8 c.name)) +
    (decimalInt StoreFrequency).length + escapedLength (minuteText c.snapTime) +
    escapedLength (.ofBuffer (utf8 c.plateImagePath)) + escapedLength (.ofBuffer (utf8 c.snapImagePath)) +
    168 < 512

/-- A visit in the month of the latest record `r`: all that was recorded at the same second has the
    same number of visits. -/
def Continues (t : VisitorsTable) (r : VisitorsRow) (c : VIPCustomer) : Prop :=
  SameMonth r.time c.snapTime ∧ (∀ u ∈ t.rows, u.time = r.time → u.frequency = r.frequency) ∧
    Fits c (r.frequency + 1)

/-- A visit in a month with another number, two days later or more: all that was recorded at the second
    of the latest record `r` comes to the same score by now. -/
def StartsMonth (zone : ℤ) (t : VisitorsTable) (r : VisitorsRow) (c : VIPCustomer) : Prop :=
  r.time.month ≠ c.snapTime.month ∧ 1 < interval zone r.time c.snapTime ∧
    (∀ u ∈ t.rows, u.time = r.time → decayed u.gradescore (interval zone r.time c.snapTime) =
      decayed r.gradescore (daysBetween r.time c.snapTime)) ∧
    Fits c 1

/-- A capture `c` that comes after the record `last` of its visitor. The seconds are those that are left
    of an `int`. -/
def RegularAfter (zone : ℤ) (t : VisitorsTable) (c : VIPCustomer) : Option VisitorsRow → Prop
  | none => (∀ u ∈ t.rows, u.id ≠ c.snapToken) ∧ Fits c 1
  | some r =>
      c.name ≠ "" ∧
        (intTimeLocalYMD2Sec zone c.snapTime ≤ intTimeLocalYMD2Sec zone r.time + 60 ∨
          intTimeLocalYMD2Sec zone c.snapTime ≤ intTimeLocalYMD2Sec zone r.time + 30 * 60 ∧
            c.StoreFrequency = r.frequency ∧ c.GradeScore = r.gradescore ∧ Fits c c.StoreFrequency ∨
          intTimeLocalYMD2Sec zone c.snapTime > intTimeLocalYMD2Sec zone r.time + 30 * 60 ∧
            r.time.datetime < c.snapTime.datetime ∧ (∀ u ∈ t.rows, u.id ≠ c.snapToken) ∧
            (Continues t r c ∨ StartsMonth zone t r c))

instance (c : VIPCustomer) (StoreFrequency : ℤ) : Decidable (Fits c StoreFrequency) :=
  inferInstanceAs (Decidable (_ < _))

instance (t : VisitorsTable) (r : VisitorsRow) (c : VIPCustomer) : Decidable (Continues t r c) :=
  inferInstanceAs (Decidable (_ ∧ (∀ u ∈ t.rows, _ → _) ∧ _))

instance (t : VisitorsTable) (r : VisitorsRow) (c : VIPCustomer) : Decidable (StartsMonth zone t r c) :=
  inferInstanceAs (Decidable (¬ _ ∧ _ ∧ (∀ u ∈ t.rows, _ → _) ∧ _))

instance (t : VisitorsTable) (c : VIPCustomer) (last : Option VisitorsRow) :
    Decidable (RegularAfter zone t c last) :=
  match last with
  | none => inferInstanceAs (Decidable ((∀ u ∈ t.rows, u.id ≠ c.snapToken) ∧ _))
  | some _ => inferInstanceAs (Decidable (c.name ≠ "" ∧
      (_ ∨ _ ∧ _ ∧ _ ∧ _ ∨ _ ∧ _ ∧ (∀ u ∈ t.rows, _) ∧ (_ ∨ _))))

/-- The captures that are counted right: the first of a visitor; and later ones within a minute, or
    within half an hour with the values of his record, or after it in the same month or in one that has
    another number. -/
def Regular (zone : ℤ) (t : VisitorsTable) (e : VisitEvent) : Prop :=
  e.capture.Plain ∧ RegularAfter zone t e.capture.vipcustomerattr
    (latestRecord t e.capture.vipcustomerattr.name)

instance (t : VisitorsTable) (e : VisitEvent) : Decidable (Regular zone t e) :=
  inferInstanceAs (Decidable (_ ∧ _))

/-! ## The message -/

/-- The first comparison is 0 or 1 and always below 250. -/
theorem getGradeLevel_eq (g : ℤ) : getGradeLevel g = if g = 0 then 0 else 1 := by
  have hless : less (less 0 g) 250 ≠ 0 := by
    unfold less
    split <;> decide
  unfold getGradeLevel
  by_cases hg : g = 0
  · rw [if_pos hg, if_pos hg.symm]
  · rw [if_neg hg, if_neg fun h => hg h.symm, if_pos hless]

theorem length_message (info : VIPCustomer) : (pushVisitorsItem info).printUnformatted.bytes.length =
    2 * escapedLength (.ofBuffer (utf8 info.snapToken)) + escapedLength (.ofBuffer (utf8 info.name)) +
      (decimalInt info.StoreFrequency).length + escapedLength (minuteText info.snapTime) +
      escapedLength (.ofBuffer (utf8 info.plateImagePath)) +
      escapedLength (.ofBuffer (utf8 info.snapImagePath)) + 168 := by
  have hnames : escapedLength (literal "cmd") = 3 ∧ escapedLength (literal "method") = 6 ∧
      escapedLength (literal "msgid") = 5 ∧ escapedLength (literal "data") = 4 ∧
      escapedLength (literal "name") = 4 ∧ escapedLength (literal "gradescore") = 10 ∧
      escapedLength (literal "storefrequency") = 14 ∧ escapedLength (literal "time") = 4 ∧
      escapedLength (literal "plateimagepath") = 14 ∧ escapedLength (literal "snapimagepath") = 13 ∧
      escapedLength (literal "snaptoken") = 9 := by
    decide
  have hvalues : escapedLength (.ofBuffer (utf8 "pushvisitors")) = 12 ∧
      escapedLength (.ofBuffer (utf8 "request")) = 7 := by
    decide
  have hlevel : (decimalInt (getGradeLevel info.GradeScore)).length = 1 := by
    rw [getGradeLevel_eq]
    split <;> decide
  simp only [pushVisitorsItem, captureItem, text, printUnformatted, List.map_cons, List.map_nil,
    printValue, printObject, List.length_append, List.length_cons, List.length_nil,
    length_printStringPtr, hnames, hvalues, hlevel]
  omega

/-- A message that fits is pushed. -/
theorem pushed_of_fits (h : Fits info info.StoreFrequency) : pushed info = .ok (some info) := by
  rw [Fits, ← length_message] at h
  have hread : ((CharBuffer.zeros 512).overwrite _ h.le).read = .ok _ :=
    if_pos (CharBuffer.terminated_of_short h)
  rw [pushed, jsonMapPushVisitors, CharBuffer.memcpy, dif_pos h.le]
  exact congrArg (Except.map fun _ => some info) hread

/-! ## Captures that are recorded -/

theorem decayed_nonneg (GradeScore interval : ℤ) : 0 ≤ decayed GradeScore interval := by
  unfold decayed
  split <;> omega

theorem recorded_nonneg {last : VIPCustomer} (h : 0 ≤ last.GradeScore) :
    0 ≤ (recorded zone last info).GradeScore := by
  have hdecayed := decayed_nonneg last.GradeScore (interval zone last.snapTime info.snapTime)
  unfold recorded
  split
  · split
    · exact Int.add_nonneg hdecayed (Int.natCast_nonneg 200)
    · exact Int.add_nonneg hdecayed (Int.natCast_nonneg 100)
  · exact h

/-- Only the score and the number of visits are set. -/
theorem recorded_eq (zone : ℤ) (last info : VIPCustomer) : ∃ GradeScore StoreFrequency,
    recorded zone last info =
      { info with GradeScore := GradeScore, StoreFrequency := StoreFrequency } := by
  unfold recorded
  split
  · split <;> exact ⟨_, _, rfl⟩
  · exact ⟨_, _, rfl⟩

/-- In a month with the same number, one visit more. -/
theorem recorded_sameMonth {last : VIPCustomer} (h : last.snapTime.month = info.snapTime.month) :
    (recorded zone last info).StoreFrequency = last.StoreFrequency + 1 := by
  unfold recorded
  rw [if_neg (not_not.2 h)]
  split <;> rfl

/-- In one with another number, after two days. -/
theorem recorded_startsMonth {last : VIPCustomer} (h : last.snapTime.month ≠ info.snapTime.month)
    (hdays : 1 < interval zone last.snapTime info.snapTime) :
    (recorded zone last info).StoreFrequency = 1 ∧ (recorded zone last info).GradeScore =
      decayed last.GradeScore (interval zone last.snapTime info.snapTime) + 200 := by
  unfold recorded
  rw [if_pos hdays, if_pos h]
  exact ⟨rfl, rfl⟩

/-- What is lost of the seconds can only make an interval shorter. -/
theorem interval_le_daysBetween {s u : TimeYMD} (h : timeLocalYMD2Sec s < timeLocalYMD2Sec u)
    (hcut : intTimeLocalYMD2Sec zone s < intTimeLocalYMD2Sec zone u) :
    interval zone s u ≤ daysBetween s u := by
  unfold interval daysBetween
  unfold intTimeLocalYMD2Sec at *
  omega

/-- The first capture of a visitor. -/
theorem Counted.first (hI : Counted t) {e : VisitEvent} {c : VIPCustomer}
    (hlatest : latestRecord t c.name = none) (hnew : ∀ u ∈ t.rows, u.id ≠ c.snapToken)
    (htime : c.snapTime.Valid)
    (hpushed : e.pushed = .ok (some { c with StoreFrequency := 1, GradeScore := 200 }))
    (ht' : t' = (mySqlCtrlAddVisitorsInfo { c with StoreFrequency := 1, GradeScore := 200 } t).2) :
    Counted t' ∧ VisitCorrect t e t' := by
  have hnone := latestRecord_eq_none hlatest
  have hzero : monthVisits t c.name c.snapTime = 0 :=
    monthVisits_eq_zero.2 fun u hu hname => absurd hname (hnone u hu)
  refine hI.store hpushed (ht' ▸ addVisitorsInfo_rows hnew) htime (Int.natCast_nonneg 200) ?_ ?_ ?_
  · intro u hu hname
    exact absurd hname (hnone u hu)
  · rw [hzero]
    rfl
  · intro _
    rw [decayedScore, hlatest]
    rfl

/-- A message of what is recorded fits, whichever row `u` of that second was read. -/
theorem fits_recorded {c : VIPCustomer} {u : VisitorsRow} (hu : u ∈ t.rows) (hutime : u.time = r.time)
    (hmonth : Continues t r c ∨ StartsMonth zone t r c) :
    Fits (recorded zone (vipCustomer u) c) (recorded zone (vipCustomer u) c).StoreFrequency := by
  have hlast : (vipCustomer u).snapTime = r.time := hutime
  have hfits : Fits c (recorded zone (vipCustomer u) c).StoreFrequency := by
    rcases hmonth with ⟨hsame, hequal, hfits⟩ | ⟨hother, hdays, -, hfits⟩
    · rw [recorded_sameMonth (hlast ▸ hsame.2)]
      show Fits c (u.frequency + 1)
      rwa [hequal u hu hutime]
    · rwa [(recorded_startsMonth (hlast ▸ hother) (hlast ▸ hdays)).1]
  obtain ⟨GradeScore, StoreFrequency, heq⟩ := recorded_eq zone (vipCustomer u) c
  rw [heq] at hfits ⊢
  exact hfits

/-- A capture half an hour after the record `r` or later. The row `u` that is read was recorded at the
    same second. -/
theorem Counted.later (hI : Counted t) {e : VisitEvent} {c : VIPCustomer} {u : VisitorsRow}
    (hlatest : latestRecord t c.name = some r) (hu : u ∈ t.rows) (hutime : u.time = r.time)
    (hbefore : r.time.datetime < c.snapTime.datetime)
    (hcut : intTimeLocalYMD2Sec zone r.time < intTimeLocalYMD2Sec zone c.snapTime)
    (hnew : ∀ v ∈ t.rows, v.id ≠ c.snapToken)
    (hmonth : Continues t r c ∨ StartsMonth zone t r c) (htime : c.snapTime.Valid)
    (hpushed : e.pushed = .ok (some (recorded zone (vipCustomer u) c)))
    (ht' : t' = (mySqlCtrlAddVisitorsInfo (recorded zone (vipCustomer u) c) t).2) :
    Counted t' ∧ VisitCorrect t e t' := by
  have hlast : (vipCustomer u).snapTime = r.time := hutime
  obtain ⟨hr, hrname⟩ := latestRecord_spec hlatest
  have hframe : (recorded zone (vipCustomer u) c).name = c.name ∧
      (recorded zone (vipCustomer u) c).snapTime = c.snapTime ∧
      (recorded zone (vipCustomer u) c).snapToken = c.snapToken := by
    obtain ⟨GradeScore, StoreFrequency, heq⟩ := recorded_eq zone (vipCustomer u) c
    rw [heq]
    exact ⟨rfl, rfl, rfl⟩
  obtain ⟨hkname, hktime, hktoken⟩ := hframe
  have hrtime := hI.times r hr
  have hlatestBefore : ∀ v ∈ t.rows, v.name = c.name → v.time.datetime ≤ r.time.datetime :=
    hI.latest c.name r hlatest
  have hrows : t'.rows = t.rows ++ [visitorsRow (recorded zone (vipCustomer u) c)] := by
    rw [ht']
    refine addVisitorsInfo_rows ?_
    rwa [hktoken]
  have hvalid : (recorded zone (vipCustomer u) c).snapTime.Valid := by rwa [hktime]
  refine hI.store hpushed hrows hvalid (recorded_nonneg (hI.nonneg u hu)) ?_ ?_ ?_
  · rw [hkname, hktime]
    intro v hv hvname
    exact Nat.le_trans (hlatestBefore v hv hvname) (Nat.le_of_lt hbefore)
  · rw [hkname, hktime]
    rcases hmonth with ⟨hsame, hequal, -⟩ | ⟨hother, hdays, -⟩
    · rw [recorded_sameMonth (hlast ▸ hsame.2), ← monthVisits_congr hsame,
        ← hI.counted c.name r hlatest]
      exact congrArg (· + 1) (hequal u hu hutime)
    · -- a visit of this month would come before `r`, and put `r` into the month as well
      have hzero : monthVisits t c.name c.snapTime = 0 := by
        refine monthVisits_eq_zero.2 fun v hv hvname hvmonth => ?_
        exact hother (sameMonth_of_between (hI.times v hv) hrtime htime (hlatestBefore v hv hvname)
          (Nat.le_of_lt hbefore) hvmonth).2
      rw [(recorded_startsMonth (hlast ▸ hother) (hlast ▸ hdays)).1, hzero]
      rfl
  · rw [hkname, hktime]
    intro hzero
    rcases hmonth with ⟨hsame, -⟩ | ⟨hother, hdays, hequal, -⟩
    · exact absurd hsame (monthVisits_eq_zero.1 hzero r hr hrname)
    · have hreal : 1 < daysBetween r.time c.snapTime := lt_of_lt_of_le hdays
        (interval_le_daysBetween ((TimeYMD.datetime_lt_iff hrtime htime).1 hbefore) hcut)
      rw [(recorded_startsMonth (hlast ▸ hother) (hlast ▸ hdays)).2, decayedScore, hlatest, hlast]
      dsimp only
      rw [if_pos hreal]
      exact congrArg (· + 200) (hequal u hu hutime)

/-- **A regular capture is counted right.** -/
theorem Counted.step (hI : Counted t) {e : VisitEvent} (hcond : Regular zone t e)
    (hstep : visitStep zone t e t') : Counted t' ∧ VisitCorrect t e t' := by
  obtain ⟨⟨c, htime, hyear⟩, order, result⟩ := e
  obtain ⟨hplain, hcond⟩ := hcond
  have hrun := hstep hplain
  dsimp only at hcond hrun
  rw [addVisitorsInfo] at hrun
  cases hlatest : latestRecord t c.name with
  | none =>
      rw [hlatest] at hcond
      obtain ⟨hnew, hfits⟩ := hcond
      rw [getLatest_none hlatest] at hrun
      obtain ⟨rfl, rfl⟩ := Prod.mk.inj hrun
      exact hI.first hlatest hnew htime (pushed_of_fits hfits) rfl
  | some r =>
      rw [hlatest] at hcond
      obtain ⟨hname, hcond⟩ := hcond
      obtain ⟨u, hu, hutime, hread⟩ := getLatest_some hI hlatest hname order
      have hlast : (vipCustomer u).snapTime = r.time := hutime
      rw [hread] at hrun
      simp only [hlast] at hrun
      rcases hcond with hminute | ⟨hhalf, hfrequency, hscore, hfits⟩ | ⟨hlater, hbefore, hnew, hmonth⟩
      -- within a minute nothing is sent, within half an hour the capture as it came
      · rw [if_neg (by omega), if_neg (by omega)] at hrun
        obtain ⟨rfl, rfl⟩ := Prod.mk.inj hrun
        exact hI.keep (ends_ok.2 fun c hc => nomatch hc)
      · rw [if_neg (by omega)] at hrun
        split at hrun
        · obtain ⟨rfl, rfl⟩ := Prod.mk.inj hrun
          refine hI.keep ⟨_, pushed_of_fits hfits, fun c' hc' => ?_⟩
          obtain rfl := Option.some.inj hc'
          exact ⟨r, hlatest, hfrequency, hscore⟩
        · obtain ⟨rfl, rfl⟩ := Prod.mk.inj hrun
          exact hI.keep (ends_ok.2 fun c hc => nomatch hc)
      · rw [if_pos (by omega)] at hrun
        obtain ⟨hresult, hafter⟩ := Prod.mk.inj hrun
        refine hI.later hlatest hu hutime hbefore (by omega) hnew hmonth htime ?_ hafter.symm
        exact hresult.symm.trans (pushed_of_fits (fits_recorded hu hutime hmonth))

theorem counted_empty : Counted .empty :=
  ⟨fun _ h => absurd h List.not_mem_nil, fun _ h => absurd h List.not_mem_nil,
    fun _ _ h => (nomatch h), fun _ _ h => (nomatch h)⟩

/-- **When the records of visitors are right.** In every run whose captures are regular, each call of
    `AddVisitorsInfo` leaves the number of visits, the score and the message as they should be. -/
theorem visits_counted {tr : List VisitEvent}
    (h : Run (stepWhen (Regular zone) (visitStep zone)) .empty tr t) :
    Run (stepThat VisitCorrect (visitStep zone)) .empty tr t := by
  refine h.each Counted counted_empty ?_
  intro t e t' hI hcond hstep
  exact hI.step hcond hstep

/-- Local time in China. -/
def zone8 : ℤ := 8 * 3600

/-- A capture for concrete runs, with the call on a table. -/
def sampleEvent (t : VisitorsTable) (name token : String) (time : TimeYMD)
    (h : time.Valid ∧ time.year ≤ 9999) : VisitEvent where
  capture := ⟨⟨0, 0, time, name, "", "", token⟩, h⟩
  order := .asFound
  pushed := (addVisitorsInfo zone8 .asFound ⟨0, 0, time, name, "", "", token⟩ t).1

/-- The table after such a call. -/
def afterEvent (t : VisitorsTable) (e : VisitEvent) : VisitorsTable :=
  (addVisitorsInfo zone8 e.order e.capture.vipcustomerattr t).2

theorem visitStep_sample (t : VisitorsTable) (name token : String) (time : TimeYMD)
    (h : time.Valid ∧ time.year ≤ 9999) :
    visitStep zone8 t (sampleEvent t name token time h) (afterEvent t (sampleEvent t name token time h)) :=
  fun _ => rfl

/-- A visit on the last day of January. -/
def januaryEvent : VisitEvent := sampleEvent .empty "Li" "1" ⟨2024, 1, 31, 12, 0, 0⟩ (by decide)

/-- Another visitor half a minute later. -/
def otherEvent : VisitEvent :=
  sampleEvent (afterEvent .empty januaryEvent) "Wang" "2" ⟨2024, 1, 31, 12, 0, 30⟩ (by decide)

/-- The first one again, four days later. -/
def februaryEvent (t : VisitorsTable) : VisitEvent :=
  sampleEvent t "Li" "3" ⟨2024, 2, 4, 12, 0, 0⟩ (by decide)

/-- And two days after that. -/
def againEvent (t : VisitorsTable) : VisitEvent :=
  sampleEvent t "Li" "4" ⟨2024, 2, 6, 12, 0, 0⟩ (by decide)

def twoVisitors : VisitorsTable := afterEvent (afterEvent .empty januaryEvent) otherEvent

def threeVisits : VisitorsTable := afterEvent twoVisitors (februaryEvent twoVisitors)

/-- Two visitors; one of them comes back in the next month, twice. -/
theorem visits_counted_sample :
    Run (stepThat VisitCorrect (visitStep zone8)) .empty
        [januaryEvent, otherEvent, februaryEvent twoVisitors, againEvent threeVisits]
        (afterEvent threeVisits (againEvent threeVisits)) ∧
      (afterEvent threeVisits (againEvent threeVisits)).rows.map (fun r => (r.name, r.frequency,
        r.gradescore)) = [("Li", 1, 200), ("Wang", 1, 200), ("Li", 1, 360), ("Li", 2, 440)] :=
  ⟨visits_counted ((((Run.nil.snoc ⟨by decide, visitStep_sample _ _ _ _ _⟩).snoc
      ⟨by decide +kernel, visitStep_sample _ _ _ _ _⟩).snoc
      ⟨by decide +kernel, visitStep_sample _ _ _ _ _⟩).snoc
      ⟨by decide +kernel, visitStep_sample _ _ _ _ _⟩),
    by decide +kernel⟩

/-- A visit on the next day. -/
def nextDayEvent : VisitEvent :=
  sampleEvent (afterEvent .empty januaryEvent) "Li" "2" ⟨2024, 2, 1, 20, 0, 0⟩ (by decide)

/-- It is the first of February, and is counted as the second. -/
theorem new_month_missed :
    Run (visitStep zone8) .empty [januaryEvent] (afterEvent .empty januaryEvent) ∧
      visitStep zone8 (afterEvent .empty januaryEvent) nextDayEvent
        (afterEvent (afterEvent .empty januaryEvent) nextDayEvent) ∧
      ¬ VisitCorrect (afterEvent .empty januaryEvent) nextDayEvent
        (afterEvent (afterEvent .empty januaryEvent) nextDayEvent) := by
  refine ⟨Run.nil.snoc (visitStep_sample _ _ _ _ _), visitStep_sample _ _ _ _ _, fun h => ?_⟩
  have hrow : (afterEvent (afterEvent .empty januaryEvent) nextDayEvent).rows =
      (afterEvent .empty januaryEvent).rows ++
        [⟨"2", "Li", "2", "", ⟨2024, 2, 1, 20, 0, 0⟩, 200, 2, "", ""⟩] := by
    decide +kernel
  exact absurd (h.first _ hrow (by decide)).1 (by decide)

/-! ## Levels -/

/-- The table of levels beside `AddVisitorsInfo`: nothing; up to 250, 500, 750 and 1000; above. -/
def gradeBand (score : ℤ) : ℤ :=
  if score ≤ 0 then 0
  else if score ≤ 250 then 1
  else if score ≤ 500 then 2
  else if score ≤ 750 then 3
  else if score ≤ 1000 then 4
  else 5

/-- What the visitor list should show for records: the band of each score, so that a higher score is
    never shown with a lower level. -/
def LevelsShown (rows : List VisitorsRow) (shown : Option (ℕ × List VisitorsItem)) : Prop :=
  ∀ sum items, shown = some (sum, items) →
    items.map VisitorsItem.gradescore =
        (rows.filter fun r => r.name ≠ "").map (fun r => gradeBand r.gradescore) ∧
      ∀ a ∈ items, ∀ b ∈ items, ∀ r ∈ rows, ∀ s ∈ rows, a = visitorsItem (vipCustomer r) →
        b = visitorsItem (vipCustomer s) → r.gradescore ≤ s.gradescore → a.gradescore ≤ b.gradescore

theorem getGradeLevel_eq_gradeBand_iff {g : ℤ} :
    getGradeLevel g = gradeBand g ↔ 0 ≤ g ∧ g ≤ 250 := by
  rw [getGradeLevel_eq]
  unfold gradeBand
  split_ifs <;> omega

theorem getGradeLevel_mono {a b : ℤ} (ha : 0 ≤ a) (h : a ≤ b) : getGradeLevel a ≤ getGradeLevel b := by
  rw [getGradeLevel_eq, getGradeLevel_eq]
  split_ifs <;> omega

/-- **When the visitor list shows the levels of the table**: for whatever records, when the scores it
    shows are between 0 and 250. -/
theorem levels_shown_iff (rows : List VisitorsRow) (sum num : ℕ) :
    LevelsShown (rows.take num) (jsonMapGetVisitorsListMake sum (rows.map vipCustomer) num) ↔
      ∀ r ∈ rows.take num, r.name ≠ "" → 0 ≤ r.gradescore ∧ r.gradescore ≤ 250 := by
  by_cases hnum : (num : ℤ) ≤ 0
  · obtain rfl : num = 0 := by omega
    rw [jsonMapGetVisitorsListMake, if_pos hnum]
    exact iff_of_true (fun _ _ h => nomatch h) fun r hr => absurd hr List.not_mem_nil
  · have hitems : jsonMapGetVisitorsListMake sum (rows.map vipCustomer) num = some (sum,
        ((rows.take num).filter fun r => r.name ≠ "").map fun r => visitorsItem (vipCustomer r)) := by
      rw [jsonMapGetVisitorsListMake, if_neg hnum, Int.toNat_natCast, ← List.map_take,
        List.filter_map, List.map_map]
      rfl
    have hlevel : ((rows.take num).filter fun r => r.name ≠ "").map (fun r =>
        getGradeLevel r.gradescore) = ((rows.take num).filter fun r => r.name ≠ "").map (fun r =>
          gradeBand r.gradescore) ↔
        ∀ r ∈ rows.take num, r.name ≠ "" → 0 ≤ r.gradescore ∧ r.gradescore ≤ 250 := by
      rw [List.map_inj_left]
      simp only [List.mem_filter, decide_eq_true_iff, getGradeLevel_eq_gradeBand_iff, and_imp]
    rw [hitems, ← hlevel]
    constructor
    · intro h
      have hbands := (h _ _ rfl).1
      rwa [List.map_map] at hbands
    · intro h sum' items heq
      obtain ⟨-, rfl⟩ := Prod.mk.inj (Option.some.inj heq)
      refine ⟨by rwa [List.map_map], ?_⟩
      rintro a ha - - r hr s - rfl rfl hle
      obtain ⟨u, hu, heq⟩ := List.mem_map.1 ha
      obtain ⟨hu, hname⟩ := List.mem_filter.1 hu
      have hsame : u.name = r.name := congrArg VisitorsItem.name heq
      have hrname : r.name ≠ "" := hsame ▸ of_decide_eq_true hname
      exact getGradeLevel_mono (hlevel.1 h r hr hrname).1 hle

/-- In a history without quotes no score is negative. -/
theorem gradescore_nonneg {tr : List VisitEvent}
    (h : Run (stepWhen (fun _ e => e.capture.Plain) (visitStep zone)) .empty tr t) :
    ∀ r ∈ t.rows, 0 ≤ r.gradescore := by
  refine h.stateInvariant (fun t => ∀ r ∈ t.rows, 0 ≤ r.gradescore)
    (fun r hr => absurd hr List.not_mem_nil) ?_
  intro t e t' hI ⟨hplain, hstep⟩
  have hadd : ∀ info : VIPCustomer, 0 ≤ info.GradeScore →
      ∀ r ∈ (mySqlCtrlAddVisitorsInfo info t).2.rows, 0 ≤ r.gradescore := by
    intro info hinfo r hr
    unfold mySqlCtrlAddVisitorsInfo at hr
    split at hr
    · rcases List.mem_append.1 hr with hr | hr
      · exact hI r hr
      · obtain rfl := List.mem_singleton.1 hr
        exact hinfo
    · exact hI r hr
  have hread : ∀ order name last, mySqlCtrlGetLatestVisitorsInfo order name t = some last →
      0 ≤ last.GradeScore := by
    intro order name last hlast
    unfold mySqlCtrlGetLatestVisitorsInfo at hlast
    split at hlast
    · cases hlast
    · obtain ⟨r, hr, rfl⟩ := Option.map_eq_some_iff.1 hlast
      have hmem := (order.perm _).mem_iff.1 (List.mem_of_getLast? hr)
      unfold selectLatest at hmem
      split at hmem
      · exact absurd hmem List.not_mem_nil
      · exact hI r (List.mem_of_mem_filter hmem)
  have hrun := hstep hplain
  unfold addVisitorsInfo at hrun
  split at hrun
  · obtain ⟨-, rfl⟩ := Prod.mk.inj hrun
    exact hadd _ (Int.natCast_nonneg 200)
  · next last hlast =>
      dsimp only at hrun
      split at hrun
      · obtain ⟨-, rfl⟩ := Prod.mk.inj hrun
        exact hadd _ (recorded_nonneg (hread _ _ _ hlast))
      · split at hrun
        · obtain ⟨-, rfl⟩ := Prod.mk.inj hrun
          exact hI
        · obtain ⟨-, rfl⟩ := Prod.mk.inj hrun
          exact hI

/-- Two visits in two months make 360, which is the second level and shown as the first. -/
theorem second_level_missed :
    Run (visitStep zone8) .empty [januaryEvent, februaryEvent (afterEvent .empty januaryEvent)]
        (afterEvent (afterEvent .empty januaryEvent) (februaryEvent (afterEvent .empty januaryEvent))) ∧
      ¬ LevelsShown ((afterEvent (afterEvent .empty januaryEvent)
          (februaryEvent (afterEvent .empty januaryEvent))).rows.take 10)
        (jsonMapGetVisitorsListMake 2 ((afterEvent (afterEvent .empty januaryEvent)
          (februaryEvent (afterEvent .empty januaryEvent))).rows.map vipCustomer) 10) := by
  refine ⟨(Run.nil.snoc (visitStep_sample _ _ _ _ _)).snoc (visitStep_sample _ _ _ _ _), fun h => ?_⟩
  have hrows : (afterEvent (afterEvent .empty januaryEvent)
        (februaryEvent (afterEvent .empty januaryEvent))).rows =
      [⟨"1", "Li", "1", "", ⟨2024, 1, 31, 12, 0, 0⟩, 200, 1, "", ""⟩,
        ⟨"3", "Li", "3", "", ⟨2024, 2, 4, 12, 0, 0⟩, 360, 1, "", ""⟩] := by
    decide +kernel
  rw [hrows] at h
  exact absurd (h _ _ rfl).1 (by decide)

end SmartPlat.AttendanceManage
