import SmartPlat.VehicleDataAnalysis.RateOfProgress
import SmartPlat.Lib.Transition

set_option autoImplicit false

/-! # The daily totals: which day they are of

The totals always belong to some day, the one of the last start or of the last reset. They are right as
long as the day the thread counts for, the day of the captures and the day of the clock are the same
while a visit is recorded; the reset itself is harmless then, because it finds the thread idle and no
visit of the new day recorded. -/

namespace SmartPlat.VehicleDataAnalysis

open SmartPlat.Lib SmartPlat.MySql

variable {s s' : DayState} {e : DayEvent} {v : Visit} {day : ℕ} {total : Total}

/-! ## The property and the condition -/

/-- The server takes the row of a visit: for one in front of the station it needs the plate's column. -/
def Visit.Accepted (v : Visit) (hasPlanNo : Bool) : Prop :=
  match v with
  | .frontage _ => hasPlanNo = true
  | .entrance _ => True

instance (v : Visit) (hasPlanNo : Bool) : Decidable (v.Accepted hasPlanNo) :=
  match v with
  | .frontage _ => inferInstanceAs (Decidable (hasPlanNo = true))
  | .entrance _ => inferInstanceAs (Decidable True)

/-- The visit that is counted but not stored yet, if it was captured on the day and is going to be. -/
def beingRecorded (hasPlanNo : Bool) (db : DatabaseStep) (day : ℕ) (total : Total) : ℕ :=
  let one (v : Visit) :=
    if v.Accepted hasPlanNo ∧ total = v.total ∧ calendarDay v.captured = day then 1 else 0
  match db with
  | .push (.frontage c) _ => one (.frontage c)
  | .add v => one v
  | _ => 0

/-- What is pushed is how many visits were recorded that were captured on the day of the clock. -/
def TotalsPushed (s : DayState) (e : DayEvent) (_ : DayState) : Prop :=
  ∀ frontageTotal entranceTotal, e = .push frontageTotal entranceTotal →
    frontageTotal = visitsOn s (calendarDay s.now.curTime) .FrontageTotal +
      beingRecorded s.frontage.hasPlanNo s.db (calendarDay s.now.curTime) .FrontageTotal ∧
    entranceTotal = visitsOn s (calendarDay s.now.curTime) .EntranceTotal +
      beingRecorded s.frontage.hasPlanNo s.db (calendarDay s.now.curTime) .EntranceTotal

/-- The database thread is not recording a visit. -/
def DatabaseStep.Rests : DatabaseStep → Prop
  | .off | .idle => True
  | _ => False

/-- A visit that a restart counts on the day it was captured: before the restart, and not at midnight. -/
structure CountsOnDay (now captured date : TimeYMD) : Prop where
  valid : date.Valid
  past : calendarDay captured ≤ calendarDay now
  sameDay : calendarDay captured = calendarDay now ↔ calendarDay date = calendarDay now
  inside : calendarDay date = calendarDay now →
    (startOfDay now).datetime < date.datetime ∧ date.datetime < now.datetime

/-- What keeps the totals. -/
def OnOneDay (s : DayState) : DayEvent → Prop
  | .tick t => calendarDay s.now.curTime ≤ calendarDay t.curTime ∧
      (calendarDay t.curTime ≠ calendarDay s.now.curTime → s.db.Rests)
  | .restart => (∀ r ∈ s.frontage.rows, CountsOnDay s.now.curTime r.captured r.date) ∧
      ∀ r ∈ s.entrance, CountsOnDay s.now.curTime r.vehicleStart r.vehicleStart
  | .opens v => calendarDay v.captured = calendarDay s.now.curTime ∧
      s.countDay = calendarDay s.now.curTime ∧ v.Accepted s.frontage.hasPlanNo
  | .add => match s.db with
      | .add (.frontage c) => ∀ r ∈ s.frontage.rows, r.id ≠ c.snapToken
      | .add (.entrance c) => ∀ r ∈ s.entrance, r.snapToken ≠ c.info.snapToken
      | _ => True
  | _ => True

/-! ## Days -/

theorem datetime_eq (t : TimeYMD) : t.datetime = calendarDay t * 86400 + t.secOfDay := rfl

theorem calendarDay_startOfDay (t : TimeYMD) : calendarDay (startOfDay t) = calendarDay t := rfl

theorem day_eq_of_calendarDay {t u : Clock} (h : calendarDay t.curTime = calendarDay u.curTime) :
    t.curTime.day = u.curTime.day := by
  have ht := t.valid.1
  have hu := u.valid.1
  have hd := daysInMonth_le t.curTime.year t.curTime.month
  have hd' := daysInMonth_le u.curTime.year u.curTime.month
  obtain ⟨-, hm, -, htd⟩ := ht
  obtain ⟨-, hm', -, hud⟩ := hu
  unfold calendarDay at h
  omega

/-- The window of a restart holds rows of the day only. -/
theorem inWindow_restart [Server] {now : Clock} {captured date : TimeYMD}
    (h : CountsOnDay now.curTime captured date) :
    inWindow (startOfDay now.curTime) now.curTime date = true ↔
      calendarDay captured = calendarDay now.curTime := by
  have hstart : (startOfDay now.curTime).Valid :=
    ⟨now.valid.1, (by decide : 0 < 24), (by decide : 0 < 60), (by decide : 0 < 60)⟩
  have hsec := TimeYMD.secOfDay_lt now.valid
  have hsec' := TimeYMD.secOfDay_lt h.valid
  rw [inWindow_of_valid hstart now.valid, h.sameDay]
  constructor
  · rintro ⟨hlt, hgt⟩
    rw [datetime_eq, calendarDay_startOfDay, datetime_eq] at hgt
    rw [datetime_eq, datetime_eq now.curTime] at hlt
    omega
  · intro hday
    exact ⟨(h.inside hday).2, (h.inside hday).1⟩

/-! ## The invariant -/

/-- The visit the thread is at. -/
def DatabaseStep.visit : DatabaseStep → Option Visit
  | .load v | .store v _ | .push v _ | .add v => some v
  | .off | .idle => none

theorem rests_iff {db : DatabaseStep} : db.Rests ↔ db.visit = none := by
  cases db <;> simp [DatabaseStep.Rests, DatabaseStep.visit]

theorem beingRecorded_rests {db : DatabaseStep} {hasPlanNo : Bool} (h : db.Rests) :
    beingRecorded hasPlanNo db day total = 0 := by
  cases db <;> first | rfl | exact h.elim

/-- What the thread has read is still so. -/
def ReadCurrent (s : DayState) : Prop :=
  match s.db with
  | .store v read => read = s.VehicleCount v.total
  | .push _ read => ∀ total n, read total = some n → n = s.VehicleCount total
  | _ => True

theorem readCurrent_rests (h : s.db.visit = none) : ReadCurrent s := by
  unfold ReadCurrent
  cases hdb : s.db with
  | store v read => simp [hdb, DatabaseStep.visit] at h
  | push v read => simp [hdb, DatabaseStep.visit] at h
  | _ => trivial

/-- The totals are of `countDay`, unless they are being reset, for a later day. -/
def TotalsInv (s : DayState) : Prop :=
  match s.rate with
  | .off => s.db = .off
  | .start | .poll => ∀ total, s.VehicleCount total =
      visitsOn s s.countDay total + beingRecorded s.frontage.hasPlanNo s.db s.countDay total
  | .resetEntrance tv => s.countDay < calendarDay tv.curTime ∧
      calendarDay tv.curTime ≤ calendarDay s.now.curTime
  | .resetFrontage tv => s.countDay < calendarDay tv.curTime ∧
      calendarDay tv.curTime ≤ calendarDay s.now.curTime ∧ s.VehicleCount .EntranceTotal = 0

theorem TotalsInv.congr (h : TotalsInv s) (hrate : s'.rate = s.rate) (hday : s'.countDay = s.countDay)
    (hnow : calendarDay s.now.curTime ≤ calendarDay s'.now.curTime)
    (hcount : s'.VehicleCount = s.VehicleCount)
    (hdb : s.rate = .off → s.db = .off → s'.db = .off)
    (hvisits : ∀ total,
      visitsOn s' s.countDay total + beingRecorded s'.frontage.hasPlanNo s'.db s.countDay total =
        visitsOn s s.countDay total + beingRecorded s.frontage.hasPlanNo s.db s.countDay total) :
    TotalsInv s' := by
  unfold TotalsInv at h ⊢
  rw [hrate, hcount, hday]
  cases hr : s.rate with
  | off =>
      rw [hr] at h
      exact hdb hr h
  | start =>
      rw [hr] at h
      exact fun total => (h total).trans (hvisits total).symm
  | poll =>
      rw [hr] at h
      exact fun total => (h total).trans (hvisits total).symm
  | resetEntrance tv =>
      rw [hr] at h
      exact ⟨h.1, h.2.trans hnow⟩
  | resetFrontage tv =>
      rw [hr] at h
      exact ⟨h.1, h.2.1.trans hnow, h.2.2⟩

/-- The captures of the two tables. -/
def captures (s : DayState) : List TimeYMD × List TimeYMD :=
  (s.frontage.rows.map fun r => r.captured, s.entrance.map fun r => r.vehicleStart)

theorem visitsOn_congr (h : captures s' = captures s) : visitsOn s' day total = visitsOn s day total := by
  obtain ⟨hfrontage, hentrance⟩ := Prod.mk.injEq _ _ _ _ ▸ h
  cases total with
  | FrontageTotal =>
      have hcount := congrArg (List.countP fun t => calendarDay t = day) hfrontage
      rwa [List.countP_map, List.countP_map] at hcount
  | EntranceTotal =>
      have hcount := congrArg (List.countP fun t => calendarDay t = day) hentrance
      rwa [List.countP_map, List.countP_map] at hcount

/-- Nothing was recorded that was captured after a day. -/
def NoneAfter (s : DayState) (day : ℕ) : Prop :=
  (∀ r ∈ s.frontage.rows, calendarDay r.captured ≤ day) ∧
    ∀ r ∈ s.entrance, calendarDay r.vehicleStart ≤ day

structure DayInv (s : DayState) : Prop where
  countDay : s.countDay ≤ calendarDay s.now.curTime
  past : s.rate ≠ .off → NoneAfter s s.countDay
  /-- While a visit is recorded, everything is of one day. -/
  work : ∀ v, s.db.visit = some v → calendarDay v.captured = s.countDay ∧
    s.countDay = calendarDay s.now.curTime ∧ (s.rate = .start ∨ s.rate = .poll) ∧
    v.Accepted s.frontage.hasPlanNo
  polled : s.rate = .poll → s.countDay = calendarDay s.now.curTime → s.day = s.now.curTime.day
  totals : TotalsInv s
  read : ReadCurrent s

theorem dayInv_init (now : Clock) (frontage : FrontageTable) (entrance : EntranceTable) :
    DayInv (dayInit now frontage entrance) where
  countDay := Nat.zero_le _
  past h := absurd rfl h
  work _ hv := nomatch hv
  polled h := nomatch h
  totals := rfl
  read := trivial

/-- No visits on a day after all that were recorded. -/
theorem visitsOn_eq_zero {d : ℕ} (h : NoneAfter s d) (hlt : d < day) : visitsOn s day total = 0 := by
  cases total with
  | FrontageTotal =>
      refine List.countP_eq_zero.2 fun r hr => ?_
      have hle := h.1 r hr
      simp only [decide_eq_true_eq]
      omega
  | EntranceTotal =>
      refine List.countP_eq_zero.2 fun r hr => ?_
      have hle := h.2 r hr
      simp only [decide_eq_true_eq]
      omega

/-- While the totals are of a past day, no visit is being recorded. -/
theorem DayInv.rests (h : DayInv s) (hday : s.countDay ≠ calendarDay s.now.curTime) :
    s.db.visit = none := by
  cases hv : s.db.visit with
  | none => rfl
  | some v => exact absurd (h.work v hv).2.1 hday

/-! ## The clock, a start and the midnight thread -/

theorem DayInv.tick {t : Clock} (h : DayInv s) (hcond : OnOneDay s (.tick t)) :
    DayInv { s with now := t } := by
  obtain ⟨hle, hrests⟩ := hcond
  refine ⟨h.countDay.trans hle, h.past, fun v hv => ?_, fun hpoll hday => ?_, ?_, h.read⟩
  · obtain ⟨hcap, hday, hrate⟩ := h.work v hv
    refine ⟨hcap, ?_, hrate⟩
    by_contra hne
    have hrest := rests_iff.1 (hrests fun heq => hne (hday.trans heq.symm))
    cases hrest.symm.trans hv
  · have hcount := h.countDay
    have hsame : calendarDay s.now.curTime = calendarDay t.curTime := by
      dsimp only at hday
      omega
    exact (h.polled hpoll (hday.trans hsame.symm)).trans (day_eq_of_calendarDay hsame)
  · exact h.totals.congr rfl rfl hle rfl (fun _ => id) fun _ => rfl

/-- A start counts the visits of its day. -/
theorem countFrom_eq [Server] (hcond : OnOneDay s .restart) :
    countFrom s total = visitsOn s (calendarDay s.now.curTime) total := by
  cases total with
  | FrontageTotal =>
      rw [countFrom, mySqlCtrlGetFrontageListSumByTime, List.countP_map, visitsOn]
      refine List.countP_congr fun r hr => ?_
      rw [Function.comp_apply, inWindow_restart (hcond.1 r hr), decide_eq_true_iff]
  | EntranceTotal =>
      rw [countFrom, mySqlCtrlGetEntranceListSumByTime, visitsOn]
      refine List.countP_congr fun r hr => ?_
      rw [inWindow_restart (hcond.2 r hr), decide_eq_true_iff]

theorem DayInv.restart [Server] (hcond : OnOneDay s .restart) :
    DayInv { s with
      VehicleCount := countFrom s
      db := .off
      rate := .start
      countDay := calendarDay s.now.curTime } where
  countDay := le_rfl
  past _ := ⟨fun r hr => (hcond.1 r hr).past, fun r hr => (hcond.2 r hr).past⟩
  work _ hv := nomatch hv
  polled hpoll := nomatch hpoll
  totals _ := (countFrom_eq hcond).trans (Nat.add_zero _).symm
  read := trivial

theorem DayInv.rateStart (h : DayInv s) (hrate : s.rate = .start) :
    DayInv { s with rate := .poll, day := s.now.curTime.day } := by
  have htotals := h.totals
  rw [TotalsInv, hrate] at htotals
  refine ⟨h.countDay, fun _ => h.past (by simp [hrate]), fun v hv => ?_, fun _ _ => rfl, htotals, h.read⟩
  obtain ⟨hcap, hday, -, hacc⟩ := h.work v hv
  exact ⟨hcap, hday, .inr rfl, hacc⟩

/-- Another day of the month is another day, later than the one the totals are of. -/
theorem DayInv.newDay (h : DayInv s) (hrate : s.rate = .poll) (hday : s.now.curTime.day ≠ s.day) :
    DayInv { s with rate := .resetEntrance s.now } := by
  have hother : s.countDay ≠ calendarDay s.now.curTime := fun heq => hday (h.polled hrate heq).symm
  have hcount := h.countDay
  refine ⟨h.countDay, fun _ => h.past (by simp [hrate]), fun v hv => ?_, nofun, ?_, h.read⟩
  · cases (h.rests hother).symm.trans hv
  · exact ⟨lt_of_le_of_ne hcount hother, le_rfl⟩

theorem DayInv.resetEntrance {tv : Clock} (h : DayInv s) (hrate : s.rate = .resetEntrance tv) :
    DayInv { s with
      VehicleCount := Function.update s.VehicleCount .EntranceTotal 0
      rate := .resetFrontage tv } := by
  have htotals := h.totals
  rw [TotalsInv, hrate] at htotals
  obtain ⟨hlater, hnow⟩ := htotals
  have hvisit : s.db.visit = none := h.rests (by omega)
  refine ⟨h.countDay, fun _ => h.past (by simp [hrate]), fun v hv => ?_, nofun, ?_, ?_⟩
  · cases hvisit.symm.trans hv
  · exact ⟨hlater, hnow, Function.update_self Total.EntranceTotal 0 s.VehicleCount⟩
  · exact readCurrent_rests hvisit

theorem DayInv.resetFrontage {tv : Clock} (h : DayInv s) (hrate : s.rate = .resetFrontage tv) :
    DayInv { s with
      VehicleCount := Function.update s.VehicleCount .FrontageTotal 0
      rate := .poll
      day := tv.curTime.day
      countDay := calendarDay tv.curTime } := by
  have htotals := h.totals
  rw [TotalsInv, hrate] at htotals
  obtain ⟨hlater, hnow, hzero⟩ := htotals
  have hvisit : s.db.visit = none := h.rests (by omega)
  have hpast := h.past (by simp [hrate])
  refine ⟨hnow, fun _ => ⟨fun r hr => ?_, fun r hr => ?_⟩, fun v hv => ?_, fun _ hday => ?_,
    fun total => ?_, ?_⟩
  · have hle := hpast.1 r hr
    dsimp only
    omega
  · have hle := hpast.2 r hr
    dsimp only
    omega
  · cases hvisit.symm.trans hv
  · exact day_eq_of_calendarDay hday
  · have hnone : visitsOn s (calendarDay tv.curTime) total = 0 := visitsOn_eq_zero hpast hlater
    have hnobody : beingRecorded s.frontage.hasPlanNo s.db (calendarDay tv.curTime) total = 0 :=
      beingRecorded_rests (rests_iff.2 hvisit)
    change _ = visitsOn s (calendarDay tv.curTime) total + _
    rw [hnone, hnobody]
    cases total with
    | FrontageTotal => exact Function.update_self Total.FrontageTotal 0 s.VehicleCount
    | EntranceTotal => exact hzero
  · exact readCurrent_rests hvisit

/-! ## The database thread -/

/-- A step of the thread at a visit: clock and midnight thread stay. -/
theorem DayInv.working (h : DayInv s) (hv : s.db.visit = some v) {db : DatabaseStep}
    {VehicleCount : Total → ℕ} {frontage : FrontageTable} {entrance : EntranceTable}
    (hdb : ∀ w, db.visit = some w → w = v) (hcolumn : frontage.hasPlanNo = s.frontage.hasPlanNo)
    (hpast : NoneAfter s s.countDay →
      NoneAfter { s with frontage := frontage, entrance := entrance } s.countDay)
    (htotals : (∀ total, s.VehicleCount total =
        visitsOn s s.countDay total + beingRecorded s.frontage.hasPlanNo s.db s.countDay total) →
      ∀ total, VehicleCount total =
        visitsOn { s with frontage := frontage, entrance := entrance } s.countDay total +
          beingRecorded s.frontage.hasPlanNo db s.countDay total)
    (hread : ReadCurrent { s with VehicleCount := VehicleCount, db := db }) :
    DayInv { s with
      VehicleCount := VehicleCount, db := db, frontage := frontage, entrance := entrance } := by
  obtain ⟨hcap, hday, hrate, hacc⟩ := h.work v hv
  refine ⟨h.countDay, fun hoff => hpast (h.past hoff), fun w hw => ?_, h.polled, ?_, hread⟩
  · obtain rfl := hdb w hw
    exact ⟨hcap, hday, hrate, hcolumn ▸ hacc⟩
  · have hinv := h.totals
    unfold TotalsInv at hinv ⊢
    rw [hcolumn]
    rcases hrate with hrate | hrate
    · rw [hrate] at hinv ⊢
      exact htotals hinv
    · rw [hrate] at hinv ⊢
      exact htotals hinv

theorem DayInv.opens (h : DayInv s) (hdb : s.db = .idle) (hcond : OnOneDay s (.opens v)) :
    DayInv { s with db := .load v } := by
  obtain ⟨hcap, hday, hacc⟩ := hcond
  have htotals := h.totals
  refine ⟨h.countDay, h.past, fun w hw => ?_, h.polled, ?_, trivial⟩
  · obtain rfl := Option.some.inj hw
    refine ⟨hcap.trans hday.symm, hday, ?_, hacc⟩
    unfold TotalsInv at htotals
    cases hrate : s.rate with
    | off =>
        rw [hrate] at htotals
        cases hdb.symm.trans htotals
    | start => exact .inl rfl
    | poll => exact .inr rfl
    | resetEntrance tv =>
        rw [hrate] at htotals
        obtain ⟨hlater, hnow⟩ := htotals
        omega
    | resetFrontage tv =>
        rw [hrate] at htotals
        obtain ⟨hlater, hnow, -⟩ := htotals
        omega
  · refine h.totals.congr rfl rfl le_rfl rfl (fun _ hoff => ?_) fun total => ?_
    · cases hdb.symm.trans hoff
    · rw [hdb]
      rfl

theorem NoneAfter.congr {d : ℕ} (h : NoneAfter s d) (hcaptures : captures s' = captures s) :
    NoneAfter s' d := by
  obtain ⟨hfrontage, hentrance⟩ := Prod.mk.injEq _ _ _ _ ▸ hcaptures
  refine ⟨fun r hr => ?_, fun r hr => ?_⟩
  · have hmem := List.mem_map_of_mem (f := fun r : FrontageVisit => r.captured) hr
    rw [hfrontage] at hmem
    obtain ⟨r', hr', heq⟩ := List.mem_map.1 hmem
    exact heq ▸ h.1 r' hr'
  · have hmem := List.mem_map_of_mem (f := fun r : DeviceEntrance => r.vehicleStart) hr
    rw [hentrance] at hmem
    obtain ⟨r', hr', heq⟩ := List.mem_map.1 hmem
    exact heq ▸ h.2 r' hr'

/-- A capture that opens no visit leaves the captures of the tables. -/
theorem captures_repeats {frontage : FrontageTable} {entrance : EntranceTable}
    (h : Repeats s frontage entrance) :
    captures { s with frontage := frontage, entrance := entrance } = captures s := by
  cases h with
  | @frontage c fetched token _ _ =>
      exact congrArg (·, _) (map_updateWhere (fun r : FrontageVisit => r.captured) fun _ => rfl)
  | @setEnd c fetched token _ _ =>
      exact congrArg (_, ·) (map_updateWhere (fun r : DeviceEntrance => r.vehicleStart) fun _ => rfl)
  | leave => rfl

theorem hasPlanNo_repeats {frontage : FrontageTable} {entrance : EntranceTable}
    (h : Repeats s frontage entrance) : frontage.hasPlanNo = s.frontage.hasPlanNo := by
  cases h <;> rfl

theorem DayInv.repeats {frontage : FrontageTable} {entrance : EntranceTable} (h : DayInv s)
    (hrepeats : Repeats s frontage entrance) :
    DayInv { s with frontage := frontage, entrance := entrance } := by
  have hcaptures := captures_repeats hrepeats
  have hcolumn := hasPlanNo_repeats hrepeats
  refine ⟨h.countDay, fun hrate => (h.past hrate).congr hcaptures, ?_, h.polled, ?_, h.read⟩
  · rw [hcolumn]
    exact h.work
  · refine h.totals.congr rfl rfl le_rfl rfl (fun _ => id) fun total => ?_
    rw [visitsOn_congr hcaptures, hcolumn]

theorem DayInv.load (h : DayInv s) (hdb : s.db = .load v) :
    DayInv { s with db := .store v (s.VehicleCount v.total) } := by
  have hv : s.db.visit = some v := by rw [hdb, DatabaseStep.visit]
  refine h.working hv (fun w hw => (Option.some.inj hw).symm) rfl id (fun htotals total => ?_) rfl
  rw [htotals total, hdb]
  rfl

theorem afterStore_visit {w : Visit} (h : (afterStore v).visit = some w) : w = v := by
  cases v <;> exact (Option.some.inj h).symm

theorem beingRecorded_afterStore {hasPlanNo : Bool} :
    beingRecorded hasPlanNo (afterStore v) day total =
      if v.Accepted hasPlanNo ∧ total = v.total ∧ calendarDay v.captured = day then 1 else 0 := by
  cases v <;> rfl

theorem DayInv.store {read : ℕ} (h : DayInv s) (hdb : s.db = .store v read) :
    DayInv { s with
      VehicleCount := Function.update s.VehicleCount v.total (read + 1)
      db := afterStore v } := by
  have hv : s.db.visit = some v := by rw [hdb, DatabaseStep.visit]
  obtain ⟨hcap, -, -, hacc⟩ := h.work v hv
  have hread := h.read
  rw [ReadCurrent, hdb] at hread
  refine h.working hv (fun w => afterStore_visit) rfl id (fun htotals total => ?_) ?_
  · have hold := htotals total
    rw [hdb] at hold
    change _ = visitsOn s s.countDay total + _
    rw [beingRecorded_afterStore]
    by_cases ht : total = v.total
    · subst ht
      rw [Function.update_self, if_pos ⟨hacc, rfl, hcap⟩, hread, hold]
      rfl
    · rw [Function.update_of_ne ht, if_neg fun hand => ht hand.2.1, hold]
      rfl
  · cases v with
    | frontage c => exact fun total n hn => nomatch hn
    | entrance c => trivial

theorem DayInv.readTotal {read : Total → Option ℕ} (h : DayInv s) (hdb : s.db = .push v read) :
    DayInv { s with
      db := .push v (Function.update read total (some (s.VehicleCount total))) } := by
  have hv : s.db.visit = some v := by rw [hdb, DatabaseStep.visit]
  have hread := h.read
  rw [ReadCurrent, hdb] at hread
  refine h.working hv (fun w hw => (Option.some.inj hw).symm) rfl id (fun htotals total' => ?_) ?_
  · rw [htotals total', hdb]
    cases v <;> rfl
  · intro total' n hn
    by_cases ht : total' = total
    · subst ht
      rw [Function.update_self] at hn
      exact (Option.some.inj hn).symm
    · rw [Function.update_of_ne ht] at hn
      exact hread total' n hn

theorem DayInv.push {read : Total → Option ℕ} (h : DayInv s) (hdb : s.db = .push v read) :
    DayInv { s with db := afterPush v } := by
  have hv : s.db.visit = some v := by rw [hdb, DatabaseStep.visit]
  refine h.working hv (fun w hw => ?_) rfl id (fun htotals total => ?_) ?_
  · cases v with
    | frontage c => exact (Option.some.inj hw).symm
    | entrance c => cases hw
  · rw [htotals total, hdb]
    cases v <;> rfl
  · cases v <;> trivial

/-- One more row of the total it is counted in. -/
theorem visitsOn_frontage (s : DayState) (r : FrontageVisit) :
    visitsOn { s with frontage := { s.frontage with rows := s.frontage.rows ++ [r] } } day total =
      visitsOn s day total +
      if total = .FrontageTotal ∧ calendarDay r.captured = day then 1 else 0 := by
  cases total with
  | FrontageTotal => simp [visitsOn, List.countP_append, List.countP_cons]
  | EntranceTotal => simp [visitsOn]

theorem visitsOn_entrance (s : DayState) (r : DeviceEntrance) :
    visitsOn { s with entrance := s.entrance ++ [r] } day total = visitsOn s day total +
      if total = .EntranceTotal ∧ calendarDay r.vehicleStart = day then 1 else 0 := by
  cases total with
  | FrontageTotal => simp [visitsOn]
  | EntranceTotal => simp [visitsOn, List.countP_append, List.countP_cons]

theorem DayInv.add (h : DayInv s) (hdb : s.db = .add v) (hcond : OnOneDay s .add) :
    DayInv { s.insert v with db := afterAdd v } := by
  have hv : s.db.visit = some v := by rw [hdb, DatabaseStep.visit]
  obtain ⟨hcap, -, -, hacc⟩ := h.work v hv
  rw [OnOneDay, hdb] at hcond
  cases v with
  | frontage c =>
      have hinsert : s.insert (.frontage c) =
          { s with frontage := { s.frontage with rows := s.frontage.rows ++ [c.row] } } := by
        have hcolumn : s.frontage.hasPlanNo = true := hacc
        have hrows : insertRow (fun r : FrontageVisit => r.id) c.row s.frontage.rows =
            some (s.frontage.rows ++ [c.row]) := insertRow_of_fresh hcond
        rw [DayState.insert, mySqlCtrlAddFrontageInfo, if_pos hcolumn, hrows]
      rw [hinsert]
      refine h.working hv (fun w hw => nomatch hw) rfl (fun hpast => ⟨fun r hr => ?_, hpast.2⟩)
        (fun htotals total => ?_) trivial
      · rcases List.mem_append.1 hr with hr | hr
        · exact hpast.1 r hr
        · rw [List.mem_singleton.1 hr]
          exact hcap.le
      · change _ = visitsOn { s with frontage := { s.frontage with rows := s.frontage.rows ++ [c.row] } }
          s.countDay total + 0
        rw [htotals total, visitsOn_frontage, hdb]
        have hone : beingRecorded s.frontage.hasPlanNo (.add (.frontage c)) s.countDay total =
            if total = .FrontageTotal ∧ calendarDay c.time = s.countDay then 1 else 0 :=
          if_congr (and_iff_right hacc) rfl rfl
        rw [hone]
        rfl
  | entrance c =>
      have hinsert : s.insert (.entrance c) = { s with entrance := s.entrance ++ [c.info] } := by
        rw [DayState.insert, mySqlCtrlAddEntranceInfo, insertRow_of_fresh hcond]
      rw [hinsert]
      refine h.working hv (fun w hw => (Option.some.inj hw).symm) rfl
        (fun hpast => ⟨hpast.1, fun r hr => ?_⟩) (fun htotals total => ?_) fun _ _ hn => nomatch hn
      · rcases List.mem_append.1 hr with hr | hr
        · exact hpast.2 r hr
        · rw [List.mem_singleton.1 hr]
          exact hcap.le
      · change _ = visitsOn { s with entrance := s.entrance ++ [c.info] } s.countDay total + 0
        rw [htotals total, visitsOn_entrance, hdb]
        have hone : beingRecorded s.frontage.hasPlanNo (.add (.entrance c)) s.countDay total =
            if total = .EntranceTotal ∧ calendarDay c.info.vehicleStart = s.countDay then 1 else 0 :=
          if_congr (and_iff_right hacc) rfl rfl
        rw [hone]
        rfl

theorem DayInv.dbStart (h : DayInv s) (hdb : s.db = .off) (hrate : s.rate ≠ .off) :
    DayInv { s with db := .idle } := by
  refine ⟨h.countDay, h.past, (fun w hw => nomatch hw), h.polled, ?_, trivial⟩
  refine h.totals.congr rfl rfl le_rfl rfl (fun hoff => absurd hoff hrate) fun total => ?_
  rw [hdb]
  rfl

/-! ## The theorem -/

theorem dayInv_step [Server] (h : DayInv s) (hcond : OnOneDay s e) (hs : DayStep s e s') : DayInv s' := by
  cases hs with
  | tick t => exact h.tick hcond
  | restart => exact DayInv.restart hcond
  | rateStart hrate => exact h.rateStart hrate
  | sameDay _ _ => exact h
  | newDay hrate hday => exact h.newDay hrate hday
  | resetEntrance hrate => exact h.resetEntrance hrate
  | resetFrontage hrate => exact h.resetFrontage hrate
  | dbStart hdb hrate => exact h.dbStart hdb hrate
  | opens hdb _ => exact h.opens hdb hcond
  | repeats _ hrepeats => exact h.repeats hrepeats
  | load hdb => exact h.load hdb
  | store hdb => exact h.store hdb
  | read hdb => exact h.readTotal hdb
  | push hdb _ _ => exact h.push hdb
  | add hdb => exact h.add hdb hcond

theorem DayInv.totalsPushed [Server] (h : DayInv s) (hs : DayStep s e s') : TotalsPushed s e s' := by
  rintro frontageTotal entranceTotal rfl
  cases hs with
  | @push v read _ _ hdb hfrontage hentrance =>
      obtain ⟨-, hday, hrate⟩ := h.work v (by rw [hdb, DatabaseStep.visit])
      have hread := h.read
      rw [ReadCurrent, hdb] at hread
      have htotals : ∀ total, s.VehicleCount total =
          visitsOn s s.countDay total + beingRecorded s.frontage.hasPlanNo s.db s.countDay total := by
        have hinv := h.totals
        unfold TotalsInv at hinv
        rcases hrate with hrate | hrate
        · rwa [hrate] at hinv
        · rwa [hrate] at hinv
      rw [← hday]
      exact ⟨(hread _ _ hfrontage).trans (htotals _), (hread _ _ hentrance).trans (htotals _)⟩

/-- **When the totals are right.** For all tables at the start and every interleaving of the database
    thread, the midnight thread, the clock and restarts: as long as every step is `OnOneDay`, each
    pair of totals that is pushed is how many visits of the day were recorded. -/
theorem totals_pushed [Server] (now : Clock) (frontage : FrontageTable) (entrance : EntranceTable)
    {tr : List DayEvent}
    (h : Run (stepWhen OnOneDay DayStep) (dayInit now frontage entrance) tr s) :
    Run (stepThat TotalsPushed DayStep) (dayInit now frontage entrance) tr s :=
  h.each DayInv (dayInv_init now frontage entrance) fun _ _ _ hI hcond hs =>
    ⟨dayInv_step hI hcond hs, hI.totalsPushed hs⟩

/-! ## A day, and a midnight -/

/-- A time of two days in May. -/
def sampleClock (day : Fin 2) (hour : Fin 24) (min sec : Fin 60) : Clock where
  curTime := ⟨2024, 5, day + 1, hour, min, sec⟩
  valid := by
    refine ⟨⟨(by decide : 1 ≤ 5), (by decide : 5 ≤ 12), Nat.le_add_left _ _, ?_⟩, hour.2, min.2, sec.2⟩
    have hmay : daysInMonth 2024 5 = 31 := by decide
    exact le_of_lt (lt_of_lt_of_le (Nat.succ_lt_succ day.2) (by rw [hmay]; decide))

/-- A car of plate A at that time. -/
def sampleCar (t : Clock) : EntranceCapture where
  info := ⟨"1", "A", 0, 0, 0, 0, t.curTime, t.curTime, ""⟩
  valid := t.valid
  instant := rfl
  plain := by
    change PlainText "A"
    decide

/-- A car of plate B in front of the station. -/
def sampleStreet (t : Clock) : StreetCapture := ⟨"1", 0, 0, t.curTime, "B"⟩

theorem opens_sampleCar {t : Clock} (h : s.entrance = []) : Opens s (.entrance (sampleCar t)) := by
  have hplate : 0 < "A".length := by decide
  have hnone : mySqlCtrlGetLatestEntranceInfo "A" [] = none := rfl
  refine ⟨hplate, [], ?_, ?_⟩
  · rw [h]
    exact .refl _
  · exact congrArg (entranceAction · (sampleCar t).info) hnone

/-- A car passes, another one comes in. -/
theorem totals_pushed_morning :
    letI : Server := Server.textual
    ∃ tr s, .push 1 0 ∈ tr ∧ .push 1 1 ∈ tr ∧
    Run (stepThat TotalsPushed DayStep) (dayInit (sampleClock 0 8 0 0) ⟨true, []⟩ []) tr s := by
  let _ : Server := Server.textual
  have hpassed : Run (stepWhen OnOneDay DayStep) (dayInit (sampleClock 0 8 0 0) ⟨true, []⟩ [])
      [.restart, .rateStart, .dbStart, .opens (.frontage (sampleStreet (sampleClock 0 8 0 0))), .load,
        .store, .read .FrontageTotal, .read .EntranceTotal, .push 1 0] _ :=
    ((((((((Run.nil.snoc ⟨⟨nofun, nofun⟩, .restart⟩).snoc ⟨trivial, .rateStart rfl⟩).snoc
      ⟨trivial, .dbStart rfl nofun⟩).snoc
      ⟨⟨rfl, rfl, rfl⟩, .opens rfl ⟨some [], ⟨rfl, .refl _⟩, rfl⟩⟩).snoc ⟨trivial, .load rfl⟩).snoc
      ⟨trivial, .store rfl⟩).snoc ⟨trivial, .read rfl⟩).snoc ⟨trivial, .read rfl⟩).snoc
      ⟨trivial, .push rfl rfl rfl⟩
  have hadded : Run (stepWhen OnOneDay DayStep) (dayInit (sampleClock 0 8 0 0) ⟨true, []⟩ [])
      [.restart, .rateStart, .dbStart, .opens (.frontage (sampleStreet (sampleClock 0 8 0 0))), .load,
        .store, .read .FrontageTotal, .read .EntranceTotal, .push 1 0, .add] _ :=
    hpassed.snoc ⟨nofun, .add rfl⟩
  have hopened := hadded.snoc (show stepWhen OnOneDay DayStep _
    (.opens (.entrance (sampleCar (sampleClock 0 8 0 0)))) _ from
      ⟨⟨rfl, rfl, trivial⟩, .opens rfl (opens_sampleCar rfl)⟩)
  have hstored := ((hopened.snoc (show stepWhen OnOneDay DayStep _ .load _ from
    ⟨trivial, .load rfl⟩)).snoc (show stepWhen OnOneDay DayStep _ .store _ from
    ⟨trivial, .store rfl⟩)).snoc (show stepWhen OnOneDay DayStep _ .add _ from ⟨nofun, .add rfl⟩)
  have hrun := ((hstored.snoc (show stepWhen OnOneDay DayStep _ (.read .FrontageTotal) _ from
    ⟨trivial, .read rfl⟩)).snoc (show stepWhen OnOneDay DayStep _ (.read .EntranceTotal) _ from
    ⟨trivial, .read rfl⟩)).snoc (show stepWhen OnOneDay DayStep _ (.push 1 1) _ from
    ⟨trivial, .push rfl rfl rfl⟩)
  exact ⟨_, _, by simp, by simp, totals_pushed _ _ _ hrun⟩

/-- The first visit of a new day is stored before the midnight thread looks at the clock, and pushed
    after the reset: as no visit. -/
theorem visit_lost_by_reset :
    letI : Server := Server.textual
    ∃ tr s s',
    Run DayStep (dayInit (sampleClock 0 23 59 59) mysqlCreateFrontageDataTable []) tr s ∧
      DayStep s (.push 0 0) s' ∧ ¬ TotalsPushed s (.push 0 0) s' := by
  let _ : Server := Server.textual
  have hstored : Run DayStep (dayInit (sampleClock 0 23 59 59) mysqlCreateFrontageDataTable [])
      [.restart, .rateStart, .dbStart, .tick (sampleClock 1 0 0 0),
        .opens (.entrance (sampleCar (sampleClock 1 0 0 0))), .load, .store, .add] _ :=
    (((((((Run.nil.snoc .restart).snoc (.rateStart rfl)).snoc (.dbStart rfl nofun)).snoc
      (.tick _)).snoc (.opens rfl (opens_sampleCar rfl))).snoc (.load rfl)).snoc
      (.store rfl)).snoc (.add rfl)
  have hreset : Run DayStep (dayInit (sampleClock 0 23 59 59) mysqlCreateFrontageDataTable [])
      [.restart, .rateStart, .dbStart, .tick (sampleClock 1 0 0 0),
        .opens (.entrance (sampleCar (sampleClock 1 0 0 0))), .load, .store, .add, .poll,
        .resetEntrance, .resetFrontage, .read .FrontageTotal, .read .EntranceTotal] _ :=
    ((((hstored.snoc (.newDay rfl (by decide))).snoc (.resetEntrance rfl)).snoc
      (.resetFrontage rfl)).snoc (.read rfl)).snoc (.read rfl)
  refine ⟨_, _, _, hreset, .push rfl rfl rfl, fun hpushed => ?_⟩
  exact absurd (hpushed 0 0 rfl).2 (by decide)

end SmartPlat.VehicleDataAnalysis
