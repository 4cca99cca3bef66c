import Mathlib.Data.Finset.Card
import SmartPlat.Lib.Transition
import SmartPlat.VehicleDataAnalysis.Proofs.Filters
import SmartPlat.VehicleDataAnalysis.RateOfProgress

set_option autoImplicit false

/-! # New plates, lost plates and visits of a month

Both lists come from `not EXISTS` on rows before the row itself. A row of the month before the plate is
seen again is never after that, so the losses keep every plate of the month before; their total keeps
them because its format is garbled. -/

namespace SmartPlat.VehicleDataAnalysis

open SmartPlat.Lib SmartPlat.MySql

variable {t : EntranceTable} {startTime endTime : TimeYMD} {info : VehicleSearchInfo} {num : ℕ}

/-- The plates seen in a month. -/
def platesOf (t : EntranceTable) (m : YearMonth) : Finset String :=
  ((t.filter fun r => monthOf r.vehicleStart = m).map DeviceEntrance.plateNo).toFinset

theorem mem_platesOf {m : YearMonth} {p : String} : p ∈ platesOf t m ↔ Seen t p m := by
  simp only [platesOf, List.mem_toFinset, List.mem_map, List.mem_filter, decide_eq_true_iff, and_assoc,
    Seen]

/-! ## The plates each statement selects -/

/-- The search for new plates, whatever else the request carries. -/
def incrementSerch (info : VehicleSearchInfo) : VehicleSearchInfo :=
  { info with type := ⟨false, false, false, true, false⟩ }

def lossesSerch (info : VehicleSearchInfo) : VehicleSearchInfo :=
  { info with type := ⟨false, false, false, false, true⟩ }

/-- The plates of the rows a statement selects. -/
def platesWhere [Server] (conds : Option (List Cond)) (t : EntranceTable) : Finset String :=
  ((rowsWhere conds t).map DeviceEntrance.plateNo).toFinset

theorem mem_platesWhere [Server] {conds : Option (List Cond)} {p : String} :
    p ∈ platesWhere conds t ↔ ∃ r ∈ rowsWhere conds t, r.plateNo = p := by
  rw [platesWhere, List.mem_toFinset, List.mem_map]

theorem card_platesWhere [Server] (conds : Option (List Cond)) :
    (platesWhere conds t).card = ((rowsWhere conds t).map DeviceEntrance.plateNo).dedup.length :=
  List.card_toFinset _

theorem Grouped.toFinset [Server] {conds : Option (List Cond)} {result : List EntranceGroup}
    (h : Grouped (rowsWhere conds t) result) :
    (result.map EntranceGroup.plateNo).toFinset = platesWhere conds t := by
  ext p
  rw [List.mem_toFinset, h.mem_plates, mem_platesWhere]

section

variable (hvalid : ∀ r ∈ t, r.vehicleStart.Valid) (hmonth : monthOf endTime = monthOf startTime)
include hvalid hmonth
variable (info)

/-- The new plates are found exactly. -/
theorem platesWhere_increment [Server] :
    platesWhere (listBySerchType2Conds startTime endTime (incrementSerch info)) t =
      platesOf t (monthOf endTime) \ platesOf t (monthBefore startTime) := by
  have hmonths : (monthBefore startTime).Before (monthOf endTime) :=
    hmonth ▸ monthBefore_before startTime
  ext p
  rw [mem_platesWhere, Finset.mem_sdiff, mem_platesOf, mem_platesOf]
  constructor
  · rintro ⟨r, hr, rfl⟩
    obtain ⟨hr, hconds⟩ := mem_rowsWhere.1 hr
    have hin : monthOf r.vehicleStart = monthOf endTime :=
      decide_eq_true_iff.1 (hconds _ List.mem_cons_self)
    have hfirst := notBefore_holds_iff.1 (hconds _ (List.mem_cons_of_mem _ List.mem_cons_self))
    exact ⟨⟨r, hr, hin, rfl⟩, (firstIn_iff_not_seen hvalid hr (hin ▸ hmonths)).1 hfirst⟩
  · rintro ⟨⟨r, hr, hin, rfl⟩, hnew⟩
    have hfirst := (firstIn_iff_not_seen hvalid hr (hin ▸ hmonths)).2 hnew
    refine ⟨r, mem_rowsWhere.2 ⟨hr, ?_⟩, rfl⟩
    intro c hc
    rcases List.mem_cons.1 hc with rfl | hc
    · exact decide_eq_true hin
    · obtain rfl := List.mem_singleton.1 hc
      exact notBefore_holds_iff.2 hfirst

/-- No row of the month before comes after one of the month, so all its plates are listed. -/
theorem platesWhere_losses [Server] :
    platesWhere (listBySerchType2Conds startTime endTime (lossesSerch info)) t =
      platesOf t (monthBefore startTime) := by
  have hmonths : (monthBefore startTime).Before (monthOf endTime) :=
    hmonth ▸ monthBefore_before startTime
  ext p
  rw [mem_platesWhere, mem_platesOf]
  constructor
  · rintro ⟨r, hr, rfl⟩
    obtain ⟨hr, hconds⟩ := mem_rowsWhere.1 hr
    exact ⟨r, hr, decide_eq_true_iff.1 (hconds _ List.mem_cons_self), rfl⟩
  · rintro ⟨r, hr, hbefore, rfl⟩
    refine ⟨r, mem_rowsWhere.2 ⟨hr, ?_⟩, rfl⟩
    intro c hc
    rcases List.mem_cons.1 hc with rfl | hc
    · exact decide_eq_true hbefore
    · obtain rfl := List.mem_singleton.1 hc
      exact notBefore_holds_iff.2 (firstIn_of_before hvalid hr (hbefore ▸ hmonths))

end

/-- The total of the losses counts every plate of the month before. -/
theorem platesWhere_losses_total [Server] (info : VehicleSearchInfo) :
    platesWhere (sumBySerchType2Conds startTime endTime (lossesSerch info)) t =
      platesOf t (monthBefore startTime) := by
  ext p
  rw [mem_platesWhere, mem_platesOf]
  constructor
  · intro ⟨r, hr, hp⟩
    obtain ⟨hr, hconds⟩ := mem_rowsWhere.1 hr
    exact ⟨r, hr, decide_eq_true_iff.1 (hconds _ List.mem_cons_self), hp⟩
  · intro ⟨r, hr, hbefore, hp⟩
    refine ⟨r, mem_rowsWhere.2 ⟨hr, ?_⟩, hp⟩
    intro c hc
    rcases List.mem_cons.1 hc with rfl | hc
    · exact decide_eq_true hbefore
    · obtain rfl := List.mem_singleton.1 hc
      exact notBefore_message

/-! ## The balance -/

/-- What the lists and the totals of a month should say, with all pages of a list one after another. -/
structure MonthBalance [Server] (t : EntranceTable) (startTime endTime : TimeYMD) (info : VehicleSearchInfo)
    (num : ℕ) (news lost : List EntranceGroup) : Prop where
  increment : ((allPages mySqlCtrlGetEntranceListBySerchType2 num news).map
    EntranceGroup.plateNo).toFinset =
      platesOf t (monthOf endTime) \ platesOf t (monthBefore startTime)
  losses : ((allPages mySqlCtrlGetEntranceListBySerchType2 num lost).map
    EntranceGroup.plateNo).toFinset =
      platesOf t (monthBefore startTime) \ platesOf t (monthOf endTime)
  totals : ((platesOf t (monthOf endTime)).card : ℤ) - (platesOf t (monthBefore startTime)).card =
    mySqlCtrlGetEntranceListSumBySerchType2 t startTime endTime (incrementSerch info) -
      mySqlCtrlGetEntranceListSumBySerchType2 t startTime endTime (lossesSerch info)
  lists : ((platesOf t (monthOf endTime)).card : ℤ) - (platesOf t (monthBefore startTime)).card =
    (allPages mySqlCtrlGetEntranceListBySerchType2 num news).length -
      (allPages mySqlCtrlGetEntranceListBySerchType2 num lost).length

/-- **New and lost plates balance** exactly where no plate of the month before is seen again. -/
theorem monthBalance_iff [Server] {news lost : List EntranceGroup} (hnum : 1 ≤ num)
    (hvalid : ∀ r ∈ t, r.vehicleStart.Valid) (hmonth : monthOf endTime = monthOf startTime)
    (hnews : Grouped
      (rowsWhere (listBySerchType2Conds startTime endTime (incrementSerch info)) t) news)
    (hlost : Grouped
      (rowsWhere (listBySerchType2Conds startTime endTime (lossesSerch info)) t) lost) :
    MonthBalance t startTime endTime info num news lost ↔
      ∀ p ∈ platesOf t (monthBefore startTime), p ∉ platesOf t (monthOf endTime) := by
  have hpages : ∀ result, allPages mySqlCtrlGetEntranceListBySerchType2 num result = result :=
    fun result => allPages_eq hnum fun _ => rfl
  have hnewPlates := hnews.toFinset.trans (platesWhere_increment info hvalid hmonth)
  have hlostPlates := hlost.toFinset.trans (platesWhere_losses info hvalid hmonth)
  constructor
  · rintro ⟨-, hlosses, -, -⟩ p hp
    rw [hpages, hlostPlates] at hlosses
    rw [hlosses] at hp
    exact (Finset.mem_sdiff.1 hp).2
  · intro h
    have hdisjoint : Disjoint (platesOf t (monthBefore startTime)) (platesOf t (monthOf endTime)) :=
      Finset.disjoint_left.2 h
    have hall := Finset.sdiff_eq_self_of_disjoint hdisjoint.symm
    have hnewTotal : mySqlCtrlGetEntranceListSumBySerchType2 t startTime endTime
        (incrementSerch info) = (platesOf t (monthOf endTime)).card := by
      have hplates : platesWhere (sumBySerchType2Conds startTime endTime (incrementSerch info)) t =
          platesOf t (monthOf endTime) := (platesWhere_increment info hvalid hmonth).trans hall
      rw [← hplates, card_platesWhere, mySqlCtrlGetEntranceListSumBySerchType2]
    have hlostTotal : mySqlCtrlGetEntranceListSumBySerchType2 t startTime endTime
        (lossesSerch info) = (platesOf t (monthBefore startTime)).card := by
      have hplates : platesWhere (sumBySerchType2Conds startTime endTime (lossesSerch info)) t =
          platesOf t (monthBefore startTime) := platesWhere_losses_total info
      rw [← hplates, card_platesWhere, mySqlCtrlGetEntranceListSumBySerchType2]
    refine ⟨?_, ?_, ?_, ?_⟩
    · rw [hpages, hnewPlates]
    · rw [hpages, hlostPlates, Finset.sdiff_eq_self_of_disjoint hdisjoint]
    · rw [hnewTotal, hlostTotal]
    · rw [hpages, hpages, hnews.length, hlost.length, ← card_platesWhere, ← card_platesWhere,
        platesWhere_increment info hvalid hmonth, platesWhere_losses info hvalid hmonth, hall]

/-- A car of April and another one of May. -/
theorem monthBalance_may :
    letI : Server := Server.textual
    MonthBalance
      [sampleEntrance "A" ⟨2024, 4, 30, 21, 0, 0⟩, sampleEntrance "B" ⟨2024, 5, 31, 21, 0, 0⟩]
      ⟨2024, 5, 1, 0, 0, 0⟩ ⟨2024, 5, 31, 23, 0, 0⟩
      (sampleStation .null ⟨2024, 5, 1, 0, 0, 0⟩ ⟨2024, 5, 31, 23, 0, 0⟩).serchInfo 10
      [sampleGroup "B" ⟨2024, 5, 31, 21, 0, 0⟩] [sampleGroup "A" ⟨2024, 4, 30, 21, 0, 0⟩] := by
  let _ : Server := Server.textual
  refine (monthBalance_iff (by decide) (by decide) (by decide) ?_ ?_).2 (by decide)
  · have hrows : rowsWhere (listBySerchType2Conds ⟨2024, 5, 1, 0, 0, 0⟩ ⟨2024, 5, 31, 23, 0, 0⟩
        (incrementSerch
          (sampleStation .null ⟨2024, 5, 1, 0, 0, 0⟩ ⟨2024, 5, 31, 23, 0, 0⟩).serchInfo))
        [sampleEntrance "A" ⟨2024, 4, 30, 21, 0, 0⟩, sampleEntrance "B" ⟨2024, 5, 31, 21, 0, 0⟩] =
          [sampleEntrance "B" ⟨2024, 5, 31, 21, 0, 0⟩] := by
      decide
    rw [hrows]
    exact grouped_sample _ _
  · have hrows : rowsWhere (listBySerchType2Conds ⟨2024, 5, 1, 0, 0, 0⟩ ⟨2024, 5, 31, 23, 0, 0⟩
        (lossesSerch
          (sampleStation .null ⟨2024, 5, 1, 0, 0, 0⟩ ⟨2024, 5, 31, 23, 0, 0⟩).serchInfo))
        [sampleEntrance "A" ⟨2024, 4, 30, 21, 0, 0⟩, sampleEntrance "B" ⟨2024, 5, 31, 21, 0, 0⟩] =
          [sampleEntrance "A" ⟨2024, 4, 30, 21, 0, 0⟩] := by
      decide
    rw [hrows]
    exact grouped_sample _ _

/-- A car of December that comes back in January is counted as lost, and listed. -/
theorem lost_though_seen :
    letI : Server := Server.textual
    mySqlCtrlGetEntranceListSumBySerchType2
        [sampleEntrance "A" ⟨2023, 12, 31, 21, 0, 0⟩, sampleEntrance "A" ⟨2024, 1, 1, 21, 0, 0⟩]
        ⟨2024, 1, 1, 0, 0, 0⟩ ⟨2024, 1, 31, 23, 0, 0⟩
        (sampleStation .losses ⟨2024, 1, 1, 0, 0, 0⟩ ⟨2024, 1, 31, 23, 0, 0⟩).serchInfo = 1 ∧
      Grouped (rowsWhere (listBySerchType2Conds ⟨2024, 1, 1, 0, 0, 0⟩ ⟨2024, 1, 31, 23, 0, 0⟩
          (sampleStation .losses ⟨2024, 1, 1, 0, 0, 0⟩ ⟨2024, 1, 31, 23, 0, 0⟩).serchInfo)
          [sampleEntrance "A" ⟨2023, 12, 31, 21, 0, 0⟩, sampleEntrance "A" ⟨2024, 1, 1, 21, 0, 0⟩])
        [sampleGroup "A" ⟨2023, 12, 31, 21, 0, 0⟩] ∧
      ¬ MonthBalance
        [sampleEntrance "A" ⟨2023, 12, 31, 21, 0, 0⟩, sampleEntrance "A" ⟨2024, 1, 1, 21, 0, 0⟩]
        ⟨2024, 1, 1, 0, 0, 0⟩ ⟨2024, 1, 31, 23, 0, 0⟩
        (sampleStation .null ⟨2024, 1, 1, 0, 0, 0⟩ ⟨2024, 1, 31, 23, 0, 0⟩).serchInfo 10
        [] [sampleGroup "A" ⟨2023, 12, 31, 21, 0, 0⟩] := by
  let _ : Server := Server.textual
  refine ⟨by decide, ?_, ?_⟩
  · have hrows : rowsWhere (listBySerchType2Conds ⟨2024, 1, 1, 0, 0, 0⟩ ⟨2024, 1, 31, 23, 0, 0⟩
        (sampleStation .losses ⟨2024, 1, 1, 0, 0, 0⟩ ⟨2024, 1, 31, 23, 0, 0⟩).serchInfo)
        [sampleEntrance "A" ⟨2023, 12, 31, 21, 0, 0⟩, sampleEntrance "A" ⟨2024, 1, 1, 21, 0, 0⟩] =
          [sampleEntrance "A" ⟨2023, 12, 31, 21, 0, 0⟩] := by
      decide
    rw [hrows]
    exact grouped_sample _ _
  · intro h
    exact absurd h.totals (by decide)

/-! ## The count that is pushed with a visit

The search counts the plates that contain the text, not the visits: the plate itself counts once however
often it was there, and every other plate with the text in it counts too. Its window leaves out the
first and the last second of a month, and the last days of the months for which `GetDaysByTime` is
wrong. -/

variable {t t' : EntranceTable} {c : EntranceCapture} {pushed : Option ℕ} {p : String}

/-! ## The property and the condition -/

/-- The number that is pushed is the number of visits of the plate in the month. -/
def CountPushed (_ : EntranceTable) (x : EntranceCapture × Option ℕ) (t' : EntranceTable) : Prop :=
  ∀ num, x.2 = some num → num = visitsInMonth t' x.1.plateNo (monthOf x.1.info.vehicleStart)

/-- The row is a visit the search finds. -/
def Found [Server] (c : EntranceCapture) (r : DeviceEntrance) : Prop :=
  inWindow (monthTime1 c.info.vehicleStart) (monthTime2 c.info.vehicleStart) r.vehicleStart = true ∧
    c.fuzzyStr.like r.plateNo = true

instance [Server] (c : EntranceCapture) (r : DeviceEntrance) : Decidable (Found c r) :=
  inferInstanceAs (Decidable (_ ∧ _))

/-- No row has the token of the capture. -/
def FreshToken (t : EntranceTable) (c : EntranceCapture) : Prop :=
  ∀ r ∈ t, r.snapToken ≠ c.info.snapToken

instance (t : EntranceTable) (c : EntranceCapture) : Decidable (FreshToken t c) :=
  inferInstanceAs (Decidable (∀ r ∈ t, _))

/-- The other plates the search finds. -/
def otherPlates [Server] (t : EntranceTable) (c : EntranceCapture) : Finset String :=
  ((t.filter fun r => Found c r ∧ r.plateNo ≠ c.plateNo).map DeviceEntrance.plateNo).toFinset

/-- The search finds a visit of the plate itself, an earlier one or the new one. -/
def FindsItself [Server] (t : EntranceTable) (c : EntranceCapture) : Prop :=
  (∃ r ∈ t, Found c r ∧ r.plateNo = c.plateNo) ∨ FreshToken t c ∧ Found c c.info

instance [Server] (t : EntranceTable) (c : EntranceCapture) : Decidable (FindsItself t c) :=
  inferInstanceAs (Decidable ((∃ r ∈ t, _) ∨ _ ∧ _))

/-- When the capture opens a visit, there are as many other plates with its text in the window as earlier
    visits of its plate in the month; one less or one more when the search does not find the plate
    itself or the visit is not stored. -/
def AsManyOthers [Server] (t : EntranceTable) (x : EntranceCapture × Option ℕ) : Prop :=
  x.2.isSome = true →
    (otherPlates t x.1).card + (if FindsItself t x.1 then 1 else 0) =
      visitsInMonth t x.1.plateNo (monthOf x.1.info.vehicleStart) +
        (if FreshToken t x.1 then 1 else 0)

/-! ## What is counted -/

theorem mem_otherPlates [Server] :
    p ∈ otherPlates t c ↔ ∃ r ∈ t, Found c r ∧ r.plateNo = p ∧ p ≠ c.plateNo := by
  simp only [otherPlates, List.mem_toFinset, List.mem_map, List.mem_filter, decide_eq_true_iff]
  constructor
  · rintro ⟨r, ⟨hr, hfound, hne⟩, rfl⟩
    exact ⟨r, hr, hfound, rfl, hne⟩
  · rintro ⟨r, hr, hfound, rfl, hne⟩
    exact ⟨r, ⟨hr, hfound, hne⟩, rfl⟩

/-- The plates that the search counts. -/
theorem mem_plates_found [Server] :
    p ∈ platesWhere (sumBySerchType2Conds (monthTime1 c.info.vehicleStart)
        (monthTime2 c.info.vehicleStart) (plateSerch c.fuzzyStr)) t ↔
      ∃ r ∈ t, Found c r ∧ r.plateNo = p := by
  rw [mem_platesWhere]
  constructor
  · intro ⟨r, hr, hp⟩
    obtain ⟨hr, hconds⟩ := mem_rowsWhere.1 hr
    exact ⟨r, hr, ⟨hconds _ List.mem_cons_self, hconds _ (List.mem_cons_of_mem _ List.mem_cons_self)⟩, hp⟩
  · intro ⟨r, hr, hfound, hp⟩
    refine ⟨r, mem_rowsWhere.2 ⟨hr, fun cond hcond => ?_⟩, hp⟩
    rcases List.mem_cons.1 hcond with rfl | hcond
    · exact hfound.1
    · obtain rfl := List.mem_singleton.1 hcond
      exact hfound.2

/-- The table with the visit, if its token is new. -/
theorem addEntranceInfo_table (t : EntranceTable) (c : EntranceCapture) :
    (mySqlCtrlAddEntranceInfo c.info t).2 = if FreshToken t c then t ++ [c.info] else t := by
  rw [mySqlCtrlAddEntranceInfo]
  split
  · next hnone =>
      rw [if_neg]
      intro (hfresh : ∀ r ∈ t, r.snapToken ≠ c.info.snapToken)
      rw [insertRow_of_fresh hfresh] at hnone
      cases hnone
  · next t' hsome =>
      obtain ⟨hfresh, rfl⟩ := insertRow_eq_some_iff.1 hsome
      exact (if_pos (c := FreshToken t c) hfresh).symm

theorem mem_addEntranceInfo {r : DeviceEntrance} :
    r ∈ (mySqlCtrlAddEntranceInfo c.info t).2 ↔ r ∈ t ∨ FreshToken t c ∧ r = c.info := by
  rw [addEntranceInfo_table]
  split
  · next hfresh => simp [hfresh]
  · next hfresh => simp [hfresh]

theorem visitsInMonth_addEntranceInfo :
    visitsInMonth (mySqlCtrlAddEntranceInfo c.info t).2 c.plateNo (monthOf c.info.vehicleStart) =
      visitsInMonth t c.plateNo (monthOf c.info.vehicleStart) +
        (if FreshToken t c then 1 else 0) := by
  have hself : visitsInMonth [c.info] c.plateNo (monthOf c.info.vehicleStart) = 1 := by
    simp [visitsInMonth]
  rw [addEntranceInfo_table]
  split
  · next hfresh =>
      rw [← hself]
      exact List.countP_append
  · exact (Nat.add_zero _).symm

/-- Plates are counted, not visits. -/
theorem sumBySerchType2_eq [Server] :
    mySqlCtrlGetEntranceListSumBySerchType2 (mySqlCtrlAddEntranceInfo c.info t).2
        (monthTime1 c.info.vehicleStart) (monthTime2 c.info.vehicleStart) (plateSerch c.fuzzyStr) =
      (otherPlates t c).card + (if FindsItself t c then 1 else 0) := by
  have hmem : ∀ p, p ∈ platesWhere (sumBySerchType2Conds (monthTime1 c.info.vehicleStart)
      (monthTime2 c.info.vehicleStart) (plateSerch c.fuzzyStr)) (mySqlCtrlAddEntranceInfo c.info t).2 ↔
        p ∈ otherPlates t c ∨ p = c.plateNo ∧ FindsItself t c := by
    intro p
    rw [mem_plates_found, mem_otherPlates]
    constructor
    · rintro ⟨r, hr, hfound, rfl⟩
      by_cases hp : r.plateNo = c.plateNo
      · refine .inr ⟨hp, ?_⟩
        rcases mem_addEntranceInfo.1 hr with hr | ⟨hfresh, rfl⟩
        · exact .inl ⟨r, hr, hfound, hp⟩
        · exact .inr ⟨hfresh, hfound⟩
      · rcases mem_addEntranceInfo.1 hr with hr | ⟨-, rfl⟩
        · exact .inl ⟨r, hr, hfound, rfl, hp⟩
        · exact absurd rfl hp
    · rintro (⟨r, hr, hfound, rfl, -⟩ | ⟨rfl, ⟨r, hr, hfound, hp⟩ | ⟨hfresh, hfound⟩⟩)
      · exact ⟨r, mem_addEntranceInfo.2 (.inl hr), hfound, rfl⟩
      · exact ⟨r, mem_addEntranceInfo.2 (.inl hr), hfound, hp⟩
      · exact ⟨c.info, mem_addEntranceInfo.2 (.inr ⟨hfresh, rfl⟩), hfound, rfl⟩
  rw [mySqlCtrlGetEntranceListSumBySerchType2, ← card_platesWhere]
  by_cases hself : FindsItself t c
  · have hother : c.plateNo ∉ otherPlates t c := by
      intro hin
      obtain ⟨r, -, -, -, hne⟩ := mem_otherPlates.1 hin
      exact hne rfl
    rw [if_pos hself, ← Finset.card_insert_of_notMem hother]
    congr 1
    ext p
    rw [hmem, Finset.mem_insert]
    tauto
  · rw [if_neg hself, Nat.add_zero]
    congr 1
    ext p
    rw [hmem]
    tauto

/-! ## The theorem -/

/-- A capture that opens a visit is stored, and the search is made on the table with it. -/
theorem pushStep_cases [Server] (h : PushStep t (c, pushed) t') :
    pushed = none ∨ t' = (mySqlCtrlAddEntranceInfo c.info t).2 ∧
      pushed = some ((otherPlates t c).card + (if FindsItself t c then 1 else 0)) := by
  obtain ⟨fetched, -, htable, hpushed⟩ := h
  dsimp only at htable hpushed
  unfold turnInRate at hpushed
  unfold memoryDataToDatabasePro at htable
  split at hpushed
  · next hplate =>
      rw [if_pos hplate] at htable
      cases haction : entranceAction (mySqlCtrlGetLatestEntranceInfo c.plateNo fetched) c.info with
      | newVisit =>
          rw [haction] at hpushed htable
          exact .inr ⟨htable, hpushed.trans (congrArg some sumBySerchType2_eq)⟩
      | setEnd token =>
          rw [haction] at hpushed
          exact .inl hpushed
      | leave =>
          rw [haction] at hpushed
          exact .inl hpushed
  · exact .inl hpushed

/-- A step pushes the number of visits exactly when there are as many other plates as earlier visits. -/
theorem countPushed_iff [Server] (h : PushStep t (c, pushed) t') :
    CountPushed t (c, pushed) t' ↔ AsManyOthers t (c, pushed) := by
  rcases pushStep_cases h with rfl | ⟨rfl, rfl⟩
  · exact iff_of_true (fun _ hnum => nomatch hnum) fun hsome => nomatch hsome
  · rw [CountPushed, AsManyOthers]
    dsimp only
    rw [visitsInMonth_addEntranceInfo]
    constructor
    · exact fun hcount _ => hcount _ rfl
    · rintro hcount num ⟨⟩
      exact hcount rfl

/-- **When the pushed counts are right.** For every table and every history of captures: the histories in
    which each number that is pushed with a visit is the number of visits of exactly that plate in the
    month, are those in which each capture that opens a visit finds as many other plates with its text
    as earlier visits of its own. -/
theorem pushed_counts_iff [Server] (t₀ : EntranceTable) {tr : List (EntranceCapture × Option ℕ)} :
    Run (stepThat CountPushed PushStep) t₀ tr t ↔ Run (stepWhen AsManyOthers PushStep) t₀ tr t := by
  refine Run.each_iff (fun _ => True) trivial (fun t x t' _ hcond hs => ?_)
    fun t x t' _ hcond hs => ?_
  · exact ⟨trivial, (countPushed_iff hs).2 hcond⟩
  · exact mt (countPushed_iff hs).1 hcond

/-- A first visit in the month, inside the window, of a plate whose text no other plate there contains. -/
theorem asManyOthers_first [Server] (hfresh : FreshToken t c) (hfound : Found c c.info)
    (hfirst : ∀ r ∈ t, ¬ (r.plateNo = c.plateNo ∧ monthOf r.vehicleStart = monthOf c.info.vehicleStart))
    (hothers : ∀ r ∈ t, Found c r → r.plateNo = c.plateNo) : AsManyOthers t (c, pushed) := by
  intro _
  have hnone : otherPlates t c = ∅ := by
    refine Finset.eq_empty_of_forall_notMem fun p hp => ?_
    obtain ⟨r, hr, hr', rfl, hne⟩ := mem_otherPlates.1 hp
    exact hne (hothers r hr hr')
  have hzero : visitsInMonth t c.plateNo (monthOf c.info.vehicleStart) = 0 := by
    refine List.countP_eq_zero.2 fun r hr => ?_
    simpa using hfirst r hr
  dsimp only
  have hself : FindsItself t c := .inr ⟨hfresh, hfound⟩
  rw [hnone, hzero, if_pos hself, if_pos hfresh]
  rfl

/-! ## A second visit -/

/-- Plate A at an hour of one day. -/
def sampleVisit (token : String) (hour : Fin 24) : EntranceCapture where
  info := ⟨token, "A", 0, 0, 0, 0, ⟨2024, 5, 1, hour, 0, 0⟩, ⟨2024, 5, 1, hour, 0, 0⟩, ""⟩
  valid := ⟨(by decide : ValidDate 2024 5 1), hour.2, (by decide : 0 < 60), (by decide : 0 < 60)⟩
  instant := rfl
  plain := by
    change PlainText "A"
    decide

/-- The first visit is pushed with the count 1, and so is the second. -/
theorem second_visit_counts_one :
    letI : Server := Server.textual
    Run PushStep [] [(sampleVisit "1" 8, some 1)] [(sampleVisit "1" 8).info] ∧
      ∃ t', PushStep [(sampleVisit "1" 8).info] (sampleVisit "2" 12, some 1) t' ∧
        ¬ CountPushed [(sampleVisit "1" 8).info] (sampleVisit "2" 12, some 1) t' := by
  let _ : Server := Server.textual
  refine ⟨Run.nil.snoc ⟨[], ?_, ?_, ?_⟩, _, ⟨[(sampleVisit "1" 8).info], ?_, rfl, ?_⟩, ?_⟩
  · exact .refl _
  · decide
  · decide
  · have hrows : latestEntranceRows "A" [(sampleVisit "1" 8).info] = [(sampleVisit "1" 8).info] := by
      decide
    exact .of_eq hrows.symm
  · decide +kernel
  · intro hcount
    exact absurd (hcount 1 rfl) (by decide +kernel)

end SmartPlat.VehicleDataAnalysis
