import SmartPlat.AttendanceManage.Lists
import SmartPlat.VehicleDataAnalysis.Proofs.Pages

set_option autoImplicit false

/-! # One row for each employee and each visitor

The first records are joined by name and listed for each number; the last visits are compared with all
visits and listed for a window. Either list has one row each where that makes no difference. -/

namespace SmartPlat.AttendanceManage

open SmartPlat.Lib SmartPlat.MySql SmartPlat.VehicleDataAnalysis

variable {startTime endTime : RequestTime} {num : ℕ}

/-! ## Pages -/

section

variable {α γ : Type}

/-- The pages of a list one after another, up to one that is not full. -/
def listPages (list : ℤ → ℤ → List α → List γ) (num : ℕ) (result : List α) : List γ :=
  (List.range (result.length / num + 1)).flatMap fun i : ℕ => list (i + 1) num result

theorem listPages_eq {list : ℤ → ℤ → List α → List γ} {f : α → γ} {result : List α} (hnum : 1 ≤ num)
    (hlist : ∀ p : ℤ, list p num result = (limit ((p - 1) * num) num result).map f) :
    listPages list num result = result.map f := by
  have hall : allPages (fun p num l => limit ((p - 1) * num) num l) num result = result :=
    allPages_eq hnum fun _ => rfl
  unfold listPages
  simp only [hlist]
  rw [← List.map_flatMap]
  exact congrArg (List.map f) hall

end

/-! ## Employees -/

section

variable {t : AttendanceTable}

/-- What the list of first records is for: one row for each number in the window, his earliest there. -/
structure FirstOfEach [Server] (t : AttendanceTable) (startTime endTime : RequestTime)
    (shown : List AttendanceAtt) (sum : ℕ) : Prop where
  listed : ∀ a ∈ shown, ∃ r ∈ attendanceIn t startTime endTime, a = attendanceAtt r
  once : OneOfEach attendanceAtt AttendanceAtt.usrid (fun s u => s.time.datetime ≤ u.time.datetime)
    (attendanceIn t startTime endTime) shown
  total : sum = shown.length

/-- Before one record of each number, his earliest, there is none under the same name, and before each
    of his others there is one. -/
def FirstUnderName (window : List AttendanceRow) : Prop :=
  ∀ r ∈ window, ∃ s ∈ window, s.number = r.number ∧
    (∀ u ∈ window, u.number = r.number ∨ u.name = s.name → s.time.datetime ≤ u.time.datetime) ∧
    ∀ u ∈ window, u.number = r.number → u ≠ s →
      ∃ v ∈ window, v.name = u.name ∧ v.time.datetime < u.time.datetime

instance (window : List AttendanceRow) : Decidable (FirstUnderName window) :=
  inferInstanceAs (Decidable (∀ r ∈ window, ∃ s ∈ window, _ ∧ (∀ u ∈ window, _) ∧
    ∀ u ∈ window, _ → _ → ∃ v ∈ window, _))

theorem attendanceAtt_inj {r s : AttendanceRow} (hr : r ∈ t.rows) (hs : s ∈ t.rows)
    (h : attendanceAtt r = attendanceAtt s) : r = s :=
  List.inj_on_of_nodup_map t.ids hr hs (congrArg AttendanceAtt.snapToken h)

theorem afterNamesake_eq_true {r v : AttendanceRow} : afterNamesake r v = true ↔
    v.name = r.name ∧ v.time.datetime < r.time.datetime := by
  rw [afterNamesake, decide_eq_true_iff, eq_comm (a := r.name)]

theorem afterNamesake_eq_false {r v : AttendanceRow} : afterNamesake r v = false ↔
    (v.name = r.name → r.time.datetime ≤ v.time.datetime) := by
  rw [Bool.eq_false_iff, ne_eq, afterNamesake_eq_true, not_and, Nat.not_lt]

/-- Before the first of each number nobody of the same name comes: then no row is joined to it, and one
    to each of the others. -/
theorem firstUnderName_iff {window : List AttendanceRow} : FirstUnderName window ↔
    ∀ r ∈ window, ∃ s ∈ window, s.number = r.number ∧
      (∀ u ∈ window, u.number = r.number → s.time.datetime ≤ u.time.datetime) ∧
      (∀ v ∈ window, afterNamesake s v = false) ∧
      ∀ u ∈ window, u.number = r.number → u ≠ s → ∃ v ∈ window, afterNamesake u v = true := by
  refine forall₂_congr fun r _ => exists_congr fun s => and_congr_right fun _ =>
    and_congr_right fun _ => ?_
  simp only [afterNamesake_eq_true, afterNamesake_eq_false]
  rw [← and_assoc]
  refine and_congr_left fun _ => ?_
  constructor
  · intro hfirst
    exact ⟨fun u hu hug => hfirst u hu (.inl hug), fun u hu hname => hfirst u hu (.inr hname)⟩
  · rintro ⟨hbest, hfree⟩ u hu (hug | hname)
    · exact hbest u hu hug
    · exact hfree u hu hname

/-- **When each employee has one row**: in the window, before one record of every number, his earliest,
    nobody has a record under the same name, and before each further record of his somebody has. -/
theorem firstOfEach_iff [Server] {result : List AttendanceRow} (hnum : 1 ≤ num)
    (hresult : OrderByTimeDesc AttendanceRow.time (firstAttenddance t startTime endTime) result) :
    FirstOfEach t startTime endTime
        (listPages (fun page num result =>
          (getAttendanceRecord t startTime endTime page num result).2.2) num result)
        (getAttendanceRecordSum t startTime endTime).2 ↔
      FirstUnderName (attendanceIn t startTime endTime) := by
  have hperm := hresult.1
  rw [firstAttenddance, whereNull_leftJoin] at hperm
  have hshown : listPages (fun page num result =>
      (getAttendanceRecord t startTime endTime page num result).2.2) num result
        = result.map attendanceAtt := listPages_eq hnum fun _ => rfl
  have hmem : ∀ {r}, r ∈ attendanceIn t startTime endTime → r ∈ t.rows := List.mem_of_mem_filter
  have hone : OneOfEach attendanceAtt AttendanceAtt.usrid
      (fun s u => s.time.datetime ≤ u.time.datetime) (attendanceIn t startTime endTime)
      (result.map attendanceAtt) ↔ _ :=
    oneOfEach_iff ((List.Nodup.of_map _ t.ids).filter _)
      (fun r hr s hs => attendanceAtt_inj (hmem hr) (hmem hs)) hperm
  rw [hshown]
  constructor
  · intro h
    exact firstUnderName_iff.2 (hone.1 h.once)
  · intro h
    refine ⟨?_, hone.2 (firstUnderName_iff.1 h), ?_⟩
    · intro a ha
      obtain ⟨r, hr, rfl⟩ := List.mem_map.1 ha
      exact ⟨r, List.mem_of_mem_filter (hperm.mem_iff.1 hr), rfl⟩
    · rw [List.length_map]
      exact hresult.1.length_eq.symm

/-- A row for concrete tables. -/
def sampleAttendance (id name number : String) (time : TimeYMD) : AttendanceRow :=
  ⟨id, name, number, "", "", time, "", ""⟩

/-- Two employees, of whom one comes twice. -/
def sampleRecords : AttendanceTable where
  rows := [sampleAttendance "1" "Li" "7" ⟨2024, 5, 6, 8, 0, 0⟩,
    sampleAttendance "2" "Wang" "8" ⟨2024, 5, 6, 8, 0, 0⟩,
    sampleAttendance "3" "Li" "7" ⟨2024, 5, 6, 13, 0, 0⟩]
  ids := by decide

/-- Their rows of that day, on pages of one. -/
theorem firstOfEach_sample :
    letI : Server := Server.textual
    FirstOfEach sampleRecords ⟨2024, 5, 6, 0, 0, 0⟩ ⟨2024, 5, 6, 23, 59, 59⟩
      (listPages (fun page num result => (getAttendanceRecord sampleRecords ⟨2024, 5, 6, 0, 0, 0⟩
          ⟨2024, 5, 6, 23, 59, 59⟩ page num result).2.2) 1
        [sampleAttendance "2" "Wang" "8" ⟨2024, 5, 6, 8, 0, 0⟩,
          sampleAttendance "1" "Li" "7" ⟨2024, 5, 6, 8, 0, 0⟩])
      (getAttendanceRecordSum sampleRecords ⟨2024, 5, 6, 0, 0, 0⟩ ⟨2024, 5, 6, 23, 59, 59⟩).2 :=
  letI : Server := Server.textual
  (firstOfEach_iff (by decide) ⟨by decide, by decide⟩).2 (by decide)

/-- Two employees of one name. -/
def namesakes : AttendanceTable where
  rows := [sampleAttendance "1" "Li" "7" ⟨2024, 5, 6, 8, 0, 0⟩,
    sampleAttendance "2" "Li" "8" ⟨2024, 5, 6, 9, 0, 0⟩]
  ids := by decide

/-- The second of them is not listed. -/
theorem namesake_missing :
    letI : Server := Server.textual
    OrderByTimeDesc AttendanceRow.time
        (firstAttenddance namesakes ⟨2024, 5, 6, 0, 0, 0⟩ ⟨2024, 5, 6, 23, 59, 59⟩)
        [sampleAttendance "1" "Li" "7" ⟨2024, 5, 6, 8, 0, 0⟩] ∧
      ¬ FirstOfEach namesakes ⟨2024, 5, 6, 0, 0, 0⟩ ⟨2024, 5, 6, 23, 59, 59⟩
        (listPages (fun page num result => (getAttendanceRecord namesakes ⟨2024, 5, 6, 0, 0, 0⟩
            ⟨2024, 5, 6, 23, 59, 59⟩ page num result).2.2) 10
          [sampleAttendance "1" "Li" "7" ⟨2024, 5, 6, 8, 0, 0⟩])
        (getAttendanceRecordSum namesakes ⟨2024, 5, 6, 0, 0, 0⟩ ⟨2024, 5, 6, 23, 59, 59⟩).2 := by
  let _ : Server := Server.textual
  refine ⟨⟨by decide, by decide⟩, fun h => ?_⟩
  obtain ⟨s, -, -, hshown⟩ := h.once (sampleAttendance "2" "Li" "8" ⟨2024, 5, 6, 9, 0, 0⟩)
    (by decide)
  have hnone : (listPages (fun page num result => (getAttendanceRecord namesakes ⟨2024, 5, 6, 0, 0, 0⟩
      ⟨2024, 5, 6, 23, 59, 59⟩ page num result).2.2) 10
        [sampleAttendance "1" "Li" "7" ⟨2024, 5, 6, 8, 0, 0⟩]).filter
          (fun x => x.usrid = "8") = [] := by
    decide
  exact List.cons_ne_nil _ _ (hshown.symm.trans hnone)

end

/-! ## Visitors -/

section

variable {t : VisitorsTable}

/-- The rows of a window. -/
def visitorsIn [Server] (t : VisitorsTable) (startTime endTime : RequestTime) : List VisitorsRow :=
  t.rows.filter fun r => between startTime endTime r.time

/-- What the list of last visits is for: one row for each visitor of the window, his latest visit
    there. -/
structure LastOfEach [Server] (t : VisitorsTable) (startTime endTime : RequestTime)
    (shown : List VIPCustomer) (sum : ℕ) : Prop where
  listed : ∀ c ∈ shown, ∃ r ∈ visitorsIn t startTime endTime, c = vipCustomer r
  once : OneOfEach vipCustomer VIPCustomer.name (fun s u => u.time.datetime ≤ s.time.datetime)
    (visitorsIn t startTime endTime) shown
  total : sum = shown.length

/-- Of every visitor of the window, one visit there is later than all of his others. -/
def LastInside [Server] (t : VisitorsTable) (startTime endTime : RequestTime) : Prop :=
  ∀ r ∈ visitorsIn t startTime endTime, ∃ s ∈ visitorsIn t startTime endTime, s.name = r.name ∧
    ∀ v ∈ t.rows, v.name = r.name → v ≠ s → v.time.datetime < s.time.datetime

instance [Server] (t : VisitorsTable) (startTime endTime : RequestTime) :
    Decidable (LastInside t startTime endTime) :=
  inferInstanceAs (Decidable (∀ r ∈ visitorsIn t startTime endTime,
    ∃ s ∈ visitorsIn t startTime endTime, _ ∧ ∀ v ∈ t.rows, _ → _ → _))

theorem vipCustomer_inj {r s : VisitorsRow} (hr : r ∈ t.rows) (hs : s ∈ t.rows)
    (h : vipCustomer r = vipCustomer s) : r = s :=
  List.inj_on_of_nodup_map t.ids hr hs (congrArg VIPCustomer.snapToken h)

theorem beforeNamesake_eq_true {r v : VisitorsRow} : beforeNamesake r v = true ↔
    v.name = r.name ∧ r.time.datetime < v.time.datetime := by
  rw [beforeNamesake, decide_eq_true_iff, eq_comm (a := r.name)]

theorem lastVisitors_eq [Server] : lastVisitors t startTime endTime =
    (visitorsIn t startTime endTime).filter fun r => !t.rows.any (beforeNamesake r) := by
  rw [lastVisitors, whereNull_leftJoin, visitorsIn, List.filter_filter, List.filter_filter]
  exact List.filter_congr fun r _ => Bool.and_comm _ _

/-- With no row to list, there is none on a page. -/
theorem getVisitorsInfo_page [Server] {result : List VisitorsRow}
    (hlen : result.length = mysqlCtrlGetLastVisitorsInfoSumByDate t startTime endTime) (p num : ℤ) :
    (getVisitorsInfo t startTime endTime p num result).2.2
      = (limit ((p - 1) * num) num result).map vipCustomer := by
  unfold getVisitorsInfo
  simp only [← hlen]
  split
  · rfl
  · next hsum =>
      rw [List.eq_nil_of_length_eq_zero (Nat.eq_zero_of_not_pos hsum), limit]
      split <;> simp

/-- Later than all other visits of its visitor: then no row is joined to it, and one to each of his
    others. -/
theorem lastInside_iff [Server] : LastInside t startTime endTime ↔
    ∀ r ∈ visitorsIn t startTime endTime, ∃ s ∈ visitorsIn t startTime endTime, s.name = r.name ∧
      (∀ u ∈ visitorsIn t startTime endTime, u.name = r.name → u.time.datetime ≤ s.time.datetime) ∧
      (∀ v ∈ t.rows, beforeNamesake s v = false) ∧
      ∀ u ∈ visitorsIn t startTime endTime, u.name = r.name → u ≠ s →
        ∃ v ∈ t.rows, beforeNamesake u v = true := by
  have hmem : ∀ {r}, r ∈ visitorsIn t startTime endTime → r ∈ t.rows := List.mem_of_mem_filter
  refine forall₂_congr fun r _ => exists_congr fun s => and_congr_right fun hs =>
    and_congr_right fun hname => ?_
  constructor
  · intro hlast
    have hle : ∀ v ∈ t.rows, v.name = r.name → v.time.datetime ≤ s.time.datetime := by
      intro v hv hvname
      by_cases hne : v = s
      · exact Nat.le_of_eq (by rw [hne])
      · exact Nat.le_of_lt (hlast v hv hvname hne)
    refine ⟨fun u hu hug => hle u (hmem hu) hug, fun v hv => ?_, fun u hu hug hne => ?_⟩
    · rw [Bool.eq_false_iff]
      intro hon
      obtain ⟨hvname, hlt⟩ := beforeNamesake_eq_true.1 hon
      have := hle v hv (hvname.trans hname)
      omega
    · exact ⟨s, hmem hs, beforeNamesake_eq_true.2 ⟨hname.trans hug.symm, hlast u (hmem hu) hug hne⟩⟩
  · intro ⟨_, hfree, hrest⟩ v hv hvname hne
    have hlast : ∀ v ∈ t.rows, v.name = r.name → v.time.datetime ≤ s.time.datetime := by
      intro v hv hvname
      by_contra hlater
      have hon := beforeNamesake_eq_true.2 ⟨hvname.trans hname.symm, Nat.lt_of_not_le hlater⟩
      rw [hfree v hv] at hon
      cases hon
    by_contra hlater
    -- a visit at the same second is in the window too, and none is later
    have htime : v.time.datetime = s.time.datetime := Nat.le_antisymm (hlast v hv hvname)
      (Nat.le_of_not_lt hlater)
    have hin : v ∈ visitorsIn t startTime endTime := by
      refine List.mem_filter.2 ⟨hv, ?_⟩
      have hsin := (List.mem_filter.1 hs).2
      unfold between RequestTime.before RequestTime.after at hsin ⊢
      rwa [htime]
    obtain ⟨w, hw, hon⟩ := hrest v hin hvname hne
    obtain ⟨hwname, hlt⟩ := beforeNamesake_eq_true.1 hon
    have := hlast w hw (hwname.trans hvname)
    omega

/-- **When each visitor has one row**: one visit in the window is later than all other visits of his,
    wherever they are. -/
theorem lastOfEach_iff [Server] {result : List VisitorsRow} (hnum : 1 ≤ num)
    (hresult : OrderByTimeDesc VisitorsRow.time (lastVisitors t startTime endTime) result) :
    LastOfEach t startTime endTime
        (listPages (fun page num result =>
          (getVisitorsInfo t startTime endTime page num result).2.2) num result)
        (getVisitorsInfo t startTime endTime 1 num result).2.1 ↔
      LastInside t startTime endTime := by
  have hperm := hresult.1
  rw [lastVisitors_eq] at hperm
  have hshown : listPages (fun page num result =>
      (getVisitorsInfo t startTime endTime page num result).2.2) num result
        = result.map vipCustomer :=
    listPages_eq hnum fun p => getVisitorsInfo_page hresult.1.length_eq p num
  have hsum : (getVisitorsInfo t startTime endTime 1 num result).2.1 = result.length := by
    rw [hresult.1.length_eq, getVisitorsInfo]
    split <;> rfl
  have hmem : ∀ {r}, r ∈ visitorsIn t startTime endTime → r ∈ t.rows := List.mem_of_mem_filter
  have hone : OneOfEach vipCustomer VIPCustomer.name (fun s u => u.time.datetime ≤ s.time.datetime)
      (visitorsIn t startTime endTime) (result.map vipCustomer) ↔ _ :=
    oneOfEach_iff ((List.Nodup.of_map _ t.ids).filter _)
      (fun r hr s hs => vipCustomer_inj (hmem hr) (hmem hs)) hperm
  rw [hshown, hsum]
  constructor
  · intro h
    exact lastInside_iff.2 (hone.1 h.once)
  · intro h
    refine ⟨?_, hone.2 (lastInside_iff.1 h), (List.length_map _).symm⟩
    intro c hc
    obtain ⟨r, hr, rfl⟩ := List.mem_map.1 hc
    exact ⟨r, List.mem_of_mem_filter (hperm.mem_iff.1 hr), rfl⟩

/-- A row for concrete tables. -/
def sampleVisit (id name : String) (time : TimeYMD) : VisitorsRow :=
  ⟨id, name, id, "", time, 200, 1, "", ""⟩

/-- A visitor who comes on one day and twice on the next, and another one. -/
def sampleVisits : VisitorsTable where
  rows := [sampleVisit "0" "Li" ⟨2024, 5, 5, 10, 0, 0⟩, sampleVisit "1" "Li" ⟨2024, 5, 6, 8, 0, 0⟩,
    sampleVisit "2" "Wang" ⟨2024, 5, 6, 9, 0, 0⟩, sampleVisit "3" "Li" ⟨2024, 5, 6, 13, 0, 0⟩]
  ids := by decide

/-- Their rows of the second day, on pages of one. -/
theorem lastOfEach_sample :
    letI : Server := Server.textual
    LastOfEach sampleVisits ⟨2024, 5, 6, 0, 0, 0⟩ ⟨2024, 5, 6, 23, 59, 59⟩
      (listPages (fun page num result => (getVisitorsInfo sampleVisits ⟨2024, 5, 6, 0, 0, 0⟩
          ⟨2024, 5, 6, 23, 59, 59⟩ page num result).2.2) 1
        [sampleVisit "3" "Li" ⟨2024, 5, 6, 13, 0, 0⟩, sampleVisit "2" "Wang" ⟨2024, 5, 6, 9, 0, 0⟩])
      (getVisitorsInfo sampleVisits ⟨2024, 5, 6, 0, 0, 0⟩ ⟨2024, 5, 6, 23, 59, 59⟩ 1 1
        [sampleVisit "3" "Li" ⟨2024, 5, 6, 13, 0, 0⟩,
          sampleVisit "2" "Wang" ⟨2024, 5, 6, 9, 0, 0⟩]).2.1 :=
  letI : Server := Server.textual
  (lastOfEach_iff (by decide) ⟨by decide, by decide⟩).2 (by decide)

/-- In a window that ends before his last visit, the first is not listed. -/
theorem returning_visitor_missing :
    letI : Server := Server.textual
    OrderByTimeDesc VisitorsRow.time
        (lastVisitors sampleVisits ⟨2024, 5, 6, 0, 0, 0⟩ ⟨2024, 5, 6, 12, 0, 0⟩)
        [sampleVisit "2" "Wang" ⟨2024, 5, 6, 9, 0, 0⟩] ∧
      ¬ LastOfEach sampleVisits ⟨2024, 5, 6, 0, 0, 0⟩ ⟨2024, 5, 6, 12, 0, 0⟩
        (listPages (fun page num result => (getVisitorsInfo sampleVisits ⟨2024, 5, 6, 0, 0, 0⟩
            ⟨2024, 5, 6, 12, 0, 0⟩ page num result).2.2) 10
          [sampleVisit "2" "Wang" ⟨2024, 5, 6, 9, 0, 0⟩])
        (getVisitorsInfo sampleVisits ⟨2024, 5, 6, 0, 0, 0⟩ ⟨2024, 5, 6, 12, 0, 0⟩ 1 10
          [sampleVisit "2" "Wang" ⟨2024, 5, 6, 9, 0, 0⟩]).2.1 := by
  let _ : Server := Server.textual
  refine ⟨⟨by decide, List.pairwise_singleton _ _⟩, fun h => ?_⟩
  obtain ⟨s, -, -, hshown⟩ := h.once (sampleVisit "1" "Li" ⟨2024, 5, 6, 8, 0, 0⟩) (by decide)
  exact List.cons_ne_nil _ _ hshown.symm

end

end SmartPlat.AttendanceManage
