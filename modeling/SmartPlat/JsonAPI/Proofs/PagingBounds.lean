import SmartPlat.JsonAPI.PagingHandlers

set_option autoImplicit false

/-! # Accesses of lists and periods

A `malloc` for a number of elements has room for them or gives a null pointer, the latter for every
negative number. From there the rules of `Ends` compute, handler by handler, which requests are served
without an access outside an array. -/

namespace SmartPlat.JsonAPI

open SmartPlat.Lib SmartPlat.VehicleDataAnalysis

/-- The `k`-th `malloc`, for `num` elements, gets its bytes. -/
def PagingServer.Granted (server : PagingServer) (k : ℕ) (T : CStruct) (num : ℤ) : Prop :=
  server.grants k (T.bytes num)

instance (server : PagingServer) (k : ℕ) (T : CStruct) (num : ℤ) :
    Decidable (server.Granted k T num) :=
  inferInstanceAs (Decidable (_ = true))

/-- The text that a member puts into 64 bytes. -/
def Short (data : CJson) (name : String) : Prop := (jsonText 127 data name).length < 64

/-- When a command is served within its arrays. -/
def PagingCommand.Fits (server : PagingServer) (data : CJson) : PagingCommand → Prop
  | .getEntranceVehiclesCurList =>
      let num := jsonMapGetEntranceVehiclesCurList data
      server.Granted 0 .stationVehiclesInfo num → num ≠ 0 ∧ server.Granted 1 .deviceEntrance num
  | .getEntranceVehiclesList =>
      let req := jsonMapGetEntranceVehiclesListPares data
      let text := PagingServer.serchType2Text (PagingServer.stationSearchType req) req.fuzzyStr
      req.num = 0 ∨ server.Granted 0 .stationVehiclesInfo req.num ∧
        (server.total ≤ 0 ∨ server.rows text req.page req.num = 0 ∨
          server.Granted 1 .deviceEntrance req.num ∧ (39 ∉ text ∨ server.injected ≤ req.num))
  | .getEntranceHistoryList =>
      Short data "location" ∧ Short data "plateno" ∧ (pageRequest data).num = 0
  | .getEntranceServiceAnalysis =>
      1 ≤ (jsonMapGetEntranceServiceAnalysis data).2 ∧ (jsonMapGetEntranceServiceAnalysis data).2 ≤ 12
  | .getOutboundVehiclesAnalysis | .getRefuelingEfficiencyAnalysis => True
  | .getAbnormalVehicleList =>
      let req := jsonMapAbnormalVehicleList data
      server.Granted 0 .abnormalVehicleInfo req.num →
        server.rows [] req.page req.num = 0 ∨ server.Granted 1 .deviceEntranceMysql req.num
  | .getVehicleTrajectoryAnalysis =>
      let req := jsonMapVehicleTrajectoryAnalysis data
      req.num = 0 ∨ server.Granted 0 .stationVehiclesInfo req.num ∧
        (server.total < 0 ∨ server.Granted 1 .deviceEntrance req.num)
  | .getIntelligentAlarm =>
      let req := jsonMapGetIntelligentAlarm data
      server.Granted 0 .deviceAlarmInfo req.num → req.num = 0 ∨ req.page < 0 ∨
        ¬ server.alarmTypeKnown req.type ∨ server.Granted 1 .deviceAlarm req.num
  | .getAlarmPeriodAnalysis =>
      let count := jsonMapGetAlarmPeriodAnalysis data
      count = 0 ∨ server.Granted 0 .deviceAlarmCount (periodCount count)
  | .getAttendance =>
      let req := jsonMapGetAttendancePares data
      req.num = 0 ∨ server.Granted 0 .attendanceAtt req.num
  | .getAttendanceHistoryList =>
      let req := jsonMapGetAttendanceListPares data
      req.num = 0 ∧ ¬ server.Granted 0 .attendanceAtt req.num ∨
        server.Granted 0 .attendanceAtt req.num ∧
          (req.page < 0 ∨ 39 ∉ req.fuzzyStr ∨ server.injected ≤ req.num)
  | .getVisitorsInfo =>
      let req := jsonMapGetVisitorsPares data
      req.num = 0 ∨ server.Granted 0 .vipCustomer req.num

/-! ## Sizes -/

section

variable {server : PagingServer} {k : ℕ} {T U : CStruct} {num page : ℤ} {text : List UInt8}

theorem sizeof_pos (T : CStruct) : 0 < T.sizeof := by
  cases T <;> decide

theorem sizeof_le (T : CStruct) : T.sizeof ≤ 1024 := by
  cases T <;> decide

/-- An `int`. -/
def IsInt (num : ℤ) : Prop := -2 ^ 31 ≤ num ∧ num < 2 ^ 31

theorem isInt_jsonInt (data : CJson) (name : String) : IsInt (jsonInt data name) := by
  have hlo := Int.le_bmod (x := data.getObjectItemValueInt (ascii name)) (m := 2 ^ 32) (by decide)
  have hhi := Int.bmod_lt (x := data.getObjectItemValueInt (ascii name)) (m := 2 ^ 32) (by decide)
  unfold IsInt jsonInt
  omega

theorem bytes_of_nonneg (h : IsInt num) (h0 : 0 ≤ num) : T.bytes num = num.toNat * T.sizeof := by
  obtain ⟨n, rfl⟩ := Int.eq_ofNat_of_zero_le h0
  have hlt : T.sizeof * n < 2 ^ 64 := by
    have := Nat.mul_le_mul (sizeof_le T) (Nat.le_refl n)
    unfold IsInt at h
    omega
  rw [CStruct.bytes, sizeT, ← Int.natCast_mul, Int.toNat_natCast, Nat.mul_comm n]
  omega

/-- The size of a negative number is more than there is. -/
theorem le_bytes_of_neg (h : IsInt num) (h0 : num < 0) : 2 ^ 63 ≤ T.bytes num := by
  obtain ⟨n, rfl⟩ := Int.exists_eq_neg_ofNat (Int.le_of_lt h0)
  have hle := Nat.mul_le_mul (sizeof_le T) (Nat.le_refl n)
  have hpos : 0 < T.sizeof * n := Nat.mul_pos (sizeof_pos T) (by omega)
  rw [CStruct.bytes, sizeT, Int.mul_neg, ← Int.natCast_mul]
  unfold IsInt at h
  generalize T.sizeof * n = size at hle hpos ⊢
  omega

theorem Granted.nonneg (hg : server.Granted k T num) (h : IsInt num) : 0 ≤ num := by
  by_contra hneg
  have hlt := server.grants_le k _ hg
  have hle := le_bytes_of_neg (T := T) h (by omega)
  omega

theorem holds_bytes_malloc (h : IsInt num) :
    (server.malloc k T num).Holds (T.bytes num) ↔ num = 0 ∨ server.Granted k T num := by
  unfold PagingServer.malloc PagingServer.Granted
  split
  · next hg => simp [hg]
  · next hg =>
      rw [Block.holds_none, or_iff_left hg]
      by_cases h0 : 0 ≤ num
      · have hpos := sizeof_pos T
        rw [bytes_of_nonneg h h0, Nat.mul_eq_zero]
        omega
      · have hle := le_bytes_of_neg (T := T) h (by omega)
        omega

/-- `n` elements of an array that was allocated for `num`. -/
theorem holds_malloc (h : IsInt num) {n : ℕ} :
    (server.malloc k T num).Holds (n * T.sizeof) ↔ n = 0 ∨ server.Granted k T num ∧ n ≤ num := by
  have hpos := sizeof_pos T
  unfold PagingServer.malloc
  split
  · next hg =>
      have hg' : server.Granted k T num := hg
      have h0 := Granted.nonneg hg' h
      simp only [Block.holds_some, hg', true_and, bytes_of_nonneg h h0,
        Nat.mul_le_mul_right_iff hpos]
      omega
  · next hg =>
      have hg' : ¬ server.Granted k T num := hg
      simp only [Block.holds_none, hg', false_and, or_false, Nat.mul_eq_zero]
      omega

/-- `sizeof` of a number is 8. -/
theorem holds_eight (h : IsInt num) :
    (server.malloc k .deviceEntrance num).Holds 8 ↔
      num ≠ 0 ∧ server.Granted k .deviceEntrance num := by
  unfold PagingServer.malloc
  split
  · next hg =>
      have hg' : server.Granted k .deviceEntrance num := hg
      have h0 := Granted.nonneg hg' h
      rw [Block.holds_some, bytes_of_nonneg h h0, and_iff_left hg']
      have hsize : CStruct.deviceEntrance.sizeof = 452 := rfl
      rw [hsize]
      omega
  · next hg => exact iff_of_false (by simp) fun h => hg h.2

theorem malloc_eq_none : server.malloc k T num = none ↔ ¬ server.Granted k T num := by
  unfold PagingServer.malloc PagingServer.Granted
  split
  · next hg => simp [hg]
  · next hg => simp [hg]

end

/-! ## Functions that access arrays -/

section

variable {server : PagingServer} {T U : CStruct} {p q info : Block} {n : ℕ} {num page : ℤ}
  {text : List UInt8}

@[simp]
theorem ends_memset {R : Unit → Prop} : Ends (memset p n) R ↔ p.Holds n ∧ R () := ends_touch

@[simp]
theorem ends_memcpy {R : Unit → Prop} : Ends (memcpy p n) R ↔ p.Holds n ∧ R () := ends_touch

@[simp]
theorem ends_at {i : ℕ} {R : Unit → Prop} :
    Ends (T.at p i) R ↔ p.Holds ((i + 1) * T.sizeof) ∧ R () :=
  ends_element

@[simp]
theorem ends_range_at {R : Unit → Prop} :
    Ends (forRange n (T.at p)) R ↔ p.Holds (n * T.sizeof) ∧ R () := by
  simp only [ends_forRange, ends_at, and_true, Block.holds_elements]

@[simp]
theorem ends_copyElements {R : Unit → Prop} :
    Ends (PagingServer.copyElements n T p U q) R ↔
      p.Holds (n * T.sizeof) ∧ q.Holds (n * U.sizeof) ∧ R () := by
  simp only [PagingServer.copyElements, ends_forRange, ends_bind, ends_at, and_true, forall_and,
    Block.holds_elements, and_assoc]

@[simp]
theorem ends_fetch {R : ℤ → Prop} :
    Ends (server.fetch T text page num info) R ↔
      info.Holds (server.rows text page num * T.sizeof) ∧ R (server.rows text page num) := by
  simp only [PagingServer.fetch, ends_bind, ends_range_at, ends_pure]

@[simp]
theorem ends_serialise :
    (Ends (serialise T info num) fun _ => True) ↔
      info = none ∨ info.Holds (num.toNat * T.sizeof) := by
  cases info with
  | none => simp [serialise]
  | some bytes => simp [serialise]

theorem rows_le (server : PagingServer) (page : ℤ) (htext : 39 ∉ text) (h0 : 0 ≤ num) :
    (server.rows text page num : ℤ) ≤ num := by
  rw [PagingServer.rows, if_neg htext, limit]
  split
  · exact h0
  · rw [List.length_take]
    omega

/-- A page is too long only if a quote has made another statement of it. -/
theorem fits_rows (server : PagingServer) (text : List UInt8) (page : ℤ) (h0 : 0 ≤ num) :
    (server.rows text page num : ℤ) ≤ num ↔ 39 ∉ text ∨ server.injected ≤ num := by
  by_cases htext : 39 ∈ text
  · rw [PagingServer.rows, if_pos htext]
    simp [htext]
  · exact iff_of_true (rows_le server page htext h0) (Or.inl htext)

end

/-! ## Handlers -/

section

variable {server : PagingServer} {data : CJson}

theorem isInt_pageRequest (data : CJson) : IsInt (pageRequest data).num :=
  isInt_jsonInt data "num"

theorem funGetEntranceVehiclesCurList_ends :
    (Ends (funGetEntranceVehiclesCurList server data) fun _ => True) ↔
      PagingCommand.getEntranceVehiclesCurList.Fits server data := by
  have hint : IsInt (jsonMapGetEntranceVehiclesCurList data) := isInt_jsonInt data "num"
  simp only [PagingCommand.Fits, funGetEntranceVehiclesCurList]
  generalize jsonMapGetEntranceVehiclesCurList data = num at hint ⊢
  have htext : 39 ∉ PagingServer.serchType2Text ⟨false, false, false, false, false⟩ [] := by decide
  simp only [ends_bind, PagingServer.getEntranceVehiclesCurList, ends_ite, ends_ok,
    PagingServer.mySqlCtrlGetEntranceListBySerchType2, ends_memset, ends_fetch, ends_copyElements,
    jsonMapGetEntranceVehiclesCurListMake, ends_serialise, ends_pure, malloc_eq_none,
    Int.toNat_natCast, holds_malloc hint, holds_eight hint]

  by_cases hg : server.Granted 0 .stationVehiclesInfo num
  · have h0 := Granted.nonneg hg hint
    have hrows := rows_le server 1 htext h0
    simp only [hg, not_true_eq_false, or_false, true_and, false_or, forall_const]
    generalize server.rows _ 1 num = r at hrows ⊢
    rw [if_neg (by omega)]
    grind
  · simp [hg, keyFalse]

theorem funGetEntranceVehiclesList_ends :
    (Ends (funGetEntranceVehiclesList server data) fun _ => True) ↔
      PagingCommand.getEntranceVehiclesList.Fits server data := by
  have hint : IsInt (jsonMapGetEntranceVehiclesListPares data).num := isInt_pageRequest data
  simp only [PagingCommand.Fits, funGetEntranceVehiclesList]
  generalize jsonMapGetEntranceVehiclesListPares data = req at hint ⊢
  simp only [ends_bind, PagingServer.getEntranceVehiclesList, ends_ite, ends_ok,
    PagingServer.mySqlCtrlGetEntranceListBySerchType2, ends_memset, ends_fetch, ends_copyElements,
    jsonMapGetEntranceVehiclesListMake, ends_serialise, ends_pure, malloc_eq_none,
    Int.toNat_natCast, holds_malloc hint, holds_bytes_malloc hint]
  generalize PagingServer.serchType2Text (PagingServer.stationSearchType req) req.fuzzyStr = text
  have hrows := fun h : 0 ≤ req.num => fits_rows server text req.page h
  generalize server.rows text req.page req.num = r at hrows ⊢
  have h0 := fun hg : server.Granted 0 .stationVehiclesInfo req.num => Granted.nonneg hg hint
  grind [keyFalse, keyTrue]

theorem funGetVehicleTrajectoryAnalysis_ends :
    (Ends (funGetVehicleTrajectoryAnalysis server data) fun _ => True) ↔
      PagingCommand.getVehicleTrajectoryAnalysis.Fits server data := by
  have hint : IsInt (jsonMapVehicleTrajectoryAnalysis data).num := isInt_pageRequest data
  simp only [PagingCommand.Fits, funGetVehicleTrajectoryAnalysis]
  generalize jsonMapVehicleTrajectoryAnalysis data = req at hint ⊢
  have htext : 39 ∉ PagingServer.serchTypeText ⟨false, false, false, false, false⟩ [] := by decide
  simp only [ends_bind, PagingServer.getVehicleTrajectoryAnalysis, ends_ite, ends_ok,
    PagingServer.mySqlCtrlGetEntranceListBySerchType, ends_memset, ends_fetch, ends_copyElements,
    jsonMapVehicleTrajectoryAnalysisMake, ends_serialise, ends_pure, malloc_eq_none,
    holds_malloc hint, holds_bytes_malloc hint]
  have hrows := fun h : 0 ≤ req.num => rows_le server req.page htext h
  generalize server.rows _ req.page req.num = r at hrows ⊢
  have h0 := fun hg : server.Granted 0 .stationVehiclesInfo req.num => Granted.nonneg hg hint
  have h1 := fun hg : server.Granted 1 .deviceEntrance req.num => Granted.nonneg hg hint
  grind [keyFalse, keyTrue]

theorem storeText_ends {buffer : Block} {name : String} {n : ℕ} (hbuffer : buffer = some 64)
    {R : Unit → Prop} :
    Ends (storeText buffer n data name) R ↔ (jsonText n data name).length < 64 ∧ R () := by
  unfold storeText jsonText
  split
  · next h => simp [h]
  · next s h =>
      rw [ends_touch, hbuffer, Block.holds_some, h]
      rfl

/-- Nobody gets a page of the history: 128 bytes are read of a plate number of 64. -/
theorem funGetEntranceHistoryList_ends :
    (Ends (funGetEntranceHistoryList server data) fun _ => True) ↔
      PagingCommand.getEntranceHistoryList.Fits server data := by
  have hint : IsInt (pageRequest data).num := isInt_pageRequest data
  simp only [PagingCommand.Fits, funGetEntranceHistoryList, jsonMapGetEntranceHistoryListPares,
    Short, ends_bind, ends_pure, storeText_ends]
  generalize pageRequest data = req at hint ⊢
  simp only [PagingServer.getEntranceHistoryList, ends_bind, ends_ite, ends_ok, ends_memset,
    ends_memcpy, ends_pure, malloc_eq_none, holds_bytes_malloc hint, Block.holds_some]
  have h0 := fun hg : server.Granted 0 .stationHistoryInfo req.num => Granted.nonneg hg hint
  grind [keyFalse]

theorem dayAt_ends {year month : ℤ} {R : ℕ → Prop} :
    Ends (dayAt year month) R ↔
      (1 ≤ month ∧ month ≤ 12) ∧ R ((monthDays year).getD (month - 1).toNat 0) := by
  have hlen : (monthDays year).length = 12 := rfl
  unfold dayAt
  split
  · next h => simp; omega
  · next h =>
      rw [List.getD_eq_getElem?_getD]
      cases hd : (monthDays year)[(month - 1).toNat]? with
      | none =>
          have := List.getElem?_eq_none_iff.1 hd
          simp
          omega
      | some days =>
          have := (List.getElem?_eq_some_iff.1 hd).1
          simp
          omega

theorem monthDays_le (year : ℤ) (i : ℕ) : (monthDays year).getD i 0 ≤ 31 := by
  rcases Nat.lt_or_ge i 12 with hi | hi
  · unfold monthDays
    split <;> interval_cases i <;> decide
  · have hlen : (monthDays year).length ≤ i := hi
    rw [List.getD_eq_getElem?_getD, List.getElem?_eq_none hlen]
    decide

theorem funGetEntranceServiceAnalysis_ends :
    (Ends (funGetEntranceServiceAnalysis data) fun _ => True) ↔
      PagingCommand.getEntranceServiceAnalysis.Fits server data := by
  simp only [PagingCommand.Fits, funGetEntranceServiceAnalysis]
  generalize jsonMapGetEntranceServiceAnalysis data = time
  have hle := monthDays_le time.1 (time.2 - 1).toNat
  have hsize : CStruct.int.sizeof = 4 := rfl
  simp only [ends_bind, ends_memset, ends_pure, dayAt_ends, PagingServer.getEntranceServiceAnalysis,
    ends_range_at, jsonMapEntranceServiceAnalysisMake, ends_serialise, Block.holds_some, hsize,
    Int.toNat_natCast]
  omega

theorem isInt_periodCount {days : ℤ} (h : IsInt days) : IsInt (periodCount days) := by
  unfold periodCount
  split
  · exact ⟨by decide, by decide⟩
  · exact h

theorem getOutboundVehiclesAnalysis_ends {count : ℤ} {progress : Block} {R : ℤ → Prop} :
    Ends (PagingServer.getOutboundVehiclesAnalysis count progress) R ↔
      if progress = none ∨ count < 0 then R keyFalse
      else progress.Holds (count.toNat * CStruct.progressRate.sizeof) ∧ R keyTrue := by
  simp only [PagingServer.getOutboundVehiclesAnalysis, ends_ite, ends_ok, ends_bind, ends_range_at,
    ends_pure]

/-- What `malloc` does not give is noticed before it is used. -/
theorem funGetOutboundVehiclesAnalysis_ends :
    Ends (funGetOutboundVehiclesAnalysis server data) fun _ => True := by
  have hint : IsInt (periodCount (jsonMapOutboundVehiclesAnalysis data)) :=
    isInt_periodCount (isInt_jsonInt data "number")
  unfold funGetOutboundVehiclesAnalysis
  generalize periodCount (jsonMapOutboundVehiclesAnalysis data) = count at hint ⊢
  have hmake : ∀ p q : Block, (Ends (jsonMapOutboundVehiclesAnalysisMake count p q) fun _ => True) ↔
      p = none ∨ q = none ∨ p.Holds (count.toNat * CStruct.progressRate.sizeof) ∧
        q.Holds (count.toNat * CStruct.progressRate.sizeof) := by
    intro p q
    cases p <;> cases q <;>
      simp only [jsonMapOutboundVehiclesAnalysisMake, ends_ok, ends_pure, ends_forRange, ends_bind,
        ends_at, and_true, forall_and, Block.holds_elements, reduceCtorEq, true_or, or_true, false_or]
  simp only [ends_bind, getOutboundVehiclesAnalysis_ends, malloc_eq_none, ends_ite, ends_pure,
    hmake, holds_malloc hint]
  have h0 := fun hg : server.Granted 0 .progressRate count => Granted.nonneg hg hint
  have h1 := fun hg : server.Granted 1 .progressRate count => Granted.nonneg hg hint
  grind

theorem funGetRefuelingEfficiencyAnalysis_ends :
    Ends (funGetRefuelingEfficiencyAnalysis server data) fun _ => True := by
  have hint : IsInt (periodCount (jsonMapRefuelingEfficiencyAnalysis data)) :=
    isInt_periodCount (isInt_jsonInt data "number")
  unfold funGetRefuelingEfficiencyAnalysis
  generalize periodCount (jsonMapRefuelingEfficiencyAnalysis data) = count at hint ⊢
  simp only [ends_bind, PagingServer.getRefuelingEfficiencyAnalysis, ends_ite, ends_ok,
    ends_range_at, ends_pure, jsonMapRefuelingEfficiencyAnalysisMake, ends_serialise,
    malloc_eq_none, holds_malloc hint]
  have h0 := fun hg : server.Granted 0 .refueling count => Granted.nonneg hg hint
  grind

theorem funGetAbnormalVehicleList_ends :
    (Ends (funGetAbnormalVehicleList server data) fun _ => True) ↔
      PagingCommand.getAbnormalVehicleList.Fits server data := by
  have hint : IsInt (jsonMapAbnormalVehicleList data).num := isInt_pageRequest data
  simp only [PagingCommand.Fits, funGetAbnormalVehicleList]
  generalize jsonMapAbnormalVehicleList data = req at hint ⊢
  simp only [ends_bind, PagingServer.getAbnormalVehicleList, ends_ite, ends_ok,
    PagingServer.mySqlCtrlGetEntranceResidenceListInfo, ends_fetch, ends_copyElements, ends_pure,
    jsonMapAbnormalVehicleListMake, ends_serialise, malloc_eq_none, Int.toNat_natCast,
    holds_malloc hint]
  have hrows := fun h : 0 ≤ req.num => rows_le server req.page List.not_mem_nil h
  generalize server.rows [] req.page req.num = r at hrows ⊢
  have h0 := fun hg : server.Granted 0 .abnormalVehicleInfo req.num => Granted.nonneg hg hint
  grind

theorem funGetIntelligentAlarm_ends :
    (Ends (funGetIntelligentAlarm server data) fun _ => True) ↔
      PagingCommand.getIntelligentAlarm.Fits server data := by
  have hint : IsInt (jsonMapGetIntelligentAlarm data).num := isInt_pageRequest data
  simp only [PagingCommand.Fits, funGetIntelligentAlarm]
  generalize jsonMapGetIntelligentAlarm data = req at hint ⊢
  simp only [ends_bind, PagingServer.getIntelligentAlarm, ends_ite, ends_ok, ends_memset,
    PagingServer.mySqlCtrlGetAlarmListBySearchType, ends_fetch, ends_copyElements, ends_pure,
    jsonMapGetIntelligentAlarmMake, ends_serialise, malloc_eq_none, Int.toNat_natCast,
    holds_malloc hint, holds_bytes_malloc hint]
  have hrows := fun h : 0 ≤ req.num => rows_le server req.page List.not_mem_nil h
  generalize server.rows [] req.page req.num = r at hrows ⊢
  have h0 := fun hg : server.Granted 0 .deviceAlarmInfo req.num => Granted.nonneg hg hint
  grind [keyFalse, keyTrue]

/-- What is cleared of the hours of a day is one element. -/
theorem holds_period {count : ℤ} (h : IsInt count) :
    (server.malloc 0 .deviceAlarmCount (periodCount count)).Holds
        (CStruct.deviceAlarmCount.bytes count) ↔
      count = 0 ∨ server.Granted 0 .deviceAlarmCount (periodCount count) := by
  by_cases hday : count = 1
  · subst hday
    rw [bytes_of_nonneg h (by decide), holds_malloc (isInt_periodCount h)]
    simp [periodCount]
  · rw [periodCount, if_neg hday, holds_bytes_malloc h]

theorem funGetAlarmPeriodAnalysis_ends :
    (Ends (funGetAlarmPeriodAnalysis server data) fun _ => True) ↔
      PagingCommand.getAlarmPeriodAnalysis.Fits server data := by
  have hint : IsInt (jsonMapGetAlarmPeriodAnalysis data) := isInt_jsonInt data "number"
  simp only [PagingCommand.Fits, funGetAlarmPeriodAnalysis]
  generalize jsonMapGetAlarmPeriodAnalysis data = count at hint ⊢
  have hle : count ≤ periodCount count := by
    unfold periodCount
    split <;> omega
  simp only [ends_bind, PagingServer.getAlarmPeriodAnalysis, ends_ite, ends_ok, ends_memset,
    ends_range_at, ends_pure, jsonMapGetAlarmPeriodAnalysisMake, ends_serialise, malloc_eq_none,
    holds_malloc (isInt_periodCount hint), holds_period hint]
  have h0 := fun hg : server.Granted 0 .deviceAlarmCount (periodCount count) =>
    Granted.nonneg hg (isInt_periodCount hint)
  grind [keyFalse, keyTrue]

theorem funGetAttendance_ends :
    (Ends (funGetAttendance server data) fun _ => True) ↔
      PagingCommand.getAttendance.Fits server data := by
  have hint : IsInt (jsonMapGetAttendancePares data).num := isInt_pageRequest data
  simp only [PagingCommand.Fits, funGetAttendance]
  generalize jsonMapGetAttendancePares data = req at hint ⊢
  simp only [ends_bind, PagingServer.getAttendanceRecord, ends_ite, ends_ok, ends_memset,
    PagingServer.mysqlCtrlGetFirstAttenddanceInfoByDate, ends_fetch, ends_pure,
    jsonMapGetAttendanceHistoryListMake, ends_serialise, malloc_eq_none, holds_malloc hint,
    holds_bytes_malloc hint]
  have hrows := fun h : 0 ≤ req.num => rows_le server req.page List.not_mem_nil h
  generalize server.rows [] req.page req.num = r at hrows ⊢
  have h0 := fun hg : server.Granted 0 .attendanceAtt req.num => Granted.nonneg hg hint
  grind [keyFalse, keyTrue]

theorem funGetAttendanceHistoryList_ends :
    (Ends (funGetAttendanceHistoryList server data) fun _ => True) ↔
      PagingCommand.getAttendanceHistoryList.Fits server data := by
  have hint : IsInt (jsonMapGetAttendanceListPares data).num := isInt_pageRequest data
  simp only [PagingCommand.Fits, funGetAttendanceHistoryList]
  generalize jsonMapGetAttendanceListPares data = req at hint ⊢
  simp only [ends_bind, PagingServer.getAttendanceHistoryList, ends_ite, ends_ok, ends_memset,
    PagingServer.mySqlCtrlGetAttendanceHistoryBySearchType, ends_fetch, ends_pure,
    jsonMapGetAttendanceHistoryListMake, ends_serialise, malloc_eq_none, holds_malloc hint,
    holds_bytes_malloc hint]
  have hrows := fun h : 0 ≤ req.num => fits_rows server req.fuzzyStr req.page h
  generalize server.rows req.fuzzyStr req.page req.num = r at hrows ⊢
  have h0 := fun hg : server.Granted 0 .attendanceAtt req.num => Granted.nonneg hg hint
  grind [keyFalse, keyTrue]

theorem funGetVisitorsInfo_ends :
    (Ends (funGetVisitorsInfo server data) fun _ => True) ↔
      PagingCommand.getVisitorsInfo.Fits server data := by
  have hint : IsInt (jsonMapGetVisitorsPares data).num := isInt_pageRequest data
  simp only [PagingCommand.Fits, funGetVisitorsInfo]
  generalize jsonMapGetVisitorsPares data = req at hint ⊢
  simp only [ends_bind, PagingServer.getVisitorsInfo, ends_ite, ends_ok, ends_memset,
    PagingServer.mysqlCtrlGetLastVisitorsInfoByDate, ends_fetch, ends_pure,
    jsonMapGetVisitorsListMake, ends_serialise, malloc_eq_none, holds_malloc hint,
    holds_bytes_malloc hint]
  have hrows := fun h : 0 ≤ req.num => rows_le server req.page List.not_mem_nil h
  generalize server.rows [] req.page req.num = r at hrows ⊢
  have h0 := fun hg : server.Granted 0 .vipCustomer req.num => Granted.nonneg hg hint
  grind [keyFalse, keyTrue]

end

/-! ## All commands -/

theorem handler_ends (cmd : PagingCommand) (server : PagingServer) (data : CJson) :
    (Ends (cmd.handler server data) fun _ => True) ↔ cmd.Fits server data := by
  cases cmd with
  | getEntranceVehiclesCurList => exact funGetEntranceVehiclesCurList_ends
  | getEntranceVehiclesList => exact funGetEntranceVehiclesList_ends
  | getEntranceHistoryList => exact funGetEntranceHistoryList_ends
  | getEntranceServiceAnalysis => exact funGetEntranceServiceAnalysis_ends
  | getOutboundVehiclesAnalysis => exact iff_of_true funGetOutboundVehiclesAnalysis_ends trivial
  | getAbnormalVehicleList => exact funGetAbnormalVehicleList_ends
  | getRefuelingEfficiencyAnalysis =>
      exact iff_of_true funGetRefuelingEfficiencyAnalysis_ends trivial
  | getVehicleTrajectoryAnalysis => exact funGetVehicleTrajectoryAnalysis_ends
  | getIntelligentAlarm => exact funGetIntelligentAlarm_ends
  | getAlarmPeriodAnalysis => exact funGetAlarmPeriodAnalysis_ends
  | getAttendance => exact funGetAttendance_ends
  | getAttendanceHistoryList => exact funGetAttendanceHistoryList_ends
  | getVisitorsInfo => exact funGetVisitorsInfo_ends

/-- **Paging arguments.** A command is answered without an access outside its arrays exactly when its
    request fits. -/
theorem paging_iff (cmd : PagingCommand) (server : PagingServer) (data : Option CJson) :
    (∃ reply, cmd.serve server data = .ok reply) ↔
      ∀ request, data = some request → server.registered → cmd.Fits server request := by
  cases data with
  | none => exact iff_of_true ⟨.false, rfl⟩ fun _ h => nomatch h
  | some data =>
      cases hreg : server.registered with
      | false => exact iff_of_true ⟨.false, by simp [PagingCommand.serve, hreg]⟩ fun _ _ h => nomatch h
      | true =>
          have hends := handler_ends cmd server data
          simp only [Ends, and_true] at hends
          simpa [PagingCommand.serve, hreg] using hends

/-- A server with memory for everything that can be asked for, and one row in its table. -/
def sampleServer : PagingServer where
  registered := true
  grants _ size := size < 2 ^ 63
  grants_le _ _ h := of_decide_eq_true h
  total := 1
  selected := 1
  injected := 1
  smokeLev := 1
  hightempLev := 2

/-- Without its numbers, or its time, a request is not refused. -/
theorem paging_missing_members :
    PagingCommand.getAttendance.serve sampleServer (some (.item none 0 [])) = .error .badAccess ∧
      PagingCommand.getEntranceServiceAnalysis.serve sampleServer (some (.item none 0 [])) =
        .error .badAccess := by
  decide

end SmartPlat.JsonAPI
