import SmartPlat.VehicleDataAnalysis.Reports
import SmartPlat.VehicleDataAnalysis.Proofs.Filters

set_option autoImplicit false

/-! # What the rows of the station lists say

The fifth column of the station list goes to the colour of the vehicle, and the entries show the colour of the
plate, which no column is written to. Of the plates of the long stays 24 bytes are copied, without an end
if they have as many. -/

namespace SmartPlat.VehicleDataAnalysis

open SmartPlat.Lib SmartPlat.MySql

variable {areas : PlatNoAreas} {t : EntranceTable} {stationAttr : StationVehicles} {page num : ℤ}
  {startTime endTime : TimeYMD} {groups : List EntranceGroup} {rows result : List DeviceEntrance}

/-! ## Texts in memory -/

/-- The buffer begins with the text and its end. -/
def Holds (buffer s : List UInt8) : Prop := ∃ w, buffer = s ++ 0 :: w

theorem Holds.textOf_eq {buffer s : List UInt8} (h : Holds buffer s) (hs : 0 ∉ s) : textOf buffer = s := by
  obtain ⟨w, rfl⟩ := h
  have hend : (CString.ofBuffer (0 :: w)).bytes = [] := rfl
  rw [textOf, CString.bytes_ofBuffer_append hs, hend, List.append_nil]

theorem Holds.overwrite {bytes s : List UInt8} (h : Holds bytes s) (buffer : List UInt8) :
    Holds (overwrite bytes buffer) s := by
  obtain ⟨w, rfl⟩ := h
  refine ⟨w ++ buffer.drop (s ++ 0 :: w).length, ?_⟩
  rw [VehicleDataAnalysis.overwrite, List.append_assoc, List.cons_append]

theorem Holds.take {buffer s : List UInt8} (h : Holds buffer s) {n : ℕ} (hn : s.length < n) :
    Holds (buffer.take n) s := by
  obtain ⟨w, rfl⟩ := h
  obtain ⟨k, rfl⟩ := Nat.exists_eq_add_of_lt hn
  refine ⟨w.take k, ?_⟩
  rw [Nat.add_assoc, List.take_length_add_append, List.take_succ_cons]

theorem holds_snprintfTo {s : List UInt8} {size : ℕ} (hs : s.length < size) (buffer : List UInt8) :
    Holds (snprintfTo size s buffer) s := by
  have hall : s.take (size - 1) = s := List.take_of_length_le (by omega)
  rw [snprintfTo, hall]
  exact Holds.overwrite ⟨[], rfl⟩ buffer

theorem holds_zeros {n : ℕ} (hn : 0 < n) : Holds (zeros n) [] := by
  obtain ⟨k, rfl⟩ := Nat.exists_eq_add_of_lt hn
  exact ⟨zeros k, by rw [Nat.zero_add, zeros, List.replicate_succ, List.nil_append, zeros]⟩

/-- A text that a `char[128]` can hold. -/
structure Storable (s : String) : Prop where
  noNul : 0 ∉ utf8 s
  short : (utf8 s).length < 128

instance (s : String) : Decidable (Storable s) :=
  decidable_of_iff (0 ∉ utf8 s ∧ (utf8 s).length < 128) ⟨fun h => ⟨h.1, h.2⟩, fun h => ⟨h.1, h.2⟩⟩

theorem utf8_injective : Function.Injective utf8 := fun _ _ h =>
  String.toByteArray_inj.1 (ByteArray.ext (Array.toList_inj.1 h))

theorem textOf_putLabel {label : String} (h : 0 ∉ utf8 label) (buffer : List UInt8) :
    textOf (putLabel label buffer) = utf8 label :=
  (Holds.overwrite ⟨[], rfl⟩ buffer).textOf_eq h

theorem noNul_plateColor (type : ℤ) : 0 ∉ utf8 (getPlateColorByType type) := by
  rw [getPlateColorByType]
  split_ifs <;> decide

theorem noNul_vehicles (type : ℤ) : 0 ∉ utf8 (getVehiclesByType type) := by
  rw [getVehiclesByType]
  split_ifs <;> decide

/-- The city that belongs to an area, as far as it fits. -/
def cityName (areas : PlatNoAreas) (areaId : ℤ) : List UInt8 :=
  if areaId ≤ 0 then [] else ((areas areaId).map fun name => name.bytes.take 31).getD []

theorem noNul_cityName (areas : PlatNoAreas) (areaId : ℤ) : 0 ∉ cityName areas areaId := by
  rw [cityName]
  split
  · exact List.not_mem_nil
  · cases areas areaId with
    | none => exact List.not_mem_nil
    | some name => exact fun h => name.noNul (List.mem_of_mem_take h)

theorem length_cityName (areas : PlatNoAreas) (areaId : ℤ) : (cityName areas areaId).length < 32 := by
  rw [cityName]
  split
  · exact Nat.zero_lt_succ _
  · cases areas areaId with
    | none => exact Nat.zero_lt_succ _
    | some name => exact Nat.lt_succ_of_le (List.length_take_le 31 _)

/-- Where nothing is found, the cleared buffer holds the empty text. -/
theorem holds_cityName (areas : PlatNoAreas) (areaId : ℤ) {n : ℕ} (hn : 0 < n) :
    Holds (mySqlCtrlGetPlatNoAreaById areas areaId (zeros n)) (cityName areas areaId) := by
  rw [mySqlCtrlGetPlatNoAreaById, cityName]
  split
  · exact holds_zeros hn
  · cases areas areaId with
    | none => exact holds_zeros hn
    | some name => exact Holds.overwrite ⟨[], rfl⟩ _

/-! ## The station list -/

/-- The entry shows what is stored for the visits of plate `p`. -/
structure StationItem (areas : PlatNoAreas) (rows : List DeviceEntrance) (p : String)
    (v : StationVehiclesInfo) : Prop where
  plateNo : textOf v.plateNo = utf8 p
  refuelNo : v.refuelNo = rows.countP fun r => r.plateNo = p
  time : maxStartdate p rows = some v.time
  territory : ∃ r ∈ rows, r.plateNo = p ∧ textOf v.territory = cityName areas r.vehicleTerr
  plateClor : ∃ r ∈ rows, r.plateNo = p ∧ textOf v.plateClor = utf8 (getPlateColorByType r.plateColor)
  carType : ∃ r ∈ rows, r.plateNo = p ∧ textOf v.carType = utf8 (getVehiclesByType r.vehicleType)

/-- An entry of a group shows the group, but for the colour, which is what the memory says. -/
theorem stationItem_fetch_iff {g : EntranceGroup} (hg : IsGroup rows g) (hplate : Storable g.plateNo)
    (info : EntranceMem) {plateNo : String} :
    StationItem areas rows plateNo ((info.fetch g).station areas) ↔
      plateNo = g.plateNo ∧ ∃ r ∈ rows, r.plateNo = g.plateNo ∧
        getPlateColorByType info.plateColor = getPlateColorByType r.plateColor := by
  have hstored : textOf ((info.fetch g).station areas).plateNo = utf8 g.plateNo :=
    (((holds_snprintfTo hplate.short info.plateNo).take hplate.short).overwrite _).textOf_eq hplate.noNul
  have hclor : textOf ((info.fetch g).station areas).plateClor =
      utf8 (getPlateColorByType info.plateColor) := textOf_putLabel (noNul_plateColor _) _
  constructor
  · intro h
    have hsame : plateNo = g.plateNo := utf8_injective (h.plateNo.symm.trans hstored)
    obtain ⟨r, hr, hrp, hcolor⟩ := h.plateClor
    exact ⟨hsame, r, hr, hrp.trans hsame, utf8_injective (hclor.symm.trans hcolor)⟩
  · rintro ⟨rfl, r, hr, hrp, hcolor⟩
    refine ⟨hstored, congrArg Nat.cast hg.stay, hg.vehicleStart, ?_, ?_, ?_⟩
    · obtain ⟨s, hs, hsp, hterr⟩ := hg.vehicleTerr
      refine ⟨s, hs, hsp, ?_⟩
      rw [hterr]
      exact (holds_cityName areas g.vehicleTerr (by decide)).textOf_eq (noNul_cityName _ _)
    · exact ⟨r, hr, hrp, hclor.trans (congrArg utf8 hcolor)⟩
    · obtain ⟨s, hs, hsp, htype⟩ := hg.vehicleType
      refine ⟨s, hs, hsp, ?_⟩
      rw [htype]
      exact textOf_putLabel (noNul_vehicles _) _

/-- The plate was seen in every colour that has a name, and in one that has none. -/
def EveryColor (rows : List DeviceEntrance) (plateNo : String) : Prop :=
  ∀ color ∈ [2, 3, 5, 0], ∃ r ∈ rows, r.plateNo = plateNo ∧
    getPlateColorByType color = getPlateColorByType r.plateColor

instance (rows : List DeviceEntrance) (plateNo : String) : Decidable (EveryColor rows plateNo) :=
  inferInstanceAs (Decidable (∀ color ∈ ([2, 3, 5, 0] : List ℤ), ∃ r ∈ rows, _))

theorem EveryColor.of_any {plateNo : String} (h : EveryColor rows plateNo) (color : ℤ) :
    ∃ r ∈ rows, r.plateNo = plateNo ∧ getPlateColorByType color = getPlateColorByType r.plateColor := by
  have hnamed : ∃ named ∈ ([2, 3, 5, 0] : List ℤ),
      getPlateColorByType color = getPlateColorByType named := by
    by_cases hcolor : color = 2 ∨ color = 3 ∨ color = 5
    · refine ⟨color, ?_, rfl⟩
      simp only [List.mem_cons, List.not_mem_nil, or_false]
      omega
    · refine ⟨0, by decide, ?_⟩
      rw [getPlateColorByType, if_neg (by omega), if_neg (by omega), if_neg (by omega)]
      rfl
  obtain ⟨named, hmem, hname⟩ := hnamed
  rw [hname]
  exact h named hmem

/-- The groups an answer of the station list is about. -/
def stationGroups [Server] (page num : ℤ) (stationAttr : StationVehicles) (t : EntranceTable)
    (groups : List EntranceGroup) : List EntranceGroup :=
  if num ≤ 0 ∨ mySqlCtrlGetEntranceListSumBySerchType2 t stationAttr.vehicleStart
      stationAttr.vehicleEnd stationAttr.serchInfo = 0 then []
  else mySqlCtrlGetEntranceListBySerchType2 page num groups

theorem vehiclesInfo_eq [Server] (mem : ℕ → EntranceMem) :
    (getEntranceVehiclesList areas mem page num stationAttr t groups).vehiclesInfo =
      (stationGroups page num stationAttr t groups).mapIdx fun i g =>
        ((mem i).fetch g).station areas := by
  rw [getEntranceVehiclesList, stationGroups]
  by_cases hnum : num ≤ 0
  · rw [if_pos hnum, if_pos (.inl hnum)]
    rfl
  · rw [if_neg hnum]
    dsimp only
    by_cases htotal : mySqlCtrlGetEntranceListSumBySerchType2 t stationAttr.vehicleStart
        stationAttr.vehicleEnd stationAttr.serchInfo = 0
    · rw [if_pos htotal, if_pos (.inr htotal)]
      rfl
    · rw [if_neg htotal, if_neg (not_or.2 ⟨hnum, htotal⟩)]

theorem mem_of_mem_limit {α : Type} {offset count : ℤ} {l : List α} {a : α}
    (h : a ∈ limit offset count l) : a ∈ l := by
  rw [limit] at h
  split at h
  · exact absurd h List.not_mem_nil
  · exact List.mem_of_mem_drop (List.mem_of_mem_take h)

theorem mem_of_mem_stationGroups [Server] {g : EntranceGroup}
    (h : g ∈ stationGroups page num stationAttr t groups) : g ∈ groups := by
  rw [stationGroups] at h
  split at h
  · exact absurd h List.not_mem_nil
  · exact mem_of_mem_limit h

/-- The rows the station list is about. -/
def stationRows [Server] (stationAttr : StationVehicles) (t : EntranceTable) : List DeviceEntrance :=
  rowsWhere (listBySerchType2Conds stationAttr.vehicleStart stationAttr.vehicleEnd stationAttr.serchInfo) t

theorem stationItems_iff [Server] (areas : PlatNoAreas) (page num : ℤ)
    (hplates : ∀ r ∈ t, Storable r.plateNo) (hgroups : Grouped (stationRows stationAttr t) groups) :
    (∀ mem, ∀ v ∈ (getEntranceVehiclesList areas mem page num stationAttr t groups).vehiclesInfo,
        ∃ plateNo, StationItem areas (stationRows stationAttr t) plateNo v) ↔
      ∀ g ∈ stationGroups page num stationAttr t groups,
        EveryColor (stationRows stationAttr t) g.plateNo := by
  have hgroup : ∀ g ∈ stationGroups page num stationAttr t groups,
      IsGroup (stationRows stationAttr t) g ∧ Storable g.plateNo := by
    intro g hg
    have hisGroup := hgroups.groups g (mem_of_mem_stationGroups hg)
    obtain ⟨r, hr, hplate, -⟩ := hisGroup.vehicleTerr
    exact ⟨hisGroup, hplate ▸ hplates r (mem_of_mem_rowsWhere hr)⟩
  simp only [vehiclesInfo_eq, List.mem_mapIdx]
  constructor
  · intro h g hg color hcolor
    obtain ⟨hisGroup, hplate⟩ := hgroup g hg
    obtain ⟨i, hi, rfl⟩ := List.getElem_of_mem hg
    -- the memory of the page may hold any colour
    let info : EntranceMem := ⟨[], [], [], color, 0, 0, 0, ⟨0, 0, 0, 0, 0, 0⟩, 0⟩
    obtain ⟨plateNo, hitem⟩ := h (fun _ => info) _ ⟨i, hi, rfl⟩
    exact ((stationItem_fetch_iff hisGroup hplate info).1 hitem).2
  · rintro h mem v ⟨i, hi, rfl⟩
    have hmem := List.getElem_mem hi
    obtain ⟨hisGroup, hplate⟩ := hgroup _ hmem
    exact ⟨_, (stationItem_fetch_iff hisGroup hplate (mem i)).2 ⟨rfl, (h _ hmem).of_any _⟩⟩

/-! ## The list of the long stays -/

/-- The entry shows what is stored for the visit. -/
structure AbnormalItem [Server] (areas : PlatNoAreas) (r : DeviceEntrance)
    (a : AbnormalVehicleInfo) : Prop where
  plateNo : textOf a.plateNo = utf8 r.plateNo
  staytime : a.staytime = r.staytime
  time : a.time = r.vehicleStart
  territory : textOf a.territory = cityName areas r.vehicleTerr
  carType : textOf a.carType = utf8 (getVehiclesByType r.vehicleType)

/-- A plate that ends within the bytes that are copied is complete. -/
theorem abnormalItem_fetch [Server] {r : DeviceEntrance} (hplate : Storable r.plateNo)
    (hshort : (utf8 r.plateNo).length < 24) (info : EntranceMysqlMem) (a : AbnormalVehicleInfo) :
    AbnormalItem areas r ((info.fetch r).abnormal areas a) where
  plateNo := (((holds_snprintfTo hplate.short info.plateNo).take hshort).overwrite _).textOf_eq hplate.noNul
  staytime := rfl
  time := rfl
  territory := (((holds_cityName areas r.vehicleTerr (by decide)).take
    (length_cityName _ _)).overwrite _).textOf_eq (noNul_cityName _ _)
  carType := textOf_putLabel (noNul_vehicles _) _

/-- Without an end, a plate goes on with what was there. -/
theorem textOf_plateNo_long [Server] (areas : PlatNoAreas) {r : DeviceEntrance}
    (hplate : Storable r.plateNo) (hlong : 24 ≤ (utf8 r.plateNo).length) (info : EntranceMysqlMem) {a : AbnormalVehicleInfo}
    (ha : a.plateNo = List.replicate 128 1) :
    (textOf ((info.fetch r).abnormal areas a).plateNo).length = 128 := by
  have htext : ((info.fetch r).abnormal areas a).plateNo =
      (utf8 r.plateNo).take 24 ++ List.replicate 104 1 := by
    have hall : (utf8 r.plateNo).take 127 = utf8 r.plateNo :=
      List.take_of_length_le (Nat.le_of_lt_succ hplate.short)
    have htake : (snprintfTo 128 (utf8 r.plateNo) info.plateNo).take 24 = (utf8 r.plateNo).take 24 := by
      rw [snprintfTo, hall, overwrite, List.append_assoc, List.take_append_of_le_length hlong]
    have hlength : ((utf8 r.plateNo).take 24).length = 24 := List.length_take_of_le hlong
    rw [EntranceMysqlMem.abnormal, EntranceMysqlMem.fetch]
    dsimp only
    rw [htake, overwrite, hlength, ha, List.drop_replicate]
  have hnoNul : (0 : UInt8) ∉ (utf8 r.plateNo).take 24 ++ List.replicate 104 1 := by
    rw [List.mem_append, not_or]
    refine ⟨fun h => hplate.noNul (List.mem_of_mem_take h), fun h => ?_⟩
    exact absurd (List.eq_of_mem_replicate h) (by decide)
  rw [htext, textOf, CString.bytes_ofBuffer hnoNul, List.length_append, List.length_take_of_le hlong,
    List.length_replicate]

theorem abnormalItems_iff [Server] (areas : PlatNoAreas) (hrows : ∀ r ∈ rows, r ∈ result)
    (hplates : ∀ r ∈ result, Storable r.plateNo) :
    (∀ mem abnormal, ∀ a ∈ abnormalVehicleInfos areas mem abnormal rows,
        ∃ r ∈ result, AbnormalItem areas r a) ↔
      ∀ r ∈ rows, (utf8 r.plateNo).length < 24 := by
  simp only [abnormalVehicleInfos, List.mem_mapIdx]
  constructor
  · intro h r hr
    obtain ⟨i, hi, rfl⟩ := List.getElem_of_mem hr
    by_contra hlong
    let info : EntranceMysqlMem := ⟨0, 0, 0, ⟨0, 0, 0, 0, 0, 0⟩, []⟩
    let before : AbnormalVehicleInfo := ⟨0, ⟨0, 0, 0, 0, 0, 0⟩, List.replicate 128 1, [], []⟩
    obtain ⟨s, hs, hitem⟩ := h (fun _ => info) (fun _ => before) _ ⟨i, hi, rfl⟩
    have hlength := textOf_plateNo_long areas (hplates _ (hrows _ hr)) (Nat.le_of_not_lt hlong)
      info (a := before) rfl
    have hshort := (hplates s hs).short
    rw [← hitem.plateNo, hlength] at hshort
    exact absurd hshort (Nat.lt_irrefl _)
  · rintro h mem abnormal a ⟨i, hi, rfl⟩
    have hmem := List.getElem_mem hi
    exact ⟨_, hrows _ hmem, abnormalItem_fetch (hplates _ (hrows _ hmem)) (h _ hmem) _ _⟩

/-! ## Both lists -/

/-- Whatever was in the memory of the pages, every entry of the station list shows what is stored for the
    visits of one plate, and every entry of the list of the long stays what is stored for one of them. -/
structure RowsReflected [Server] (areas : PlatNoAreas) (t : EntranceTable) (page num : ℤ)
    (stationAttr : StationVehicles) (groups : List EntranceGroup) (startTime endTime : TimeYMD)
    (result : List DeviceEntrance) : Prop where
  station : ∀ mem, ∀ v ∈ (getEntranceVehiclesList areas mem page num stationAttr t groups).vehiclesInfo,
    ∃ plateNo, StationItem areas (stationRows stationAttr t) plateNo v
  abnormal : ∀ total rows, getAbnormalVehicleList page num t startTime endTime result = some (total, rows) →
    ∀ mem abnormal, ∀ a ∈ abnormalVehicleInfos areas mem abnormal rows,
      ∃ r ∈ residenceRows t startTime endTime, AbnormalItem areas r a

/-- **When the rows show what is stored.** For every table of plates that a `char[128]` holds, every page and
    every order of the server: exactly if each plate on the page of the station list was seen in every
    colour, so that no colour is wrong, and each on the page of the long stays has less than 24 bytes. -/
theorem rowsReflected_iff [Server] (page num : ℤ) (hplates : ∀ r ∈ t, Storable r.plateNo)
    (hgroups : Grouped (stationRows stationAttr t) groups)
    (hresult : result.Perm (residenceRows t startTime endTime)) :
    RowsReflected areas t page num stationAttr groups startTime endTime result ↔
      (∀ g ∈ stationGroups page num stationAttr t groups,
        EveryColor (stationRows stationAttr t) g.plateNo) ∧
        (0 ≤ num → ∀ r ∈ mySqlCtrlGetEntranceResidenceListInfo page num result,
          (utf8 r.plateNo).length < 24) := by
  have hstays : ∀ r ∈ residenceRows t startTime endTime, Storable r.plateNo := fun r hr =>
    hplates r (List.mem_of_mem_filter hr)
  have hpage : ∀ r ∈ mySqlCtrlGetEntranceResidenceListInfo page num result,
      r ∈ residenceRows t startTime endTime := fun r hr => hresult.mem_iff.1 (mem_of_mem_limit hr)
  have hstation := stationItems_iff areas page num hplates hgroups
  have habnormal := abnormalItems_iff areas hpage hstays
  constructor
  · rintro ⟨h1, h2⟩
    exact ⟨hstation.1 h1, fun hnum => habnormal.1 (h2 _ _ (if_neg (Int.not_lt.2 hnum)))⟩
  · rintro ⟨h1, h2⟩
    refine ⟨hstation.2 h1, fun total rows hlist => ?_⟩
    rw [getAbnormalVehicleList] at hlist
    split at hlist
    · cases hlist
    · next hnum =>
      cases hlist
      exact habnormal.2 (h2 (Int.not_lt.1 hnum))

/-- The plates that are new in May 2024. -/
def newInMay : StationVehicles :=
  sampleStation .increment ⟨2024, 5, 1, 0, 0, 0⟩ ⟨2024, 5, 31, 0, 0, 0⟩

/-- Half an hour of a car with a plate of some colour. -/
def halfHour (plateNo : String) (plateColor : ℤ) (day : ℕ) : DeviceEntrance :=
  ⟨"1", plateNo, 0, plateColor, 0, 0, ⟨2024, 5, day, 10, 0, 0⟩, ⟨2024, 5, day, 10, 30, 0⟩, ""⟩

theorem grouped_fourColors :
    letI : Server := Server.textual
    Grouped (stationRows newInMay ([2, 3, 5, 0].map fun c => halfHour "A" c 2))
      [⟨4, "A", ⟨2024, 5, 2, 10, 0, 0⟩, 0, 2, 0, "", "1"⟩] := by
  let _ : Server := Server.textual
  refine ⟨?_, by decide, List.pairwise_singleton _ _⟩
  intro g hg
  obtain rfl := List.mem_singleton.1 hg
  constructor <;> decide

/-- A plate that was seen in four colours. -/
theorem rowsReflected_fourColors :
    letI : Server := Server.textual
    RowsReflected (fun _ => none) ([2, 3, 5, 0].map fun c => halfHour "A" c 2) 1 10 newInMay
      [⟨4, "A", ⟨2024, 5, 2, 10, 0, 0⟩, 0, 2, 0, "", "1"⟩] ⟨2024, 5, 1, 0, 0, 0⟩ ⟨2024, 6, 1, 0, 0, 0⟩
      ([2, 3, 5, 0].map fun c => halfHour "A" c 2) :=
  letI : Server := Server.textual
  (rowsReflected_iff 1 10 (by decide +kernel) grouped_fourColors (by decide +kernel)).2
    (by decide)

/-- Memory in which all is zero. -/
def clearedMem : EntranceMem := ⟨[], [], [], 0, 0, 0, 0, ⟨0, 0, 0, 0, 0, 0⟩, 0⟩

/-- A blue plate is shown in the colour that was in the memory before; and a plate of eight Chinese
    characters goes on with what was behind the 24 bytes that are copied. -/
theorem blue_plate_of_other_color :
    letI : Server := Server.textual
    ¬ RowsReflected (fun _ => none) [halfHour "A" 3 2] 1 10 newInMay
        [⟨1, "A", ⟨2024, 5, 2, 10, 0, 0⟩, 0, 3, 0, "", "1"⟩] ⟨2024, 5, 1, 0, 0, 0⟩
        ⟨2024, 6, 1, 0, 0, 0⟩ [halfHour "A" 3 2] ∧
      (∀ a ∈ abnormalVehicleInfos (fun _ => none) (fun _ => ⟨0, 0, 0, ⟨0, 0, 0, 0, 0, 0⟩, []⟩)
          (fun _ => ⟨0, ⟨0, 0, 0, 0, 0, 0⟩, List.replicate 127 65 ++ [0], [], []⟩)
          [halfHour "川川川川川川川川" 3 2],
        textOf a.plateNo = utf8 "川川川川川川川川" ++ List.replicate 103 65) := by
  let _ : Server := Server.textual
  refine ⟨fun h => ?_, by decide⟩
  have hshown : (getEntranceVehiclesList (fun _ => none) (fun _ => clearedMem) 1 10 newInMay
      [halfHour "A" 3 2] [⟨1, "A", ⟨2024, 5, 2, 10, 0, 0⟩, 0, 3, 0, "", "1"⟩]).vehiclesInfo.map
        (fun v => textOf v.plateClor) = [utf8 "其他"] := by decide
  have hstored : ∀ r ∈ stationRows newInMay [halfHour "A" 3 2],
      utf8 (getPlateColorByType r.plateColor) ≠ utf8 "其他" := by decide
  obtain ⟨v, hv, hcolor⟩ := List.mem_map.1 (hshown ▸ List.mem_singleton_self (utf8 "其他"))
  obtain ⟨p, hitem⟩ := h.station (fun _ => clearedMem) v hv
  obtain ⟨r, hr, -, hclor⟩ := hitem.plateClor
  exact hstored r hr (hclor.symm.trans hcolor)

end SmartPlat.VehicleDataAnalysis
