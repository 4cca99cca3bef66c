import SmartPlat.VehicleDataAnalysis.Alarms
import SmartPlat.VehicleDataAnalysis.Proofs.Pages
import Mathlib.Data.List.Sort

set_option autoImplicit false

/-! # Alarms by level

A search is answered from the levels that the configuration has, and what is asked for is about the levels
that were set last. A setting before the first reading is lost: there is no item in which it could replace
anything. And a type whose level is 0 cannot be told apart from a request for all of them. -/

namespace SmartPlat.VehicleDataAnalysis

open SmartPlat.Lib SmartPlat.HkSdkManage SmartPlat.MySql

variable {server : DateOrder} {conf : Option CJson} {levels info : DeviceAlarmParam} {q : AlarmSearch}
  {h : List AlarmCall} {c : AlarmCall} {start endTime : TimeYMD} {type : ℤ} {r : AlarmRow}

/-! ## The levels in force -/

/-- The levels that a call sets. -/
def AlarmCall.setting : AlarmCall → Option DeviceAlarmParam
  | .set info => some info
  | .get => none
  | .search _ => none

/-- The last setting, and the calls before it. -/
def lastSet : List AlarmCall → Option (List AlarmCall × DeviceAlarmParam)
  | [] => none
  | c :: h =>
      match lastSet h with
      | some (before, info) => some (c :: before, info)
      | none => c.setting.map ([], ·)

/-- The levels that were set last; those that the configuration had, if there was no setting. -/
def setLevels (conf : Option CJson) (h : List AlarmCall) : DeviceAlarmParam :=
  match lastSet h with
  | some (_, info) => info
  | none => readLevels conf

/-- The last setting found what it was to replace. -/
def LastSetKept [Server] (server : DateOrder) (conf : Option CJson) (h : List AlarmCall) : Prop :=
  ∀ before info, lastSet h = some (before, info) → Settable (confAfter server conf before) info

theorem eq_set_of_setting (hc : c.setting = some info) : c = .set info := by
  cases c with
  | set info => cases hc; rfl
  | get => cases hc
  | search q => cases hc

theorem readLevels_search [Server] : readLevels (confStep server conf (.search q)) = readLevels conf := by
  show readLevels (getIntelligentAlarm server q 0 conf).2 = readLevels conf
  rw [getIntelligentAlarm]
  split
  · rfl
  · exact readLevels_get

/-- Only a setting changes what is read. -/
theorem readLevels_confStep [Server] (hc : c.setting = none) :
    readLevels (confStep server conf c) = readLevels conf := by
  cases c with
  | set info => cases hc
  | get => exact readLevels_get
  | search q => exact readLevels_search

theorem lastSet_cons_of_some {before : List AlarmCall} (hh : lastSet h = some (before, info)) :
    lastSet (c :: h) = some (c :: before, info) := by
  rw [lastSet, hh]

theorem lastSet_cons_of_none (hh : lastSet h = none) : lastSet (c :: h) = c.setting.map ([], ·) := by
  rw [lastSet, hh]

/-- Without a setting the levels stay. -/
theorem readLevels_confAfter_of_none [Server] (hh : lastSet h = none) :
    readLevels (confAfter server conf h) = readLevels conf := by
  induction h generalizing conf with
  | nil => rfl
  | cons c h ih =>
      cases hrest : lastSet h with
      | some last => rw [lastSet_cons_of_some hrest] at hh; cases hh
      | none =>
          rw [lastSet_cons_of_none hrest, Option.map_eq_none_iff] at hh
          exact (ih hrest).trans (readLevels_confStep hh)

theorem setLevels_of_some {before : List AlarmCall} (hh : lastSet h = some (before, info)) :
    setLevels conf h = info := by
  rw [setLevels, hh]

theorem setLevels_of_none (hh : lastSet h = none) : setLevels conf h = readLevels conf := by
  rw [setLevels, hh]

theorem lastSetKept_of_some [Server] {before : List AlarmCall} (hh : lastSet h = some (before, info)) :
    LastSetKept server conf h ↔ Settable (confAfter server conf before) info := by
  simp only [LastSetKept, hh, Option.some.injEq, Prod.mk.injEq]
  exact ⟨fun hkept => hkept before info ⟨rfl, rfl⟩, by rintro hset _ _ ⟨rfl, rfl⟩; exact hset⟩

theorem lastSetKept_of_none [Server] (hh : lastSet h = none) : LastSetKept server conf h := by
  intro before info hlast
  rw [hh] at hlast
  cases hlast

/-- **When a setting is in force.** For every history on any configuration: exactly if the last setting found
    what it was to replace. -/
theorem readLevels_confAfter_iff [Server] :
    readLevels (confAfter server conf h) = setLevels conf h ↔ LastSetKept server conf h := by
  induction h generalizing conf with
  | nil => exact iff_of_true rfl (lastSetKept_of_none rfl)
  | cons c h ih =>
      cases hrest : lastSet h with
      | some last =>
          -- the call is before the last setting
          obtain ⟨before, info⟩ := last
          have hlast := lastSet_cons_of_some (c := c) hrest
          rw [lastSetKept_of_some hlast, setLevels_of_some hlast]
          have hih : readLevels (confAfter server (confStep server conf c) h) =
              setLevels (confStep server conf c) h ↔ LastSetKept server (confStep server conf c) h := ih
          rw [lastSetKept_of_some hrest, setLevels_of_some hrest] at hih
          exact hih
      | none =>
          have hlater : readLevels (confAfter server conf (c :: h)) = readLevels (confStep server conf c) :=
            readLevels_confAfter_of_none hrest
          rw [hlater]
          cases hc : c.setting with
          | none =>
              have hnone : lastSet (c :: h) = none := by rw [lastSet_cons_of_none hrest, hc]; rfl
              exact iff_of_true (by rw [setLevels_of_none hnone, readLevels_confStep hc])
                (lastSetKept_of_none hnone)
          | some info =>
              have hlast : lastSet (c :: h) = some ([], info) := by
                rw [lastSet_cons_of_none hrest, hc]; rfl
              obtain rfl := eq_set_of_setting hc
              rw [lastSetKept_of_some hlast, setLevels_of_some hlast]
              exact readLevels_set_iff

/-! ## What a search is to answer -/

/-- The level of an alarm of this type. -/
def levelOf (levels : DeviceAlarmParam) (alarmtype : ℤ) : Option ℤ :=
  if alarmtype = alarmSmoke then some levels.smokeLev
  else if alarmtype = alarmHighTem then some levels.hightempLev
  else none

/-- The alarm is in the window, and its type has the level; level 0 is that of all of them. -/
def wanted [Server] (levels : DeviceAlarmParam) (type : ℤ) (start endTime : TimeYMD)
    (r : AlarmRow) : Bool :=
  inWindow start endTime r.alarmdate && (levelOf levels r.alarmtype).any fun lev => type = 0 ∨ lev = type

/-- The entry of an alarm. -/
def labelled (levels : DeviceAlarmParam) (r : AlarmRow) : DeviceAlarmInfo :=
  alarmEntry ((levelOf levels r.alarmtype).getD 0) r

/-- The answer for page `p` of `num` entries. -/
def wantedAnswer [Server] (server : DateOrder) (levels : DeviceAlarmParam) (alarms : List AlarmRow)
    (start endTime : TimeYMD) (p num : ℕ) (type : ℤ) : AlarmAnswer :=
  let rows := alarms.filter (wanted levels type start endTime)
  let shown := page num p ((server.order rows).map (labelled levels))
  ⟨shown.length, rows.length, shown⟩

/-- Every search is answered by these levels: for every table, window, page and level. The number of the first
    row of the page is an `int`. -/
def AlarmsAnswered [Server] (server : DateOrder) (conf : Option CJson) (levels : DeviceAlarmParam) : Prop :=
  ∀ (alarms : List AlarmRow) (start endTime : TimeYMD) (p num : ℕ) (type : ℤ), 1 ≤ p →
    (p - 1) * num < 2 ^ 31 →
    (getIntelligentAlarm server ⟨alarms, start, endTime, p, num, type⟩ 0 conf).1 =
      wantedAnswer server levels alarms start endTime p num type

/-! ## What it answers -/

/-- The level of the type is asked for. -/
def AskedFor (levels : DeviceAlarmParam) (type alarmtype : ℤ) : Prop :=
  ∃ lev, levelOf levels alarmtype = some lev ∧ (type = 0 ∨ lev = type)

theorem askedFor_iff {alarmtype : ℤ} : AskedFor levels type alarmtype ↔
    alarmtype = alarmSmoke ∧ (type = 0 ∨ levels.smokeLev = type) ∨
      alarmtype = alarmHighTem ∧ (type = 0 ∨ levels.hightempLev = type) := by
  have hne : alarmSmoke ≠ alarmHighTem := by decide
  unfold AskedFor levelOf
  split
  · next hsmoke => subst hsmoke; simp [hne]
  · next hsmoke =>
      split
      · next hhigh => subst hhigh; simp [hne.symm]
      · next hhigh => simp [hsmoke, hhigh]

theorem alarmtypes_highTemp : alarmtypes AlarmLevelSearchType.highTemp.value = [alarmHighTem] := rfl

theorem alarmtypes_smoking : alarmtypes AlarmLevelSearchType.smoking.value = [alarmSmoke] := rfl

theorem alarmtypes_bothTypes : alarmtypes bothTypes = [alarmSmoke, alarmHighTem] := rfl

/-- The types of the mask are those whose level is asked for, unless exactly one of them has level 0. -/
theorem mem_alarmtypes_iff {mask : ℕ} (hzero : levels.smokeLev = 0 ↔ levels.hightempLev = 0)
    (hmask : leveltype levels type = some mask) {alarmtype : ℤ} :
    alarmtype ∈ alarmtypes mask ↔ AskedFor levels type alarmtype := by
  rw [askedFor_iff]
  unfold leveltype at hmask
  split at hmask
  · next hboth =>
      obtain rfl := Option.some.inj hmask
      rw [alarmtypes_bothTypes]
      simp [hboth.1.symm, hboth.2.symm]
  · split at hmask
    · next hhigh =>
        obtain rfl := Option.some.inj hmask
        rw [alarmtypes_highTemp]
        simp only [List.mem_singleton]
        grind
    · split at hmask
      · next hsmoke =>
          obtain rfl := Option.some.inj hmask
          rw [alarmtypes_smoking]
          simp only [List.mem_singleton]
          grind
      · split at hmask
        · next hall =>
            obtain rfl := Option.some.inj hmask
            rw [alarmtypes_bothTypes]
            simp [hall]
        · cases hmask

theorem not_askedFor (hnone : leveltype levels type = none) {alarmtype : ℤ} :
    ¬ AskedFor levels type alarmtype := by
  rw [askedFor_iff]
  unfold leveltype at hnone
  grind

theorem wanted_iff [Server] : wanted levels type start endTime r = true ↔
    inWindow start endTime r.alarmdate = true ∧ AskedFor levels type r.alarmtype := by
  rw [wanted, Bool.and_eq_true, Option.any_eq_true, AskedFor]
  simp only [decide_eq_true_iff]

/-- Who asks for a level gets alarms of that level only. -/
theorem alarmlev_of_mem_wantedAnswer [Server] {alarms : List AlarmRow} {p num : ℕ} {e : DeviceAlarmInfo}
    (he : e ∈ (wantedAnswer server levels alarms start endTime p num type).alarmList) (htype : type ≠ 0) :
    e.alarmlev = type := by
  obtain ⟨r, hr, rfl⟩ := List.mem_map.1 (mem_of_mem_page he)
  have hmem := (server.perm _).mem_iff.1 hr
  obtain ⟨-, lev, hlev, hasked⟩ := wanted_iff.1 (List.mem_filter.1 hmem).2
  show (levelOf levels r.alarmtype).getD 0 = type
  rw [hlev, Option.getD_some]
  exact hasked.resolve_left htype

theorem alarmSelected_iff [Server] {mask : ℕ} : alarmSelected mask start endTime r = true ↔
    inWindow start endTime r.alarmdate = true ∧ r.alarmtype ∈ alarmtypes mask := by
  rw [alarmSelected, Bool.and_eq_true, decide_eq_true_iff]

/-- The function and the answer give an alarm the same level. -/
theorem alarmEntry_eq_labelled [Server] (hr : wanted levels type start endTime r = true) :
    alarmEntry (if r.alarmtype = alarmSmoke then levels.smokeLev else levels.hightempLev) r =
      labelled levels r := by
  obtain ⟨-, lev, hlev, -⟩ := wanted_iff.1 hr
  rw [labelled, hlev, Option.getD_some]
  rw [levelOf] at hlev
  split at hlev
  · next hsmoke => rw [if_pos hsmoke, Option.some.inj hlev]
  · next hsmoke =>
      split at hlev
      · rw [if_neg hsmoke, Option.some.inj hlev]
      · cases hlev

theorem limit_eq_page_of_fits {α : Type} {l : List α} {p num : ℕ} (hp : 1 ≤ p)
    (hfits : (p - 1) * num < 2 ^ 31) :
    limit (Int.bmod (((p : ℤ) - 1) * num) (2 ^ 32)) num l = page num p l := by
  have hint : Int.bmod (((p : ℤ) - 1) * num) (2 ^ 32) = ((p : ℤ) - 1) * num := by
    rw [offset_eq hp]
    refine Int.bmod_eq_of_le ?_ ?_ <;> omega
  rw [hint, limit_eq_page hp]

/-- The rows that the two statements select are those that are wanted. -/
theorem filter_alarmSelected [Server] {mask : ℕ} (hzero : levels.smokeLev = 0 ↔ levels.hightempLev = 0)
    (hmask : leveltype levels type = some mask) (alarms : List AlarmRow) :
    alarms.filter (alarmSelected mask start endTime) = alarms.filter (wanted levels type start endTime) := by
  refine List.filter_congr fun r _ => Bool.eq_iff_iff.2 ?_
  rw [alarmSelected_iff, wanted_iff, mem_alarmtypes_iff hzero hmask]

section

variable {total : ℕ} (hcheck : 0 ≤ q.num ∧ 0 ≤ q.page)

include hcheck

theorem getIntelligentAlarm_of_none [Server] (hnone : leveltype (readLevels conf) q.type = none) :
    (getIntelligentAlarm server q total conf).1 = ⟨keyTrue, total, []⟩ := by
  rw [readLevels] at hnone
  rw [getIntelligentAlarm, if_neg (by omega)]
  simp only [hnone]

theorem getIntelligentAlarm_of_some [Server] {mask : ℕ}
    (hmask : leveltype (readLevels conf) q.type = some mask) :
    (getIntelligentAlarm server q total conf).1 =
      let info := ByMask.mySqlCtrlGetAlarmListBySearchType server q.alarms q.page q.num q.start q.endTime
        mask
      ⟨info.length, ByMask.mySqlCtrlGetAlarmListSumBySearchType q.alarms q.start q.endTime mask,
        info.map fun r => alarmEntry (if r.alarmtype = alarmSmoke then (readLevels conf).smokeLev
          else (readLevels conf).hightempLev) r⟩ := by
  rw [readLevels] at hmask
  rw [getIntelligentAlarm, if_neg (by omega)]
  simp only [hmask]
  rfl

theorem total_of_some [Server] {mask : ℕ} (hmask : leveltype (readLevels conf) q.type = some mask) :
    (getIntelligentAlarm server q total conf).1.total =
      q.alarms.countP (alarmSelected mask q.start q.endTime) := by
  rw [getIntelligentAlarm_of_some hcheck hmask]
  rfl

end

/-- The levels that are in force answer every search, unless exactly one of them is 0. -/
theorem alarmsAnswered_readLevels [Server]
    (hzero : (readLevels conf).smokeLev = 0 ↔ (readLevels conf).hightempLev = 0) :
    AlarmsAnswered server conf (readLevels conf) := by
  intro alarms start endTime p num type hp hfits
  have hcheck : 0 ≤ (num : ℤ) ∧ 0 ≤ (p : ℤ) := by omega
  rw [wantedAnswer]
  cases hmask : leveltype (readLevels conf) type with
  | none =>
      have hrows : alarms.filter (wanted (readLevels conf) type start endTime) = [] :=
        List.filter_eq_nil_iff.2 fun r _ hr => not_askedFor hmask (wanted_iff.1 hr).2
      have horder : server.order [] = [] := (server.perm []).eq_nil
      rw [getIntelligentAlarm_of_none hcheck hmask, hrows, horder]
      simp [page, keyTrue]
  | some mask =>
      have hinfo : ByMask.mySqlCtrlGetAlarmListBySearchType server alarms p num start endTime mask =
          page num p (server.order (alarms.filter (wanted (readLevels conf) type start endTime))) := by
        rw [ByMask.mySqlCtrlGetAlarmListBySearchType, filter_alarmSelected hzero hmask,
          limit_eq_page_of_fits hp hfits]
      have hsum : ByMask.mySqlCtrlGetAlarmListSumBySearchType alarms start endTime mask =
          (alarms.filter (wanted (readLevels conf) type start endTime)).length := by
        rw [ByMask.mySqlCtrlGetAlarmListSumBySearchType, List.countP_eq_length_filter,
          filter_alarmSelected hzero hmask]
      rw [getIntelligentAlarm_of_some hcheck hmask]
      simp only [hinfo, hsum, ← map_page, List.length_map]
      refine congrArg _ (List.map_congr_left fun r hr => ?_)
      have hmem := (server.perm _).mem_iff.1 (mem_of_mem_page hr)
      exact alarmEntry_eq_labelled (List.mem_filter.1 hmem).2

/-! ## What a wrong level shows -/

/-- An alarm of the type in the middle of a window. -/
def alarmAtNoon (alarmtype : ℤ) : AlarmRow := ⟨"a", alarmtype, ⟨2024, 5, 31, 12, 0, 0⟩, ""⟩

theorem order_singleton : server.order [r] = [r] := List.perm_singleton.1 (server.perm [r])

theorem inWindow_atNoon [Server] :
    inWindow ⟨2024, 5, 31, 0, 0, 0⟩ ⟨2024, 6, 1, 0, 0, 0⟩ ⟨2024, 5, 31, 12, 0, 0⟩ = true :=
  (inWindow_of_valid (by decide) (by decide)).2 (by decide)

/-- An alarm whose level is asked for is shown with it. -/
theorem wantedAnswer_atNoon [Server] {alarmtype lev : ℤ} (hlev : levelOf levels alarmtype = some lev)
    (htype : type = 0 ∨ lev = type) :
    wantedAnswer server levels [alarmAtNoon alarmtype] ⟨2024, 5, 31, 0, 0, 0⟩ ⟨2024, 6, 1, 0, 0, 0⟩ 1 1
      type = ⟨1, 1, [alarmEntry lev (alarmAtNoon alarmtype)]⟩ := by
  have hwanted : wanted levels type ⟨2024, 5, 31, 0, 0, 0⟩ ⟨2024, 6, 1, 0, 0, 0⟩ (alarmAtNoon alarmtype) =
      true := wanted_iff.2 ⟨inWindow_atNoon, lev, hlev, htype⟩
  have hrows := List.filter_cons_of_pos (l := []) hwanted
  rw [wantedAnswer, hrows, List.filter_nil, order_singleton, List.map_singleton, labelled]
  rw [show (alarmAtNoon alarmtype).alarmtype = alarmtype from rfl, hlev]
  rfl

/-- Every entry has the level that is in force for its type. -/
theorem alarmlev_of_mem [Server] {total : ℕ} {e : DeviceAlarmInfo}
    (he : e ∈ (getIntelligentAlarm server q total conf).1.alarmList) :
    e.alarmlev = if e.alrmtype = alarmSmoke then (readLevels conf).smokeLev
      else (readLevels conf).hightempLev := by
  by_cases hcheck : 0 ≤ q.num ∧ 0 ≤ q.page
  · cases hmask : leveltype (readLevels conf) q.type with
    | none =>
        rw [getIntelligentAlarm_of_none hcheck hmask] at he
        cases he
    | some mask =>
        rw [getIntelligentAlarm_of_some hcheck hmask] at he
        obtain ⟨r, -, rfl⟩ := List.mem_map.1 he
        rfl
  · rw [getIntelligentAlarm, if_pos (by omega)] at he
    cases he

theorem AlarmsAnswered.level_eq [Server] (hall : AlarmsAnswered server conf levels)
    (alarmtype : ℤ) {lev : ℤ} (hlev : levelOf levels alarmtype = some lev) :
    lev = if alarmtype = alarmSmoke then (readLevels conf).smokeLev else (readLevels conf).hightempLev := by
  have hanswer := hall [alarmAtNoon alarmtype] ⟨2024, 5, 31, 0, 0, 0⟩ ⟨2024, 6, 1, 0, 0, 0⟩ 1 1 lev le_rfl
    (by decide)
  rw [wantedAnswer_atNoon hlev (.inr rfl)] at hanswer
  have hmem : alarmEntry lev (alarmAtNoon alarmtype) ∈
      (AlarmAnswer.mk 1 1 [alarmEntry lev (alarmAtNoon alarmtype)]).alarmList := List.mem_singleton_self _
  rw [← hanswer] at hmem
  exact alarmlev_of_mem hmem

/-- If the searches are answered by some levels, those are in force. -/
theorem AlarmsAnswered.readLevels_eq [Server] (hall : AlarmsAnswered server conf levels) :
    readLevels conf = levels := by
  have hsmoke : levels.smokeLev = (readLevels conf).smokeLev := hall.level_eq alarmSmoke rfl
  have hhigh : levels.hightempLev = (readLevels conf).hightempLev := hall.level_eq alarmHighTem rfl
  cases levels
  exact congrArg₂ DeviceAlarmParam.mk hsmoke.symm hhigh.symm

/-- The mask for level 0 has every type. -/
theorem AlarmsAnswered.mem_alarmtypes [Server]
    (hall : AlarmsAnswered server conf (readLevels conf)) {mask : ℕ} (hmask : leveltype (readLevels conf) 0 = some mask) (alarmtype : ℤ) {lev : ℤ}
    (hlev : levelOf (readLevels conf) alarmtype = some lev) : alarmtype ∈ alarmtypes mask := by
  have hanswer := hall [alarmAtNoon alarmtype] ⟨2024, 5, 31, 0, 0, 0⟩ ⟨2024, 6, 1, 0, 0, 0⟩ 1 1 0 le_rfl
    (by decide)
  have htotal := congrArg AlarmAnswer.total hanswer
  rw [wantedAnswer_atNoon hlev (.inl rfl), total_of_some ⟨Int.one_nonneg, Int.one_nonneg⟩ hmask,
    List.countP_singleton] at htotal
  split at htotal
  · next hsel => exact (alarmSelected_iff.1 hsel).2
  · cases htotal

theorem AlarmsAnswered.zero_iff [Server] (hall : AlarmsAnswered server conf (readLevels conf)) :
    (readLevels conf).smokeLev = 0 ↔ (readLevels conf).hightempLev = 0 := by
  constructor
  · intro hsmoke
    by_contra hhigh
    have hmask : leveltype (readLevels conf) 0 = some AlarmLevelSearchType.smoking.value := by
      simp [leveltype, hsmoke, Ne.symm hhigh]
    exact absurd (hall.mem_alarmtypes hmask alarmHighTem rfl) (by decide)
  · intro hhigh
    by_contra hsmoke
    have hmask : leveltype (readLevels conf) 0 = some AlarmLevelSearchType.highTemp.value := by
      simp [leveltype, hhigh, Ne.symm hsmoke]
    exact absurd (hall.mem_alarmtypes hmask alarmSmoke rfl) (by decide)

/-! ## Histories -/

/-- **When the alarms are filtered by their levels.** For every history of settings, readings and searches, on
    any stored item or none: every search is answered by the levels set last exactly if the last setting found
    what it was to replace, and both levels are 0 or none is. -/
theorem alarmsAnswered_iff [Server] (server : DateOrder) (conf : Option CJson) (h : List AlarmCall) :
    AlarmsAnswered server (confAfter server conf h) (setLevels conf h) ↔
      LastSetKept server conf h ∧
        ((setLevels conf h).smokeLev = 0 ↔ (setLevels conf h).hightempLev = 0) := by
  rw [← readLevels_confAfter_iff]
  constructor
  · intro hall
    have hread := hall.readLevels_eq
    rw [← hread] at hall
    exact ⟨hread, hread ▸ hall.zero_iff⟩
  · rintro ⟨hread, hzero⟩
    rw [← hread] at hzero ⊢
    exact alarmsAnswered_readLevels hzero

instance : DecidableRel Later := fun r s =>
  inferInstanceAs (Decidable (s.alarmdate.datetime ≤ r.alarmdate.datetime))

instance : Std.Total Later := ⟨fun _ _ => Nat.le_total _ _⟩

instance : IsTrans AlarmRow Later := ⟨fun _ _ _ hrs hst => Nat.le_trans hst hrs⟩

/-- Rows of one date stay as they are in the table. -/
def tableOrder : DateOrder where
  order rows := rows.insertionSort Later
  perm rows := List.perm_insertionSort Later rows
  sorted rows := List.pairwise_insertionSort Later rows

/-- The first setting of a new installation is lost: smoke is to have level 2, and the search for that level
    finds nothing. -/
theorem first_setting_lost :
    letI : Server := Server.textual
    ¬ AlarmsAnswered tableOrder (confAfter tableOrder none [.set ⟨2, 1⟩])
        (setLevels none [.set ⟨2, 1⟩]) ∧
      (getIntelligentAlarm tableOrder ⟨[alarmAtNoon alarmSmoke], ⟨2024, 5, 31, 0, 0, 0⟩, ⟨2024, 6, 1, 0, 0, 0⟩,
        1, 1, 2⟩ 0 (confAfter tableOrder none [.set ⟨2, 1⟩])).1 = ⟨0, 0, []⟩ := by
  let _ : Server := Server.textual
  refine ⟨fun hall => ?_, ?_⟩
  · have hread := hall.readLevels_eq
    rw [show confAfter tableOrder none [.set ⟨2, 1⟩] = none from rfl, readLevels_none] at hread
    exact absurd hread (by decide)
  · have hnone : leveltype (readLevels none) 2 = none := by
      rw [readLevels_none]
      rfl
    exact getIntelligentAlarm_of_none ⟨Int.one_nonneg, Int.one_nonneg⟩ hnone

end SmartPlat.VehicleDataAnalysis
