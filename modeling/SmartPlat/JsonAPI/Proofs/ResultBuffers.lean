import SmartPlat.JsonAPI.Reports
import SmartPlat.MySql.Proofs.Agreement

set_option autoImplicit false

/-! # Arrays that hold the result

Of the four arrays none is as long as its result has to be: the hours of a day are times, the days of a
window need not be as many as the request says, a gun can be new since the guns were counted, and the
list of NVRs has no end at `NET_NVR_MAX_NUM`. The written elements are all allocated in every state of a
run exactly where each filling meets a table that is small enough. -/

namespace SmartPlat.JsonAPI

open SmartPlat.Lib SmartPlat.MySql SmartPlat.FuelQuantityAnalysis SmartPlat.HkSdkManage

/-! ## The rows of the results -/

/-- The times with rows on a day. -/
def timesOn (t : PassengerFlowTable) (day : RequestTime) : Finset TimeYMD :=
  ((rowsOn t day).map fun r => r.time).toFinset

/-- The dates with rows in a window. -/
def datesIn [Server] (t : PassengerFlowTable) (startTime endTime : RequestTime) : Finset Date :=
  ((rowsIn t startTime endTime).map fun r => r.time.date).toFinset

variable {F : Type} {order : RowOrder} {sumLPM : List F → ℤ} {s s' : ReportState F}
  {a : ReportAction F}

/-- The guns with rows in a month. -/
def gunsOf (t : FuelTable F) (date : RequestTime) : Finset ℤ :=
  ((monthRows t date).map fun r => r.number).toFinset

/-- How many elements a series takes. -/
def lineSize [Server] (t : PassengerFlowTable) (req : LineRequest) : ℕ :=
  if req.num = 1 then (timesOn t req.starttime).card else (datesIn t req.starttime req.endtime).card

theorem length_lineRows [Server] (order : RowOrder) (t : PassengerFlowTable) (req : LineRequest) :
    (lineRows order t req).length = lineSize t req := by
  unfold lineRows lineSize
  split
  · exact length_seriesRows
  · exact length_seriesRows

/-- The rows that are stored are the elements that come back, if every sum is an `int`. -/
theorem length_info [Server] {t : PassengerFlowTable} {req : LineRequest}
    {r : ℤ × ℤ × List LeaveAndEnterNum} (h : getVolumeOfCommutersOfLine order t req.starttime req.endtime req.num = .ok r) :
    r.2.2.length = (lineRows order t req).length := by
  rw [length_lineRows, lineSize]
  split
  · next hnum =>
      rw [hnum] at h
      have hend := ends_line_hour.1 ⟨r, h, rfl⟩
      obtain ⟨-, rfl⟩ := ends_series.1 hend
      exact length_seriesOf
  · next hnum =>
      have hend := (ends_line_day (P := fun info => r.2.2 = info) hnum).1 ⟨r, h, rfl⟩
      rw [hend.2]
      exact length_seriesOf

theorem length_gunRows (order : RowOrder) (t : FuelTable F) (date : RequestTime) :
    (order.arrange (selectOliGunFrequency t date)).length = (gunsOf t date).card := by
  rw [(order.perm _).length_eq, selectOliGunFrequency, List.length_map, length_groupBy, gunsOf]

theorem oliGunSum_eq {t : FuelTable F} {date : RequestTime} {n : ℤ}
    (h : mysqlGetOliGunSum t date = .ok n) : n = (gunsOf t date).card := by
  obtain ⟨-, rfl⟩ := columnInt_some_eq_ok.1 h
  rw [gunsOf, List.card_toFinset]

/-! ## Steps -/

/-- What the table before a step has to be like. -/
def Fits [Server] (s : ReportState F) (a : ReportAction F) : Prop :=
  match a, s.request with
  | .next, .line req => lineSize s.passengerflowdata req ≤ lineElements req.num
  | .next, .oil tYmd counted [] => (gunsOf s.fuelquantity tYmd).card ≤ (gunsOf counted tYmd).card
  | .next, .deviceList cur => cur < s.deviceListHead.length → cur < netNvrMaxNum
  | _, _ => True

instance [Server] : (s : ReportState F) → (a : ReportAction F) → Decidable (Fits s a)
  | ⟨_, _, _, .line _, _, _⟩, .next => inferInstanceAs (Decidable (_ ≤ _))
  | ⟨_, _, _, .oil _ _ [], _, _⟩, .next => inferInstanceAs (Decidable (_ ≤ _))
  | ⟨_, _, _, .deviceList _, _, _⟩, .next => inferInstanceAs (Decidable (_ < _ → _ < _))
  | ⟨_, _, _, .idle, _, _⟩, .next | ⟨_, _, _, .crashed, _, _⟩, .next
  | ⟨_, _, _, .oil _ _ (_ :: _), _, _⟩, .next | _, .addPassengerFlowInfo _ | _, .addStuckPipeData _
  | _, .delStuckPipeDataByDate _ _ | _, .deviceAdd _ | _, .getVolumeOfCommutersOfLine _ _ _ _
  | _, .getOilStationData _ _ | _, .sdkDeviceListGet => isTrue trivial

/-- What the elements are, as long as the written ones are allocated. -/
structure ArrayHolds (s : ReportState F) : Prop where
  written_le : s.written ≤ s.allocated
  line : ∀ req, s.request = .line req → s.allocated = lineElements req.num
  oil : ∀ tYmd counted left, s.request = .oil tYmd counted left →
    s.allocated = (gunsOf counted tYmd).card
  deviceList : ∀ cur, s.request = .deviceList cur → s.allocated = netNvrMaxNum ∧ s.written = cur

/-- What a step can be: others change the tables, the request goes on, or one arrives. -/
theorem act_cases [Server] (h : s.act order sumLPM a = some s') :
    (a ≠ .next ∧ s'.request = s.request ∧ s'.allocated = s.allocated ∧ s'.written = s.written) ∨
      (a = .next ∧ s.next order sumLPM = some s') ∨
      (a ≠ .next ∧ s.request = .idle ∧ s.start a = some s') := by
  unfold ReportState.act at h
  split at h
  · exact nomatch h
  · cases h
    exact .inl ⟨fun ha => (nomatch ha), rfl, rfl, rfl⟩
  · cases h
    exact .inl ⟨fun ha => (nomatch ha), rfl, rfl, rfl⟩
  · cases h
    exact .inl ⟨fun ha => (nomatch ha), rfl, rfl, rfl⟩
  · cases h
    exact .inl ⟨fun ha => (nomatch ha), rfl, rfl, rfl⟩
  · exact .inr (.inl ⟨rfl, h⟩)
  · next hreq _ _ _ _ hnext => exact .inr (.inr ⟨hnext, hreq, h⟩)
  · exact nomatch h

theorem fits_of_ne [Server] (h : a ≠ .next) : Fits s a := by
  unfold Fits
  split
  · exact absurd rfl h
  · exact absurd rfl h
  · exact absurd rfl h
  · trivial

/-- Without a request under way there is nothing to hold. -/
theorem ArrayHolds.of_idle (hle : s.written ≤ s.allocated)
    (h : s.request = .idle ∨ s.request = .crashed) : ArrayHolds s := by
  refine ⟨hle, fun req heq => ?_, fun tYmd counted left heq => ?_, fun cur heq => ?_⟩ <;>
    rw [heq] at h <;> rcases h with h | h <;> exact nomatch h

theorem ArrayHolds.congr (h : ArrayHolds s) (hreq : s'.request = s.request)
    (hallocated : s'.allocated = s.allocated) (hwritten : s'.written = s.written) :
    ArrayHolds s' := by
  obtain ⟨hle, hline, hoil, hlist⟩ := h
  refine ⟨?_, ?_, ?_, ?_⟩
  · rw [hallocated, hwritten]
    exact hle
  · rw [hallocated, hreq]
    exact hline
  · rw [hallocated, hreq]
    exact hoil
  · rw [hallocated, hwritten, hreq]
    exact hlist

theorem without_holds {request : ReportRequest F} (h : request = .idle ∨ request = .crashed) :
    ArrayHolds (s.without request) :=
  .of_idle (Nat.le_refl 0) h

theorem startLine_holds (req : LineRequest) (info : Bool) : ArrayHolds (s.startLine req info) := by
  unfold ReportState.startLine
  split
  · refine ⟨Nat.zero_le _, fun req' heq => ?_, fun _ _ _ heq => (nomatch heq),
      fun _ heq => (nomatch heq)⟩
    obtain rfl := ReportRequest.line.inj heq
    rfl
  · split
    · exact without_holds (.inr rfl)
    · exact without_holds (.inl rfl)

theorem startOil_holds (tYmd : RequestTime) (granted : Bool) {count : Except ColumnFault ℤ}
    (hcount : mysqlGetOliGunSum s.fuelquantity tYmd = count) :
    ArrayHolds (s.startOil tYmd granted count) := by
  unfold ReportState.startOil
  split
  · exact without_holds (.inr rfl)
  · next oliGunSum =>
      have hsum : oliGunSum.toNat = (gunsOf s.fuelquantity tYmd).card := by
        rw [oliGunSum_eq hcount, Int.toNat_natCast]
      split
      · split
        · refine ⟨Nat.zero_le _, fun _ heq => (nomatch heq), fun tYmd' counted left heq => ?_,
            fun _ heq => (nomatch heq)⟩
          obtain ⟨rfl, rfl, -⟩ := ReportRequest.oil.inj heq
          exact hsum
        · exact without_holds (.inr rfl)
      · exact without_holds (.inl rfl)

/-- A request starts with nothing written. -/
theorem start_holds (h : s.start a = some s') : ArrayHolds s' := by
  unfold ReportState.start at h
  split at h
  · obtain rfl := Option.some.inj h
    exact startLine_holds _ _
  · obtain rfl := Option.some.inj h
    exact startOil_holds _ _ rfl
  · obtain rfl := Option.some.inj h
    refine ⟨Nat.zero_le _, fun _ heq => (nomatch heq), fun _ _ _ heq => (nomatch heq),
      fun cur heq => ?_⟩
    obtain rfl := ReportRequest.deviceList.inj heq
    exact ⟨rfl, rfl⟩
  · exact nomatch h

/-- A call that is over leaves no request behind, or no server. -/
theorem after_idle {α : Type} (x : Except ColumnFault α) :
    ReportRequest.after (F := F) .idle x = .idle ∨ ReportRequest.after (F := F) .idle x = .crashed := by
  cases x with
  | error e => exact .inr rfl
  | ok b => exact .inl rfl

/-- **The request goes on** within its array exactly where the table fits. -/
theorem next_holds [Server] (hs : ArrayHolds s) (h : s.next order sumLPM = some s') :
    (Fits s .next → ArrayHolds s') ∧ (¬ Fits s .next → s'.allocated < s'.written) := by
  unfold Fits
  unfold ReportState.next at h
  cases hreq : s.request with
  | idle => simp [hreq] at h
  | crashed => simp [hreq] at h
  | line req =>
      simp only [hreq, Option.some.injEq] at h
      subst h
      have hsize := length_lineRows order s.passengerflowdata req
      have halloc := hs.line req hreq
      refine ⟨fun hf => .of_idle ?_ (after_idle _), fun hf => ?_⟩
      · show (lineRows order s.passengerflowdata req).length ≤ s.allocated
        rw [hsize, halloc]
        exact hf
      · show s.allocated < (lineRows order s.passengerflowdata req).length
        rw [hsize, halloc]
        exact Nat.lt_of_not_le hf
  | oil tYmd counted left =>
      have halloc := hs.oil tYmd counted left hreq
      cases left with
      | nil =>
          simp only [hreq, Option.some.injEq] at h
          subst h
          have hsize := length_gunRows order s.fuelquantity tYmd
          refine ⟨fun hf => .of_idle ?_ (after_idle _), fun hf => ?_⟩
          · show (order.arrange (selectOliGunFrequency s.fuelquantity tYmd)).length ≤ s.allocated
            rw [hsize, halloc]
            exact hf
          · show s.allocated < (order.arrange (selectOliGunFrequency s.fuelquantity tYmd)).length
            rw [hsize, halloc]
            exact Nat.lt_of_not_le hf
      | cons findType left =>
          simp only [hreq, Option.some.injEq] at h
          subst h
          refine ⟨fun _ => ?_, fun hf => absurd trivial hf⟩
          cases mysqlGetFuelQuantityByType s.fuelquantity tYmd sumLPM findType with
          | error e => exact .of_idle hs.written_le (.inr rfl)
          | ok quantity =>
              exact ⟨hs.written_le, fun _ heq => (nomatch heq),
                fun _ _ _ heq => by cases heq; exact halloc, fun _ heq => (nomatch heq)⟩
  | deviceList cur =>
      obtain ⟨halloc, hwritten⟩ := hs.deviceList cur hreq
      simp only [hreq] at h
      cases hnode : s.deviceListHead[cur]? with
      | none =>
          simp only [hnode, Option.some.injEq] at h
          subst h
          have hend := List.getElem?_eq_none_iff.1 hnode
          exact ⟨fun _ => .of_idle hs.written_le (.inl rfl),
            fun hf => absurd (fun hlt => absurd hend (Nat.not_le_of_lt hlt)) hf⟩
      | some dvrInfo =>
          simp only [hnode, Option.some.injEq] at h
          subst h
          obtain ⟨hlt, -⟩ := List.getElem?_eq_some_iff.1 hnode
          refine ⟨fun hf => ?_, fun hf => ?_⟩
          · have hcur := hf hlt
            refine ⟨?_, fun _ heq => (nomatch heq), fun _ _ _ heq => (nomatch heq), fun n heq => ?_⟩
            · show s.written + 1 ≤ s.allocated
              omega
            · cases heq
              exact ⟨halloc, congrArg (· + 1) hwritten⟩
          · show s.allocated < s.written + 1
            have hcur : ¬ cur < netNvrMaxNum := fun hc => hf fun _ => hc
            omega

/-! ## Runs -/

theorem act_holds [Server] (hs : ArrayHolds s) (h : s.act order sumLPM a = some s') :
    (Fits s a → ArrayHolds s') ∧ (¬ Fits s a → s'.allocated < s'.written) := by
  rcases act_cases h with ⟨hne, hreq, halloc, hwritten⟩ | ⟨rfl, hnext⟩ | ⟨hne, -, hstart⟩
  · exact ⟨fun _ => hs.congr hreq halloc hwritten, fun hf => absurd (fits_of_ne hne) hf⟩
  · exact next_holds hs hnext
  · exact ⟨fun _ => start_holds hstart, fun hf => absurd (fits_of_ne hne) hf⟩

variable {passengerflowdata : PassengerFlowTable} {fuelquantity : FuelTable F}
  {deviceListHead : List HKDVRParam} {tr : List (ReportAction F)}

/-- **Every written element is allocated**, in every state of a run, exactly where each filling meets a
    table that fits. -/
theorem written_allocated_iff [Server]
    (h : Run (reportStep order sumLPM) (.init passengerflowdata fuelquantity deviceListHead) tr s) :
    (∀ pre s₁, pre <+: tr →
      Run (reportStep order sumLPM) (.init passengerflowdata fuelquantity deviceListHead) pre s₁ →
        s₁.written ≤ s₁.allocated) ↔
      Run (stepWhen Fits (reportStep order sumLPM))
        (.init passengerflowdata fuelquantity deviceListHead) tr s := by
  have hdet : ∀ s a s₁ s₂, reportStep order sumLPM s a s₁ → reportStep order sumLPM s a s₂ → s₁ = s₂ :=
    fun s a s₁ s₂ h₁ h₂ => Option.some.inj (h₁.symm.trans h₂)
  exact Run.always_iff ArrayHolds hdet (.of_idle (Nat.le_refl 0) (.inl rfl))
    (fun s hs => hs.written_le) (fun s a s' hs hf hstep => (act_holds hs hstep).1 hf)
    (fun s a s' hs hf hstep => Nat.not_le_of_lt ((act_holds hs hstep).2 hf)) h

/-- Of two NVRs the second is added while the list is read. -/
theorem written_allocated_nvrs :
    letI : Server := Server.textual
    ∃ s, Run (reportStep .asFound fun _ : List Unit => 0) (.init [] [] [.zero])
        [.sdkDeviceListGet, .next, .deviceAdd .zero, .next, .next] s ∧ s.written = 2 ∧
      ∀ pre s₁, pre <+: [.sdkDeviceListGet, .next, .deviceAdd .zero, .next, .next] →
        Run (reportStep .asFound fun _ : List Unit => 0) (.init [] [] [.zero]) pre s₁ →
          s₁.written ≤ s₁.allocated := by
  let _ : Server := Server.textual
  obtain ⟨s, hfit, hwritten⟩ : ∃ s, Run (stepWhen Fits (reportStep .asFound fun _ : List Unit => 0))
      (.init [] [] [.zero]) [.sdkDeviceListGet, .next, .deviceAdd .zero, .next, .next] s ∧
        s.written = 2 :=
    Run.exists_of_eval (stepWhen_of_eval fun _ _ _ h => h) (by decide)
  have hrun := hfit.mono fun _ _ _ hs => hs.2
  exact ⟨s, hrun, hwritten, (written_allocated_iff hrun).2 hfit⟩

/-- The request for the series of one day. -/
def sampleLineRequest : CJson :=
  .item none 0 [(some (.ofBuffer (ascii "num")), .item none 1 []),
    (some (.ofBuffer (ascii "starttime")), .item (some (.ofBuffer (ascii "2024-05-01"))) 0 [])]

/-- On a day with customers at 25 different times the 25th element goes past the array. -/
theorem hours_past_the_array :
    letI : Server := Server.textual
    ∃ s : ReportState Unit,
      Run (reportStep .asFound fun _ => 0)
        (.init ((List.finRange 25).map fun k => sampleFlow (toString k.val) 10 k.val
          ⟨by decide, Nat.lt_trans k.isLt (by decide)⟩) [] [])
        [.getVolumeOfCommutersOfLine sampleLineRequest ⟨0, 0, 0, 0, 0, 0⟩ ⟨0, 0, 0, 0, 0, 0⟩ true,
          .next] s ∧
        s.allocated = 24 ∧ s.written = 25 :=
  letI : Server := Server.textual
  Run.exists_of_eval (fun _ _ _ h => h) (by decide)

end SmartPlat.JsonAPI
