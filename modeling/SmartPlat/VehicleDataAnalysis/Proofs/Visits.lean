import SmartPlat.VehicleDataAnalysis.Entrance
import SmartPlat.Lib.Sessions
import SmartPlat.Lib.Transition

set_option autoImplicit false

/-! # Entrance captures: visits

What processing one capture can do to the table is said once (`EntranceOutcome`). From it: the start
times of a plate's rows are the sessions of its captures, in the sense of `Sessions.lean`, as long as
no token is used twice; and only the plate's latest visit is touched, as long as no other plate's
visit starts in the same second. -/

namespace SmartPlat.VehicleDataAnalysis

open SmartPlat.Lib

def DeviceEntrance.startSec (r : DeviceEntrance) : ℤ := timeLocalYMD2Sec r.vehicleStart

def DeviceEntrance.endSec (r : DeviceEntrance) : ℤ := timeLocalYMD2Sec r.vehicleEnd

variable {t t' : EntranceTable} {c : EntranceCapture} {r s : DeviceEntrance} {p : String}

/-! ## One capture -/

/-- Tokens are distinct and all times are times. -/
structure TableOk (t : EntranceTable) : Prop where
  keyed : Keyed DeviceEntrance.snapToken t
  valid : ∀ r ∈ t, r.vehicleStart.Valid ∧ r.vehicleEnd.Valid

/-- `r` is one of the rows the query for plate `p` selects: some latest visit of `p` starts with it.
    It need not be a visit of `p` itself. -/
structure IsLatest (t : EntranceTable) (p : String) (r : DeviceEntrance) : Prop where
  mem : r ∈ t
  shared : ∃ s ∈ t, s.plateNo = p ∧ s.vehicleStart = r.vehicleStart
  latest : ∀ s ∈ t, s.plateNo = p → s.startSec ≤ r.startSec

/-- The two rules under which a capture moves the end of the visit it read. -/
def Moves (r : DeviceEntrance) (c : EntranceCapture) : Prop :=
  if r.vehicleStart = r.vehicleEnd then c.time - r.startSec < 5 * 60
  else 5 * 60 < c.time - r.endSec

/-- The capture comes more than 60 minutes after every visit of its plate. -/
def Far (t : EntranceTable) (c : EntranceCapture) : Prop :=
  ∀ s ∈ t, s.plateNo = c.plateNo → 60 * 60 < c.time - s.startSec

/-- Row `token` gets the capture's time as its end. -/
abbrev setEnd (t : EntranceTable) (token : String) (c : EntranceCapture) : EntranceTable :=
  updateWhere DeviceEntrance.snapToken token
    (fun r => { r with vehicleEnd := c.info.vehicleEnd }) t

/-- Everything a capture with a plate can do to the table. -/
inductive EntranceOutcome (t : EntranceTable) (c : EntranceCapture) : EntranceTable → Prop
  | opened : Far t c → (∀ r ∈ t, r.snapToken ≠ c.info.snapToken) →
      EntranceOutcome t c (t ++ [c.info])
  | refused : Far t c → (∃ r ∈ t, r.snapToken = c.info.snapToken) → EntranceOutcome t c t
  | extended {r : DeviceEntrance} : IsLatest t c.plateNo r → c.time - r.startSec ≤ 60 * 60 →
      Moves r c → EntranceOutcome t c (setEnd t r.snapToken c)
  | kept {r : DeviceEntrance} : IsLatest t c.plateNo r → c.time - r.startSec ≤ 60 * 60 →
      ¬ Moves r c → EntranceOutcome t c t

theorem maxStartdate_eq_none (h : maxStartdate p t = none) : ∀ s ∈ t, s.plateNo ≠ p := by
  rw [maxStartdate, List.argmax_eq_none, List.map_eq_nil_iff, List.filter_eq_nil_iff] at h
  intro s hs
  simpa using h s hs

theorem maxStartdate_eq_some {m : TimeYMD} (h : maxStartdate p t = some m) :
    (∃ s ∈ t, s.plateNo = p ∧ s.vehicleStart = m) ∧
      ∀ s ∈ t, s.plateNo = p → s.vehicleStart.datetime ≤ m.datetime := by
  have hmem := List.argmax_mem (Option.mem_def.2 h)
  constructor
  · simpa [and_assoc] using hmem
  · intro s hs hp
    exact List.le_of_mem_argmax
      (List.mem_map.2 ⟨s, List.mem_filter.2 ⟨hs, by simpa using hp⟩, rfl⟩) (Option.mem_def.2 h)

theorem latestEntranceRows_nil (h : latestEntranceRows p t = []) : ∀ s ∈ t, s.plateNo ≠ p := by
  rw [latestEntranceRows] at h
  split at h
  · next hnone => exact maxStartdate_eq_none hnone
  · next m hsome =>
      obtain ⟨⟨s, hs, -, hm⟩, -⟩ := maxStartdate_eq_some hsome
      have hin := List.filter_eq_nil_iff.1 h s hs
      simp [hm] at hin

theorem isLatest_of_mem (hok : TableOk t) (h : r ∈ latestEntranceRows p t) : IsLatest t p r := by
  rw [latestEntranceRows] at h
  split at h
  · nomatch h
  · next m hsome =>
      obtain ⟨hr, hrm⟩ := List.mem_filter.1 h
      obtain rfl : r.vehicleStart = m := by simpa using hrm
      obtain ⟨hex, hmax⟩ := maxStartdate_eq_some hsome
      refine ⟨hr, hex, fun s hs hp => ?_⟩
      have hiff := TimeYMD.datetime_lt_iff (hok.valid r hr).1 (hok.valid s hs).1
      have hle := hmax s hs hp
      rw [DeviceEntrance.startSec, DeviceEntrance.startSec]
      omega

theorem addEntranceInfo_outcome (hfar : Far t c) :
    EntranceOutcome t c (mySqlCtrlAddEntranceInfo c.info t).2 := by
  rw [mySqlCtrlAddEntranceInfo]
  by_cases hfresh : ∀ r ∈ t, r.snapToken ≠ c.info.snapToken
  · rw [insertRow_of_fresh hfresh]
    exact .opened hfar hfresh
  · have hnone : insertRow DeviceEntrance.snapToken c.info t = none := by
      rw [← Option.not_isSome_iff_eq_none, Option.isSome_iff_exists]
      intro ⟨t', ht'⟩
      exact hfresh (insertRow_eq_some_iff.1 ht').1
    rw [hnone]
    push Not at hfresh
    exact .refused hfar hfresh

/-- The decision on a plate that was seen before. -/
theorem entranceAction_cases (info : DeviceEntrance) (c : EntranceCapture) :
    (60 * 60 < c.time - info.startSec ∧ entranceAction (some info) c.info = .newVisit) ∨
    (c.time - info.startSec ≤ 60 * 60 ∧ Moves info c ∧
      entranceAction (some info) c.info = .setEnd info.snapToken) ∨
    (c.time - info.startSec ≤ 60 * 60 ∧ ¬ Moves info c ∧
      entranceAction (some info) c.info = .leave) := by
  have hstart : timeLocalYMD2Sec c.info.vehicleStart = c.time := rfl
  have hend : timeLocalYMD2Sec c.info.vehicleEnd = c.time := by rw [c.instant]; rfl
  have hinfo : timeLocalYMD2Sec info.vehicleStart = info.startSec := rfl
  have hinfo' : timeLocalYMD2Sec info.vehicleEnd = info.endSec := rfl
  simp only [entranceAction, Moves, hstart, hend, hinfo, hinfo']
  by_cases hfar : c.time - info.startSec > 60 * 60
  · exact Or.inl ⟨hfar, if_pos hfar⟩
  · rw [if_neg hfar]
    refine Or.inr ?_
    by_cases heq : info.vehicleStart = info.vehicleEnd
    · simp only [if_pos heq]
      by_cases hm : c.time - info.startSec < 5 * 60
      · exact Or.inl ⟨by omega, hm, if_pos hm⟩
      · exact Or.inr ⟨by omega, hm, if_neg hm⟩
    · simp only [if_neg heq]
      by_cases hm : c.time - info.endSec > 5 * 60
      · exact Or.inl ⟨by omega, hm, if_pos hm⟩
      · exact Or.inr ⟨by omega, hm, if_neg hm⟩

/-- **What one capture does.** -/
theorem EntranceStep.outcome (hok : TableOk t) (hp : c.plateNo ≠ "") (h : EntranceStep t c t') :
    EntranceOutcome t c t' := by
  obtain ⟨fetched, hperm, rfl⟩ := h
  have hlen : 0 < c.info.plateNo.length := by
    rw [Nat.pos_iff_ne_zero, Ne, String.length_eq_zero_iff]
    exact hp
  rw [memoryDataToDatabasePro, if_pos hlen, mySqlCtrlGetLatestEntranceInfo, if_neg (by omega)]
  cases hlast : fetched.getLast? with
  | none =>
      rw [List.getLast?_eq_none_iff] at hlast
      rw [hlast, List.nil_perm] at hperm
      exact addEntranceInfo_outcome fun s hs hsp => absurd hsp (latestEntranceRows_nil hperm s hs)
  | some info =>
      have hinfo : IsLatest t c.plateNo info :=
        isLatest_of_mem hok (hperm.mem_iff.1 (List.mem_of_getLast? hlast))
      rcases entranceAction_cases info c with ⟨hfar, hact⟩ | ⟨hnear, hm, hact⟩ | ⟨hnear, hm, hact⟩
      · rw [hact]
        refine addEntranceInfo_outcome fun s hs hsp => ?_
        have := hinfo.latest s hs hsp
        omega
      · rw [hact]
        exact .extended hinfo hnear hm
      · rw [hact]
        exact .kept hinfo hnear hm

/-- A capture without a plate is ignored. -/
theorem EntranceStep.unnamed (hp : c.plateNo = "") (h : EntranceStep t c t') : t' = t := by
  obtain ⟨fetched, -, rfl⟩ := h
  rw [memoryDataToDatabasePro, if_neg (by rw [show c.info.plateNo = "" from hp]; decide)]

theorem TableOk.setEnd (hok : TableOk t) (token : String) : TableOk (setEnd t token c) := by
  refine ⟨hok.keyed.update fun r => rfl, fun r hr => ?_⟩
  obtain ⟨s, hs, rfl⟩ := mem_updateWhere.1 hr
  have hvalid := hok.valid s hs
  split
  · exact ⟨hvalid.1, by rw [c.instant]; exact c.valid⟩
  · exact hvalid

theorem EntranceOutcome.tableOk (hok : TableOk t) (h : EntranceOutcome t c t') : TableOk t' := by
  cases h with
  | opened _ hfresh =>
      refine ⟨hok.keyed.insert (insertRow_of_fresh hfresh), fun r hr => ?_⟩
      rcases List.mem_append.1 hr with hr | hr
      · exact hok.valid r hr
      · obtain rfl := List.mem_singleton.1 hr
        exact ⟨c.valid, by rw [c.instant]; exact c.valid⟩
  | refused => exact hok
  | extended => exact hok.setEnd _
  | kept => exact hok

/-! ## Visits are the sessions of the captures -/

/-- Start times of a plate's rows, oldest row first. -/
def visitStarts (p : String) (t : EntranceTable) : List ℤ :=
  (t.filter fun r => r.plateNo = p).map DeviceEntrance.startSec

/-- Times of a plate's captures. -/
def captureTimes (p : String) (tr : List EntranceCapture) : List ℤ :=
  (tr.filter fun c => c.plateNo = p).map EntranceCapture.time

theorem mem_visitStarts {x : ℤ} : x ∈ visitStarts p t ↔ ∃ s ∈ t, s.plateNo = p ∧ s.startSec = x := by
  simp [visitStarts, and_assoc]

theorem visitStarts_setEnd (p : String) (t : EntranceTable) (token : String) :
    visitStarts p (setEnd t token c) = visitStarts p t := by
  rw [visitStarts, visitStarts, setEnd, updateWhere, List.filter_map, List.map_map]
  have hplate : ((fun r : DeviceEntrance => decide (r.plateNo = p)) ∘ fun r : DeviceEntrance =>
      if r.snapToken = token then { r with vehicleEnd := c.info.vehicleEnd } else r)
      = fun r => decide (r.plateNo = p) := by
    funext r
    simp only [Function.comp_apply]
    split <;> rfl
  rw [hplate]
  refine List.map_congr_left fun r _ => ?_
  simp only [Function.comp_apply]
  split <;> rfl

theorem visitStarts_append (p : String) (t : EntranceTable) (r : DeviceEntrance) :
    visitStarts p (t ++ [r]) = visitStarts p t ++ if r.plateNo = p then [r.startSec] else [] := by
  rw [visitStarts, List.filter_append, List.map_append, ← visitStarts]
  congr 1
  by_cases h : r.plateNo = p <;> simp [h]

theorem captureTimes_append (p : String) (tr : List EntranceCapture) (c : EntranceCapture) :
    captureTimes p (tr ++ [c])
      = captureTimes p tr ++ if c.plateNo = p then [c.time] else [] := by
  rw [captureTimes, List.filter_append, List.map_append, ← captureTimes]
  congr 1
  by_cases h : c.plateNo = p <;> simp [h]

theorem captureTimes_pairwise {tr : List EntranceCapture}
    (h : (tr.map EntranceCapture.time).Pairwise (· ≤ ·)) (p : String) :
    (captureTimes p tr).Pairwise (· ≤ ·) := by
  rw [List.pairwise_map] at h
  rw [captureTimes, List.pairwise_map]
  exact h.filter _

/-- A capture opens a visit exactly when it opens a session of its plate, unless its token is in
    use. -/
theorem EntranceOutcome.visitStarts (h : EntranceOutcome t c t')
    (hfresh : Far t c → ∀ r ∈ t, r.snapToken ≠ c.info.snapToken)
    (hp : (visitStarts c.plateNo t).Pairwise fun x y => x + 60 * 60 < y) :
    visitStarts c.plateNo t' = addEvent (60 * 60) (visitStarts c.plateNo t) c.time := by
  -- a visit within 60 minutes keeps the plate's last session open
  have hnear : ∀ r, IsLatest t c.plateNo r → c.time - r.startSec ≤ 60 * 60 →
      addEvent (60 * 60) (VehicleDataAnalysis.visitStarts c.plateNo t) c.time
        = VehicleDataAnalysis.visitStarts c.plateNo t := by
    intro r hr hle
    obtain ⟨s, hs, hsp, hsr⟩ := hr.shared
    have hmem : r.startSec ∈ VehicleDataAnalysis.visitStarts c.plateNo t :=
      mem_visitStarts.2 ⟨s, hs, hsp, by rw [DeviceEntrance.startSec, hsr]; rfl⟩
    cases hlast : (VehicleDataAnalysis.visitStarts c.plateNo t).getLast? with
    | none =>
        rw [List.getLast?_eq_none_iff] at hlast
        rw [hlast] at hmem
        nomatch hmem
    | some x =>
        have := le_getLast hp (by omega) hlast _ hmem
        exact addEvent_of_near hlast (by omega)
  cases h with
  | opened hfar =>
      rw [visitStarts_append, if_pos rfl]
      refine (addEvent_of_far fun x hx => ?_).symm
      obtain ⟨s, hs, hsp, rfl⟩ := mem_visitStarts.1 (List.mem_of_getLast? hx)
      exact hfar s hs hsp
  | refused hfar htaken =>
      obtain ⟨r, hr, htok⟩ := htaken
      exact absurd htok (hfresh hfar r hr)
  | extended hr hle => rw [visitStarts_setEnd, hnear _ hr hle]
  | kept hr hle => rw [hnear _ hr hle]

theorem EntranceOutcome.visitStarts_other (h : EntranceOutcome t c t') (hp : c.plateNo ≠ p) :
    VehicleDataAnalysis.visitStarts p t' = VehicleDataAnalysis.visitStarts p t := by
  cases h with
  | opened =>
      rw [visitStarts_append, if_neg hp, List.append_nil]
  | refused => rfl
  | extended => exact visitStarts_setEnd p t _
  | kept => rfl

/-- What keeps one capture from disturbing the table: if it comes within 60 minutes of a visit of its
    plate, no other plate's visit starts in that visit's second; and a token it would insert is not
    in use. -/
structure StepOk (t : EntranceTable) (c : EntranceCapture) : Prop where
  alone : ∀ r ∈ t, ∀ s ∈ t, s.plateNo = c.plateNo → c.time - s.startSec ≤ 60 * 60 →
    r.vehicleStart = s.vehicleStart → r.plateNo = c.plateNo
  fresh : c.plateNo ≠ "" → Far t c → ∀ r ∈ t, r.snapToken ≠ c.info.snapToken

instance (t : EntranceTable) (c : EntranceCapture) : Decidable (Far t c) :=
  inferInstanceAs (Decidable (∀ s ∈ t, s.plateNo = c.plateNo → 60 * 60 < c.time - s.startSec))

instance (t : EntranceTable) (c : EntranceCapture) : Decidable (StepOk t c) :=
  decidable_of_iff
    ((∀ r ∈ t, ∀ s ∈ t, s.plateNo = c.plateNo → c.time - s.startSec ≤ 60 * 60 →
        r.vehicleStart = s.vehicleStart → r.plateNo = c.plateNo) ∧
      (c.plateNo ≠ "" → Far t c → ∀ r ∈ t, r.snapToken ≠ c.info.snapToken))
    ⟨fun h => ⟨h.1, h.2⟩, fun h => ⟨h.alone, h.fresh⟩⟩

/-- The table after the captures `tr`. -/
structure Visits (tr : List EntranceCapture) (t : EntranceTable) : Prop where
  ok : TableOk t
  named : ∀ r ∈ t, r.plateNo ≠ ""
  starts : ∀ p, p ≠ "" → visitStarts p t = sessions (60 * 60) (captureTimes p tr)

theorem EntranceOutcome.named (h : EntranceOutcome t c t') (hp : c.plateNo ≠ "")
    (hnamed : ∀ r ∈ t, r.plateNo ≠ "") : ∀ r ∈ t', r.plateNo ≠ "" := by
  cases h with
  | opened =>
      intro r hr
      rcases List.mem_append.1 hr with hr | hr
      · exact hnamed r hr
      · obtain rfl := List.mem_singleton.1 hr
        exact hp
  | refused => exact hnamed
  | extended =>
      intro r hr
      obtain ⟨s, hs, rfl⟩ := mem_updateWhere.1 hr
      split
      · exact hnamed s hs
      · exact hnamed s hs
  | kept => exact hnamed

theorem Visits.step {tr : List EntranceCapture} (h : Visits tr t) (hok : StepOk t c)
    (hs : EntranceStep t c t') : Visits (tr ++ [c]) t' := by
  by_cases hp : c.plateNo = ""
  · obtain rfl := hs.unnamed hp
    refine ⟨h.ok, h.named, fun p hne => ?_⟩
    rw [captureTimes_append, if_neg (by rw [hp]; exact hne.symm), List.append_nil, h.starts p hne]
  · have hout := hs.outcome h.ok hp
    refine ⟨hout.tableOk h.ok, hout.named hp h.named, fun p hne => ?_⟩
    by_cases hcp : c.plateNo = p
    · subst hcp
      have hpair : (visitStarts c.plateNo t).Pairwise fun x y => x + 60 * 60 < y := by
        rw [h.starts _ hne]
        exact sessions_pairwise (by omega)
      rw [captureTimes_append, if_pos rfl, sessions_snoc, ← h.starts _ hne,
        hout.visitStarts (hok.fresh hp) hpair]
    · rw [captureTimes_append, if_neg hcp, List.append_nil, hout.visitStarts_other hcp,
        h.starts p hne]

theorem run_visits {tr : List EntranceCapture} (h : Run (stepWhen StepOk EntranceStep) [] tr t) :
    Visits tr t := by
  refine Run.invariant Visits ⟨⟨by simp [Keyed], ?_⟩, ?_, ?_⟩ ?_ h
  · intro r hr
    cases hr
  · intro r hr
    cases hr
  · intro p _
    rfl
  · rintro tr t c t' hv ⟨hok, hs⟩
    exact hv.step hok hs

/-! ## Rows of other visits -/

/-- Only the plate's latest visit is ever changed. -/
theorem EntranceOutcome.frame (hok : TableOk t) (hstep : StepOk t c) (h : EntranceOutcome t c t')
    {k : ℕ} (hk : t[k]? = some r)
    (hother : r.plateNo ≠ c.plateNo ∨ ∃ s ∈ t, s.plateNo = c.plateNo ∧ r.startSec < s.startSec) :
    t'[k]? = some r := by
  cases h with
  | opened => rw [List.getElem?_append_left (List.getElem?_eq_some_iff.1 hk).1, hk]
  | refused => exact hk
  | @extended q hq hle =>
      rw [setEnd, getElem?_updateWhere, hk, Option.map_some]
      split
      · next htok =>
          exfalso
          obtain rfl := hok.keyed.eq_of_mem (List.mem_of_getElem? hk) hq.mem htok
          -- the row starts in the second of a visit of the plate, but need not be of the plate
          obtain ⟨s, hs, hsp, hsr⟩ := hq.shared
          have hstart : s.startSec = r.startSec := by
            rw [DeviceEntrance.startSec, hsr]
            rfl
          rcases hother with hne | ⟨s', hs', hsp', hlt⟩
          · exact hne (hstep.alone r hq.mem s hs hsp (by omega) hsr.symm)
          · have := hq.latest s' hs' hsp'
            omega
      · rfl
  | kept => exact hk

/-! ## Whole runs -/

theorem pairwise_of_visitStarts (hnamed : ∀ r ∈ t, r.plateNo ≠ "")
    (h : ∀ p, p ≠ "" → (visitStarts p t).Pairwise fun x y => x + 60 * 60 < y) :
    t.Pairwise fun r s => r.plateNo = s.plateNo → r.startSec + 60 * 60 < s.startSec := by
  rw [List.pairwise_iff_getElem]
  intro i j hi hj hij heq
  have hp := h t[i].plateNo (hnamed _ (List.getElem_mem hi))
  rw [visitStarts, List.pairwise_map, List.pairwise_filter, List.pairwise_iff_getElem] at hp
  exact hp i j hi hj hij (by simp) (by simp [heq])

/-- The entrance table sorts the captures `tr` into visits: rows of one plate start more than 60
    minutes apart; each capture with a plate lies within 60 minutes of the start of exactly one visit
    of that plate, the last one started by then; and a further capture that is `StepOk` changes no
    row of another plate and no earlier visit of its own. -/
structure Sessionised (tr : List EntranceCapture) (t : EntranceTable) : Prop where
  apart : t.Pairwise fun r s => r.plateNo = s.plateNo → r.startSec + 60 * 60 < s.startSec
  one : ∀ c ∈ tr, c.plateNo ≠ "" → ∃! r, r ∈ t ∧ r.plateNo = c.plateNo ∧ r.startSec ≤ c.time ∧
    c.time ≤ r.startSec + 60 * 60
  last : ∀ c ∈ tr, c.plateNo ≠ "" → ∀ r ∈ t, r.plateNo = c.plateNo → r.startSec ≤ c.time →
    c.time ≤ r.startSec + 60 * 60 →
      ∀ s ∈ t, s.plateNo = c.plateNo → s.startSec ≤ c.time → s.startSec ≤ r.startSec
  untouched : ∀ (c : EntranceCapture) (t' : EntranceTable), (∀ d ∈ tr, d.time ≤ c.time) →
    StepOk t c → EntranceStep t c t' → ∀ (k : ℕ) (r : DeviceEntrance), t[k]? = some r →
      (r.plateNo ≠ c.plateNo ∨ ∃ s ∈ t, s.plateNo = c.plateNo ∧ r.startSec < s.startSec) →
        t'[k]? = some r

/-- **Visits.** Every run whose steps are `StepOk`, over captures in time order, sorts them into
    visits. -/
theorem visitsSessionised {tr : List EntranceCapture}
    (h : Run (stepWhen StepOk EntranceStep) [] tr t)
    (hord : (tr.map EntranceCapture.time).Pairwise (· ≤ ·)) : Sessionised tr t := by
  have hv := run_visits h
  have hpair : ∀ p, p ≠ "" → (visitStarts p t).Pairwise fun x y => x + 60 * 60 < y := by
    intro p hne
    rw [hv.starts p hne]
    exact sessions_pairwise (by omega)
  refine ⟨pairwise_of_visitStarts hv.named hpair, ?_, ?_, ?_⟩
  · intro c hc hp
    have hmem : c.time ∈ captureTimes c.plateNo tr :=
      List.mem_map.2 ⟨c, List.mem_filter.2 ⟨hc, by simp⟩, rfl⟩
    obtain ⟨x, hx, hle, hge⟩ := exists_session (show (0 : ℤ) ≤ 60 * 60 by omega)
      (captureTimes_pairwise hord c.plateNo) hmem
    rw [← hv.starts _ hp] at hx
    obtain ⟨r, hr, hrp, rfl⟩ := mem_visitStarts.1 hx
    refine ⟨r, ⟨hr, hrp, hle, hge⟩, ?_⟩
    rintro s ⟨hs, hsp, hsle, hsge⟩
    have hsame : s.startSec = r.startSec := session_unique (hpair _ hp)
      (mem_visitStarts.2 ⟨s, hs, hsp, rfl⟩) hx ⟨hsle, hsge⟩ ⟨hle, hge⟩
    have hnodup : (visitStarts c.plateNo t).Nodup :=
      (hpair _ hp).imp fun hlt => by omega
    exact List.inj_on_of_nodup_map hnodup (List.mem_filter.2 ⟨hs, by simpa using hsp⟩)
      (List.mem_filter.2 ⟨hr, by simpa using hrp⟩) hsame
  · intro c _ hp r hr hrp hle hge s hs hsp hsle
    by_contra hlt
    obtain ⟨i, hi, hri⟩ := List.mem_iff_getElem.1 (mem_visitStarts.2 ⟨r, hr, hrp, rfl⟩)
    obtain ⟨j, hj, hsj⟩ := List.mem_iff_getElem.1 (mem_visitStarts.2 ⟨s, hs, hsp, rfl⟩)
    have hget := List.pairwise_iff_getElem.1 (hpair _ hp)
    rcases Nat.lt_trichotomy i j with hij | rfl | hji
    · have := hget i j hi hj hij
      omega
    · omega
    · have := hget j i hj hi hji
      omega
  · intro c t' _ hok hs k r hk hother
    by_cases hp : c.plateNo = ""
    · obtain rfl := hs.unnamed hp
      exact hk
    · exact (hs.outcome hv.ok hp).frame hv.ok hok hk hother

theorem visitsSessionised_two_plates :
    ∃ t, Run (stepWhen StepOk EntranceStep) []
        [sampleCapture "1" "A" 0, sampleCapture "2" "B" 1, sampleCapture "3" "A" 2] t ∧
      Sessionised [sampleCapture "1" "A" 0, sampleCapture "2" "B" 1, sampleCapture "3" "A" 2] t := by
  have h := (Run.nil : Run (stepWhen StepOk EntranceStep) [] [] _)
    |>.snoc (a := sampleCapture "1" "A" 0) ⟨by decide, _, List.Perm.refl _, rfl⟩
    |>.snoc (a := sampleCapture "2" "B" 1) ⟨by decide, _, List.Perm.refl _, rfl⟩
    |>.snoc (a := sampleCapture "3" "A" 2) ⟨by decide +kernel, _, List.Perm.refl _, rfl⟩
  exact ⟨_, h, visitsSessionised h (by decide +kernel)⟩

/-- Plates `A` and `B` are captured in the same second, and `A` again a minute later: the end of
    `B`'s visit is moved. -/
theorem otherPlate_extended :
    ∃ t t', Run EntranceStep [] [sampleCapture "1" "A" 0, sampleCapture "2" "B" 0] t ∧
      EntranceStep t (sampleCapture "3" "A" 1) t' ∧
      t[1]? = some (sampleCapture "2" "B" 0).info ∧
      (sampleCapture "2" "B" 0).plateNo ≠ (sampleCapture "3" "A" 1).plateNo ∧
      t'[1]? ≠ some (sampleCapture "2" "B" 0).info := by
  have h := (Run.nil : Run EntranceStep [] [] _)
    |>.snoc (a := sampleCapture "1" "A" 0) ⟨_, List.Perm.refl _, rfl⟩
    |>.snoc (a := sampleCapture "2" "B" 0) ⟨_, List.Perm.refl _, rfl⟩
  exact ⟨_, _, h, ⟨_, List.Perm.refl _, rfl⟩, by decide, by decide,
    by decide +kernel⟩

end SmartPlat.VehicleDataAnalysis
