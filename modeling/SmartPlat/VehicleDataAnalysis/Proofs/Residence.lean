import SmartPlat.VehicleDataAnalysis.Proofs.Visits
import Mathlib.Algebra.Order.Group.Int
import Mathlib.Algebra.Order.Group.Abs

set_option autoImplicit false

/-! # Entrance captures: residence time

The stay the residence reports compute from a row is its end minus its start
(`UNIX_TIMESTAMP(enddate) - UNIX_TIMESTAMP(startdate)`). For captures of one plate, what its end is
depends on one thing: whether a capture came within five minutes of the start (`VisitEnd`). Up to
that capture the first update rule is in force and lets later ones go; from it on the second rule is,
and keeps up to five minutes behind the last capture. -/

namespace SmartPlat.VehicleDataAnalysis

open SmartPlat.Lib

variable {t t' : EntranceTable} {c : EntranceCapture} {r s : DeviceEntrance} {p : String}
  {tr : List EntranceCapture} {x : ℤ}

/-- The stay the residence reports compute. -/
def DeviceEntrance.residence (r : DeviceEntrance) : ℤ := r.endSec - r.startSec

/-- A capture at `x` belongs to visit `r`. -/
def InVisit (tr : List EntranceCapture) (r : DeviceEntrance) (x : ℤ) : Prop :=
  x ∈ tr.map EntranceCapture.time ∧ r.startSec ≤ x ∧ x ≤ r.startSec + 60 * 60

/-- What the end of a visit is: its start, if no capture came within five minutes of that; else one
    of its captures, not more than five minutes before any other. -/
def VisitEnd (tr : List EntranceCapture) (r : DeviceEntrance) : Prop :=
  (r.vehicleStart = r.vehicleEnd ∧ ∀ x, InVisit tr r x → x = r.startSec ∨ r.startSec + 5 * 60 ≤ x) ∨
  (r.startSec < r.endSec ∧ InVisit tr r r.endSec ∧
    (∃ x, InVisit tr r x ∧ r.startSec < x ∧ x < r.startSec + 5 * 60) ∧
    ∀ x, InVisit tr r x → x ≤ r.endSec + 5 * 60)

theorem inVisit_append :
    InVisit (tr ++ [c]) r x ↔
      InVisit tr r x ∨ (x = c.time ∧ r.startSec ≤ x ∧ x ≤ r.startSec + 60 * 60) := by
  simp only [InVisit, List.map_append, List.map_cons, List.map_nil, List.mem_append,
    List.mem_singleton]
  tauto

/-- A capture outside the visit changes nothing about it. -/
theorem VisitEnd.append_of_outside (h : VisitEnd tr r) (hout : r.startSec + 60 * 60 < c.time) :
    VisitEnd (tr ++ [c]) r := by
  have hiff : ∀ x, InVisit (tr ++ [c]) r x ↔ InVisit tr r x := by
    intro x
    rw [inVisit_append]
    refine ⟨fun h => h.resolve_right ?_, Or.inl⟩
    rintro ⟨rfl, -, hle⟩
    omega
  simpa only [VisitEnd, hiff] using h

/-! ## The table of one plate -/

structure OnePlate (p : String) (tr : List EntranceCapture) (t : EntranceTable) : Prop where
  ok : TableOk t
  plate : ∀ r ∈ t, r.plateNo = p
  apart : t.Pairwise fun r s => r.startSec + 60 * 60 < s.startSec
  seen : ∀ r ∈ t, r.startSec ∈ tr.map EntranceCapture.time
  ended : ∀ r ∈ t, VisitEnd tr r

theorem OnePlate.apart_of_lt (h : OnePlate p tr t) (hr : r ∈ t) (hs : s ∈ t)
    (hlt : s.startSec < r.startSec) : s.startSec + 60 * 60 < r.startSec := by
  obtain ⟨i, hi, rfl⟩ := List.mem_iff_getElem.1 hs
  obtain ⟨j, hj, rfl⟩ := List.mem_iff_getElem.1 hr
  have hget := List.pairwise_iff_getElem.1 h.apart
  rcases Nat.lt_trichotomy i j with hij | rfl | hji
  · exact hget i j hi hj hij
  · omega
  · have := hget j i hj hi hji
    omega

theorem OnePlate.eq_of_start (h : OnePlate p tr t) (hr : r ∈ t) (hs : s ∈ t)
    (heq : s.startSec = r.startSec) : s = r := by
  have hnodup : (t.map DeviceEntrance.startSec).Nodup := by
    rw [List.Nodup, List.pairwise_map]
    exact h.apart.imp fun hlt => by omega
  exact List.inj_on_of_nodup_map hnodup hs hr heq

/-- Every visit but the one that was read is over. -/
theorem OnePlate.over (h : OnePlate p tr t) (hr : IsLatest t p r) (hle : r.startSec ≤ c.time)
    (hs : s ∈ t) (hne : s ≠ r) : s.startSec + 60 * 60 < c.time := by
  have hlast := hr.latest s hs (h.plate s hs)
  have hlt : s.startSec < r.startSec := by
    rcases Int.lt_or_eq_of_le hlast with hlt | heq
    · exact hlt
    · exact absurd (h.eq_of_start hr.mem hs heq) hne
  have := h.apart_of_lt hr.mem hs hlt
  omega

/-- The visit that was read, when the capture moves its end. -/
theorem VisitEnd.moved (h : VisitEnd tr r) (hr : r.vehicleStart.Valid)
    (hord : ∀ x ∈ tr.map EntranceCapture.time, x ≤ c.time) (hstart : r.startSec ≤ c.time)
    (hnear : c.time - r.startSec ≤ 60 * 60) (hm : Moves r c) :
    VisitEnd (tr ++ [c]) { r with vehicleEnd := c.info.vehicleEnd } := by
  have hend : ({ r with vehicleEnd := c.info.vehicleEnd } : DeviceEntrance).endSec = c.time := by
    rw [DeviceEntrance.endSec, c.instant]
    rfl
  have hbound : ∀ x, InVisit (tr ++ [c]) r x → x ≤ c.time := by
    intro x hx
    rcases inVisit_append.1 hx with hx | ⟨rfl, -⟩
    · exact hord x hx.1
    · exact le_rfl
  have hself : InVisit (tr ++ [c]) r c.time := inVisit_append.2 (Or.inr ⟨rfl, hstart, by omega⟩)
  by_cases hsame : c.time = r.startSec
  · -- a second capture in the very second of the start
    refine Or.inl ⟨?_, fun x hx => Or.inl ?_⟩
    · rw [c.instant]
      exact TimeYMD.eq_of_sec_eq hr c.valid hsame.symm
    · have hle := hbound x hx
      have hge : r.startSec ≤ x := hx.2.1
      change x = r.startSec
      omega
  · refine Or.inr ⟨?_, by rw [hend]; exact hself, ?_, ?_⟩
    · rw [hend]
      change r.startSec < c.time
      omega
    · rcases h with ⟨heq, -⟩ | ⟨-, -, ⟨x, hx, hlt⟩, -⟩
      · rw [Moves, if_pos heq] at hm
        exact ⟨c.time, hself, by change r.startSec < c.time; omega,
          by change c.time < r.startSec + 5 * 60; omega⟩
      · exact ⟨x, inVisit_append.2 (Or.inl hx), hlt⟩
    · intro x hx
      have := hbound x hx
      rw [hend]
      omega

/-- The visit that was read, when the capture leaves it alone. -/
theorem VisitEnd.left (h : VisitEnd tr r) (hstay : ¬ Moves r c) : VisitEnd (tr ++ [c]) r := by
  rcases h with ⟨heq, hall⟩ | ⟨hlt, hend, ⟨y, hy, hylt⟩, hall⟩
  · rw [Moves, if_pos heq] at hstay
    refine Or.inl ⟨heq, fun x hx => ?_⟩
    rcases inVisit_append.1 hx with hx | ⟨rfl, -⟩
    · exact hall x hx
    · exact Or.inr (by omega)
  · have hne : r.vehicleStart ≠ r.vehicleEnd := by
      intro heq
      rw [DeviceEntrance.startSec, DeviceEntrance.endSec, heq] at hlt
      omega
    rw [Moves, if_neg hne] at hstay
    refine Or.inr ⟨hlt, inVisit_append.2 (Or.inl hend), ⟨y, inVisit_append.2 (Or.inl hy), hylt⟩,
      fun x hx => ?_⟩
    rcases inVisit_append.1 hx with hx | ⟨rfl, -⟩
    · exact hall x hx
    · omega

theorem OnePlate.seen_append (h : OnePlate p tr t) (hr : r ∈ t) :
    r.startSec ∈ (tr ++ [c]).map EntranceCapture.time := by
  rw [List.map_append]
  exact List.mem_append_left _ (h.seen r hr)

/-- A capture far from all visits opens one of its own. -/
theorem OnePlate.opened (h : OnePlate p tr t) (hcp : c.plateNo = p)
    (hord : ∀ x ∈ tr.map EntranceCapture.time, x ≤ c.time) (hfar : Far t c)
    (hok : TableOk (t ++ [c.info])) : OnePlate p (tr ++ [c]) (t ++ [c.info]) := by
  subst hcp
  refine ⟨hok, ?_, ?_, ?_, ?_⟩
  · intro r hr
    rcases List.mem_append.1 hr with hr | hr
    · exact h.plate r hr
    · rw [List.mem_singleton.1 hr]
  · refine List.pairwise_append.2 ⟨h.apart, List.pairwise_singleton _ _, fun r hr s hs => ?_⟩
    obtain rfl := List.mem_singleton.1 hs
    have := hfar r hr (h.plate r hr)
    show r.startSec + 60 * 60 < c.time
    omega
  · intro r hr
    rcases List.mem_append.1 hr with hr | hr
    · exact h.seen_append hr
    · rw [List.mem_singleton.1 hr]
      exact List.mem_map.2 ⟨c, by simp, rfl⟩
  · intro r hr
    rcases List.mem_append.1 hr with hr | hr
    · have := hfar r hr (h.plate r hr)
      exact (h.ended r hr).append_of_outside (by omega)
    · obtain rfl := List.mem_singleton.1 hr
      refine Or.inl ⟨c.instant.symm, fun x hx => Or.inl ?_⟩
      rcases inVisit_append.1 hx with hx | ⟨rfl, -⟩
      · have hle := hord x hx.1
        have hge : c.time ≤ x := hx.2.1
        exact Int.le_antisymm hle hge
      · rfl

/-- A capture that moves the end of the visit that was read leaves the starts as they are. -/
theorem OnePlate.extended (h : OnePlate p tr t)
    (hord : ∀ x ∈ tr.map EntranceCapture.time, x ≤ c.time) (hr : IsLatest t p r)
    (hnear : c.time - r.startSec ≤ 60 * 60) (hm : Moves r c)
    (hok : TableOk (setEnd t r.snapToken c)) :
    OnePlate p (tr ++ [c]) (setEnd t r.snapToken c) := by
  have hstart := hord _ (h.seen r hr.mem)
  refine ⟨hok, ?_, ?_, ?_, ?_⟩
  · intro q hq
    obtain ⟨s, hs, rfl⟩ := mem_updateWhere.1 hq
    split
    · exact h.plate s hs
    · exact h.plate s hs
  · have hmap : (setEnd t r.snapToken c).map DeviceEntrance.startSec
        = t.map DeviceEntrance.startSec :=
      map_updateWhere DeviceEntrance.startSec fun _ => rfl
    have hapart := h.apart
    rw [← List.pairwise_map (f := DeviceEntrance.startSec)
      (R := fun x y : ℤ => x + 60 * 60 < y)] at hapart ⊢
    rw [hmap]
    exact hapart
  · intro q hq
    obtain ⟨s, hs, rfl⟩ := mem_updateWhere.1 hq
    have hseen : s.startSec ∈ (tr ++ [c]).map EntranceCapture.time := h.seen_append hs
    split
    · exact hseen
    · exact hseen
  · intro q hq
    obtain ⟨s, hs, rfl⟩ := mem_updateWhere.1 hq
    -- the row that was read is the one that moves; every other visit is over
    split
    · next htok =>
        obtain rfl := h.ok.keyed.eq_of_mem hs hr.mem htok
        exact (h.ended s hs).moved (h.ok.valid s hs).1 hord hstart hnear hm
    · next htok =>
        have hne : s ≠ r := fun heq => htok (by rw [heq])
        exact (h.ended s hs).append_of_outside (h.over hr hstart hs hne)

theorem OnePlate.step (h : OnePlate p tr t) (hcp : c.plateNo = p)
    (hord : ∀ x ∈ tr.map EntranceCapture.time, x ≤ c.time) (hout : EntranceOutcome t c t') :
    OnePlate p (tr ++ [c]) t' := by
  have hok' := hout.tableOk h.ok
  cases hout with
  | opened hfar hfresh => exact h.opened hcp hord hfar hok'
  | refused hfar =>
      subst hcp
      refine ⟨h.ok, h.plate, h.apart, fun r hr => h.seen_append hr, fun r hr => ?_⟩
      have := hfar r hr (h.plate r hr)
      exact (h.ended r hr).append_of_outside (by omega)
  | extended hr hnear hm => exact h.extended hord (hcp ▸ hr) hnear hm hok'
  | @kept r hr hnear hstay =>
      subst hcp
      have hstart := hord _ (h.seen r hr.mem)
      refine ⟨h.ok, h.plate, h.apart, fun s hs => h.seen_append hs, fun s hs => ?_⟩
      by_cases hne : s = r
      · subst hne
        exact (h.ended s hs).left hstay
      · exact (h.ended s hs).append_of_outside (h.over hr hstart hs hne)

theorem run_onePlate (hp : p ≠ "") (h : Run EntranceStep [] tr t)
    (hplate : ∀ c ∈ tr, c.plateNo = p) (hord : (tr.map EntranceCapture.time).Pairwise (· ≤ ·)) :
    OnePlate p tr t := by
  revert hplate hord
  refine Run.invariant (fun tr t => (∀ c ∈ tr, c.plateNo = p) →
    (tr.map EntranceCapture.time).Pairwise (· ≤ ·) → OnePlate p tr t) ?_ ?_ h
  · intro _ _
    refine ⟨⟨by simp [Keyed], ?_⟩, ?_, List.Pairwise.nil, ?_, ?_⟩ <;> intro r hr <;> cases hr
  · intro tr t c t' ih hs hplate hord
    rw [List.map_append, List.pairwise_append] at hord
    obtain ⟨hord, -, hlast⟩ := hord
    have hcp : c.plateNo = p := hplate c (by simp)
    have hone := ih (fun d hd => hplate d (List.mem_append_left _ hd)) hord
    exact hone.step hcp (fun x hx => hlast x hx c.time (by simp))
      (hs.outcome hone.ok (by rw [hcp]; exact hp))

/-! ## Residence -/

/-- Ends only move forward. -/
def EndsGrow (t t' : EntranceTable) : Prop :=
  ∀ (k : ℕ) (r : DeviceEntrance), t[k]? = some r →
    ∃ r', t'[k]? = some r' ∧ r'.startSec = r.startSec ∧ r.endSec ≤ r'.endSec

/-- The stay of visit `r` is what its captures show: it does not end before it starts, it is not
    empty if a capture came more than five minutes after the start, and it is within five minutes of
    the time between the first and the last capture. -/
structure StayOk (tr : List EntranceCapture) (r : DeviceEntrance) : Prop where
  forward : r.startSec ≤ r.endSec
  proper : (∃ x, InVisit tr r x ∧ r.startSec + 5 * 60 < x) → r.startSec < r.endSec
  close : ∀ first last, InVisit tr r first → InVisit tr r last →
    (∀ x, InVisit tr r x → first ≤ x ∧ x ≤ last) → |r.residence - (last - first)| ≤ 5 * 60

/-- A visit that went on for more than five minutes was also captured within the first five. -/
def CapturedEarly (tr : List EntranceCapture) (r : DeviceEntrance) : Prop :=
  (∃ x, InVisit tr r x ∧ r.startSec + 5 * 60 < x) →
    ∃ x, InVisit tr r x ∧ r.startSec < x ∧ x < r.startSec + 5 * 60

theorem VisitEnd.stayOk_iff (h : VisitEnd tr r) (hseen : r.startSec ∈ tr.map EntranceCapture.time) :
    StayOk tr r ↔ CapturedEarly tr r := by
  have hfirst : InVisit tr r r.startSec := ⟨hseen, le_rfl, by omega⟩
  rcases h with ⟨heq, hall⟩ | ⟨hlt, hend, hearly, hall⟩
  · have hend : r.endSec = r.startSec := by
      rw [DeviceEntrance.startSec, heq]
      rfl
    constructor
    · intro hok hlate
      have := hok.proper hlate
      omega
    · intro hcap
      -- nothing came early, so nothing came late either
      have hnone : ∀ x, InVisit tr r x → x ≤ r.startSec + 5 * 60 := by
        intro x hx
        by_contra hlate
        obtain ⟨y, hy, h1, h2⟩ := hcap ⟨x, hx, by omega⟩
        rcases hall y hy with h | h <;> omega
      refine ⟨by omega, ?_, ?_⟩
      · rintro ⟨x, hx, hlate⟩
        have := hnone x hx
        omega
      · intro first last hf hl hbetween
        have h1 := (hbetween _ hfirst).1
        have h2 := hnone last hl
        have h3 := hf.2.1
        have h4 := (hbetween _ hf).2
        rw [DeviceEntrance.residence, abs_le]
        omega
  · constructor
    · intro _ _
      exact hearly
    · intro _
      refine ⟨hlt.le, fun _ => hlt, ?_⟩
      intro first last hf hl hbetween
      have h1 := (hbetween _ hfirst).1
      have h2 := (hbetween _ hend).2
      have h3 := hall last hl
      have h4 := hf.2.1
      rw [DeviceEntrance.residence, abs_le]
      omega

theorem OnePlate.endsGrow (h : OnePlate p tr t)
    (hord : ∀ x ∈ tr.map EntranceCapture.time, x ≤ c.time) (hout : EntranceOutcome t c t') :
    EndsGrow t t' := by
  intro k r hk
  cases hout with
  | opened =>
      exact ⟨r, by rw [List.getElem?_append_left (List.getElem?_eq_some_iff.1 hk).1, hk], rfl, le_rfl⟩
  | refused => exact ⟨r, hk, rfl, le_rfl⟩
  | @extended q hq hnear hm =>
      rw [setEnd, getElem?_updateWhere, hk, Option.map_some]
      refine ⟨_, rfl, ?_⟩
      split
      · refine ⟨rfl, ?_⟩
        have hr := List.mem_of_getElem? hk
        have hend : ({ r with vehicleEnd := c.info.vehicleEnd } : DeviceEntrance).endSec
            = c.time := by
          rw [DeviceEntrance.endSec, c.instant]
          rfl
        rw [hend]
        rcases h.ended r hr with ⟨heq, -⟩ | ⟨-, hin, -⟩
        · have hsame : r.endSec = r.startSec := by
            rw [DeviceEntrance.startSec, heq]
            rfl
          rw [hsame]
          exact hord _ (h.seen r hr)
        · exact hord _ hin.1
      · exact ⟨rfl, le_rfl⟩
  | kept => exact ⟨r, hk, rfl, le_rfl⟩

/-- **Residence.** Over captures of one plate in time order: ends only move forward, and every stay
    is what its captures show exactly when every visit that went on for more than five minutes was
    also captured within its first five. -/
theorem residence_iff (hp : p ≠ "") (h : Run EntranceStep [] tr t)
    (hplate : ∀ c ∈ tr, c.plateNo = p) (hord : (tr.map EntranceCapture.time).Pairwise (· ≤ ·)) :
    (∀ c t', c.plateNo = p → (∀ x ∈ tr.map EntranceCapture.time, x ≤ c.time) →
      EntranceStep t c t' → EndsGrow t t') ∧
    ((∀ r ∈ t, StayOk tr r) ↔ ∀ r ∈ t, CapturedEarly tr r) := by
  have hone := run_onePlate hp h hplate hord
  constructor
  · intro c t' hcp hlast hs
    exact hone.endsGrow hlast (hs.outcome hone.ok (by rw [hcp]; exact hp))
  · constructor
    · intro hall r hr
      exact ((hone.ended r hr).stayOk_iff (hone.seen r hr)).1 (hall r hr)
    · intro hall r hr
      exact ((hone.ended r hr).stayOk_iff (hone.seen r hr)).2 (hall r hr)

theorem residence_iff_two_captures :
    ∃ t, Run EntranceStep [] [sampleCapture "1" "A" 0, sampleCapture "2" "A" 4] t ∧
      (∀ c t', c.plateNo = "A" →
        (∀ x ∈ [sampleCapture "1" "A" 0, sampleCapture "2" "A" 4].map EntranceCapture.time,
          x ≤ c.time) → EntranceStep t c t' → EndsGrow t t') ∧
      ((∀ r ∈ t, StayOk [sampleCapture "1" "A" 0, sampleCapture "2" "A" 4] r) ↔
        ∀ r ∈ t, CapturedEarly [sampleCapture "1" "A" 0, sampleCapture "2" "A" 4] r) := by
  have h := (Run.nil : Run EntranceStep [] [] _)
    |>.snoc (a := sampleCapture "1" "A" 0) ⟨_, List.Perm.refl _, rfl⟩
    |>.snoc (a := sampleCapture "2" "A" 4) ⟨_, List.Perm.refl _, rfl⟩
  exact ⟨_, h, residence_iff (p := "A") (by decide) h (by decide +kernel) (by decide +kernel)⟩

/-- Two captures ten minutes apart: the visit keeps its start as its end. -/
theorem tenMinutes_noStay :
    ∃ t, Run EntranceStep [] [sampleCapture "1" "A" 0, sampleCapture "2" "A" 10] t ∧
      ∃ r ∈ t, InVisit [sampleCapture "1" "A" 0, sampleCapture "2" "A" 10] r
          (sampleCapture "2" "A" 10).time ∧
        r.startSec + 5 * 60 < (sampleCapture "2" "A" 10).time ∧ r.endSec = r.startSec ∧
        ¬ StayOk [sampleCapture "1" "A" 0, sampleCapture "2" "A" 10] r := by
  have h := (Run.nil : Run EntranceStep [] [] _)
    |>.snoc (a := sampleCapture "1" "A" 0) ⟨_, List.Perm.refl _, rfl⟩
    |>.snoc (a := sampleCapture "2" "A" 10) ⟨_, List.Perm.refl _, rfl⟩
  have hin : InVisit [sampleCapture "1" "A" 0, sampleCapture "2" "A" 10]
      (sampleCapture "1" "A" 0).info (sampleCapture "2" "A" 10).time :=
    ⟨by decide +kernel, by decide +kernel, by decide +kernel⟩
  have hlate : (sampleCapture "1" "A" 0).info.startSec + 5 * 60
      < (sampleCapture "2" "A" 10).time := by decide +kernel
  refine ⟨_, h, (sampleCapture "1" "A" 0).info, by decide +kernel, hin, hlate, rfl, fun hok => ?_⟩
  exact absurd (hok.proper ⟨_, hin, hlate⟩) (by decide +kernel)

end SmartPlat.VehicleDataAnalysis
