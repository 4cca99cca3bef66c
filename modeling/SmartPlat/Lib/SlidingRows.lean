import SmartPlat.Lib.Sessions
import SmartPlat.Lib.Table

set_option autoImplicit false

/-! # Tables with one row for each run

Rows belong to owners and have a time. A new row comes with a look at the latest row of its owner: when
that is more than `gap` ago, or there is none, it is inserted; otherwise the row that was found is moved
to its time. As long as the row that is found is the owner's own, the table holds the ends of the
maximal runs of each owner's times. -/

namespace SmartPlat.Lib

variable {ρ κ ω : Type*}

/-- The columns such a table needs, and what moving a row to the time of another one changes. -/
structure Columns (ρ κ ω : Type*) where
  key : ρ → κ
  owner : ρ → ω
  time : ρ → ℤ
  /-- `retime c r` is `r` with the time of `c`. -/
  retime : ρ → ρ → ρ
  /-- Rows whose time is a time. -/
  Ok : ρ → Prop
  key_retime : ∀ c r, key (retime c r) = key r
  owner_retime : ∀ c r, owner (retime c r) = owner r
  time_retime : ∀ c r, time (retime c r) = time c
  ok_retime : ∀ {c r}, Ok c → Ok (retime c r)
  retime_self : ∀ {c r}, Ok c → Ok r → time c = time r → retime c r = r

namespace Columns

variable [DecidableEq ω] (C : Columns ρ κ ω)

/-! ## The table and its histories -/

def insert [DecidableEq κ] (c : ρ) (t : List ρ) : List ρ := (insertRow C.key c t).getD t

/-- A new row `c`, `latest` being the row found before. -/
def slide [DecidableEq κ] (gap : ℤ) (latest : Option ρ) (c : ρ) (t : List ρ) : List ρ :=
  match latest with
  | none => C.insert c t
  | some r => if C.time c - C.time r > gap then C.insert c t else updateWhere C.key (C.key r) (C.retime c) t

def of (p : ω) (t : List ρ) : List ρ := t.filter fun r => C.owner r = p

def times (p : ω) (t : List ρ) : List ℤ := (C.of p t).map C.time

/-- One row for each run of each owner, at the time of its last. -/
def PerRun (gap : ℤ) (t hist : List ρ) : Prop := ∀ p, C.times p t = runEnds gap (C.times p hist)

/-- The rows of other owners are as they were. -/
def OthersKept (p : ω) (t t' : List ρ) : Prop :=
  (t'.filter fun r => C.owner r ≠ p) = t.filter fun r => C.owner r ≠ p

/-- What a look at the latest row of `p` can find: nothing, when it has none or `p` is not looked up; or
    a row of anybody that has the time of a row of `p` and is not earlier than any. -/
inductive Finds (looked : ω → Prop) (t : List ρ) (p : ω) : Option ρ → Prop
  | nobody : (looked p → ∀ s ∈ t, C.owner s ≠ p) → Finds looked t p none
  | row {r : ρ} : r ∈ t → (∃ s ∈ t, C.owner s = p ∧ C.time s = C.time r) →
      (∀ s ∈ t, C.owner s = p → C.time s ≤ C.time r) → Finds looked t p (some r)

/-- The owner of `c` has a row at most `gap` before it. -/
def Near (gap : ℤ) (t : List ρ) (c : ρ) : Prop :=
  ∃ s ∈ t, C.owner s = C.owner c ∧ C.time c - C.time s ≤ gap

/-- When a new row goes right: if it is due its key is new; if it is near, the row found is the owner's,
    or at the very time of the new row. (An owner that is not looked up is only saved by a key that is
    taken.) -/
def Suits (gap : ℤ) (t : List ρ) (latest : Option ρ) (c : ρ) : Prop :=
  (¬ C.Near gap t c → ∀ r ∈ t, C.key r ≠ C.key c) ∧
    (C.Near gap t c →
      match latest with
      | some r => C.owner r = C.owner c ∨ C.time r = C.time c
      | none => (∃ r ∈ t, C.key r = C.key c) ∧
          ∃ s ∈ t, C.owner s = C.owner c ∧ C.time s = C.time c)

variable {C} {gap : ℤ} {t t' hist : List ρ} {c r s : ρ} {p : ω} {latest : Option ρ} {looked : ω → Prop}

/-! ## Single owners -/

theorem mem_of : r ∈ C.of p t ↔ r ∈ t ∧ C.owner r = p := by
  rw [of, List.mem_filter, decide_eq_true_iff]

theorem times_append : C.times p (t ++ t') = C.times p t ++ C.times p t' := by
  rw [times, of, List.filter_append, List.map_append]
  rfl

theorem times_self : C.times (C.owner c) [c] = [C.time c] := by
  simp [times, of]

theorem times_other (h : C.owner c ≠ p) : C.times p [c] = [] := by
  simp [times, of, h]

/-- The rows of an owner are among those that are not of another. -/
theorem OthersKept.times_eq (h : C.OthersKept p t t') {q : ω} (hq : q ≠ p) : C.times q t' = C.times q t := by
  have hof : ∀ u : List ρ, C.of q u = (u.filter fun r => C.owner r ≠ p).filter fun r => C.owner r = q := by
    intro u
    rw [of, List.filter_filter]
    refine List.filter_congr fun r _ => ?_
    by_cases hr : C.owner r = q <;> simp [hr, hq]
  rw [times, times, hof, hof, h]

theorem othersKept_self : C.OthersKept p t t := rfl

theorem othersKept_append : C.OthersKept (C.owner c) t (t ++ [c]) := by
  simp [OthersKept, List.filter_append]

/-- Only the owner of the new row is to be looked at. -/
theorem perRun_concat_iff (h : C.PerRun gap t hist) (hkept : C.OthersKept (C.owner c) t t') :
    C.PerRun gap t' (hist ++ [c]) ↔
      C.times (C.owner c) t' = runEnds gap (C.times (C.owner c) hist ++ [C.time c]) := by
  constructor
  · intro hruns
    rw [hruns (C.owner c), times_append, times_self]
  · intro howner p
    by_cases hp : p = C.owner c
    · subst hp
      rw [howner, times_append, times_self]
    · rw [hkept.times_eq hp, h p, times_append, times_other (Ne.symm hp), List.append_nil]

/-- Something that came needs a row. -/
theorem not_perRun_nil : ¬ C.PerRun gap [] (hist ++ [c]) := by
  intro hruns
  have hlast := getLast?_runEnds gap (C.times (C.owner c) (hist ++ [c]))
  rw [← hruns (C.owner c), times_append, times_self, List.getLast?_concat] at hlast
  exact absurd hlast (by simp [times, of])

/-! ## What is kept -/

/-- Keys are not shared, times are times, and the histories do not go back. -/
structure Kept (C : Columns ρ κ ω) (gap : ℤ) (t hist : List ρ) : Prop where
  runs : C.PerRun gap t hist
  keyed : Keyed C.key t
  ok : ∀ r ∈ t, C.Ok r
  sorted : hist.Pairwise fun r s => C.time r ≤ C.time s

theorem Kept.times_sorted (h : C.Kept gap t hist) : (C.times p hist).Pairwise (· ≤ ·) :=
  List.pairwise_map.mpr (h.sorted.filter _)

/-- Every row has the time of something that came. -/
theorem Kept.mem_hist (h : C.Kept gap t hist) (hr : r ∈ t) :
    ∃ d ∈ hist, C.owner d = C.owner r ∧ C.time d = C.time r := by
  have hmem : C.time r ∈ C.times (C.owner r) t := List.mem_map_of_mem (mem_of.mpr ⟨hr, rfl⟩)
  rw [h.runs] at hmem
  obtain ⟨d, hd, htime⟩ := List.mem_map.mp (mem_of_mem_runEnds hmem)
  obtain ⟨hd, howner⟩ := mem_of.mp hd
  exact ⟨d, hd, howner, htime⟩

/-- The rows of an owner: none; or the last one at the last time of the owner, the others more than `gap`
    before it. -/
theorem Kept.cases_of (h : C.Kept gap t hist) (p : ω) :
    ((C.times p hist).getLast? = none ∧ C.of p t = []) ∨
      ∃ init r, C.of p t = init ++ [r] ∧ (C.times p hist).getLast? = some (C.time r) ∧
        ∀ u ∈ init, C.time u + gap < C.time r := by
  have hruns := h.runs p
  have hlast := getLast?_runEnds gap (C.times p hist)
  rw [← hruns] at hlast
  rcases List.eq_nil_or_concat' (C.of p t) with hnil | ⟨init, r, hinit⟩
  · refine .inl ⟨?_, hnil⟩
    rw [← hlast, times, hnil]
    rfl
  · have htimes : C.times p t = init.map C.time ++ [C.time r] := by
      rw [times, hinit, List.map_append]
      rfl
    refine .inr ⟨init, r, hinit, ?_, fun u hu => ?_⟩
    · rw [← hlast, htimes, List.getLast?_concat]
    · have hpair := runEnds_pairwise gap (h.times_sorted (p := p))
      rw [← hruns, htimes, List.pairwise_append] at hpair
      exact hpair.2.2 (C.time u) (List.mem_map_of_mem hu) (C.time r) (by simp)

variable [DecidableEq κ]

omit [DecidableEq ω] in
theorem slide_some_far (h : gap < C.time c - C.time r) : C.slide gap (some r) c t = C.insert c t :=
  if_pos h

omit [DecidableEq ω] in
theorem slide_some_near (h : C.time c - C.time r ≤ gap) :
    C.slide gap (some r) c t = updateWhere C.key (C.key r) (C.retime c) t :=
  if_neg (Int.not_lt.mpr h)

omit [DecidableEq ω] in
theorem insert_fresh (h : ∀ r ∈ t, C.key r ≠ C.key c) : C.insert c t = t ++ [c] := by
  rw [insert, insertRow_of_fresh h]
  rfl

omit [DecidableEq ω] in
theorem insert_taken (h : ∃ r ∈ t, C.key r = C.key c) : C.insert c t = t := by
  obtain ⟨r, hr, hkey⟩ := h
  cases hinsert : insertRow C.key c t with
  | none => rw [insert, hinsert, Option.getD_none]
  | some t' => exact absurd hkey ((insertRow_eq_some_iff.mp hinsert).1 r hr)

/-- An insertion is right for the owner's next run exactly when the key is new. -/
theorem insert_times_iff :
    C.times (C.owner c) (C.insert c t) = C.times (C.owner c) t ++ [C.time c] ↔
      ∀ r ∈ t, C.key r ≠ C.key c := by
  constructor
  · intro htimes r hr hkey
    rw [insert_taken ⟨r, hr, hkey⟩] at htimes
    have hlength := congrArg List.length htimes
    simp at hlength
  · intro hfresh
    rw [insert_fresh hfresh, times_append, times_self]

theorem othersKept_insert : C.OthersKept (C.owner c) t (C.insert c t) := by
  by_cases hfresh : ∀ r ∈ t, C.key r ≠ C.key c
  · rw [insert_fresh hfresh]
    exact othersKept_append
  · push Not at hfresh
    rw [insert_taken hfresh]
    exact othersKept_self

/-! ## Moving a row -/

omit [DecidableEq ω] in
theorem updateWhere_eq_self_iff {k : κ} {f : ρ → ρ} :
    updateWhere C.key k f t = t ↔ ∀ r ∈ t, C.key r = k → f r = r := by
  rw [updateWhere]
  conv_lhs => rhs; rw [← List.map_id t]
  rw [List.map_inj_left]
  refine forall₂_congr fun r _ => ?_
  split
  · next hkey => exact ⟨fun h _ => h, fun h => h hkey⟩
  · next hkey => exact ⟨fun _ h => absurd h hkey, fun _ => rfl⟩

omit [DecidableEq ω] in
theorem filter_update (q : ω → Bool) (k : κ) :
    (updateWhere C.key k (C.retime c) t).filter (fun r => q (C.owner r)) =
      updateWhere C.key k (C.retime c) (t.filter fun r => q (C.owner r)) := by
  rw [updateWhere, updateWhere, List.filter_map]
  congr 1
  refine List.filter_congr fun r _ => ?_
  rw [Function.comp_apply]
  split
  · rw [C.owner_retime]
  · rfl

omit [DecidableEq ω] in
/-- A row that has the time already is moved nowhere. -/
theorem update_self (hkeyed : Keyed C.key t) (hok : ∀ r ∈ t, C.Ok r) (hc : C.Ok c) (hr : r ∈ t)
    (htime : C.time c = C.time r) : updateWhere C.key (C.key r) (C.retime c) t = t := by
  rw [updateWhere_eq_self_iff]
  intro s hs hkey
  obtain rfl : s = r := List.inj_on_of_nodup_map hkeyed hs hr hkey
  exact C.retime_self hc (hok s hs) htime

/-- Moving another owner's row shows, unless it has the time already. -/
theorem update_other (hr : r ∈ t) (howner : C.owner r ≠ p)
    (hkept : C.OthersKept p t (updateWhere C.key (C.key r) (C.retime c) t)) : C.time r = C.time c := by
  rw [OthersKept, filter_update fun q => q ≠ p, updateWhere_eq_self_iff] at hkept
  have hself := hkept r (List.mem_filter.mpr ⟨hr, decide_eq_true howner⟩) rfl
  rw [← C.time_retime c r, hself]

/-- Moving the last row of the owner. -/
theorem update_last {init : List ρ} (hkeyed : Keyed C.key t) (hof : C.of (C.owner c) t = init ++ [r]) :
    C.times (C.owner c) (updateWhere C.key (C.key r) (C.retime c) t) = init.map C.time ++ [C.time c] ∧
      C.OthersKept (C.owner c) t (updateWhere C.key (C.key r) (C.retime c) t) := by
  have hmem : ∀ s ∈ init ++ [r], s ∈ t ∧ C.owner s = C.owner c := fun s hs =>
    mem_of.mp (hof ▸ hs)
  obtain ⟨hr, howner⟩ := hmem r (by simp)
  constructor
  · have hnodup : ((init ++ [r]).map C.key).Nodup := by
      rw [← hof]
      exact hkeyed.sublist (List.filter_sublist.map C.key)
    have hinit : updateWhere C.key (C.key r) (C.retime c) init = init := by
      rw [updateWhere_eq_self_iff]
      intro s hs hkey
      rw [List.map_append, List.nodup_append] at hnodup
      exact absurd hkey (hnodup.2.2 _ (List.mem_map_of_mem hs) _ (by simp))
    have hupdate :
        C.of (C.owner c) (updateWhere C.key (C.key r) (C.retime c) t) = init ++ [C.retime c r] := by
      rw [of, filter_update fun q => q = C.owner c, ← of, hof]
      conv_rhs => rw [← hinit]
      simp [updateWhere]
    rw [times, hupdate, List.map_append, List.map_singleton, C.time_retime]
  · rw [OthersKept, filter_update fun q => q ≠ C.owner c, updateWhere_eq_self_iff]
    intro s hs hkey
    obtain ⟨hs, hother⟩ := List.mem_filter.mp hs
    obtain rfl : s = r := List.inj_on_of_nodup_map hkeyed hs hr hkey
    exact absurd howner (of_decide_eq_true hother)

/-! ## One row -/

omit [DecidableEq ω] in
/-- A row that is not near is inserted, whatever was found. -/
theorem slide_of_far (hfinds : C.Finds looked t (C.owner c) latest) (hfar : ¬ C.Near gap t c) :
    C.slide gap latest c t = C.insert c t := by
  cases hfinds with
  | nobody => rfl
  | @row r _ hshared _ =>
      obtain ⟨s, hs, howner, htime⟩ := hshared
      refine slide_some_far ?_
      by_contra hnear
      exact hfar ⟨s, hs, howner, by omega⟩

theorem slide_far_iff (h : C.Kept gap t hist) (hfinds : C.Finds looked t (C.owner c) latest)
    (hfar : ¬ C.Near gap t c) :
    (C.PerRun gap (C.slide gap latest c t) (hist ++ [c]) ∧
        C.OthersKept (C.owner c) t (C.slide gap latest c t)) ↔ ∀ r ∈ t, C.key r ≠ C.key c := by
  have hlast : ∀ m ∈ (C.times (C.owner c) hist).getLast?, gap < C.time c - m := by
    intro m hm
    rcases h.cases_of (C.owner c) with ⟨hnone, -⟩ | ⟨init, r, hof, hlast, -⟩
    · exact absurd (hnone.symm.trans hm) (by simp)
    · obtain rfl := Option.some.inj (hlast.symm.trans hm)
      obtain ⟨hr, howner⟩ := mem_of.mp (hof ▸ List.mem_append_right init (List.mem_singleton.mpr rfl))
      by_contra hnear
      exact hfar ⟨r, hr, howner, by omega⟩
  rw [slide_of_far hfinds hfar, perRun_concat_iff h.runs othersKept_insert, runEnds_far hlast, ← h.runs,
    insert_times_iff]
  exact and_iff_left othersKept_insert

/-- **One new row.** Afterwards there is one row for each run, and the rows of others are as they were,
    exactly if the row goes right. -/
theorem slide_iff (hgap : 0 ≤ gap) (h : C.Kept gap t hist) (hc : C.Ok c)
    (htimely : ∀ d ∈ hist, C.time d ≤ C.time c) (hfinds : C.Finds looked t (C.owner c) latest) :
    (C.PerRun gap (C.slide gap latest c t) (hist ++ [c]) ∧
        C.OthersKept (C.owner c) t (C.slide gap latest c t)) ↔ C.Suits gap t latest c := by
  by_cases hnear : ¬ C.Near gap t c
  · rw [slide_far_iff h hfinds hnear]
    exact ⟨fun hfresh => ⟨fun _ => hfresh, fun h => absurd h hnear⟩, fun hsuits => hsuits.1 hnear⟩
  rw [not_not] at hnear
  obtain ⟨s, hs, hsowner, hsnear⟩ := hnear
  have hnow : ∀ u ∈ t, C.time u ≤ C.time c := by
    intro u hu
    obtain ⟨d, hd, -, htime⟩ := h.mem_hist hu
    exact htime ▸ htimely d hd
  obtain ⟨init, r, hof, hlast, hinit⟩ : ∃ init r, C.of (C.owner c) t = init ++ [r] ∧
      (C.times (C.owner c) hist).getLast? = some (C.time r) ∧ ∀ u ∈ init, C.time u + gap < C.time r := by
    rcases h.cases_of (C.owner c) with ⟨-, hnil⟩ | hsome
    · exact absurd (mem_of.mpr ⟨hs, hsowner⟩) (hnil ▸ List.not_mem_nil)
    · exact hsome
  obtain ⟨hr, hrowner⟩ := mem_of.mp (hof ▸ List.mem_append_right init (List.mem_singleton.mpr rfl))
  -- the last row of the owner is his latest
  have hlatest : ∀ u ∈ t, C.owner u = C.owner c → u = r ∨ C.time u + gap < C.time r := by
    intro u hu howner
    have hmem : u ∈ init ++ [r] := hof ▸ mem_of.mpr ⟨hu, howner⟩
    rcases List.mem_append.mp hmem with hu' | hu'
    · exact .inr (hinit u hu')
    · exact .inl (List.mem_singleton.mp hu')
  have hrnear : C.time c - C.time r ≤ gap := by
    rcases hlatest s hs hsowner with rfl | hlt
    · exact hsnear
    · omega
  have hnear : C.Near gap t c := ⟨r, hr, hrowner, hrnear⟩
  have htimes : C.times (C.owner c) t = init.map C.time ++ [C.time r] := by
    rw [times, hof, List.map_append, List.map_singleton]
  have hends : runEnds gap (C.times (C.owner c) hist ++ [C.time c]) = init.map C.time ++ [C.time c] := by
    rw [runEnds_near hlast hrnear, ← h.runs, htimes, List.dropLast_concat]
  have hself : C.PerRun gap t (hist ++ [c]) ↔ C.time r = C.time c := by
    rw [perRun_concat_iff h.runs othersKept_self, hends, htimes]
    simp
  cases hfinds with
  | nobody =>
      by_cases hfresh : ∀ u ∈ t, C.key u ≠ C.key c
      · -- a second row of the run
        refine iff_of_false (fun hright => ?_) fun hsuits => ?_
        · have hruns := (perRun_concat_iff h.runs othersKept_insert).mp hright.1
          rw [insert_times_iff.mpr hfresh, hends, htimes] at hruns
          have hlength := congrArg List.length hruns
          simp at hlength
        · obtain ⟨⟨u, hu, hkey⟩, -⟩ := hsuits.2 hnear
          exact hfresh u hu hkey
      · push Not at hfresh
        show (C.PerRun gap (C.insert c t) _ ∧ C.OthersKept _ t (C.insert c t)) ↔ _
        rw [insert_taken hfresh, hself]
        constructor
        · rintro ⟨htime, -⟩
          exact ⟨fun h => absurd hnear h, fun _ => ⟨hfresh, r, hr, hrowner, htime⟩⟩
        · intro hsuits
          obtain ⟨-, u, hu, howner, htime⟩ := hsuits.2 hnear
          refine ⟨?_, othersKept_self⟩
          rcases hlatest u hu howner with rfl | hlt
          · exact htime
          · have hle := hnow r hr
            omega
  | @row q hq hshared hmax =>
      have hqr : C.time q = C.time r := by
        obtain ⟨u, hu, howner, htime⟩ := hshared
        have hle := hmax r hr hrowner
        rcases hlatest u hu howner with rfl | hlt
        · exact htime.symm
        · omega
      have hslide : C.slide gap (some q) c t = updateWhere C.key (C.key q) (C.retime c) t :=
        slide_some_near (by omega)
      have hsuits : C.Suits gap t (some q) c ↔ C.owner q = C.owner c ∨ C.time q = C.time c :=
        ⟨fun h => h.2 hnear, fun h => ⟨fun hfar => absurd hnear hfar, fun _ => h⟩⟩
      rw [hslide, hsuits]
      by_cases howner : C.owner q = C.owner c
      · -- the owner's own row is moved
        obtain rfl : q = r := by
          rcases hlatest q hq howner with heq | hlt
          · exact heq
          · omega
        obtain ⟨hmoved, hkept⟩ := update_last h.keyed hof
        refine iff_of_true ⟨?_, hkept⟩ (.inl howner)
        rw [perRun_concat_iff h.runs hkept, hmoved, hends]
      · by_cases htime : C.time q = C.time c
        · rw [update_self h.keyed h.ok hc hq htime.symm, hself, ← hqr]
          exact iff_of_true ⟨htime, othersKept_self⟩ (.inr htime)
        · refine iff_of_false (fun hright => htime (update_other hq howner hright.2)) ?_
          exact fun h => h.elim howner htime

omit [DecidableEq ω] in
theorem keyed_insert (h : Keyed C.key t) : Keyed C.key (C.insert c t) := by
  rw [insert]
  cases hinsert : insertRow C.key c t with
  | none => exact h
  | some t' => exact h.insert hinsert

/-- What a new row keeps, right or not. -/
theorem Kept.slide (h : C.Kept gap t hist) (hc : C.Ok c) (htimely : ∀ d ∈ hist, C.time d ≤ C.time c)
    (hruns : C.PerRun gap (C.slide gap latest c t) (hist ++ [c])) :
    C.Kept gap (C.slide gap latest c t) (hist ++ [c]) := by
  have hinsert_ok : ∀ r ∈ C.insert c t, C.Ok r := by
    by_cases hfresh : ∀ r ∈ t, C.key r ≠ C.key c
    · rw [insert_fresh hfresh]
      intro r hr
      rcases List.mem_append.mp hr with hr | hr
      · exact h.ok r hr
      · exact List.mem_singleton.mp hr ▸ hc
    · push Not at hfresh
      rw [insert_taken hfresh]
      exact h.ok
  have hsorted : (hist ++ [c]).Pairwise fun r s => C.time r ≤ C.time s := by
    rw [List.pairwise_append]
    refine ⟨h.sorted, List.pairwise_singleton _ c, fun d hd e he => ?_⟩
    exact List.mem_singleton.mp he ▸ htimely d hd
  have hkeyed_ok : Keyed C.key (C.slide gap latest c t) ∧ ∀ r ∈ C.slide gap latest c t, C.Ok r := by
    unfold Columns.slide
    split
    · exact ⟨keyed_insert h.keyed, hinsert_ok⟩
    · split
      · exact ⟨keyed_insert h.keyed, hinsert_ok⟩
      · refine ⟨h.keyed.update (C.key_retime c), fun r hr => ?_⟩
        obtain ⟨s, hs, rfl⟩ := mem_updateWhere.mp hr
        split
        · exact C.ok_retime hc
        · exact h.ok s hs
  exact ⟨hruns, hkeyed_ok.1, hkeyed_ok.2, hsorted⟩

end Columns

end SmartPlat.Lib
