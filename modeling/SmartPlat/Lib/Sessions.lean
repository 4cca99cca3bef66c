import Mathlib.Data.Int.Notation
import Mathlib.Data.List.Induction
import Mathlib.Data.List.SplitBy
import Mathlib.Tactic.Common

set_option autoImplicit false

/-! # Sessions and maximal runs of events

Events come in time order. An event opens a session unless the last session was opened no more than
`gap` before it; then it belongs to that one. `sessions gap ts` lists the opening times. Sessions are
opened more than `gap` apart, and every event belongs to exactly one. -/

namespace SmartPlat.Lib

def addEvent (gap : ℤ) (starts : List ℤ) (t : ℤ) : List ℤ :=
  match starts.getLast? with
  | none => starts ++ [t]
  | some s => if gap < t - s then starts ++ [t] else starts

def sessions (gap : ℤ) (ts : List ℤ) : List ℤ := ts.foldl (addEvent gap) []

variable {gap : ℤ} {ts starts : List ℤ} {t : ℤ}

@[simp] theorem sessions_nil (gap : ℤ) : sessions gap [] = [] := rfl

@[simp] theorem sessions_snoc (ts : List ℤ) (t : ℤ) :
    sessions gap (ts ++ [t]) = addEvent gap (sessions gap ts) t := by
  simp [sessions]

theorem addEvent_of_far (h : ∀ s, starts.getLast? = some s → gap < t - s) :
    addEvent gap starts t = starts ++ [t] := by
  unfold addEvent
  split
  · rfl
  · next s hs => rw [if_pos (h s hs)]

theorem addEvent_of_near {s : ℤ} (hs : starts.getLast? = some s) (h : t - s ≤ gap) :
    addEvent gap starts t = starts := by
  rw [addEvent, hs]
  exact if_neg (by omega)

/-- Openings grow, so the last is the latest. -/
theorem le_getLast {s : ℤ} (hp : starts.Pairwise fun s s' => s + gap < s') (hgap : 0 ≤ gap)
    (hs : starts.getLast? = some s) : ∀ s' ∈ starts, s' ≤ s := by
  obtain ⟨init, rfl⟩ := List.getLast?_eq_some_iff.1 hs
  intro s' hs'
  rcases List.mem_append.1 hs' with hin | hlast
  · have := (List.pairwise_append.1 hp).2.2 s' hin s (by simp)
    omega
  · exact Int.le_of_eq (List.mem_singleton.1 hlast)

theorem mem_sessions (h : t ∈ sessions gap ts) : t ∈ ts := by
  induction ts using List.reverseRecOn with
  | nil => simp at h
  | append_singleton ts e ih =>
      rw [sessions_snoc, addEvent] at h
      split at h
      · rcases List.mem_append.1 h with h | h
        · exact List.mem_append_left _ (ih h)
        · exact List.mem_append_right _ h
      · split at h
        · rcases List.mem_append.1 h with h | h
          · exact List.mem_append_left _ (ih h)
          · exact List.mem_append_right _ h
        · exact List.mem_append_left _ (ih h)

/-- Sessions are opened more than `gap` apart. -/
theorem sessions_pairwise (hgap : 0 ≤ gap) :
    (sessions gap ts).Pairwise fun s s' => s + gap < s' := by
  induction ts using List.reverseRecOn with
  | nil => exact List.Pairwise.nil
  | append_singleton ts t ih =>
      rw [sessions_snoc]
      cases hlast : (sessions gap ts).getLast? with
      | none =>
          rw [List.getLast?_eq_none_iff] at hlast
          simp [hlast, addEvent]
      | some s =>
          by_cases hfar : gap < t - s
          · rw [addEvent_of_far (fun s' hs' => by
              rw [hlast] at hs'; obtain rfl := Option.some.inj hs'; exact hfar)]
            refine List.pairwise_append.2 ⟨ih, List.pairwise_singleton _ _, fun s' hs' t' ht' => ?_⟩
            obtain rfl := List.mem_singleton.1 ht'
            have := le_getLast ih hgap hlast s' hs'
            omega
          · rw [addEvent_of_near hlast (by omega)]
            exact ih

/-- Every event lies within `gap` of the opening of some session. -/
theorem exists_session (hgap : 0 ≤ gap) (hts : ts.Pairwise (· ≤ ·)) (ht : t ∈ ts) :
    ∃ s ∈ sessions gap ts, s ≤ t ∧ t ≤ s + gap := by
  induction ts using List.reverseRecOn with
  | nil => simp at ht
  | append_singleton ts e ih =>
      obtain ⟨hts', -, hlate⟩ := List.pairwise_append.1 hts
      have hkeep : ∀ s ∈ sessions gap ts, s ∈ sessions gap (ts ++ [e]) := by
        intro s hs
        rw [sessions_snoc, addEvent]
        split
        · exact List.mem_append_left _ hs
        · split
          · exact List.mem_append_left _ hs
          · exact hs
      rcases List.mem_append.1 ht with ht | ht
      · obtain ⟨s, hs, hst⟩ := ih hts' ht
        exact ⟨s, hkeep s hs, hst⟩
      · obtain rfl := List.mem_singleton.1 ht
        cases hlast : (sessions gap ts).getLast? with
        | none =>
            refine ⟨t, ?_, Int.le_refl t, by omega⟩
            rw [sessions_snoc, addEvent, hlast]
            simp
        | some s =>
            have hs := List.mem_of_getLast? hlast
            have hle := hlate s (mem_sessions hs) t (by simp)
            by_cases hfar : gap < t - s
            · refine ⟨t, ?_, Int.le_refl t, by omega⟩
              rw [sessions_snoc, addEvent, hlast]
              simp [hfar]
            · exact ⟨s, hkeep s hs, hle, by omega⟩

/-- Two sessions cannot both lie within `gap` of one event. -/
theorem session_unique (hp : starts.Pairwise fun s s' => s + gap < s') {s s' : ℤ} (hs : s ∈ starts)
    (hs' : s' ∈ starts) (h : s ≤ t ∧ t ≤ s + gap) (h' : s' ≤ t ∧ t ≤ s' + gap) : s = s' := by
  obtain ⟨i, hi, rfl⟩ := List.mem_iff_getElem.1 hs
  obtain ⟨j, hj, rfl⟩ := List.mem_iff_getElem.1 hs'
  rcases Nat.lt_trichotomy i j with hij | rfl | hji
  · have := List.pairwise_iff_getElem.1 hp i j hi hj hij
    omega
  · rfl
  · have := List.pairwise_iff_getElem.1 hp j i hj hi hji
    omega

/-! ## Maximal runs of times

A list of times falls apart into its maximal runs in which each time comes at most `gap` after the one
before it. `runEnds` lists the last time of each run. -/

variable {gap t s : ℤ} {ts : List ℤ}

/-- The two times belong to one run when they come one after the other. -/
def near (gap : ℤ) (s t : ℤ) : Bool := t - s ≤ gap

def runEnds (gap : ℤ) (ts : List ℤ) : List ℤ := (ts.splitBy (near gap)).filterMap List.getLast?

@[simp]
theorem runEnds_nil : runEnds gap [] = [] := rfl

/-- The runs end as the list does. -/
theorem splitBy_concat (gap : ℤ) (hts : ts.getLast? = some s) :
    ∃ runs run, ts.splitBy (near gap) = runs ++ [run] ∧ run.getLast? = some s := by
  have hne : ts ≠ [] := by
    rintro rfl
    simp at hts
  obtain ⟨runs, run, hruns⟩ : ∃ runs run, ts.splitBy (near gap) = runs ++ [run] := by
    rcases List.eq_nil_or_concat' (ts.splitBy (near gap)) with h | h
    · exact absurd (List.splitBy_eq_nil.mp h) hne
    · exact h
  refine ⟨runs, run, hruns, ?_⟩
  have hrun : run ≠ [] := List.ne_nil_of_mem_splitBy (by rw [hruns]; simp)
  have hflatten := List.flatten_splitBy (near gap) ts
  rw [hruns, List.flatten_append, List.flatten_singleton] at hflatten
  rw [← hts, ← hflatten, List.getLast?_append_of_ne_nil _ hrun]

theorem getLast?_runEnds (gap : ℤ) (ts : List ℤ) : (runEnds gap ts).getLast? = ts.getLast? := by
  cases hts : ts.getLast? with
  | none =>
      rw [List.getLast?_eq_none_iff] at hts
      rw [hts]
      rfl
  | some s =>
      obtain ⟨runs, run, hruns, hrun⟩ := splitBy_concat gap hts
      rw [runEnds, hruns, List.filterMap_append, List.filterMap_cons_some hrun, List.filterMap_nil,
        List.getLast?_concat]

/-- A time further away begins a run. -/
theorem runEnds_far (h : ∀ s ∈ ts.getLast?, gap < t - s) :
    runEnds gap (ts ++ [t]) = runEnds gap ts ++ [t] := by
  rw [runEnds, List.splitBy_append, List.filterMap_append]
  · rfl
  · intro s hs u hu
    obtain rfl : t = u := by simpa using hu
    have hfar := h s hs
    exact decide_eq_false (Int.not_le.mpr hfar)

/-- A time that is near moves the end of the last run. -/
theorem runEnds_near (hts : ts.getLast? = some s) (h : t - s ≤ gap) :
    runEnds gap (ts ++ [t]) = (runEnds gap ts).dropLast ++ [t] := by
  obtain ⟨runs, run, hruns, hrun⟩ := splitBy_concat gap hts
  obtain ⟨hflatten, hnil, hchain, hbetween⟩ := List.splitBy_eq_iff.mp hruns
  have hsplit : (ts ++ [t]).splitBy (near gap) = runs ++ [run ++ [t]] := by
    rw [List.splitBy_eq_iff]
    refine ⟨?_, ?_, ?_, ?_⟩
    · rw [hflatten]
      simp
    · simp only [List.mem_append, List.mem_singleton, not_or] at hnil ⊢
      exact ⟨hnil.1, by simp⟩
    · intro m hm
      rcases List.mem_append.mp hm with hm | hm
      · exact hchain m (List.mem_append_left _ hm)
      · obtain rfl := List.mem_singleton.mp hm
        rw [List.isChain_append]
        refine ⟨hchain run (by simp), List.isChain_singleton t, fun x hx y hy => ?_⟩
        obtain rfl : s = x := Option.some.inj (hrun.symm.trans hx)
        obtain rfl : t = y := by simpa using hy
        exact decide_eq_true h
    · rw [List.isChain_append] at hbetween ⊢
      refine ⟨hbetween.1, List.isChain_singleton _, fun x hx y hy => ?_⟩
      obtain ⟨hx', hrun', hfar⟩ := hbetween.2.2 x hx run (by simp)
      obtain rfl : run ++ [t] = y := by simpa using hy
      exact ⟨hx', by simp, by rwa [List.head_append_of_ne_nil]⟩
  rw [runEnds, hsplit, runEnds, hruns, List.filterMap_append, List.filterMap_append,
    List.filterMap_cons_some (List.getLast?_concat ..), List.filterMap_cons_some hrun,
    List.filterMap_nil, List.dropLast_concat]

theorem mem_of_mem_runEnds (h : t ∈ runEnds gap ts) : t ∈ ts := by
  obtain ⟨run, hrun, hlast⟩ := List.mem_filterMap.mp h
  rw [← List.flatten_splitBy (near gap) ts]
  exact List.mem_flatten.mpr ⟨run, hrun, List.mem_of_getLast? hlast⟩

/-- In times that do not go back, runs end more than `gap` apart. -/
theorem runEnds_pairwise (gap : ℤ) (hsorted : ts.Pairwise (· ≤ ·)) :
    (runEnds gap ts).Pairwise fun s t => s + gap < t := by
  induction ts using List.reverseRecOn with
  | nil => exact List.Pairwise.nil
  | append_singleton ts t ih =>
      obtain ⟨hsorted', -, hle⟩ := List.pairwise_append.mp hsorted
      have ih := ih hsorted'
      cases hts : ts.getLast? with
      | none =>
          rw [List.getLast?_eq_none_iff] at hts
          rw [hts]
          exact List.pairwise_singleton _ t
      | some s =>
          have hst : s ≤ t := hle s (List.mem_of_getLast? hts) t (by simp)
          obtain ⟨init, hinit⟩ := List.getLast?_eq_some_iff.mp ((getLast?_runEnds gap ts).trans hts)
          rw [hinit, List.pairwise_append] at ih
          by_cases h : t - s ≤ gap
          · rw [runEnds_near hts h, hinit, List.dropLast_concat, List.pairwise_append]
            refine ⟨ih.1, List.pairwise_singleton _ t, fun x hx y hy => ?_⟩
            obtain rfl := List.mem_singleton.mp hy
            have hlt := ih.2.2 x hx s (by simp)
            omega
          · have hfar : ∀ u ∈ ts.getLast?, gap < t - u := by
              intro u hu
              obtain rfl : s = u := Option.some.inj (hts.symm.trans hu)
              omega
            rw [runEnds_far hfar, hinit, List.pairwise_append]
            refine ⟨List.pairwise_append.mpr ih, List.pairwise_singleton _ t, fun x hx y hy => ?_⟩
            obtain rfl := List.mem_singleton.mp hy
            rcases List.mem_append.mp hx with hx | hx
            · have hlt := ih.2.2 x hx s (by simp)
              omega
            · obtain rfl := List.mem_singleton.mp hx
              omega

end SmartPlat.Lib
