import SmartPlat.AlarmManage.Proofs.Dispatch
import Mathlib.Data.Int.Order.Basic

set_option autoImplicit false

/-! # How full the alarm queue gets

The counter follows the list through every step. The limit is tested with `>` before the alarm is
appended, so that the queue takes one alarm more than `MAX_PUSHMSG_NUM` before it drops any. -/

namespace SmartPlat.AlarmManage

open SmartPlat.Lib

variable {s s' : AlarmState} {e : AlarmEvent} {info : AlarmInfo} {addr : ℕ}

/-! ## The queue after a step -/

/-- An `AlarmMsgInput` appends; with more than the limit counted it drops the head first, if there is one. -/
theorem input_cases (h : AlarmStep s (.input info addr) s') :
    (s.msgnum > maxPushmsgNum ∧ s.headlist = [] ∧ s' = s) ∨
    (s.msgnum > maxPushmsgNum ∧ s.headlist ≠ [] ∧ s'.msgnum = s.msgnum ∧
      s'.headlist = s.headlist.tail ++ [⟨addr, s.accepted.length, info⟩]) ∨
    (s.msgnum ≤ maxPushmsgNum ∧ s'.msgnum = s.msgnum + 1 ∧
      s'.headlist = s.headlist ++ [⟨addr, s.accepted.length, info⟩]) := by
  obtain ⟨⟨code, s₂⟩, hin, rfl⟩ := Option.map_eq_some_iff.1 h
  unfold alarmMsgInput AlarmState.makeRoom at hin
  by_cases hfull : s.msgnum > maxPushmsgNum
  · rw [if_pos hfull] at hin
    cases hlist : s.headlist with
    | nil =>
        rw [hlist] at hin
        cases hin
        exact .inl ⟨hfull, rfl, rfl⟩
    | cons msg rest =>
        have herase : eraseFirst AlarmMsg.addr msg.addr (msg :: rest) = rest :=
          List.eraseP_cons_of_pos (by simp)
        rw [hlist] at hin
        simp only [List.head?_cons, Option.map_some, herase] at hin
        split at hin
        · cases hin
        · cases hin
          refine .inr (.inl ⟨hfull, List.cons_ne_nil _ _, ?_, rfl⟩)
          exact Int.sub_add_cancel _ _
  · rw [if_neg hfull] at hin
    simp only at hin
    split at hin
    · cases hin
    · cases hin
      exact .inr (.inr ⟨Int.not_lt.1 hfull, rfl, rfl⟩)

/-- The steps of the thread take at most one alarm out of the queue. -/
theorem thread_cases (he : e.OfThread) (h : AlarmStep s e s') :
    (s'.headlist = s.headlist ∧ s'.msgnum = s.msgnum) ∨
    ∃ msg found : AlarmMsg, lookup AlarmMsg.addr msg.addr s.headlist = some found ∧
      s'.headlist = eraseFirst AlarmMsg.addr msg.addr s.headlist ∧ s'.msgnum = s.msgnum - 1 := by
  cases e with
  | input info addr => exact he.elim
  | msgOut =>
      simp only [AlarmStep, alarmStep] at h
      split at h
      · split at h <;> cases h <;> exact .inl ⟨rfl, rfl⟩
      · cases h
  | postLoop count =>
      simp only [AlarmStep, alarmStep] at h
      split at h <;> cases h
      exact .inl ⟨rfl, rfl⟩
  | callback =>
      simp only [AlarmStep, alarmStep] at h
      split at h <;> cases h
      exact .inl ⟨rfl, rfl⟩
  | msgDel =>
      simp only [AlarmStep, alarmStep] at h
      split at h
      · next msg hpc =>
          cases h
          cases hfound : lookup AlarmMsg.addr msg.addr s.headlist with
          | none =>
              rw [alarmMsgDel, hfound]
              exact .inl ⟨rfl, rfl⟩
          | some found =>
              refine .inr ⟨msg, found, hfound, ?_⟩
              rw [alarmMsgDel, hfound]
              exact ⟨rfl, rfl⟩
      · cases h

theorem length_eraseFirst_of_found {l : List AlarmMsg} {addr : ℕ} {found : AlarmMsg}
    (h : lookup AlarmMsg.addr addr l = some found) :
    (eraseFirst AlarmMsg.addr addr l).length + 1 = l.length := by
  obtain ⟨l₁, l₂, hl, -, -, herase⟩ := exists_of_lookup h
  rw [herase, hl]
  simp only [List.length_append, List.length_cons]
  omega

/-! ## The counter -/

theorem counted_step (hcount : s.msgnum = s.headlist.length) (h : AlarmStep s e s') :
    s'.msgnum = s'.headlist.length := by
  by_cases he : e.OfThread
  · rcases thread_cases he h with ⟨hlist, hnum⟩ | ⟨msg, found, hfound, hlist, hnum⟩
    · rw [hlist, hnum, hcount]
    · have hlength := length_eraseFirst_of_found hfound
      rw [hlist, hnum, hcount]
      omega
  · cases e with
    | input info addr =>
        rcases input_cases h with ⟨-, -, rfl⟩ | ⟨-, hne, hnum, hlist⟩ | ⟨-, hnum, hlist⟩
        · exact hcount
        · have hpos := List.length_pos_iff.2 hne
          rw [hnum, hlist, hcount, List.length_append, List.length_tail, List.length_singleton]
          omega
        · rw [hnum, hlist, hcount, List.length_append, List.length_singleton, Int.natCast_add,
            Int.natCast_one]
    | msgOut | postLoop | callback | msgDel => exact absurd trivial he

/-- The thread only takes alarms out. -/
theorem msgnum_le_of_thread (he : e.OfThread) (h : AlarmStep s e s') : s'.msgnum ≤ s.msgnum := by
  rcases thread_cases he h with ⟨-, hnum⟩ | ⟨-, -, -, -, hnum⟩ <;> omega

/-- **One more than the limit.** In every state of a run the counter is the length of the queue, which is
    never more than one above the limit; and the input that would exceed that drops exactly the oldest
    alarm and keeps the others in their order. -/
theorem alarm_queue {tr : List AlarmEvent} (h : Run AlarmStep .init tr s) :
    (s.msgnum = s.headlist.length ∧ s.msgnum ≤ maxPushmsgNum + 1) ∧
      (s.msgnum > maxPushmsgNum → AlarmStep s (.input info addr) s' →
        s'.headlist = s.headlist.tail ++ [⟨addr, s.accepted.length, info⟩]) := by
  have hinv : s.msgnum = s.headlist.length ∧ s.msgnum ≤ maxPushmsgNum + 1 := by
    refine h.stateInvariant (fun s => s.msgnum = s.headlist.length ∧ s.msgnum ≤ maxPushmsgNum + 1)
      ⟨rfl, by decide⟩ ?_
    intro s e s' ⟨hcount, hle⟩ hs
    refine ⟨counted_step hcount hs, ?_⟩
    by_cases he : e.OfThread
    · exact Int.le_trans (msgnum_le_of_thread he hs) hle
    · cases e with
      | input info addr =>
          rcases input_cases hs with ⟨-, -, rfl⟩ | ⟨-, -, hnum, -⟩ | ⟨hroom, hnum, -⟩ <;> omega
      | msgOut | postLoop | callback | msgDel => exact absurd trivial he
  refine ⟨hinv, fun hfull hs => ?_⟩
  rcases input_cases hs with ⟨-, hempty, -⟩ | ⟨-, -, -, hlist⟩ | ⟨hroom, -, -⟩
  · rw [hempty] at hinv
    rw [hinv.1] at hfull
    exact absurd hfull (by decide)
  · exact hlist
  · omega

/-! ## The limit -/

/-- What a step has to leave: the counter right and within the limit; and an input on a full queue has
    dropped the oldest alarm and kept the others in their order. -/
structure Bounded (s : AlarmState) (e : AlarmEvent) (s' : AlarmState) : Prop where
  counted : s'.msgnum = s'.headlist.length
  limit : s'.msgnum ≤ maxPushmsgNum
  oldest : ∀ info addr, e = .input info addr → maxPushmsgNum ≤ s.headlist.length →
    s'.headlist = s.headlist.tail ++ [⟨addr, s.accepted.length, info⟩]

/-- An `AlarmMsgInput` comes with fewer alarms queued than the limit. -/
def HasRoom (s : AlarmState) : AlarmEvent → Prop
  | .input _ _ => (s.headlist.length : ℤ) < maxPushmsgNum
  | _ => True

/-- **The queue keeps to its limit** through a run, for any number of inputs and dispatches in any order,
    exactly when no input finds as many alarms in it as the limit allows. -/
theorem alarm_queue_bounded_iff {tr : List AlarmEvent} {s : AlarmState} :
    Run (stepThat Bounded AlarmStep) .init tr s ↔ Run (stepWhen HasRoom AlarmStep) .init tr s := by
  refine Run.each_iff (fun s => s.msgnum = s.headlist.length ∧ s.msgnum ≤ maxPushmsgNum)
    ⟨rfl, by decide⟩ ?_ ?_
  · intro s e s' ⟨hcount, hle⟩ hroom hs
    have hcount' := counted_step hcount hs
    suffices hle' : s'.msgnum ≤ maxPushmsgNum by
      refine ⟨⟨hcount', hle'⟩, hcount', hle', ?_⟩
      rintro info addr rfl hfull
      exact absurd hroom (not_lt.2 hfull)
    by_cases he : e.OfThread
    · exact Int.le_trans (msgnum_le_of_thread he hs) hle
    · cases e with
      | input info addr =>
          have hlt : (s.headlist.length : ℤ) < maxPushmsgNum := hroom
          rcases input_cases hs with ⟨-, -, rfl⟩ | ⟨hfull, -, -, -⟩ | ⟨-, hnum, -⟩ <;> omega
      | msgOut | postLoop | callback | msgDel => exact absurd trivial he
  · intro s e s' ⟨hcount, hle⟩ hfull hs hgood
    cases e with
    | input info addr =>
        -- the alarm is the one too many
        have hge : maxPushmsgNum ≤ (s.headlist.length : ℤ) := not_lt.1 hfull
        have hlimit := hgood.limit
        rcases input_cases hs with ⟨hgt, -, -⟩ | ⟨hgt, -, -, -⟩ | ⟨-, hnum, -⟩ <;> omega
    | msgOut | postLoop | callback | msgDel => exact hfull trivial

/-- 201 alarms in a row, and the counter is above the limit. -/
theorem queue_above_limit :
    ∃ tr s, Run AlarmStep .init tr s ∧ s.msgnum = 201 ∧ ¬ s.msgnum ≤ maxPushmsgNum :=
  ⟨_, filledQueue 201, run_inputs (Nat.le_refl 201), rfl, by decide⟩

end SmartPlat.AlarmManage
