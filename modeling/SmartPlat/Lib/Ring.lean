import SmartPlat.Lib.LinkedList

set_option autoImplicit false

/-! # Rings

A circular list: the last cell points to the head again, and the head back to the last cell. As for lists that
end, a change is described by what the new links are. -/

namespace SmartPlat.Lib

variable {α : Type*} {next prev next' prev' : α → Option α} {a b c head n : α} {as r : List α}

/-- The cells behind `head` are `as`, in this order, and behind them comes `head` again. -/
structure IsRing (next prev : α → Option α) (head : α) (as : List α) : Prop where
  nodup : (head :: as).Nodup
  seg : Seg next prev head as (some head)
  back : prev head = some (as.getLastD head)

theorem isRing_nil (hnext : next head = some head) (hprev : prev head = some head) : IsRing next prev head [] :=
  ⟨List.nodup_singleton head, hnext, hprev⟩

theorem IsRing.congr (h : IsRing next prev head as) (hnext : ∀ c ∈ head :: as, next' c = next c)
    (hprev : ∀ c ∈ head :: as, prev' c = prev c) : IsRing next' prev' head as where
  nodup := h.nodup
  seg := h.seg.congr hnext fun c hc => hprev c (List.mem_cons_of_mem head hc)
  back := (hprev head List.mem_cons_self).trans h.back

/-! ## Putting a cell in front of the head -/

/-- What the links are after `n` has been put between the last cell and the head. -/
structure PutLast (next prev next' prev' : α → Option α) (head last n : α) : Prop where
  next_last : next' last = some n
  next_new : next' n = some head
  prev_new : prev' n = some last
  prev_head : prev' head = some n
  next_other : ∀ c, c ≠ last → c ≠ n → next' c = next c
  prev_other : ∀ c, c ≠ head → c ≠ n → prev' c = prev c

/-- **Insertion.** A cell that is not in the ring becomes its last one. -/
theorem IsRing.putLast (h : IsRing next prev head as) (hn : n ∉ head :: as)
    (hput : PutLast next prev next' prev' head (as.getLastD head) n) : IsRing next' prev' head (as ++ [n]) := by
  have hne {c : α} (hc : c ∈ head :: as) : c ≠ n := fun hcn => hn (hcn ▸ hc)
  have hhead : head ∉ as := (List.nodup_cons.1 h.nodup).1
  have hfront : Seg next' prev' head as (some n) := by
    refine h.seg.retarget h.nodup hput.next_last (fun c hc hlast => hput.next_other c hlast (hne hc)) ?_
    intro c hc
    exact hput.prev_other c (fun hch => hhead (hch ▸ hc)) (hne (List.mem_cons_of_mem head hc))
  refine ⟨?_, seg_append.2 ⟨hfront, hput.prev_new, hput.next_new⟩, ?_⟩
  · rw [← List.cons_append]
    exact List.nodup_append.2 ⟨h.nodup, List.nodup_singleton n, fun c hc d hd => List.mem_singleton.1 hd ▸ hne hc⟩
  · rw [List.getLastD_concat]
    exact hput.prev_head

/-! ## Taking the first cell out -/

/-- Behind the first cell comes another one, or the head. -/
theorem IsRing.next_first (h : IsRing next prev head (b :: r)) :
    ∃ c ∈ head :: r, next b = some c ∧ c ≠ b := by
  obtain ⟨-, -, hrest⟩ := h.seg
  obtain ⟨hhead, hnodup⟩ := List.nodup_cons.1 h.nodup
  cases r with
  | nil => exact ⟨head, List.mem_cons_self, hrest, fun hhb => hhead (hhb ▸ List.mem_cons_self)⟩
  | cons c r =>
      refine ⟨c, List.mem_cons_of_mem _ List.mem_cons_self, hrest.1, fun hcb => ?_⟩
      exact (List.nodup_cons.1 hnodup).1 (hcb ▸ List.mem_cons_self)

/-- What the links are after `b`, the cell behind the head, has been taken out. -/
structure TakenFirst (next prev next' prev' : α → Option α) (head b : α) : Prop where
  next_head : next' head = next b
  prev_succ : ∀ c, next b = some c → prev' c = some head
  next_other : ∀ c, c ≠ head → next' c = next c
  prev_other : ∀ c, next b ≠ some c → prev' c = prev c

/-- **Removal.** What is behind the first cell is now behind the head. -/
theorem IsRing.takeFirst (h : IsRing next prev head (b :: r)) (htake : TakenFirst next prev next' prev' head b) :
    IsRing next' prev' head r := by
  obtain ⟨-, -, hrest⟩ := h.seg
  obtain ⟨hhead, hnodup⟩ := List.nodup_cons.1 h.nodup
  obtain ⟨-, hnodup_r⟩ := List.nodup_cons.1 hnodup
  cases r with
  | nil => exact isRing_nil (htake.next_head.trans hrest) (htake.prev_succ head hrest)
  | cons c r =>
      obtain ⟨hbc, -, hrest'⟩ := hrest
      obtain ⟨hc, -⟩ := List.nodup_cons.1 hnodup_r
      have hother {d : α} (hd : d ≠ c) : prev' d = prev d :=
        htake.prev_other d fun hbd => hd (Option.some.inj (hbd.symm.trans hbc))
      have hhead' {d : α} (hd : d ∈ c :: r) : d ≠ head :=
        fun hdh => hhead (List.mem_cons_of_mem b (hdh ▸ hd))
      refine ⟨List.nodup_cons.2 ⟨fun hmem => hhead (List.mem_cons_of_mem b hmem), hnodup_r⟩,
        ⟨htake.next_head.trans hbc, htake.prev_succ c hbc, ?_⟩, ?_⟩
      · refine hrest'.congr (fun d hd => htake.next_other d (hhead' hd)) fun d hd => hother ?_
        exact fun hdc => hc (hdc ▸ hd)
      · rw [hother (hhead' List.mem_cons_self).symm, h.back, List.getLastD_cons, List.getLastD_cons,
          List.getLastD_cons]

end SmartPlat.Lib
