import Mathlib.Data.List.Nodup
import Mathlib.Logic.Relation
import Mathlib.Tactic.Common

set_option autoImplicit false

/-! # Doubly linked lists

The links of a memory are two partial functions `next` and `pre` on its cells. `Seg` says that cells
follow one another from a given one, linked both ways; a list is a segment behind a head cell that
ends in nothing. Putting a cell into a list and taking one out are described by what the new links
are, not by the order in which they are written. -/

namespace SmartPlat.Lib

variable {α : Type*}

/-! ## Segments -/

/-- The cells `as` follow `a`, neighbours are linked both ways, and the last one points to `e`. -/
def Seg (next pre : α → Option α) : α → List α → Option α → Prop
  | a, [], e => next a = e
  | a, b :: as, e => next a = some b ∧ pre b = some a ∧ Seg next pre b as e

variable {next pre next' pre' : α → Option α} {a b c d head n p : α} {as bs l r : List α}
  {e e' : Option α}

theorem seg_append :
    Seg next pre a (as ++ b :: bs) e ↔
      Seg next pre a as (some b) ∧ pre b = some (as.getLastD a) ∧ Seg next pre b bs e := by
  induction as generalizing a with
  | nil => rfl
  | cons c as ih =>
      rw [List.cons_append, List.getLastD_cons]
      simp only [Seg, ih, and_assoc]

/-- A segment reads the forward links of its cells and the backward links of those behind the first. -/
theorem Seg.congr (h : Seg next pre a as e) (hnext : ∀ c ∈ a :: as, next' c = next c)
    (hpre : ∀ c ∈ as, pre' c = pre c) : Seg next' pre' a as e := by
  induction as generalizing a with
  | nil => exact (hnext a (by simp)).trans h
  | cons b as ih =>
      obtain ⟨hab, hba, hrest⟩ := h
      refine ⟨(hnext a (by simp)).trans hab, (hpre b (by simp)).trans hba, ih hrest ?_ ?_⟩
      · exact fun c hc => hnext c (List.mem_cons_of_mem a hc)
      · exact fun c hc => hpre c (List.mem_cons_of_mem b hc)

/-- The last cell of a segment may be pointed elsewhere. -/
theorem Seg.retarget (h : Seg next pre a as e) (hnodup : (a :: as).Nodup)
    (hlast : next' (as.getLastD a) = e') (hnext : ∀ c ∈ a :: as, c ≠ as.getLastD a → next' c = next c)
    (hpre : ∀ c ∈ as, pre' c = pre c) : Seg next' pre' a as e' := by
  induction as generalizing a with
  | nil => exact hlast
  | cons b as ih =>
      obtain ⟨hab, hba, hrest⟩ := h
      rw [List.getLastD_cons] at hlast hnext
      obtain ⟨ha, hnodup'⟩ := List.nodup_cons.mp hnodup
      -- the first cell is not the last one, as there is a second
      have hne : a ≠ as.getLastD b := fun hlast => ha (hlast ▸ List.getLastD_mem_cons)
      refine ⟨(hnext a (by simp) hne).trans hab, (hpre b (by simp)).trans hba,
        ih hrest hnodup' hlast ?_ ?_⟩
      · exact fun c hc => hnext c (List.mem_cons_of_mem a hc)
      · exact fun c hc => hpre c (List.mem_cons_of_mem b hc)

theorem Seg.next_last (h : Seg next pre a as e) : next (as.getLastD a) = e := by
  induction as generalizing a with
  | nil => exact h
  | cons b as ih =>
      rw [List.getLastD_cons]
      exact ih h.2.2

/-! ## Lists behind a head -/

/-- The cells behind `head` are `as`, in this order. -/
structure IsList (next pre : α → Option α) (head : α) (as : List α) : Prop where
  nodup : (head :: as).Nodup
  seg : Seg next pre head as none
  first : pre head = none

theorem isList_nil (hnext : next head = none) (hpre : pre head = none) : IsList next pre head [] :=
  ⟨List.nodup_singleton head, hnext, hpre⟩

theorem IsList.congr (h : IsList next pre head as) (hnext : ∀ c ∈ head :: as, next' c = next c)
    (hpre : ∀ c ∈ head :: as, pre' c = pre c) : IsList next' pre' head as where
  nodup := h.nodup
  seg := h.seg.congr hnext fun c hc => hpre c (List.mem_cons_of_mem head hc)
  first := (hpre head (by simp)).trans h.first

/-! ## Putting a cell in -/

/-- What the links are after `n` has been put behind `p`. -/
structure PutBehind (next pre next' pre' : α → Option α) (p n : α) : Prop where
  next_at : next' p = some n
  next_new : next' n = next p
  pre_new : pre' n = some p
  pre_succ : ∀ c, next p = some c → pre' c = some n
  next_other : ∀ c, c ≠ p → c ≠ n → next' c = next c
  pre_other : ∀ c, c ≠ n → next p ≠ some c → pre' c = pre c

/-- **Insertion.** A cell that is not in the list comes to stand behind the cell it is put behind. -/
theorem IsList.put (h : IsList next pre head (l ++ r)) (hn : n ∉ head :: (l ++ r))
    (hput : PutBehind next pre next' pre' (l.getLastD head) n) :
    IsList next' pre' head (l ++ n :: r) := by
  have hnodup := h.nodup
  have hmem : l.getLastD head ∈ head :: l := List.getLastD_mem_cons
  have hnodup_l : (head :: l).Nodup :=
    hnodup.sublist ((List.sublist_append_left l r).cons_cons head)
  have hnodup' : (head :: (l ++ n :: r)).Nodup := by
    simp only [List.nodup_cons, List.nodup_append, List.mem_append, List.mem_cons] at hnodup hn ⊢
    grind
  -- the cells in front keep their links, up to the last one's forward link
  have hfront {e : Option α} (hseg : Seg next pre head l e) (hsucc : ∀ c ∈ head :: l, e ≠ some c) :
      Seg next' pre' head l (some n) := by
    have hlast := hseg.next_last
    refine hseg.retarget hnodup_l hput.next_at (fun c hc hne => ?_) (fun c hc => ?_)
    · refine hput.next_other c hne fun hcn => hn ?_
      exact hcn ▸ (List.cons_subset_cons head (List.subset_append_left l r)) hc
    · refine hput.pre_other c (fun hcn => hn ?_) ?_
      · exact hcn ▸ List.mem_cons_of_mem head (List.mem_append_left r hc)
      · exact hlast ▸ hsucc c (List.mem_cons_of_mem head hc)
  have hfirst : next (l.getLastD head) ≠ some head → pre' head = none := fun hne =>
    (hput.pre_other head (fun hhead => hn (by simp [hhead])) hne).trans h.first
  cases r with
  | nil =>
      have hseg : Seg next pre head l none := by simpa using h.seg
      have hlast := hseg.next_last
      refine ⟨hnodup', seg_append.mpr ⟨hfront hseg (by simp), hput.pre_new, ?_⟩,
        hfirst (hlast ▸ Option.some_ne_none head |>.symm)⟩
      exact hput.next_new.trans hlast
  | cons c r =>
      obtain ⟨hseg, hback, hrest⟩ := seg_append.mp h.seg
      have hlast := hseg.next_last
      have hc : c ∉ head :: l := by
        simp only [List.nodup_cons, List.nodup_append, List.mem_append, List.mem_cons] at hnodup ⊢
        grind
      refine ⟨hnodup', seg_append.mpr ⟨hfront hseg fun d hd hcd => hc ?_, hput.pre_new, ?_, ?_, ?_⟩,
        hfirst fun hhead => hc ?_⟩
      · exact Option.some.inj hcd ▸ hd
      · exact hput.next_new.trans hlast
      · exact hput.pre_succ c hlast
      · refine hrest.congr (fun d hd => hput.next_other d ?_ ?_) (fun d hd => hput.pre_other d ?_ ?_)
        · rintro rfl
          simp only [List.nodup_cons, List.nodup_append, List.mem_append, List.mem_cons] at hnodup hd hmem
          grind
        · rintro rfl
          exact hn (List.mem_cons_of_mem head (List.mem_append_right l hd))
        · rintro rfl
          exact hn (List.mem_cons_of_mem head (List.mem_append_right l (List.mem_cons_of_mem c hd)))
        · intro hcd
          obtain rfl := Option.some.inj (hlast.symm.trans hcd)
          simp only [List.nodup_cons, List.nodup_append] at hnodup
          grind
      · exact Option.some.inj (hlast.symm.trans hhead) ▸ List.mem_cons_self

/-! ## Taking a cell out -/

/-- What the links are after `b`, the cell behind `p`, has been taken out. Those of `b` itself may be
    anything. -/
structure TakenFrom (next pre next' pre' : α → Option α) (p b : α) : Prop where
  next_at : next' p = next b
  pre_succ : ∀ c, next b = some c → pre' c = some p
  next_other : ∀ c, c ≠ p → c ≠ b → next' c = next c
  pre_other : ∀ c, c ≠ b → next b ≠ some c → pre' c = pre c

/-- **Removal.** The other cells of the list keep their order. -/
theorem IsList.take (h : IsList next pre head (l ++ b :: r))
    (htake : TakenFrom next pre next' pre' (l.getLastD head) b) :
    IsList next' pre' head (l ++ r) := by
  have hnodup := h.nodup
  have hmem : l.getLastD head ∈ head :: l := List.getLastD_mem_cons
  have hnodup' : (head :: (l ++ r)).Nodup :=
    hnodup.sublist (((List.Sublist.refl l).append (List.sublist_cons_self b r)).cons_cons head)
  have hnodup_l : (head :: l).Nodup :=
    hnodup'.sublist ((List.sublist_append_left l r).cons_cons head)
  obtain ⟨hseg, hback, hrest⟩ := seg_append.mp h.seg
  have hb : b ∉ head :: l := by
    simp only [List.nodup_cons, List.nodup_append, List.mem_append, List.mem_cons] at hnodup ⊢
    grind
  have hfront {e : Option α} (he : next b = e) (hsucc : ∀ c ∈ head :: l, e ≠ some c) :
      Seg next' pre' head l e := by
    refine hseg.retarget hnodup_l (htake.next_at.trans he) (fun c hc hne => ?_) (fun c hc => ?_)
    · exact htake.next_other c hne fun hcb => hb (hcb ▸ hc)
    · refine htake.pre_other c (fun hcb => hb (hcb ▸ List.mem_cons_of_mem head hc)) ?_
      exact he ▸ hsucc c (List.mem_cons_of_mem head hc)
  have hfirst : next b ≠ some head → pre' head = none := fun hne =>
    (htake.pre_other head (fun hhead => hb (by simp [hhead])) hne).trans h.first
  cases r with
  | nil =>
      refine ⟨hnodup', ?_, hfirst (by simp [show next b = none from hrest])⟩
      rw [List.append_nil]
      exact hfront hrest (by simp)
  | cons c r =>
      obtain ⟨hbc, hcb, hrest'⟩ := hrest
      have hc : c ∉ head :: l := by
        simp only [List.nodup_cons, List.nodup_append, List.mem_append, List.mem_cons] at hnodup ⊢
        grind
      refine ⟨hnodup', seg_append.mpr ⟨hfront hbc fun d hd hcd => hc ?_, htake.pre_succ c hbc, ?_⟩,
        hfirst fun hhead => hc ?_⟩
      · exact Option.some.inj hcd ▸ hd
      · refine hrest'.congr (fun d hd => htake.next_other d ?_ ?_) (fun d hd => htake.pre_other d ?_ ?_)
        · rintro rfl
          simp only [List.nodup_cons, List.nodup_append, List.mem_append, List.mem_cons] at hnodup hd hmem
          grind
        · rintro rfl
          simp only [List.nodup_cons, List.nodup_append, List.mem_cons] at hnodup hd
          grind
        · rintro rfl
          simp only [List.nodup_cons, List.nodup_append, List.mem_cons] at hnodup hd
          grind
        · intro hcd
          obtain rfl := Option.some.inj (hbc.symm.trans hcd)
          simp only [List.nodup_cons, List.nodup_append, List.mem_cons] at hnodup hd
          grind
      · exact Option.some.inj (hbc.symm.trans hhead) ▸ List.mem_cons_self

/-! ## Links are inverse to each other, and there is no way back -/

theorem Seg.next_mem (h : Seg next pre a as none) (hb : b ∈ a :: as) (hc : next b = some c) :
    c ∈ as ∧ pre c = some b := by
  induction as generalizing a with
  | nil =>
      obtain rfl := List.mem_singleton.mp hb
      exact absurd (hc.symm.trans h) (by simp)
  | cons d as ih =>
      obtain ⟨had, hda, hrest⟩ := h
      rcases List.mem_cons.mp hb with rfl | hb
      · obtain rfl := Option.some.inj (had.symm.trans hc)
        exact ⟨List.mem_cons_self, hda⟩
      · obtain ⟨hmem, hpre⟩ := ih hrest hb
        exact ⟨List.mem_cons_of_mem d hmem, hpre⟩

theorem Seg.pre_mem (h : Seg next pre a as e) (hb : b ∈ as) :
    ∃ c ∈ a :: as, pre b = some c ∧ next c = some b := by
  induction as generalizing a with
  | nil => exact absurd hb List.not_mem_nil
  | cons d as ih =>
      obtain ⟨had, hda, hrest⟩ := h
      rcases List.mem_cons.mp hb with rfl | hb
      · exact ⟨a, List.mem_cons_self, hda, had⟩
      · obtain ⟨c, hc, hlinks⟩ := ih hrest hb
        exact ⟨c, List.mem_cons_of_mem a hc, hlinks⟩

/-- **Mutually inverse links.** -/
theorem IsList.inverse (h : IsList next pre head as) (ha : a ∈ head :: as) :
    (∀ b, next a = some b → b ∈ as ∧ pre b = some a) ∧
      ∀ b, pre a = some b → b ∈ head :: as ∧ next b = some a := by
  refine ⟨fun b hb => h.seg.next_mem ha hb, fun b hb => ?_⟩
  rcases List.mem_cons.mp ha with rfl | ha
  · exact absurd (hb.symm.trans h.first) (by simp)
  · obtain ⟨c, hc, hpre, hnext⟩ := h.seg.pre_mem ha
    obtain rfl := Option.some.inj (hpre.symm.trans hb)
    exact ⟨hc, hnext⟩

/-- What is reached from a cell lies behind it. -/
theorem Seg.reach_mem (h : Seg next pre head as none)
    (hreach : Relation.TransGen (fun a b => next a = some b) c d) :
    ∀ {l r : List α}, head :: as = l ++ c :: r → d ∈ r := by
  have hstep : ∀ {l r : List α} {a b : α}, head :: as = l ++ a :: r → next a = some b → b ∈ r := by
    intro l r a b hsplit hab
    cases l with
    | nil =>
        obtain ⟨rfl, rfl⟩ := List.cons_eq_cons.mp hsplit
        exact (h.next_mem List.mem_cons_self hab).1
    | cons x l =>
        obtain ⟨rfl, rfl⟩ := List.cons_eq_cons.mp hsplit
        exact ((seg_append.mp h).2.2.next_mem List.mem_cons_self hab).1
  induction hreach with
  | single hab => exact fun hsplit => hstep hsplit hab
  | tail _ hbd ih =>
      intro l r hsplit
      obtain ⟨r₁, r₂, rfl⟩ := List.append_of_mem (ih hsplit)
      refine List.mem_append_right r₁ (List.mem_cons_of_mem _ ?_)
      exact hstep (l := l ++ c :: r₁) (by rw [hsplit, List.append_assoc, List.cons_append]) hbd

/-- **No cycle.** -/
theorem IsList.acyclic (h : IsList next pre head as) (hc : c ∈ head :: as) :
    ¬ Relation.TransGen (fun a b => next a = some b) c c := by
  intro hreach
  obtain ⟨l, r, hsplit⟩ := List.append_of_mem hc
  have hmem := h.seg.reach_mem hreach hsplit
  have hnodup := h.nodup
  rw [hsplit, List.nodup_append] at hnodup
  exact (List.nodup_cons.mp hnodup.2.1).1 hmem

end SmartPlat.Lib
