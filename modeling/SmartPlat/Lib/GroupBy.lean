import Mathlib.Algebra.BigOperators.Group.Finset.Piecewise
import Mathlib.Algebra.BigOperators.Group.List.Basic
import Mathlib.Algebra.Order.BigOperators.Group.List
import Mathlib.Data.Finset.Card
import Mathlib.Data.List.Count
import Mathlib.Data.List.Nodup
import Mathlib.Tactic.Common
import Mathlib.Algebra.GroupWithZero.Nat

set_option autoImplicit false

/-! # Groups, buckets and pages of rows

`GROUP BY` makes one group of the rows for each key that occurs, and an aggregate is a number for each
group. Totals over the groups are totals over the rows, whatever the key is. -/

namespace SmartPlat.Lib

variable {α κ : Type*} [DecidableEq κ]

/-- One group for each key: the key and its rows. -/
def groupBy (key : α → κ) (rows : List α) : List (κ × List α) :=
  (rows.map key).dedup.map fun k => (k, rows.filter fun r => key r = k)

variable {key : α → κ} {rows : List α}

theorem mem_groupBy {g : κ × List α} :
    g ∈ groupBy key rows ↔ (∃ r ∈ rows, key r = g.1) ∧ g.2 = rows.filter fun r => key r = g.1 := by
  simp only [groupBy, List.mem_map, List.mem_dedup]
  constructor
  · rintro ⟨k, hk, rfl⟩
    exact ⟨hk, rfl⟩
  · intro ⟨hk, hg⟩
    exact ⟨g.1, hk, by rw [← hg]⟩

/-- No group is empty. -/
theorem exists_mem_of_mem_groupBy {g : κ × List α} (h : g ∈ groupBy key rows) : ∃ r, r ∈ g.2 := by
  obtain ⟨⟨r, hr, hk⟩, hg⟩ := mem_groupBy.1 h
  exact ⟨r, hg ▸ List.mem_filter.2 ⟨hr, decide_eq_true hk⟩⟩

theorem length_groupBy : (groupBy key rows).length = (rows.map key).toFinset.card := by
  rw [groupBy, List.length_map, List.card_toFinset]

/-- What is made of the keys is met once exactly where it tells the keys of the rows apart. -/
theorem nodup_map_groupBy {δ : Type*} {f : κ → δ} :
    ((groupBy key rows).map fun g => f g.1).Nodup ↔
      ∀ r ∈ rows, ∀ s ∈ rows, f (key r) = f (key s) → key r = key s := by
  have hmap : (groupBy key rows).map (fun g => f g.1) = (rows.map key).dedup.map f := by
    rw [groupBy, List.map_map]
    rfl
  rw [hmap, List.nodup_map_iff_inj_on (List.nodup_dedup _)]
  simp only [List.mem_dedup, List.forall_mem_map]

theorem sum_filter_keys {M : Type*} [AddCommMonoid M] (f : α → M) {ks : List κ} (hks : ks.Nodup)
    (h : ∀ r ∈ rows, key r ∈ ks) :
    (ks.map fun k => ((rows.filter fun r => key r = k).map f).sum).sum = (rows.map f).sum := by
  induction rows with
  | nil => simp
  | cons r rows ih =>
      obtain ⟨hr, hrows⟩ := List.forall_mem_cons.1 h
      have hsplit : ∀ k, (((r :: rows).filter fun r => key r = k).map f).sum =
          (if key r = k then f r else 0) + ((rows.filter fun r => key r = k).map f).sum := by
        intro k
        by_cases hk : key r = k <;> simp [hk]
      have hone : (ks.map fun k => if key r = k then f r else 0).sum = f r := by
        rw [← List.sum_toFinset _ hks, Finset.sum_ite_eq, if_pos (List.mem_toFinset.2 hr)]
      simp only [hsplit]
      rw [List.sum_map_add, hone, ih hrows, List.map_cons, List.sum_cons]

/-- **The sums of the groups add up to the sum of the rows.** -/
theorem sum_groupBy {M : Type*} [AddCommMonoid M] (f : α → M) :
    ((groupBy key rows).map fun g => (g.2.map f).sum).sum = (rows.map f).sum := by
  rw [← sum_filter_keys f (List.nodup_dedup (rows.map key)) fun r hr =>
    List.mem_dedup.2 (List.mem_map_of_mem hr), groupBy, List.map_map]
  rfl

/-- The order in which a server returns rows that no `ORDER BY` arranges. -/
structure RowOrder where
  arrange : {β : Type} → List β → List β
  perm : ∀ {β : Type} (rows : List β), (arrange rows).Perm rows

/-- The order in which they are found. -/
def RowOrder.asFound : RowOrder := ⟨fun rows => rows, fun _ => .refl _⟩

/-! ## Counting a table by buckets

A report counts a table once for each bucket. Here a bucket is anything an event can fall in (`falls`), a
window of time or a class. An event is *counted in* a bucket when it alone makes the bucket `1`: that can
be said of the numbers a report gives, without a word about its statements. -/

variable {α ω : Type}

/-! ## Windows -/

/-- The event makes bucket `j` a `1`. -/
def CountedIn (counts : List α → List ℕ) (e : α) (j : ℕ) : Prop := (counts [e])[j]? = some 1

instance (counts : List α → List ℕ) (e : α) (j : ℕ) : Decidable (CountedIn counts e j) :=
  inferInstanceAs (Decidable (_ = _))

/-- There are `n` buckets, and each holds the number of the events counted in it. -/
structure CountsEvents (counts : List α → List ℕ) (n : ℕ) (t : List α) : Prop where
  length : (counts t).length = n
  total : ∀ j < n, (counts t)[j]? = some (t.countP fun e => CountedIn counts e j)

/-- Of the `n` buckets the event is counted in one. -/
def CountedOnce (counts : List α → List ℕ) (n : ℕ) (e : α) : Prop :=
  ∃! j, j < n ∧ CountedIn counts e j

/-- Of the `n` buckets the event is counted in bucket `i` and in no other. -/
def CountedOnlyIn (counts : List α → List ℕ) (n : ℕ) (e : α) (i : ℕ) : Prop :=
  ∀ j < n, CountedIn counts e j ↔ j = i

/-- The table counted by buckets. -/
def countsIn (falls : ω → α → Bool) (buckets : List ω) (t : List α) : List ℕ :=
  buckets.map fun b => t.countP (falls b)

section

variable {falls : ω → α → Bool} {buckets : List ω} {t : List α} {e : α} {j : ℕ}

theorem countedIn_countsIn :
    CountedIn (countsIn falls buckets) e j ↔ ∃ b, buckets[j]? = some b ∧ falls b e = true := by
  rw [CountedIn, countsIn, List.getElem?_map, Option.map_eq_some_iff]
  refine exists_congr fun b => and_congr_right fun _ => ?_
  rw [List.countP_singleton]
  split <;> simp [*]

theorem countsEvents_countsIn : CountsEvents (countsIn falls buckets) buckets.length t := by
  refine ⟨List.length_map _, fun j hj => ?_⟩
  have hb : buckets[j]? = some buckets[j] := List.getElem?_eq_getElem hj
  rw [countsIn, List.getElem?_map, hb, Option.map_some]
  refine congrArg some (List.countP_congr fun e _ => ?_)
  rw [decide_eq_true_iff, countedIn_countsIn]
  constructor
  · exact fun hfalls => ⟨_, hb, hfalls⟩
  · rintro ⟨b, hb', hfalls⟩
    obtain rfl := Option.some.inj (hb.symm.trans hb')
    exact hfalls

/-! ## Sums over the buckets -/

theorem sum_countsIn_cons :
    (countsIn falls buckets (e :: t)).sum =
      (countsIn falls buckets t).sum + buckets.countP fun b => falls b e := by
  induction buckets with
  | nil => rfl
  | cons b buckets ih =>
      have hmap : ∀ t : List α, countsIn falls (b :: buckets) t =
          t.countP (falls b) :: countsIn falls buckets t := fun _ => rfl
      rw [hmap, hmap, List.sum_cons, List.sum_cons, ih, List.countP_cons, List.countP_cons]
      omega

/-- Where every event that counts falls in exactly one bucket, and no other event in any, the buckets
    add up. -/
theorem sum_countsIn_eq {p : α → Bool}
    (h : ∀ e ∈ t, (buckets.countP fun b => falls b e) = if p e then 1 else 0) :
    (countsIn falls buckets t).sum = t.countP p := by
  induction t with
  | nil => simp [countsIn]
  | cons e t ih =>
      rw [sum_countsIn_cons, ih fun e he => h e (List.mem_cons_of_mem _ he), h e List.mem_cons_self,
        List.countP_cons]

/-- Where every event falls in at most one bucket, and only if it counts, the buckets add up to no more. -/
theorem sum_countsIn_le {p : α → Bool}
    (h : ∀ e ∈ t, (buckets.countP fun b => falls b e) ≤ if p e then 1 else 0) :
    (countsIn falls buckets t).sum ≤ t.countP p := by
  induction t with
  | nil => simp [countsIn]
  | cons e t ih =>
      rw [sum_countsIn_cons, List.countP_cons]
      exact Nat.add_le_add (ih fun e he => h e (List.mem_cons_of_mem _ he)) (h e List.mem_cons_self)

/-- An event that falls in no two buckets. -/
theorem countP_le_one (hbuckets : buckets.Nodup)
    (h : ∀ b b', falls b e = true → falls b' e = true → b = b') :
    (buckets.countP fun b => falls b e) ≤ 1 := by
  rw [List.countP_eq_length_filter]
  have hnodup : (buckets.filter fun b => falls b e).Nodup := hbuckets.filter _
  have hfalls : ∀ b ∈ buckets.filter fun b => falls b e, falls b e = true := fun b hb =>
    (List.mem_filter.1 hb).2
  generalize (buckets.filter fun b => falls b e) = l at hnodup hfalls ⊢
  match l with
  | [] => exact Nat.zero_le 1
  | [_] => exact Nat.le_refl 1
  | b :: b' :: l =>
    have hsame := h b b' (hfalls b (by simp)) (hfalls b' (by simp))
    exact absurd hnodup (by simp [hsame])

end

/-! ## Pages of a list

`limit offset, num` with the offset of a page, and what the pages of one list have in common: one after
another they are the list, and an entry without a duplicate is on one of them. -/

variable {α β : Type*}

/-- Page `p` of `l`, from page 1 on. -/
def page (n p : ℕ) (l : List α) : List α := (l.drop ((p - 1) * n)).take n

/-- The first `k` pages, one after another. -/
def pages (n k : ℕ) (l : List α) : List α := (List.range k).flatMap fun i => page n (i + 1) l

variable {n p k : ℕ} {l : List α} {a : α}

theorem map_page (f : α → β) : (page n p l).map f = page n p (l.map f) := by
  rw [page, List.map_take, List.map_drop, page]

theorem pages_eq_take : pages n k l = l.take (k * n) := by
  induction k with
  | zero => rw [Nat.zero_mul, List.take_zero]; rfl
  | succ k ih =>
      rw [pages, List.range_succ, List.flatMap_append, ← pages, ih, List.flatMap_singleton,
        Nat.succ_mul, List.take_add]
      rfl

/-- Enough pages show the whole list. -/
theorem pages_eq (h : l.length ≤ k * n) : pages n k l = l := by
  rw [pages_eq_take, List.take_of_length_le h]

theorem getElem?_page (i : ℕ) :
    (page n p l)[i]? = if i < n then l[(p - 1) * n + i]? else none := by
  rw [page, List.getElem?_take, List.getElem?_drop]

theorem mem_page_iff (hn : 1 ≤ n) (hp : 1 ≤ p) :
    a ∈ page n p l ↔ ∃ j, l[j]? = some a ∧ j / n + 1 = p := by
  simp only [List.mem_iff_getElem?, getElem?_page]
  constructor
  · intro ⟨i, hi⟩
    split at hi
    · next hlt =>
        refine ⟨_, hi, ?_⟩
        rw [Nat.mul_comm, Nat.mul_add_div hn, Nat.div_eq_of_lt hlt, Nat.add_zero]
        exact Nat.sub_add_cancel hp
    · exact absurd hi (by simp)
  · rintro ⟨j, hj, rfl⟩
    refine ⟨j % n, ?_⟩
    rw [if_pos (Nat.mod_lt _ hn), Nat.add_sub_cancel, Nat.div_add_mod']
    exact hj

/-- **An entry of a list without duplicates is on exactly one page.** -/
theorem existsUnique_page (hn : 1 ≤ n) (hl : l.Nodup) (ha : a ∈ l) :
    ∃! p, 1 ≤ p ∧ a ∈ page n p l := by
  obtain ⟨j, hj⟩ := List.mem_iff_getElem?.1 ha
  refine ⟨j / n + 1, ⟨Nat.le_add_left 1 _, ?_⟩, ?_⟩
  · exact (mem_page_iff hn (Nat.le_add_left 1 _)).2 ⟨j, hj, rfl⟩
  · rintro p ⟨hp, hmem⟩
    obtain ⟨i, hi, rfl⟩ := (mem_page_iff hn hp).1 hmem
    obtain ⟨hlt, hi'⟩ := List.getElem?_eq_some_iff.1 hi
    obtain ⟨hlt', hj'⟩ := List.getElem?_eq_some_iff.1 hj
    rw [(hl.getElem_inj_iff).1 (hi'.trans hj'.symm)]

theorem mem_of_mem_page (h : a ∈ page n p l) : a ∈ l :=
  List.mem_of_mem_drop (List.mem_of_mem_take h)

end SmartPlat.Lib
