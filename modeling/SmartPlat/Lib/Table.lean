import Mathlib.Data.List.Basic
import Mathlib.Data.List.Count
import Mathlib.Data.List.Nodup
import Mathlib.Data.List.Perm.Basic
import Mathlib.Data.Nat.Notation
import Mathlib.Tactic.Common
import SmartPlat.Lib.FirstMatch

set_option autoImplicit false

/-! # Tables: primary keys, joins and groups

A table is the list of its rows in the order they were inserted; `key` is the primary key column.
`insertRow` and `updateWhere` are `insert` and `update … where key = k`. A `select` returns its rows
in an order the server is free to choose: callers take any list that is a permutation of the filtered
table. -/

namespace SmartPlat.Lib

/-- How a server compares texts: character by character, by weights. Texts of the same weights are equal
    for it. -/
structure Collation (τ : Type*) where
  weight : τ → List ℕ

variable {ρ κ : Type*} [DecidableEq κ] (key : ρ → κ)

/-- `insert`: refused when the key is taken. -/
def insertRow (row : ρ) (t : List ρ) : Option (List ρ) :=
  if t.any (fun r => key r = key row) then none else some (t ++ [row])

/-- `update … where key = k`. -/
def updateWhere (k : κ) (f : ρ → ρ) (t : List ρ) : List ρ :=
  t.map fun r => if key r = k then f r else r

/-- No two rows share a key. -/
def Keyed (t : List ρ) : Prop := (t.map key).Nodup

instance (t : List ρ) : Decidable (Keyed key t) := inferInstanceAs (Decidable (t.map key).Nodup)

variable {key} {t t' : List ρ} {row r : ρ} {k : κ} {f : ρ → ρ}

theorem insertRow_eq_some_iff :
    insertRow key row t = some t' ↔ (∀ r ∈ t, key r ≠ key row) ∧ t' = t ++ [row] := by
  unfold insertRow
  split
  · next h =>
      simp only [List.any_eq_true, decide_eq_true_iff] at h
      obtain ⟨r, hr, hk⟩ := h
      simp only [reduceCtorEq, false_iff, not_and]
      intro hall
      exact absurd hk (hall r hr)
  · next h =>
      simp only [List.any_eq_true, decide_eq_true_iff, not_exists, not_and] at h
      rw [Option.some.injEq, eq_comm]
      exact (and_iff_right h).symm

theorem insertRow_of_fresh (h : ∀ r ∈ t, key r ≠ key row) :
    insertRow key row t = some (t ++ [row]) :=
  insertRow_eq_some_iff.2 ⟨h, rfl⟩

theorem Keyed.insert (ht : Keyed key t) (h : insertRow key row t = some t') : Keyed key t' := by
  obtain ⟨hfresh, rfl⟩ := insertRow_eq_some_iff.1 h
  rw [Keyed, List.map_append, List.nodup_append]
  refine ⟨ht, List.nodup_singleton _, ?_⟩
  simp only [List.map_cons, List.map_nil, List.mem_map, List.mem_singleton]
  rintro _ ⟨r, hr, rfl⟩ _ rfl
  exact hfresh r hr

theorem map_updateWhere {β : Type*} (g : ρ → β) (hf : ∀ r, g (f r) = g r) :
    (updateWhere key k f t).map g = t.map g := by
  rw [updateWhere, List.map_map]
  refine List.map_congr_left fun r _ => ?_
  simp only [Function.comp_apply]
  split
  · exact hf r
  · rfl

theorem Keyed.update (ht : Keyed key t) (hf : ∀ r, key (f r) = key r) :
    Keyed key (updateWhere key k f t) := by
  rw [Keyed, map_updateWhere key hf]
  exact ht

theorem getElem?_updateWhere (i : ℕ) :
    (updateWhere key k f t)[i]? = t[i]?.map fun r => if key r = k then f r else r := by
  rw [updateWhere, List.getElem?_map]

theorem mem_updateWhere : r ∈ updateWhere key k f t ↔
    ∃ s ∈ t, r = if key s = k then f s else s := by
  rw [updateWhere, List.mem_map]
  simp only [eq_comm]

theorem updateWhere_congr {g : ρ → ρ} (h : ∀ r ∈ t, key r = k → f r = g r) :
    updateWhere key k f t = updateWhere key k g t := by
  refine List.map_congr_left fun r hr => ?_
  split
  · next hk => exact h r hr hk
  · rfl

/-! ### Tables that are images of another -/

section Image

variable {ρ' : Type*} {key' : ρ' → κ} (g : ρ → ρ')

/-- Inserting the image of a row into the image of a table. -/
theorem insertRow_map (hg : ∀ r, key' (g r) = key r) :
    insertRow key' (g row) (t.map g) = (insertRow key row t).map (List.map g) := by
  have hany : ((t.map g).any fun r => key' r = key' (g row)) = t.any fun r => key r = key row := by
    simp [List.any_map, Function.comp_def, hg]
  rw [insertRow, insertRow, hany]
  split
  · rfl
  · simp

theorem map_updateWhere_map {f' : ρ' → ρ'} (hg : ∀ r, key' (g r) = key r)
    (hf : ∀ r ∈ t, key r = k → g (f r) = f' (g r)) :
    (updateWhere key k f t).map g = updateWhere key' k f' (t.map g) := by
  rw [updateWhere, updateWhere, List.map_map, List.map_map]
  refine List.map_congr_left fun r hr => ?_
  simp only [Function.comp_apply, hg]
  split
  · next hk => exact hf r hr hk
  · rfl

end Image

/-- The same rows can be named by different columns. -/
theorem updateWhere_congr_key {κ' : Type*} [DecidableEq κ'] {key' : ρ → κ'} {k' : κ'}
    (h : ∀ r ∈ t, key r = k ↔ key' r = k') : updateWhere key k f t = updateWhere key' k' f t := by
  refine List.map_congr_left fun r hr => ?_
  simp only [h r hr]

/-- A selection on columns that an update leaves alone. -/
theorem filter_updateWhere {p : ρ → Bool} (hp : ∀ r, p (f r) = p r) :
    (updateWhere key k f t).filter p = updateWhere key k f (t.filter p) := by
  rw [updateWhere, updateWhere, List.filter_map]
  congr 2
  funext r
  simp only [Function.comp_apply]
  split
  · exact hp r
  · rfl

/-- Where keys are distinct, the first record of a key is the only one. -/
theorem modifyFirst_eq_updateWhere (ht : (t.map key).Nodup) :
    modifyFirst key k f t = updateWhere key k f t := by
  induction t with
  | nil => rfl
  | cons r t ih =>
      rw [List.map_cons, List.nodup_cons] at ht
      rw [modifyFirst, updateWhere, List.map_cons, ← updateWhere, ← ih ht.2]
      split
      · next hk =>
          refine congrArg _ ?_
          rw [ih ht.2, updateWhere, List.map_congr_left (g := id), List.map_id]
          intro r' hr'
          rw [if_neg, id_eq]
          rintro hk'
          exact ht.1 (List.mem_map.2 ⟨r', hr', hk'.trans hk.symm⟩)
      · rfl

omit [DecidableEq κ] in
/-- Rows with one key are one row. -/
theorem Keyed.eq_of_mem (ht : Keyed key t) {r s : ρ} (hr : r ∈ t) (hs : s ∈ t)
    (h : key r = key s) : r = s :=
  List.inj_on_of_nodup_map ht hr hs h

/-! ## The rows of the latest time of an owner

`select * from t where time = (select max(time) from t where owner = p)`: only the inner query asks for
the owner, so rows of others come back with his when they have the same time. -/

section LatestRows

variable {ρ κ : Type*} [DecidableEq κ] {owner : ρ → κ} {time : ρ → ℕ} {p : κ} {t : List ρ} {r s : ρ}

def latestRows (owner : ρ → κ) (time : ρ → ℕ) (p : κ) (t : List ρ) : List ρ :=
  match ((t.filter fun r => owner r = p).map time).max? with
  | none => []
  | some m => t.filter fun r => time r = m

/-- `r` has the time of a row of the owner, and none of his is later. -/
structure AtLatest (owner : ρ → κ) (time : ρ → ℕ) (p : κ) (t : List ρ) (r : ρ) : Prop where
  mem : r ∈ t
  shared : ∃ s ∈ t, owner s = p ∧ time s = time r
  latest : ∀ s ∈ t, owner s = p → time s ≤ time r

theorem mem_latestRows : r ∈ latestRows owner time p t ↔ AtLatest owner time p t r := by
  unfold latestRows
  split
  · next hnone =>
      rw [List.max?_eq_none_iff, List.map_eq_nil_iff, List.filter_eq_nil_iff] at hnone
      refine iff_of_false List.not_mem_nil fun h => ?_
      obtain ⟨s, hs, hp, -⟩ := h.shared
      exact hnone s hs (decide_eq_true hp)
  · next m hsome =>
      rw [List.max?_eq_some_iff, List.mem_map, List.forall_mem_map] at hsome
      obtain ⟨⟨s, hs, rfl⟩, hmax⟩ := hsome
      obtain ⟨hs, hp⟩ := List.mem_filter.mp hs
      have hmax : ∀ u ∈ t, owner u = p → time u ≤ time s := fun u hu hup =>
        hmax u (List.mem_filter.mpr ⟨hu, decide_eq_true hup⟩)
      rw [List.mem_filter, decide_eq_true_iff]
      constructor
      · rintro ⟨hr, htime⟩
        exact ⟨hr, ⟨s, hs, of_decide_eq_true hp, htime.symm⟩, fun u hu hup => htime ▸ hmax u hu hup⟩
      · intro h
        obtain ⟨u, hu, hup, htime⟩ := h.shared
        exact ⟨h.mem, Nat.le_antisymm (htime ▸ hmax u hu hup) (h.latest s hs (of_decide_eq_true hp))⟩

/-- An owner without rows. -/
theorem latestRows_eq_nil (h : ∀ s ∈ t, owner s ≠ p) : latestRows owner time p t = [] := by
  refine List.eq_nil_iff_forall_not_mem.mpr fun r hr => ?_
  obtain ⟨s, hs, hp, -⟩ := (mem_latestRows.mp hr).shared
  exact h s hs hp

/-- An owner with rows. -/
theorem exists_atLatest (time : ρ → ℕ) (hs : s ∈ t) (hp : owner s = p) : ∃ r, AtLatest owner time p t r := by
  have hmem : s ∈ t.filter fun r => owner r = p := List.mem_filter.mpr ⟨hs, decide_eq_true hp⟩
  cases hmax : ((t.filter fun r => owner r = p).map time).max? with
  | none =>
      rw [List.max?_eq_none_iff, List.map_eq_nil_iff] at hmax
      exact absurd hmem (hmax ▸ List.not_mem_nil)
  | some m =>
      rw [List.max?_eq_some_iff, List.mem_map, List.forall_mem_map] at hmax
      obtain ⟨⟨r, hr, rfl⟩, hlatest⟩ := hmax
      obtain ⟨hr, howner⟩ := List.mem_filter.mp hr
      refine ⟨r, hr, ⟨r, hr, of_decide_eq_true howner, rfl⟩, fun u hu hup => ?_⟩
      exact hlatest u (List.mem_filter.mpr ⟨hu, decide_eq_true hup⟩)

end LatestRows

/-! ## Left joins

`LEFT JOIN … ON` keeps the rows of the left table that match nothing, with nulls beside them. Picking
those rows selects one of each group when the condition says "there is a better one"; what it takes for
the selection to be the best row of each group is `oneOfEach_iff`. -/

variable {α β γ κ : Type*}

/-- `l LEFT JOIN r ON on`; `none` stands for a row of nulls. -/
def leftJoin (on : α → β → Bool) (l : List α) (r : List β) : List (α × Option β) :=
  l.flatMap fun a => if r.any (on a) then (r.filter (on a)).map fun b => (a, some b) else [(a, none)]

/-- The left halves of the joined rows whose right half is null. -/
def whereNull (rows : List (α × Option β)) : List α :=
  (rows.filter fun row => row.2.isNone).map Prod.fst

theorem whereNull_leftJoin {on : α → β → Bool} {l : List α} {r : List β} :
    whereNull (leftJoin on l r) = l.filter fun a => !r.any (on a) := by
  induction l with
  | nil => rfl
  | cons a l ih =>
      have hmatched : ((r.filter (on a)).map fun b => (a, some b)).filter
          (fun row => row.2.isNone) = [] := by
        rw [List.filter_eq_nil_iff, List.forall_mem_map]
        intro b _
        simp
      rw [whereNull, leftJoin] at ih ⊢
      rw [List.flatMap_cons, List.filter_append, List.map_append, ih, List.filter_cons]
      by_cases h : r.any (on a) = true
      · rw [if_pos h, hmatched, if_neg (by rw [h]; decide)]
        rfl
      · rw [if_neg h, if_pos (by rw [Bool.eq_false_iff.2 h]; rfl)]
        rfl

/-! ## One row of each group -/

theorem filter_eq_singleton_iff {l : List α} (hl : l.Nodup) {p : α → Bool} {a : α} :
    l.filter p = [a] ↔ a ∈ l ∧ p a = true ∧ ∀ b ∈ l, p b = true → b = a := by
  rw [← List.perm_singleton, List.perm_ext_iff_of_nodup (hl.filter p) (List.nodup_singleton a)]
  simp only [List.mem_filter, List.mem_singleton]
  constructor
  · intro h
    obtain ⟨hmem, hp⟩ := (h a).2 rfl
    exact ⟨hmem, hp, fun b hb hpb => (h b).1 ⟨hb, hpb⟩⟩
  · rintro ⟨hmem, hp, huniq⟩ b
    exact ⟨fun ⟨hb, hpb⟩ => huniq b hb hpb, fun hb => hb ▸ ⟨hmem, hp⟩⟩

section

variable [DecidableEq κ]

/-- Of each group of `rows` exactly one row is shown, and none of the group is better. -/
def OneOfEach (f : α → γ) (group : γ → κ) (best : α → α → Prop) (rows : List α) (shown : List γ) :
    Prop :=
  ∀ r ∈ rows, ∃ s ∈ rows, (∀ u ∈ rows, group (f u) = group (f r) → best s u) ∧
    shown.filter (fun x => group x = group (f r)) = [f s]

variable {f : α → γ} {group : γ → κ} {best : α → α → Prop} {on : α → β → Bool} {rows result : List α}
  {others : List β}

/-- **When the rows without a match are one of each group.** -/
theorem oneOfEach_iff (hrows : rows.Nodup) (hf : ∀ r ∈ rows, ∀ s ∈ rows, f r = f s → r = s)
    (hresult : result.Perm (rows.filter fun r => !others.any (on r))) :
    OneOfEach f group best rows (result.map f) ↔
      ∀ r ∈ rows, ∃ s ∈ rows, group (f s) = group (f r) ∧
        (∀ u ∈ rows, group (f u) = group (f r) → best s u) ∧ (∀ v ∈ others, on s v = false) ∧
        ∀ u ∈ rows, group (f u) = group (f r) → u ≠ s → ∃ v ∈ others, on u v = true := by
  have hmem : ∀ {u}, u ∈ result ↔ u ∈ rows ∧ ∀ v ∈ others, on u v = false := by
    intro u
    rw [hresult.mem_iff, List.mem_filter, Bool.not_eq_true', List.any_eq_false]
    simp only [Bool.not_eq_true]
  have hnodup : (result.map f).Nodup := by
    refine List.Nodup.map_on ?_ (hresult.nodup_iff.2 (hrows.filter _))
    intro r hr s hs
    exact hf r (hmem.1 hr).1 s (hmem.1 hs).1
  refine forall₂_congr fun r hr => exists_congr fun s => and_congr_right fun hs => ?_
  rw [filter_eq_singleton_iff hnodup, List.forall_mem_map, and_left_comm]
  simp only [decide_eq_true_iff]
  constructor
  · intro ⟨hshown, hbest, hgroup, honly⟩
    obtain ⟨s', hs', heq⟩ := List.mem_map.1 hshown
    obtain rfl := hf s' (hmem.1 hs').1 s hs heq
    refine ⟨hgroup, hbest, (hmem.1 hs').2, fun u hu hug hne => ?_⟩
    by_contra hnone
    refine hne (hf u hu s' hs (honly u (hmem.2 ⟨hu, fun v hv => ?_⟩) hug))
    exact Bool.eq_false_iff.2 fun hon => hnone ⟨v, hv, hon⟩
  · intro ⟨hgroup, hbest, hfree, hrest⟩
    refine ⟨List.mem_map_of_mem (hmem.2 ⟨hs, hfree⟩), hbest, hgroup, fun u hu hug => ?_⟩
    by_contra hne
    obtain ⟨v, hv, hon⟩ := hrest u (hmem.1 hu).1 hug fun h => hne (congrArg f h)
    rw [(hmem.1 hu).2 v hv] at hon
    cases hon

end

/-! ## Replacing the rows of one group

A table whose rows fall into groups by `key`. `replaceGroup` deletes one group and then inserts rows
without looking at theirs. It is the same as replacing the groups of all rows only if the rows are of
the group that was deleted. -/

variable {ρ κ : Type*} [DecidableEq κ] (key : ρ → κ)

/-- `delete … where key = k`, then `insert` of each row. -/
def replaceGroup (k : κ) (rows t : List ρ) : List ρ := t.filter (fun r => key r ≠ k) ++ rows

/-- `t'` holds the rows of `batch` in the groups that occur in it, and those of `t` in all others. -/
def ReplacesGroups (batch t t' : List ρ) : Prop :=
  ∀ m, (t'.filter fun r => key r = m).Perm
    ((if m ∈ batch.map key then batch else t).filter fun r => key r = m)

variable {key} {k : κ} {rows rows' batch t t' : List ρ}

theorem filter_replaceGroup (m : κ) :
    (replaceGroup key k rows t).filter (fun r => key r = m) =
      (if m = k then [] else t.filter fun r => key r = m) ++ rows.filter fun r => key r = m := by
  rw [replaceGroup, List.filter_append, List.filter_filter]
  split
  · next h =>
      rw [List.filter_eq_nil_iff.2]
      intro r _
      simp [h]
  · next h =>
      refine congrArg (· ++ _) (List.filter_congr fun r _ => ?_)
      by_cases hr : key r = m <;> simp [hr, h]

/-- Lists with the same groups are the same rows. -/
theorem perm_of_groups (key : ρ → κ)
    (h : ∀ m, (t.filter fun r => key r = m).Perm (t'.filter fun r => key r = m)) : t.Perm t' := by
  classical
  refine (List.perm_iff_count (α := ρ)).2 fun r => ?_
  have hcount := (h (key r)).count_eq r
  rwa [List.count_filter (by simp), List.count_filter (by simp)] at hcount

/-- On an empty table the groups of the batch are the table. -/
theorem ReplacesGroups.perm_of_nil (h : ReplacesGroups key batch [] t') : t'.Perm batch := by
  refine perm_of_groups key fun m => ?_
  refine (h m).trans ?_
  split
  · exact List.Perm.refl _
  · next hm =>
      rw [List.filter_nil, List.filter_eq_nil_iff.2]
      intro r hr hrm
      exact hm (List.mem_map.2 ⟨r, hr, of_decide_eq_true hrm⟩)

/-- Deleting the group of the batch replaces its groups. -/
theorem replacesGroups_of_same (hk : k ∈ batch.map key) (hrows : rows.Perm batch)
    (hsame : ∀ r ∈ batch, key r = k) : ReplacesGroups key batch t (replaceGroup key k rows t) := by
  intro m
  rw [filter_replaceGroup]
  by_cases hm : m = k
  · subst hm
    rw [if_pos rfl, if_pos hk, List.nil_append]
    exact hrows.filter _
  · have hnot : m ∉ batch.map key := by
      intro hin
      obtain ⟨r, hr, rfl⟩ := List.mem_map.1 hin
      exact hm (hsame r hr)
    have hrest : rows.filter (fun r => key r = m) = [] := by
      rw [List.filter_eq_nil_iff]
      intro r hr hrm
      exact hm ((of_decide_eq_true hrm).symm.trans (hsame r (hrows.mem_iff.1 hr)))
    rw [if_neg hm, if_neg hnot, hrest, List.append_nil]

/-- Replacing one group twice, by rows that are then again in the table. -/
theorem replaceGroup_twice (hsame : ∀ r ∈ rows, key r = k) :
    replaceGroup key k rows' (replaceGroup key k rows t) = replaceGroup key k rows' t := by
  have hnone : rows.filter (fun r => key r ≠ k) = [] := by
    rw [List.filter_eq_nil_iff]
    intro r hr
    simp [hsame r hr]
  simp only [replaceGroup, List.filter_append, List.filter_filter, hnone, List.append_nil,
    Bool.and_self]

/-- **Replacing twice.** Two replacements of one group, on every table, replace the groups of a batch
    and leave the second without effect, exactly when both insert the batch and all of it is in that
    group. -/
theorem replaceGroup_idempotent_iff (hk : k ∈ batch.map key) :
    ((∀ t, ReplacesGroups key batch t (replaceGroup key k rows t)) ∧
      (∀ t, ReplacesGroups key batch t (replaceGroup key k rows' t)) ∧
      ∀ t, (replaceGroup key k rows' (replaceGroup key k rows t)).Perm (replaceGroup key k rows t)) ↔
    rows.Perm batch ∧ rows'.Perm batch ∧ ∀ r ∈ batch, key r = k := by
  constructor
  · intro ⟨h, h', htwice⟩
    have hrows : rows.Perm batch := (h []).perm_of_nil
    have hrows' : rows'.Perm batch := (h' []).perm_of_nil
    refine ⟨hrows, hrows', fun r hr => ?_⟩
    -- rows of other groups are still there when the second replacement adds all of them
    have hlen := (htwice []).length_eq
    simp only [replaceGroup, List.filter_nil, List.nil_append, List.length_append] at hlen
    have hempty : rows.filter (fun r => key r ≠ k) = [] := by
      rw [← List.length_eq_zero_iff]
      have := (hrows'.trans hrows.symm).length_eq
      omega
    simpa using List.filter_eq_nil_iff.1 hempty r (hrows.mem_iff.2 hr)
  · intro ⟨hrows, hrows', hsame⟩
    refine ⟨fun t => replacesGroups_of_same hk hrows hsame,
      fun t => replacesGroups_of_same hk hrows' hsame, fun t => ?_⟩
    rw [replaceGroup_twice fun r hr => hsame r (hrows.mem_iff.1 hr)]
    exact (hrows'.trans hrows.symm).append_left _

end SmartPlat.Lib
