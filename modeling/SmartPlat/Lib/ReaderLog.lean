import SmartPlat.Lib.Transition
import Mathlib.Data.List.Sublists
import Mathlib.Logic.Function.Basic
import Mathlib.Algebra.GroupWithZero.Nat

set_option autoImplicit false

/-! # A log with overrunnable readers

One writer appends items, readers consume them at their own pace, and a write may push a reader that
is too far behind forward past items it has not read yet. What a reader gets is therefore not the
whole log but a selection from it, and this file says which: always whole items, in the order they
were written, each at most once (`LogStep.selects`).

The second half is about *where* an overrun reader lands when it may only land on certain items:
`resync` drops unread items until one of those comes first and everything left still fits beside the
new item. Items are of an arbitrary type with a size and a landing predicate. -/

namespace SmartPlat.Lib

variable {α β ι : Type*}

/-! ## What readers get -/

/-- Observable events: a reader (`none`: the registration was refused) starts at the end of the log,
    an item is appended, a reader asks for the next item. -/
inductive LogEvent (ι α β : Type*) where
  | regist (i : Option ι)
  | write (x : α)
  | read (i : ι) (result : Option β)

/-- The items written in a run, in order. -/
def written (tr : List (LogEvent ι α β)) : List α :=
  tr.filterMap fun | .write x => some x | _ => none

/-- What one reader was given in a run, in order. -/
def delivered [DecidableEq ι] (i : ι) (tr : List (LogEvent ι α β)) : List β :=
  tr.filterMap fun | .read j r => if j = i then r else none | _ => none

@[simp] theorem written_nil : written ([] : List (LogEvent ι α β)) = [] := rfl

@[simp] theorem written_snoc_write (tr : List (LogEvent ι α β)) (x : α) :
    written (tr ++ [.write x]) = written tr ++ [x] := by
  simp [written]

@[simp] theorem written_snoc_regist (tr : List (LogEvent ι α β)) (i : Option ι) :
    written (tr ++ [.regist i]) = written tr := by
  simp [written]

@[simp] theorem written_snoc_read (tr : List (LogEvent ι α β)) (i : ι) (r : Option β) :
    written (tr ++ [.read i r]) = written tr := by
  simp [written]

variable [DecidableEq ι]

@[simp] theorem delivered_nil (i : ι) : delivered i ([] : List (LogEvent ι α β)) = [] := rfl

@[simp] theorem delivered_snoc_write (i : ι) (tr : List (LogEvent ι α β)) (x : α) :
    delivered i (tr ++ [.write x]) = delivered i tr := by
  simp [delivered]

@[simp] theorem delivered_snoc_regist (i : ι) (tr : List (LogEvent ι α β)) (j : Option ι) :
    delivered i (tr ++ [.regist j]) = delivered i tr := by
  simp [delivered]

@[simp] theorem delivered_snoc_read (i j : ι) (tr : List (LogEvent ι α β)) (r : Option β) :
    delivered i (tr ++ [.read j r]) = delivered i tr ++ if j = i then r.toList else [] := by
  by_cases hji : j = i
  · subst hji; cases r <;> simp [delivered]
  · simp [delivered, hji]

/-- What a write may do to the unread items of one reader: append to what is left of them after some
    were dropped from the front, or lose them all. -/
def Pushed (x : α) : Option (List α) → Option (List α) → Prop
  | none, u' => u' = none
  | some xs, u' => u' = some [] ∨ ∃ s, s <:+ xs ∧ u' = some (s ++ [x])

/-- Steps of the log; the state is each reader's unread items (`none`: not registered). `render` is
    how an item looks to the reader it is delivered to. -/
inductive LogStep (render : α → β) :
    (ι → Option (List α)) → LogEvent ι α β → (ι → Option (List α)) → Prop
  | regist {u : ι → Option (List α)} {i : ι} :
      u i = none → LogStep render u (.regist (some i)) (Function.update u i (some []))
  | refuse {u : ι → Option (List α)} : LogStep render u (.regist none) u
  | write {u u' : ι → Option (List α)} {x : α} :
      (∀ i, Pushed x (u i) (u' i)) → LogStep render u (.write x) u'
  | read {u : ι → Option (List α)} {i : ι} {x : α} {xs : List α} :
      u i = some (x :: xs) →
        LogStep render u (.read i (some (render x))) (Function.update u i (some xs))
  | empty {u : ι → Option (List α)} {i : ι} : LogStep render u (.read i none) u

/-- Reader `i` with unread items `u` after the events `tr`: what it was given and what it still has
    unread together are a selection, in order, of what was written, and the unread part is the end
    of the log. -/
def Selects (render : α → β) (tr : List (LogEvent ι α β)) (i : ι) : Option (List α) → Prop
  | none => delivered i tr = []
  | some xs => xs <:+ written tr ∧
      ∃ ds : List α, delivered i tr = ds.map render ∧ (ds ++ xs).Sublist (written tr)

theorem Selects.pushed {render : α → β} {tr : List (LogEvent ι α β)} {i : ι}
    {u u' : Option (List α)} {x : α} (h : Selects render tr i u) (hp : Pushed x u u') :
    Selects render (tr ++ [.write x]) i u' := by
  cases u with
  | none =>
      obtain rfl : u' = none := hp
      simpa [Selects] using h
  | some xs =>
      obtain ⟨hsuf, ds, hds, hsub⟩ := h
      rcases hp with rfl | ⟨s, hs, rfl⟩
      · refine ⟨List.nil_suffix, ds, by simpa using hds, ?_⟩
        have hall : ds.Sublist (written tr) := (List.sublist_append_left ds xs).trans hsub
        simpa using hall.trans (List.sublist_append_left _ [x])
      · refine ⟨?_, ds, by simpa using hds, ?_⟩
        · rw [written_snoc_write]
          obtain ⟨t, ht⟩ := hs.trans hsuf
          exact ⟨t, by rw [← List.append_assoc, ht]⟩
        · rw [written_snoc_write, ← List.append_assoc]
          have hleft : (ds ++ s).Sublist (written tr) :=
            (List.Sublist.append (List.Sublist.refl ds) hs.sublist).trans hsub
          exact hleft.append (List.Sublist.refl [x])

/-- One step keeps every reader's selection. -/
theorem LogStep.selects_step {render : α → β} {tr : List (LogEvent ι α β)}
    {u u' : ι → Option (List α)} {e : LogEvent ι α β}
    (h : ∀ i, Selects render tr i (u i)) (hs : LogStep render u e u') :
    ∀ i, Selects render (tr ++ [e]) i (u' i) := by
  intro i
  have hi := h i
  cases hs with
  | @regist j hj =>
      by_cases hij : i = j
      · subst hij
        rw [hj] at hi
        have hnil : delivered i tr = [] := hi
        rw [Function.update_self]
        exact ⟨List.nil_suffix, [], by simp [hnil], List.nil_sublist _⟩
      · rw [Function.update_of_ne hij]
        cases hu : u i <;> rw [hu] at hi <;> simpa [Selects] using hi
  | refuse => cases hu : u i <;> rw [hu] at hi <;> simpa [Selects] using hi
  | write hp => exact hi.pushed (hp i)
  | @read j x xs hj =>
      by_cases hij : j = i
      · subst hij
        rw [hj] at hi
        obtain ⟨hsuf, ds, hds, hsub⟩ := hi
        rw [Function.update_self]
        refine ⟨?_, ds ++ [x], ?_, ?_⟩
        · rw [written_snoc_read]; exact (List.suffix_cons x xs).trans hsuf
        · simp [hds]
        · rw [written_snoc_read]; simpa using hsub
      · rw [Function.update_of_ne (Ne.symm hij)]
        cases hu : u i <;> rw [hu] at hi <;> simpa [Selects, hij] using hi
  | empty => cases hu : u i <;> rw [hu] at hi <;> simpa [Selects] using hi

/-- **In every run, every reader gets a selection of the log.** -/
theorem LogStep.selects {render : α → β} {tr : List (LogEvent ι α β)}
    {u : ι → Option (List α)} (h : Run (LogStep render) (fun _ => none) tr u) :
    ∀ i, Selects render tr i (u i) := by
  refine Run.invariant (fun tr (u : ι → Option (List α)) => ∀ i, Selects render tr i (u i))
    (fun i => ?_) (fun tr u e u' hI hs => ?_) h
  · rfl
  · exact LogStep.selects_step hI hs

omit [DecidableEq ι]

/-! ## Where an overrun reader lands -/

variable (size : α → ℕ) (key : α → Bool)

/-- Total size of consecutive items. -/
def totalSize (xs : List α) : ℕ := (xs.map size).sum

@[simp] theorem totalSize_nil : totalSize size [] = 0 := rfl

@[simp] theorem totalSize_cons (x : α) (xs : List α) :
    totalSize size (x :: xs) = size x + totalSize size xs := by
  simp [totalSize]

@[simp] theorem totalSize_append (xs ys : List α) :
    totalSize size (xs ++ ys) = totalSize size xs + totalSize size ys := by
  simp [totalSize]

/-- The first item is one a reader may land on. -/
def headKey : List α → Bool
  | [] => false
  | x :: _ => key x

/-- The unread items from the next landing item behind the first one on. -/
def nextKey : List α → Option (List α)
  | [] => none
  | _ :: xs => if headKey key xs then some xs else nextKey xs

/-- The unread items from the first landing item behind the head on that, with everything behind it,
    takes less than `room`. -/
def resync (room : ℕ) : List α → Option (List α)
  | [] => none
  | _ :: xs => if headKey key xs ∧ totalSize size xs < room then some xs else resync room xs

variable {size key}

theorem ne_nil_of_headKey {xs : List α} (h : headKey key xs = true) : xs ≠ [] := by
  rintro rfl
  simp [headKey] at h

theorem nextKey_cons_of_not {x : α} {xs : List α} (h : headKey key xs = false) :
    nextKey key (x :: xs) = nextKey key xs := by
  simp [nextKey, h]

theorem nextKey_suffix {xs s : List α} (h : nextKey key xs = some s) :
    ∃ pre, pre ≠ [] ∧ xs = pre ++ s ∧ headKey key s = true := by
  induction xs with
  | nil => simp [nextKey] at h
  | cons x xs ih =>
      simp only [nextKey] at h
      split at h
      · next hk =>
          obtain rfl := Option.some.inj h
          exact ⟨[x], by simp, rfl, hk⟩
      · obtain ⟨pre, -, rfl, hk⟩ := ih h
        exact ⟨x :: pre, by simp, rfl, hk⟩

theorem resync_spec {room : ℕ} {xs s : List α} (h : resync size key room xs = some s) :
    ∃ pre, pre ≠ [] ∧ xs = pre ++ s ∧ headKey key s = true ∧ totalSize size s < room := by
  induction xs with
  | nil => simp [resync] at h
  | cons x xs ih =>
      simp only [resync] at h
      split at h
      · next hk =>
          obtain rfl := Option.some.inj h
          exact ⟨[x], by simp, rfl, hk⟩
      · obtain ⟨pre, -, rfl, hk⟩ := ih h
        exact ⟨x :: pre, by simp, rfl, hk⟩

/-- There is a landing place exactly when some landing item behind the head fits. -/
theorem resync_isSome_iff {room : ℕ} {xs : List α} :
    (resync size key room xs).isSome = true ↔
      ∃ pre x post, pre ≠ [] ∧ xs = pre ++ x :: post ∧ key x = true ∧
        totalSize size (x :: post) < room := by
  constructor
  · intro h
    obtain ⟨s, hs⟩ := Option.isSome_iff_exists.1 h
    obtain ⟨pre, hpre, rfl, hk, hlt⟩ := resync_spec hs
    cases s with
    | nil => simp [headKey] at hk
    | cons x post => exact ⟨pre, x, post, hpre, rfl, hk, hlt⟩
  · rintro ⟨pre, x, post, hpre, rfl, hk, hlt⟩
    induction pre with
    | nil => exact absurd rfl hpre
    | cons y pre ih =>
        simp only [List.cons_append, resync]
        split
        · rfl
        · next hno =>
            cases pre with
            | nil => exact absurd ⟨hk, hlt⟩ hno
            | cons z pre => exact ih (by simp)

/-- Nothing that fits comes before the landing place: every earlier landing item behind the head is
    too big with what follows it. -/
theorem resync_first {room : ℕ} {xs s : List α} (h : resync size key room xs = some s)
    {pre : List α} {x : α} {post : List α} (hpre : pre ≠ []) (hxs : xs = pre ++ x :: post)
    (hk : key x = true) (hfit : totalSize size (x :: post) < room) :
    (x :: post).length ≤ s.length := by
  induction pre generalizing xs with
  | nil => exact absurd rfl hpre
  | cons y pre ih =>
      subst hxs
      simp only [List.cons_append, resync] at h
      split at h
      · obtain rfl := Option.some.inj h
        simp
      · next hno =>
          cases pre with
          | nil => exact absurd ⟨hk, hfit⟩ hno
          | cons z pre => exact ih h (by simp) rfl

/-- Resynchronising goes from landing item to landing item. -/
theorem resync_eq_nextKey {room : ℕ} {xs : List α} :
    resync size key room xs
      = (nextKey key xs).bind fun s =>
          if totalSize size s < room then some s else resync size key room s := by
  induction xs with
  | nil => rfl
  | cons x xs ih =>
      by_cases hk : headKey key xs = true
      · simp [resync, nextKey, hk]
      · simp only [resync, nextKey, hk, Bool.false_eq_true, false_and, if_false, ih]

end SmartPlat.Lib
