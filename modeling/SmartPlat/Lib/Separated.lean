import Mathlib.Data.List.DropRight
import Mathlib.Data.Nat.Notation
import Mathlib.Tactic.Common

set_option autoImplicit false

/-! # Items with separators between them

A reader takes an item from the front of a text and returns what is left. Made into a reader of a sequence,
it skips blanks in front of the items and behind them, and expects a separator between any two and a
closing symbol behind the last. -/

namespace SmartPlat.Lib

variable {α β ε : Type}

structure Punctuation (β : Type) where
  blank : β → Bool
  sep : β
  close : β
  sep_ne_close : sep ≠ close
  sep_not_blank : blank sep = false
  close_not_blank : blank close = false

/-- A text of blanks. -/
def Punctuation.Blanks (p : Punctuation β) (s : List β) : Prop := ∀ b ∈ s, p.blank b = true

/-- Its first symbol, if there is one, is none. -/
def Punctuation.Begins (p : Punctuation β) (s : List β) : Prop := ∀ b ∈ s.head?, p.blank b = false

def Punctuation.skip (p : Punctuation β) (s : List β) : List β := s.dropWhile p.blank

variable {p : Punctuation β}

theorem skip_of_begins {s : List β} (h : p.Begins s) : p.skip s = s := by
  cases s with
  | nil => rfl
  | cons b s => exact List.dropWhile_cons_of_neg (by simpa using h b rfl)

theorem skip_blanks {s : List β} (h : p.Blanks s) (t : List β) : p.skip (s ++ t) = p.skip t := by
  induction s with
  | nil => rfl
  | cons b s ih =>
      obtain ⟨hb, hs⟩ := List.forall_mem_cons.1 h
      rw [← ih hs]
      exact List.dropWhile_cons_of_pos hb

theorem skip_sep (s : List β) : p.skip (p.sep :: s) = p.sep :: s :=
  skip_of_begins fun _ hb => Option.some.inj hb ▸ p.sep_not_blank

theorem skip_close (s : List β) : p.skip (p.close :: s) = p.close :: s :=
  skip_of_begins fun _ hb => Option.some.inj hb ▸ p.close_not_blank

variable [DecidableEq β]

/-- `n` items at most are read; `fail` is the answer to a symbol that may not stand where it does. -/
def separated (p : Punctuation β) (fail : ε) (item : List β → Except ε (α × List β)) :
    ℕ → List β → Except ε (List α × List β)
  | 0, _ => .error fail
  | n + 1, s =>
      match item (p.skip s) with
      | .error e => .error e
      | .ok (a, s) =>
          match p.skip s with
          | [] => .error fail
          | b :: s =>
              if b = p.sep then (separated p fail item n s).map fun r => (a :: r.1, r.2)
              else if b = p.close then .ok ([a], s)
              else .error fail

variable {fail : ε} {item : List β → Except ε (α × List β)} {n : ℕ} {s t : List β} {a : α}

/-- Blanks in front of the sequence are blanks in front of its first item. -/
theorem separated_skip : separated p fail item n (p.skip s) = separated p fail item n s := by
  cases n with
  | zero => rfl
  | succ n => rw [separated, separated, Punctuation.skip, Punctuation.skip, List.dropWhile_idempotent]

theorem separated_last {post : List β} (hitem : item (p.skip s) = .ok (a, post ++ p.close :: t))
    (hpost : p.Blanks post) : separated p fail item (n + 1) s = .ok ([a], t) := by
  rw [separated, hitem]
  simp only [skip_blanks hpost, skip_close, p.sep_ne_close.symm, if_false, if_true]

theorem separated_more {as : List α} {s' : List β} (hitem : item (p.skip s) = .ok (a, p.sep :: s'))
    (hrest : separated p fail item n s' = .ok (as, t)) :
    separated p fail item (n + 1) s = .ok (a :: as, t) := by
  rw [separated, hitem]
  simp only [skip_sep, if_true, hrest, Except.map]

/-- What every item has that is read, every item of a sequence has that is read. -/
theorem forall_mem_of_separated {P : α → Prop} (hitem : ∀ s a t, item s = .ok (a, t) → P a) {as : List α}
    (h : separated p fail item n s = .ok (as, t)) : ∀ a ∈ as, P a := by
  induction n generalizing s as with
  | zero => cases h
  | succ n ih =>
      rw [separated] at h
      split at h
      · cases h
      · next a s' ha =>
          have hfirst : P a := hitem _ a s' ha
          split at h
          · cases h
          · next b s'' _ =>
              split_ifs at h
              · cases hrest : separated p fail item n s'' with
                | error e =>
                    rw [hrest] at h
                    cases h
                | ok r =>
                    rw [hrest] at h
                    cases h
                    exact List.forall_mem_cons.2 ⟨hfirst, ih hrest⟩
              · cases h
                exact List.forall_mem_singleton.2 hfirst

/-! ## Reading what was written -/

/-- The texts of some items with `pre` in front of each, and `post` in front of the closing symbol. -/
def joined (p : Punctuation β) (pre post : List β) : List (List β) → List β
  | [] => []
  | [t] => pre ++ t ++ post ++ [p.close]
  | t :: ts => pre ++ t ++ p.sep :: joined p pre post ts

omit [DecidableEq β] in
theorem length_le_joined (pre post : List β) {ts : List (List β)} (hne : ts ≠ []) :
    pre.length + ts.length ≤ (joined p pre post ts).length := by
  induction ts with
  | nil => exact absurd rfl hne
  | cons t ts ih =>
      cases ts with
      | nil =>
          simp only [joined, List.length_append, List.length_cons, List.length_nil]
          omega
      | cons t' ts =>
          have hrest := ih (List.cons_ne_nil t' ts)
          simp only [joined, List.length_append, List.length_cons] at hrest ⊢
          omega

omit [DecidableEq β] in
theorem length_lt_joined (pre post : List β) {ts : List (List β)} {t : List β} (h : t ∈ ts) :
    pre.length + t.length < (joined p pre post ts).length := by
  induction ts with
  | nil => exact absurd h List.not_mem_nil
  | cons t' ts ih =>
      cases ts with
      | nil =>
          obtain rfl := List.mem_singleton.1 h
          simp only [joined, List.length_append, List.length_cons]
          omega
      | cons next ts =>
          rcases List.mem_cons.1 h with rfl | h
          · simp only [joined, List.length_append, List.length_cons]
            omega
          · have hrest := ih h
            simp only [joined, List.length_append, List.length_cons]
            omega

omit [DecidableEq β] in
/-- A writer that puts a separator between any two items. -/
theorem eq_joined {pre post : List β} {enc : α → List β} (write : List α → List β)
    (hlast : ∀ a, write [a] = pre ++ enc a ++ post ++ [p.close])
    (hmore : ∀ a a' items, write (a :: a' :: items) = pre ++ enc a ++ p.sep :: write (a' :: items))
    {items : List α} (hne : items ≠ []) : write items = joined p pre post (items.map enc) := by
  induction items with
  | nil => exact absurd rfl hne
  | cons a items ih =>
      cases items with
      | nil => exact hlast a
      | cons a' items =>
          rw [hmore, ih (List.cons_ne_nil a' items)]
          rfl

omit [DecidableEq β] in
theorem exists_joined_eq (pre post : List β) (t : List β) (ts : List (List β)) :
    ∃ tail, joined p pre post (t :: ts) = pre ++ (t ++ tail) := by
  cases ts with
  | nil => exact ⟨post ++ [p.close], by simp [joined]⟩
  | cons t' ts => exact ⟨p.sep :: joined p pre post (t' :: ts), by simp [joined]⟩

omit [DecidableEq β] in
/-- What is left of the sequence when the blanks in front of it are passed. -/
theorem skip_joined {pre : List β} (hpre : p.Blanks pre) (post : List β) {t : List β}
    (ht : ∀ rest, p.Begins (t ++ rest)) (ts : List (List β)) (rest : List β) :
    ∃ tail, p.skip (joined p pre post (t :: ts) ++ rest) = t ++ tail ∧
      ts.length < (t ++ tail).length := by
  obtain ⟨tail, htail⟩ := exists_joined_eq (p := p) pre post t ts
  have hlen := length_le_joined (p := p) pre post (List.cons_ne_nil t ts)
  rw [htail, List.length_append, List.length_cons] at hlen
  refine ⟨tail ++ rest, ?_, ?_⟩
  · rw [htail, List.append_assoc, List.append_assoc, skip_blanks hpre, skip_of_begins (ht _)]
  · rw [← List.append_assoc, List.length_append]
    omega

omit [DecidableEq β] in
/-- Some of the blanks in front of the first item may be missing. -/
theorem skip_drop_joined {pre : List β} (hpre : p.Blanks pre) (post : List β) {k : ℕ}
    (hk : k ≤ pre.length) (t : List β) (ts : List (List β)) (rest : List β) :
    p.skip ((joined p pre post (t :: ts)).drop k ++ rest) =
      p.skip (joined p pre post (t :: ts) ++ rest) := by
  obtain ⟨tail, htail⟩ := exists_joined_eq (p := p) pre post t ts
  have hdrop : p.Blanks (pre.drop k) := fun b hb => hpre b (List.mem_of_mem_drop hb)
  simp only [htail, List.drop_append_of_le_length hk, List.append_assoc]
  rw [skip_blanks hdrop, skip_blanks hpre]

/-- What the reader finds behind an item. -/
def Punctuation.Follows (p : Punctuation β) (post rest : List β) : Prop :=
  ∃ s, rest = p.sep :: s ∨ rest = post ++ p.close :: s

/-- The reader of an item reads each of the sequence where it stands; then all of them are read. -/
theorem separated_joined {pre post : List β} (hpre : p.Blanks pre) (hpost : p.Blanks post)
    {enc : α → List β} {items : List α} (hne : items ≠ []) (hn : items.length ≤ n)
    (hbegins : ∀ a ∈ items, ∀ rest, p.Begins (enc a ++ rest))
    (hitem : ∀ a ∈ items, ∀ rest, p.Follows post rest → item (enc a ++ rest) = .ok (a, rest))
    (rest : List β) :
    separated p fail item n (joined p pre post (items.map enc) ++ rest) = .ok (items, rest) := by
  induction items generalizing n with
  | nil => exact absurd rfl hne
  | cons a items ih =>
      obtain ⟨n, rfl⟩ := Nat.exists_eq_succ_of_ne_zero (by
        rw [List.length_cons] at hn
        omega : n ≠ 0)
      have hhere : ∀ rest, p.Follows post rest →
          item (p.skip (pre ++ enc a ++ rest)) = .ok (a, rest) := fun rest hrest => by
        rw [List.append_assoc, skip_blanks hpre, skip_of_begins (hbegins a List.mem_cons_self rest)]
        exact hitem a List.mem_cons_self rest hrest
      cases items with
      | nil =>
          have hlast : separated p fail item (n + 1) (pre ++ enc a ++ (post ++ p.close :: rest)) =
              .ok ([a], rest) :=
            separated_last (hhere _ ⟨rest, .inr rfl⟩) hpost
          simpa [joined] using hlast
      | cons a' items =>
          have hrest := ih (List.cons_ne_nil _ _) (Nat.le_of_succ_le_succ hn)
            (fun a ha => hbegins a (List.mem_cons_of_mem _ ha))
            (fun a ha => hitem a (List.mem_cons_of_mem _ ha))
          have hmore := separated_more (hhere _ ⟨_, .inl rfl⟩) hrest
          simpa [joined] using hmore

/-- So they are when the blanks in front are passed before, and as many items are tried as there are
    symbols. -/
theorem separated_skip_joined {pre post : List β} (hpre : p.Blanks pre) (hpost : p.Blanks post)
    {enc : α → List β} {items : List α} (hne : items ≠ [])
    (hbegins : ∀ a ∈ items, ∀ rest, p.Begins (enc a ++ rest))
    (hitem : ∀ a ∈ items, ∀ rest, p.Follows post rest → item (enc a ++ rest) = .ok (a, rest))
    {v rest : List β} (hv : p.skip (joined p pre post (items.map enc) ++ rest) = v) :
    separated p fail item v.length v = .ok (items, rest) := by
  obtain ⟨a, items, rfl⟩ := List.exists_cons_of_ne_nil hne
  obtain ⟨tail, htail, hlen⟩ :=
    skip_joined hpre post (hbegins a List.mem_cons_self) (items.map enc) rest
  have hn : (a :: items).length ≤ v.length := by
    rw [← hv, List.map_cons, htail, List.length_cons]
    rwa [List.length_map] at hlen
  calc separated p fail item v.length v
      = separated p fail item v.length (joined p pre post ((a :: items).map enc) ++ rest) := by
        conv_lhs => rw [← hv]
        rw [separated_skip, hv]
    _ = .ok (a :: items, rest) := separated_joined hpre hpost hne hn hbegins hitem rest

end SmartPlat.Lib
