import Mathlib.Data.List.Infix
import Mathlib.Data.Nat.Notation
import Mathlib.Tactic.Common

set_option autoImplicit false

/-! # Pieces with a mark in front of each

A stream is cut into pieces at its marks. The symbol behind a mark belongs to the piece in any case; the
next mark is looked for behind it. -/

namespace SmartPlat.Lib

variable {α : Type*}

structure Mark (α : Type*) where
  symbols : List α
  ne_nil : symbols ≠ []
  /-- No end of it, itself apart, is how it begins. Two marks do not overlap. -/
  unbordered : ∀ k < symbols.length, 0 < k → ¬ symbols.drop k <+: symbols

variable {m : Mark α}

theorem Mark.length_pos (m : Mark α) : 0 < m.symbols.length := List.length_pos_iff.2 m.ne_nil

/-- A mark that begins before another one ends before it. -/
theorem infix_of_prefix_append {b r : List α} (hb : b ≠ []) (h : m.symbols <+: b ++ (m.symbols ++ r)) :
    m.symbols <:+: b := by
  have hpos := List.length_pos_iff.2 hb
  by_cases hle : m.symbols.length ≤ b.length
  · exact (List.prefix_of_prefix_length_le h (List.prefix_append _ _) hle).isInfix
  · have hlt : b.length < m.symbols.length := Nat.lt_of_not_le hle
    obtain ⟨x, hx⟩ := List.prefix_of_prefix_length_le (List.prefix_append b _) h hlt.le
    have hrest : x <+: m.symbols ++ r := by
      rw [← hx] at h
      exact (List.prefix_append_right_inj b).1 (hx ▸ h)
    have hxlen : x.length ≤ m.symbols.length := by
      rw [← hx, List.length_append]
      omega
    have hdrop : m.symbols.drop b.length = x := by rw [← hx, List.drop_left]
    exact absurd (hdrop ▸ List.prefix_of_prefix_length_le hrest (List.prefix_append _ _) hxlen)
      (m.unbordered _ hlt hpos)

/-! ## Pieces and where they are -/

/-- A piece that is one between two marks. -/
structure Mark.Whole (m : Mark α) (u : List α) : Prop where
  ne_nil : u ≠ []
  unmarked : ¬ m.symbols <:+: u

/-- Pieces with a mark in front of each, one behind the other. -/
def joinMarked (m : Mark α) (us : List (List α)) : List α := us.flatMap (m.symbols ++ ·)

theorem joinMarked_nil : joinMarked m [] = [] := rfl

theorem joinMarked_cons (u : List α) (us : List (List α)) :
    joinMarked m (u :: us) = m.symbols ++ (u ++ joinMarked m us) := by
  rw [joinMarked, List.flatMap_cons, List.append_assoc, joinMarked]

structure Piece (α : Type*) where
  start : ℕ
  content : List α

/-- The first piece is at `off`, and marks are between the pieces. -/
def located (m : Mark α) (off : ℕ) : List (List α) → List (Piece α)
  | [] => []
  | u :: us => ⟨off, u⟩ :: located m (off + u.length + m.symbols.length) us

theorem map_content_located (off : ℕ) (us : List (List α)) :
    (located m off us).map Piece.content = us := by
  induction us generalizing off with
  | nil => rfl
  | cons u us ih => rw [located, List.map_cons, ih]

theorem length_located (off : ℕ) (us : List (List α)) : (located m off us).length = us.length := by
  induction us generalizing off with
  | nil => rfl
  | cons u us ih => rw [located, List.length_cons, List.length_cons, ih]

variable [DecidableEq α]

/-! ## The first mark -/

/-- What stands before the first mark, and what behind it. -/
def cut (m : Mark α) : List α → Option (List α × List α)
  | [] => none
  | a :: s =>
      if m.symbols <+: a :: s then some ([], (a :: s).drop m.symbols.length)
      else (cut m s).map fun p => (a :: p.1, p.2)

theorem cut_of_begins {s : List α} (h : m.symbols <+: s) :
    cut m s = some ([], s.drop m.symbols.length) := by
  cases s with
  | nil => exact absurd (List.prefix_nil.1 h) m.ne_nil
  | cons a s => rw [cut, if_pos h]

theorem cut_mark (r : List α) : cut m (m.symbols ++ r) = some ([], r) := by
  rw [cut_of_begins (List.prefix_append _ _), List.drop_left]

theorem cut_cons {a : α} {s : List α} (h : ¬ m.symbols <+: a :: s) :
    cut m (a :: s) = (cut m s).map fun p => (a :: p.1, p.2) := by
  rw [cut, if_neg h]

theorem cut_eq_none {s : List α} : cut m s = none ↔ ¬ m.symbols <:+: s := by
  induction s with
  | nil => simp [cut, m.ne_nil]
  | cons a s ih =>
      rw [List.infix_cons_iff, not_or]
      by_cases hpre : m.symbols <+: a :: s
      · simp [cut, hpre]
      · simp [cut, hpre, ih]

theorem eq_of_cut {s b r : List α} (h : cut m s = some (b, r)) : s = b ++ (m.symbols ++ r) := by
  induction s generalizing b with
  | nil => cases h
  | cons a s ih =>
      by_cases hpre : m.symbols <+: a :: s
      · rw [cut_of_begins hpre] at h
        cases h
        exact (List.prefix_append_drop hpre)
      · rw [cut_cons hpre, Option.map_eq_some_iff] at h
        obtain ⟨⟨b', r'⟩, hcut, heq⟩ := h
        cases heq
        rw [List.cons_append, ← ih hcut]

theorem cut_append {b : List α} (hb : ¬ m.symbols <:+: b) (r : List α) :
    cut m (b ++ (m.symbols ++ r)) = some (b, r) := by
  induction b with
  | nil => exact cut_mark r
  | cons a b ih =>
      have hpre : ¬ m.symbols <+: a :: (b ++ (m.symbols ++ r)) := fun h =>
        hb (infix_of_prefix_append (b := a :: b) (List.cons_ne_nil a b) h)
      rw [List.cons_append, cut_cons hpre, ih fun h => hb (h.trans (List.suffix_cons a b).isInfix)]
      rfl

/-! ## All pieces -/

/-- The pieces of what stands behind a mark. The last is empty when a mark is the end. -/
def pieces (m : Mark α) : List α → List (List α)
  | [] => [[]]
  | a :: s =>
      match _h : cut m s with
      | none => [a :: s]
      | some (b, r) => (a :: b) :: pieces m r
termination_by s => s.length
decreasing_by
  rw [eq_of_cut _h]
  simp only [List.length_cons, List.length_append]
  omega

theorem pieces_nil : pieces m [] = [[]] := by rw [pieces]

theorem pieces_of_last {a : α} {s : List α} (h : cut m s = none) : pieces m (a :: s) = [a :: s] := by
  rw [pieces]
  split
  · rfl
  · next hcut => cases h.symm.trans hcut

theorem pieces_of_cut {a : α} {s b r : List α} (h : cut m s = some (b, r)) :
    pieces m (a :: s) = (a :: b) :: pieces m r := by
  rw [pieces]
  split
  · next hcut => cases h.symm.trans hcut
  · next hcut =>
      cases h.symm.trans hcut
      rfl

/-- No symbol is lost. -/
theorem joinMarked_pieces (s : List α) : joinMarked m (pieces m s) = m.symbols ++ s := by
  induction s using pieces.induct m with
  | case1 => simp [pieces_nil, joinMarked]
  | case2 a s h => simp [pieces_of_last h, joinMarked]
  | case3 a s b r h ih =>
      rw [pieces_of_cut h, joinMarked_cons, ih, eq_of_cut h, List.cons_append]

theorem pieces_append_joinMarked {u : List α} {us : List (List α)} (hu : m.Whole u)
    (hus : ∀ w ∈ us, m.Whole w) : pieces m (u ++ joinMarked m us) = u :: us := by
  induction us generalizing u with
  | nil =>
      cases u with
      | nil => exact absurd rfl hu.ne_nil
      | cons a s =>
          rw [joinMarked_nil, List.append_nil]
          exact pieces_of_last (cut_eq_none.2 fun h => hu.unmarked (h.trans (List.suffix_cons a s).isInfix))
  | cons w us ih =>
      cases u with
      | nil => exact absurd rfl hu.ne_nil
      | cons a s =>
          obtain ⟨hw, hus⟩ := List.forall_mem_cons.1 hus
          have hs : ¬ m.symbols <:+: s := fun h => hu.unmarked (h.trans (List.suffix_cons a s).isInfix)
          rw [joinMarked_cons, List.cons_append, pieces_of_cut (cut_append hs _), ih hw hus]

/-! ## Where they are found -/

/-- The pieces of a stream whose first symbol is at `off`. -/
def marked (m : Mark α) (off : ℕ) (s : List α) : List (Piece α) :=
  match cut m s with
  | none => []
  | some (b, r) => located m (off + b.length + m.symbols.length) (pieces m r)

theorem marked_of_none {off : ℕ} {s : List α} (h : cut m s = none) : marked m off s = [] := by
  rw [marked, h]

theorem marked_of_cut {off : ℕ} {s b r : List α} (h : cut m s = some (b, r)) :
    marked m off s = located m (off + b.length + m.symbols.length) (pieces m r) := by
  rw [marked, h]

theorem marked_eq_nil {off : ℕ} {s : List α} : marked m off s = [] ↔ cut m s = none := by
  cases hcut : cut m s with
  | none => simp [marked_of_none hcut]
  | some p =>
      rw [marked_of_cut hcut]
      cases hr : p.2 with
      | nil => simp [pieces_nil, located]
      | cons a r =>
          cases hnext : cut m r with
          | none => simp [pieces_of_last hnext, located]
          | some q => simp [pieces_of_cut hnext, located]

theorem marked_mark (off : ℕ) (r : List α) :
    marked m off (m.symbols ++ r) = located m (off + m.symbols.length) (pieces m r) :=
  marked_of_cut (cut_mark r)

/-- One symbol that begins no mark is passed over. -/
theorem marked_cons {off : ℕ} {a : α} {s : List α} (h : ¬ m.symbols <+: a :: s) :
    marked m off (a :: s) = marked m (off + 1) s := by
  cases hcut : cut m s with
  | none => rw [marked_of_none hcut, marked_of_none (by rw [cut_cons h, hcut, Option.map_none])]
  | some p =>
      rw [marked_of_cut (s := a :: s) (by rw [cut_cons h, hcut, Option.map_some]), marked_of_cut hcut,
        List.length_cons]
      congr 1
      omega

/-- So is everything before the first mark. -/
theorem marked_behind {off : ℕ} {s b r : List α} (h : cut m s = some (b, r)) :
    marked m (off + b.length) (m.symbols ++ r) = marked m off s := by
  rw [marked_of_cut h, marked_mark]

/-- The piece behind a mark, and the pieces of what follows its first symbol. -/
theorem marked_piece (off : ℕ) (a : α) (s : List α) :
    marked m off (m.symbols ++ a :: s) =
      ⟨off + m.symbols.length, a :: ((cut m s).map Prod.fst).getD s⟩ ::
        marked m (off + m.symbols.length + 1) s := by
  rw [marked_mark]
  cases hcut : cut m s with
  | none => rw [pieces_of_last hcut, marked_of_none hcut]; rfl
  | some p =>
      rw [pieces_of_cut hcut, marked_of_cut hcut, located, List.length_cons]
      congr 2
      omega

/-- No piece with a symbol in it is in a stream that is not longer than a mark. -/
theorem content_of_short {off : ℕ} {s : List α} (h : s.length ≤ m.symbols.length) {p : Piece α}
    (hp : p ∈ marked m off s) : p.content = [] := by
  cases hcut : cut m s with
  | none => rw [marked_of_none hcut] at hp; cases hp
  | some q =>
      obtain ⟨b, r⟩ := q
      have hlen := congrArg List.length (eq_of_cut hcut)
      simp only [List.length_append] at hlen
      have hr : r = [] := List.eq_nil_of_length_eq_zero (by omega)
      rw [marked_of_cut hcut, hr, pieces_nil, located, located, List.mem_singleton] at hp
      rw [hp]

/-- Pieces with a mark in front of each, and no more than the stream has. -/
theorem marked_eq_located (off : ℕ) (s : List α) :
    ∃ off' us, marked m off s = located m off' us ∧
      off' + (joinMarked m us).length ≤ off + s.length + m.symbols.length := by
  cases hcut : cut m s with
  | none => exact ⟨off, [], marked_of_none hcut, by simp only [joinMarked_nil, List.length_nil]; omega⟩
  | some p =>
      obtain ⟨b, r⟩ := p
      refine ⟨_, _, marked_of_cut hcut, ?_⟩
      rw [joinMarked_pieces, eq_of_cut hcut]
      simp only [List.length_append]
      omega

/-- Joined pieces are found where they were put. -/
theorem marked_joinMarked (off : ℕ) {us : List (List α)} (hus : ∀ u ∈ us, m.Whole u) :
    marked m off (joinMarked m us) = located m (off + m.symbols.length) us := by
  cases us with
  | nil => exact marked_of_none rfl
  | cons u us =>
      obtain ⟨hu, hus⟩ := List.forall_mem_cons.1 hus
      rw [joinMarked_cons, marked_mark, pieces_append_joinMarked hu hus]

end SmartPlat.Lib
