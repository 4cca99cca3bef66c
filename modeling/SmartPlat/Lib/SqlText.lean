import Mathlib.Data.List.Basic
import Mathlib.Data.List.Infix
import Mathlib.Tactic.Common
import Mathlib.Algebra.GroupWithZero.Nat

set_option autoImplicit false

/-! # Literals and patterns in the text of a statement

How a MySQL server reads the literals of a statement: a quote ends one unless it is doubled, and a
backslash goes together with the byte after it, as one byte, except that `\%` and `\_` stay as they
are. The text outside of literals is passed on byte by byte.

A program that pastes values between quotes means the text to read as the pieces it was made of.
`lex_render_iff` says when it does. -/

namespace SmartPlat.Lib

def quote : UInt8 := 39

def backslash : UInt8 := 92

/-! ## Reading a statement -/

inductive SqlToken where
  | raw (b : UInt8)
  | str (s : List UInt8)
  deriving DecidableEq, Repr

/-- Where the reader is: a literal is read into `acc`. -/
inductive LexState where
  | outside
  | literal (acc : List UInt8)
  | escape (acc : List UInt8)
  /-- After a quote in a literal: its end, unless another quote follows. -/
  | closing (acc : List UInt8)

/-- What a backslash and a byte stand for. -/
def unescape (b : UInt8) : List UInt8 :=
  if b = 48 then [0]         -- 0
  else if b = 98 then [8]    -- b
  else if b = 110 then [10]  -- n
  else if b = 114 then [13]  -- r
  else if b = 116 then [9]   -- t
  else if b = 90 then [26]   -- Z
  else if b = 37 ∨ b = 95 then [backslash, b]
  else [b]

def lexFrom : LexState → List UInt8 → Option (List SqlToken)
  | .outside, [] => some []
  | .literal _, [] => none
  | .escape _, [] => none
  | .closing acc, [] => some [.str acc]
  | .outside, b :: text =>
      if b = quote then lexFrom (.literal []) text
      else (lexFrom .outside text).map fun ts => .raw b :: ts
  | .literal acc, b :: text =>
      if b = quote then lexFrom (.closing acc) text
      else if b = backslash then lexFrom (.escape acc) text
      else lexFrom (.literal (acc ++ [b])) text
  | .escape acc, b :: text => lexFrom (.literal (acc ++ unescape b)) text
  | .closing acc, b :: text =>
      if b = quote then lexFrom (.literal (acc ++ [quote])) text
      else (lexFrom .outside text).map fun ts => .str acc :: .raw b :: ts

/-- The tokens of a statement, if all its literals end. -/
def lexSql (text : List UInt8) : Option (List SqlToken) := lexFrom .outside text

/-- The values that survive being pasted between quotes: no quote, and no backslash but one that
    stands before a `%` or a `_`. -/
def isPlain : List UInt8 → Bool
  | [] => true
  | [b] => b ≠ quote ∧ b ≠ backslash
  | b :: c :: v =>
      if b = quote then false
      else if b = backslash then (c = 37 ∨ c = 95) && isPlain v
      else isPlain (c :: v)

def Plain (v : List UInt8) : Prop := isPlain v = true

instance (v : List UInt8) : Decidable (Plain v) := inferInstanceAs (Decidable (isPlain v = true))

/-- Plain in UTF-8. -/
def PlainText (s : String) : Prop := Plain s.toUTF8.data.toList

instance (s : String) : Decidable (PlainText s) := inferInstanceAs (Decidable (Plain _))

theorem plain_of_forall {v : List UInt8} (h : ∀ b ∈ v, b ≠ quote ∧ b ≠ backslash) : Plain v := by
  unfold Plain
  fun_induction isPlain v with
  | case1 => rfl
  | case2 b => simpa using h b (by simp)
  | case3 => exact absurd rfl (h quote (by simp)).1
  | case4 => exact absurd rfl (h backslash (by simp)).2
  | case5 b c v _ _ ih => exact ih fun x hx => h x (List.mem_cons_of_mem _ hx)

/-! ## Counting bytes

Every token takes at least as many bytes as a program needs to write it plainly, so a reading that
gives the tokens meant cannot have wasted any. -/

def SqlToken.weight : SqlToken → ℕ
  | .raw _ => 1
  | .str s => s.length + 2

def weight (ts : List SqlToken) : ℕ := (ts.map SqlToken.weight).sum

@[simp]
theorem weight_nil : weight [] = 0 := rfl

@[simp]
theorem weight_cons (t : SqlToken) (ts : List SqlToken) : weight (t :: ts) = t.weight + weight ts := by
  simp [weight]

/-- The bytes read towards a token that is not complete. -/
def LexState.pending : LexState → ℕ
  | .outside => 0
  | .literal acc => acc.length + 1
  | .escape acc => acc.length + 2
  | .closing acc => acc.length + 2

theorem length_unescape_le (b : UInt8) : (unescape b).length ≤ 2 := by
  unfold unescape
  split_ifs <;> simp

theorem unescape_keep {b : UInt8} (h : b = 37 ∨ b = 95) : unescape b = [backslash, b] := by
  rcases h with rfl | rfl <;> rfl

theorem length_unescape {b : UInt8} (h : ¬ (b = 37 ∨ b = 95)) : (unescape b).length = 1 := by
  simp only [unescape, if_neg h]
  split_ifs <;> rfl

theorem weight_le {st : LexState} {text : List UInt8} {ts : List SqlToken}
    (h : lexFrom st text = some ts) : weight ts ≤ st.pending + text.length := by
  induction text generalizing st ts with
  | nil =>
      cases st <;> simp only [lexFrom, Option.some.injEq, reduceCtorEq] at h
      · simp [← h]
      · simp [← h, LexState.pending, SqlToken.weight]
  | cons b text ih =>
      cases st with
      | outside =>
          simp only [lexFrom] at h
          split at h
          · have := ih h
            simp only [LexState.pending, List.length_nil, List.length_cons] at this ⊢
            omega
          · obtain ⟨ts', hts, rfl⟩ := Option.map_eq_some_iff.1 h
            have := ih hts
            simp only [LexState.pending, List.length_cons, weight_cons, SqlToken.weight] at this ⊢
            omega
      | literal acc =>
          simp only [lexFrom] at h
          split_ifs at h <;>
            · have := ih h
              simp only [LexState.pending, List.length_cons, List.length_append, List.length_nil]
                at this ⊢
              omega
      | escape acc =>
          have hlit : lexFrom (.literal (acc ++ unescape b)) text = some ts := h
          have := ih hlit
          have := length_unescape_le b
          simp only [LexState.pending, List.length_cons, List.length_append] at *
          omega
      | closing acc =>
          simp only [lexFrom] at h
          split at h
          · have := ih h
            simp only [LexState.pending, List.length_cons, List.length_append, List.length_nil]
              at this ⊢
            omega
          · obtain ⟨ts', hts, rfl⟩ := Option.map_eq_some_iff.1 h
            have := ih hts
            simp only [LexState.pending, List.length_cons, weight_cons, SqlToken.weight] at this ⊢
            omega

/-- A reading that cannot get the weight asked of it fails. -/
theorem lexFrom_ne {st : LexState} {text : List UInt8} {ts : List SqlToken}
    (h : st.pending + text.length < weight ts) : lexFrom st text ≠ some ts :=
  fun heq => absurd (weight_le heq) (Nat.not_le.2 h)

/-! ## One literal -/

section Literal

variable {tail : List UInt8} {ts : List SqlToken}

/-- The quote of the program ends the literal. -/
theorem lex_end (htail : tail.head? ≠ some quote) (acc : List UInt8) :
    lexFrom (.literal acc) (quote :: tail) = some (.str acc :: ts) ↔
      lexFrom .outside tail = some ts := by
  simp only [lexFrom, if_true]
  cases tail with
  | nil => simp [lexFrom, eq_comm]
  | cons b tail =>
      have hb : b ≠ quote := fun h => htail (by rw [h]; rfl)
      simp only [lexFrom, if_neg hb]
      cases lexFrom .outside tail with
      | none => simp
      | some ts' => simp

/-- A literal with a value pasted in reads as that value, and the rest as the rest, exactly when the
    value is plain. -/
theorem lex_literal_iff (htail : tail.head? ≠ some quote) (hw : weight ts = tail.length)
    (v acc : List UInt8) :
    lexFrom (.literal acc) (v ++ quote :: tail) = some (.str (acc ++ v) :: ts) ↔
      Plain v ∧ lexFrom .outside tail = some ts := by
  fun_induction isPlain v generalizing acc with
  | case1 =>
      rw [List.append_nil, List.nil_append, lex_end htail acc]
      exact (and_iff_right rfl).symm
  | case2 b =>
      have hplain : Plain [b] ↔ b ≠ quote ∧ b ≠ backslash := by simp [Plain, isPlain]
      rw [hplain, List.cons_append, List.nil_append]
      by_cases hq : b = quote
      · -- the two quotes read as one, and the text that follows belongs to the literal
        subst hq
        refine iff_of_false ?_ fun h => h.1.1 rfl
        simp only [lexFrom, if_true]
        exact lexFrom_ne (by simp [LexState.pending, SqlToken.weight, hw])
      · by_cases hb : b = backslash
        · subst hb
          refine iff_of_false ?_ fun h => h.1.2 rfl
          simp only [lexFrom, if_neg hq, if_true]
          exact lexFrom_ne (by simp [LexState.pending, SqlToken.weight, hw, unescape, quote])
        · simp only [lexFrom, if_neg hq, if_neg hb]
          exact (lex_end htail _).trans (and_iff_right ⟨hq, hb⟩).symm
  | case3 c v =>
      -- a quote inside the value
      refine iff_of_false ?_ fun h => absurd h.1 (by simp [Plain, isPlain])
      simp only [List.cons_append, lexFrom, if_true]
      by_cases hc : c = quote
      · subst hc
        simp only [if_true]
        refine lexFrom_ne ?_
        simp only [LexState.pending, SqlToken.weight, weight_cons, hw, List.length_append,
          List.length_cons, List.length_nil]
        omega
      · -- the literal has ended before its time
        simp only [if_neg hc]
        cases lexFrom .outside (v ++ quote :: tail) <;> simp
  | case4 c v hq ih =>
      -- of the escapes only `\%` and `\_` stand for themselves
      have hstep : lexFrom (.literal acc) (backslash :: c :: v ++ quote :: tail) =
          lexFrom (.literal (acc ++ unescape c)) (v ++ quote :: tail) := by
        simp only [List.cons_append, lexFrom, if_neg hq, if_true]
      rw [hstep]
      by_cases hc : c = 37 ∨ c = 95
      · have hplain : Plain (backslash :: c :: v) ↔ Plain v := by simp [Plain, isPlain, hq, hc]
        rw [unescape_keep hc, hplain, ← ih (acc ++ [backslash, c]), List.append_assoc]
        rfl
      · refine iff_of_false ?_ fun h => absurd h.1 (by simp [Plain, isPlain, hq, hc])
        refine lexFrom_ne ?_
        simp only [LexState.pending, SqlToken.weight, weight_cons, hw, List.length_append,
          List.length_cons, length_unescape hc]
        omega
  | case5 b c v hq hb ih =>
      have hplain : Plain (b :: c :: v) ↔ Plain (c :: v) := by simp [Plain, isPlain, hq, hb]
      have hstep : lexFrom (.literal acc) (b :: c :: v ++ quote :: tail) =
          lexFrom (.literal (acc ++ [b])) (c :: v ++ quote :: tail) := by
        rw [List.cons_append, lexFrom, if_neg hq, if_neg hb]
      rw [hstep, hplain, ← ih (acc ++ [b]), List.append_assoc]
      rfl

end Literal

/-! ## Statements made of pieces -/

/-- A piece of a statement: text, or a value between quotes. -/
inductive SqlPart where
  | text (bytes : List UInt8)
  | value (v : List UInt8)

/-- The text of the statement, every value pasted in as it is. -/
def render : List SqlPart → List UInt8
  | [] => []
  | .text bytes :: ps => bytes ++ render ps
  | .value v :: ps => quote :: (v ++ quote :: render ps)

/-- What it is meant to be read as. -/
def tokens : List SqlPart → List SqlToken
  | [] => []
  | .text bytes :: ps => bytes.map .raw ++ tokens ps
  | .value v :: ps => .str v :: tokens ps

/-- No text holds a quote, and none follows a value. -/
def WellFormed : List SqlPart → Prop
  | [] => True
  | .text bytes :: ps => quote ∉ bytes ∧ WellFormed ps
  | .value _ :: ps => (render ps).head? ≠ some quote ∧ WellFormed ps

theorem weight_tokens (ps : List SqlPart) : weight (tokens ps) = (render ps).length := by
  induction ps with
  | nil => rfl
  | cons p ps ih =>
      cases p with
      | text bytes =>
          rw [tokens, render, List.length_append, ← ih]
          induction bytes with
          | nil => simp
          | cons b bytes ihb =>
              simp only [List.map_cons, List.cons_append, weight_cons, SqlToken.weight, ihb,
                List.length_cons]
              omega
      | value v =>
          simp only [tokens, render, weight_cons, SqlToken.weight, ih, List.length_cons,
            List.length_append]
          omega

theorem lexFrom_text {bytes text : List UInt8} {ts : List SqlToken} (h : quote ∉ bytes) :
    lexFrom .outside (bytes ++ text) = some (bytes.map .raw ++ ts) ↔
      lexFrom .outside text = some ts := by
  induction bytes with
  | nil => simp
  | cons b bytes ih =>
      rw [List.mem_cons, not_or] at h
      rw [← ih h.2, List.cons_append, lexFrom, if_neg (Ne.symm h.1)]
      simp

/-- **The statement is read as it is meant** exactly when every value pasted in is plain. -/
theorem lex_render_iff {ps : List SqlPart} (h : WellFormed ps) :
    lexSql (render ps) = some (tokens ps) ↔ ∀ v, .value v ∈ ps → Plain v := by
  rw [lexSql]
  induction ps with
  | nil => simp [render, tokens, lexFrom]
  | cons p ps ih =>
      cases p with
      | text bytes =>
          rw [render, tokens, lexFrom_text h.1, ih h.2]
          simp
      | value v =>
          have hlit := lex_literal_iff h.1 (weight_tokens ps) v []
          rw [List.nil_append] at hlit
          rw [render, tokens, lexFrom, if_pos rfl, hlit, ih h.2]
          simp

/-! ## Patterns of `like`

A MySQL server reads a pattern twice. As a literal, a backslash goes together with the character after
it, except that `\%` and `\_` stay as they are. As a pattern, `%` stands for any text, `_` for any
character, and a backslash takes the meaning away from the character after it. Characters are as the
collation takes them: two that it takes as equal are written alike. -/

/-- What a backslash and a character stand for in a literal. -/
def escapeText (c : Char) : List Char :=
  if c = '0' then [Char.ofNat 0]
  else if c = 'b' then [Char.ofNat 8]
  else if c = 'n' then [Char.ofNat 10]
  else if c = 'r' then [Char.ofNat 13]
  else if c = 't' then [Char.ofNat 9]
  else if c = 'Z' then [Char.ofNat 26]
  else if c = '%' ∨ c = '_' then ['\\', c]
  else [c]

/-- The value of a literal without quotes. -/
def literalText : List Char → List Char
  | '\\' :: c :: s => escapeText c ++ literalText s
  | c :: s => c :: literalText s
  | [] => []

def likeMatch : List Char → List Char → Bool
  | [], s => s.isEmpty
  | '%' :: p, s => s.tails.any fun s => likeMatch p s
  | '\\' :: c :: p, s =>
      match s with
      | [] => false
      | d :: s => d = c && likeMatch p s
  | c :: p, s =>
      match s with
      | [] => false
      | d :: s => (c = '_' || d = c) && likeMatch p s

/-- `like '%text%'` -/
def likeContains (text s : List Char) : Bool := likeMatch (literalText ('%' :: (text ++ ['%']))) s

/-- A character that stands for itself. -/
def PlainChar (c : Char) : Prop := c ≠ '%' ∧ c ≠ '_' ∧ c ≠ '\\'

instance (c : Char) : Decidable (PlainChar c) := inferInstanceAs (Decidable (_ ∧ _))

variable {p q s text : List Char} {c : Char}

theorem literalText_cons (hc : c ≠ '\\') : literalText (c :: s) = c :: literalText s := by
  rw [literalText]
  rintro d s' rfl
  exact absurd rfl hc

theorem literalText_plain (hp : ∀ c ∈ p, PlainChar c) : literalText (p ++ q) = p ++ literalText q := by
  induction p with
  | nil => rfl
  | cons c p ih =>
      rw [List.cons_append, literalText_cons (hp c List.mem_cons_self).2.2,
        ih fun d hd => hp d (List.mem_cons_of_mem _ hd), List.cons_append]

theorem likeMatch_percent :
    likeMatch ('%' :: p) s = true ↔ ∃ s', s' <:+ s ∧ likeMatch p s' = true := by
  rw [likeMatch, List.any_eq_true]
  simp only [List.mem_tails]

theorem likeMatch_any : likeMatch ['%'] s = true :=
  likeMatch_percent.2 ⟨[], List.nil_suffix, rfl⟩

theorem likeMatch_cons_nil (hc : PlainChar c) : likeMatch (c :: p) [] = false :=
  likeMatch.eq_5 c p hc.1 fun _ _ h => absurd h hc.2.2

theorem likeMatch_cons_cons (hc : PlainChar c) {d : Char} :
    likeMatch (c :: p) (d :: s) = (d = c && likeMatch p s) := by
  rw [likeMatch.eq_6 c p d s hc.1 fun _ _ h => absurd h hc.2.2, decide_eq_false hc.2.1,
    Bool.false_or]

/-- Plain characters match themselves. -/
theorem likeMatch_plain (hp : ∀ c ∈ p, PlainChar c) :
    likeMatch (p ++ q) s = true ↔ ∃ s', s = p ++ s' ∧ likeMatch q s' = true := by
  induction p generalizing s with
  | nil => simp only [List.nil_append, exists_eq_left']
  | cons c p ih =>
      have hc := hp c List.mem_cons_self
      have hrest : ∀ d ∈ p, PlainChar d := fun d hd => hp d (List.mem_cons_of_mem _ hd)
      cases s with
      | nil => simp [likeMatch_cons_nil hc]
      | cons d s =>
          rw [List.cons_append, likeMatch_cons_cons hc, Bool.and_eq_true, decide_eq_true_iff, ih hrest]
          constructor
          · rintro ⟨rfl, s', rfl, h⟩
            exact ⟨s', rfl, h⟩
          · intro ⟨s', heq, h⟩
            rw [List.cons_append, List.cons.injEq] at heq
            exact ⟨heq.1, s', heq.2, h⟩

/-- **A plain text is looked for as it is.** -/
theorem likeContains_iff (htext : ∀ c ∈ text, PlainChar c) :
    likeContains text s = true ↔ text <:+: s := by
  have hpattern : literalText ('%' :: (text ++ ['%'])) = '%' :: (text ++ ['%']) := by
    rw [literalText_cons (by decide), literalText_plain htext]
    rfl
  rw [likeContains, hpattern, likeMatch_percent]
  constructor
  · rintro ⟨_, ⟨s₁, rfl⟩, h⟩
    obtain ⟨s₂, rfl, -⟩ := (likeMatch_plain htext).1 h
    exact ⟨s₁, s₂, List.append_assoc _ _ _⟩
  · rintro ⟨s₁, s₂, rfl⟩
    refine ⟨text ++ s₂, ⟨s₁, (List.append_assoc _ _ _).symm⟩, ?_⟩
    exact (likeMatch_plain htext).2 ⟨s₂, rfl, likeMatch_any⟩

example : likeContains ['1', '_', '3'] ['A', '1', '2', '3', '4'] = true := by decide

end SmartPlat.Lib
