import SmartPlat.CJsonPrint
import SmartPlat.CJsonParse

set_option autoImplicit false

/-! # What is printed parses back (`ExtLibs/CJson/cjson.c`)

Every item without floating point is what `cJSON_Parse` makes of its texts, however they are laid out with
blanks; both printers write such texts. -/

namespace SmartPlat.CJsonItem

open SmartPlat.Lib

/-! ## Strings -/

theorem parseHex4_hexDigit (b : UInt8) :
    parseHex4 48 48 (hexDigit (b / 16)) (hexDigit (b % 16)) = b.toNat := by
  have hall : ∀ n : Fin 256,
      parseHex4 48 48 (hexDigit (UInt8.ofFin n / 16)) (hexDigit (UInt8.ofFin n % 16)) =
        (UInt8.ofFin n).toNat := by
    decide +kernel
  exact hall b.toFin

theorem unicodeEscape_hexDigit {b : UInt8} (h0 : b ≠ 0) (h : b < 128) (s : List UInt8) :
    unicodeEscape (48 :: 48 :: hexDigit (b / 16) :: hexDigit (b % 16) :: s) = .ok ([b], s) := by
  have hpos : b.toNat ≠ 0 := fun heq => h0 (UInt8.toNat_inj.1 heq)
  have hlt : b.toNat < 128 := h
  simp only [unicodeEscape, parseHex4_hexDigit]
  rw [if_neg (by omega), if_neg (by omega), transcode, if_pos hlt, UInt8.ofNat_toNat]

/-- A byte that has been escaped is read back in one round. -/
theorem unescape_escape {b : UInt8} (h0 : b ≠ 0) (n : ℕ) (s : List UInt8) :
    unescape (n + 1) (escape b ++ s) = (unescape n s).map fun r => (b :: r.1, r.2) := by
  have hsequence : ∀ x, escapeSequence (x ++ s) = .ok ([b], s) →
      unescape (n + 1) (92 :: x ++ s) = (unescape n s).map fun r => (b :: r.1, r.2) := by
    intro x hx
    rw [List.cons_append, unescape, if_neg (by decide), if_neg (by decide), hx]
    rfl
  unfold escape
  split_ifs with hplain h92 h34 h8 h12 h10 h13 h9
  · obtain ⟨-, h34, h92⟩ := hplain
    rw [List.singleton_append, unescape, if_neg h34, if_pos h92]
  · exact hsequence [92] (by subst h92; rfl)
  · exact hsequence [34] (by subst h34; rfl)
  · exact hsequence [98] (by subst h8; rfl)
  · exact hsequence [102] (by subst h12; rfl)
  · exact hsequence [110] (by subst h10; rfl)
  · exact hsequence [114] (by subst h13; rfl)
  · exact hsequence [116] (by subst h9; rfl)
  · have hlt : b < 128 := by
      refine UInt8.not_le.1 fun hle => hplain ⟨UInt8.lt_of_lt_of_le (by decide) hle, h34, h92⟩
    exact hsequence [117, 48, 48, _, _] (unicodeEscape_hexDigit h0 hlt s)

theorem unescape_flatMap {l : List UInt8} (h : 0 ∉ l) {n : ℕ} (hn : l.length < n) (s : List UInt8) :
    unescape n (l.flatMap escape ++ 34 :: s) = .ok (l, s) := by
  induction l generalizing n with
  | nil =>
      obtain ⟨n, rfl⟩ := Nat.exists_eq_succ_of_ne_zero (Nat.ne_of_gt hn)
      rfl
  | cons b l ih =>
      rw [List.mem_cons, not_or] at h
      obtain ⟨hb, hl⟩ := h
      obtain ⟨n, rfl⟩ := Nat.exists_eq_succ_of_ne_zero (Nat.ne_of_gt (Nat.zero_lt_of_lt hn))
      rw [List.flatMap_cons, List.append_assoc, unescape_escape (Ne.symm hb),
        ih hl (Nat.lt_of_succ_lt_succ hn)]
      rfl

theorem length_le_flatMap_escape (l : List UInt8) : l.length ≤ (l.flatMap escape).length := by
  induction l with
  | nil => exact Nat.le_refl 0
  | cons b l ih =>
      have hpos : 0 < (escape b).length := by
        rw [length_escape, escapedByte]
        split_ifs <;> decide
      rw [List.flatMap_cons, List.length_append, List.length_cons]
      omega

theorem parseString_printStringPtr (s : CString) (rest : List UInt8) :
    parseString (printStringPtr s ++ rest) = .ok (s, rest) := by
  have hlen := length_le_flatMap_escape s.bytes
  have htext : printStringPtr s ++ rest = 34 :: (s.bytes.flatMap escape ++ 34 :: rest) := by
    simp [printStringPtr]
  rw [htext, parseString, unescape_flatMap s.noNul (by
    rw [List.length_append, List.length_cons]
    omega)]
  exact congrArg (fun s => Except.ok (s, rest)) (CString.ext_bytes (CString.bytes_ofBuffer s.noNul))

/-! ## Numbers -/

/-- Nothing that belongs to a number. -/
def Stops (rest : List UInt8) : Prop :=
  ∀ b ∈ rest.head?, isDigit b = false ∧ b ≠ 46 ∧ b ≠ 101 ∧ b ≠ 69

theorem stops_nil : Stops [] := fun _ h => nomatch h

theorem stops_cons {b : UInt8} (h : isDigit b = false ∧ b ≠ 46 ∧ b ≠ 101 ∧ b ≠ 69) (rest : List UInt8) :
    Stops (b :: rest) := fun _ hb => Option.some.inj hb ▸ h

variable {rest : List UInt8}

theorem skipFraction_of_stops (h : Stops rest) : skipFraction rest = rest := by
  unfold skipFraction
  split
  · next b s => exact absurd rfl (h 46 rfl).2.1
  · rfl

theorem skipExponent_of_stops (h : Stops rest) : skipExponent rest = rest := by
  cases rest with
  | nil => rfl
  | cons b rest =>
      obtain ⟨-, -, he, hE⟩ := h b rfl
      exact if_neg (not_or.2 ⟨he, hE⟩)

theorem isDigit_of_mem_decimal {n : ℕ} {b : UInt8} (h : b ∈ decimal n) : isDigit b = true :=
  decide_eq_true (digit_of_mem_decimal h)

/-- The first digit, which is a zero only for zero. -/
theorem exists_decimal (n : ℕ) : ∃ b l, decimal n = b :: l ∧ isDigit b = true ∧ (n ≠ 0 → b ≠ 48) := by
  by_cases h : n = 0
  · subst h
    exact ⟨48, [], rfl, rfl, absurd rfl⟩
  · have hne : Nat.digits 10 n ≠ [] := Nat.digits_ne_nil_iff_ne_zero.2 h
    have hlast := Nat.getLast_digit_ne_zero 10 h
    have hlt : (Nat.digits 10 n).getLast hne < 10 :=
      Nat.digits_lt_base (by decide) (List.getLast_mem hne)
    rw [decimal, if_neg h]
    conv =>
      enter [1, b, 1, l, 1, 1]
      rw [← List.dropLast_append_getLast hne, List.reverse_append]
    refine ⟨_, _, rfl, ?_⟩
    generalize (Nat.digits 10 n).getLast hne = d at hlast hlt
    interval_cases d
    · exact absurd rfl hlast
    all_goals exact ⟨rfl, fun _ => by decide⟩

theorem integerDigits_decimal {n : ℕ} (hn : n ≠ 0) (h : Stops rest) :
    integerDigits (decimal n ++ rest) = decimal n := by
  obtain ⟨b, l, hb, hdigit, hne⟩ := exists_decimal n
  have hhead : ((decimal n ++ rest).head?.any fun b => isDigit b && decide (b ≠ 48)) = true := by
    simp [hb, hdigit, hne hn]
  have hrest : rest.takeWhile isDigit = [] := by
    cases rest with
    | nil => rfl
    | cons c rest => exact List.takeWhile_cons_of_neg (by simpa using (h c rfl).1)
  rw [integerDigits, if_pos hhead, List.takeWhile_append_of_pos fun _ hb => isDigit_of_mem_decimal hb,
    hrest, List.append_nil]

theorem integerDigits_of_stops (h : Stops rest) : integerDigits rest = [] := by
  cases rest with
  | nil => rfl
  | cons b rest => simp [integerDigits, (h b rfl).1]

/-- The digits of a number are found where nothing of a number follows. -/
theorem integerPart_decimal (n : ℕ) (h : Stops rest) :
    ∃ digits, integerPart (decimal n ++ rest) = (digits, rest) ∧ digitsValue digits = n := by
  obtain ⟨b, l, hb, -, hne⟩ := exists_decimal n
  by_cases hn : n = 0
  · subst hn
    have hnone := integerDigits_of_stops h
    refine ⟨[], ?_, rfl⟩
    show (integerDigits rest, rest.drop (integerDigits rest).length) = _
    rw [hnone]
    rfl
  · have hhead : (decimal n ++ rest).head? ≠ some 48 := by
      rw [hb]
      exact fun heq => hne hn (Option.some.inj heq)
    refine ⟨decimal n, ?_, foldl_decimal n⟩
    simp only [integerPart, if_neg hhead, integerDigits_decimal hn h, List.drop_left]

variable {float : List UInt8 → CJsonItem}

theorem parseNumber_decimalInt {n : ℤ} (hn : FitsInt n) (h : Stops rest) :
    parseNumber float (decimalInt n ++ rest) = (.number n, rest) := by
  have hend : skipExponent (skipFraction rest) = rest := by
    rw [skipFraction_of_stops h, skipExponent_of_stops h]
  cases n with
  | ofNat n =>
      obtain ⟨digits, hpart, hvalue⟩ := integerPart_decimal n h
      obtain ⟨b, l, hb, hdigit, -⟩ := exists_decimal n
      have hsign : (decimal n ++ rest).head? ≠ some 45 := by
        rw [hb]
        rintro heq
        obtain rfl := Option.some.inj heq
        exact Bool.false_ne_true hdigit
      have htext : decimalInt (Int.ofNat n) = decimal n := rfl
      rw [htext]
      simp only [parseNumber, if_neg hsign, hpart, hvalue, hend, true_and]
      exact if_pos hn
  | negSucc n =>
      obtain ⟨digits, hpart, hvalue⟩ := integerPart_decimal (n + 1) h
      simp only [parseNumber, decimalInt, List.cons_append, List.head?_cons, if_true, List.tail_cons, hpart,
        hvalue, hend, true_and]
      exact if_pos hn

/-! ## Values -/

/-- There is no floating point in it, and its numbers are of the type `int`. -/
inductive Exact : CJsonItem → Prop
  | null : Exact null
  | bool (b : Bool) : Exact (bool b)
  | number {n : ℤ} (h : FitsInt n) : Exact (number n)
  | string (s : CString) : Exact (string s)
  | array {child : List CJsonItem} (h : ∀ c ∈ child, Exact c) : Exact (array child)
  | object {child : List (CString × CJsonItem)} (h : ∀ c ∈ child, Exact c.2) : Exact (object child)

/-- A member of an object; `gap` stands behind the colon. -/
def memberText (gap : List UInt8) (text : CJsonItem → List UInt8) (c : CString × CJsonItem) : List UInt8 :=
  printStringPtr c.1 ++ 58 :: (gap ++ text c.2)

/-- The texts of an item, laid out with blanks. `pre` stands in front of each child, but `k` bytes of it are
    missing in front of the first; `post` stands in front of the bracket. -/
inductive TextOf : CJsonItem → List UInt8 → Prop
  | null : TextOf null (ascii "null")
  | bool (b : Bool) : TextOf (bool b) (ascii (if b then "true" else "false"))
  | number {n : ℤ} (h : FitsInt n) : TextOf (number n) (decimalInt n)
  | string (s : CString) : TextOf (string s) (printStringPtr s)
  | emptyArray {post : List UInt8} (hpost : arrayPunctuation.Blanks post) :
      TextOf (array []) (91 :: post ++ [93])
  | emptyObject {post : List UInt8} (hpost : objectPunctuation.Blanks post) :
      TextOf (object []) (123 :: post ++ [125])
  | array {child : List CJsonItem} {text : CJsonItem → List UInt8} {pre post : List UInt8} {k : ℕ}
      (hne : child ≠ []) (hpre : arrayPunctuation.Blanks pre) (hpost : arrayPunctuation.Blanks post)
      (hk : k ≤ pre.length) (h : ∀ c ∈ child, TextOf c (text c)) :
      TextOf (array child) (91 :: (joined arrayPunctuation pre post (child.map text)).drop k)
  | object {child : List (CString × CJsonItem)} {text : CJsonItem → List UInt8}
      {pre post gap : List UInt8} {k : ℕ} (hne : child ≠ []) (hpre : objectPunctuation.Blanks pre)
      (hpost : objectPunctuation.Blanks post) (hgap : objectPunctuation.Blanks gap) (hk : k ≤ pre.length)
      (h : ∀ c ∈ child, TextOf c.2 (text c.2)) :
      TextOf (object child)
        (123 :: (joined objectPunctuation pre post (child.map (memberText gap text))).drop k)

/-- The first byte of a value. -/
structure Leads (b : UInt8) : Prop where
  not_blank : blank b = false
  not_bracket : b ≠ 93

theorem exists_decimalInt (n : ℤ) : ∃ b l, decimalInt n = b :: l ∧ (b = 45 ∨ isDigit b) := by
  cases n with
  | ofNat n =>
      obtain ⟨b, l, hb, hdigit, -⟩ := exists_decimal n
      exact ⟨b, l, hb, .inr hdigit⟩
  | negSucc n => exact ⟨45, decimal (n + 1), rfl, .inl rfl⟩

theorem leads_of_number {b : UInt8} (h : b = 45 ∨ isDigit b) : Leads b := by
  have hall : ∀ n : Fin 256, (UInt8.ofFin n = 45 ∨ isDigit (UInt8.ofFin n) = true) →
      blank (UInt8.ofFin n) = false ∧ UInt8.ofFin n ≠ 93 := by
    decide +kernel
  obtain ⟨hblank, hne⟩ := hall b.toFin h
  exact ⟨hblank, hne⟩

variable {item : CJsonItem} {s : List UInt8}

theorem TextOf.exists_cons (h : TextOf item s) : ∃ b l, s = b :: l ∧ Leads b := by
  cases h with
  | null => exact ⟨110, _, rfl, rfl, by decide⟩
  | bool b =>
      cases b with
      | false => exact ⟨102, _, rfl, rfl, by decide⟩
      | true => exact ⟨116, _, rfl, rfl, by decide⟩
  | number h =>
      obtain ⟨b, l, hb, hnumber⟩ := exists_decimalInt _
      exact ⟨b, l, hb, leads_of_number hnumber⟩
  | string s => exact ⟨34, _, rfl, rfl, by decide⟩
  | emptyArray hpost => exact ⟨91, _, rfl, rfl, by decide⟩
  | emptyObject hpost => exact ⟨123, _, rfl, rfl, by decide⟩
  | array hne hpre hpost hk h => exact ⟨91, _, rfl, rfl, by decide⟩
  | object hne hpre hpost hgap hk h => exact ⟨123, _, rfl, rfl, by decide⟩

theorem TextOf.exists_succ (h : TextOf item s) {n : ℕ} (hn : s.length ≤ n) : ∃ m, n = m + 1 := by
  obtain ⟨b, l, rfl, -⟩ := h.exists_cons
  rw [List.length_cons] at hn
  exact ⟨n - 1, by omega⟩

theorem TextOf.begins (h : TextOf item s) {p : Punctuation UInt8} (hp : p.blank = blank)
    (rest : List UInt8) : p.Begins (s ++ rest) := by
  obtain ⟨b, l, rfl, hleads⟩ := h.exists_cons
  intro b' hb'
  obtain rfl := Option.some.inj hb'
  rw [hp]
  exact hleads.not_blank

theorem begins_memberText (gap : List UInt8) (text : CJsonItem → List UInt8) (c : CString × CJsonItem)
    (rest : List UInt8) : objectPunctuation.Begins (memberText gap text c ++ rest) := by
  intro b hb
  rw [memberText, printStringPtr] at hb
  obtain rfl := Option.some.inj hb
  rfl

/-! ## Sequences -/

theorem stops_of_blank {b : UInt8} (h : blank b = true) (s : List UInt8) : Stops (b :: s) := by
  have hall : ∀ n : Fin 256, blank (UInt8.ofFin n) = true → isDigit (UInt8.ofFin n) = false ∧
      UInt8.ofFin n ≠ 46 ∧ UInt8.ofFin n ≠ 101 ∧ UInt8.ofFin n ≠ 69 := by
    decide +kernel
  exact stops_cons (hall b.toFin h) s

theorem stops_of_follows {p : Punctuation UInt8} {post : List UInt8} (hp : p.Follows post rest)
    (hblank : p.blank = blank) (hsep : p.sep = 44) (hclose : p.close = 93 ∨ p.close = 125)
    (hpost : p.Blanks post) : Stops rest := by
  obtain ⟨s, rfl | rfl⟩ := hp
  · rw [hsep]
    exact stops_cons (by decide) s
  · cases post with
    | nil =>
        rcases hclose with hclose | hclose
        · rw [hclose]
          exact stops_cons (by decide) s
        · rw [hclose]
          exact stops_cons (by decide) s
    | cons b post => exact stops_of_blank (hblank ▸ hpost b List.mem_cons_self) _

section

variable {value : List UInt8 → Parsed CJsonItem} {text : CJsonItem → List UInt8}
  {pre post gap v : List UInt8} {k : ℕ}

theorem parseArray_of_close (h : skip s = 93 :: rest) : parseArray value s = .ok (.array [], rest) := by
  rw [parseArray, h]
  rfl

theorem parseArray_of_skip (h : skip s = v) (hne : v.head? ≠ some 93) :
    parseArray value s =
      (separated arrayPunctuation .failure value v.length v).map fun r => (.array r.1, r.2) := by
  unfold parseArray
  rw [h]
  split
  · exact absurd rfl hne
  · rfl

theorem parseObject_of_close (h : skip s = 125 :: rest) : parseObject value s = .ok (.object [], rest) := by
  rw [parseObject, h]
  rfl

theorem parseObject_of_skip (h : skip s = v) (hne : v.head? ≠ some 125) :
    parseObject value s =
      (separated objectPunctuation .failure (parseMember value) v.length v).map
        fun r => (.object r.1, r.2) := by
  unfold parseObject
  rw [h]
  split
  · exact absurd rfl hne
  · rfl

/-- An array is read if its elements are. -/
theorem parseArray_joined {child : List CJsonItem} (hne : child ≠ [])
    (hpre : arrayPunctuation.Blanks pre) (hpost : arrayPunctuation.Blanks post) (hk : k ≤ pre.length)
    (htext : ∀ c ∈ child, TextOf c (text c))
    (hread : ∀ c ∈ child, ∀ rest, Stops rest → value (text c ++ rest) = .ok (c, rest)) :
    parseArray value ((joined arrayPunctuation pre post (child.map text)).drop k ++ rest) =
      .ok (.array child, rest) := by
  obtain ⟨c, child, rfl⟩ := List.exists_cons_of_ne_nil hne
  have hbegins : ∀ c' ∈ c :: child, ∀ rest, arrayPunctuation.Begins (text c' ++ rest) :=
    fun c' hc' => (htext c' hc').begins rfl
  obtain ⟨tail, htail, -⟩ := skip_joined hpre post (hbegins c List.mem_cons_self) (child.map text) rest
  have hskip : skip ((joined arrayPunctuation pre post ((c :: child).map text)).drop k ++ rest) =
      text c ++ tail :=
    (skip_drop_joined hpre post hk (text c) (child.map text) rest).trans htail
  have hhead : (text c ++ tail).head? ≠ some 93 := by
    obtain ⟨b, l, hb, hleads⟩ := (htext c List.mem_cons_self).exists_cons
    rw [hb]
    exact fun h => hleads.not_bracket (Option.some.inj h)
  rw [parseArray_of_skip hskip hhead, separated_skip_joined hpre hpost hne hbegins
    (fun c' hc' rest hrest => hread c' hc' rest (stops_of_follows hrest rfl rfl (.inl rfl) hpost)) htail]
  rfl

theorem parseMember_memberText {c : CString × CJsonItem} (hgap : objectPunctuation.Blanks gap)
    (htext : TextOf c.2 (text c.2)) (hread : value (text c.2 ++ rest) = .ok (c.2, rest)) :
    parseMember value (memberText gap text c ++ rest) = .ok (c, rest) := by
  have hmember : memberText gap text c ++ rest =
      printStringPtr c.1 ++ 58 :: (gap ++ (text c.2 ++ rest)) := by
    simp [memberText]
  have hcolon : skip (58 :: (gap ++ (text c.2 ++ rest))) = 58 :: (gap ++ (text c.2 ++ rest)) := rfl
  have hskip : skip (gap ++ (text c.2 ++ rest)) = text c.2 ++ rest :=
    (skip_blanks hgap _).trans (skip_of_begins (htext.begins rfl rest))
  rw [hmember, parseMember, parseString_printStringPtr]
  simp only [hcolon, hskip, hread]
  rfl

/-- An object is read if the values of its members are. -/
theorem parseObject_joined {child : List (CString × CJsonItem)} (hne : child ≠ [])
    (hpre : objectPunctuation.Blanks pre) (hpost : objectPunctuation.Blanks post)
    (hgap : objectPunctuation.Blanks gap) (hk : k ≤ pre.length)
    (htext : ∀ c ∈ child, TextOf c.2 (text c.2))
    (hread : ∀ c ∈ child, ∀ rest, Stops rest → value (text c.2 ++ rest) = .ok (c.2, rest)) :
    parseObject value
        ((joined objectPunctuation pre post (child.map (memberText gap text))).drop k ++ rest) =
      .ok (.object child, rest) := by
  obtain ⟨c, child, rfl⟩ := List.exists_cons_of_ne_nil hne
  obtain ⟨tail, htail, -⟩ := skip_joined hpre post (begins_memberText gap text c)
    (child.map (memberText gap text)) rest
  have hskip :
      skip ((joined objectPunctuation pre post ((c :: child).map (memberText gap text))).drop k ++ rest) =
        memberText gap text c ++ tail :=
    (skip_drop_joined hpre post hk _ (child.map (memberText gap text)) rest).trans htail
  have hhead : (memberText gap text c ++ tail).head? ≠ some 125 := by
    rw [memberText, printStringPtr]
    exact fun h => absurd (Option.some.inj h) (by decide)
  have hmembers : ∀ c' ∈ c :: child, ∀ rest, objectPunctuation.Follows post rest →
      parseMember value (memberText gap text c' ++ rest) = .ok (c', rest) := by
    intro c' hc' rest hrest
    have hstops : Stops rest := stops_of_follows hrest rfl rfl (.inr rfl) hpost
    exact parseMember_memberText hgap (htext c' hc') (hread c' hc' rest hstops)
  rw [parseObject_of_skip hskip hhead, separated_skip_joined hpre hpost hne
    (fun c' _ => begins_memberText gap text c') hmembers htail]
  rfl

/-- Each text is shorter than the sequence. -/
theorem length_lt_drop_joined {α : Type} {p : Punctuation UInt8} (post : List UInt8) (hk : k ≤ pre.length)
    (f : α → List UInt8) {items : List α} {a : α} (h : a ∈ items) :
    (f a).length < ((joined p pre post (items.map f)).drop k).length := by
  have hlt := length_lt_joined (p := p) pre post (List.mem_map_of_mem (f := f) h)
  rw [List.length_drop]
  omega

end

theorem parseValue_cons {b : UInt8} (h : b ≠ 110 ∧ b ≠ 102 ∧ b ≠ 116) (n : ℕ) (s : List UInt8) :
    parseValue float (n + 1) (b :: s) =
      if b = 34 then (parseString (b :: s)).map fun r => (.string r.1, r.2)
      else if b = 45 ∨ isDigit b then .ok (parseNumber float (b :: s))
      else if b = 91 then parseArray (parseValue float n) s
      else if b = 123 then parseObject (parseValue float n) s
      else .error .failure := by
  have hprefix : ∀ c l, b ≠ c → ¬ (c :: l) <+: b :: s := fun c l hne hpre =>
    hne (List.cons_prefix_cons.1 hpre).1.symm
  obtain ⟨hn, hf, ht⟩ := h
  have hnull : ¬ ascii "null" <+: b :: s := hprefix 110 [117, 108, 108] hn
  have hfalse : ¬ ascii "false" <+: b :: s := hprefix 102 [97, 108, 115, 101] hf
  have htrue : ¬ ascii "true" <+: b :: s := hprefix 116 [114, 117, 101] ht
  rw [parseValue, if_neg hnull, if_neg hfalse, if_neg htrue]

theorem parseValue_number {k : ℤ} (hk : FitsInt k) (n : ℕ) (hrest : Stops rest) :
    parseValue float (n + 1) (decimalInt k ++ rest) = .ok (.number k, rest) := by
  have hnumber := @parseNumber_decimalInt rest float k hk hrest
  obtain ⟨b, l, hb, hdigit⟩ := exists_decimalInt k
  have hne : ∀ c, ¬ (c = 45 ∨ isDigit c) → b ≠ c := by
    rintro c hc rfl
    exact hc hdigit
  rw [hb, List.cons_append] at hnumber ⊢
  rw [parseValue_cons ⟨hne _ (by decide), hne _ (by decide), hne _ (by decide)⟩,
    if_neg (hne _ (by decide)), if_pos hdigit, hnumber]

theorem parseValue_string (s : CString) (n : ℕ) :
    parseValue float (n + 1) (printStringPtr s ++ rest) = .ok (.string s, rest) := by
  have hstring := parseString_printStringPtr s rest
  rw [printStringPtr, List.append_assoc, List.cons_append] at hstring ⊢
  rw [parseValue_cons (by decide), if_pos rfl, hstring]
  rfl

theorem parseValue_bracket (n : ℕ) (s : List UInt8) :
    parseValue float (n + 1) (91 :: s) = parseArray (parseValue float n) s := by
  rw [parseValue_cons (by decide), if_neg (by decide), if_neg (by decide), if_pos rfl]

theorem parseValue_brace (n : ℕ) (s : List UInt8) :
    parseValue float (n + 1) (123 :: s) = parseObject (parseValue float n) s := by
  rw [parseValue_cons (by decide), if_neg (by decide), if_neg (by decide), if_neg (by decide), if_pos rfl]

/-- **Every text of an item is read as the item**, wherever it stands. -/
theorem parseValue_of_textOf (h : TextOf item s) {n : ℕ} (hn : s.length ≤ n) (hrest : Stops rest) :
    parseValue float n (s ++ rest) = .ok (item, rest) := by
  obtain ⟨n, rfl⟩ := h.exists_succ hn
  induction h generalizing n rest with
  | null => rfl
  | bool b =>
      cases b with
      | false => rfl
      | true => rfl
  | number h => exact parseValue_number h n hrest
  | string s => exact parseValue_string s n
  | emptyArray hpost =>
      rw [List.append_assoc, List.cons_append, parseValue_bracket]
      exact parseArray_of_close (skip_blanks hpost (93 :: rest))
  | emptyObject hpost =>
      rw [List.append_assoc, List.cons_append, parseValue_brace]
      exact parseObject_of_close (skip_blanks hpost (125 :: rest))
  | @array child text pre post k hne hpre hpost hk h ih =>
      rw [List.length_cons] at hn
      rw [List.cons_append, parseValue_bracket]
      refine parseArray_joined hne hpre hpost hk h fun c hc rest hrest => ?_
      have hlt := length_lt_drop_joined (p := arrayPunctuation) post hk text hc
      obtain ⟨m, rfl⟩ := (h c hc).exists_succ (n := n) (by omega)
      exact ih c hc hrest m (by omega)
  | @object child text pre post gap k hne hpre hpost hgap hk h ih =>
      rw [List.length_cons] at hn
      rw [List.cons_append, parseValue_brace]
      refine parseObject_joined hne hpre hpost hgap hk h fun c hc rest hrest => ?_
      have hlt := length_lt_drop_joined (p := objectPunctuation) post hk (memberText gap text) hc
      have hmember : (text c.2).length ≤ (memberText gap text c).length := by
        simp only [memberText, List.length_append, List.length_cons]
        omega
      obtain ⟨m, rfl⟩ := (h c hc).exists_succ (n := n) (by omega)
      exact ih c hc hrest m (by omega)

/-- `cJSON_Parse` on any of the texts. -/
theorem parse_of_textOf {text : CString} (h : TextOf item text.bytes) : parse float text = .ok item := by
  have hskip : skip text.bytes = text.bytes := by
    have hbegins := h.begins (p := arrayPunctuation) rfl []
    rw [List.append_nil] at hbegins
    exact skip_of_begins hbegins
  have hvalue := @parseValue_of_textOf [] float item _ h _ (Nat.le_refl _) stops_nil
  rw [List.append_nil] at hvalue
  rw [parse, hskip, hvalue]
  rfl

/-! ## What is read

If floating point becomes something else, there is none in an item that is read. -/

section

variable {value : List UInt8 → Parsed CJsonItem}

theorem exact_parseNumber (hfloat : ∀ s, Exact (float s)) (num : List UInt8) :
    Exact (parseNumber float num).1 := by
  simp only [parseNumber]
  split_ifs with hneg h h
  · exact .number h.2
  · exact hfloat _
  · exact .number h.2
  · exact hfloat _

theorem exact_parseArray (hvalue : ∀ s item rest, value s = .ok (item, rest) → Exact item)
    (h : parseArray value s = .ok (item, rest)) : Exact item := by
  unfold parseArray at h
  split at h
  · cases h
    exact .array fun c hc => absurd hc List.not_mem_nil
  · obtain ⟨r, hr, heq⟩ := map_eq_ok_iff.1 h
    cases heq
    exact .array (forall_mem_of_separated hvalue hr)

theorem exact_parseMember (hvalue : ∀ s item rest, value s = .ok (item, rest) → Exact item)
    (s : List UInt8) (c : CString × CJsonItem) (rest : List UInt8)
    (h : parseMember value s = .ok (c, rest)) : Exact c.2 := by
  unfold parseMember at h
  split at h
  · cases h
  · split at h
    · obtain ⟨r, hr, heq⟩ := map_eq_ok_iff.1 h
      cases heq
      exact hvalue _ _ _ hr
    · cases h

theorem exact_parseObject (hvalue : ∀ s item rest, value s = .ok (item, rest) → Exact item)
    (h : parseObject value s = .ok (item, rest)) : Exact item := by
  unfold parseObject at h
  split at h
  · cases h
    exact .object fun c hc => absurd hc List.not_mem_nil
  · obtain ⟨r, hr, heq⟩ := map_eq_ok_iff.1 h
    cases heq
    exact .object (forall_mem_of_separated (exact_parseMember hvalue) hr)

theorem exact_parseValue (hfloat : ∀ s, Exact (float s)) (n : ℕ) (s : List UInt8) (item : CJsonItem)
    (rest : List UInt8) (h : parseValue float n s = .ok (item, rest)) : Exact item := by
  induction n generalizing s item rest with
  | zero => cases h
  | succ n ih =>
      unfold parseValue at h
      split_ifs at h
      · cases h
        exact .null
      · cases h
        exact .bool false
      · cases h
        exact .bool true
      · cases s with
        | nil => cases h
        | cons b s =>
            dsimp only at h
            split_ifs at h
            · obtain ⟨r, -, heq⟩ := map_eq_ok_iff.1 h
              cases heq
              exact .string _
            · have hnumber := exact_parseNumber hfloat (b :: s)
              rw [Except.ok.inj h] at hnumber
              exact hnumber
            · exact exact_parseArray ih h
            · exact exact_parseObject ih h

theorem exact_parse (hfloat : ∀ s, Exact (float s)) {text : CString} (h : parse float text = .ok item) :
    Exact item := by
  obtain ⟨r, hr, rfl⟩ := map_eq_ok_iff.1 h
  exact exact_parseValue hfloat _ _ _ _ hr

end

/-! ## What the printers write -/

theorem printArrayFmt_eq_joined (depth : ℕ) {child : List CJsonItem} (h : child ≠ []) :
    32 :: printArrayFmt depth child ++ [93] =
      joined arrayPunctuation [32] [] (child.map (printValueFmt depth)) :=
  eq_joined (fun child => 32 :: printArrayFmt depth child ++ [93])
    (fun c => by simp [printArrayFmt, arrayPunctuation])
    (fun c c' child => by simp [printArrayFmt, arrayPunctuation]) h

theorem printObjectFmt_eq_joined (depth : ℕ) {child : List (CString × CJsonItem)} (h : child ≠ []) :
    10 :: printObjectFmt (depth + 1) child ++ tabs depth ++ [125] =
      joined objectPunctuation (10 :: tabs (depth + 1)) (10 :: tabs depth)
        (child.map (memberText [9] (printValueFmt (depth + 1)))) :=
  eq_joined (fun child => 10 :: printObjectFmt (depth + 1) child ++ tabs depth ++ [125])
    (fun c => by simp [printObjectFmt, objectPunctuation, memberText])
    (fun c c' child => by simp [printObjectFmt, objectPunctuation, memberText]) h

theorem printArray_eq_joined {child : List CJsonItem} (h : child ≠ []) :
    printArray child ++ [93] = joined arrayPunctuation [] [] (child.map printValue) :=
  eq_joined (fun child => printArray child ++ [93])
    (fun c => by simp [printArray, arrayPunctuation])
    (fun c c' child => by simp [printArray, arrayPunctuation]) h

theorem printObject_eq_joined {child : List (CString × CJsonItem)} (h : child ≠ []) :
    printObject child ++ [125] = joined objectPunctuation [] [] (child.map (memberText [] printValue)) :=
  eq_joined (fun child => printObject child ++ [125])
    (fun c => by simp [printObject, objectPunctuation, memberText])
    (fun c c' child => by simp [printObject, objectPunctuation, memberText]) h

theorem blanks_tabs (n : ℕ) : objectPunctuation.Blanks (10 :: tabs n) := by
  intro b hb
  rcases List.mem_cons.1 hb with rfl | hb
  · rfl
  · obtain rfl := List.eq_of_mem_replicate hb
    rfl

theorem blanks_nil {p : Punctuation UInt8} : p.Blanks [] := fun _ h => absurd h List.not_mem_nil

theorem textOf_printValueFmt (h : Exact item) (depth : ℕ) : TextOf item (item.printValueFmt depth) := by
  induction h generalizing depth with
  | null => exact .null
  | bool b =>
      cases b with
      | false => exact .bool false
      | true => exact .bool true
  | number hn => exact .number hn
  | string s => exact .string s
  | @array child h ih =>
      rw [printValueFmt]
      rcases eq_or_ne child [] with rfl | hne
      · exact .emptyArray blanks_nil
      · have hblank : arrayPunctuation.Blanks [32] := List.forall_mem_singleton.2 rfl
        have hlist := TextOf.array (k := 1) hne hblank blanks_nil (Nat.le_refl 1)
          fun c hc => ih c hc (depth + 1)
        rw [← printArrayFmt_eq_joined (depth + 1) hne] at hlist
        exact hlist
  | @object child h ih =>
      cases child with
      | nil =>
          rw [printValueFmt]
          exact .emptyObject (blanks_tabs (depth - 1))
      | cons c child =>
          have hne := List.cons_ne_nil c child
          have hgap : objectPunctuation.Blanks [9] := List.forall_mem_singleton.2 rfl
          have hlist := TextOf.object (k := 0) hne (blanks_tabs (depth + 1)) (blanks_tabs depth) hgap
            (Nat.zero_le _) fun c hc => ih c hc (depth + 1)
          rw [← printObjectFmt_eq_joined depth hne] at hlist
          rw [printValueFmt]
          simpa using hlist

theorem textOf_printValue (h : Exact item) : TextOf item item.printValue := by
  induction h with
  | null => exact .null
  | bool b =>
      cases b with
      | false => exact .bool false
      | true => exact .bool true
  | number hn => exact .number hn
  | string s => exact .string s
  | @array child h ih =>
      rw [printValue]
      rcases eq_or_ne child [] with rfl | hne
      · exact .emptyArray blanks_nil
      · have hlist := TextOf.array (k := 0) hne blanks_nil blanks_nil (Nat.zero_le _) ih
        rw [← printArray_eq_joined hne] at hlist
        exact hlist
  | @object child h ih =>
      rw [printValue]
      rcases eq_or_ne child [] with rfl | hne
      · exact .emptyObject blanks_nil
      · have hlist := TextOf.object (k := 0) hne blanks_nil blanks_nil blanks_nil (Nat.zero_le _) ih
        rw [← printObject_eq_joined hne] at hlist
        exact hlist

/-- `cJSON_Parse` undoes `cJSON_Print`. -/
theorem parse_print (h : Exact item) : parse float item.print = .ok item :=
  parse_of_textOf (textOf_printValueFmt h 0)

end SmartPlat.CJsonItem
