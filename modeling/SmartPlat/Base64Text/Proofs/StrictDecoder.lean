import SmartPlat.Base64Text.Proofs.Encoders

set_option autoImplicit false

/-! # The strict decoder

`base64_64_to_bits` gives back what was encoded, unless that is nothing. But it does not reject all other
texts: the shape it takes is described by quads of digits, and only some of them are encodings. -/

namespace SmartPlat.Base64Text

open SmartPlat.Lib

variable {x s : List UInt8} {t : CString} {len inlen : Int32}

/-! ## The property -/

/-- The text of some byte string whose length is an `int`. -/
def IsEncoding (t : CString) : Prop :=
  ∃ x, ∃ inlen : Int32, inlen.toInt = x.length ∧ base64BitsTo64 x inlen = t.bytes ++ [0]

/-- The decoder does with this text what a strict decoder does: the bytes and their number for an encoding,
    `-1` for anything else. -/
def Strict (t : CString) : Prop :=
  (∀ x, ∀ inlen : Int32, inlen.toInt = x.length → base64BitsTo64 x inlen = t.bytes ++ [0] →
    base64_64ToBits t = some (inlen, x)) ∧
  (¬ IsEncoding t → base64_64ToBits t = none)

/-- Four bytes that the loop takes. -/
structure Quad where
  digit1 : UInt8
  digit2 : UInt8
  digit3 : UInt8
  digit4 : UInt8
  first : decode64 digit1 ≠ bad
  second : decode64 digit2 ≠ bad
  third : digit3 = 61 ∨ decode64 digit3 ≠ bad
  fourth : digit4 = 61 ∨ decode64 digit4 ≠ bad

def Quad.bytes (q : Quad) : List UInt8 := [q.digit1, q.digit2, q.digit3, q.digit4]

/-- Quads, the last of which has `=` at its end or is at the end of the text or of its line. What is behind a
    quad with `=` at its end is not looked at. -/
def InQuads (s : List UInt8) : Prop :=
  ∃ (quads : List Quad) (last : Quad) (rest : List UInt8),
    s = quads.flatMap Quad.bytes ++ (last.bytes ++ rest) ∧ (∀ q ∈ quads, q.digit4 ≠ 61) ∧
      (last.digit4 = 61 ∨ rest = [] ∨ rest.head? = some 13)

/-- Behind an optional `"+ "`, a CR or quads. -/
def Accepted (text : List UInt8) : Prop :=
  ∃ before s, text = before ++ s ∧ (before = [] ∨ before = [43, 32]) ∧ (s.head? = some 13 ∨ InQuads s)

/-! ## One round -/

/-- The bytes of a quad. -/
def Quad.out (q : Quad) : List UInt8 :=
  let v1 := (decode64 q.digit1).toNat
  let v2 := (decode64 q.digit2).toNat
  let v3 := (decode64 q.digit3).toNat
  let v4 := (decode64 q.digit4).toNat
  let out := [UInt8.ofNat ((v1 <<< 2) ||| (v2 >>> 4))]
  let out := if q.digit3 ≠ 61 then out ++ [UInt8.ofNat (((v2 <<< 4) &&& 0xf0) ||| (v3 >>> 2))] else out
  if q.digit3 ≠ 61 ∧ q.digit4 ≠ 61 then out ++ [UInt8.ofNat (((v3 <<< 6) &&& 0xc0) ||| v4)] else out

theorem not_bad_digit {d : UInt8} (h : d = 61 ∨ decode64 d ≠ bad) : ¬ (d ≠ 61 ∧ decode64 d = bad) :=
  fun hbad => h.elim hbad.1 fun hd => hd hbad.2

/-- The loop takes a quad, and goes on if there is more of the line and no `=` at the end. -/
theorem bitsLoop_quad (q : Quad) (input : List UInt8) (len : Int32) :
    bitsLoop len (q.bytes ++ input) =
      if input ≠ [] ∧ input.head? ≠ some 13 ∧ q.digit4 ≠ 61 then
        (bitsLoop (len + Int32.ofNat q.out.length) input).map fun r => (r.1, q.out ++ r.2)
      else some (len + Int32.ofNat q.out.length, q.out) := by
  simp only [Quad.bytes, List.cons_append, List.nil_append, bitsLoop, if_neg q.first, if_neg q.second,
    if_neg (not_bad_digit q.third), if_neg (not_bad_digit q.fourth)]
  rfl

/-- And it takes nothing else. -/
theorem exists_quad (h : bitsLoop len s ≠ none) : ∃ (q : Quad) (input : List UInt8), s = q.bytes ++ input := by
  rcases s with - | ⟨d1, - | ⟨d2, - | ⟨d3, - | ⟨d4, input⟩⟩⟩⟩
  · exact absurd rfl h
  · exact absurd rfl h
  · exact absurd rfl h
  · exact absurd rfl h
  · rw [bitsLoop] at h
    by_cases first : decode64 d1 = bad
    · exact absurd (if_pos first) h
    rw [if_neg first] at h
    by_cases second : decode64 d2 = bad
    · exact absurd (if_pos second) h
    rw [if_neg second] at h
    by_cases third : d3 ≠ 61 ∧ decode64 d3 = bad
    · exact absurd (if_pos third) h
    rw [if_neg third] at h
    by_cases fourth : d4 ≠ 61 ∧ decode64 d4 = bad
    · exact absurd (if_pos fourth) h
    rw [not_and_or, not_not] at third fourth
    exact ⟨⟨d1, d2, d3, d4, first, second, third, fourth⟩, input, rfl⟩

/-! ## The texts that are taken -/

theorem inQuads_of_taken (h : bitsLoop len s ≠ none) : InQuads s := by
  induction hn : s.length using Nat.strong_induction_on generalizing s len with
  | _ n ih =>
      obtain ⟨q, input, rfl⟩ := exists_quad h
      rw [bitsLoop_quad] at h
      by_cases hmore : input ≠ [] ∧ input.head? ≠ some 13 ∧ q.digit4 ≠ 61
      · rw [if_pos hmore, ne_eq, Option.map_eq_none_iff] at h
        have hshort : input.length < n := by
          rw [← hn, List.length_append]
          simp [Quad.bytes]
        obtain ⟨quads, last, rest, rfl, hfull, hlast⟩ := ih _ hshort h rfl
        refine ⟨q :: quads, last, rest, ?_, List.forall_mem_cons.2 ⟨hmore.2.2, hfull⟩, hlast⟩
        rw [List.flatMap_cons, List.append_assoc]
      · refine ⟨[], q, input, rfl, fun q hq => absurd hq List.not_mem_nil, ?_⟩
        by_contra hend
        rw [not_or, not_or] at hend
        exact hmore ⟨hend.2.1, hend.2.2, hend.1⟩

/-- The first digit of a quad is neither a CR nor the end. -/
theorem head_quad (q : Quad) (s : List UInt8) : q.bytes ++ s ≠ [] ∧ (q.bytes ++ s).head? ≠ some 13 := by
  refine ⟨List.cons_ne_nil _ _, fun h => q.first ?_⟩
  have hdigit : q.digit1 = 13 := Option.some.inj h
  rw [hdigit]
  decide

theorem taken_of_inQuads (h : InQuads s) (len : Int32) : bitsLoop len s ≠ none := by
  obtain ⟨quads, last, rest, rfl, hfull, hlast⟩ := h
  induction quads generalizing len with
  | nil =>
      have hend : ¬ (rest ≠ [] ∧ rest.head? ≠ some 13 ∧ last.digit4 ≠ 61) := by
        rintro ⟨hrest, hline, hdigit⟩
        exact hlast.elim hdigit fun h => h.elim hrest hline
      rw [List.flatMap_nil, List.nil_append, bitsLoop_quad, if_neg hend]
      exact Option.some_ne_none _
  | cons q quads ih =>
      obtain ⟨hq, hfull⟩ := List.forall_mem_cons.1 hfull
      have hhead : (quads.flatMap Quad.bytes ++ (last.bytes ++ rest)) ≠ [] ∧
          (quads.flatMap Quad.bytes ++ (last.bytes ++ rest)).head? ≠ some 13 := by
        rcases quads with - | ⟨p, quads⟩
        · exact head_quad last rest
        · rw [List.flatMap_cons, List.append_assoc]
          exact head_quad p _
      rw [List.flatMap_cons, List.append_assoc, bitsLoop_quad, if_pos ⟨hhead.1, hhead.2, hq⟩, ne_eq,
        Option.map_eq_none_iff]
      exact ih _ hfull

theorem not_inQuads_blank (s : List UInt8) : ¬ InQuads (43 :: 32 :: s) := by
  intro h
  obtain ⟨q, input, hq⟩ := exists_quad (taken_of_inQuads h 0)
  have hdigit : (32 : UInt8) = q.digit2 := (List.cons.inj (List.cons.inj hq).2).1
  exact q.second (hdigit ▸ by decide)

/-- Behind the optional `"+ "`. -/
theorem line_taken_iff (s : List UInt8) :
    (if s.head? = some 13 then some (0, []) else bitsLoop 0 s) ≠ none ↔ s.head? = some 13 ∨ InQuads s := by
  by_cases hline : s.head? = some 13
  · rw [if_pos hline]
    exact iff_of_true (Option.some_ne_none _) (.inl hline)
  · rw [if_neg hline]
    exact ⟨fun h => .inr (inQuads_of_taken h), fun h => taken_of_inQuads (h.resolve_left hline) 0⟩

/-- **What is taken** is exactly what is of that shape. -/
theorem taken_iff (t : CString) : base64_64ToBits t ≠ none ↔ Accepted t.bytes := by
  rw [base64_64ToBits]
  by_cases hblank : t.bytes.head? = some 43 ∧ t.bytes[1]? = some 32
  · obtain ⟨s, hs⟩ : ∃ s, t.bytes = 43 :: 32 :: s := by
      rcases hbytes : t.bytes with - | ⟨a, - | ⟨b, s⟩⟩
      · simp [hbytes] at hblank
      · simp [hbytes] at hblank
      · obtain ⟨ha, hb⟩ : a = 43 ∧ b = 32 := by simpa [hbytes] using hblank
        exact ⟨s, by rw [ha, hb]⟩
    simp only [if_pos hblank]
    rw [hs, List.drop_succ_cons, List.drop_succ_cons, List.drop_zero, line_taken_iff]
    constructor
    · exact fun h => ⟨[43, 32], s, rfl, .inr rfl, h⟩
    · rintro ⟨before, s', hsplit, rfl | rfl, h⟩
      · rw [List.nil_append] at hsplit
        subst hsplit
        exact h.elim (fun h => by simp at h) fun h => absurd h (not_inQuads_blank s)
      · rwa [show s = s' from (List.cons.inj (List.cons.inj hsplit).2).2]
  · simp only [if_neg hblank]
    rw [line_taken_iff]
    constructor
    · exact fun h => ⟨[], t.bytes, rfl, .inl rfl, h⟩
    · rintro ⟨before, s', hsplit, rfl | rfl, h⟩
      · rwa [hsplit]
      · exact absurd (by simp [hsplit]) hblank

/-! ## Encodings -/

theorem decode64_symbol : ∀ k < 64, decode64 (Base64.symbol k) = k ∧ Base64.symbol k ≠ 32 := by
  decide +kernel

theorem symbol_not_bad {k : ℕ} (hk : k < 64) : decode64 (Base64.symbol k) ≠ bad := by
  rw [(decode64_symbol k hk).1, bad]
  omega

theorem shifted_masked (a : ℕ) :
    (a <<< 4) &&& 0xf0 = (a % 16) <<< 4 ∧ (a <<< 6) &&& 0xc0 = (a % 4) <<< 6 := by
  constructor
  · rw [show 0xf0 = 15 <<< 4 from rfl, ← Nat.shiftLeft_and_distrib, Nat.and_two_pow_sub_one_eq_mod _ 4]
  · rw [show 0xc0 = 3 <<< 6 from rfl, ← Nat.shiftLeft_and_distrib, Nat.and_two_pow_sub_one_eq_mod _ 2]

/-- The bits of three bytes, put together again. -/
theorem bytes_eq {a b c : ℕ} (hb : b < 256) (hc : c < 256) :
    (a / 4) <<< 2 ||| (a % 4 * 16 + b / 16) >>> 4 = a ∧
      ((a % 4 * 16 + b / 16) <<< 4 &&& 0xf0) ||| (b % 16 * 4 + c / 64) >>> 2 = b ∧
      ((b % 16 * 4 + c / 64) <<< 6 &&& 0xc0) ||| c % 64 = c := by
  simp only [shifted_masked, shiftRight_eq]
  rw [shiftLeft_or 2 (by omega), shiftLeft_or 4 (by omega), shiftLeft_or 6 (by omega)]
  omega

/-- The quad of up to three bytes. -/
def encodedQuad (a b c : UInt8) (third fourth : Bool) : Quad where
  digit1 := Base64.symbol (a.toNat / 4)
  digit2 := Base64.symbol (a.toNat % 4 * 16 + b.toNat / 16)
  digit3 := if third then Base64.symbol (b.toNat % 16 * 4 + c.toNat / 64) else 61
  digit4 := if fourth then Base64.symbol (c.toNat % 64) else 61
  first := symbol_not_bad (by have := a.toNat_lt; omega)
  second := symbol_not_bad (by have := b.toNat_lt; omega)
  third := by
    have hc := c.toNat_lt
    cases third with
    | true => exact .inr (symbol_not_bad (by omega))
    | false => exact .inl rfl
  fourth := by
    cases fourth with
    | true => exact .inr (symbol_not_bad (by omega))
    | false => exact .inl rfl

/-- It decodes to these bytes. -/
theorem out_encodedQuad (a b c : UInt8) :
    (encodedQuad a b c true true).out = [a, b, c] ∧ (encodedQuad a b 0 true false).out = [a, b] ∧
      (encodedQuad a 0 0 false false).out = [a] := by
  have value {k : ℕ} (hk : k < 64) : (decode64 (Base64.symbol k)).toNat = k := by
    rw [(decode64_symbol k hk).1, Int.toNat_natCast]
  have symbol {k : ℕ} (hk : k < 64) : Base64.symbol k ≠ 61 := Base64.symbol_ne_fill hk
  have ha := a.toNat_lt
  have hb := b.toNat_lt
  have hc := c.toNat_lt
  have hzero : (0 : UInt8).toNat = 0 := rfl
  obtain ⟨hfirst, hsecond, hthird⟩ := bytes_eq (a := a.toNat) hb hc
  obtain ⟨-, hsecond', -⟩ := bytes_eq (a := a.toNat) hb (c := 0) (by decide)
  obtain ⟨hfirst', -, -⟩ := bytes_eq (a := a.toNat) (b := 0) (c := 0) (by decide) (by decide)
  refine ⟨?_, ?_, ?_⟩
  · simp only [Quad.out, encodedQuad, if_true]
    rw [value (by omega), value (by omega), value (by omega), value (by omega), if_pos (symbol (by omega)),
      if_pos ⟨symbol (by omega), symbol (by omega)⟩, hfirst, hsecond, hthird]
    simp
  · simp only [Quad.out, encodedQuad, if_true, hzero]
    rw [value (by omega), value (by omega), value (by omega), if_pos (symbol (by omega)),
      if_neg (fun h => h.2 rfl), hfirst, hsecond']
    simp
  · simp only [Quad.out, encodedQuad, hzero]
    rw [value (by omega), value (by omega), if_neg (fun h => h.1 rfl), if_neg (fun h => h rfl), hfirst']
    simp

/-- The first digit of an encoding is a symbol. -/
theorem head_encode (h : x ≠ []) : ∃ k < 64, (Base64.encode x).head? = some (Base64.symbol k) := by
  obtain ⟨a, x, rfl⟩ := List.exists_cons_of_ne_nil h
  have ha := a.toNat_lt
  refine ⟨a.toNat / 4, by omega, ?_⟩
  rcases x with - | ⟨b, - | ⟨c, x⟩⟩ <;> rfl

/-- **The loop on an encoding** gives back the bytes. -/
theorem bitsLoop_encode (hx : x ≠ []) (len : Int32) :
    bitsLoop len (Base64.encode x) = some (len + Int32.ofNat x.length, x) := by
  fun_induction Base64.encode x generalizing len with
  | case1 a b c x ih =>
      have hquad := bitsLoop_quad (encodedQuad a b c true true) (Base64.encode x) len
      rw [(out_encodedQuad a b c).1] at hquad
      have hlen : len + Int32.ofNat (a :: b :: c :: x).length =
          len + Int32.ofNat [a, b, c].length + Int32.ofNat x.length := by
        rw [Int32.add_assoc, ← Int32.ofNat_add, Nat.add_comm [a, b, c].length]
        rfl
      refine Eq.trans hquad ?_
      rw [hlen]
      rcases eq_or_ne x [] with rfl | hrest
      · rw [Base64.encode, if_neg (fun h => h.1 rfl), List.length_nil]
        simp
      · obtain ⟨k, hk, hhead⟩ := head_encode hrest
        have hsymbol : Base64.symbol (c.toNat % 64) ≠ 61 := Base64.symbol_ne_fill (by omega)
        have hmore : Base64.encode x ≠ [] ∧ (Base64.encode x).head? ≠ some 13 ∧
            (encodedQuad a b c true true).digit4 ≠ 61 := by
          refine ⟨?_, ?_, hsymbol⟩
          · rintro hnil
            simp [hnil] at hhead
          · rw [hhead]
            intro h
            exact symbol_not_bad hk (Option.some.inj h ▸ by decide)
        rw [if_pos hmore, ih hrest]
        rfl
  | case2 a b =>
      have hquad := bitsLoop_quad (encodedQuad a b 0 true false) [] len
      rwa [(out_encodedQuad a b 0).2.1, if_neg (fun h => h.1 rfl)] at hquad
  | case3 a =>
      have hquad := bitsLoop_quad (encodedQuad a 0 0 false false) [] len
      rwa [(out_encodedQuad a 0 0).2.2, if_neg (fun h => h.1 rfl)] at hquad
  | case4 => exact absurd rfl hx

/-- A text is the encoding of at most one byte string. -/
theorem base64BitsTo64_eq_iff (h : inlen.toInt = x.length) :
    base64BitsTo64 x inlen = t.bytes ++ [0] ↔ t.bytes = Base64.encode x := by
  rw [base64BitsTo64, h, bitsFrom_eq, List.append_left_inj, eq_comm]

/-- **An encoding is decoded** to the bytes and their number. -/
theorem base64_64ToBits_encode (hx : x ≠ []) (ht : t.bytes = Base64.encode x) :
    base64_64ToBits t = some (Int32.ofNat x.length, x) := by
  obtain ⟨k, hk, hhead⟩ := head_encode hx
  have hloop := bitsLoop_encode hx 0
  rw [Int32.zero_add] at hloop
  have hblank : ¬ ((Base64.encode x).head? = some 43 ∧ (Base64.encode x)[1]? = some 32) := by
    rintro ⟨h43, h32⟩
    obtain ⟨s, hs⟩ : ∃ s, Base64.encode x = 43 :: 32 :: s := by
      rcases hbytes : Base64.encode x with - | ⟨a, - | ⟨b, s⟩⟩
      · simp [hbytes] at h43
      · simp [hbytes] at h32
      · obtain ⟨ha, hb⟩ : a = 43 ∧ b = 32 := by simpa [hbytes] using And.intro h43 h32
        exact ⟨s, by rw [ha, hb]⟩
    rw [hs] at hloop
    exact not_inQuads_blank s (inQuads_of_taken (hloop ▸ Option.some_ne_none _))
  have hline : ¬ (Base64.encode x).head? = some 13 := by
    rw [hhead]
    exact fun h => symbol_not_bad hk (Option.some.inj h ▸ by decide)
  simp only [base64_64ToBits, ht]
  rw [if_neg hblank, if_neg hline, hloop]

theorem ofNat_length (h : inlen.toInt = x.length) : Int32.ofNat x.length = inlen := by
  rw [← Int32.ofInt_eq_ofNat, ← h, Int32.ofInt_toInt]

/-! ## The result -/

/-- **The decoder is strict** at exactly the texts that are not empty, and that are encodings or not of the
    shape that is taken. -/
theorem strict_iff (t : CString) : Strict t ↔ t.bytes ≠ [] ∧ (IsEncoding t ∨ ¬ Accepted t.bytes) := by
  rw [← taken_iff, ne_eq, ne_eq, not_not]
  constructor
  · rintro ⟨hback, hreject⟩
    refine ⟨fun hempty => ?_, or_iff_not_imp_left.2 hreject⟩
    have hnothing := hback [] 0 rfl ((base64BitsTo64_eq_iff rfl).2 hempty)
    rw [base64_64ToBits, hempty] at hnothing
    cases hnothing
  · rintro ⟨hne, h⟩
    refine ⟨fun x inlen hlen hbits => ?_, fun hno => h.resolve_left hno⟩
    have ht := (base64BitsTo64_eq_iff hlen).1 hbits
    have hx : x ≠ [] := by
      rintro rfl
      exact hne ht
    rw [base64_64ToBits_encode hx ht, ofNat_length hlen]

/-- **The decoder**: an encoding of at least one byte gives back the bytes and their number, and a text that
    is not of the shape is rejected. -/
theorem decoded_or_rejected (t : CString) :
    (∀ x, ∀ inlen : Int32, x ≠ [] → inlen.toInt = x.length → base64BitsTo64 x inlen = t.bytes ++ [0] →
      base64_64ToBits t = some (inlen, x)) ∧
    (¬ Accepted t.bytes → base64_64ToBits t = none) := by
  constructor
  · intro x inlen hx hlen hbits
    rw [base64_64ToBits_encode hx ((base64BitsTo64_eq_iff hlen).1 hbits), ofNat_length hlen]
  · intro hshape
    by_contra htaken
    exact hshape ((taken_iff t).1 htaken)

/-- A text that decodes to bytes which are encoded differently is taken although it is no encoding. -/
theorem not_strict_of_taken {n : Int32} {y : List UInt8} (hne : t.bytes ≠ [])
    (htaken : base64_64ToBits t = some (n, y)) (hother : t.bytes ≠ Base64.encode y) : ¬ Strict t := by
  rintro ⟨-, hreject⟩
  have hno : ¬ IsEncoding t := by
    rintro ⟨x, inlen, hlen, hbits⟩
    have ht := (base64BitsTo64_eq_iff hlen).1 hbits
    have hx : x ≠ [] := by
      rintro rfl
      exact hne ht
    have hsame := htaken.symm.trans (base64_64ToBits_encode hx ht)
    have hy : y = x := congrArg Prod.snd (Option.some.inj hsame)
    exact hother (hy ▸ ht)
  rw [hreject hno] at htaken
  cases htaken

/-- Text before and behind an encoding that the decoder passes over: `+ ` and a carriage return. Then the
    empty text; a symbol behind `=`; and bits that no byte has. -/
theorem not_strict :
    (¬ Strict ⟨ascii "+ QQ==", by decide⟩ ∧ ¬ Strict ⟨ascii "QQ==\r", by decide⟩) ∧
    ¬ Strict ⟨[], zero_notMem_nil⟩ ∧ ¬ Strict ⟨ascii "QQ=A", by decide⟩ ∧
    ¬ Strict ⟨ascii "QR==", by decide⟩ := by
  refine ⟨⟨?_, ?_⟩, ?_, ?_, ?_⟩
  · exact not_strict_of_taken (n := 1) (y := ascii "A") (by decide) (by decide) (by decide)
  · exact not_strict_of_taken (n := 1) (y := ascii "A") (by decide) (by decide) (by decide)
  · rintro ⟨hback, -⟩
    have hnothing := hback [] 0 rfl ((base64BitsTo64_eq_iff rfl).2 rfl)
    cases hnothing
  · exact not_strict_of_taken (n := 1) (y := ascii "A") (by decide) (by decide) (by decide)
  · exact not_strict_of_taken (n := 1) (y := ascii "A") (by decide) (by decide) (by decide)

end SmartPlat.Base64Text
