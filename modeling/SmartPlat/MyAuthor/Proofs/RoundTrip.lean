import SmartPlat.Decimal
import SmartPlat.MyAuthor.Author

set_option autoImplicit false

/-! # Licences: what `paresAuthor` reads back and what it accepts

Exchanging rows and columns never changes the letters of a book, so for every port the two
substitutions undo each other. What is left is a text with a separator in it, and a number behind the
separator. The name comes back when the separator that is found first is the one that was appended;
when it is not, only a buffer that held the rest of the name before can make up for it. -/

namespace SmartPlat.MyAuthor

open SmartPlat.Lib

variable {name buffer : List UInt8} {port k : ℕ}

/-! ## Books -/

theorem rearranged_exchangeBookX (book : Book) (x : Fin 8) :
    Rearranged book (exchangeBookX book x) :=
  Rearranged.foldl (fun b i => rearranged_swapCells b (x, i) (0, i)) _ book

theorem rearranged_exchangeBookY (book : Book) (y : Fin 8) :
    Rearranged book (exchangeBookY book y) :=
  Rearranged.foldl (fun b i => rearranged_swapCells b (i, y) (i, 0)) _ book

theorem rearranged_exBook2Port (book : Book) (port : ℕ) :
    Rearranged book (exBook2Port book port) := by
  have hx {b b' : Book} (x : Fin 8) (h : Rearranged b b') : Rearranged b (exchangeBookX b' x) :=
    h.trans (rearranged_exchangeBookX b' x)
  have hy {b b' : Book} (y : Fin 8) (h : Rearranged b b') : Rearranged b (exchangeBookY b' y) :=
    h.trans (rearranged_exchangeBookY b' y)
  unfold exBook2Port
  repeat first | apply hx | apply hy
  exact .refl book

theorem cellAt_bijective : Function.Bijective cellAt := by
  refine ⟨fun i j h => ?_, fun ⟨x, y⟩ => ⟨⟨8 * x + y, by omega⟩, ?_⟩⟩
  · simp only [cellAt, Prod.mk.injEq, Fin.mk.injEq] at h
    omega
  · simp only [cellAt, Prod.mk.injEq, Fin.ext_iff]
    omega

theorem length_gBookLetters : gBookLetters.length = 64 := length_ascii_ofList _

theorem isLt_gBookLetters (j : Fin 64) : (j : ℕ) < gBookLetters.length :=
  j.isLt.trans_eq length_gBookLetters.symm

theorem byteAt_eq_get {s : List UInt8} {i : ℕ} (h : i < s.length) : byteAt s i = s.get ⟨i, h⟩ := by
  rw [byteAt, List.getD_eq_getElem?_getD, List.getElem?_eq_getElem h, Option.getD_some, List.get_eq_getElem]

theorem gBook_c (j : Fin 64) : (gBook j).c = gBookLetters.get ⟨j, isLt_gBookLetters j⟩ := byteAt_eq_get _

theorem gBook_mem (j : Fin 64) : (gBook j).c ∈ gBookLetters := by
  rw [gBook_c]
  exact List.get_mem _ _

theorem gBook_injective : Function.Injective fun j => (gBook j).c := by
  have hletters : gBookLetters = _ := ascii_ofList _
  have hnodup : (gBookLetters.map UInt8.toNat).Nodup := by
    rw [hletters]
    decide +kernel
  intro i j h
  simp only [gBook_c] at h
  exact Fin.ext (congrArg Fin.val ((hnodup.of_map _).injective_get h))

/-- The book of the two functions holds the letters of `g_book`, with `s` and `t` exchanged. -/
theorem rearranged_initialBook :
    Rearranged (fun j => (gBook j).c) fun j => initialBook (cellAt j) := by
  have hletters : gBookLetters = _ := ascii_ofList _
  have hletters' : bookLetters = _ := ascii_ofList _
  refine ⟨Equiv.swap 28 29, ?_⟩
  simp only [gBook, initialBook, hletters, hletters']
  exact funext (by decide +kernel)

/-- For every port the cells hold the letters of `g_book`, each once. -/
theorem book_letters (port : ℕ) :
    Function.Injective (fun j => exBook2Port initialBook port (cellAt j)) ∧
      Set.range (fun j => exBook2Port initialBook port (cellAt j))
        = Set.range fun j => (gBook j).c := by
  have hbook := rearranged_exBook2Port initialBook port
  have hletters := rearranged_initialBook
  have hcells : Function.Injective initialBook := by
    have h := hletters.injective gBook_injective
    exact (Function.Injective.of_comp_iff' _ cellAt_bijective).1 h
  refine ⟨(hbook.injective hcells).comp cellAt_bijective.1, ?_⟩
  have h := hbook.range_eq
  rw [← cellAt_bijective.2.range_comp, ← cellAt_bijective.2.range_comp] at h
  exact h.trans hletters.range_eq

/-- **The substitution can be undone, whatever the port.** -/
theorem decode_encry (s : List UInt8) (port : ℕ) :
    decodeoptionstring (encryoptionstring s (exBook2Port initialBook port))
      (exBook2Port initialBook port) = s := by
  obtain ⟨hdst, hrange⟩ := book_letters port
  rw [encryoptionstring, decodeoptionstring, List.map_map]
  conv_rhs => rw [← List.map_id s]
  refine List.map_congr_left fun c _ => ?_
  exact translate_translate (List.mem_finRange) gBook_injective hdst hrange c

theorem map_gBook : (List.finRange 64).map (fun j => (gBook j).c) = gBookLetters := by
  refine List.ext_getElem (by simp [length_gBookLetters]) fun i _ _ => ?_
  simp [gBook_c]

/-- **The book stays a permutation** of the 64 letters under every port, so every string is decoded to
    itself under the same port. -/
theorem book_stays_permutation (port : ℕ) :
    ((List.finRange 64).map fun j => exBook2Port initialBook port (cellAt j)).Perm gBookLetters ∧
      ∀ s : List UInt8, decodeoptionstring (encryoptionstring s (exBook2Port initialBook port))
        (exBook2Port initialBook port) = s := by
  obtain ⟨hinjective, hrange⟩ := book_letters port
  refine ⟨?_, fun s => decode_encry s port⟩
  rw [← map_gBook, List.perm_ext_iff_of_nodup ((List.nodup_finRange 64).map hinjective)
    ((List.nodup_finRange 64).map gBook_injective)]
  intro c
  have hc : c ∈ Set.range (fun j => exBook2Port initialBook port (cellAt j)) ↔
      c ∈ Set.range fun j => (gBook j).c := by rw [hrange]
  simpa only [List.mem_map, List.mem_finRange, true_and, Set.mem_range] using hc

/-- The substitution leaves no text out. -/
theorem encry_decode (s : List UInt8) (port : ℕ) :
    encryoptionstring (decodeoptionstring s (exBook2Port initialBook port))
      (exBook2Port initialBook port) = s := by
  obtain ⟨hdst, hrange⟩ := book_letters port
  rw [encryoptionstring, decodeoptionstring, List.map_map]
  conv_rhs => rw [← List.map_id s]
  refine List.map_congr_left fun c _ => ?_
  exact translate_translate (List.mem_finRange) hdst gBook_injective hrange.symm c

/-! ## The checksum -/

theorem addInt32_range (a b : ℤ) : -2 ^ 31 ≤ addInt32 a b ∧ addInt32 a b < 2 ^ 31 := by
  have hle := Int.le_bmod (x := a + b) (m := 2 ^ 32) (by decide)
  have hlt := Int.bmod_lt (x := a + b) (m := 2 ^ 32) (by decide)
  unfold addInt32
  omega

theorem crcOf_range (name : List UInt8) : -2 ^ 31 ≤ crcOf name ∧ crcOf name < 2 ^ 31 := by
  unfold crcOf
  induction name using List.reverseRecOn with
  | nil => decide
  | append_singleton s c _ =>
      rw [List.foldl_append]
      exact addInt32_range _ _

/-! ## The text -/

/-- What `author` puts together before it substitutes. -/
def licenceText (name : List UInt8) : List UInt8 :=
  name ++ (crcSeparator ++ decimalInt (crcOf name))

theorem author_eq (name : List UInt8) (port : ℕ) :
    author name port = encryoptionstring (licenceText name) (exBook2Port initialBook port) := by
  have hprintf : printf (ascii "%s_crc_%d") [.str name, .int (crcOf name)] = licenceText name := by
    have hfmt : "%s_crc_%d" = "%s" ++ ("_crc_" ++ ("%d" ++ "")) := by decide
    have hsep : 37 ∉ ascii "_crc_" := notMem_ascii (by decide)
    rw [hfmt, ascii_append, ascii_append, ascii_append, printf_str, printf_append hsep, printf_int]
    change name ++ (crcSeparator ++ (decimalInt (crcOf name) ++ [])) = _
    rw [List.append_nil, licenceText]
  rw [author, hprintf]

/-- Names of up to 239 bytes always fit. -/
theorem licenceText_fits (h : name.length < 240) : (licenceText name).length < paresOutMax := by
  obtain ⟨hge, hlt⟩ := crcOf_range name
  have hdigits : (decimalInt (crcOf name)).length ≤ 11 := length_decimalInt_le (by omega)
  have hsep : crcSeparator.length = 5 := rfl
  rw [licenceText, List.length_append, List.length_append, paresOutMax]
  omega

/-- The separator is nowhere in the name, nor does it start in the name and end with the `_` behind. -/
def SeparatorFree (name : List UInt8) : Prop := ¬ crcSeparator <:+: name ++ ascii "_crc"

instance (name : List UInt8) : Decidable (SeparatorFree name) := inferInstanceAs (Decidable ¬ _)

theorem separator_at_length (name : List UInt8) :
    crcSeparator <+: (licenceText name).drop name.length := by
  rw [licenceText, List.drop_left]
  exact List.prefix_append _ _

theorem firstAt_length_iff :
    FirstAt crcSeparator (licenceText name) name.length ↔ SeparatorFree name := by
  have htake : (licenceText name).take (name.length + crcSeparator.length - 1)
      = name ++ ascii "_crc" := by
    change (name ++ (ascii "_crc" ++ 95 :: decimalInt (crcOf name))).take (name.length + 4) = _
    rw [← List.append_assoc]
    exact List.take_left' (by simp [ascii])
  have hlt : _ ↔ crcSeparator <:+: (licenceText name).take _ :=
    exists_lt_prefix_iff (k := name.length) (by decide)
  rw [htake] at hlt
  rw [SeparatorFree, ← hlt]
  refine ⟨?_, fun h => ⟨separator_at_length name, ?_⟩⟩
  · rintro h ⟨j, hj, hpre⟩
    exact h.notBefore j hj hpre
  · intro j hj hpre
    exact h ⟨j, hj, hpre⟩

/-- The first separator is at the end of the name or in it. -/
theorem exists_first (name : List UInt8) :
    ∃ k ≤ name.length, FirstAt crcSeparator (licenceText name) k :=
  exists_firstAt (separator_at_length name)

/-! ## The buffer -/

/-- A text without NUL is what a buffer holds when it stands there with a terminator behind it. -/
theorem ofBuffer_eq_iff {s : List UInt8} (hs : 0 ∉ s) :
    (CString.ofBuffer buffer).bytes = s ∧ 0 ∈ buffer ↔ s ++ [0] <+: buffer := by
  constructor
  · intro ⟨hbytes, hzero⟩
    have hsplit := List.takeWhile_append_dropWhile (p := fun b : UInt8 => b ≠ 0) (l := buffer)
    rw [show buffer.takeWhile (fun b : UInt8 => b ≠ 0) = s from hbytes] at hsplit
    cases hrest : buffer.dropWhile (fun b : UInt8 => b ≠ 0) with
    | nil =>
        rw [hrest, List.append_nil] at hsplit
        exact absurd (hsplit ▸ hzero) hs
    | cons c t =>
        have hc : c = 0 := by
          have h := List.head?_dropWhile_not (fun b : UInt8 => b ≠ 0) buffer
          rw [hrest] at h
          simpa using h
        rw [hrest, hc] at hsplit
        exact ⟨t, by rw [← hsplit, List.append_assoc, List.singleton_append]⟩
  · intro ⟨t, ht⟩
    subst ht
    refine ⟨?_, by simp⟩
    rw [List.append_assoc, CString.bytes_ofBuffer_append hs]
    exact List.append_nil s

/-- `memcpy` of the first `k` bytes of a name leaves the name in a buffer that held the rest of it. -/
theorem memcpy_holds_iff (name buffer : List UInt8) (k : ℕ) :
    name ++ [0] <+: name.take k ++ buffer.drop k ↔ name.drop k ++ [0] <+: buffer.drop k := by
  conv_lhs => rw [← List.take_append_drop k name, List.append_assoc]
  rw [List.take_append_drop, List.prefix_append_right_inj]

/-! ## `paresAuthor` after `author` -/

/-- What the caller of `paresAuthor` wants: success, and the name as a string in the buffer. -/
def Restores (name : CString) (port : ℕ) (buffer : List UInt8) : Prop :=
  ∃ buffer', paresAuthor (author name.bytes port) port buffer = .ok (0, buffer') ∧
    CString.ofBuffer buffer' = name

/-- The name and its terminator stand in the buffer already, from `k` on. -/
def HeldFrom (name buffer : List UInt8) (k : ℕ) : Prop := name.drop k ++ [0] <+: buffer.drop k

/-- With the first separator at `k`, the name comes back exactly when the buffer held the rest of it
    and the number behind that separator is the checksum. -/
theorem restores_iff {name : CString} (port : ℕ) (buffer : List UInt8)
    (hfits : (licenceText name.bytes).length < paresOutMax) (hle : k ≤ name.bytes.length)
    (hk : FirstAt crcSeparator (licenceText name.bytes) k) :
    Restores name port buffer ↔ HeldFrom name.bytes buffer k ∧
      atoi ((licenceText name.bytes).drop (k + crcSeparator.length)) = crcOf name.bytes := by
  have hlen : (author name.bytes port).length = (licenceText name.bytes).length := by
    rw [author_eq, encryoptionstring, List.length_map]
  have htext : (licenceText name.bytes).length - ((licenceText name.bytes).drop k).length = k := by
    have h : (licenceText name.bytes).length = name.bytes.length + (crcSeparator ++ _).length :=
      List.length_append
    rw [List.length_drop]
    omega
  have htake : (licenceText name.bytes).take k = name.bytes.take k := List.take_append_of_le_length hle
  have hheld := memcpy_holds_iff name.bytes buffer k
  rw [← ofBuffer_eq_iff name.noNul] at hheld
  rw [Restores, paresAuthor, if_neg (by omega), author_eq, decode_encry, HeldFrom]
  simp only [hk.strstr_eq, htext, htake, List.drop_drop, ← hheld]
  by_cases hroom : buffer.length < k
  · have hnil : buffer.drop k = [] := List.drop_of_length_le (by omega)
    have hnot : ¬ name.bytes.drop k ++ [0] <+: buffer.drop k := by simp [hnil]
    rw [if_pos hroom]
    exact iff_of_false (fun ⟨_, hret, _⟩ => nomatch hret) fun ⟨h, _⟩ => hnot (hheld.1 h)
  · rw [if_neg hroom]
    generalize hbuffer : name.bytes.take k ++ buffer.drop k = buffer'
    constructor
    · intro ⟨_, hret, hbytes⟩
      split at hret
      · cases hret
      · next hzero =>
          split at hret
          · cases hret
          · next hcrc =>
              cases hret
              rw [not_not] at hzero hcrc
              exact ⟨⟨by rw [hbytes], hzero⟩, by rw [← hcrc, hbytes]⟩
    · intro ⟨⟨hbytes, hzero⟩, hcrc⟩
      refine ⟨buffer', ?_, CString.ext_bytes hbytes⟩
      rw [if_neg (not_not.2 hzero), hbytes, if_neg (not_not.2 hcrc.symm)]

/-- **When a licence round trip succeeds.** For every port, the name comes back when it is free of the
    separator and the buffer has a NUL behind it; otherwise only when the buffer held the rest of the
    name from its first separator on and the number behind that separator is the checksum. -/
theorem licence_restored_iff (name : CString) (port : ℕ) (buffer : List UInt8)
    (hfits : (licenceText name.bytes).length < paresOutMax) :
    Restores name port buffer ↔
      SeparatorFree name.bytes ∧ buffer[name.strlen]? = some 0 ∨
        ∃ k < name.strlen, FirstAt crcSeparator (licenceText name.bytes) k ∧
          HeldFrom name.bytes buffer k ∧
          atoi ((licenceText name.bytes).drop (k + crcSeparator.length)) = crcOf name.bytes := by
  have hend : HeldFrom name.bytes buffer name.strlen ↔ buffer[name.strlen]? = some 0 := by
    rw [HeldFrom, CString.strlen, List.drop_length, List.nil_append, ← List.head?_drop]
    cases buffer.drop name.bytes.length with
    | nil => simp
    | cons b s => simp [List.cons_prefix_cons, eq_comm]
  have hcrc : atoi ((licenceText name.bytes).drop (name.strlen + crcSeparator.length))
      = crcOf name.bytes := by
    rw [← List.drop_drop, licenceText, CString.strlen, List.drop_left, List.drop_left]
    exact atoi_decimalInt (crcOf_range _).1 (crcOf_range _).2
  obtain ⟨k, hle, hk⟩ := exists_first name.bytes
  rw [restores_iff port buffer hfits hle hk, ← firstAt_length_iff]
  constructor
  · intro ⟨hheld, hnum⟩
    rcases hle.lt_or_eq with hlt | rfl
    · exact .inr ⟨k, hlt, hk, hheld, hnum⟩
    · exact .inl ⟨hk, hend.1 hheld⟩
  · rintro (⟨hfree, hnul⟩ | ⟨j, hj, hfirst, hheld, hnum⟩)
    · obtain rfl := hk.unique hfree
      exact ⟨hend.2 hnul, hcrc⟩
    · obtain rfl := hk.unique hfirst
      exact ⟨hheld, hnum⟩

/-- A key that is read back into a cleared buffer. -/
theorem licence_restored :
    Restores ⟨ascii "INEW-001234-UUYTG", by decide⟩ 2468 (List.replicate 64 0) :=
  (licence_restored_iff _ _ _ (licenceText_fits (by decide))).2 (.inl (by decide))

/-- A name with the separator in it is cut there and turned down, also with a cleared buffer. -/
theorem licence_with_separator_refused :
    ¬ Restores ⟨ascii "gate_crc_1", by decide⟩ 2468 (List.replicate 64 0) := by
  have hfirst : FirstAt crcSeparator (licenceText (ascii "gate_crc_1")) 4 :=
    ⟨by decide, by decide⟩
  rw [restores_iff _ _ (licenceText_fits (by decide)) (by decide) hfirst]
  intro ⟨hheld, _⟩
  exact absurd hheld (by unfold HeldFrom; decide)

/-! ## Which spellings are accepted

The substitution is one to one, so two spellings of a licence differ in the text under it. There the
number behind the first separator is read with `atoi`: leading white space, a plus sign, leading zeros
and whatever follows the digits are not looked at. -/

variable {authorstr : CString} {buffer buffer' : List UInt8} {port k : ℕ}

/-! ## The decoded text -/

/-- The text under the substitution. -/
def decodedText (authorstr : List UInt8) (port : ℕ) : List UInt8 :=
  decodeoptionstring authorstr (exBook2Port initialBook port)

theorem eq_author_iff {name : List UInt8} :
    authorstr.bytes = author name port ↔ decodedText authorstr.bytes port = licenceText name := by
  rw [author_eq, decodedText]
  constructor
  · intro h
    rw [h, decode_encry]
  · intro h
    rw [← h, encry_decode]

theorem decodedText_author (name : List UInt8) (port : ℕ) :
    decodedText (author name port) port = licenceText name := by
  rw [author_eq, decodedText, decode_encry]

theorem decodedText_append (s t : List UInt8) (port : ℕ) :
    decodedText (s ++ t) port = decodedText s port ++ decodedText t port :=
  List.map_append

/-- Books have the letters of `g_book` only. -/
theorem notMem_book {c : UInt8} (h : ∀ j, (gBook j).c ≠ c) (port : ℕ) :
    c ∉ Set.range fun j => exBook2Port initialBook port (cellAt j) := by
  rw [(book_letters port).2]
  exact fun ⟨j, hj⟩ => h j hj

/-- What is no letter stays as it is. -/
theorem decodedText_other {c : UInt8} (h : ∀ j, (gBook j).c ≠ c) (port : ℕ) : decodedText [c] port = [c] :=
  congrArg (fun d => [d]) (translate_of_notMem (notMem_book h port))

theorem gBook_ne_of_notMem {c : UInt8} (h : c ∉ gBookLetters) (j : Fin 64) : (gBook j).c ≠ c := fun hj =>
  h (hj ▸ gBook_mem j)

theorem gBook_ne_zero : ∀ j, (gBook j).c ≠ 0 := gBook_ne_of_notMem (by decide)

/-- NUL is no letter. -/
theorem noNul_decodedText (authorstr : CString) (port : ℕ) : 0 ∉ decodedText authorstr.bytes port := by
  have hzero := notMem_book gBook_ne_zero port
  intro h
  obtain ⟨c, hc, h0⟩ := List.mem_map.1 h
  have hback := translate_translate (List.mem_finRange) (book_letters port).1 gBook_injective
    (book_letters port).2.symm c
  have hfix : translate (List.finRange 64) (fun j => (gBook j).c)
      (fun j => exBook2Port initialBook port (cellAt j)) 0 = 0 :=
    translate_of_notMem ((book_letters port).2 ▸ hzero)
  rw [h0, hfix] at hback
  exact authorstr.noNul (hback ▸ hc)

theorem noNul_author {name : List UInt8} (h : 0 ∉ licenceText name) (port : ℕ) : 0 ∉ author name port := by
  intro hzero
  refine h ?_
  rw [← decodedText_author name port]
  exact List.mem_map.2 ⟨0, hzero, translate_of_notMem (notMem_book gBook_ne_zero port)⟩

/-- What the buffer holds behind a name of `k` bytes, up to its NUL. -/
def heldBehind (buffer : List UInt8) (k : ℕ) : List UInt8 := (CString.ofBuffer (buffer.drop k)).bytes

/-- With the first separator at `k`: from there on stands what `author` would have put behind the first
    `k` bytes of the name in the buffer. -/
def SpeltAsPrinted (authorstr buffer : List UInt8) (port k : ℕ) : Prop :=
  (decodedText authorstr port).drop k = heldBehind buffer k ++ (crcSeparator ++
    decimalInt (atoi ((decodedText authorstr port).drop (k + crcSeparator.length))))

instance (authorstr buffer : List UInt8) (port k : ℕ) :
    Decidable (SpeltAsPrinted authorstr buffer port k) :=
  inferInstanceAs (Decidable (_ = _))

/-- In a cleared buffer only the number matters. -/
theorem speltAsPrinted_iff (hheld : heldBehind buffer k = [])
    (hk : FirstAt crcSeparator (decodedText authorstr.bytes port) k) :
    SpeltAsPrinted authorstr.bytes buffer port k ↔
      (decodedText authorstr.bytes port).drop (k + crcSeparator.length)
        = decimalInt (atoi ((decodedText authorstr.bytes port).drop (k + crcSeparator.length))) := by
  obtain ⟨tail, htail⟩ := hk.here
  rw [SpeltAsPrinted, hheld, List.nil_append, ← List.drop_drop, ← htail, List.drop_left,
    List.append_cancel_left_eq]

/-! ## What is accepted -/

/-- The string that the name makes with what the buffer holds behind it. -/
theorem ofBuffer_take_append {s : List UInt8} (hs : 0 ∉ s) (k : ℕ) :
    (CString.ofBuffer (s.take k ++ buffer.drop k)).bytes = s.take k ++ heldBehind buffer k :=
  CString.bytes_ofBuffer_append (fun h => hs (List.mem_of_mem_take h)) _

/-- What `paresAuthor` has found when it returns 0: a separator, and in the buffer a name whose checksum
    is the number behind it. -/
theorem exists_of_accepted (h : paresAuthor authorstr.bytes port buffer = .ok (0, buffer')) :
    ∃ k, FirstAt crcSeparator (decodedText authorstr.bytes port) k ∧
      (CString.ofBuffer buffer').bytes
        = (decodedText authorstr.bytes port).take k ++ heldBehind buffer k ∧
      crcOf (CString.ofBuffer buffer').bytes
        = atoi ((decodedText authorstr.bytes port).drop (k + crcSeparator.length)) := by
  have hzero := noNul_decodedText authorstr port
  simp only [decodedText] at hzero ⊢
  simp only [paresAuthor] at h
  generalize decodeoptionstring authorstr.bytes (exBook2Port initialBook port) = out at h hzero ⊢
  split at h
  · cases h
  · split at h
    · cases h
    · next p hp =>
        obtain ⟨k, hle, hk, rfl⟩ := strstr_eq_some_iff.1 hp
        have hlen : out.length - (out.drop k).length = k := by
          rw [List.length_drop]
          omega
        rw [hlen, List.drop_drop] at h
        split at h
        · cases h
        · split at h
          · cases h
          · split at h
            · cases h
            · next hcrc =>
                cases h
                rw [not_not] at hcrc
                exact ⟨k, hk, ofBuffer_take_append hzero k, hcrc⟩

/-- **What accepting a licence proves.** When `paresAuthor` succeeds, the licence is the one that `author`
    makes of the name in the buffer exactly where it is spelt as `author` prints it: behind the part of
    the name that was copied come the rest of it, if the buffer held any, and the separator with the
    number that was read, printed by `%d`. -/
theorem licence_sound_iff (h : paresAuthor authorstr.bytes port buffer = .ok (0, buffer')) :
    authorstr.bytes = author (CString.ofBuffer buffer').bytes port ↔
      ∃ k, FirstAt crcSeparator (decodedText authorstr.bytes port) k ∧
        SpeltAsPrinted authorstr.bytes buffer port k := by
  obtain ⟨k, hk, hname, hcrc⟩ := exists_of_accepted h
  -- up to the separator both spellings are the name
  have hspelt : decodedText authorstr.bytes port = licenceText (CString.ofBuffer buffer').bytes ↔
      SpeltAsPrinted authorstr.bytes buffer port k := by
    conv_lhs => lhs; rw [← List.take_append_drop k (decodedText authorstr.bytes port)]
    rw [licenceText, hcrc, hname, List.append_assoc, List.append_cancel_left_eq, SpeltAsPrinted]
  rw [eq_author_iff, hspelt]
  constructor
  · intro hs
    exact ⟨k, hk, hs⟩
  · intro ⟨j, hj, hs⟩
    obtain rfl := hk.unique hj
    exact hs

/-- A licence as `author` makes it, read into a cleared buffer. -/
theorem licence_sound_gate : author (ascii "gate") 2468
    = author (CString.ofBuffer (ascii "gate" ++ List.replicate 4 0)).bytes 2468 := by
  have hdecoded := decodedText_author (ascii "gate") 2468
  let authorstr : CString := ⟨author (ascii "gate") 2468, noNul_author (by decide) 2468⟩
  have haccepted : paresAuthor authorstr.bytes 2468 (List.replicate 8 0)
      = .ok (0, ascii "gate" ++ List.replicate 4 0) := by
    rw [decodedText] at hdecoded
    simp only [paresAuthor, authorstr, hdecoded]
    decide
  have htext : decodedText authorstr.bytes 2468 = licenceText (ascii "gate") := hdecoded
  have hfirst : FirstAt crcSeparator (decodedText authorstr.bytes 2468) 4 := by
    rw [htext]
    exact ⟨by decide, by decide⟩
  have hheld : heldBehind (List.replicate 8 0) 4 = [] := by decide
  have hspelt : SpeltAsPrinted authorstr.bytes (List.replicate 8 0) 2468 4 := by
    rw [speltAsPrinted_iff hheld hfirst, htext]
    decide
  exact (licence_sound_iff haccepted).2 ⟨4, hfirst, hspelt⟩

/-- The same licence with a full stop behind it is accepted as well. -/
theorem licence_with_tail_accepted :
    paresAuthor (author (ascii "gate") 2468 ++ ascii ".") 2468 (List.replicate 8 0)
        = .ok (0, ascii "gate" ++ List.replicate 4 0) ∧
      (CString.ofBuffer (ascii "gate" ++ List.replicate 4 0)).bytes = ascii "gate" ∧
      author (ascii "gate") 2468 ++ ascii "." ≠ author (ascii "gate") 2468 := by
  have hdecoded : decodedText (author (ascii "gate") 2468 ++ ascii ".") 2468 =
      licenceText (ascii "gate") ++ ascii "." := by
    rw [decodedText_append, decodedText_author]
    exact congrArg _ (decodedText_other (gBook_ne_of_notMem (by decide)) 2468)
  refine ⟨?_, by decide, fun h => ?_⟩
  · rw [decodedText] at hdecoded
    simp only [paresAuthor, hdecoded]
    decide
  · exact absurd (List.append_right_eq_self.1 h) (by decide)

end SmartPlat.MyAuthor
