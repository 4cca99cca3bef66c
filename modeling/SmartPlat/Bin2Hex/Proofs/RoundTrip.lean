import SmartPlat.Bin2Hex.Converter
import Mathlib.Order.Interval.Finset.Nat

set_option autoImplicit false

/-! # The text of a binary file

The text describes the file as it should wherever it can be written at all: a record of more than five
data bytes does not fit the array for its text. The addresses of the format are 32 bits wide, so that a
file that reaches beyond them comes out at the wrong end. -/

namespace SmartPlat.Bin2Hex

open SmartPlat.Lib SmartPlat.Lib.IntelHex

/-! ## What the text should describe -/

/-- The address of the file's first byte. -/
def Params.base (p : Params) : ℕ := p.begin + p.offset

/-- The bytes of the file within the limits given. -/
def Params.image (p : Params) (file : List UInt8) : List UInt8 := (file.drop p.start).take p.length

section Image

variable (base : ℕ) (image : List UInt8)

/-- Bytes `i` and `j` stand in the same block of 16 bytes and in the same 64 KiB of addresses. -/
def SameRecord (i j : ℕ) : Prop := i / 16 = j / 16 ∧ (base + i) / 65536 = (base + j) / 65536

instance (i j : ℕ) : Decidable (SameRecord base i j) :=
  inferInstanceAs (Decidable (_ ∧ _))

/-- The record of byte `i` consists only of 0xFF. -/
def Blank (i : ℕ) : Prop := ∀ j < image.length, SameRecord base i j → image[j]? = some ignorData

instance (i : ℕ) : Decidable (Blank base image i) :=
  inferInstanceAs (Decidable (∀ j < image.length, _))

/-- The number of bytes in the record of byte `i`. -/
def recordLength (i : ℕ) : ℕ := ((Finset.range image.length).filter (SameRecord base i)).card

/-- The number of records, of which the first and the last are always there: one for each further
    64 KiB that the image reaches, and one for each record of data that is not blank, counted at its
    first byte. -/
def recordCount : ℕ :=
  2 + ((base + image.length) / 65536 - base / 65536)
    + ((Finset.range image.length).filter fun i =>
        (∀ j < i, ¬ SameRecord base j i) ∧ ¬ Blank base image i).card

/-- Byte `i` at address `base + i`, blank records left out, and nothing else. -/
def imageMemory : Memory := fun a =>
  if base ≤ a ∧ ¬ Blank base image (a - base) then image[a - base]? else none

end Image

/-- The text is written without a fault and describes the image. -/
def RoundTrips (b : Build) (p : Params) (file : List UInt8) : Prop :=
  ∃ text mem, bin2Hex b p file = .ok text ∧ load Loader.init text = some mem
    ∧ mem = imageMemory p.base (p.image file)

/-! ## Building a record -/

theorem checkSum_eq (bytes : List UInt8) : checkSum bytes = -byteSum bytes :=
  (UInt8.neg_eq_not_add _).symm

theorem intChar_eq : ∀ n < 16, intChar (UInt8.ofNat n) = digit n := by decide

theorem intChar_digits (c : UInt8) : [intChar (c >>> 4), intChar (c &&& 0xF)] = digits c := by
  have hc := c.toNat_lt
  have hhigh : c >>> 4 = UInt8.ofNat (c.toNat / 16) := by
    apply UInt8.toNat_inj.1
    rw [UInt8.toNat_shiftRight, UInt8.toNat_ofNat_of_lt' (show c.toNat / 16 < 256 by omega)]
    exact Nat.shiftRight_eq_div_pow _ 4
  have hlow : c &&& 0xF = UInt8.ofNat (c.toNat % 16) := by
    apply UInt8.toNat_inj.1
    rw [UInt8.toNat_and, UInt8.toNat_ofNat_of_lt' (show c.toNat % 16 < 256 by omega)]
    exact Nat.and_two_pow_sub_one_eq_mod _ 4
  rw [hhigh, hlow, intChar_eq _ (by omega), intChar_eq _ (by omega)]
  rfl

theorem length_digits (bytes : List UInt8) : (bytes.flatMap digits).length = 2 * bytes.length := by
  induction bytes with
  | nil => rfl
  | cons b bytes ih =>
    rw [List.flatMap_cons, List.length_append, ih, List.length_cons]
    simp only [digits, List.length_cons, List.length_nil]
    omega

/-- The byte that the checksum of the `n`-th record takes in beside the record's own. -/
def Build.extra (b : Build) (n : ℕ) : UInt8 := if b.incremented then b.stale n else 0

/-- The `n`-th record as it stands in the file. -/
def Build.line (b : Build) (n : ℕ) (bytes : List UInt8) : List UInt8 :=
  IntelHex.line (bytes ++ [-(byteSum bytes + b.extra n)])

variable {b : Build}

theorem checkSum_summed (b : Build) (n : ℕ) (bytes : List UInt8) :
    checkSum (b.summed n bytes) = -(byteSum bytes + b.extra n) := by
  rw [checkSum_eq, Build.summed, Build.extra]
  split
  · rw [byteSum, List.foldl_append]
    rfl
  · rw [UInt8.add_zero]

theorem Build.line_eq {n : ℕ} (h : b.extra n = 0) (bytes : List UInt8) :
    b.line n bytes = IntelHex.line (sealed bytes) := by
  rw [Build.line, h, UInt8.add_zero, sealed]

theorem Build.line_rejects {s : Loader} {n : ℕ} (h : b.extra n ≠ 0) (bytes : List UInt8) :
    Rejects s (b.line n bytes) := by
  refine rejects_line fun hsum => h ?_
  rw [byteSum, List.foldl_append] at hsum
  change byteSum bytes + -(byteSum bytes + b.extra n) = 0 at hsum
  have hneg : byteSum bytes + b.extra n = byteSum bytes := by
    have hcancel := UInt8.add_left_neg (byteSum bytes + b.extra n)
    rw [UInt8.add_comm] at hsum
    exact (UInt8.add_right_inj _).1 (hcancel.trans hsum.symm)
  exact (UInt8.add_right_inj (byteSum bytes)).1 (hneg.trans (UInt8.add_zero _).symm)

/-- The text of a record is the record's line if its bytes are few enough. -/
theorem recordText_eq (b : Build) (n : ℕ) (bytes : List UInt8) :
    recordText b n bytes
      = if bytes.length ≤ 9 then .ok (b.line n bytes) else .error .badAccess := by
  have hencode : encode (bytes ++ [-(byteSum bytes + b.extra n)])
      = if bytes.length ≤ 9 then .ok (b.line n bytes) else .error .badAccess := by
    have hlen : (b.line n bytes).length = 2 * bytes.length + 5 := by
      rw [Build.line, IntelHex.line, List.length_cons, List.length_append, length_digits,
        List.length_append]
      simp only [List.length_cons, List.length_nil]
      omega
    simp only [encode, intChar_digits]
    rw [← IntelHex.line, ← Build.line, hlen, binDataLen]
    exact if_congr (by omega) rfl rfl
  rw [recordText, checkSum_summed, hencode, binDataLen]
  by_cases hlen : bytes.length ≤ 9
  · rw [if_pos (by omega)]
  · rw [if_neg hlen, ite_self]

/-- The writer after one more record. -/
def Writer.addRecord (b : Build) (w : Writer) (bytes : List UInt8) : Writer :=
  { w with records := w.records + 1, out := w.out ++ b.line w.records bytes }

@[simp] theorem addRecord_begin (w : Writer) (bytes : List UInt8) :
    (w.addRecord b bytes).begin = w.begin := rfl

@[simp] theorem addRecord_offset (w : Writer) (bytes : List UInt8) :
    (w.addRecord b bytes).offset = w.offset := rfl

@[simp] theorem addRecord_records (w : Writer) (bytes : List UInt8) :
    (w.addRecord b bytes).records = w.records + 1 := rfl

theorem writeDataRecord_eq (b : Build) (w : Writer) (p : List UInt8) :
    w.writeDataRecord b p
      = if ∀ c ∈ p, c = ignorData then .ok w
        else if p.length ≤ 5 then
          .ok (w.addRecord b (UInt8.ofNat p.length :: UInt8.ofNat (w.offset / 256)
            :: UInt8.ofNat w.offset :: 0x00 :: p))
        else .error .badAccess := by
  rw [Writer.writeDataRecord, Writer.writeRecord, recordText_eq]
  refine if_congr Iff.rfl rfl ?_
  simp only [List.length_cons]
  by_cases hlen : p.length ≤ 5
  · rw [if_pos (by omega), if_pos hlen]
    rfl
  · rw [if_neg (by omega), if_neg hlen]
    rfl

theorem writeExtendedLinearAddress_eq (b : Build) (w : Writer) :
    w.writeExtendedLinearAddress b
      = .ok (w.addRecord b [2, 0, 0, 4, UInt8.ofNat (w.begin / 16777216),
          UInt8.ofNat (w.begin / 65536)]) := by
  rw [Writer.writeExtendedLinearAddress, Writer.writeRecord, recordText_eq]
  rfl

theorem writeEndOfFile_eq (b : Build) (w : Writer) :
    w.writeEndOfFile b = .ok (w.addRecord b [0, 0, 0, 1]) := by
  rw [Writer.writeEndOfFile, Writer.writeRecord, recordText_eq]
  rfl

/-! ## Where the records lie -/

variable {base : ℕ} {image : List UInt8}

/-- The bytes from `lo` on and before `hi` make up a record. -/
structure IsRecord (base n lo hi : ℕ) : Prop where
  lt : lo < hi
  le : hi ≤ n
  same : ∀ j < n, SameRecord base lo j ↔ lo ≤ j ∧ j < hi

theorem IsRecord.same_of {n lo hi i j : ℕ} (h : IsRecord base n lo hi) (hi' : lo ≤ i ∧ i < hi)
    (hj : j < n) : SameRecord base i j ↔ lo ≤ j ∧ j < hi := by
  obtain ⟨h1, h2⟩ := (h.same i (by have := h.le; omega)).2 hi'
  rw [← h.same j hj, SameRecord, SameRecord, h1, h2]

theorem IsRecord.blank_iff {lo hi i : ℕ} (h : IsRecord base image.length lo hi)
    (hi' : lo ≤ i ∧ i < hi) :
    Blank base image i ↔ ∀ c ∈ (image.drop lo).take (hi - lo), c = ignorData := by
  have hle := h.le
  constructor
  · intro hblank c hc
    obtain ⟨k, hk, rfl⟩ := List.getElem_of_mem hc
    rw [List.length_take, List.length_drop] at hk
    have hget := hblank (lo + k) (by omega) ((h.same_of hi' (by omega)).2 (by omega))
    rw [List.getElem_take, List.getElem_drop]
    exact (List.getElem_eq_iff _).2 hget
  · intro hall j hj hsame
    obtain ⟨hlo, hhi⟩ := (h.same_of hi' hj).1 hsame
    have hget : ((image.drop lo).take (hi - lo))[j - lo]? = image[j]? := by
      rw [List.getElem?_take_of_lt (by omega), List.getElem?_drop, Nat.add_sub_cancel' hlo]
    rw [← hall _ (List.getElem_mem (l := (image.drop lo).take (hi - lo)) (n := j - lo)
      (by rw [List.length_take, List.length_drop]; omega)), ← hget]
    exact List.getElem?_eq_getElem _

theorem IsRecord.length_eq {lo hi i : ℕ} (h : IsRecord base image.length lo hi)
    (hi' : lo ≤ i ∧ i < hi) : recordLength base image i = hi - lo := by
  have hle := h.le
  have hset : (Finset.range image.length).filter (SameRecord base i) = Finset.Ico lo hi := by
    ext j
    rw [Finset.mem_filter, Finset.mem_range, Finset.mem_Ico]
    constructor
    · rintro ⟨hj, hsame⟩
      exact (h.same_of hi' hj).1 hsame
    · intro hj
      exact ⟨by omega, (h.same_of hi' (by omega)).2 hj⟩
  rw [recordLength, hset, Nat.card_Ico]

/-- A block that does not cross a multiple of 64 KiB is a record. -/
theorem isRecord_block (base : ℕ) {n c len : ℕ} (hc : c % 16 = 0) (hpos : 0 < len)
    (hlen : len = min 16 (n - c)) (hfits : (base + c) % 65536 + len ≤ 65536) :
    IsRecord base n c (c + len) := by
  refine ⟨by omega, by omega, fun j hj => ?_⟩
  rw [SameRecord]
  omega

/-- A block that does is two of them. -/
theorem isRecord_before (base : ℕ) {n c len k : ℕ} (hc : c % 16 = 0)
    (hlen : len = min 16 (n - c)) (hk : (base + c) % 65536 + k = 65536) (hlt : k < len) :
    IsRecord base n c (c + k) := by
  refine ⟨by omega, by omega, fun j hj => ?_⟩
  rw [SameRecord]
  omega

theorem isRecord_behind (base : ℕ) {n c len k : ℕ} (hc : c % 16 = 0)
    (hlen : len = min 16 (n - c)) (hk : (base + c) % 65536 + k = 65536) (hlt : k < len) :
    IsRecord base n (c + k) (c + len) := by
  refine ⟨by omega, by omega, fun j hj => ?_⟩
  rw [SameRecord]
  omega

/-! ## What has been written -/

section Written

variable (base : ℕ) (image : List UInt8)

/-- Some record of the image has more than five bytes, and is not left out. -/
def TooLong : Prop := ∃ i < image.length, ¬ Blank base image i ∧ 5 < recordLength base image i

/-- What the memory should be when the first `c` bytes have been written. -/
def memoryTo (c : ℕ) : Memory := fun a =>
  if base ≤ a ∧ a < base + c ∧ ¬ Blank base image (a - base) then image[a - base]? else none

/-- The memory that the text describes when the first `c` bytes have been written. -/
structure Described (c : ℕ) (mem : Memory) : Prop where
  within : ∀ a, 2 ^ 32 ≤ a → mem a = none
  exact : (∀ i < c, ¬ Blank base image i → base + i < 2 ^ 32) → mem = memoryTo base image c
  short : ∀ i < c, ¬ Blank base image i → recordLength base image i ≤ 5

/-- The records of data that begin among the first `c` bytes. -/
def dataRecords (c : ℕ) : ℕ := ((Finset.range c).filter fun i =>
  (∀ j < i, ¬ SameRecord base j i) ∧ ¬ Blank base image i).card

/-- The checksums of the first `n` records are right. -/
def Build.Clean (b : Build) (n : ℕ) : Prop := ∀ k < n, b.extra k = 0

/-- The writer stands in the 64 KiB of its `begin`; its text is loaded unless a checksum is wrong. -/
structure Placed (b : Build) (w : Writer) (mem : Memory) : Prop where
  begin_mod : w.begin % 65536 = 0
  begin_lt : w.begin < 2 ^ 32
  loads : b.Clean w.records → Loads Loader.init w.out ⟨w.begin / 65536, mem⟩
  rejects : ¬ b.Clean w.records → Rejects Loader.init w.out

/-- The first `c` bytes have been written. -/
structure Written (b : Build) (c : ℕ) (w : Writer) : Prop where
  offset_lt : w.offset < 65536
  address : w.begin + w.offset = (base + c) % 2 ^ 32
  records : w.records = 1 + ((base + c) / 65536 - base / 65536) + dataRecords base image c
  text : ∃ mem, Placed b w mem ∧ Described base image c mem

/-- A fault only when some record is too long, and otherwise `P`. -/
def Leads (P : Writer → Prop) : Except Fault Writer → Prop
  | .ok w => P w
  | .error _ => TooLong base image

end Written

theorem Leads.bind {P P' : Writer → Prop} {x : Except Fault Writer}
    {f : Writer → Except Fault Writer} (h : Leads base image P x)
    (h' : ∀ w, P w → Leads base image P' (f w)) : Leads base image P' (x >>= f) := by
  cases x with
  | error e => exact h
  | ok w => exact h' w h

theorem Described.blank {lo hi : ℕ} {mem : Memory} (h : Described base image lo mem)
    (hrec : IsRecord base image.length lo hi) (hblank : Blank base image lo) :
    Described base image hi mem := by
  have hall : ∀ i, lo ≤ i → i < hi → Blank base image i := fun i h1 h2 =>
    (hrec.blank_iff ⟨h1, h2⟩).2 ((hrec.blank_iff ⟨le_rfl, hrec.lt⟩).1 hblank)
  refine ⟨h.within, fun hlt => ?_, fun i hi' hn => ?_⟩
  · rw [h.exact fun i hi' hn => hlt i (lt_trans hi' hrec.lt) hn]
    funext a
    refine if_congr ⟨fun ⟨h1, h2, h3⟩ => ⟨h1, lt_trans h2 (by have := hrec.lt; omega), h3⟩,
      fun ⟨h1, h2, h3⟩ => ⟨h1, ?_, h3⟩⟩ rfl rfl
    by_contra hge
    exact h3 (hall _ (by omega) (by omega))
  · refine h.short i ?_ hn
    by_contra hge
    exact hn (hall i (by omega) hi')

theorem Described.data {lo hi address : ℕ} {mem : Memory} (h : Described base image lo mem)
    (hrec : IsRecord base image.length lo hi) (hblank : ¬ Blank base image lo) (hlen : hi - lo ≤ 5)
    (haddress : address = (base + lo) % 2 ^ 32) (hfits : address + (hi - lo) ≤ 2 ^ 32) :
    Described base image hi (mem.store address ((image.drop lo).take (hi - lo))) := by
  have hlt := hrec.lt
  have hle := hrec.le
  have hlength : ((image.drop lo).take (hi - lo)).length = hi - lo := by
    rw [List.length_take, List.length_drop]
    omega
  have hall : ∀ i, lo ≤ i → i < hi → ¬ Blank base image i := fun i h1 h2 hi' =>
    hblank ((hrec.blank_iff ⟨le_rfl, hlt⟩).2 ((hrec.blank_iff ⟨h1, h2⟩).1 hi'))
  refine ⟨fun a ha => ?_, fun hbelow => ?_, fun i hi' hn => ?_⟩
  · rw [Memory.store_apply (by rw [hlength]; exact hfits), if_neg (by omega)]
    exact h.within a ha
  · have hat : address = base + lo := by
      rw [haddress, Nat.mod_eq_of_lt (hbelow lo hlt hblank)]
    funext a
    rw [Memory.store_apply (by rw [hlength]; exact hfits), hlength, hat,
      h.exact fun i hi' hn => hbelow i (lt_trans hi' hlt) hn]
    by_cases hin : base + lo ≤ a ∧ a < base + lo + (hi - lo)
    · rw [if_pos hin, List.getElem?_take_of_lt (by omega), List.getElem?_drop, memoryTo,
        if_pos ⟨by omega, by omega, hall _ (by omega) (by omega)⟩]
      congr 1
      omega
    · rw [if_neg hin]
      refine if_congr ⟨fun ⟨h1, h2, h3⟩ => ⟨h1, by omega, h3⟩, fun ⟨h1, h2, h3⟩ =>
        ⟨h1, by omega, h3⟩⟩ rfl rfl
  · rcases Nat.lt_or_ge i lo with hi'' | hi''
    · exact h.short i hi'' hn
    · rw [hrec.length_eq ⟨hi'', hi'⟩]
      exact hlen

/-- A record of data is counted at its first byte. -/
theorem IsRecord.dataRecords_eq {lo hi : ℕ} (h : IsRecord base image.length lo hi) :
    dataRecords base image hi
      = dataRecords base image lo + if Blank base image lo then 0 else 1 := by
  have hlt := h.lt
  have hle := h.le
  -- no byte before `lo` is in the record, and every other byte of it has `lo` before it
  have hfirst : ∀ j < lo, ¬ SameRecord base j lo := fun j hj hsame => by
    have hmem := (h.same j (by omega)).1 ⟨hsame.1.symm, hsame.2.symm⟩
    omega
  have hother : ∀ i, lo < i → i < hi → ¬ ∀ j < i, ¬ SameRecord base j i := fun i h1 h2 hall =>
    hall lo h1 ((h.same i (by omega)).2 ⟨h1.le, h2⟩)
  have hset : (Finset.range hi).filter (fun i =>
        (∀ j < i, ¬ SameRecord base j i) ∧ ¬ Blank base image i)
      = ((Finset.range lo).filter fun i =>
          (∀ j < i, ¬ SameRecord base j i) ∧ ¬ Blank base image i)
        ∪ if Blank base image lo then ∅ else {lo} := by
    ext i
    simp only [Finset.mem_union, Finset.mem_filter, Finset.mem_range]
    rcases Nat.lt_trichotomy i lo with hi' | rfl | hi'
    · have hne : i ∉ (if Blank base image lo then ∅ else {lo} : Finset ℕ) := by
        split <;> simp [hi'.ne]
      simp only [hi', hi'.trans hlt, true_and, hne, or_false]
    · simp only [hlt, true_and, lt_irrefl, false_and, false_or]
      by_cases hblank : Blank base image i
      · simp [hblank]
      · simpa [hblank] using hfirst
    · have hne : i ∉ (if Blank base image lo then ∅ else {lo} : Finset ℕ) := by
        split <;> simp [hi'.ne']
      simp only [hi'.not_gt, false_and, hne, or_self, iff_false]
      exact fun hmem => hother i hi' hmem.1 hmem.2.1
  rw [dataRecords, hset, Finset.card_union_of_disjoint, dataRecords]
  · split <;> rfl
  · split
    · exact Finset.disjoint_empty_right _
    · simp

theorem Build.clean_succ {n : ℕ} : b.Clean (n + 1) ↔ b.Clean n ∧ b.extra n = 0 :=
  Nat.forall_lt_succ_right

/-- One more record behind a text. -/
theorem Placed.addRecord {w : Writer} {mem mem' : Memory} {upper : ℕ} {bytes : List UInt8}
    (hmod : w.begin % 65536 = 0) (hlt : w.begin < 2 ^ 32)
    (hloads : b.Clean w.records → Loads Loader.init w.out ⟨upper, mem⟩)
    (hrejects : ¬ b.Clean w.records → Rejects Loader.init w.out)
    (hrecord : Loads ⟨upper, mem⟩ (IntelHex.line (sealed bytes)) ⟨w.begin / 65536, mem'⟩) :
    Placed b (w.addRecord b bytes) mem' := by
  refine ⟨hmod, hlt, fun hclean => ?_, fun hclean => ?_⟩
  · obtain ⟨hbefore, hextra⟩ := Build.clean_succ.1 hclean
    rw [Writer.addRecord, Build.line_eq hextra]
    exact (hloads hbefore).trans hrecord
  · by_cases hbefore : b.Clean w.records
    · have hextra : b.extra w.records ≠ 0 := fun hzero =>
        hclean (Build.clean_succ.2 ⟨hbefore, hzero⟩)
      exact (hloads hbefore).rejects (Build.line_rejects hextra bytes)
    · exact (hrejects hbefore).append _

/-- One record: what `writeDataRecord` does to the text. -/
theorem writeDataRecord_leads {lo hi : ℕ} {w : Writer} {mem : Memory} (hw : Placed b w mem)
    (h : Described base image lo mem) (hrec : IsRecord base image.length lo hi)
    (haddress : w.begin + w.offset = (base + lo) % 2 ^ 32)
    (hfits : w.offset + (hi - lo) ≤ 65536) :
    Leads base image (fun w' => w'.begin = w.begin ∧ w'.offset = w.offset ∧
        w'.records + dataRecords base image lo = w.records + dataRecords base image hi ∧
        ∃ mem', Placed b w' mem' ∧ Described base image hi mem')
      (w.writeDataRecord b ((image.drop lo).take (hi - lo))) := by
  have hlt := hrec.lt
  have hle := hrec.le
  have hbegin := hw.begin_mod
  have hcount := hrec.dataRecords_eq
  have hlength : ((image.drop lo).take (hi - lo)).length = hi - lo := by
    rw [List.length_take, List.length_drop]
    omega
  rw [writeDataRecord_eq, hlength]
  split
  · next hall =>
    have hblank : Blank base image lo := (hrec.blank_iff ⟨le_rfl, hlt⟩).2 hall
    rw [if_pos hblank] at hcount
    exact ⟨rfl, rfl, by omega, mem, hw, h.blank hrec hblank⟩
  · next hall =>
    have hnot : ¬ Blank base image lo := fun hb =>
      hall ((hrec.blank_iff ⟨le_rfl, hlt⟩).1 hb)
    rw [if_neg hnot] at hcount
    split
    · next hlen =>
      refine ⟨rfl, rfl, ?_, _, Placed.addRecord hbegin hw.begin_lt hw.loads hw.rejects ?_,
        h.data hrec hnot hlen haddress (by have := hw.begin_lt; omega)⟩
      · rw [addRecord_records]
        omega
      · have hdata := Loads.data ⟨w.begin / 65536, mem⟩ (UInt8.ofNat (w.offset / 256))
          (UInt8.ofNat w.offset) ((image.drop lo).take (hi - lo)) (by omega)
        have hvalue : w.begin / 65536 * 65536 + ((UInt8.ofNat (w.offset / 256)).toNat * 256
            + (UInt8.ofNat w.offset).toNat) = w.begin + w.offset := by
          simp only [UInt8.toNat_ofNat']
          omega
        rw [hlength] at hdata
        simp only [hvalue] at hdata
        exact hdata
    · next hlen =>
      exact ⟨lo, by omega, hnot, by rw [hrec.length_eq ⟨le_rfl, hlt⟩]; omega⟩

theorem Placed.setOffset {w : Writer} {mem : Memory} (h : Placed b w mem) (offset : ℕ) :
    Placed b { w with offset := offset } mem :=
  ⟨h.begin_mod, h.begin_lt, h.loads, h.rejects⟩

/-- The record that names the next 64 KiB is always written. -/
theorem nextSegment_eq {w : Writer} {mem : Memory} (hw : Placed b w mem) :
    ∃ w', w.nextSegment b = .ok w' ∧ w'.begin = (w.begin + 65536) % 2 ^ 32 ∧ w'.offset = w.offset
      ∧ w'.records = w.records + 1 ∧ Placed b w' mem := by
  have hbegin := hw.begin_mod
  have hlt : (w.begin + 65536) % 2 ^ 32 < 2 ^ 32 := Nat.mod_lt _ (by decide)
  rw [Writer.nextSegment, writeExtendedLinearAddress_eq]
  refine ⟨_, rfl, addRecord_begin _ _, addRecord_offset _ _, addRecord_records _ _,
    Placed.addRecord (w := { w with begin := (w.begin + 65536) % 2 ^ 32 }) ?_ hlt hw.loads
      hw.rejects ?_⟩
  · simp only
    omega
  · have hload := Loads.extendedLinear (s := ⟨w.begin / 65536, mem⟩)
      (UInt8.ofNat ((w.begin + 65536) % 2 ^ 32 / 16777216))
      (UInt8.ofNat ((w.begin + 65536) % 2 ^ 32 / 65536))
    have hvalue : (UInt8.ofNat ((w.begin + 65536) % 2 ^ 32 / 16777216)).toNat * 256
        + (UInt8.ofNat ((w.begin + 65536) % 2 ^ 32 / 65536)).toNat
        = (w.begin + 65536) % 2 ^ 32 / 65536 := by
      simp only [UInt8.toNat_ofNat']
      omega
    simp only [hvalue] at hload
    exact hload

/-! ## Where the writer stands -/

section Position

variable {base c n begin offset : ℕ}

theorem address_within (hbegin : begin % 65536 = 0) (hlt : begin < 2 ^ 32)
    (h : begin + offset = (base + c) % 2 ^ 32) (hin : offset + n < 65536) :
    begin + (offset + n) = (base + (c + n)) % 2 ^ 32 := by
  omega

/-- `begin` is the start of the next 64 KiB, which may be that of address `0`. -/
theorem address_beyond (hbegin : begin % 65536 = 0) (h : begin + offset = (base + c) % 2 ^ 32)
    (hoffset : offset < 65536) (hn : n ≤ 16) (hout : 65536 ≤ offset + n) :
    (begin + 65536) % 2 ^ 32 + (n - (65536 - offset)) = (base + (c + n)) % 2 ^ 32 := by
  omega

theorem segment_within (hoffset : offset = (base + c) % 65536) (hin : offset + n < 65536) :
    (base + (c + n)) / 65536 = (base + c) / 65536 := by
  omega

theorem segment_beyond (hoffset : offset = (base + c) % 65536) (hn : n ≤ 16) (hout : 65536 ≤ offset + n) :
    (base + (c + n)) / 65536 - base / 65536 = (base + c) / 65536 - base / 65536 + 1 := by
  have hle : base / 65536 ≤ (base + c) / 65536 := Nat.div_le_div_right (Nat.le_add_right _ _)
  have hnext : (base + (c + n)) / 65536 = (base + c) / 65536 + 1 := by omega
  omega

end Position

/-- One block of the file, as `writeData` cuts it. -/
theorem writeData_leads {c : ℕ} {w : Writer} {p : List UInt8} (hw : Written base image b c w)
    (hc : c % 16 = 0) (hlen : p.length = min 16 (image.length - c))
    (hp : p = (image.drop c).take p.length) :
    Leads base image (Written base image b (c + p.length)) (w.writeData b p) := by
  obtain ⟨hoff, haddress, hrecords, mem, hplaced, hd⟩ := hw
  have hbegin := hplaced.begin_mod
  have hlt := hplaced.begin_lt
  have hoffset : w.offset = (base + c) % 65536 := by
    clear hlen hrecords hp
    omega
  have hn : p.length ≤ 16 := hlen ▸ Nat.min_le_left _ _
  have hle : c + p.length ≤ image.length ∨ p.length = 0 := by
    clear hrecords hp haddress hbegin hoffset
    omega
  rw [Writer.writeData]
  split
  · next hzero =>
    rw [hzero, Nat.add_zero]
    exact ⟨hoff, haddress, hrecords, mem, hplaced, hd⟩
  next hne =>
  have hle := hle.resolve_right hne
  -- the whole block as one record
  have hwhole : w.offset + p.length ≤ 65536 →
      Leads base image (fun w' => w'.begin = w.begin ∧ w'.offset = w.offset ∧
        w'.records + dataRecords base image c = w.records + dataRecords base image (c + p.length) ∧
        ∃ mem', Placed b w' mem' ∧ Described base image (c + p.length) mem')
      (w.writeDataRecord b p) := by
    intro hfits
    have hrec := isRecord_block base hc (Nat.pos_of_ne_zero hne) hlen (by rwa [← hoffset])
    have := writeDataRecord_leads hplaced hd hrec haddress (by rwa [Nat.add_sub_cancel_left])
    rwa [Nat.add_sub_cancel_left, ← hp] at this
  split
  · next hinside =>
    refine (hwhole hinside.le).bind ?_
    rintro w' ⟨hb, ho, hr, mem', hplaced', hd'⟩
    refine ⟨?_, ?_, ?_, mem', hplaced'.setOffset _, hd'⟩
    · rwa [← ho] at hinside
    · simp only [hb, ho]
      exact address_within hbegin hlt haddress hinside
    · rw [segment_within hoffset hinside]
      dsimp only
      omega
  next hout =>
  have hsegment := segment_beyond hoffset hn (Nat.not_lt.1 hout)
  have hnext := address_beyond hbegin haddress hoff hn (Nat.not_lt.1 hout)
  split
  · next hend =>
    refine (hwhole hend.le).bind ?_
    rintro w' ⟨hb, ho, hr, mem', hplaced', hd'⟩
    obtain ⟨w'', heq, hb', ho', hr', hplaced''⟩ := nextSegment_eq hplaced'
    rw [heq]
    refine ⟨Nat.zero_lt_succ _, ?_, ?_, mem', hplaced''.setOffset _, hd'⟩
    · have hnone : p.length - (65536 - w.offset) = 0 := by omega
      rw [hnone] at hnext
      simpa only [hb', hb] using hnext
    · rw [hsegment]
      dsimp only
      omega
  · next hbeyond =>
    have hk : (base + c) % 65536 + (65536 - w.offset) = 65536 := by omega
    have hrec := isRecord_before base hc hlen hk (by omega)
    have hrec' := isRecord_behind base hc hlen hk (by omega)
    have hfirst := writeDataRecord_leads hplaced hd hrec haddress (by omega)
    have htake : (image.drop c).take (65536 - w.offset) = p.take (65536 - w.offset) := by
      rw [hp, List.take_take]
      congr 1
      omega
    have hdrop : (image.drop (c + (65536 - w.offset))).take
        (c + p.length - (c + (65536 - w.offset))) = p.drop (65536 - w.offset) := by
      conv_rhs => rw [hp]
      rw [List.drop_take, List.drop_drop]
      congr 1
      omega
    rw [Nat.add_sub_cancel_left, htake] at hfirst
    refine hfirst.bind ?_
    rintro w' ⟨hb, ho, hr, mem', hplaced', hd'⟩
    obtain ⟨w'', heq, hb', ho', hr', hplaced''⟩ := nextSegment_eq hplaced'
    rw [heq]
    have haddress' := address_beyond (n := 65536 - w.offset) hbegin haddress hoff (by omega) (by omega)
    rw [Nat.sub_self] at haddress'
    have hsecond := writeDataRecord_leads (hplaced''.setOffset 0) hd' hrec'
      (by simpa only [hb', hb] using haddress') (by simp only; omega)
    rw [hdrop] at hsecond
    refine hsecond.bind ?_
    rintro w3 ⟨hb3, ho3, hr3, mem3, hplaced3, hd3⟩
    simp only at hr3
    refine ⟨by simp only; omega, ?_, ?_, mem3, hplaced3.setOffset _, hd3⟩
    · simpa only [hb3, hb', hb] using hnext
    · rw [hsegment]
      dsimp only
      omega

/-- The loop writes the rest of the image. -/
theorem readLoop_leads (length : ℕ) (rest : List UInt8) {c : ℕ} {w : Writer}
    (hw : Written base image b c w) (hc : c % 16 = 0) (hle : c ≤ length) (hcn : c ≤ image.length)
    (himg : image.drop c = rest.take (length - c)) :
    Leads base image (Written base image b image.length) (w.readLoop b length rest c) := by
  induction rest using (measure List.length).wf.induction generalizing c w with
  | _ rest ih =>
    have hn : image.length - c = min (length - c) rest.length := by
      rw [← List.length_drop, himg, List.length_take]
    rw [Writer.readLoop]
    simp only [List.length_take, ge_iff_le]
    split
    · next hlimit =>
      have hp : (rest.take 16).take (length - c) = image.drop c := by
        rw [himg, List.take_take]
        congr 1
        omega
      have hlen : (image.drop c).length = image.length - c := List.length_drop
      rw [hp]
      have hwrite := writeData_leads hw hc (p := image.drop c) (by omega)
        (List.take_of_length_le le_rfl).symm
      rwa [hlen, Nat.add_sub_cancel' hcn] at hwrite
    · next hmore =>
      have hp : rest.take 16 = (image.drop c).take (rest.take 16).length := by
        rw [himg, List.take_take, List.length_take]
        apply List.take_eq_take_iff.2
        omega
      have hwrite := writeData_leads hw hc (p := rest.take 16)
        (by rw [List.length_take]; omega) hp
      split
      · next e heq =>
        rw [heq] at hwrite
        exact hwrite
      · next w' heq =>
        rw [heq, List.length_take] at hwrite
        split
        · next hshort =>
          have : c + min 16 rest.length = image.length := by omega
          rwa [this] at hwrite
        · next hfull =>
          refine ih (rest.drop 16) ?_ hwrite (by omega) (by omega) (by omega) ?_
          · show (rest.drop 16).length < rest.length
            rw [List.length_drop]
            omega
          · rw [← List.drop_drop, himg, List.drop_take]
            congr 1
            · omega
            · congr 1
              omega

/-! ## The whole text -/

/-- The record that names the first 64 KiB. -/
theorem written_start (b : Build) (p : Params) (image : List UInt8) :
    Written p.base image b 0
      (Writer.addRecord b { begin := p.begin, offset := p.offset, records := 0, out := [] }
        [2, 0, 0, 4, UInt8.ofNat (p.begin / 16777216), UInt8.ofNat (p.begin / 65536)]) := by
  have hbegin := p.begin_lt
  have hmod := p.begin_mod
  have hoff := p.offset_lt
  have hload := Loads.extendedLinear (s := Loader.init) (UInt8.ofNat (p.begin / 16777216))
    (UInt8.ofNat (p.begin / 65536))
  have hvalue : (UInt8.ofNat (p.begin / 16777216)).toNat * 256
      + (UInt8.ofNat (p.begin / 65536)).toNat = p.begin / 65536 := by
    simp only [UInt8.toNat_ofNat']
    omega
  rw [hvalue] at hload
  have hclean : b.Clean 0 := fun k hk => absurd hk (Nat.not_lt_zero k)
  refine ⟨hoff, ?_, ?_, fun _ => none, ?_, fun a _ => rfl, fun _ => ?_, fun i hi => ?_⟩
  · simp only [addRecord_begin, addRecord_offset, Params.base]
    omega
  · simp only [addRecord_records, dataRecords, Finset.range_zero, Finset.filter_empty,
      Finset.card_empty, Nat.add_zero, Nat.sub_self]
  · exact Placed.addRecord (w := ⟨p.begin, p.offset, 0, []⟩) hmod hbegin (fun _ _ => rfl)
      (fun hnot => absurd hclean hnot) hload
  · funext a
    exact (if_neg (by omega)).symm
  · omega

/-- What becomes of a whole file: its text, loaded or refused, or a fault. -/
theorem bin2Hex_leads (b : Build) (p : Params) (file : List UInt8) :
    (∃ text mem, bin2Hex b p file = .ok text
      ∧ load Loader.init text
        = (if ∀ n < recordCount p.base (p.image file), b.extra n = 0 then some mem else none)
      ∧ Described p.base (p.image file) (p.image file).length mem)
    ∨ (∃ e, bin2Hex b p file = .error e) ∧ TooLong p.base (p.image file) := by
  have hloop := readLoop_leads p.length (file.drop p.start) (written_start b p (p.image file)) rfl
    (Nat.zero_le _) (Nat.zero_le _) rfl
  rw [bin2Hex]
  simp only [writeExtendedLinearAddress_eq]
  cases hres : Writer.readLoop b p.length _ (file.drop p.start) 0 with
  | error e =>
    rw [hres] at hloop
    exact Or.inr ⟨⟨e, by simp only [bind, Except.bind, hres]⟩, hloop⟩
  | ok w =>
    rw [hres] at hloop
    obtain ⟨-, -, hrecords, mem, hplaced, hd⟩ := hloop
    have hcount : w.records + 1 = recordCount p.base (p.image file) := by
      rw [hrecords, recordCount, dataRecords]
      omega
    refine Or.inl ⟨w.out ++ b.line w.records [0, 0, 0, 1], mem, ?_, ?_, hd⟩
    · simp only [bind, Except.bind, hres, writeEndOfFile_eq]
      rfl
    · rw [← hcount]
      split
      · next hclean =>
        obtain ⟨hbefore, hextra⟩ := Build.clean_succ.1 hclean
        rw [Build.line_eq hextra]
        exact (hplaced.loads hbefore).load_endOfFile
      · next hclean =>
        rw [← List.append_nil (_ ++ _)]
        by_cases hbefore : b.Clean w.records
        · have hextra : b.extra w.records ≠ 0 := fun hzero =>
            hclean (Build.clean_succ.2 ⟨hbefore, hzero⟩)
          exact (hplaced.loads hbefore).rejects (Build.line_rejects hextra _) []
        · exact (hplaced.rejects hbefore).append _ []

theorem memoryTo_length (base : ℕ) (image : List UInt8) :
    memoryTo base image image.length = imageMemory base image := by
  funext a
  by_cases hlt : a - base < image.length
  · exact if_congr ⟨fun ⟨h1, h2, h3⟩ => ⟨h1, h3⟩, fun ⟨h1, h3⟩ => ⟨h1, by omega, h3⟩⟩ rfl rfl
  · rw [memoryTo, imageMemory, List.getElem?_eq_none (by omega), ite_self, ite_self]

/-- **What is written describes the file.** The text of a file describes its bytes, each at its own
    address, exactly if every record that is not left out has at most five bytes, and addresses of 32
    bits, and no checksum takes in a byte that is not zero beside the record's own. -/
theorem hex_roundTrip_iff (b : Build) (p : Params) (file : List UInt8) :
    RoundTrips b p file ↔
      (∀ i < (p.image file).length, ¬ Blank p.base (p.image file) i →
        recordLength p.base (p.image file) i ≤ 5 ∧ p.base + i < 2 ^ 32)
      ∧ ∀ n < recordCount p.base (p.image file), b.incremented = true → b.stale n = 0 := by
  have hextra : (∀ n < recordCount p.base (p.image file), b.incremented = true → b.stale n = 0)
      ↔ ∀ n < recordCount p.base (p.image file), b.extra n = 0 := by
    refine forall₂_congr fun n _ => ?_
    rw [Build.extra]
    split
    · next hinc => exact ⟨fun h => h hinc, fun h _ => h⟩
    · next hinc => exact iff_of_true (fun h => absurd h hinc) rfl
  rw [hextra]
  rcases bin2Hex_leads b p file with ⟨text, mem, htext, hload, hd⟩ | ⟨⟨e, herror⟩, i, hi, hn, hlong⟩
  · constructor
    · rintro ⟨text', mem', htext', hload', hmem⟩
      rw [htext, Except.ok.injEq] at htext'
      subst htext'
      split at hload
      case isFalse => cases hload.symm.trans hload'
      case isTrue hclean =>
        rw [hload, Option.some.injEq] at hload'
        subst hload'
        refine ⟨fun i hi hn => ⟨hd.short i hi hn, ?_⟩, hclean⟩
        by_contra hge
        -- byte `i` should be found at an address that no text can name
        have hat := congrFun hmem (p.base + i)
        rw [hd.within _ (by omega), imageMemory, Nat.add_sub_cancel_left,
          if_pos ⟨Nat.le_add_right _ _, hn⟩, List.getElem?_eq_getElem hi] at hat
        exact absurd hat (by simp)
    · rintro ⟨hshort, hclean⟩
      rw [if_pos hclean] at hload
      refine ⟨text, mem, htext, hload, ?_⟩
      rw [hd.exact fun i hi hn => (hshort i hi hn).2, memoryTo_length]
  · constructor
    · rintro ⟨text, mem, htext, -, -⟩
      rw [herror] at htext
      exact absurd htext (by simp)
    · rintro ⟨hshort, -⟩
      have := (hshort i hi hn).1
      omega

/-- The record of the six bytes 1 to 6 does not fit, in whichever order the operands are taken. -/
theorem six_bytes_overrun : ¬ RoundTrips ⟨false, fun _ => 0⟩ Params.default [1, 2, 3, 4, 5, 6]
    ∧ ¬ RoundTrips ⟨true, fun _ => 0⟩ Params.default [1, 2, 3, 4, 5, 6] := by
  constructor
  · rintro ⟨text, mem, htext, -, -⟩
    have herror : (bin2Hex ⟨false, fun _ => 0⟩ Params.default [1, 2, 3, 4, 5, 6]).toOption = none := by
      decide +kernel
    rw [htext] at herror
    exact absurd herror (by simp [Except.toOption])
  · rintro ⟨text, mem, htext, -, -⟩
    have herror : (bin2Hex ⟨true, fun _ => 0⟩ Params.default [1, 2, 3, 4, 5, 6]).toOption = none := by
      decide +kernel
    rw [htext] at herror
    exact absurd herror (by simp [Except.toOption])

/-! ## The options -/

/-- The lowest `k` digits of a number. -/
def hexText : ℕ → ℕ → List UInt8
  | 0, _ => []
  | k + 1, n => hexText k (n / 16) ++ [digit (n % 16)]

theorem length_hexText (k n : ℕ) : (hexText k n).length = k := by
  induction k generalizing n with
  | zero => rfl
  | succ k ih => rw [hexText, List.length_append, ih, List.length_singleton]

theorem hexDigit_digit : ∀ n < 16, hexDigit (digit n) = some n := by decide

theorem foldlM_hexText {k : ℕ} (hk : k ≤ 8) (n : ℕ) :
    (hexText k n).foldlM addDigit 0 = some (n % 16 ^ k) := by
  induction k generalizing n with
  | zero => rw [pow_zero, Nat.mod_one]; rfl
  | succ k ih =>
    have hlt : n % 16 ^ (k + 1) < 2 ^ 32 := by
      have hmod : n % 16 ^ (k + 1) < 16 ^ (k + 1) := Nat.mod_lt _ (Nat.pow_pos (by decide))
      have hpow : 16 ^ (k + 1) ≤ 16 ^ 8 := Nat.pow_le_pow_right (by decide) hk
      exact hmod.trans_le hpow
    have hsplit : n / 16 % 16 ^ k * 16 + n % 16 = n % 16 ^ (k + 1) := by
      rw [pow_succ', Nat.mod_mul, Nat.mul_comm, Nat.add_comm]
    rw [hexText, List.foldlM_append, ih (by omega)]
    simp only [Option.bind_eq_bind, Option.bind_some, List.foldlM_cons, List.foldlM_nil, addDigit,
      hexDigit_digit _ (Nat.mod_lt n (by decide : 0 < 16)), Option.map_some]
    rw [hsplit, Nat.mod_eq_of_lt hlt]
    rfl

theorem text2Data_hexText {n : ℕ} (h : n < 2 ^ 32) : text2Data (hexText 8 n) = some n := by
  rw [text2Data, length_hexText, if_neg (by decide), foldlM_hexText le_rfl]
  exact congrArg some (Nat.mod_eq_of_lt h)

theorem parseParameter_eq {p : Params} {option : UInt8} {digits : List UInt8} {data : ℕ}
    (h : text2Data digits = some data) : parseParameter p (45 :: option :: digits)
      = if option = 115 then some { p with start := data, start_lt := text2Data_lt h }
        else if option = 108 then some { p with length := data, length_lt := text2Data_lt h }
        else if option = 98 then
          some { p with
            begin := data - data % 65536
            offset := data % 65536
            begin_lt := (Nat.sub_le _ _).trans_lt (text2Data_lt h)
            begin_mod := Nat.sub_mod_eq_zero_of_mod_eq (Nat.mod_mod _ _).symm
            offset_lt := Nat.mod_lt _ (by decide) }
        else none := by
  rw [parseParameter]
  split
  · next hnone => cases h.symm.trans hnone
  · next data' hsome =>
    obtain rfl := Option.some.inj (h.symm.trans hsome)
    rfl

/-- **The options can give every start, length and address.** -/
theorem getParameter_options (p : Params) (argv0 : List UInt8) :
    getParameter [argv0, [97, 46, 98, 105, 110], 45 :: 115 :: hexText 8 p.start,
      45 :: 108 :: hexText 8 p.length, 45 :: 98 :: hexText 8 p.base]
      = some ([97, 46, 98, 105, 110], [97, 46, 104, 101, 120], p) := by
  have hbegin := p.begin_lt
  have hmod := p.begin_mod
  have hoff := p.offset_lt
  have hbase : p.base < 2 ^ 32 := by
    rw [Params.base]
    omega
  have hhigh : p.base - p.offset = p.begin := Nat.add_sub_cancel _ _
  have hlow : p.base % 65536 = p.offset := by
    rw [Params.base]
    omega
  rw [getParameter, if_pos ⟨by simp, by decide⟩]
  simp only [List.foldlM_cons, List.foldlM_nil, parseParameter_eq (text2Data_hexText p.start_lt),
    parseParameter_eq (text2Data_hexText p.length_lt), parseParameter_eq (text2Data_hexText hbase),
    Option.bind_eq_bind]
  simp [hhigh, hlow]

end SmartPlat.Bin2Hex
