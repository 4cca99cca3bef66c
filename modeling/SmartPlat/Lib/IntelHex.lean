import Mathlib.Data.List.Basic
import Mathlib.Data.UInt
import Mathlib.Tactic.Common

set_option autoImplicit false

/-! # Intel HEX

A text of records, each of them a colon, pairs of hexadecimal digits and an end of line. The bytes of a
record are the length of its data, a 16-bit address, a type, the data and a checksum that makes the sum
of all of them zero. An extended linear address record gives the upper half of the addresses of the
data records behind it; the text ends with an end-of-file record. -/

namespace SmartPlat.Lib.IntelHex

/-! ## Lines -/

/-- A hexadecimal digit. -/
def digit (n : ℕ) : UInt8 := UInt8.ofNat (if n < 10 then 48 + n else 55 + n)

def digitValue (c : UInt8) : Option ℕ :=
  if 48 ≤ c ∧ c ≤ 57 then some (c.toNat - 48)
  else if 65 ≤ c ∧ c ≤ 70 then some (c.toNat - 55)
  else none

/-- The two digits of a byte, high half first. -/
def digits (b : UInt8) : List UInt8 := [digit (b.toNat / 16), digit (b.toNat % 16)]

/-- A record as it stands in a file. -/
def line (bytes : List UInt8) : List UInt8 := 58 :: (bytes.flatMap digits ++ [13, 10])

/-- The bytes that the digits up to the end of the line stand for, and what follows the line. -/
def readLine : List UInt8 → Option (List UInt8 × List UInt8)
  | a :: b :: rest =>
    if a = 13 ∧ b = 10 then some ([], rest)
    else
      match digitValue a, digitValue b, readLine rest with
      | some x, some y, some (bytes, rest) => some (UInt8.ofNat (16 * x + y) :: bytes, rest)
      | _, _, _ => none
  | _ => none

theorem digitValue_digit : ∀ n < 16, digitValue (digit n) = some n := by decide

theorem digit_ne_cr : ∀ n < 16, digit n ≠ 13 := by decide

theorem readLine_digits (b : UInt8) (text : List UInt8) :
    readLine (digits b ++ text) = (readLine text).map fun r => (b :: r.1, r.2) := by
  have hb := b.toNat_lt
  have hhigh := digitValue_digit (b.toNat / 16) (by omega)
  have hlow := digitValue_digit (b.toNat % 16) (by omega)
  have hval : UInt8.ofNat (16 * (b.toNat / 16) + b.toNat % 16) = b := by
    rw [Nat.div_add_mod, UInt8.ofNat_toNat]
  rw [digits, List.cons_append, List.cons_append, List.nil_append, readLine,
    if_neg fun h => digit_ne_cr _ (by omega) h.1, hhigh, hlow]
  cases readLine text with
  | none => rfl
  | some r => simp only [Option.map_some, hval]

/-- A line reads back as its bytes. -/
theorem readLine_line (bytes rest : List UInt8) :
    readLine (bytes.flatMap digits ++ 13 :: 10 :: rest) = some (bytes, rest) := by
  induction bytes with
  | nil => simp [readLine]
  | cons b bytes ih => rw [List.flatMap_cons, List.append_assoc, readLine_digits, ih, Option.map_some]

theorem length_readLine : ∀ {text bytes rest : List UInt8},
    readLine text = some (bytes, rest) → rest.length < text.length
  | [], _, _, h | [_], _, _, h => absurd h (by simp [readLine])
  | a :: b :: text, bytes, rest, h => by
    rw [readLine] at h
    split at h
    · next hend =>
      rw [Option.some.injEq, Prod.mk.injEq] at h
      simp only [h.2, List.length_cons]
      omega
    · split at h
      · next _ _ bytes' rest' _ _ hread =>
        have hlt := length_readLine hread
        rw [Option.some.injEq, Prod.mk.injEq] at h
        simp only [← h.2, List.length_cons]
        omega
      · exact absurd h (by simp)

/-! ## Records -/

/-- The bytes added up, modulo 256. -/
def byteSum (bytes : List UInt8) : UInt8 := bytes.foldl (· + ·) 0

/-- The bytes of a record with the checksum behind them. -/
def sealed (bytes : List UInt8) : List UInt8 := bytes ++ [-byteSum bytes]

inductive Record where
  /-- Data for the 16-bit address given. -/
  | data (address : ℕ) (bytes : List UInt8)
  | endOfFile
  /-- The upper half of the addresses that follow. -/
  | extendedLinear (upper : ℕ)
  deriving DecidableEq, Repr

/-- What the bytes of a record say, if its length and its checksum are right. -/
def Record.ofBytes (bytes : List UInt8) : Option Record :=
  match bytes with
  | len :: high :: low :: kind :: rest =>
    if rest.length = len.toNat + 1 ∧ byteSum bytes = 0 then
      if kind = 0 then some (.data (high.toNat * 256 + low.toNat) rest.dropLast)
      else if kind = 1 ∧ len = 0 then some .endOfFile
      else if kind = 4 then
        match rest.dropLast with
        | [a, b] => some (.extendedLinear (a.toNat * 256 + b.toNat))
        | _ => none
      else none
    else none
  | _ => none

@[simp]
theorem byteSum_sealed (bytes : List UInt8) : byteSum (sealed bytes) = 0 := by
  rw [sealed, byteSum, List.foldl_append]
  exact UInt8.add_right_neg (byteSum bytes)

/-- A record whose bytes do not add up to zero says nothing. -/
theorem ofBytes_of_byteSum_ne {bytes : List UInt8} (h : byteSum bytes ≠ 0) :
    Record.ofBytes bytes = none := by
  unfold Record.ofBytes
  split
  · exact if_neg fun hc => h hc.2
  · rfl

theorem ofBytes_data {high low : UInt8} {bytes : List UInt8} (h : bytes.length < 256) :
    Record.ofBytes (sealed (UInt8.ofNat bytes.length :: high :: low :: 0 :: bytes))
      = some (.data (high.toNat * 256 + low.toNat) bytes) := by
  have hsum := byteSum_sealed (UInt8.ofNat bytes.length :: high :: low :: 0 :: bytes)
  have hlen : (UInt8.ofNat bytes.length).toNat = bytes.length := UInt8.toNat_ofNat_of_lt' h
  simp only [sealed, List.cons_append] at hsum ⊢
  simp only [Record.ofBytes, hsum, hlen, List.length_append, List.length_singleton, and_self,
    if_true, List.dropLast_concat]

theorem ofBytes_endOfFile : Record.ofBytes (sealed [0, 0, 0, 1]) = some .endOfFile := by decide

theorem ofBytes_extendedLinear {a b : UInt8} :
    Record.ofBytes (sealed [2, 0, 0, 4, a, b])
      = some (.extendedLinear (a.toNat * 256 + b.toNat)) := by
  have hsum := byteSum_sealed [2, 0, 0, 4, a, b]
  simp only [sealed, List.cons_append, List.nil_append] at hsum ⊢
  simp [Record.ofBytes, hsum]

/-! ## Loading a text -/

/-- A memory of 32-bit addresses; most of it is not written. -/
abbrev Memory := ℕ → Option UInt8

/-- `bytes` at the address given; addresses are 32 bits wide and start again at 0. -/
def Memory.store (mem : Memory) (address : ℕ) (bytes : List UInt8) : Memory := fun a =>
  let k := (a + 2 ^ 32 - address) % 2 ^ 32
  if a < 2 ^ 32 ∧ k < bytes.length then bytes[k]? else mem a

/-- What has been loaded, and the upper half of the addresses that follow. -/
structure Loader where
  upper : ℕ
  memory : Memory

/-- Before the first record. -/
def Loader.init : Loader where
  upper := 0
  memory := fun _ => none

def Loader.apply (s : Loader) : Record → Loader
  | .data address bytes => { s with memory := s.memory.store (s.upper * 65536 + address) bytes }
  | .endOfFile => s
  | .extendedLinear upper => { s with upper := upper }

/-- The memory that a text describes; nothing may stand behind its end-of-file record. -/
def load (s : Loader) (text : List UInt8) : Option Memory :=
  match text with
  | [] => none
  | c :: rest =>
    if c = 58 then
      match _h : readLine rest with
      | some (bytes, rest') =>
        match Record.ofBytes bytes with
        | some .endOfFile => if rest' = [] then some s.memory else none
        | some r => load (s.apply r) rest'
        | none => none
      | none => none
    else none
termination_by text.length
decreasing_by
  have := length_readLine _h
  simp only [List.length_cons]
  omega

/-- Reading the records of `text` takes the loader from `s` to `s'`, whatever follows them. -/
def Loads (s : Loader) (text : List UInt8) (s' : Loader) : Prop :=
  ∀ rest, load s (text ++ rest) = load s' rest

variable {s s' s'' : Loader} {text text' : List UInt8}

theorem Loads.trans (h : Loads s text s') (h' : Loads s' text' s'') :
    Loads s (text ++ text') s'' := by
  intro rest
  rw [List.append_assoc, h, h']

theorem load_line (bytes rest : List UInt8) :
    load s (line bytes ++ rest)
      = match Record.ofBytes bytes with
        | some .endOfFile => if rest = [] then some s.memory else none
        | some r => load (s.apply r) rest
        | none => none := by
  have hread : readLine (bytes.flatMap digits ++ [13, 10] ++ rest) = some (bytes, rest) := by
    rw [List.append_assoc]
    exact readLine_line bytes rest
  rw [line, List.cons_append, load, if_pos rfl]
  split
  · next hsome =>
    rw [hread, Option.some.injEq, Prod.mk.injEq] at hsome
    rw [hsome.1, hsome.2]
  · next hnone =>
    rw [hread] at hnone
    exact absurd hnone (by simp)

theorem Loads.data (s : Loader) (high low : UInt8) (bytes : List UInt8) (h : bytes.length < 256) :
    Loads s (line (sealed (UInt8.ofNat bytes.length :: high :: low :: 0 :: bytes)))
      { s with
        memory := s.memory.store (s.upper * 65536 + (high.toNat * 256 + low.toNat)) bytes } := by
  intro rest
  rw [load_line, ofBytes_data h]
  rfl

theorem Loads.extendedLinear (a b : UInt8) :
    Loads s (line (sealed [2, 0, 0, 4, a, b])) { s with upper := a.toNat * 256 + b.toNat } := by
  intro rest
  rw [load_line, ofBytes_extendedLinear]
  rfl

/-- `text` is not loaded, whatever follows it. -/
def Rejects (s : Loader) (text : List UInt8) : Prop := ∀ rest, load s (text ++ rest) = none

theorem Rejects.append (h : Rejects s text) (text' : List UInt8) : Rejects s (text ++ text') := by
  intro rest
  rw [List.append_assoc, h]

theorem Loads.rejects (h : Loads s text s') (h' : Rejects s' text') : Rejects s (text ++ text') := by
  intro rest
  rw [List.append_assoc, h, h']

/-- A wrong checksum stops the loader. -/
theorem rejects_line {bytes : List UInt8} (h : byteSum bytes ≠ 0) : Rejects s (line bytes) := by
  intro rest
  rw [load_line, ofBytes_of_byteSum_ne h]

/-- A text whose last record is the end-of-file record is loaded to its end. -/
theorem Loads.load_endOfFile (h : Loads s text s') :
    load s (text ++ line (sealed [0, 0, 0, 1])) = some s'.memory := by
  rw [h, ← List.append_nil (line _), load_line, ofBytes_endOfFile]
  exact if_pos rfl

/-- Where the addresses do not start again, a block is stored byte by byte. -/
theorem Memory.store_apply {mem : Memory} {address a : ℕ} {bytes : List UInt8}
    (h : address + bytes.length ≤ 2 ^ 32) :
    mem.store address bytes a
      = if address ≤ a ∧ a < address + bytes.length then bytes[a - address]? else mem a := by
  unfold Memory.store
  by_cases hin : address ≤ a ∧ a < address + bytes.length
  · have hk : (a + 2 ^ 32 - address) % 2 ^ 32 = a - address := by omega
    rw [if_pos hin]
    simp only [hk]
    exact if_pos ⟨by omega, by omega⟩
  · rw [if_neg hin]
    refine if_neg fun h' => hin ?_
    omega

end SmartPlat.Lib.IntelHex
