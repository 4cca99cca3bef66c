import SmartPlat.Common
import SmartPlat.Lib.IntelHex
import Mathlib.Data.FinEnum

set_option autoImplicit false

/-! # From binary to Intel HEX: `ExtLibs/Bin2Hex/bin2hex.c`

A file is read 16 bytes at a time and written as text, one record for each block, two where a block
crosses a multiple of 64 KiB. A record and its text are each built in an array of `BIN_DATA_LEN` bytes;
building more than that is a fault. The expression that adds the checksum reads and increments `k`
without an order between the two, so that the checksum may take in a byte that is not yet written. -/

namespace SmartPlat.Bin2Hex

/-- `BIN_DATA_LEN`, of `bin_data` and of `hex_str` -/
def binDataLen : ℕ := 24

/-- `IGNOR_DATA` -/
def ignorData : UInt8 := 0xFF

/-! ## Parameters -/

/-- The globals that the parameters set, with the values they can have. -/
structure Params where
  start : ℕ
  length : ℕ
  begin : ℕ
  offset : ℕ
  start_lt : start < 2 ^ 32
  length_lt : length < 2 ^ 32
  begin_lt : begin < 2 ^ 32
  begin_mod : begin % 65536 = 0
  offset_lt : offset < 65536

/-- The globals as they are initialised. -/
def Params.default : Params where
  start := 0
  length := 0xFFFFFFFF
  begin := 0
  offset := 0
  start_lt := by decide
  length_lt := by decide
  begin_lt := by decide
  begin_mod := by decide
  offset_lt := by decide

/-- A digit of a parameter. -/
def hexDigit (c : UInt8) : Option ℕ :=
  if 48 ≤ c ∧ c ≤ 57 then some (c.toNat - 48)
  else if 97 ≤ c ∧ c ≤ 102 then some (c.toNat - 97 + 10)
  else if 65 ≤ c ∧ c ≤ 70 then some (c.toNat - 65 + 10)
  else none

/-- `temp <<= 4` and the next digit added, in an `unsigned int`. -/
def addDigit (temp : ℕ) (c : UInt8) : Option ℕ :=
  (hexDigit c).map fun v => (temp * 16 + v) % 2 ^ 32

def text2Data (str : List UInt8) : Option ℕ :=
  if str.length > 8 ∨ str.length ≤ 0 then none else str.foldlM addDigit 0

theorem text2Data_lt {str : List UInt8} {data : ℕ} (h : text2Data str = some data) :
    data < 2 ^ 32 := by
  have hfold : ∀ (str : List UInt8) (temp : ℕ), temp < 2 ^ 32 →
      str.foldlM addDigit temp = some data → data < 2 ^ 32 := by
    intro str
    induction str with
    | nil =>
      intro temp htemp h
      rw [List.foldlM_nil, pure, Applicative.toPure] at h
      exact Option.some.inj h ▸ htemp
    | cons c str ih =>
      intro temp htemp h
      rw [List.foldlM_cons, Option.bind_eq_bind, Option.bind_eq_some_iff] at h
      obtain ⟨next, hnext, hrest⟩ := h
      obtain ⟨v, -, rfl⟩ := Option.map_eq_some_iff.1 hnext
      exact ih _ (Nat.mod_lt _ (by decide)) hrest
  rw [text2Data] at h
  split at h
  · exact absurd h (by simp)
  · exact hfold str 0 (by decide) h

/-- `parseParameter`: `-s`, `-l` or `-b` and a number directly behind it. -/
def parseParameter (p : Params) (str : List UInt8) : Option Params :=
  match str with
  | 45 :: option :: digits =>
    match _h : text2Data digits with
    | none => none
    | some data =>
      have hlt : data < 2 ^ 32 := text2Data_lt _h
      if option = 115 then some { p with start := data, start_lt := hlt }
      else if option = 108 then some { p with length := data, length_lt := hlt }
      else if option = 98 then
        -- `data & 0xFFFF0000` and `data & 0xFFFF`
        some { p with
          begin := data - data % 65536
          offset := data % 65536
          begin_lt := by omega
          begin_mod := by omega
          offset_lt := Nat.mod_lt _ (by decide) }
      else none
  | _ => none

/-- The test of `getParameter` on the file's name. Its last two comparisons look at the third
    character from the end where they mean the second and the last one. -/
def isBinName (name : List UInt8) : Bool :=
  let c := fun k => name.getD (name.length - k) 0
  4 < name.length && name.length < 64 && c 4 == 46 && (c 3 == 98 || c 3 == 66)
    && (c 2 == 105 || c 3 == 73) && (c 1 == 110 || c 3 == 78)

/-- `main` up to `bin2Hex`: the file that is read, the file that is written, and the globals. -/
def getParameter (argv : List (List UInt8)) : Option (List UInt8 × List UInt8 × Params) :=
  match argv with
  | _ :: name :: options =>
    if options.length ≤ 3 ∧ isBinName name then
      (options.foldlM parseParameter Params.default).map fun p =>
        (name, name.take (name.length - 3) ++ [104, 101, 120], p)
    else none
  | _ => none

/-! ## Records -/

/-- `checkSum` -/
def checkSum (p : List UInt8) : UInt8 := ~~~(p.foldl (· + ·) 0) + 1

/-- `intChar` -/
def intChar (n : UInt8) : UInt8 :=
  [48, 49, 50, 51, 52, 53, 54, 55, 56, 57, 65, 66, 67, 68, 69, 70].getD n.toNat 0

/-- `encode`, into `hex_str`. -/
def encode (bytes : List UInt8) : Except Fault (List UInt8) :=
  let text : List UInt8 :=
    58 :: (bytes.flatMap (fun c : UInt8 => [intChar (c >>> 4), intChar (c &&& 0xF)]) ++ [13, 10])
  if text.length ≤ binDataLen then .ok text else .error .badAccess

/-- What the language leaves open of `bin_data[k++] = checkSum(k,bin_data)`: whether the call gets `k`
    before the increment or after it, and what is in the array behind the bytes of the `n`-th record
    then. -/
structure Build where
  incremented : Bool
  stale : ℕ → UInt8

/-- `begin`, `offset`, the number of records built and what `out_file` holds. -/
structure Writer where
  begin : ℕ
  offset : ℕ
  records : ℕ
  out : List UInt8
  deriving DecidableEq, Repr

section

variable (b : Build)

/-- The bytes that `checkSum` adds up for the `n`-th record. -/
def Build.summed (n : ℕ) (bytes : List UInt8) : List UInt8 :=
  if b.incremented then bytes ++ [b.stale n] else bytes

/-- The bytes of a record put into `bin_data`, its checksum behind them, and its text. -/
def recordText (n : ℕ) (bytes : List UInt8) : Except Fault (List UInt8) :=
  if bytes.length + 1 ≤ binDataLen then encode (bytes ++ [checkSum (b.summed n bytes)])
  else .error .badAccess

def Writer.writeRecord (w : Writer) (bytes : List UInt8) : Except Fault Writer :=
  (recordText b w.records bytes).map fun text =>
    { w with records := w.records + 1, out := w.out ++ text }

def Writer.writeExtendedLinearAddress (w : Writer) : Except Fault Writer :=
  w.writeRecord b [0x02, 0x00, 0x00, 0x04, UInt8.ofNat (w.begin / 16777216),
    UInt8.ofNat (w.begin / 65536)]

def Writer.writeEndOfFile (w : Writer) : Except Fault Writer :=
  w.writeRecord b [0x00, 0x00, 0x00, 0x01]

/-- `writeDataRecord` of the block `p`. -/
def Writer.writeDataRecord (w : Writer) (p : List UInt8) : Except Fault Writer :=
  if ∀ c ∈ p, c = ignorData then .ok w
  else
    w.writeRecord b (UInt8.ofNat p.length :: UInt8.ofNat (w.offset / 256) :: UInt8.ofNat w.offset
      :: 0x00 :: p)

/-- The next 64 KiB: `begin += 0x10000` and the record that says so. -/
def Writer.nextSegment (w : Writer) : Except Fault Writer :=
  ({ w with begin := (w.begin + 65536) % 2 ^ 32 } : Writer).writeExtendedLinearAddress b

/-- `writeData` -/
def Writer.writeData (w : Writer) (p : List UInt8) : Except Fault Writer :=
  if p.length = 0 then .ok w
  else if w.offset + p.length < 65536 then do
    let w ← w.writeDataRecord b p
    return { w with offset := w.offset + p.length }
  else if w.offset + p.length = 65536 then do
    let w ← w.writeDataRecord b p
    let w ← w.nextSegment b
    return { w with offset := 0 }
  else do
    let len := 65536 - w.offset
    let w ← w.writeDataRecord b (p.take len)
    let w ← w.nextSegment b
    let w ← { w with offset := 0 : Writer }.writeDataRecord b (p.drop len)
    return { w with offset := p.length - len }

/-! ## The file -/

/-- The loop of `bin2Hex`; `rest` is what is left to read, `count` what has been read. Fewer than 16
    bytes come only at the end of the file. -/
def Writer.readLoop (length : ℕ) (w : Writer) (rest : List UInt8) (count : ℕ) :
    Except Fault Writer :=
  let data := rest.take 16
  if count + data.length ≥ length then w.writeData b (data.take (length - count))
  else
    match w.writeData b data with
    | .error e => .error e
    | .ok w =>
      if _h : data.length < 16 then .ok w
      else w.readLoop length (rest.drop 16) (count + data.length)
termination_by rest.length
decreasing_by
  rw [List.length_take] at _h
  rw [List.length_drop]
  omega

/-- `bin2Hex`: the text that is written for a file. -/
def bin2Hex (p : Params) (file : List UInt8) : Except Fault (List UInt8) := do
  let w : Writer := { begin := p.begin, offset := p.offset, records := 0, out := [] }
  let w ← w.writeExtendedLinearAddress b
  let w ← w.readLoop b p.length (file.drop p.start) 0
  let w ← w.writeEndOfFile b
  return w.out

end

end SmartPlat.Bin2Hex
