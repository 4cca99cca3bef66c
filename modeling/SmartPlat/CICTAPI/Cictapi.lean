import SmartPlat.MqttAPI.SensorTexts

set_option autoImplicit false

/-! # Electricity meters (`App/CICTAPI/cictapi.c`)

A payload is a text of fields with commas between them: something, a time, and tags with their values. A pointer
into the text is what follows there. -/

namespace SmartPlat.CICTAPI

open SmartPlat.Lib SmartPlat.MqttAPI

/-! ## Readings -/

/-- `Volmeter_Parameter_T`; `deviceID` is only ever set to the index of an element. -/
structure VolmeterParameter where
  deviceID : Fin 4
  dataU : CharArray 11
  dataI : CharArray 11
  dataP : CharArray 11

/-- `electpar[Volmeter_Number]` -/
abbrev Electpar : Type := Fin 4 → VolmeterParameter

/-- The object of one element. -/
def presetItem (e : VolmeterParameter) : CJsonItem :=
  .object [(literal "deviceID", .number ((e.deviceID : ℕ) + 1)), (literal "U", .string e.dataU.str),
    (literal "I", .string e.dataI.str), (literal "P", .string e.dataP.str)]

def realdata (electpar : Electpar) : CJsonItem :=
  .object [(literal "cmd", .string (literal "pushcicrealdata")),
    (literal "data", .array ((List.finRange 4).map fun item => presetItem (electpar item)))]

/-- `JsonMapPushCICRealDataMake` -/
def jsonMapPushCICRealDataMake (electpar : Electpar) (msg : CharBuffer 256) : Except Fault (CharBuffer 256) :=
  msg.memcpy (realdata electpar).printUnformatted.bytes

/-! ## The scanner -/

/-- The index for a tag, and the element that gets it; the ranges do not overlap. -/
def selectIndex (electpar : Electpar) (i : Fin 4) (tag : ℤ) : Electpar × Fin 4 :=
  let select (i : Fin 4) := (Function.update electpar i { electpar i with deviceID := i }, i)
  if tag > 0 ∧ tag < 4 then select 0
  else if tag > 3 ∧ tag < 7 then select 1
  else if tag > 6 ∧ tag < 10 then select 2
  else if tag > 9 ∧ tag < 11 then select 3
  else (electpar, i)

/-- The value goes to the member for the remainder, if there is one. -/
def putValue (electpar : Electpar) (i : Fin 4) (a : ℤ) (value : CString) : Except Fault Electpar :=
  if a = 0 then (sprintf 11 value).map fun s => Function.update electpar i { electpar i with dataP := s }
  else if a = 1 then (sprintf 11 value).map fun s => Function.update electpar i { electpar i with dataU := s }
  else if a = 2 then (sprintf 11 value).map fun s => Function.update electpar i { electpar i with dataI := s }
  else .ok electpar

/-- Where the loop is: what is left of the text, the readings, and the index. -/
structure Cursor where
  p : List UInt8
  electpar : Electpar
  i : Fin 4

/-- One round, or `none` when the loop is left. `strlen(q)` comes in front of the test of `q`. -/
def round (c : Cursor) : Except Fault (Option Cursor) :=
  match strstr [44] c.p with
  | none => .ok none
  | some _ =>
      let p := c.p.tail
      match strstr [44] p with
      | none => .ok none
      | some q => do
          let time ← sprintf 23 (fieldAt p q)
          let tag := atoi time.str.bytes
          let (electpar, i) := selectIndex c.electpar c.i tag
          let p := q.tail
          match strstr [44] p with
          | none => .error .badAccess
          | some q => do
              let electpar ← putValue electpar i (tag.tmod 3) (fieldAt p q)
              return some ⟨q, electpar, i⟩

/-- The loop. -/
def rounds : ℕ → Cursor → Except Fault Electpar
  | 0, _ => .error .timeout
  | fuel + 1, c => do
      match ← round c with
      | none => return c.electpar
      | some c => rounds fuel c

/-- `Buff` -/
def buff (msgBuf : CString) : List UInt8 := (msgBuf.bytes ++ [44]).take 255

/-- What comes in front of the loop; `strstr` and `strlen` are given what they find. -/
def start (electpar : Electpar) (msgBuf : CString) : Except Fault Cursor :=
  match strstr [44] (buff msgBuf) with
  | none => .error .badAccess
  | some p =>
      let p := p.tail
      match strstr [44] p with
      | none => .error .badAccess
      | some q => do
          let _ ← sprintf 23 (fieldAt p q)
          return ⟨q, electpar, 0⟩

/-- `ParesCICRealData`: the readings, and the text that is published. -/
def paresCICRealData (fuel : ℕ) (electpar : Electpar) (msgBuf : CString) : Except Fault (Electpar × CString) := do
  let electpar ← rounds fuel (← start electpar msgBuf)
  let sendMsg ← jsonMapPushCICRealDataMake electpar (.zeros 256)
  return (electpar, ← sendMsg.read)

/-! ## What the pairs of a payload are for -/

inductive Quantity where
  | u
  | i
  | p
  deriving DecidableEq

/-- The readings. -/
abbrev Cells : Type := Fin 4 → Quantity → CString

def reading (e : VolmeterParameter) : Quantity → CString
  | .u => e.dataU.str
  | .i => e.dataI.str
  | .p => e.dataP.str

def Electpar.cells (electpar : Electpar) : Cells := fun i => reading (electpar i)

def quantityOf (n : ℤ) : Quantity := if n % 3 = 1 then .u else if n % 3 = 2 then .i else .p

/-- The circuit for a tag from 1 to 12. -/
def circuitOf (n : ℤ) : Fin 4 := ⟨((n - 1) / 3).toNat % 4, Nat.mod_lt _ (by decide)⟩

def Cells.put (cells : Cells) (i : Fin 4) (q : Quantity) (value : CString) : Cells :=
  fun i' q' => if i' = i ∧ q' = q then value else cells i' q'

/-- What a pair changes: the cell that its tag names. -/
def measured (cells : Cells) (pair : List UInt8 × List UInt8) : Cells :=
  let n := atoi pair.1
  if 1 ≤ n ∧ n ≤ 12 then cells.put (circuitOf n) (quantityOf n) (.ofBuffer pair.2) else cells

/-- Two fields at a time. -/
def completePairs : List (List UInt8) → List (List UInt8 × List UInt8)
  | tag :: value :: fields => (tag, value) :: completePairs fields
  | _ => []

/-- The pairs behind the time. -/
def pairsOf (msgBuf : CString) : List (List UInt8 × List UInt8) := completePairs ((msgBuf.bytes.splitOn 44).drop 2)

/-! ## The property -/

/-- Where the loop is after `k` rounds, or at its end. -/
def after : ℕ → Cursor → Except Fault Cursor
  | 0, c => .ok c
  | k + 1, c =>
      match round c with
      | .error e => .error e
      | .ok none => .ok c
      | .ok (some c) => after k c

/-- Each pair changes the cell that it names, and no other, in its round. -/
def PairsDecoded (c : Cursor) (pairs : List (List UInt8 × List UInt8)) : Prop :=
  ∀ k pair, pairs[k]? = some pair → ∃ c₁ c₂, after k c = .ok c₁ ∧ after (k + 1) c = .ok c₂ ∧
    c₂.electpar.cells = measured c₁.electpar.cells pair

/-- The payload is scanned and published without a fault, and decoded. -/
def Decoded (electpar : Electpar) (msgBuf : CString) : Prop :=
  (∃ fuel r, paresCICRealData fuel electpar msgBuf = .ok r) ∧
    ∃ c, start electpar msgBuf = .ok c ∧ PairsDecoded c (pairsOf msgBuf)

/-! ## The condition -/

/-- The index for a tag. -/
def indexFor (i : Fin 4) (n : ℤ) : Fin 4 := if 1 ≤ n ∧ n ≤ 10 then circuitOf n else i

/-- The cell for the value of a tag is the one that the tag names, or everything is there already. -/
def InPlace (cells : Cells) (i : Fin 4) (n : ℤ) (value : CString) : Prop :=
  1 ≤ n ∧ n ≤ 10 ∨
  11 ≤ n ∧ n ≤ 12 ∧ (i = 3 ∨ cells i (quantityOf n) = value ∧ cells 3 (quantityOf n) = value) ∨
  ¬ (1 ≤ n ∧ n ≤ 12) ∧ (n.tmod 3 < 0 ∨ cells i (quantityOf n) = value)

/-- The first `m` pairs fit their buffers and are in place, and the others, which are cut off, change nothing. -/
def Fits : ℕ → Cells → Fin 4 → List (List UInt8 × List UInt8) → Prop
  | _, _, _, [] => True
  | 0, cells, i, pair :: pairs => measured cells pair = cells ∧ Fits 0 cells i pairs
  | m + 1, cells, i, (tag, value) :: pairs =>
      (tag.length < 24 ∧ (0 ≤ (atoi tag).tmod 3 → value.length < 12) ∧
        InPlace cells i (atoi tag) (.ofBuffer value)) ∧
      Fits m (measured cells (tag, value)) (indexFor i (atoi tag)) pairs

/-- What is published fits its buffer. -/
def Cells.Small (cells : Cells) : Prop :=
  178 + ((List.finRange 4).map fun i => CJsonItem.escapedLength (cells i .u) +
    CJsonItem.escapedLength (cells i .i) + CJsonItem.escapedLength (cells i .p)).sum < 256

/-- The fields of what is scanned are there two by two, behind something and a time. -/
def PayloadFits (electpar : Electpar) (msgBuf : CString) : Prop :=
  ∃ first time rest, (buff msgBuf).splitOn 44 = first :: time :: rest ∧ time.length < 24 ∧ rest.length % 2 = 1 ∧
    Fits (completePairs rest).length electpar.cells 0 (pairsOf msgBuf) ∧
    ((pairsOf msgBuf).foldl measured electpar.cells).Small

end SmartPlat.CICTAPI
