import SmartPlat.MqttAPI.SensorTexts

set_option autoImplicit false

/-! # Weather readings (`App/HJ212API/hj212api.c`)

The values of the last messages are kept in `object_Date`. Floating point is not modelled: `calm` says of the text of
a wind speed whether `(float)atof(text) <= 0.2`. -/

namespace SmartPlat.HJ212API

open SmartPlat.Lib SmartPlat.MqttAPI SmartPlat.VehicleDataAnalysis

/-- `object_Name` -/
def objectName : Fin 5 → List UInt8
  | 0 => ascii "a01001-Rtd"
  | 1 => ascii "a01002-Rtd"
  | 2 => ascii "a01006-Rtd"
  | 3 => ascii "a01007-Rtd"
  | 4 => ascii "a01008-Rtd"

/-- `object_Date` -/
abbrev Date : Type := Fin 5 → CharArray 23

/-- `object_Date` at the start. -/
def objectDate : Date
  | 0 => snprintf 23 (.ofBuffer (utf8 "26.2℃"))
  | 1 => snprintf 23 (.ofBuffer (utf8 "39.9%RH"))
  | 2 => snprintf 23 (.ofBuffer (utf8 "100.7KPa"))
  | 3 => snprintf 23 (.ofBuffer (utf8 "0.1m/s"))
  | 4 => snprintf 23 (.ofBuffer (utf8 "东南风"))

def realdata (date : Date) : CJsonItem :=
  .object [(literal "cmd", .string (literal "pushhj212realdata")),
    (literal "data", .object [
      (literal "temperature", .string (date 0).str), (literal "humidity", .string (date 1).str),
      (literal "Atmospheric", .string (date 2).str), (literal "rate", .string (date 3).str),
      (literal "direction", .string (date 4).str)])]

/-- `JsonMapPushHJ212RealDataMake` -/
def jsonMapPushHJ212RealDataMake (date : Date) (msg : CharBuffer 256) : Except Fault (CharBuffer 256) :=
  msg.memcpy (realdata date).printUnformatted.bytes

/-- `sprintf(object_Date[num], …)` -/
def write (date : Date) (num : Fin 5) (text : List UInt8) : Except Fault Date :=
  (sprintf 23 (.ofBuffer text)).map fun s => Function.update date num s

/-- The name that `ConfirmWindDirection` has for a heading; the ranges do not overlap. -/
def windName (value : ℤ) : Option String :=
  if value ≥ 348 ∧ value < 360 ∧ value > 0 ∧ value < 11 then some "北风"
  else if value ≥ 11 ∧ value < 78 then some "东北风"
  else if value ≥ 78 ∧ value < 101 then some "东风"
  else if value ≥ 101 ∧ value < 169 then some "东南风"
  else if value ≥ 169 ∧ value < 191 then some "南风"
  else if value ≥ 191 ∧ value < 259 then some "西南风"
  else if value ≥ 259 ∧ value < 281 then some "西风"
  else if value ≥ 281 ∧ value < 348 then some "西北风"
  else none

section

variable (calm : CString → Bool)

/-- `ConfirmWindDirection` -/
def confirmWindDirection (date : Date) (value : ℤ) (num : Fin 5) : Except Fault Date := do
  let date ← (windName value).elim (.ok date) fun name => write date num (utf8 name)
  if calm (date 3).str then write date num (utf8 "静风") else return date

/-- `DealDate` -/
def dealDate (date : Date) (string : CString) (num : Fin 5) : Except Fault Date :=
  match num with
  | 0 => write date 0 (string.bytes ++ utf8 "℃")
  | 1 => write date 1 (string.bytes ++ utf8 "%RH")
  | 2 => write date 2 (string.bytes ++ utf8 "KPa")
  | 3 => write date 3 (string.bytes ++ utf8 "m/s")
  | 4 => do
      let value ← sprintf 23 string
      confirmWindDirection calm date (atoi value.str.bytes) 4

/-- One round of the loop: `p` goes over the name and one more byte, which may be the terminator; `strstr` and `strlen`
    are given what they find there. -/
def deal (msg : CString) (date : Date) (i : Fin 5) : Except Fault Date :=
  match strstr (objectName i) msg.bytes with
  | none => .ok date
  | some p =>
      match p.drop (objectName i).length with
      | [] => .error .badAccess
      | _ :: p =>
          match strstr [44] p with
          | none => .error .badAccess
          | some q => do
              let value ← sprintf 23 (fieldAt p q)
              dealDate calm date value.str i

/-- `HJ212RealDataPars`: the values, and the text that is published. -/
def hj212RealDataPars (date : Date) (msg : CString) : Except Fault (Date × CString) := do
  let date ← (List.finRange 5).foldlM (deal calm msg) date
  let sendMsg ← jsonMapPushHJ212RealDataMake date (.zeros 256)
  return (date, ← sendMsg.read)

end

/-! ## The readings of a message -/

/-- What is shown. -/
abbrev Cells : Type := Fin 5 → CString

def Date.cells (date : Date) : Cells := fun i => (date i).str

/-- The text between the name, with one byte behind it, and the next comma. -/
def readingOf (msg : CString) (i : Fin 5) : Option (List UInt8) :=
  match strstr (objectName i) msg.bytes with
  | none => none
  | some p =>
      let p := p.drop ((objectName i).length + 1)
      if 44 ∈ p then some (p.takeWhile (· ≠ 44)) else none

def unit : Fin 5 → List UInt8
  | 0 => utf8 "℃"
  | 1 => utf8 "%RH"
  | 2 => utf8 "KPa"
  | 3 => utf8 "m/s"
  | 4 => []

/-- A reading with its unit, or what was there. -/
def measured (msg : CString) (cells : Cells) (i : Fin 5) : CString :=
  (readingOf msg i).elim (cells i) fun g => .ofBuffer (g ++ unit i)

/-- The direction for a heading: there is none for a calm, and some headings leave the old one. -/
def wind (calm : CString → Bool) (rate old : CString) (n : ℤ) : CString :=
  if calm rate then .ofBuffer (utf8 "静风") else (windName n).elim old fun name => .ofBuffer (utf8 name)

/-- What is there after a message. -/
def shown (calm : CString → Bool) (msg : CString) (cells : Cells) : Cells := fun i =>
  if i = 4 then (readingOf msg 4).elim (cells 4) fun g => wind calm (measured msg cells 3) (cells 4) (atoi g)
  else measured msg cells i

/-- The value of a cell after its round. -/
def cellFor (calm : CString → Bool) (msg : CString) (cells : Cells) (i : Fin 5) : CString :=
  if i = 4 then (readingOf msg 4).elim (cells 4) fun g => wind calm (cells 3) (cells 4) (atoi g)
  else measured msg cells i

/-! ## The property -/

/-- The values that earlier messages can leave. -/
inductive Reachable (calm : CString → Bool) : Date → Prop
  | start : Reachable calm objectDate
  | next {date date' : Date} {msg text : CString} (h : Reachable calm date)
      (hpars : hj212RealDataPars calm date msg = .ok (date', text)) : Reachable calm date'

def Complete (msg : CString) : Prop := ∀ i, (readingOf msg i).isSome

/-- Whatever came before, a message with the same readings shows and publishes the same. -/
def Independent (calm : CString → Bool) (date : Date) (msg : CString) : Prop :=
  ∀ date' msg', Reachable calm date' → (∀ i, readingOf msg' i = readingOf msg i) →
    hj212RealDataPars calm date' msg' = hj212RealDataPars calm date msg

/-- A message is taken without a fault, and shows its own readings if it has all of them. -/
def Handled (calm : CString → Bool) (date : Date) (msg : CString) : Prop :=
  (∃ r, hj212RealDataPars calm date msg = .ok r) ∧ (Complete msg → Independent calm date msg)

/-! ## The condition -/

/-- A name that is there has a reading behind it, and room for it. -/
def Readable (msg : CString) (i : Fin 5) : Prop :=
  objectName i <:+: msg.bytes → ∃ g, readingOf msg i = some g ∧ g.length + (unit i).length < 24

/-- What is published fits its buffer. -/
def Cells.Small (cells : Cells) : Prop :=
  109 + ((List.finRange 5).map fun i => CJsonItem.escapedLength (cells i)).sum < 256

instance (cells : Cells) : Decidable cells.Small :=
  inferInstanceAs (Decidable (109 + ((List.finRange 5).map fun i => CJsonItem.escapedLength (cells i)).sum < 256))

/-- The heading has a name, or there is no wind. -/
def HeadingNamed (calm : CString → Bool) (msg : CString) : Prop :=
  ∀ rate heading, readingOf msg 3 = some rate → readingOf msg 4 = some heading →
    calm (.ofBuffer (rate ++ utf8 "m/s")) = true ∨ 11 ≤ atoi heading ∧ atoi heading < 348

def MessageFits (calm : CString → Bool) (date : Date) (msg : CString) : Prop :=
  (∀ i, Readable msg i) ∧ (shown calm msg date.cells).Small ∧ (Complete msg → HeadingNamed calm msg)

end SmartPlat.HJ212API
