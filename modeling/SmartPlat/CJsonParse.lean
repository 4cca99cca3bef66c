import SmartPlat.CJsonPrint
import SmartPlat.Lib.Separated

set_option autoImplicit false

/-! # Parsing JSON texts (`ExtLibs/CJson/cjson.c`)

`cJSON_Parse` on the bytes before the terminator, where no allocation fails. `float` stands for the
arithmetic on numbers that are not written as an `int`: it makes an item of the text of one. -/

namespace SmartPlat

open SmartPlat.Lib

/-- Why nothing is parsed: the parser returns a null pointer, or reads on behind the terminator. -/
inductive ParseStop where
  | failure
  | badAccess
  deriving DecidableEq, Repr

namespace CJsonItem

/-- An item, and where the text goes on. -/
abbrev Parsed (α : Type) := Except ParseStop (α × List UInt8)

/-! ## Strings -/

def hexValue (b : UInt8) : Option ℕ :=
  if 48 ≤ b ∧ b ≤ 57 then some (b.toNat - 48)
  else if 65 ≤ b ∧ b ≤ 70 then some (10 + (b.toNat - 65))
  else if 97 ≤ b ∧ b ≤ 102 then some (10 + (b.toNat - 97))
  else none

/-- `parse_hex4` -/
def parseHex4 (a b c d : UInt8) : ℕ :=
  match hexValue a, hexValue b, hexValue c, hexValue d with
  | some a, some b, some c, some d => ((a * 16 + b) * 16 + c) * 16 + d
  | _, _, _, _ => 0

/-- A byte after the first one. -/
def continuationByte (uc : ℕ) : UInt8 := UInt8.ofNat ((uc ||| 0x80) &&& 0xBF)

/-- The bytes that `uc` is transcoded to. -/
def transcode (uc : ℕ) : List UInt8 :=
  if uc < 0x80 then [UInt8.ofNat uc]
  else if uc < 0x800 then [UInt8.ofNat (uc >>> 6 ||| 0xC0), continuationByte uc]
  else if uc < 0x10000 then
    [UInt8.ofNat (uc >>> 12 ||| 0xE0), continuationByte (uc >>> 6), continuationByte uc]
  else
    [UInt8.ofNat (uc >>> 18 ||| 0xF0), continuationByte (uc >>> 12), continuationByte (uc >>> 6),
      continuationByte uc]

/-- `case 'u'`, behind the letter: the bytes that are written, and where the text goes on. -/
def unicodeEscape : List UInt8 → Parsed (List UInt8)
  | a :: b :: c :: d :: ptr =>
      let uc := parseHex4 a b c d
      if 0xDC00 ≤ uc ∧ uc ≤ 0xDFFF ∨ uc = 0 then .ok ([], ptr)
      else if 0xD800 ≤ uc ∧ uc ≤ 0xDBFF then
        match ptr with
        | 92 :: 117 :: a' :: b' :: c' :: d' :: rest =>
            let uc2 := parseHex4 a' b' c' d'
            if uc2 < 0xDC00 ∨ uc2 > 0xDFFF then .ok ([], rest)
            else .ok (transcode (0x10000 + ((uc &&& 0x3FF) <<< 10 ||| uc2 &&& 0x3FF)), rest)
        | 92 :: 117 :: _ => .error .badAccess
        | _ => .ok ([], ptr)
      else .ok (transcode uc, ptr)
  | _ => .error .badAccess

/-- The `switch` behind a backslash. -/
def escapeSequence : List UInt8 → Parsed (List UInt8)
  | [] => .error .badAccess
  | b :: ptr =>
      if b = 98 then .ok ([8], ptr)
      else if b = 102 then .ok ([12], ptr)
      else if b = 110 then .ok ([10], ptr)
      else if b = 114 then .ok ([13], ptr)
      else if b = 116 then .ok ([9], ptr)
      else if b = 117 then unicodeEscape ptr
      else .ok ([b], ptr)

/-- The loop of `parse_string`; the terminator ends a string as well. Every round takes a byte, so `n` is
    the length of the text. -/
def unescape : ℕ → List UInt8 → Parsed (List UInt8)
  | 0, s => .ok ([], s)
  | n + 1, s =>
      match s with
      | [] => .ok ([], [])
      | b :: ptr =>
          if b = 34 then .ok ([], ptr)
          else if b ≠ 92 then (unescape n ptr).map fun r => (b :: r.1, r.2)
          else
            match escapeSequence ptr with
            | .error e => .error e
            | .ok (out, ptr) => (unescape n ptr).map fun r => (out ++ r.1, r.2)

/-- `parse_string` -/
def parseString : List UInt8 → Parsed CString
  | 34 :: ptr => (unescape ptr.length ptr).map fun r => (.ofBuffer r.1, r.2)
  | _ => .error .failure

/-! ## Numbers -/

def isDigit (b : UInt8) : Bool := 48 ≤ b ∧ b ≤ 57

/-- Digits that do not begin with a zero. -/
def integerDigits (num : List UInt8) : List UInt8 :=
  if num.head?.any fun b => isDigit b && b ≠ 48 then num.takeWhile isDigit else []

/-- A point with digits behind it is passed. -/
def skipFraction (num : List UInt8) : List UInt8 :=
  match num with
  | 46 :: b :: rest => if isDigit b then (b :: rest).dropWhile isDigit else num
  | _ => num

def skipExponent (num : List UInt8) : List UInt8 :=
  match num with
  | [] => []
  | b :: rest =>
      if b = 101 ∨ b = 69 then
        (match rest with
        | 43 :: digits | 45 :: digits => digits
        | digits => digits).dropWhile isDigit
      else num

/-- The digits before the point, behind a zero that is passed, and what follows them. -/
def integerPart (unsigned : List UInt8) : List UInt8 × List UInt8 :=
  let start := if unsigned.head? = some 48 then unsigned.tail else unsigned
  (integerDigits start, start.drop (integerDigits start).length)

def digitsValue (digits : List UInt8) : ℕ := digits.foldl (fun n b => 10 * n + (b.toNat - 48)) 0

/-- The numbers of an `int`. -/
def FitsInt (n : ℤ) : Prop := -2 ^ 31 ≤ n ∧ n < 2 ^ 31

instance (n : ℤ) : Decidable (FitsInt n) := inferInstanceAs (Decidable (-2 ^ 31 ≤ n ∧ n < 2 ^ 31))

/-- `parse_number` -/
def parseNumber (float : List UInt8 → CJsonItem) (num : List UInt8) : CJsonItem × List UInt8 :=
  let negative := num.head? = some 45
  let (digits, rest) := integerPart (if negative then num.tail else num)
  let value : ℤ := if negative then -digitsValue digits else digitsValue digits
  let theEnd := skipExponent (skipFraction rest)
  if theEnd = rest ∧ FitsInt value then (.number value, rest)
  else (float (num.take (num.length - theEnd.length)), theEnd)

/-! ## Values -/

/-- `skip` passes everything up to a blank. -/
def blank (b : UInt8) : Bool := b ≤ 32

def arrayPunctuation : Punctuation UInt8 := ⟨blank, 44, 93, by decide, by decide, by decide⟩

def objectPunctuation : Punctuation UInt8 := ⟨blank, 44, 125, by decide, by decide, by decide⟩

def skip (s : List UInt8) : List UInt8 := s.dropWhile blank

/-- `parse_array`, behind the bracket. -/
def parseArray (parseValue : List UInt8 → Parsed CJsonItem) (value : List UInt8) : Parsed CJsonItem :=
  match skip value with
  | 93 :: rest => .ok (.array [], rest)
  | value =>
      (separated arrayPunctuation .failure parseValue value.length value).map fun r => (.array r.1, r.2)

/-- A name and its value. -/
def parseMember (parseValue : List UInt8 → Parsed CJsonItem) (value : List UInt8) :
    Parsed (CString × CJsonItem) :=
  match parseString value with
  | .error e => .error e
  | .ok (name, value) =>
      match skip value with
      | 58 :: value => (parseValue (skip value)).map fun r => ((name, r.1), r.2)
      | _ => .error .failure

/-- `parse_object`, behind the brace. -/
def parseObject (parseValue : List UInt8 → Parsed CJsonItem) (value : List UInt8) : Parsed CJsonItem :=
  match skip value with
  | 125 :: rest => .ok (.object [], rest)
  | value =>
      (separated objectPunctuation .failure (parseMember parseValue) value.length value).map
        fun r => (.object r.1, r.2)

/-- `parse_value`. A value inside another one is shorter than that, so `n` is the length of the text. -/
def parseValue (float : List UInt8 → CJsonItem) : ℕ → List UInt8 → Parsed CJsonItem
  | 0, _ => .error .failure
  | n + 1, value =>
      if ascii "null" <+: value then .ok (.null, value.drop 4)
      else if ascii "false" <+: value then .ok (.bool false, value.drop 5)
      else if ascii "true" <+: value then .ok (.bool true, value.drop 4)
      else
        match value with
        | [] => .error .failure
        | b :: rest =>
            if b = 34 then (parseString value).map fun r => (.string r.1, r.2)
            else if b = 45 ∨ isDigit b then .ok (parseNumber float value)
            else if b = 91 then parseArray (parseValue float n) rest
            else if b = 123 then parseObject (parseValue float n) rest
            else .error .failure

/-- `cJSON_Parse`; what follows the value is not looked at. -/
def parse (float : List UInt8 → CJsonItem) (value : CString) : Except ParseStop CJsonItem :=
  (parseValue float (skip value.bytes).length (skip value.bytes)).map Prod.fst

end CJsonItem

end SmartPlat
