import SmartPlat.Lib.Printf

set_option autoImplicit false

/-! # SHA-1

The hash of FIPS 180-4, on lists of bytes. -/

namespace SmartPlat.Lib.Sha1

/-- The five words of the hash value. -/
structure State where
  a : UInt32
  b : UInt32
  c : UInt32
  d : UInt32
  e : UInt32
  deriving DecidableEq, Repr

def State.initial : State := ⟨0x67452301, 0xEFCDAB89, 0x98BADCFE, 0x10325476, 0xC3D2E1F0⟩

def rotateLeft (n x : UInt32) : UInt32 := x <<< n ||| x >>> (32 - n)

/-! ## One block -/

/-- Four bytes, the high one first. -/
def word (bytes : List UInt8) : UInt32 := bytes.foldl (fun w b => w <<< 8 ||| b.toUInt32) 0

def wordBytes (w : UInt32) : List UInt8 :=
  [(w >>> 24).toUInt8, (w >>> 16).toUInt8, (w >>> 8).toUInt8, w.toUInt8]

/-- The next words of the schedule; `last` are the sixteen to come. -/
def schedule : ℕ → List UInt32 → List UInt32
  | 0, _ => []
  | n + 1, last =>
      last.headD 0 :: schedule n (last.tail ++
        [rotateLeft 1 (last.getD 13 0 ^^^ last.getD 8 0 ^^^ last.getD 2 0 ^^^ last.getD 0 0)])

/-- What round `t` makes of three words, and its constant. -/
def mix (t : ℕ) (b c d : UInt32) : UInt32 :=
  if t < 20 then (b &&& c ||| ~~~b &&& d) + 0x5A827999
  else if t < 40 then (b ^^^ c ^^^ d) + 0x6ED9EBA1
  else if t < 60 then (b &&& c ||| b &&& d ||| c &&& d) + 0x8F1BBCDC
  else (b ^^^ c ^^^ d) + 0xCA62C1D6

def rounds : ℕ → List UInt32 → State → State
  | _, [], s => s
  | t, w :: ws, s =>
      rounds (t + 1) ws
        ⟨rotateLeft 5 s.a + mix t s.b s.c s.d + s.e + w, s.a, rotateLeft 30 s.b, s.c, s.d⟩

def compress (s : State) (block : List UInt8) : State :=
  let words := (List.range 16).map fun i => word ((block.drop (4 * i)).take 4)
  let r := rounds 0 (schedule 80 words) s
  ⟨s.a + r.a, s.b + r.b, s.c + r.c, s.d + r.d, s.e + r.e⟩

/-! ## A message -/

/-- One bit, zeros and the number of bits, up to whole blocks. -/
def pad (msg : List UInt8) : List UInt8 :=
  let bits := 8 * msg.length
  msg ++ 0x80 :: List.replicate ((119 - msg.length % 64) % 64) 0
    ++ wordBytes (.ofNat (bits / 2 ^ 32)) ++ wordBytes (.ofNat bits)

def digest (s : State) : List UInt8 := [s.a, s.b, s.c, s.d, s.e].flatMap wordBytes

def sha1 (msg : List UInt8) : List UInt8 :=
  let padded := pad msg
  digest ((List.range (padded.length / 64)).foldl
    (fun s i => compress s ((padded.drop (64 * i)).take 64)) .initial)

theorem length_digest (s : State) : (digest s).length = 20 := rfl

theorem length_sha1 (msg : List UInt8) : (sha1 msg).length = 20 := length_digest _

/-- The first test vector of the standard. -/
example : sha1 (ascii "abc") =
    [0xA9, 0x99, 0x3E, 0x36, 0x47, 0x06, 0x81, 0x6A, 0xBA, 0x3E, 0x25, 0x71, 0x78, 0x50, 0xC2, 0x6C, 0x9C,
      0xD0, 0xD8, 0x9D] := by
  decide +kernel

end SmartPlat.Lib.Sha1
