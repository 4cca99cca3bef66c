import SmartPlat.CString
import SmartPlat.Lib.Bytes
import SmartPlat.Lib.Printf
import SmartPlat.Lib.Substitution

set_option autoImplicit false

/-! # Licences: `ExtLibs/MyAuthor/author.c`

`author` appends a checksum to a name and substitutes the letters of the result; `paresAuthor` undoes
the substitution, cuts the text at the separator and compares the checksum. Both start from the same
book of 8 × 8 letters and exchange rows and columns as the port number says. A `char` is signed. -/

namespace SmartPlat.MyAuthor

open SmartPlat.Lib

/-! ## Books -/

/-- A cell of `char book[8][9]`; the ninth column only holds the terminators. -/
abbrev Cell : Type := Fin 8 × Fin 8

abbrev Book : Type := Cell → UInt8

/-- `AuthorBook_T` -/
structure AuthorBook where
  c : UInt8
  x : Fin 8
  y : Fin 8
  deriving DecidableEq, Repr

def gBookLetters : List UInt8 :=
  ascii "0123456789abcdefghijklmnopqrstuvwxyzABCDEFGHIJKLMNOPQRSTUVWXYZ_-"

/-- `g_book`: the letters row by row with their coordinates. -/
def gBook (j : Fin 64) : AuthorBook where
  c := byteAt gBookLetters j
  x := ⟨j / 8, by omega⟩
  y := ⟨j % 8, by omega⟩

/-- `book[j / 8][j % 8]` -/
def cellAt (j : Fin 64) : Cell := (⟨j / 8, by omega⟩, ⟨j % 8, by omega⟩)

/-- The rows both functions start from; `s` and `t` are not in alphabetical order. -/
def bookLetters : List UInt8 :=
  ascii "0123456789abcdefghijklmnopqrtsuvwxyzABCDEFGHIJKLMNOPQRSTUVWXYZ_-"

def initialBook : Book := fun cell => byteAt bookLetters (8 * cell.1 + cell.2)

/-- `ExchangeBookX`: row `x` against row 0, one column after the other. -/
def exchangeBookX (book : Book) (x : Fin 8) : Book :=
  (List.finRange 8).foldl (fun book i => swapCells book (x, i) (0, i)) book

/-- `ExchangeBookY`: column `y` against column 0. -/
def exchangeBookY (book : Book) (y : Fin 8) : Book :=
  (List.finRange 8).foldl (fun book i => swapCells book (i, y) (i, 0)) book

/-- `n % 6 + 1` -/
def portLine (n : ℕ) : Fin 8 := ⟨n % 6 + 1, by omega⟩

def exBook2Port (book : Book) (port : ℕ) : Book :=
  let book := exchangeBookX book (portLine (port / 1000))
  let book := exchangeBookY book (portLine (port / 100))
  let book := exchangeBookX book (portLine (port / 10))
  let book := exchangeBookY book (portLine port)
  let book := exchangeBookX book (portLine (port / 7))
  let book := exchangeBookY book (portLine (port / 13))
  let book := exchangeBookX book 1
  let book := exchangeBookY book 2
  let book := exchangeBookX book 3
  let book := exchangeBookY book 4
  let book := exchangeBookX book 5
  let book := exchangeBookY book 6
  let book := exchangeBookX book 7
  let book := exchangeBookY book (portLine (port / 1000))
  let book := exchangeBookX book (portLine (port / 100))
  let book := exchangeBookY book (portLine (port / 10))
  let book := exchangeBookX book (portLine port)
  let book := exchangeBookY book (portLine (port / 7))
  exchangeBookX book (portLine (port / 13))

/-! ## Texts -/

/-- `encryoptionstring`: a letter of `g_book` becomes the letter in its cell. No cell holds a NUL, so
    the length that the loop asks for does not change. -/
def encryoptionstring (name : List UInt8) (book : Book) : List UInt8 :=
  name.map (translate (List.finRange 64) (fun j => (gBook j).c)
    fun j => book ((gBook j).x, (gBook j).y))

/-- `decodeoptionstring`: a letter of the book becomes the letter `g_book` has there. -/
def decodeoptionstring (name : List UInt8) (book : Book) : List UInt8 :=
  name.map (translate (List.finRange 64) (fun j => book (cellAt j)) fun j => (gBook j).c)

/-- `for(…) crc += name[i]` -/
def crcOf (name : List UInt8) : ℤ :=
  name.foldl (fun crc c => addInt32 crc c.toInt8.toInt) 0

/-- `_crc_` -/
def crcSeparator : List UInt8 := ascii "_crc_"

/-- `author`: what is written to `out`. -/
def author (name : List UInt8) (port : ℕ) : List UInt8 :=
  let out := printf (ascii "%s_crc_%d") [.str name, .int (crcOf name)]
  encryoptionstring out (exBook2Port initialBook port)

/-- `char out[256]` in `paresAuthor` -/
def paresOutMax : ℕ := 256

/-- `paresAuthor`: the return value and the caller's buffer. The name is copied without a terminator,
    the checksum is taken of what the buffer then holds as a string. -/
def paresAuthor (authorstr : List UInt8) (port : ℕ) (name : List UInt8) :
    Except Fault (ℤ × List UInt8) :=
  if paresOutMax ≤ authorstr.length then .error .badAccess
  else
    let out := decodeoptionstring authorstr (exBook2Port initialBook port)
    match strstr crcSeparator out with
    | none => .ok (-1, name)
    | some p =>
        let len := out.length - p.length
        if name.length < len then .error .badAccess
        else
          let name := out.take len ++ name.drop len
          if 0 ∉ name then .error .badAccess
          else if crcOf (CString.ofBuffer name).bytes ≠ atoi (p.drop crcSeparator.length) then
            .ok (-1, name)
          else .ok (0, name)

end SmartPlat.MyAuthor
