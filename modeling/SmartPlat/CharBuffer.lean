import SmartPlat.CString
import SmartPlat.Lib.Blocks

set_option autoImplicit false

/-! # Character buffers

A `char buffer[size]` with all of its bytes. A copy that goes past the end of the buffer ends in an error;
otherwise the bytes behind what is copied stay as they were. -/

namespace SmartPlat

open SmartPlat.Lib

structure CharBuffer (size : ℕ) where
  bytes : List UInt8
  length_eq : bytes.length = size
  deriving DecidableEq

namespace CharBuffer

variable {size : ℕ}

/-- `char buffer[size] = {0}` -/
def zeros (size : ℕ) : CharBuffer size := ⟨List.replicate size 0, List.length_replicate⟩

/-- There is a NUL in it. -/
def Terminated (b : CharBuffer size) : Prop := 0 ∈ b.bytes

instance (b : CharBuffer size) : Decidable b.Terminated := inferInstanceAs (Decidable (0 ∈ b.bytes))

/-- The string at its start. -/
def str (b : CharBuffer size) : CString := .ofBuffer b.bytes

/-- The first bytes are replaced by `data`. -/
def overwrite (b : CharBuffer size) (data : List UInt8) (h : data.length ≤ size) : CharBuffer size where
  bytes := data ++ b.bytes.drop data.length
  length_eq := by
    rw [List.length_append, List.length_drop, b.length_eq]
    omega

/-- `memcpy(buffer, data, n)` -/
def memcpy (b : CharBuffer size) (data : List UInt8) : Except Fault (CharBuffer size) :=
  if h : data.length ≤ size then .ok (b.overwrite data h) else .error .badAccess

/-- `snprintf(buffer, len, "%s", s)` -/
def snprintf (b : CharBuffer size) (len : ℕ) (s : CString) : Except Fault (CharBuffer size) :=
  if len = 0 then .ok b else b.memcpy (s.bytes.take (len - 1) ++ [0])

variable {b : CharBuffer size} {data : List UInt8} {R : CharBuffer size → Prop}

theorem terminated_zeros (h : 0 < size) : (zeros size).Terminated :=
  List.mem_replicate.2 ⟨h.ne', rfl⟩

@[simp]
theorem bytes_overwrite (h : data.length ≤ size) :
    (b.overwrite data h).bytes = data ++ b.bytes.drop data.length := rfl

theorem ends_memcpy : Ends (b.memcpy data) R ↔ ∃ h : data.length ≤ size, R (b.overwrite data h) := by
  unfold memcpy
  split
  · next h =>
      rw [ends_ok]
      exact ⟨fun hR => ⟨h, hR⟩, fun ⟨_, hR⟩ => hR⟩
  · next h => exact iff_of_false not_ends_error fun ⟨h', _⟩ => h h'

/-- A NUL in what is copied ends the string. -/
theorem str_overwrite_nul (hdata : 0 ∉ data) (h : (data ++ [0]).length ≤ size) :
    (b.overwrite (data ++ [0]) h).str.bytes = data := by
  rw [str, bytes_overwrite, List.append_assoc, CString.bytes_ofBuffer_append hdata]
  exact List.append_nil data

theorem terminated_overwrite_nul (h : (data ++ [0]).length ≤ size) :
    (b.overwrite (data ++ [0]) h).Terminated :=
  List.mem_append_left _ (List.mem_append_right _ List.mem_cons_self)

/-- In a buffer of zeros the next byte is one. -/
theorem bytes_overwrite_zeros (h : data.length ≤ size) :
    ((zeros size).overwrite data h).bytes = data ++ List.replicate (size - data.length) 0 :=
  congrArg (data ++ ·) List.drop_replicate

/-- The text in a cleared buffer ends at the first NUL of what is copied. -/
theorem str_overwrite_cleared (h : data.length ≤ size) :
    ((zeros size).overwrite data h).str = .ofBuffer data := by
  have hzeros (k : ℕ) : (data ++ List.replicate k 0).takeWhile (· ≠ 0) = data.takeWhile (· ≠ 0) := by
    induction data with
    | nil => cases k <;> rfl
    | cons b data ih =>
        rw [List.cons_append, List.takeWhile_cons, List.takeWhile_cons, ih (by simp at h; omega)]
  refine CString.ext_bytes ?_
  rw [str, bytes_overwrite_zeros]
  exact hzeros _

theorem str_zeros (size : ℕ) : (zeros size).str.bytes = [] := by
  cases size with
  | zero => rfl
  | succ size => rfl

theorem memcpy_nil (b : CharBuffer size) : b.memcpy [] = .ok b := by
  have hfits : ([] : List UInt8).length ≤ size := Nat.zero_le size
  rw [memcpy, dif_pos hfits]
  rfl

theorem terminated_of_short (h : data.length < size) :
    ((zeros size).overwrite data h.le).Terminated := by
  rw [Terminated, bytes_overwrite_zeros]
  exact List.mem_append_right _ (List.mem_replicate.2 ⟨by omega, rfl⟩)

theorem str_overwrite_zeros (hdata : 0 ∉ data) (h : data.length ≤ size) :
    ((zeros size).overwrite data h).str.bytes = data := by
  rw [str_overwrite_cleared, CString.bytes_ofBuffer hdata]

theorem terminated_overwrite_zeros_iff (hdata : 0 ∉ data) (h : data.length ≤ size) :
    ((zeros size).overwrite data h).Terminated ↔ data.length < size := by
  rw [Terminated, bytes_overwrite_zeros, List.mem_append, List.mem_replicate]
  simp only [hdata, false_or, and_true]
  omega

/-- What `snprintf` writes has its NUL, and ends where the limit or the string does. -/
theorem ends_snprintf {len : ℕ} {s : CString} (hlen : 0 < len) :
    Ends (b.snprintf len s) R ↔ ∃ h : (s.bytes.take (len - 1) ++ [0]).length ≤ size,
      R (b.overwrite (s.bytes.take (len - 1) ++ [0]) h) := by
  rw [snprintf, if_neg hlen.ne']
  exact ends_memcpy

end CharBuffer

end SmartPlat
