import SmartPlat.MqttAPI.Proofs.PushBounds

set_option autoImplicit false

/-! # Texts of sensors

What `App/CICTAPI` and `App/HJ212API` have in common: a field ends at the next comma, and what is published is copied
into a cleared buffer. A pointer into a text is what follows there. -/

namespace SmartPlat.MqttAPI

open SmartPlat.Lib

variable {s t g : List UInt8}

/-- `snprintf(text, len+1, "%s", p)` with `len = strlen(p) - strlen(q)` for the comma `q` behind `p`: the bytes in
    front of it. -/
def fieldAt (p q : List UInt8) : CString := .ofBuffer (p.take (p.length - q.length))

theorem fieldAt_eq (g s : List UInt8) : fieldAt (g ++ 44 :: s) (44 :: s) = .ofBuffer g := by
  rw [fieldAt, List.length_append, Nat.add_sub_cancel, List.take_left]

theorem strstr_comma_none : strstr [44] s = none ↔ 44 ∉ s := by
  rw [strstr_eq_none_iff, not_iff_not]
  constructor
  · intro h
    exact h.subset List.mem_cons_self
  · intro h
    obtain ⟨before, after, rfl⟩ := List.append_of_mem h
    exact ⟨before, after, by rw [List.append_assoc, List.singleton_append]⟩

theorem strstr_comma (h : 44 ∉ g) (s : List UInt8) : strstr [44] (g ++ 44 :: s) = some (44 :: s) := by
  induction g with
  | nil => rw [List.nil_append, strstr, if_pos (List.cons_prefix_cons.2 ⟨rfl, List.nil_prefix⟩)]
  | cons b g ih =>
      rw [List.mem_cons, not_or] at h
      rw [List.cons_append, strstr, if_neg fun hpre => h.1 (List.cons_prefix_cons.1 hpre).1]
      exact ih h.2

theorem strlen_ofBuffer (h : 0 ∉ t) : (CString.ofBuffer t).strlen = t.length :=
  congrArg List.length (CString.bytes_ofBuffer h)

/-- A text that is copied into a cleared buffer without its NUL can be read from there if a byte is left. -/
theorem ends_copied {size : ℕ} {text : CString} {P : CString → Prop} :
    (Ends ((CharBuffer.zeros size).memcpy text.bytes) fun msg => Ends msg.read P) ↔
      text.strlen < size ∧ P text := by
  rw [CharBuffer.ends_memcpy]
  constructor
  · rintro ⟨hroom, hread⟩
    obtain ⟨hterminated, hP⟩ := ends_read.1 hread
    rw [CString.ext_bytes (CharBuffer.str_overwrite_zeros text.noNul hroom)] at hP
    exact ⟨(CharBuffer.terminated_overwrite_zeros_iff text.noNul hroom).1 hterminated, hP⟩
  · rintro ⟨hlt, hP⟩
    have hroom : text.bytes.length ≤ size := Nat.le_of_lt hlt
    refine ⟨hroom, ends_read.2 ⟨(CharBuffer.terminated_overwrite_zeros_iff text.noNul hroom).2 hlt, ?_⟩⟩
    rwa [CString.ext_bytes (CharBuffer.str_overwrite_zeros text.noNul hroom)]

end SmartPlat.MqttAPI
