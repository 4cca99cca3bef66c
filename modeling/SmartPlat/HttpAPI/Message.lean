import SmartPlat.CString
import SmartPlat.HttpAPI.HttpChecked

set_option autoImplicit false

/-! # Requests

What a request is on the wire: a request line, fields, an empty line and as many bytes as the field
`Content-Length` says, whose name may be spelled in any case and whose value may have blanks and tabs
around it. -/

namespace SmartPlat.HttpAPI

open SmartPlat.Lib

/-- The bytes of names and methods. -/
def isTchar (b : UInt8) : Bool :=
  48 ≤ b ∧ b ≤ 57 ∨ 65 ≤ b ∧ b ≤ 90 ∨ 97 ≤ b ∧ b ≤ 122 ∨
    b ∈ ([33, 35, 36, 37, 38, 39, 42, 43, 45, 46, 94, 95, 96, 124, 126] : List UInt8)

/-- A field; `value` is all that stands between the colon and the end of the line. -/
structure HeaderField where
  name : List UInt8
  value : List UInt8
  isName : name ≠ [] ∧ ∀ b ∈ name, isTchar b = true
  isValue : ∀ b ∈ value, b = 9 ∨ 32 ≤ b ∧ b ≠ 127

def HeaderField.line (f : HeaderField) : List UInt8 := f.name ++ 58 :: f.value

theorem isName_contentLength :
    ascii "Content-Length" ≠ [] ∧ ∀ b ∈ ascii "Content-Length", isTchar b = true := by decide +kernel

def HeaderField.isContentLength (f : HeaderField) : Bool :=
  strcasecmp f.name (ascii "Content-Length")

/-- A number in digits, with blanks and tabs around it. -/
def IsNumber (value : List UInt8) (n : ℕ) : Prop :=
  ∃ before digits behind, value = before ++ digits ++ behind ∧ (∀ b ∈ before ++ behind, b = 32 ∨ b = 9) ∧
    digits ≠ [] ∧ (∀ b ∈ digits, 48 ≤ b ∧ b ≤ 57) ∧
    n = digits.foldl (fun n b => 10 * n + (b.toNat - 48)) 0

structure Request where
  method : List UInt8
  target : List UInt8
  fields : List HeaderField
  body : List UInt8
  isMethod : method ≠ [] ∧ ∀ b ∈ method, isTchar b = true
  isTarget : target ≠ [] ∧ ∀ b ∈ target, 33 ≤ b ∧ b ≤ 126
  /-- The body has the length that the only field of that name says, and none without it. -/
  isBody : match fields.filter fun f => f.isContentLength with
    | [] => body = []
    | [f] => IsNumber f.value body.length
    | _ => False

/-- Lines with their ends, and the empty line. -/
def joinLines : List (List UInt8) → List UInt8
  | [] => crlf
  | line :: lines => line ++ crlf ++ joinLines lines

namespace Request

def startLine (r : Request) : List UInt8 := r.method ++ 32 :: r.target ++ ascii " HTTP/1.1"

def head (r : Request) : List UInt8 := joinLines (r.startLine :: r.fields.map HeaderField.line)

def bytes (r : Request) : List UInt8 := r.head ++ r.body

end Request

/-- The status line, fields, an empty line and as many bytes as the one field `Content-Length` says. -/
structure Response where
  status : ℕ
  reason : List UInt8
  fields : List HeaderField
  body : List UInt8
  isStatus : 100 ≤ status ∧ status < 600
  isReason : ∀ b ∈ reason, 32 ≤ b ∧ b ≤ 126
  isBody : ∃ f, (fields.filter fun f => f.isContentLength) = [f] ∧ IsNumber f.value body.length

namespace Response

def statusLine (r : Response) : List UInt8 :=
  ascii "HTTP/1.1 " ++ decimal r.status ++ 32 :: r.reason

def bytes (r : Response) : List UInt8 :=
  joinLines (r.statusLine :: r.fields.map HeaderField.line) ++ r.body

end Response

/-! ## Heads -/

/-- A line of text. -/
def IsLine (line : List UInt8) : Prop := line ≠ [] ∧ ∀ b ∈ line, b ≠ 0 ∧ b ≠ 10 ∧ b ≠ 13

theorem isTchar_ne {b : UInt8} (h : isTchar b = true) : b ≠ 0 ∧ b ≠ 10 ∧ b ≠ 13 := by
  have hall : ∀ b : UInt8, isTchar b = true → b ≠ 0 ∧ b ≠ 10 ∧ b ≠ 13 := by
    intro b hb
    refine ⟨?_, ?_, ?_⟩ <;> rintro rfl <;> exact absurd hb (by decide)
  exact hall b h

theorem HeaderField.isLine (f : HeaderField) : IsLine f.line := by
  refine ⟨List.append_ne_nil_of_right_ne_nil _ (List.cons_ne_nil _ _), fun b hb => ?_⟩
  rcases List.mem_append.1 hb with hb | hb
  · exact isTchar_ne (f.isName.2 b hb)
  · rcases List.mem_cons.1 hb with rfl | hb
    · decide
    · have hvalue := f.isValue b hb
      refine ⟨?_, ?_, ?_⟩ <;> rintro rfl <;> exact absurd hvalue (by decide)

theorem Request.startLine_isLine (r : Request) : IsLine r.startLine := by
  refine ⟨List.append_ne_nil_of_right_ne_nil _ (by decide), fun b hb => ?_⟩
  rcases List.mem_append.1 hb with hb | hb
  · rcases List.mem_append.1 hb with hb | hb
    · exact isTchar_ne (r.isMethod.2 b hb)
    · rcases List.mem_cons.1 hb with rfl | hb
      · decide
      · have htarget := r.isTarget.2 b hb
        refine ⟨?_, ?_, ?_⟩ <;> rintro rfl <;> exact absurd htarget (by decide)
  · have hall : ∀ b ∈ ascii " HTTP/1.1", b ≠ 0 ∧ b ≠ 10 ∧ b ≠ 13 := by
      decide +kernel
    exact hall b hb

theorem notMem_joinLines {lines : List (List UInt8)} (h : ∀ l ∈ lines, IsLine l) :
    0 ∉ joinLines lines := by
  induction lines with
  | nil => decide
  | cons line lines ih =>
      rw [joinLines, List.mem_append, List.mem_append, not_or, not_or]
      exact ⟨⟨fun h0 => ((h line List.mem_cons_self).2 0 h0).1 rfl, by decide⟩,
        ih fun l hl => h l (List.mem_cons_of_mem _ hl)⟩

/-- The empty line is the first place with two ends of lines. -/
theorem firstAt_joinLines {line : List UInt8} {lines : List (List UInt8)}
    (h : ∀ l ∈ line :: lines, IsLine l) : ∃ text, joinLines (line :: lines) = text ++ (crlf ++ crlf) ∧
      FirstAt (crlf ++ crlf) (joinLines (line :: lines)) text.length := by
  have hstart : ∀ {l t : List UInt8}, IsLine l → ∀ {s}, ¬ 13 :: s <+: l ++ t := by
    intro l t hl s hpre
    obtain ⟨b, l, rfl⟩ := List.exists_cons_of_ne_nil hl.1
    rw [List.cons_append, List.cons_prefix_cons] at hpre
    exact (hl.2 b List.mem_cons_self).2.2 hpre.1.symm
  have hinside : ∀ {l t : List UInt8}, IsLine l → ∀ j < l.length, ¬ crlf ++ crlf <+: (l ++ t).drop j := by
    intro l t hl j hj
    rw [List.drop_append_of_le_length hj.le]
    refine hstart ⟨?_, fun b hb => hl.2 b (List.mem_of_mem_drop hb)⟩
    rw [ne_eq, List.drop_eq_nil_iff]
    omega
  induction lines generalizing line with
  | nil =>
      refine ⟨line, by rw [joinLines, joinLines, List.append_assoc], ?_, fun j hj => ?_⟩
      · rw [joinLines, joinLines, List.append_assoc, List.drop_left]
      · rw [joinLines, List.append_assoc]
        exact hinside (h line List.mem_cons_self) j hj
  | cons next lines ih =>
      have hline := h line List.mem_cons_self
      have hnext := h next (List.mem_cons_of_mem _ List.mem_cons_self)
      obtain ⟨text, htext, hfirst⟩ := ih fun l hl => h l (List.mem_cons_of_mem _ hl)
      refine ⟨line ++ crlf ++ text, ?_, ?_⟩
      · rw [joinLines, htext, List.append_assoc (line ++ crlf)]
      · rw [joinLines]
        have hlen : (line ++ crlf ++ text).length = (line ++ crlf).length + text.length :=
          List.length_append
        refine ⟨?_, fun j hj => ?_⟩
        · rw [hlen, List.drop_length_add_append]
          exact hfirst.here
        · rcases Nat.lt_or_ge j (line ++ crlf).length with hlt | hge
          · rw [List.append_assoc]
            rcases Nat.lt_or_ge j line.length with hin | hend
            · exact hinside hline j hin
            · have hcrlf : j = line.length ∨ j = line.length + 1 := by
                rw [List.length_append] at hlt
                change j < line.length + 2 at hlt
                omega
              -- at the end of the line: the next one is no end of a line again
              rcases hcrlf with rfl | rfl
              · rw [List.drop_left]
                intro hpre
                have hrest := (List.prefix_append_right_inj crlf).1 hpre
                rw [joinLines, List.append_assoc] at hrest
                exact hstart hnext hrest
              · rw [List.drop_length_add_append]
                intro hpre
                exact absurd (List.cons_prefix_cons.1 hpre).1 (by decide)
          · obtain ⟨k, rfl⟩ := Nat.exists_eq_add_of_le hge
            rw [List.drop_length_add_append]
            exact hfirst.notBefore k (by omega)

end SmartPlat.HttpAPI
