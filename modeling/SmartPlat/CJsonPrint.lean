import SmartPlat.CString
import SmartPlat.Lib.Printf
import SmartPlat.Lib.Separated

set_option autoImplicit false

/-! # JSON texts (`ExtLibs/CJson/cjson.c`)

`cJSON_PrintUnformatted` and `cJSON_Print`, where no allocation fails. -/

namespace SmartPlat

open SmartPlat.Lib

/-- An item that is printed. Floating point is not modelled: of a number whose `valuedouble` is not its
    `valueint`, the text of `print_number` is kept. -/
inductive CJsonItem where
  | null
  | bool (b : Bool)
  | number (valueint : ℤ)
  | double (text : CString)
  | string (valuestring : CString)
  | array (child : List CJsonItem)
  | object (child : List (CString × CJsonItem))

namespace CJsonItem

def hexDigit (n : UInt8) : UInt8 := if n < 10 then 48 + n else 87 + n

/-- The bytes that `print_string_ptr` writes for one; `u%04x` is used below 32 only. -/
def escape (token : UInt8) : List UInt8 :=
  if 31 < token ∧ token ≠ 34 ∧ token ≠ 92 then [token]
  else if token = 92 then [92, 92]
  else if token = 34 then [92, 34]
  else if token = 8 then [92, 98]
  else if token = 12 then [92, 102]
  else if token = 10 then [92, 110]
  else if token = 13 then [92, 114]
  else if token = 9 then [92, 116]
  else [92, 117, 48, 48, hexDigit (token / 16), hexDigit (token % 16)]

def printStringPtr (str : CString) : List UInt8 := 34 :: str.bytes.flatMap escape ++ [34]

mutual

def printValue : CJsonItem → List UInt8
  | null => ascii "null"
  | bool false => ascii "false"
  | bool true => ascii "true"
  | number valueint => decimalInt valueint
  | double text => text.bytes
  | string valuestring => printStringPtr valuestring
  | array child => 91 :: printArray child ++ [93]
  | object child => 123 :: printObject child ++ [125]

/-- What `print_array` writes between the brackets. -/
def printArray : List CJsonItem → List UInt8
  | [] => []
  | [item] => item.printValue
  | item :: items => item.printValue ++ 44 :: printArray items

/-- What `print_object` writes between the braces. -/
def printObject : List (CString × CJsonItem) → List UInt8
  | [] => []
  | [(name, item)] => printStringPtr name ++ 58 :: item.printValue
  | (name, item) :: items =>
      printStringPtr name ++ 58 :: item.printValue ++ 44 :: printObject items

end

/-! ## The text has no terminator -/

theorem zero_notMem_escape {token : UInt8} (h : token ≠ 0) : 0 ∉ escape token := by
  have hall : ∀ n : Fin 256, UInt8.ofFin n ≠ 0 → 0 ∉ escape (UInt8.ofFin n) := by decide +kernel
  exact hall token.toFin h

theorem zero_notMem_printStringPtr (str : CString) : 0 ∉ printStringPtr str := by
  intro h
  simp only [printStringPtr, List.mem_append, List.mem_cons, List.mem_flatMap, List.not_mem_nil,
    or_false] at h
  rcases h with (h | ⟨token, htoken, h⟩) | h
  · exact absurd h (by decide)
  · refine zero_notMem_escape ?_ h
    rintro rfl
    exact str.noNul htoken
  · exact absurd h (by decide)

mutual

theorem zero_notMem_printValue : (item : CJsonItem) → 0 ∉ item.printValue
  | null | bool false | bool true => by decide
  | number valueint => fun h => absurd (numberByte_decimalInt h) (by unfold NumberByte; decide)
  | double text => text.noNul
  | string valuestring => zero_notMem_printStringPtr valuestring
  | array child => by
      have ih := zero_notMem_printArray child
      simpa [printValue] using ih
  | object child => by
      have ih := zero_notMem_printObject child
      simpa [printValue] using ih

theorem zero_notMem_printArray : (child : List CJsonItem) → 0 ∉ printArray child
  | [] => by simp [printArray]
  | [item] => zero_notMem_printValue item
  | item :: next :: items => by
      have hitem := zero_notMem_printValue item
      have ih := zero_notMem_printArray (next :: items)
      simp [printArray, hitem, ih]

theorem zero_notMem_printObject : (child : List (CString × CJsonItem)) → 0 ∉ printObject child
  | [] => by simp [printObject]
  | [(name, item)] => by
      have hname := zero_notMem_printStringPtr name
      have hitem := zero_notMem_printValue item
      simp [printObject, hname, hitem]
  | (name, item) :: next :: items => by
      have hname := zero_notMem_printStringPtr name
      have hitem := zero_notMem_printValue item
      have ih := zero_notMem_printObject (next :: items)
      simp [printObject, hname, hitem, ih]

end

/-- `cJSON_PrintUnformatted` -/
def printUnformatted (item : CJsonItem) : CString := ⟨item.printValue, zero_notMem_printValue item⟩

/-! ## How long it is -/

/-- An object is longer than each of its members. -/
theorem length_le_object {child : List (CString × CJsonItem)} {name : CString} {item : CJsonItem}
    (h : (name, item) ∈ child) : item.printValue.length ≤ (object child).printValue.length := by
  have hinside : item.printValue.length ≤ (printObject child).length := by
    induction child with
    | nil => exact absurd h List.not_mem_nil
    | cons c child ih =>
        obtain ⟨name', item'⟩ := c
        cases child with
        | nil =>
            obtain ⟨rfl, rfl⟩ := Prod.mk.inj (List.mem_singleton.1 h)
            simp only [printObject, List.length_append, List.length_cons]
            omega
        | cons next child =>
            simp only [printObject, List.length_append, List.length_cons]
            rcases List.mem_cons.1 h with heq | h
            · obtain ⟨rfl, rfl⟩ := Prod.mk.inj heq
              omega
            · have hrest := ih h
              omega
  simp only [printValue, List.length_append, List.length_cons]
  omega

theorem length_array_replicate (n : ℕ) (item : CJsonItem) :
    n * item.printValue.length ≤ (array (List.replicate n item)).printValue.length := by
  have hinside : n * item.printValue.length ≤ (printArray (List.replicate n item)).length := by
    induction n with
    | zero => simp
    | succ n ih =>
        cases n with
        | zero => simp [printArray]
        | succ n =>
            rw [List.replicate_succ] at ih
            rw [List.replicate_succ, List.replicate_succ, Nat.succ_mul]
            simp only [printArray, List.length_append, List.length_cons]
            omega
  simp only [printValue, List.length_append, List.length_cons]
  omega

/-! ## Formatted texts

`cJSON_Print`: every member of an object stands on a line of its own, with as many tabs as the object is
deep. -/

/-- `for (i=0;i<n;i++) *ptr++='\t'` -/
def tabs (n : ℕ) : List UInt8 := List.replicate n 9

mutual

/-- `print_value(item, depth, 1)` -/
def printValueFmt (depth : ℕ) : CJsonItem → List UInt8
  | null => ascii "null"
  | bool false => ascii "false"
  | bool true => ascii "true"
  | number valueint => decimalInt valueint
  | double text => text.bytes
  | string valuestring => printStringPtr valuestring
  | array child => 91 :: printArrayFmt (depth + 1) child ++ [93]
  -- the depth is not counted up for an empty object
  | object [] => 123 :: 10 :: tabs (depth - 1) ++ [125]
  | object (c :: child) => 123 :: 10 :: printObjectFmt (depth + 1) (c :: child) ++ tabs depth ++ [125]

def printArrayFmt (depth : ℕ) : List CJsonItem → List UInt8
  | [] => []
  | [item] => item.printValueFmt depth
  | item :: items => item.printValueFmt depth ++ 44 :: 32 :: printArrayFmt depth items

def printObjectFmt (depth : ℕ) : List (CString × CJsonItem) → List UInt8
  | [] => []
  | [(name, item)] => tabs depth ++ printStringPtr name ++ 58 :: 9 :: item.printValueFmt depth ++ [10]
  | (name, item) :: items =>
      tabs depth ++ printStringPtr name ++ 58 :: 9 :: item.printValueFmt depth ++
        44 :: 10 :: printObjectFmt depth items

end

/-! ### A formatted text has no terminator -/

theorem zero_notMem_tabs (n : ℕ) : 0 ∉ tabs n := fun h =>
  absurd (List.eq_of_mem_replicate h) (by decide)

mutual

theorem zero_notMem_printValueFmt (depth : ℕ) : (item : CJsonItem) → 0 ∉ item.printValueFmt depth
  | null | bool false | bool true => by
      unfold printValueFmt
      decide
  | number valueint => fun h => by
      rw [printValueFmt] at h
      exact absurd (numberByte_decimalInt h) (by unfold NumberByte; decide)
  | double text => by
      rw [printValueFmt]
      exact text.noNul
  | string valuestring => by
      rw [printValueFmt]
      exact zero_notMem_printStringPtr valuestring
  | array child => by
      have ih := zero_notMem_printArrayFmt (depth + 1) child
      simpa [printValueFmt] using ih
  | object [] => by simp [printValueFmt, zero_notMem_tabs]
  | object (c :: child) => by
      have ih := zero_notMem_printObjectFmt (depth + 1) (c :: child)
      simp [printValueFmt, zero_notMem_tabs, ih]

theorem zero_notMem_printArrayFmt (depth : ℕ) : (child : List CJsonItem) → 0 ∉ printArrayFmt depth child
  | [] => by simp [printArrayFmt]
  | [item] => by
      have hitem := zero_notMem_printValueFmt depth item
      rwa [printArrayFmt]
  | item :: next :: items => by
      have hitem := zero_notMem_printValueFmt depth item
      have ih := zero_notMem_printArrayFmt depth (next :: items)
      simp [printArrayFmt, hitem, ih]

theorem zero_notMem_printObjectFmt (depth : ℕ) :
    (child : List (CString × CJsonItem)) → 0 ∉ printObjectFmt depth child
  | [] => by simp [printObjectFmt]
  | [(name, item)] => by
      have hname := zero_notMem_printStringPtr name
      have hitem := zero_notMem_printValueFmt depth item
      simp [printObjectFmt, zero_notMem_tabs, hname, hitem]
  | (name, item) :: next :: items => by
      have hname := zero_notMem_printStringPtr name
      have hitem := zero_notMem_printValueFmt depth item
      have ih := zero_notMem_printObjectFmt depth (next :: items)
      simp [printObjectFmt, zero_notMem_tabs, hname, hitem, ih]

end

/-- `cJSON_Print` -/
def print (item : CJsonItem) : CString := ⟨item.printValueFmt 0, zero_notMem_printValueFmt 0 item⟩

/-! ### How long an escaped string is -/

/-- The bytes that `print_string_ptr` counts for one. -/
def escapedByte (b : UInt8) : ℕ :=
  if b = 34 ∨ b = 92 ∨ b = 8 ∨ b = 12 ∨ b = 10 ∨ b = 13 ∨ b = 9 then 2 else if b < 32 then 6 else 1

/-- How many bytes a string takes between its quotes. -/
def escapedLength (s : CString) : ℕ := (s.bytes.map escapedByte).sum

theorem length_escape (b : UInt8) : (escape b).length = escapedByte b := by
  have hall : ∀ n : Fin 256, (escape (UInt8.ofFin n)).length = escapedByte (UInt8.ofFin n) := by
    decide +kernel
  exact hall b.toFin

theorem length_printStringPtr (s : CString) : (printStringPtr s).length = escapedLength s + 2 := by
  have hsum : s.bytes.map (fun b => (escape b).length) = s.bytes.map escapedByte :=
    List.map_congr_left fun b _ => length_escape b
  rw [printStringPtr, List.length_append, List.length_cons, List.length_flatMap, hsum]
  rfl

/-- Where nothing has to be escaped, it is the length of the string. -/
theorem escapedLength_eq_strlen {s : CString} (h : ∀ b ∈ s.bytes, 32 ≤ b ∧ b ≠ 34 ∧ b ≠ 92) :
    escapedLength s = s.strlen := by
  have hone : ∀ b ∈ s.bytes, escapedByte b = 1 := by
    intro b hb
    obtain ⟨hle, hquote, hslash⟩ := h b hb
    have hlt : ∀ k < 32, b ≠ k := fun k hk heq => absurd hle (UInt8.not_le.2 (heq ▸ hk))
    rw [escapedByte, if_neg, if_neg (UInt8.not_lt.2 hle)]
    rintro (h | h | h | h | h | h | h)
    · exact hquote h
    · exact hslash h
    all_goals exact hlt _ (by decide) h
  rw [escapedLength, List.map_congr_left hone, List.map_const', List.sum_replicate_nat, Nat.mul_one]
  rfl

end CJsonItem

end SmartPlat
