import SmartPlat.Lib.Printf

set_option autoImplicit false

/-! # Base64

Three bytes become four symbols of six bits, and what is left at the end is filled up. -/

namespace SmartPlat.Lib.Base64

def alphabet : List UInt8 := ascii "ABCDEFGHIJKLMNOPQRSTUVWXYZabcdefghijklmnopqrstuvwxyz0123456789+/"

/-- The symbol of six bits. -/
def symbol (k : ℕ) : UInt8 := alphabet.getD k 0

/-- `=` -/
def fill : UInt8 := 61

def encode : List UInt8 → List UInt8
  | a :: b :: c :: data =>
      symbol (a.toNat / 4) :: symbol (a.toNat % 4 * 16 + b.toNat / 16)
        :: symbol (b.toNat % 16 * 4 + c.toNat / 64) :: symbol (c.toNat % 64) :: encode data
  | [a, b] =>
      [symbol (a.toNat / 4), symbol (a.toNat % 4 * 16 + b.toNat / 16), symbol (b.toNat % 16 * 4), fill]
  | [a] => [symbol (a.toNat / 4), symbol (a.toNat % 4 * 16), fill, fill]
  | [] => []

/-- The six bits of a symbol. -/
def value (s : UInt8) : ℕ := alphabet.idxOf s

/-- Four symbols become three bytes, or less if the last are filled up. -/
def decode : List UInt8 → List UInt8
  | s :: t :: u :: v :: text =>
      let a := UInt8.ofNat (value s * 4 + value t / 16)
      let b := UInt8.ofNat (value t % 16 * 16 + value u / 4)
      let c := UInt8.ofNat (value u % 4 * 64 + value v)
      (if u = fill then [a] else if v = fill then [a, b] else [a, b, c]) ++ decode text
  | _ => []

variable {k : ℕ}

theorem symbol_spec : ∀ k < 64, value (symbol k) = k ∧ symbol k ≠ fill ∧ symbol k ≠ 0 := by
  decide +kernel

theorem value_symbol (hk : k < 64) : value (symbol k) = k := (symbol_spec k hk).1

theorem symbol_ne_fill (hk : k < 64) : symbol k ≠ fill := (symbol_spec k hk).2.1

theorem symbol_ne_zero (hk : k < 64) : symbol k ≠ 0 := (symbol_spec k hk).2.2

theorem length_encode (data : List UInt8) : (encode data).length = 4 * ((data.length + 2) / 3) := by
  fun_induction encode data with
  | case1 a b c data ih =>
      simp only [List.length_cons, ih]
      omega
  | case2 a b => simp
  | case3 a => simp
  | case4 => simp

/-- An encoding is a string. -/
theorem zero_notMem_encode (data : List UInt8) : 0 ∉ encode data := by
  have hfill : (0 : UInt8) ≠ fill := by decide
  have hsymbol {k : ℕ} (hk : k < 64) : 0 ≠ symbol k := (symbol_ne_zero hk).symm
  fun_induction encode data with
  | case1 a b c data ih =>
      have ha := a.toNat_lt
      have hb := b.toNat_lt
      have hc := c.toNat_lt
      simp only [List.mem_cons, not_or]
      exact ⟨hsymbol (by omega), hsymbol (by omega), hsymbol (by omega), hsymbol (by omega), ih⟩
  | case2 a b =>
      have ha := a.toNat_lt
      have hb := b.toNat_lt
      simp only [List.mem_cons, not_or]
      exact ⟨hsymbol (by omega), hsymbol (by omega), hsymbol (by omega), hfill, List.not_mem_nil⟩
  | case3 a =>
      have ha := a.toNat_lt
      simp only [List.mem_cons, not_or]
      exact ⟨hsymbol (by omega), hsymbol (by omega), hfill, hfill, List.not_mem_nil⟩
  | case4 => exact List.not_mem_nil

theorem ofNat_eq (a : UInt8) (h : k = a.toNat) : UInt8.ofNat k = a := by rw [h, UInt8.ofNat_toNat]

theorem decode_encode (data : List UInt8) : decode (encode data) = data := by
  fun_induction encode data with
  | case1 a b c data ih =>
      have ha := a.toNat_lt
      have hb := b.toNat_lt
      have hc := c.toNat_lt
      simp only [decode]
      rw [if_neg (symbol_ne_fill (by omega)), if_neg (symbol_ne_fill (by omega)), ih]
      rw [value_symbol (by omega), value_symbol (by omega), value_symbol (by omega), value_symbol (by omega),
        ofNat_eq a (by omega), ofNat_eq b (by omega), ofNat_eq c (by omega)]
      rfl
  | case2 a b =>
      have ha := a.toNat_lt
      have hb := b.toNat_lt
      simp only [decode]
      rw [if_neg (symbol_ne_fill (by omega)), if_pos trivial, value_symbol (by omega),
        value_symbol (by omega), value_symbol (by omega), ofNat_eq a (by omega), ofNat_eq b (by omega)]
      rfl
  | case3 a =>
      have ha := a.toNat_lt
      simp only [decode]
      rw [if_pos trivial, value_symbol (by omega), value_symbol (by omega), ofNat_eq a (by omega)]
      rfl
  | case4 => rfl

/-- **Different data have different texts.** -/
theorem encode_injective : Function.Injective encode := Function.LeftInverse.injective decode_encode

end SmartPlat.Lib.Base64
