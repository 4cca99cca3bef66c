import SmartPlat.MqttAPI.PushMessages
import SmartPlat.CJson
import SmartPlat.CJsonRoundTrip
import SmartPlat.VehicleDataAnalysis.Proofs.StationRows
import Mathlib.Data.List.DropRight

set_option autoImplicit false

/-! # Which messages are pushed as they should be (`jsonmap.c`, `vehicledataanalysis.c`, `mqttapi.c`) -/

namespace SmartPlat.MqttAPI

open SmartPlat.Lib SmartPlat.VehicleDataAnalysis CJsonItem

/-! ## Times that are printed and scanned (`jsonmap.c`)

The text of a time has its six numbers, whatever they are, as long as all of it is there; without its last
byte it has other ones. -/

/-! ### Digits -/

structure Digits (d : List UInt8) : Prop where
  ne_nil : d ≠ []
  digit : ∀ b ∈ d, 48 ≤ b ∧ b ≤ 57

theorem digitsValue_append (a b : List UInt8) :
    digitsValue (a ++ b) = digitsValue a * 10 ^ b.length + digitsValue b := by
  have hfold : ∀ (l : List UInt8) (k : ℕ), l.foldl (fun n b => 10 * n + (b.toNat - 48)) k =
      k * 10 ^ l.length + digitsValue l := by
    intro l
    induction l with
    | nil => simp [digitsValue]
    | cons b l ih =>
        intro k
        have hcons : digitsValue (b :: l) = (10 * 0 + (b.toNat - 48)) * 10 ^ l.length + digitsValue l :=
          ih (10 * 0 + (b.toNat - 48))
        rw [List.foldl_cons, ih, hcons, List.length_cons, pow_succ]
        ring
  rw [digitsValue, List.foldl_append, hfold]
  rfl

/-- Digits that are cut off change the value, but for zero. -/
theorem digitsValue_take_ne {d : List UInt8} (h : digitsValue d ≠ 0) {k : ℕ} (hk : k < d.length) :
    digitsValue (d.take k) ≠ digitsValue d := by
  intro heq
  have happend := digitsValue_append (d.take k) (d.drop k)
  rw [List.take_append_drop, heq] at happend
  have hpow : 10 ^ 1 ≤ 10 ^ (d.drop k).length := by
    refine Nat.pow_le_pow_right (by decide) ?_
    rw [List.length_drop]
    omega
  have hmul : digitsValue d * 10 ^ 1 ≤ digitsValue d * 10 ^ (d.drop k).length :=
    Nat.mul_le_mul_left _ hpow
  omega

theorem digits_decimal (n : ℕ) : Digits (decimal n) where
  ne_nil := by
    rw [decimal]
    split
    · exact List.cons_ne_nil _ _
    · next h => simpa [Nat.digits_eq_nil_iff_eq_zero] using h
  digit := fun _ hb => digit_of_mem_decimal hb

theorem digits_padded (k n : ℕ) : Digits (List.replicate k 48 ++ decimal n) where
  ne_nil := List.append_ne_nil_of_right_ne_nil _ (digits_decimal n).ne_nil
  digit := by
    intro b hb
    rcases List.mem_append.1 hb with hb | hb
    · obtain rfl := List.eq_of_mem_replicate hb
      decide
    · exact digit_of_mem_decimal hb

theorem digitsValue_padded (k n : ℕ) : digitsValue (List.replicate k 48 ++ decimal n) = n := by
  have hzeros : digitsValue (List.replicate k 48) = 0 := by
    induction k with
    | zero => rfl
    | succ k ih => exact ih
  rw [digitsValue_append, hzeros, Nat.zero_mul, Nat.zero_add]
  exact foldl_decimal n

/-! ### Numbers -/

/-- Digits with a minus sign in front of them. -/
def signed (negative : Bool) (d : List UInt8) : List UInt8 := if negative then 45 :: d else d

theorem exists_zeroPadded (width : ℕ) (n : ℤ) :
    ∃ negative d, zeroPadded width n = signed negative d ∧ Digits d ∧
      n = if negative then -(digitsValue d : ℤ) else digitsValue d := by
  cases n with
  | ofNat n =>
      refine ⟨false, _, rfl, digits_padded _ n, ?_⟩
      rw [digitsValue_padded]
      rfl
  | negSucc n =>
      refine ⟨true, _, rfl, digits_padded _ (n + 1), ?_⟩
      rw [digitsValue_padded]
      rfl

theorem length_zeroPadded (width : ℕ) (n : ℤ) :
    (zeroPadded width n).length = max width (decimalInt n).length := by
  cases n with
  | ofNat n =>
      rw [zeroPadded, List.length_append, List.length_replicate]
      show _ = max width (decimal n).length
      omega
  | negSucc n =>
      rw [zeroPadded, List.length_cons, List.length_append, List.length_replicate]
      show _ = max width ((decimal (n + 1)).length + 1)
      omega

/-- No digit comes next. -/
def NoDigit (rest : List UInt8) : Prop := ∀ b ∈ rest.head?, ¬ (48 ≤ b ∧ b ≤ 57)

theorem takeWhile_digits {w : ℕ} {d rest : List UInt8} (hd : Digits d) (hw : d.length ≤ w)
    (hrest : NoDigit rest) :
    ((d ++ rest).take w).takeWhile (fun b => decide (48 ≤ b ∧ b ≤ 57)) = d := by
  have hnone : (rest.take (w - d.length)).takeWhile (fun b => decide (48 ≤ b ∧ b ≤ 57)) = [] := by
    cases rest with
    | nil => simp
    | cons b rest =>
        cases w - d.length with
        | zero => rfl
        | succ k => exact List.takeWhile_cons_of_neg (by simpa using hrest b rfl)
  rw [List.take_append, List.take_of_length_le hw,
    List.takeWhile_append_of_pos fun b hb => decide_eq_true (hd.digit b hb), hnone, List.append_nil]

/-- A number is scanned with all of its digits, if it is not too wide. -/
theorem scanInt_signed {width : ℕ} {negative : Bool} {d rest : List UInt8} (hd : Digits d)
    (hwidth : (signed negative d).length ≤ width) (hrest : NoDigit rest) :
    scanInt width (signed negative d ++ rest) =
      some (if negative then -(digitsValue d : ℤ) else digitsValue d, rest) := by
  have hblank : ∀ (b : UInt8) (s : List UInt8), (b = 45 ∨ 48 ≤ b ∧ b ≤ 57) →
      (b :: s).dropWhile (fun b => decide (b = 32 ∨ 9 ≤ b ∧ b ≤ 13)) = b :: s := by
    intro b s hb
    refine List.dropWhile_cons_of_neg ?_
    have hall : ∀ n : Fin 256, (UInt8.ofFin n = 45 ∨ 48 ≤ UInt8.ofFin n ∧ UInt8.ofFin n ≤ 57) →
        ¬ decide (UInt8.ofFin n = 32 ∨ 9 ≤ UInt8.ofFin n ∧ UInt8.ofFin n ≤ 13) = true := by
      decide +kernel
    exact hall b.toFin hb
  cases negative with
  | true =>
      have hdigits := takeWhile_digits hd (Nat.le_sub_one_of_lt hwidth) hrest
      unfold scanInt signed
      simp only [if_true, List.cons_append, hblank 45 (d ++ rest) (.inl rfl), List.head?_cons, or_true,
        List.drop_succ_cons, List.drop_zero, hdigits, if_neg hd.ne_nil, Nat.add_comm 1, List.drop_left]
      rfl
  | false =>
      obtain ⟨b, d', rfl⟩ := List.exists_cons_of_ne_nil hd.ne_nil
      have hb := hd.digit b List.mem_cons_self
      have hsign : b ≠ 43 ∧ b ≠ 45 := by
        refine ⟨?_, ?_⟩
        · rintro rfl
          exact absurd hb.1 (by decide)
        · rintro rfl
          exact absurd hb.1 (by decide)
      have hdigits := takeWhile_digits hd hwidth hrest
      rw [List.cons_append] at hdigits
      unfold scanInt signed
      simp only [Bool.false_eq_true, if_false, List.cons_append, hblank b (d' ++ rest) (.inr hb),
        List.head?_cons, Option.some.injEq, hsign, or_self, List.drop_zero, Nat.sub_zero, hdigits, Nat.zero_add,
        if_neg hd.ne_nil]
      rw [← List.cons_append, List.drop_left]
      rfl

theorem scanInt_zeroPadded {width w : ℕ} {n : ℤ} {rest : List UInt8}
    (hwidth : (zeroPadded w n).length ≤ width) (hrest : NoDigit rest) :
    scanInt width (zeroPadded w n ++ rest) = some (n, rest) := by
  obtain ⟨negative, d, htext, hd, hn⟩ := exists_zeroPadded w n
  rw [htext] at hwidth ⊢
  rw [scanInt_signed hd hwidth hrest, ← hn]

/-! ### A time -/

theorem length_paddedLength (width : ℕ) (n : Int32) :
    (zeroPadded width n.toInt).length = paddedLength width n := length_zeroPadded width n.toInt

theorem paddedLength_le {width : ℕ} (hwidth : width ≤ 11) (n : Int32) : paddedLength width n ≤ 11 :=
  max_le hwidth (length_number n)

/-- Up to the seconds. -/
def timeHead (t : TimeMembers) : List UInt8 :=
  zeroPadded 4 t.year.toInt ++ 45 :: (zeroPadded 2 t.month.toInt ++ 45 :: (zeroPadded 2 t.day.toInt ++
    32 :: (zeroPadded 2 t.hour.toInt ++ 58 :: (zeroPadded 2 t.min.toInt ++ [58]))))

theorem bytes_timeText (t : TimeMembers) :
    (timeText t).bytes = timeHead t ++ zeroPadded 2 t.sec.toInt := by
  have hprintf : printf (ascii "%04d-%02d-%02d %02d:%02d:%02d") (t.toList.map .int) =
      timeHead t ++ zeroPadded 2 t.sec.toInt := by
    simp [printf, ascii, timeHead, TimeMembers.toList]
  have hnul : ∀ width n, 0 ∉ zeroPadded width n := fun width n h =>
    absurd (numberByte_zeroPadded h) (by unfold NumberByte; decide)
  rw [timeText, hprintf]
  exact CString.bytes_ofBuffer (by simp [timeHead, hnul])

theorem length_timeHead (t : TimeMembers) :
    (timeHead t).length + paddedLength 2 t.sec = timeLength t ∧ (timeHead t).length ≤ 60 := by
  have hyear := paddedLength_le (by decide : 4 ≤ 11) t.year
  have hmonth := paddedLength_le (by decide : 2 ≤ 11) t.month
  have hday := paddedLength_le (by decide : 2 ≤ 11) t.day
  have hhour := paddedLength_le (by decide : 2 ≤ 11) t.hour
  have hmin := paddedLength_le (by decide : 2 ≤ 11) t.min
  simp only [timeHead, timeLength, List.length_append, List.length_cons, List.length_nil,
    length_paddedLength]
  omega

/-- Behind a number stands a byte that separates it from the next one. -/
theorem scanInts_cons {w : ℕ} (hw : w ≤ 11) (n : Int32) {sep : UInt8} (hsep : ¬ (48 ≤ sep ∧ sep ≤ 57))
    {fmt : List (ℕ × UInt8)} {s s' : List UInt8} (hscan : scanSeparator sep (sep :: s) = some s') :
    scanInts ((11, sep) :: fmt) (zeroPadded w n.toInt ++ sep :: s) = n.toInt :: scanInts fmt s' := by
  have hwidth : (zeroPadded w n.toInt).length ≤ 11 := by
    rw [length_paddedLength]
    exact paddedLength_le hw n
  have hrest : NoDigit (sep :: s) := by
    intro b hb
    obtain rfl := Option.some.inj hb
    exact hsep
  rw [scanInts, scanInt_zeroPadded hwidth hrest]
  simp only [hscan]

/-- A number is scanned behind any blanks. -/
theorem scanInts_dropWhile (width : ℕ) (sep : UInt8) (fmt : List (ℕ × UInt8)) (s : List UInt8) :
    scanInts ((width, sep) :: fmt) (s.dropWhile fun b => b = 32 ∨ 9 ≤ b ∧ b ≤ 13) =
      scanInts ((width, sep) :: fmt) s := by
  rw [scanInts, scanInts, scanInt, scanInt, List.dropWhile_idempotent]

/-- What is scanned of a time depends on what stands where the seconds do. -/
theorem scanInts_timeHead (t : TimeMembers) (s : List UInt8) :
    scanInts [(11, 45), (11, 45), (11, 32), (11, 58), (11, 58), (11, 32)] (timeHead t ++ s) =
      t.toList.dropLast ++ scanInts [(11, 32)] s := by
  have hdash : ∀ s, scanSeparator 45 (45 :: s) = some s := fun s => rfl
  have hcolon : ∀ s, scanSeparator 58 (58 :: s) = some s := fun s => rfl
  have hblank : ∀ s, scanSeparator 32 (32 :: s) =
      some (s.dropWhile fun b => b = 32 ∨ 9 ≤ b ∧ b ≤ 13) := fun s => rfl
  simp only [timeHead, List.append_assoc, List.cons_append, List.nil_append]
  rw [scanInts_cons (by decide) t.year (by decide) (hdash _),
    scanInts_cons (by decide) t.month (by decide) (hdash _),
    scanInts_cons (by decide) t.day (by decide) (hblank _), scanInts_dropWhile,
    scanInts_cons (by decide) t.hour (by decide) (hcolon _),
    scanInts_cons (by decide) t.min (by decide) (hcolon _)]
  rfl

theorem scanInts_singleton {width : ℕ} {s : List UInt8} {n : ℤ} :
    scanInts [(width, 32)] s = [n] ↔ ∃ rest, scanInt width s = some (n, rest) := by
  rw [scanInts]
  cases scanInt width s with
  | none => simp
  | some r =>
      obtain ⟨m, rest⟩ := r
      show [m] = [n] ↔ _
      simp

/-- A number without its last digits is another one. -/
theorem scanInt_take_ne {n : ℤ} {width j : ℕ} (hwidth : (zeroPadded 2 n).length ≤ width) (hj : 3 ≤ j)
    (hlt : j < (zeroPadded 2 n).length) (rest : List UInt8) :
    scanInt width ((zeroPadded 2 n).take j) ≠ some (n, rest) := by
  obtain ⟨negative, d, htext, hd, hn⟩ := exists_zeroPadded 2 n
  have hne : digitsValue d ≠ 0 := by
    intro hzero
    have hn0 : n = 0 := by
      rw [hn, hzero]
      cases negative <;> rfl
    rw [hn0] at hlt
    exact absurd hlt (by rw [show (zeroPadded 2 0).length = 2 from rfl]; omega)
  rw [htext] at hwidth hlt ⊢
  obtain ⟨i, hi, hlen, htake⟩ : ∃ i, 0 < i ∧ i < d.length ∧
      (signed negative d).take j = signed negative (d.take i) := by
    cases negative with
    | true =>
        obtain ⟨j, rfl⟩ : ∃ i, j = i + 1 := ⟨j - 1, by omega⟩
        exact ⟨j, by omega, Nat.lt_of_succ_lt_succ hlt, rfl⟩
    | false => exact ⟨j, by omega, hlt, rfl⟩
  have hdigits : Digits (d.take i) :=
    ⟨fun hnil => by
      have hzero := congrArg List.length hnil
      rw [List.length_take, List.length_nil] at hzero
      omega, fun b hb => hd.digit b (List.mem_of_mem_take hb)⟩
  have hfits : (signed negative (d.take i)).length ≤ width := by
    rw [← htake]
    exact (List.length_take_le' j _).trans hwidth
  have hscan := @scanInt_signed width negative (d.take i) [] hdigits hfits fun _ h => nomatch h
  rw [List.append_nil] at hscan
  rw [htake, hscan]
  intro heq
  have hvalue := (Prod.mk.inj (Option.some.inj heq)).1
  refine digitsValue_take_ne hne hlen ?_
  rw [hn] at hvalue
  cases negative with
  | true => exact Int.natCast_inj.1 (Int.neg_inj.1 hvalue)
  | false => exact Int.natCast_inj.1 hvalue

/-- **A time is read back from its text exactly where all of it is there.** -/
theorem scanTime_take_iff (t : TimeMembers) {k : ℕ} (hk : 63 ≤ k) (text : CString)
    (htext : text.bytes = (timeText t).bytes.take k) :
    scanTime text = t.toList ↔ timeLength t ≤ k := by
  obtain ⟨hsum, hhead⟩ := length_timeHead t
  have hwidth : (zeroPadded 2 t.sec.toInt).length ≤ 11 := by
    rw [length_paddedLength]
    exact paddedLength_le (by decide) t.sec
  rw [← length_paddedLength] at hsum
  have hscan : scanTime text = t.toList.dropLast ++
      scanInts [(11, 32)] ((zeroPadded 2 t.sec.toInt).take (k - (timeHead t).length)) := by
    rw [scanTime, htext, bytes_timeText, List.take_append, List.take_of_length_le (by omega),
      scanInts_timeHead]
  have hseconds : scanTime text = t.toList ↔ ∃ rest,
      scanInt 11 ((zeroPadded 2 t.sec.toInt).take (k - (timeHead t).length)) =
        some (t.sec.toInt, rest) := by
    rw [hscan]
    exact (List.append_right_inj t.toList.dropLast).trans scanInts_singleton
  rw [hseconds]
  constructor
  · intro ⟨rest, hrest⟩
    by_contra hlong
    exact scanInt_take_ne hwidth (by omega) (by omega) rest hrest
  · intro hle
    have hall : scanInt 11 (zeroPadded 2 t.sec.toInt ++ []) = some (t.sec.toInt, []) :=
      scanInt_zeroPadded hwidth fun _ h => nomatch h
    rw [List.append_nil] at hall
    rw [List.take_of_length_le (by omega)]
    exact ⟨[], hall⟩

/-! ## Texts -/

theorem ends_read {size : ℕ} {b : CharBuffer size} {R : CString → Prop} :
    Ends b.read R ↔ b.Terminated ∧ R b.str := by
  unfold CharBuffer.read
  split
  · next h => simp [h]
  · next h => simp [h]

/-- What is left of a time in its 64 bytes. -/
def clippedTime (t : TimeMembers) : CString where
  bytes := (timeText t).bytes.take 63
  noNul h := (timeText t).noNul (List.mem_of_mem_take h)

theorem timeBuffer_eq (t : TimeMembers) : timeBuffer t = .ok (clippedTime t) := by
  have hroom : ((timeText t).bytes.take 63 ++ [0]).length ≤ 64 := by
    rw [List.length_append, List.length_take, List.length_singleton]
    omega
  have hends : Ends (timeBuffer t) (· = clippedTime t) := by
    rw [timeBuffer, ends_bind, CharBuffer.ends_snprintf (by decide)]
    refine ⟨hroom, ends_read.2 ⟨CharBuffer.terminated_overwrite_nul hroom, ?_⟩⟩
    exact CString.ext_bytes (CharBuffer.str_overwrite_nul (clippedTime t).noNul hroom)
  obtain ⟨text, htext, rfl⟩ := hends
  exact htext

theorem bytes_vehicleLabel (type : ℤ) : (vehicleLabel type).bytes = utf8 (getVehiclesByType type) :=
  CString.bytes_ofBuffer (noNul_vehicles type)

theorem length_vehicleLabel (type : ℤ) : (vehicleLabel type).bytes.length ≤ 9 := by
  rw [bytes_vehicleLabel, getVehiclesByType]
  split_ifs <;> decide

/-- The name of a vehicle has no byte that is escaped. -/
theorem escapedLength_vehicleLabel (type : ℤ) :
    escapedLength (vehicleLabel type) = (utf8 (getVehiclesByType type)).length := by
  rw [escapedLength, bytes_vehicleLabel, getVehiclesByType]
  split_ifs <;> decide

theorem ends_cartype (type : ℤ) {R : CString → Prop} :
    (Ends ((CharBuffer.zeros 64).sprintf (vehicleLabel type)) fun b => Ends b.read R) ↔
      R (vehicleLabel type) := by
  have hlen := length_vehicleLabel type
  have hroom : ((vehicleLabel type).bytes ++ [0]).length ≤ 64 := by
    rw [List.length_append, List.length_singleton]
    omega
  have hstr := CString.ext_bytes
    (CharBuffer.str_overwrite_nul (b := CharBuffer.zeros 64) (vehicleLabel type).noNul hroom)
  simp only [CharBuffer.sprintf, CharBuffer.ends_memcpy, ends_read, hroom, exists_true_left,
    CharBuffer.terminated_overwrite_nul hroom, true_and, hstr]

/-! ## Messages -/

theorem fitsInt_toInt (n : Int32) : FitsInt n.toInt := ⟨n.le_toInt, n.toInt_lt⟩

theorem exact_pushItem {cmd : String} {data : List (String × CJsonItem)} (h : ∀ m ∈ data, Exact m.2) :
    Exact (pushItem cmd data) := by
  have hdata : Exact (.object (data.map fun m => (literal m.1, m.2))) :=
    .object (List.forall_mem_map.2 h)
  exact .object (by simpa using ⟨.string _, hdata⟩)

/-- A message is all right if it leaves a byte for its terminator. -/
theorem ends_copyPrinted {float : List UInt8 → CJsonItem} {item : CJsonItem} (h : Exact item)
    {P : CJsonItem → Prop} :
    (Ends (copyPrinted (.zeros 512) item) fun msg : CharBuffer 512 => msg.Terminated ∧
      ∃ item', CJsonItem.parse float msg.str = .ok item' ∧ P item') ↔
    item.print.bytes.length < 512 ∧ P item := by
  rw [copyPrinted, CharBuffer.ends_memcpy]
  constructor
  · intro ⟨hroom, hterminated, item', hparse, hP⟩
    rw [CString.ext_bytes (CharBuffer.str_overwrite_zeros item.print.noNul hroom), parse_print h] at hparse
    obtain rfl := Except.ok.inj hparse
    exact ⟨(CharBuffer.terminated_overwrite_zeros_iff item.print.noNul hroom).1 hterminated, hP⟩
  · intro ⟨hlen, hP⟩
    have hroom := Nat.le_of_lt hlen
    refine ⟨hroom, (CharBuffer.terminated_overwrite_zeros_iff item.print.noNul hroom).2 hlen, item, ?_, hP⟩
    rw [CString.ext_bytes (CharBuffer.str_overwrite_zeros item.print.noNul hroom), parse_print h]

/-! ## Lengths -/

theorem length_timeText (t : TimeMembers) : (timeText t).bytes.length = timeLength t := by
  rw [bytes_timeText, List.length_append, length_paddedLength]
  exact (length_timeHead t).1

/-- Nothing in a time is escaped. -/
theorem plain_of_mem_timeText {t : TimeMembers} {b : UInt8} (h : b ∈ (timeText t).bytes) :
    32 ≤ b ∧ b ≠ 34 ∧ b ≠ 92 := by
  have hall : ∀ n : Fin 256, (UInt8.ofFin n = 45 ∨ 48 ≤ UInt8.ofFin n ∧ UInt8.ofFin n ≤ 57) →
      32 ≤ UInt8.ofFin n ∧ UInt8.ofFin n ≠ 34 ∧ UInt8.ofFin n ≠ 92 := by
    decide +kernel
  have hnumber : ∀ width n, b ∈ zeroPadded width n → 32 ≤ b ∧ b ≠ 34 ∧ b ≠ 92 := fun width n hb =>
    hall b.toFin (numberByte_zeroPadded hb)
  rw [bytes_timeText] at h
  simp only [timeHead, List.mem_append, List.mem_cons, List.not_mem_nil, or_false] at h
  rcases h with (h | rfl | h | rfl | h | rfl | h | rfl | h | rfl) | h
  all_goals first | exact hnumber _ _ h | decide

theorem escapedLength_clippedTime (t : TimeMembers) :
    escapedLength (clippedTime t) = min 63 (timeLength t) := by
  rw [escapedLength_eq_strlen fun b hb => plain_of_mem_timeText (List.mem_of_mem_take hb), CString.strlen,
    clippedTime, List.length_take, length_timeText]

theorem length_deviceEntrances (plateNo cartype time : CString) (n : ℤ) :
    (pushItem "pushdeviceentrances" [("plateno", .string plateNo), ("cartype", .string cartype),
      ("time", .string time), ("refueno", .number n)]).print.bytes.length =
    escapedLength plateNo + escapedLength cartype + escapedLength time + (decimalInt n).length + 110 := by
  have hnames : escapedLength (literal "cmd") = 3 ∧ escapedLength (literal "pushdeviceentrances") = 19 ∧
      escapedLength (literal "data") = 4 ∧ escapedLength (literal "plateno") = 7 ∧
      escapedLength (literal "cartype") = 7 ∧ escapedLength (literal "time") = 4 ∧
      escapedLength (literal "refueno") = 7 := by
    decide
  simp only [pushItem, print, List.map_cons, List.map_nil, printValueFmt, printObjectFmt, tabs,
    List.length_append, List.length_cons, List.length_nil, List.length_replicate, length_printStringPtr,
    hnames]
  omega

theorem length_alarmMessage (time place : CString) (type : HkSdkManage.DeviceAlarmType) :
    (pushItem "pushalarmmessage" [("alarmtype", .number (alarmNumber type)), ("time", .string time),
      ("place", .string place)]).print.bytes.length =
    escapedLength time + escapedLength place + 91 := by
  have hnames : escapedLength (literal "cmd") = 3 ∧ escapedLength (literal "pushalarmmessage") = 16 ∧
      escapedLength (literal "data") = 4 ∧ escapedLength (literal "alarmtype") = 9 ∧
      escapedLength (literal "time") = 4 ∧ escapedLength (literal "place") = 5 := by
    decide
  have hnumber : (decimalInt (alarmNumber type)).length = 1 := by
    cases type <;> decide
  simp only [pushItem, print, List.map_cons, List.map_nil, printValueFmt, printObjectFmt, tabs,
    List.length_append, List.length_cons, List.length_nil, List.length_replicate, length_printStringPtr,
    hnames, hnumber]
  omega

theorem length_vehiclesSum_lt (m n : Int32) :
    (pushItem "getentrancevehiclessum" [("passingcount", .number m.toInt),
      ("incominfcount", .number n.toInt)]).print.bytes.length < 512 := by
  have hnames : escapedLength (literal "cmd") = 3 ∧ escapedLength (literal "getentrancevehiclessum") = 22 ∧
      escapedLength (literal "data") = 4 ∧ escapedLength (literal "passingcount") = 12 ∧
      escapedLength (literal "incominfcount") = 13 := by
    decide
  have hm := length_number m
  have hn := length_number n
  simp only [pushItem, print, List.map_cons, List.map_nil, printValueFmt, printObjectFmt, tabs,
    List.length_append, List.length_cons, List.length_nil, List.length_replicate, length_printStringPtr,
    hnames]
  omega

/-! ## What is pushed -/

theorem scanTime_clippedTime_iff (t : TimeMembers) :
    scanTime (clippedTime t) = t.toList ↔ timeLength t < 64 :=
  (scanTime_take_iff t (Nat.le_refl 63) (clippedTime t) rfl).trans Nat.lt_succ_iff.symm

theorem hasTime_of_getObjectItem {data : CJsonItem} {name : String} {text : CString} {t : TimeMembers}
    (h : data.getObjectItem name = some (.string text)) :
    HasTime data name t ↔ scanTime text = t.toList := by
  constructor
  · intro ⟨text', htext', hscan⟩
    obtain rfl := string.inj (Option.some.inj (h.symm.trans htext'))
    exact hscan
  · exact fun hscan => ⟨text, h, hscan⟩

theorem getObjectItem_cmd (cmd : String) (data : List (String × CJsonItem)) :
    (pushItem cmd data).getObjectItem "cmd" = some (.string (literal cmd)) := rfl

theorem getObjectItem_data (cmd : String) (data : List (String × CJsonItem)) :
    (pushItem cmd data).getObjectItem "data" =
      some (.object (data.map fun m => (literal m.1, m.2))) := rfl

/-- A member of the data is found by its place. -/
theorem getObjectItem_member {data : List (String × CJsonItem)} (names : List String) (i : ℕ)
    (name : String) (hnames : data.map Prod.fst = names) (hname : CJson.NameAt names i (ascii name))
    {s : String} {item : CJsonItem} (hm : data[i]? = some (s, item)) :
    (CJsonItem.object (data.map fun m => (literal m.1, m.2))).getObjectItem name = some item := by
  rw [CJsonItem.getObjectItem, List.find?_map, Option.map_map]
  exact congrArg (Option.map _) (CJson.find?_of_nameAt names i hnames hname hm)

variable {float : List UInt8 → CJsonItem}

theorem carried_turnInRate (count : Int32) (entranceInfo : DeviceEntrance) (time : CString) :
    (PushMsg.turnInRate count entranceInfo).Carried (pushItem "pushdeviceentrances"
      [("plateno", .string entranceInfo.plateNo.str),
        ("cartype", .string (vehicleLabel entranceInfo.vehicleType)), ("time", .string time),
        ("refueno", .number count.toInt)]) ↔ scanTime time = entranceInfo.vehicleStart.toList := by
  simp only [PushMsg.Carried, getObjectItem_cmd, getObjectItem_data, true_and, Option.some.injEq,
    exists_eq_left']
  let names := ["plateno", "cartype", "time", "refueno"]
  rw [hasTime_of_getObjectItem (getObjectItem_member names 2 "time" rfl (by decide) rfl),
    getObjectItem_member names 0 "plateno" rfl (by decide) rfl,
    getObjectItem_member names 1 "cartype" rfl (by decide) rfl,
    getObjectItem_member names 3 "refueno" rfl (by decide) rfl]
  exact ⟨fun h => h.2.2.1, fun h => ⟨rfl, rfl, h, rfl⟩⟩

theorem carried_highTemp (info : DeviceAlarm) (time : CString) :
    (PushMsg.highTemp info).Carried (pushItem "pushalarmmessage"
      [("alarmtype", .number (alarmNumber info.alarmType)), ("time", .string time),
        ("place", .string info.alarmPlace.str)]) ↔ scanTime time = info.time.toList := by
  simp only [PushMsg.Carried, getObjectItem_cmd, getObjectItem_data, true_and, Option.some.injEq,
    exists_eq_left']
  let names := ["alarmtype", "time", "place"]
  rw [hasTime_of_getObjectItem (getObjectItem_member names 1 "time" rfl (by decide) rfl),
    getObjectItem_member names 0 "alarmtype" rfl (by decide) rfl,
    getObjectItem_member names 2 "place" rfl (by decide) rfl]
  exact ⟨fun h => h.2.1, fun h => ⟨rfl, h, rfl⟩⟩

theorem pushed_turnInRate (count : Int32) (entranceInfo : DeviceEntrance) :
    (PushMsg.turnInRate count entranceInfo).Pushed float ↔
      (PushMsg.turnInRate count entranceInfo).Fits := by
  have hexact : ∀ plateNo time, Exact (pushItem "pushdeviceentrances" [("plateno", .string plateNo),
      ("cartype", .string (vehicleLabel entranceInfo.vehicleType)), ("time", .string time),
      ("refueno", .number count.toInt)]) := by
    intro plateNo time
    refine exact_pushItem ?_
    simp only [List.forall_mem_cons, List.not_mem_nil, false_imp_iff, implies_true, and_true]
    exact ⟨.string _, .string _, .string _, .number (fitsInt_toInt count)⟩
  rw [PushMsg.Pushed, PushMsg.sendMsg, ends_bind]
  simp only [ends_bind]
  rw [ends_cartype, jsonMapPushDeviceEntrancesMake, ends_bind, ends_read, timeBuffer_eq, ends_bind, ends_ok,
    ends_copyPrinted (hexact _ _), carried_turnInRate, length_deviceEntrances, escapedLength_vehicleLabel,
    escapedLength_clippedTime, scanTime_clippedTime_iff, PushMsg.Fits]
  refine and_congr_right fun _ => ?_
  omega

theorem pushed_highTemp (info : DeviceAlarm) :
    (PushMsg.highTemp info).Pushed float ↔ (PushMsg.highTemp info).Fits := by
  have hfits : FitsInt (alarmNumber info.alarmType) := by
    cases info.alarmType <;> exact ⟨by decide, by decide⟩
  have hexact : ∀ time place, Exact (pushItem "pushalarmmessage"
      [("alarmtype", .number (alarmNumber info.alarmType)), ("time", .string time),
        ("place", .string place)]) := by
    intro time place
    refine exact_pushItem ?_
    simp only [List.forall_mem_cons, List.not_mem_nil, false_imp_iff, implies_true, and_true]
    exact ⟨.number hfits, .string _, .string _⟩
  rw [PushMsg.Pushed, PushMsg.sendMsg, jsonMapPushAlarmMake, timeBuffer_eq, ends_bind, ends_ok, ends_bind,
    ends_read, ends_copyPrinted (hexact _ _), carried_highTemp, length_alarmMessage,
    escapedLength_clippedTime, scanTime_clippedTime_iff, PushMsg.Fits]
  refine and_congr_right fun _ => ?_
  omega

theorem pushed_rateProgress (frontageTotal entranceTotal : Int32) :
    (PushMsg.rateProgress frontageTotal entranceTotal).Pushed float := by
  have hexact : Exact (pushItem "getentrancevehiclessum" [("passingcount", .number frontageTotal.toInt),
      ("incominfcount", .number entranceTotal.toInt)]) := by
    refine exact_pushItem ?_
    simp only [List.forall_mem_cons, List.not_mem_nil, false_imp_iff, implies_true, and_true]
    exact ⟨.number (fitsInt_toInt frontageTotal), .number (fitsInt_toInt entranceTotal)⟩
  rw [PushMsg.Pushed, PushMsg.sendMsg, jsonMapPushDeviceRateProgressMake, ends_copyPrinted hexact]
  let names := ["passingcount", "incominfcount"]
  exact ⟨length_vehiclesSum_lt frontageTotal entranceTotal, rfl, _, rfl,
    getObjectItem_member names 0 "passingcount" rfl (by decide) rfl,
    getObjectItem_member names 1 "incominfcount" rfl (by decide) rfl⟩

/-- **A message is pushed inside its buffer, with a NUL, and parses back to its record**, exactly if the
    texts of the record are terminated, its time fits 64 bytes, and what the printer makes of all of it
    fits 512. -/
theorem pushed_iff (float : List UInt8 → CJsonItem) (m : PushMsg) : m.Pushed float ↔ m.Fits := by
  cases m with
  | turnInRate count entranceInfo => exact pushed_turnInRate count entranceInfo
  | rateProgress frontageTotal entranceTotal =>
      exact iff_of_true (pushed_rateProgress frontageTotal entranceTotal) trivial
  | highTemp info => exact pushed_highTemp info

/-- A place of 127 control characters, each of which is printed as six bytes. -/
def controlPlace : DeviceAlarm where
  alarmType := .smoke
  alarmPlace := ⟨List.replicate 127 1 ++ [0], rfl⟩
  time := ⟨2024, 5, 6, 10, 0, 0⟩

theorem control_place_overflows : ¬ (PushMsg.highTemp controlPlace).Pushed (fun _ => .null) := by
  intro h
  have hlen := ((pushed_highTemp controlPlace).1 h).2.2
  exact absurd hlen (by decide +kernel)

end SmartPlat.MqttAPI
