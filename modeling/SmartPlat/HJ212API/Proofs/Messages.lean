import SmartPlat.HJ212API.Hj212api
import Mathlib.Tactic.FinCases

set_option autoImplicit false

/-! # What a message shows

The cells are written one after another; a wind direction is looked up behind its speed. Of a heading from 348 to 10 the
direction of an earlier message is left. -/

namespace SmartPlat.HJ212API

open SmartPlat.Lib SmartPlat.MqttAPI SmartPlat.VehicleDataAnalysis

variable {calm : CString → Bool} {date date' : Date} {msg msg' : CString} {i : Fin 5} {g p : List UInt8} {n : ℤ}

/-! ## One cell -/

theorem cells_update (date : Date) (i : Fin 5) (s : CharArray 23) :
    Date.cells (Function.update date i s) = Function.update date.cells i s.str := by
  funext j
  by_cases hj : j = i
  · rw [hj, Date.cells, Function.update_self, Function.update_self]
  · rw [Date.cells, Function.update_of_ne hj, Function.update_of_ne hj, Date.cells]

theorem date_ext (h : date.cells = date'.cells) : date = date' :=
  funext fun i => CharArray.ext_str (congrFun h i)

theorem write_spec (date : Date) (i : Fin 5) (hnul : 0 ∉ g) (h : g.length < 24) :
    ∃ date', write date i g = .ok date' ∧ date'.cells = Function.update date.cells i (.ofBuffer g) := by
  have hroom : (CString.ofBuffer g).strlen ≤ 23 := by
    rw [strlen_ofBuffer hnul]
    omega
  have hwrite : sprintf 23 (.ofBuffer g) = .ok ⟨.ofBuffer g, hroom⟩ := dif_pos hroom
  rw [write, hwrite]
  exact ⟨_, rfl, cells_update _ _ _⟩

theorem length_of_write (hnul : 0 ∉ g) (h : write date i g = .ok date') : g.length < 24 := by
  by_contra hlong
  have hfull : sprintf 23 (.ofBuffer g) = .error .badAccess := by
    refine dif_neg ?_
    rw [strlen_ofBuffer hnul]
    omega
  rw [write, hfull] at h
  cases h

theorem windName_short {name : String} (h : windName n = some name) : 0 ∉ utf8 name ∧ (utf8 name).length < 24 := by
  unfold windName at h
  split_ifs at h <;> cases h <;> decide

/-- From 348 degrees to 10 there is no name. -/
theorem windName_eq_none_iff : windName n = none ↔ ¬ (11 ≤ n ∧ n < 348) := by
  unfold windName
  split_ifs <;> simp only [false_iff, true_iff] <;> omega

theorem confirmWindDirection_spec (date : Date) (n : ℤ) :
    ∃ date', confirmWindDirection calm date n 4 = .ok date' ∧
      date'.cells = Function.update date.cells 4 (wind calm (date.cells 3) (date.cells 4) n) := by
  have hnamed : ∃ date₁, ((windName n).elim (.ok date) fun name => write date 4 (utf8 name)) = .ok date₁ ∧
      date₁.cells = Function.update date.cells 4 ((windName n).elim (date.cells 4) fun name => .ofBuffer (utf8 name)) := by
    cases hname : windName n with
    | none => exact ⟨date, rfl, (Function.update_eq_self 4 date.cells).symm⟩
    | some name => exact write_spec date 4 (windName_short hname).1 (windName_short hname).2
  obtain ⟨date₁, hwrite, hcells⟩ := hnamed
  have hrate : (date₁ 3).str = date.cells 3 := by
    change date₁.cells 3 = date.cells 3
    rw [hcells, Function.update_of_ne (by decide)]
  rw [confirmWindDirection, hwrite]
  simp only [bind, Except.bind, hrate, wind]
  by_cases hcalm : calm (date.cells 3) = true
  · rw [if_pos hcalm, if_pos hcalm]
    obtain ⟨date₂, hcalmed, hcells₂⟩ :=
      write_spec (g := utf8 "静风") date₁ 4 (by decide) (by decide)
    exact ⟨date₂, hcalmed, by rw [hcells₂, hcells, Function.update_idem]⟩
  · rw [if_neg hcalm, if_neg hcalm]
    exact ⟨date₁, rfl, hcells⟩

/-! ## One round -/

/-- Every reading but the last is written with its unit. -/
theorem dealDate_eq (hi : i ≠ 4) (string : CString) :
    dealDate calm date string i = write date i (string.bytes ++ unit i) := by
  fin_cases i
  · rfl
  · rfl
  · rfl
  · rfl
  · exact absurd rfl hi

theorem zero_notMem_unit (hnul : 0 ∉ g) (i : Fin 5) : 0 ∉ g ++ unit i := by
  have hunit : ∀ j : Fin 5, 0 ∉ unit j := by decide
  rw [List.mem_append, not_or]
  exact ⟨hnul, hunit i⟩

theorem dealDate_spec (hnul : 0 ∉ g) (hreading : readingOf msg i = some g) (h : g.length + (unit i).length < 24) :
    ∃ date', dealDate calm date (.ofBuffer g) i = .ok date' ∧
      date'.cells = Function.update date.cells i (cellFor calm msg date.cells i) := by
  by_cases hi : i = 4
  · rw [hi] at hreading ⊢
    have hroom : (CString.ofBuffer g).strlen ≤ 23 := by
      rw [strlen_ofBuffer hnul]
      omega
    have hvalue : sprintf 23 (.ofBuffer g) = .ok ⟨.ofBuffer g, hroom⟩ := dif_pos hroom
    rw [dealDate, hvalue, cellFor, if_pos rfl, hreading]
    simp only [bind, Except.bind, CString.bytes_ofBuffer hnul]
    exact confirmWindDirection_spec date (atoi g)
  · rw [dealDate_eq hi, CString.bytes_ofBuffer hnul, cellFor, if_neg hi, measured, hreading]
    exact write_spec date i (zero_notMem_unit hnul i) (by rwa [List.length_append])

/-- Where a reading is. -/
theorem exists_of_readingOf (h : readingOf msg i = some g) :
    ∃ p b s, strstr (objectName i) msg.bytes = some p ∧ p.drop (objectName i).length = b :: (g ++ 44 :: s) ∧ 44 ∉ g := by
  cases hp : strstr (objectName i) msg.bytes with
  | none =>
      rw [readingOf, hp] at h
      cases h
  | some p =>
      rw [readingOf, hp] at h
      simp only [← List.drop_drop] at h
      cases hrest : p.drop (objectName i).length with
      | nil =>
          rw [hrest] at h
          cases h
      | cons b rest =>
          rw [hrest, List.drop_succ_cons, List.drop_zero] at h
          by_cases hcomma : 44 ∈ rest
          · obtain ⟨f, s, rfl, hf⟩ := List.eq_append_cons_of_mem hcomma
            have hfield : (f ++ 44 :: s).takeWhile (· ≠ 44) = f := by
              have hpos : ∀ b ∈ f, decide (b ≠ 44) = true := fun b hb => decide_eq_true fun heq => hf (heq ▸ hb)
              rw [List.takeWhile_append_of_pos hpos, List.takeWhile_cons_of_neg (by decide), List.append_nil]
            rw [if_pos hcomma, hfield] at h
            obtain rfl := Option.some.inj h
            exact ⟨p, b, s, rfl, hrest, hf⟩
          · rw [if_neg hcomma] at h
            cases h

theorem zero_notMem_readingOf (h : readingOf msg i = some g) : 0 ∉ g := by
  obtain ⟨p, b, s, hp, hrest, -⟩ := exists_of_readingOf h
  obtain ⟨k, -, -, rfl⟩ := strstr_eq_some_iff.1 hp
  intro hmem
  have hbehind : 0 ∈ (msg.bytes.drop k).drop (objectName i).length := by
    rw [hrest]
    exact List.mem_cons_of_mem _ (List.mem_append_left _ hmem)
  exact msg.noNul (List.mem_of_mem_drop (List.mem_of_mem_drop hbehind))

theorem deal_absent (calm : CString → Bool) (date : Date) (h : ¬ objectName i <:+: msg.bytes) : deal calm msg date i = .ok date ∧ readingOf msg i = none := by
  have hnone := strstr_eq_none_iff.2 h
  rw [deal, readingOf, hnone]
  exact ⟨rfl, rfl⟩

/-- A name without a text behind it that a comma ends is a fault. -/
theorem deal_cut (h : objectName i <:+: msg.bytes) (hnone : readingOf msg i = none) :
    deal calm msg date i = .error .badAccess := by
  cases hp : strstr (objectName i) msg.bytes with
  | none => exact absurd h (strstr_eq_none_iff.1 hp)
  | some p =>
      rw [readingOf, hp] at hnone
      simp only [ite_eq_right_iff, reduceCtorEq, imp_false] at hnone
      rw [deal, hp]
      simp only
      cases hrest : p.drop (objectName i).length with
      | nil => rfl
      | cons b rest =>
          rw [← List.drop_drop, hrest, List.drop_succ_cons, List.drop_zero] at hnone
          simp only [strstr_comma_none.2 hnone]

theorem deal_reading (h : readingOf msg i = some g) :
    deal calm msg date i = (sprintf 23 (.ofBuffer g)).bind fun value => dealDate calm date value.str i := by
  obtain ⟨p, b, s, hp, hrest, hcomma⟩ := exists_of_readingOf h
  simp only [deal, hp, hrest, strstr_comma hcomma, fieldAt_eq]
  rfl

theorem deal_spec (calm : CString → Bool) (date : Date) (h : Readable msg i) :
    ∃ date', deal calm msg date i = .ok date' ∧
      date'.cells = Function.update date.cells i (cellFor calm msg date.cells i) := by
  by_cases hname : objectName i <:+: msg.bytes
  · obtain ⟨g, hreading, hlen⟩ := h hname
    have hnul := zero_notMem_readingOf hreading
    have hroom : (CString.ofBuffer g).strlen ≤ 23 := by
      rw [strlen_ofBuffer hnul]
      omega
    have hvalue : sprintf 23 (.ofBuffer g) = .ok ⟨.ofBuffer g, hroom⟩ := dif_pos hroom
    rw [deal_reading hreading, hvalue]
    exact dealDate_spec hnul hreading hlen
  · obtain ⟨hdeal, hnone⟩ := deal_absent calm date hname
    have hkept : cellFor calm msg date.cells i = date.cells i := by
      rw [cellFor, measured, hnone]
      split
      · next hi => rw [hi] at hnone ⊢; rw [hnone]; rfl
      · rfl
    exact ⟨date, hdeal, by rw [hkept, Function.update_eq_self]⟩

theorem length_of_dealDate {value : CharArray 23} (hnul : 0 ∉ g) (hvalue : value.str = .ofBuffer g)
    (h : dealDate calm date value.str i = .ok date') : g.length + (unit i).length < 24 := by
  by_cases hi : i = 4
  · have hfits := value.fits
    rw [hvalue, strlen_ofBuffer hnul] at hfits
    rw [hi]
    exact Nat.lt_succ_of_le hfits
  · rw [dealDate_eq hi, hvalue, CString.bytes_ofBuffer hnul] at h
    rw [← List.length_append]
    exact length_of_write (zero_notMem_unit hnul i) h

theorem readable_of_deal (h : deal calm msg date i = .ok date') : Readable msg i := by
  intro hname
  cases hreading : readingOf msg i with
  | none =>
      rw [deal_cut hname hreading] at h
      cases h
  | some g =>
      rw [deal_reading hreading] at h
      obtain ⟨value, hvalue, hdeal⟩ := bind_eq_ok_iff.1 h
      exact ⟨g, rfl, length_of_dealDate (zero_notMem_readingOf hreading) (sprintf_eq_ok_iff.1 hvalue) hdeal⟩

/-! ## All of them -/

/-- The cells after the rounds for `l`. -/
def dealt (calm : CString → Bool) (msg : CString) (l : List (Fin 5)) (cells : Cells) : Cells :=
  l.foldl (fun cells i => Function.update cells i (cellFor calm msg cells i)) cells

theorem deals_spec (calm : CString → Bool) (date : Date) {l : List (Fin 5)} (h : ∀ i ∈ l, Readable msg i) :
    ∃ date', l.foldlM (deal calm msg) date = .ok date' ∧ date'.cells = dealt calm msg l date.cells := by
  induction l generalizing date with
  | nil => exact ⟨date, rfl, rfl⟩
  | cons i l ih =>
      obtain ⟨hi, hl⟩ := List.forall_mem_cons.1 h
      obtain ⟨date₁, hdeal, hcells⟩ := deal_spec calm date hi
      obtain ⟨date', hdeals, hcells'⟩ := ih date₁ hl
      refine ⟨date', ?_, ?_⟩
      · rw [List.foldlM_cons, hdeal]
        exact hdeals
      · rw [hcells', hcells]
        rfl

theorem readable_of_deals {l : List (Fin 5)} (h : l.foldlM (deal calm msg) date = .ok date') :
    ∀ i ∈ l, Readable msg i := by
  induction l generalizing date with
  | nil => exact fun i hi => absurd hi List.not_mem_nil
  | cons i l ih =>
      rw [List.foldlM_cons] at h
      obtain ⟨date₁, hdeal, hdeals⟩ := bind_eq_ok_iff.1 h
      exact List.forall_mem_cons.2 ⟨readable_of_deal hdeal, ih hdeals⟩

/-- The rounds are in an order in which the wind direction finds the speed of its message. -/
theorem dealt_eq (cells : Cells) : dealt calm msg (List.finRange 5) cells = shown calm msg cells := by
  have hfive : List.finRange 5 = [0, 1, 2, 3, 4] := rfl
  rw [dealt, hfive]
  simp only [List.foldl_cons, List.foldl_nil]
  funext i
  fin_cases i <;> simp [shown, cellFor, measured, Function.update]

/-! ## What is published -/

theorem length_realdata (date : Date) : (realdata date).printUnformatted.strlen =
    109 + ((List.finRange 5).map fun i => CJsonItem.escapedLength (date.cells i)).sum := by
  have hnames : CJsonItem.escapedLength (literal "cmd") = 3 ∧
      CJsonItem.escapedLength (literal "pushhj212realdata") = 17 ∧ CJsonItem.escapedLength (literal "data") = 4 ∧
      CJsonItem.escapedLength (literal "temperature") = 11 ∧ CJsonItem.escapedLength (literal "humidity") = 8 ∧
      CJsonItem.escapedLength (literal "Atmospheric") = 11 ∧ CJsonItem.escapedLength (literal "rate") = 4 ∧
      CJsonItem.escapedLength (literal "direction") = 9 := by
    decide
  have hfive : List.finRange 5 = [0, 1, 2, 3, 4] := rfl
  simp only [CString.strlen, realdata, CJsonItem.printUnformatted, hfive, List.map_cons, List.map_nil,
    CJsonItem.printValue, CJsonItem.printObject, List.length_append, List.length_cons, List.length_nil,
    CJsonItem.length_printStringPtr, hnames, List.sum_cons, List.sum_nil]
  simp only [Date.cells]
  omega

/-- **A message** is taken if its readings can be read and fit, and what is published does; then its readings are
    shown. -/
theorem hj212RealDataPars_eq_ok_iff {r : Date × CString} : hj212RealDataPars calm date msg = .ok r ↔
    (∀ i, Readable msg i) ∧ (shown calm msg date.cells).Small ∧ r.1.cells = shown calm msg date.cells ∧
      r.2 = (realdata r.1).printUnformatted := by
  have hpublished (date : Date) (P : CString → Prop) :
      (Ends (jsonMapPushHJ212RealDataMake date (.zeros 256)) fun msg => Ends msg.read P) ↔
        date.cells.Small ∧ P (realdata date).printUnformatted := by
    rw [jsonMapPushHJ212RealDataMake, ends_copied, Cells.Small, length_realdata]
  constructor
  · intro h
    rw [hj212RealDataPars] at h
    obtain ⟨date', hdeals, h⟩ := bind_eq_ok_iff.1 h
    obtain ⟨sendMsg, hmake, h⟩ := bind_eq_ok_iff.1 h
    obtain ⟨text, hread, h⟩ := bind_eq_ok_iff.1 h
    cases h
    have hreadable (i : Fin 5) : Readable msg i := readable_of_deals hdeals i (List.mem_finRange i)
    obtain ⟨date₁, hdeals₁, hcells⟩ := deals_spec calm date fun i _ => hreadable i
    cases hdeals.symm.trans hdeals₁
    rw [dealt_eq] at hcells
    obtain ⟨hsmall, htext⟩ := (hpublished date' (· = text)).1 ⟨sendMsg, hmake, text, hread, rfl⟩
    exact ⟨hreadable, hcells ▸ hsmall, hcells, htext.symm⟩
  · rintro ⟨hreadable, hsmall, hcells, htext⟩
    obtain ⟨date₁, hdeals, hcells₁⟩ := deals_spec calm date (l := List.finRange 5)
      fun i _ => hreadable i
    rw [dealt_eq, ← hcells] at hcells₁
    obtain rfl := date_ext hcells₁
    rw [← hcells] at hsmall
    obtain ⟨sendMsg, hmake, text, hread, hsame⟩ := (hpublished r.1 (· = r.2)).2 ⟨hsmall, htext.symm⟩
    simp only [hj212RealDataPars, hdeals, hmake, hread, hsame, bind, Except.bind]
    rfl

theorem taken_iff : (∃ r, hj212RealDataPars calm date msg = .ok r) ↔
    (∀ i, Readable msg i) ∧ (shown calm msg date.cells).Small := by
  constructor
  · rintro ⟨r, hr⟩
    obtain ⟨hreadable, hsmall, -⟩ := hj212RealDataPars_eq_ok_iff.1 hr
    exact ⟨hreadable, hsmall⟩
  · rintro ⟨hreadable, hsmall⟩
    obtain ⟨date', -, hcells⟩ := deals_spec calm date (l := List.finRange 5) fun i _ => hreadable i
    rw [dealt_eq] at hcells
    exact ⟨(date', (realdata date').printUnformatted),
      hj212RealDataPars_eq_ok_iff.2 ⟨hreadable, hsmall, hcells, rfl⟩⟩

/-! ## Two runs -/

/-- With all readings and a name for the heading, nothing is left of what was shown. -/
theorem shown_congr (hcomplete : Complete msg) (hnamed : HeadingNamed calm msg)
    (hsame : ∀ i, readingOf msg' i = readingOf msg i) (cells cells' : Cells) :
    shown calm msg' cells' = shown calm msg cells := by
  have hmeasured (i : Fin 5) : measured msg' cells' i = measured msg cells i := by
    obtain ⟨g, hg⟩ := Option.isSome_iff_exists.1 (hcomplete i)
    rw [measured, measured, hsame, hg]
    rfl
  obtain ⟨rate, hrate⟩ := Option.isSome_iff_exists.1 (hcomplete 3)
  obtain ⟨heading, hheading⟩ := Option.isSome_iff_exists.1 (hcomplete 4)
  have hwind : wind calm (measured msg cells 3) (cells' 4) (atoi heading) =
      wind calm (measured msg cells 3) (cells 4) (atoi heading) := by
    rw [wind, wind]
    rcases hnamed rate heading hrate hheading with hcalm | hrange
    · have hcalmed : calm (measured msg cells 3) = true := by
        rw [measured, hrate]
        exact hcalm
      rw [if_pos hcalmed, if_pos hcalmed]
    · obtain ⟨name, hname⟩ := Option.ne_none_iff_exists'.1 fun hnone => windName_eq_none_iff.1 hnone hrange
      rw [hname]
      rfl
  funext i
  rw [shown, shown, hmeasured, hmeasured, hsame, hheading]
  split
  · exact hwind
  · rfl

/-- A heading without a name shows what was there. -/
theorem shown_kept {rate heading : List UInt8} (hrate : readingOf msg 3 = some rate)
    (hheading : readingOf msg 4 = some heading) (hcalm : ¬ calm (.ofBuffer (rate ++ utf8 "m/s")) = true)
    (hrange : ¬ (11 ≤ atoi heading ∧ atoi heading < 348)) (cells : Cells) : shown calm msg cells 4 = cells 4 := by
  have hrated : measured msg cells 3 = .ofBuffer (rate ++ utf8 "m/s") := by
    rw [measured, hrate]
    rfl
  rw [shown, if_pos rfl, hheading]
  change wind calm (measured msg cells 3) (cells 4) (atoi heading) = cells 4
  rw [wind, hrated, if_neg hcalm, windName_eq_none_iff.2 hrange]
  rfl

theorem readable_congr (hcomplete : Complete msg) (hsame : readingOf msg' i = readingOf msg i)
    (h : Readable msg i) : Readable msg' i := by
  intro _
  rw [hsame]
  obtain ⟨g, hg⟩ := Option.isSome_iff_exists.1 (hcomplete i)
  refine h ?_
  by_contra habsent
  cases (deal_absent (fun _ => false) objectDate habsent).2.symm.trans hg

/-- A first message that has a heading only. -/
theorem reachable_turned (calm : CString → Bool) :
    ∃ date, Reachable calm date ∧ date.cells 4 ≠ objectDate.cells 4 := by
  let msg := literal "a01008-Rtd=20,"
  have hread : readingOf msg 4 = some (ascii "20") ∧ ∀ i, i ≠ 4 → strstr (objectName i) msg.bytes = none := by
    decide
  have hreadable (i : Fin 5) : Readable msg i := by
    intro hname
    by_cases hi : i = 4
    · rw [hi]
      exact ⟨_, hread.1, by decide⟩
    · exact absurd hname (strstr_eq_none_iff.1 (hread.2 i hi))
  have hcells : shown calm msg objectDate.cells = Function.update objectDate.cells 4
      (wind calm (objectDate.cells 3) (objectDate.cells 4) 20) := by
    have hkept (i : Fin 5) (hi : i ≠ 4) : measured msg objectDate.cells i = objectDate.cells i := by
      rw [measured, readingOf, hread.2 i hi]
      rfl
    funext i
    rw [shown, hread.1, hkept 3 (by decide)]
    split
    · next hi =>
        rw [hi, Function.update_self]
        rfl
    · next hi => rw [hkept i hi, Function.update_of_ne hi]
  have hturned : (shown calm msg objectDate.cells).Small ∧
      shown calm msg objectDate.cells 4 ≠ objectDate.cells 4 := by
    rw [hcells, wind]
    split
    · decide
    · decide
  obtain ⟨⟨date, text⟩, hpars⟩ := taken_iff.2 ⟨hreadable, hturned.1⟩
  have hshown := (hj212RealDataPars_eq_ok_iff.1 hpars).2.2.1
  refine ⟨date, .next .start hpars, ?_⟩
  rw [hshown]
  exact hturned.2

/-- The direction is what it was, in one run and in any other. -/
theorem not_independent {rate heading : List UInt8} (htaken : ∃ r, hj212RealDataPars calm date msg = .ok r)
    (hrate : readingOf msg 3 = some rate) (hheading : readingOf msg 4 = some heading)
    (hcalm : ¬ calm (.ofBuffer (rate ++ utf8 "m/s")) = true)
    (hrange : ¬ (11 ≤ atoi heading ∧ atoi heading < 348)) : ¬ Independent calm date msg := by
  intro hindependent
  obtain ⟨r, hr⟩ := htaken
  have hkept := shown_kept hrate hheading hcalm hrange
  have hold (date' : Date) (hreach : Reachable calm date') : date'.cells 4 = date.cells 4 := by
    have hsame := hindependent date' msg hreach fun _ => rfl
    rw [hr] at hsame
    rw [← hkept date'.cells, ← (hj212RealDataPars_eq_ok_iff.1 hsame).2.2.1,
      (hj212RealDataPars_eq_ok_iff.1 hr).2.2.1, hkept]
  obtain ⟨turned, hreach, hturned⟩ := reachable_turned calm
  exact hturned ((hold turned hreach).trans (hold objectDate .start).symm)

/-- **A message is handled** exactly if its readings can be read and fit, what is published fits, and a message with all
    readings has a heading from 11 to 347 degrees or a calm. -/
theorem handled_iff (calm : CString → Bool) (date : Date) (msg : CString) :
    Handled calm date msg ↔ MessageFits calm date msg := by
  rw [Handled, taken_iff, MessageFits, and_assoc]
  refine and_congr_right fun hreadable => and_congr_right fun hsmall => forall_congr' fun hcomplete => ?_
  have htaken := taken_iff.2 ⟨hreadable, hsmall⟩
  constructor
  · intro hindependent rate heading hrate hheading
    by_contra hgap
    rw [not_or] at hgap
    exact not_independent htaken hrate hheading hgap.1 hgap.2 hindependent
  · intro hnamed date' msg' _ hsame
    obtain ⟨r, hr⟩ := htaken
    obtain ⟨-, -, hshown, htext⟩ := hj212RealDataPars_eq_ok_iff.1 hr
    have hcongr := shown_congr hcomplete hnamed hsame date.cells date'.cells
    rw [hr]
    refine hj212RealDataPars_eq_ok_iff.2 ⟨fun i => readable_congr hcomplete (hsame i) (hreadable i), ?_, ?_, htext⟩
    · rwa [hcongr]
    · rw [hcongr, hshown]

/-- With a wind of 5 m/s from 350 degrees, the direction of an earlier message is shown. -/
theorem north_wind_stale : ¬ ∀ calm date msg, Handled calm date msg := by
  intro hall
  let msg := literal "a01001-Rtd=1,a01002-Rtd=2,a01006-Rtd=3,a01007-Rtd=5,a01008-Rtd=350,"
  have hreadings : readingOf msg 3 = some (ascii "5") ∧ readingOf msg 4 = some (ascii "350") ∧
      ∀ i, (readingOf msg i).isSome := by
    decide
  obtain ⟨htaken, hindependent⟩ := hall (fun rate => rate = .ofBuffer (utf8 "0.1m/s")) objectDate msg
  exact not_independent htaken hreadings.1 hreadings.2.1 (by decide) (by decide) (hindependent hreadings.2.2)

end SmartPlat.HJ212API
