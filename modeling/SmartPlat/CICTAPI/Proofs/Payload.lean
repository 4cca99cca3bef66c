import SmartPlat.CICTAPI.Proofs.Readings

set_option autoImplicit false

/-! # Which payloads are decoded -/

namespace SmartPlat.CICTAPI

open SmartPlat.Lib SmartPlat.MqttAPI

variable {electpar : Electpar} {msgBuf : CString} {s t v : List UInt8} {c c' : Cursor} {cells : Cells} {i : Fin 4}
  {k m : ℕ} {pairs : List (List UInt8 × List UInt8)} {pair : List UInt8 × List UInt8} {P : Electpar → Prop}

/-! ## Rounds -/

/-- The loop ends with readings of that kind. -/
def EndsIn (c : Cursor) (P : Electpar → Prop) : Prop := ∃ fuel electpar, rounds fuel c = .ok electpar ∧ P electpar

theorem endsIn_next (h : round c = .ok (some c')) : EndsIn c P ↔ EndsIn c' P := by
  constructor
  · rintro ⟨fuel, electpar, hrun, hP⟩
    cases fuel with
    | zero => cases hrun
    | succ fuel =>
        rw [rounds, h] at hrun
        exact ⟨fuel, electpar, hrun, hP⟩
  · rintro ⟨fuel, electpar, hrun, hP⟩
    refine ⟨fuel + 1, electpar, ?_, hP⟩
    rw [rounds, h]
    exact hrun

theorem endsIn_last (h : round c = .ok none) : EndsIn c P ↔ P c.electpar := by
  constructor
  · rintro ⟨fuel, electpar, hrun, hP⟩
    cases fuel with
    | zero => cases hrun
    | succ fuel =>
        rw [rounds, h] at hrun
        cases hrun
        exact hP
  · intro hP
    refine ⟨1, c.electpar, ?_, hP⟩
    rw [rounds, h]
    rfl

theorem not_endsIn {e : Fault} (h : round c = .error e) : ¬ EndsIn c P := by
  rintro ⟨fuel, electpar, hrun, -⟩
  cases fuel with
  | zero => cases hrun
  | succ fuel =>
      rw [rounds, h] at hrun
      cases hrun

/-- A round takes the first pair. -/
theorem pairsDecoded_next (h : round c = .ok (some c')) :
    PairsDecoded c (pair :: pairs) ↔
      c'.electpar.cells = measured c.electpar.cells pair ∧ PairsDecoded c' pairs := by
  have hafter (k : ℕ) : after (k + 1) c = after k c' := by rw [after, h]
  constructor
  · intro hdecoded
    constructor
    · obtain ⟨c₁, c₂, h₁, h₂, hcells⟩ := hdecoded 0 pair rfl
      rw [hafter] at h₂
      cases h₁
      cases h₂
      exact hcells
    · intro k pair' hpair
      obtain ⟨c₁, c₂, h₁, h₂, hcells⟩ := hdecoded (k + 1) pair' hpair
      rw [hafter] at h₁ h₂
      exact ⟨c₁, c₂, h₁, h₂, hcells⟩
  · rintro ⟨hcells, hdecoded⟩ k pair' hpair
    cases k with
    | zero =>
        cases hpair
        exact ⟨c, c', rfl, hafter 0, hcells⟩
    | succ k =>
        obtain ⟨c₁, c₂, h₁, h₂, hcells⟩ := hdecoded k pair' hpair
        exact ⟨c₁, c₂, (hafter k).trans h₁, (hafter (k + 1)).trans h₂, hcells⟩

/-- Behind the end of the loop nothing changes. -/
theorem pairsDecoded_last (h : round c = .ok none) :
    PairsDecoded c pairs ↔ ∀ pair ∈ pairs, measured c.electpar.cells pair = c.electpar.cells := by
  have hafter (k : ℕ) : after k c = .ok c := by
    cases k with
    | zero => rfl
    | succ k => rw [after, h]
  constructor
  · intro hdecoded pair hpair
    obtain ⟨k, hk⟩ := List.getElem?_of_mem hpair
    obtain ⟨c₁, c₂, h₁, h₂, hcells⟩ := hdecoded k pair hk
    cases (hafter k).symm.trans h₁
    cases (hafter (k + 1)).symm.trans h₂
    exact hcells.symm
  · intro hsame k pair hk
    exact ⟨c, c, hafter k, hafter (k + 1), (hsame pair (List.mem_of_getElem? hk)).symm⟩

theorem fits_zero_iff : Fits 0 cells i pairs ↔ ∀ pair ∈ pairs, measured cells pair = cells := by
  induction pairs with
  | nil => exact iff_of_true trivial fun _ h => absurd h List.not_mem_nil
  | cons pair pairs ih => rw [Fits, ih, List.forall_mem_cons]

theorem foldl_same (h : ∀ pair ∈ pairs, measured cells pair = cells) : pairs.foldl measured cells = cells := by
  induction pairs with
  | nil => rfl
  | cons pair pairs ih =>
      obtain ⟨hpair, hrest⟩ := List.forall_mem_cons.1 h
      rw [List.foldl_cons, hpair, ih hrest]

/-! ## The loop -/

/-- **The loop on the fields** of what is left of the text; `pairs` are cut off and not there any more. -/
theorem loop_iff (electpar : Electpar) (i : Fin 4) (hs : 0 ∉ s) (pairs : List (List UInt8 × List UInt8)) :
    EndsIn ⟨44 :: s, electpar, i⟩ (fun r => r.cells.Small) ∧
      PairsDecoded ⟨44 :: s, electpar, i⟩ (completePairs (s.splitOn 44).dropLast ++ pairs) ↔
    (s.splitOn 44).length % 2 = 1 ∧
      Fits (completePairs (s.splitOn 44).dropLast).length electpar.cells i
        (completePairs (s.splitOn 44).dropLast ++ pairs) ∧
      ((completePairs (s.splitOn 44).dropLast ++ pairs).foldl measured electpar.cells).Small := by
  induction hn : s.length using Nat.strong_induction_on generalizing s electpar i with
  | _ n ih =>
      by_cases hcomma : 44 ∈ s
      · obtain ⟨t, s', rfl, ht⟩ := List.eq_append_cons_of_mem hcomma
        by_cases hcomma' : 44 ∈ s'
        · obtain ⟨v, s'', rfl, hv⟩ := List.eq_append_cons_of_mem hcomma'
          simp only [List.mem_append, List.mem_cons, not_or] at hs
          obtain ⟨ht₀, -, hv₀, -, hs''⟩ := hs
          have hsplit : (t ++ 44 :: (v ++ 44 :: s'')).splitOn 44 = t :: v :: s''.splitOn 44 := by
            rw [List.splitOn_append_cons_self_of_not_mem ht, List.splitOn_append_cons_self_of_not_mem hv]
          have hlast : (t :: v :: s''.splitOn 44).dropLast = t :: v :: (s''.splitOn 44).dropLast := by
            rw [List.dropLast_cons_of_ne_nil (List.cons_ne_nil _ _),
              List.dropLast_cons_of_ne_nil (List.splitOn_ne_nil _ _)]
          have hround := round_pair electpar i ht hv s''
          rw [hsplit, hlast, completePairs, List.cons_append, List.length_cons, List.length_cons, List.length_cons,
            Fits, List.foldl_cons]
          by_cases hfits : t.length < 24 ∧ (0 ≤ (atoi t).tmod 3 → v.length < 12)
          · obtain ⟨electpar', hstep, hwritten⟩ := pairStep_spec electpar i ht₀ hv₀ hfits.1 hfits.2
            rw [hstep] at hround
            rw [endsIn_next hround, pairsDecoded_next hround, hwritten, written_eq_iff]
            by_cases hplace : InPlace electpar.cells i (atoi t) (.ofBuffer v)
            · have hlen : s''.length < n := by
                rw [← hn]
                simp only [List.length_append, List.length_cons]
                omega
              have hrest := ih _ hlen electpar' (indexFor i (atoi t)) hs'' rfl
              rw [hwritten, (written_eq_iff _ _ _ _).2 hplace] at hrest
              constructor
              · rintro ⟨hends, -, hdecoded⟩
                obtain ⟨hodd, hfitting, hsmall⟩ := hrest.1 ⟨hends, hdecoded⟩
                exact ⟨by omega, ⟨⟨hfits.1, hfits.2, hplace⟩, hfitting⟩, hsmall⟩
              · rintro ⟨hodd, ⟨-, hfitting⟩, hsmall⟩
                obtain ⟨hends, hdecoded⟩ := hrest.2 ⟨by omega, hfitting, hsmall⟩
                exact ⟨hends, hplace, hdecoded⟩
            · exact iff_of_false (fun h => hplace h.2.1) fun h => hplace h.2.1.1.2.2
          · obtain ⟨e, herror⟩ : ∃ e, pairStep electpar i t v = .error e := by
              cases hstep : pairStep electpar i t v with
              | error e => exact ⟨e, rfl⟩
              | ok r => exact absurd (length_of_pairStep ht₀ hv₀ hstep) hfits
            rw [herror] at hround
            exact iff_of_false (fun h => not_endsIn hround h.1) fun h => hfits ⟨h.2.1.1.1, h.2.1.1.2.1⟩
        · obtain ⟨e, hround⟩ := round_tag electpar i ht hcomma'
          have hlen : ((t ++ 44 :: s').splitOn 44).length = 2 := by
            rw [List.splitOn_append_cons_self_of_not_mem ht, List.splitOn_eq_singleton hcomma']
            rfl
          exact iff_of_false (fun h => not_endsIn hround h.1) fun h => by omega
      · have hround := round_end electpar i hcomma
        rw [endsIn_last hround, pairsDecoded_last hround, List.splitOn_eq_singleton hcomma]
        simp only [List.dropLast_singleton, completePairs, List.nil_append, List.length_nil, fits_zero_iff,
          List.length_singleton]
        constructor
        · rintro ⟨hsmall, hsame⟩
          exact ⟨trivial, hsame, (foldl_same hsame).symm ▸ hsmall⟩
        · rintro ⟨-, hsame, hsmall⟩
          rw [foldl_same hsame] at hsmall
          exact ⟨hsmall, hsame⟩

/-! ## What is published -/

theorem length_printItem (e : VolmeterParameter) : (presetItem e).printValue.length =
    35 + (CJsonItem.escapedLength e.dataU.str + CJsonItem.escapedLength e.dataI.str +
      CJsonItem.escapedLength e.dataP.str) := by
  have hnames : CJsonItem.escapedLength (literal "deviceID") = 8 ∧ CJsonItem.escapedLength (literal "U") = 1 ∧
      CJsonItem.escapedLength (literal "I") = 1 ∧ CJsonItem.escapedLength (literal "P") = 1 := by
    decide
  have hdigit : ∀ j : Fin 4, (decimalInt ((j : ℕ) + 1)).length = 1 := by decide
  simp only [presetItem, CJsonItem.printValue, CJsonItem.printObject, List.length_append, List.length_cons,
    List.length_nil, CJsonItem.length_printStringPtr, hnames, hdigit]
  omega

theorem length_realdata (electpar : Electpar) : (realdata electpar).printUnformatted.bytes.length =
    178 + ((List.finRange 4).map fun i => CJsonItem.escapedLength (electpar.cells i .u) +
      CJsonItem.escapedLength (electpar.cells i .i) + CJsonItem.escapedLength (electpar.cells i .p)).sum := by
  have hnames : CJsonItem.escapedLength (literal "cmd") = 3 ∧
      CJsonItem.escapedLength (literal "pushcicrealdata") = 15 ∧ CJsonItem.escapedLength (literal "data") = 4 := by
    decide
  have hfour : List.finRange 4 = [0, 1, 2, 3] := rfl
  simp only [realdata, CJsonItem.printUnformatted, hfour, List.map_cons, List.map_nil, CJsonItem.printValue,
    CJsonItem.printObject, CJsonItem.printArray, List.length_append, List.length_cons, List.length_nil,
    CJsonItem.length_printStringPtr, length_printItem, hnames, List.sum_cons, List.sum_nil]
  simp only [Electpar.cells, reading]
  omega

/-- **The message** fits its buffer, with a NUL, exactly if the readings are small. -/
theorem published_iff (electpar : Electpar) :
    (Ends (jsonMapPushCICRealDataMake electpar (.zeros 256)) fun msg => Ends msg.read fun _ => True) ↔
      electpar.cells.Small := by
  rw [jsonMapPushCICRealDataMake, ends_copied, and_true, Cells.Small, ← length_realdata]
  rfl

/-! ## Cut payloads -/

/-- The fields of the beginning of a text, without the last one, are fields of the text. -/
theorem dropLast_splitOn_prefix (s t : List UInt8) :
    (s.splitOn 44).dropLast <+: ((s ++ t).splitOn 44).dropLast := by
  induction hn : s.length using Nat.strong_induction_on generalizing s with
  | _ n ih =>
      by_cases hcomma : 44 ∈ s
      · obtain ⟨g, s, rfl, hg⟩ := List.eq_append_cons_of_mem hcomma
        have hlen : s.length < n := by
          rw [← hn, List.length_append, List.length_cons]
          omega
        rw [List.append_assoc, List.cons_append, List.splitOn_append_cons_self_of_not_mem hg,
          List.splitOn_append_cons_self_of_not_mem hg, List.dropLast_cons_of_ne_nil (List.splitOn_ne_nil _ _),
          List.dropLast_cons_of_ne_nil (List.splitOn_ne_nil _ _), List.cons_prefix_cons]
        exact ⟨rfl, ih _ hlen s rfl⟩
      · rw [List.splitOn_eq_singleton hcomma]
        exact List.nil_prefix

theorem dropLast_splitOn_comma (s : List UInt8) : ((s ++ [44]).splitOn 44).dropLast = s.splitOn 44 := by
  rw [List.splitOn_append_cons_self, List.splitOn_nil, List.dropLast_concat]

theorem completePairs_prefix {l l' : List (List UInt8)} (h : l <+: l') : completePairs l <+: completePairs l' := by
  induction l using completePairs.induct generalizing l' with
  | case1 tag value fields ih =>
      obtain ⟨rest, rfl⟩ := h
      exact List.cons_prefix_cons.2 ⟨rfl, ih (List.prefix_append _ _)⟩
  | case2 l hshort =>
      rw [completePairs]
      · exact List.nil_prefix
      · exact hshort

theorem completePairs_dropLast {l : List (List UInt8)} (h : l.length % 2 = 1) :
    completePairs l.dropLast = completePairs l := by
  induction l using completePairs.induct with
  | case1 tag value fields ih =>
      have hodd : fields.length % 2 = 1 := by
        rw [List.length_cons, List.length_cons] at h
        omega
      have hne : fields ≠ [] := by
        rintro rfl
        exact absurd hodd (by decide)
      rw [List.dropLast_cons_of_ne_nil (List.cons_ne_nil _ _), List.dropLast_cons_of_ne_nil hne, completePairs,
        completePairs, ih hodd]
  | case2 l hshort =>
      cases l with
      | nil => rfl
      | cons tag l =>
          cases l with
          | nil => rfl
          | cons value l => exact absurd rfl (hshort tag value l)

/-- The pairs that are scanned are the first pairs of the payload. -/
theorem pairs_prefix {first time : List UInt8} {rest : List (List UInt8)}
    (h : (buff msgBuf).splitOn 44 = first :: time :: rest) (hne : rest ≠ []) :
    completePairs rest.dropLast <+: pairsOf msgBuf := by
  have hfront := dropLast_splitOn_prefix (buff msgBuf) ((msgBuf.bytes ++ [44]).drop 255)
  rw [h, buff, List.take_append_drop, dropLast_splitOn_comma, List.dropLast_cons_of_ne_nil (List.cons_ne_nil _ _),
    List.dropLast_cons_of_ne_nil hne] at hfront
  exact completePairs_prefix (hfront.drop 2)

/-- The first of several fields, and the comma behind it. -/
theorem exists_of_splitOn {g g' : List UInt8} {fields : List (List UInt8)} (h : s.splitOn 44 = g :: g' :: fields) :
    ∃ s', s = g ++ 44 :: s' ∧ 44 ∉ g ∧ s'.splitOn 44 = g' :: fields := by
  by_cases hcomma : 44 ∈ s
  · obtain ⟨f, s', rfl, hf⟩ := List.eq_append_cons_of_mem hcomma
    rw [List.splitOn_append_cons_self_of_not_mem hf] at h
    obtain ⟨rfl, hrest⟩ := List.cons.inj h
    exact ⟨s', rfl, hf, hrest⟩
  · rw [List.splitOn_eq_singleton hcomma] at h
    cases h

/-! ## The whole payload -/

theorem zero_notMem_buff (msgBuf : CString) : 0 ∉ buff msgBuf := by
  intro h
  have hmem := List.mem_of_mem_take h
  rw [List.mem_append, List.mem_singleton] at hmem
  rcases hmem with hmem | hmem
  · exact msgBuf.noNul hmem
  · exact absurd hmem (by decide)

theorem zero_notMem_parts {first time : List UInt8} (h : buff msgBuf = first ++ 44 :: (time ++ 44 :: s)) :
    0 ∉ time ∧ 0 ∉ s := by
  have hnul := zero_notMem_buff msgBuf
  rw [h] at hnul
  simp only [List.mem_append, List.mem_cons, not_or] at hnul
  exact ⟨hnul.2.2.1, hnul.2.2.2.2⟩

/-- In front of the loop the first field and the time are skipped. -/
theorem start_eq (electpar : Electpar) {first time : List UInt8} (hfirst : 44 ∉ first) (htime : 44 ∉ time)
    (h : buff msgBuf = first ++ 44 :: (time ++ 44 :: s)) (hlen : time.length < 24) :
    start electpar msgBuf = .ok ⟨44 :: s, electpar, 0⟩ := by
  have hroom : (CString.ofBuffer time).strlen ≤ 23 := by
    rw [strlen_ofBuffer (zero_notMem_parts h).1]
    omega
  have hwrite : sprintf 23 (.ofBuffer time) = .ok ⟨.ofBuffer time, hroom⟩ := dif_pos hroom
  simp only [start, h, strstr_comma hfirst, List.tail_cons, strstr_comma htime, fieldAt_eq, hwrite]
  rfl

/-- A payload gets to the loop if it has a field, a time that fits its buffer, and a comma behind each of them. -/
theorem start_eq_ok_iff : start electpar msgBuf = .ok c ↔
    ∃ first time s, 44 ∉ first ∧ 44 ∉ time ∧ buff msgBuf = first ++ 44 :: (time ++ 44 :: s) ∧ time.length < 24 ∧
      c = ⟨44 :: s, electpar, 0⟩ := by
  constructor
  · intro h
    by_cases hcomma : 44 ∈ buff msgBuf
    · obtain ⟨first, s, hbuff, hfirst⟩ := List.eq_append_cons_of_mem hcomma
      by_cases hcomma' : 44 ∈ s
      · obtain ⟨time, s, rfl, htime⟩ := List.eq_append_cons_of_mem hcomma'
        have hlen : time.length < 24 := by
          by_contra hlong
          have hfull : sprintf 23 (.ofBuffer time) = .error .badAccess := by
            refine dif_neg ?_
            rw [strlen_ofBuffer (zero_notMem_parts hbuff).1]
            omega
          simp only [start, hbuff, strstr_comma hfirst, List.tail_cons, strstr_comma htime, fieldAt_eq, hfull] at h
          cases h
        rw [start_eq electpar hfirst htime hbuff hlen] at h
        exact ⟨first, time, s, hfirst, htime, hbuff, hlen, (Except.ok.inj h).symm⟩
      · simp only [start, hbuff, strstr_comma hfirst, List.tail_cons, strstr_comma_none.2 hcomma'] at h
        cases h
    · simp only [start, strstr_comma_none.2 hcomma] at h
      cases h
  · rintro ⟨first, time, s, hfirst, htime, hbuff, hlen, rfl⟩
    exact start_eq electpar hfirst htime hbuff hlen

theorem runs_iff : (∃ fuel r, paresCICRealData fuel electpar msgBuf = .ok r) ↔
    ∃ c, start electpar msgBuf = .ok c ∧ EndsIn c fun r => r.cells.Small := by
  constructor
  · rintro ⟨fuel, r, hrun⟩
    rw [paresCICRealData] at hrun
    obtain ⟨c, hstart, hrun⟩ := bind_eq_ok_iff.1 hrun
    obtain ⟨readings, hrounds, hrun⟩ := bind_eq_ok_iff.1 hrun
    obtain ⟨msg, hmake, hrun⟩ := bind_eq_ok_iff.1 hrun
    obtain ⟨text, hread, -⟩ := bind_eq_ok_iff.1 hrun
    exact ⟨c, hstart, fuel, readings, hrounds, (published_iff readings).1 ⟨msg, hmake, text, hread, trivial⟩⟩
  · rintro ⟨c, hstart, fuel, readings, hrounds, hsmall⟩
    obtain ⟨msg, hmake, text, hread, -⟩ := (published_iff readings).2 hsmall
    refine ⟨fuel, (readings, text), ?_⟩
    simp only [paresCICRealData, hstart, hrounds, hmake, hread, bind, Except.bind]
    rfl

/-- **A payload is decoded** exactly if its fields come in pairs behind a time, fit their buffers, are written where
    they belong, and leave room in the message. -/
theorem decoded_iff (electpar : Electpar) (msgBuf : CString) : Decoded electpar msgBuf ↔ PayloadFits electpar msgBuf := by
  rw [Decoded, runs_iff]
  constructor
  · rintro ⟨⟨c, hstart, hends⟩, c', hstart', hdecoded⟩
    cases hstart.symm.trans hstart'
    obtain ⟨first, time, s, hfirst, htime, hbuff, hlen, rfl⟩ := start_eq_ok_iff.1 hstart
    have hsplit : (buff msgBuf).splitOn 44 = first :: time :: s.splitOn 44 := by
      rw [hbuff, List.splitOn_append_cons_self_of_not_mem hfirst, List.splitOn_append_cons_self_of_not_mem htime]
    obtain ⟨pairs, hpairs⟩ := pairs_prefix hsplit (List.splitOn_ne_nil _ _)
    rw [← hpairs] at hdecoded
    obtain ⟨hodd, hfits, hsmall⟩ := (loop_iff electpar 0 (zero_notMem_parts hbuff).2 pairs).1 ⟨hends, hdecoded⟩
    rw [hpairs, completePairs_dropLast hodd] at hfits
    rw [hpairs] at hsmall
    exact ⟨first, time, s.splitOn 44, hsplit, hlen, hodd, hfits, hsmall⟩
  · rintro ⟨first, time, rest, hsplit, hlen, hodd, hfits, hsmall⟩
    obtain ⟨s', hbuff, hfirst, hsplit'⟩ := exists_of_splitOn hsplit
    have hne : rest ≠ [] := by
      rintro rfl
      exact absurd hodd (by decide)
    obtain ⟨value, fields, rfl⟩ := List.exists_cons_of_ne_nil hne
    obtain ⟨s, rfl, htime, hrest⟩ := exists_of_splitOn hsplit'
    obtain ⟨pairs, hpairs⟩ := pairs_prefix hsplit hne
    rw [← completePairs_dropLast hodd, ← hpairs, ← hrest] at hfits
    rw [← hrest] at hodd
    rw [← hpairs, ← hrest] at hsmall
    obtain ⟨hends, hdecoded⟩ := (loop_iff electpar 0 (zero_notMem_parts hbuff).2 pairs).2 ⟨hodd, hfits, hsmall⟩
    rw [hrest, hpairs] at hdecoded
    have hstart := start_eq electpar hfirst htime hbuff hlen
    exact ⟨⟨_, hstart, hends⟩, _, hstart, hdecoded⟩

/-- No circuit was measured yet. -/
def idle : Electpar := fun i => ⟨i, snprintf 11 (literal ""), snprintf 11 (literal ""), snprintf 11 (literal "")⟩

/-- Behind a tag of the first circuit, a tag of 11 goes to the first circuit, too. -/
theorem tag_eleven_misplaced : ¬ ∀ electpar msgBuf, Decoded electpar msgBuf := by
  intro hall
  obtain ⟨-, c, hstart, hdecoded⟩ := hall idle (literal "a,t,1,5,11,7")
  have hc : start idle (literal "a,t,1,5,11,7") = .ok ⟨ascii ",1,5,11,7,", idle, 0⟩ := rfl
  cases hc.symm.trans hstart
  obtain ⟨c₁, c₂, -, h₂, hcells⟩ := hdecoded 1 (ascii "11", ascii "7") rfl
  have hcell : (after 2 ⟨ascii ",1,5,11,7,", idle, 0⟩).map (fun c => c.electpar.cells 3 .i) = .ok (literal "") := rfl
  rw [h₂] at hcell
  have hseven : c₂.electpar.cells 3 .i = literal "7" := by
    rw [hcells]
    rfl
  exact absurd ((Except.ok.inj hcell).symm.trans hseven) (by decide)

end SmartPlat.CICTAPI
