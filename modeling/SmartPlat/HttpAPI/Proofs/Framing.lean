import SmartPlat.HttpAPI.Message

set_option autoImplicit false

/-! # Where `HttpChecked` sees the end of a request

`HttpChecked` searches the text so far for two spellings of one name, first the one in small letters,
and reads a number one byte behind it. What it finds in the head it finds again after every chunk;
what it finds in the body depends on the chunks. -/

namespace SmartPlat.HttpAPI

open SmartPlat.Lib

variable {head body rest line p v w : List UInt8} {info : HttpDef} {r : Request} {room : ℕ}

/-! ## Heads -/

/-- What the proofs use of a head. -/
structure IsHead (head : List UInt8) : Prop where
  noNul : 0 ∉ head
  ends : ∃ text, head = text ++ (crlf ++ crlf) ∧ FirstAt (crlf ++ crlf) head text.length

theorem Request.isHead (r : Request) : IsHead r.head := by
  have hlines : ∀ l ∈ r.startLine :: r.fields.map HeaderField.line, IsLine l := by
    intro l hl
    rcases List.mem_cons.1 hl with rfl | hl
    · exact r.startLine_isLine
    · obtain ⟨f, -, rfl⟩ := List.mem_map.1 hl
      exact f.isLine
  exact ⟨notMem_joinLines hlines, firstAt_joinLines hlines⟩

theorem IsHead.length_pos (h : IsHead head) : 4 ≤ head.length := by
  obtain ⟨text, rfl, -⟩ := h.ends
  rw [List.length_append]
  exact Nat.le_add_left 4 _

/-- The end of the head is found as soon as it is there. -/
theorem IsHead.endOfHead_append (h : IsHead head) (v : List UInt8) :
    endOfHead .init (head ++ v) = some ⟨0, head.length, true⟩ := by
  have hlen := h.length_pos
  obtain ⟨text, htext, hfirst⟩ := h.ends
  have hfound : strstr (crlf ++ crlf) head = some (crlf ++ crlf) := by
    rw [hfirst.strstr_eq, htext, List.drop_left]
  rw [endOfHead, if_neg (by decide), strstr_append_of_some hfound, Option.map_some]
  have hHeadLen : (head ++ v).length - (crlf ++ crlf ++ v).length + 4 = head.length := by
    rw [List.length_append, List.length_append]
    change head.length + v.length - (4 + v.length) + 4 = _
    omega
  rw [hHeadLen]
  rfl

/-- And not before. -/
theorem IsHead.endOfHead_prefix (h : IsHead head) (hp : p <+: head) (hlt : p.length < head.length) :
    endOfHead .init (CString.ofBuffer p).bytes = none := by
  have hbuffer : (CString.ofBuffer p).bytes = p := CString.bytes_ofBuffer fun h0 => h.noNul (hp.subset h0)
  have hnone : strstr (crlf ++ crlf) p = none := by
    rw [strstr_eq_none_iff]
    rintro ⟨pre, suf, rfl⟩
    obtain ⟨text, htext, hfirst⟩ := h.ends
    obtain ⟨t, rfl⟩ := hp
    refine hfirst.notBefore pre.length ?_ ?_
    · have hheadLen := congrArg List.length htext
      simp only [List.length_append] at hheadLen hlt
      omega
    · simp only [List.append_assoc, List.drop_left]
      exact ⟨_, rfl⟩
  rw [endOfHead, if_neg (by decide), hbuffer, hnone]
  rfl

/-! ## Lines -/

/-- A text up to the end of its first line. -/
def lineOf (text : List UInt8) : List UInt8 :=
  text.take (text.length - ((strstr crlf text).getD []).length)

/-- The number that is read from what follows the name on its line. -/
def lineLength (line : List UInt8) : Except HttpFault ℤ :=
  if line.length = 0 ∨ 33 < line.length then .error .copy
  else if line.length = 33 ∧ behindNumber line.tail = [] then .error .read
  else .ok (atoi line.tail)

theorem lineLength_eq_ok_iff {n : ℤ} : lineLength line = .ok n ↔
    (1 ≤ line.length ∧ line.length ≤ 33 ∧ (line.length = 33 → behindNumber line.tail ≠ [])) ∧
      atoi line.tail = n := by
  unfold lineLength
  split
  · next hbad => exact iff_of_false (fun h => nomatch h) fun h => by omega
  · next hcopy =>
      split
      · next hread => exact iff_of_false (fun h => nomatch h) fun h => h.1.2.2 hread.1 hread.2
      · next hread =>
          rw [Except.ok.injEq, iff_and_self]
          exact fun _ => ⟨by omega, by omega, fun hlen hnone => hread ⟨hlen, hnone⟩⟩

theorem lineLength_eq_copy_iff :
    lineLength line = .error .copy ↔ ¬ (1 ≤ line.length ∧ line.length ≤ 33) := by
  unfold lineLength
  split
  · next hbad => exact iff_of_true rfl (by omega)
  · split
    · exact iff_of_false (fun h => nomatch h) (by omega)
    · exact iff_of_false (fun h => nomatch h) (by omega)

theorem compareLength_eq_ok_iff {n : ℕ} {b : Bool} {info' : HttpDef} :
    compareLength info n = .ok (b, info') ↔ info.ContentLen + info.HeadLen < 2 ^ 31 ∧
      decide (info.ContentLen + info.HeadLen ≤ n) = b ∧ info = info' := by
  unfold compareLength
  split
  · next hint => exact iff_of_false (fun h => nomatch h) fun h => by omega
  · next hint => rw [Except.ok.injEq, Prod.mk.injEq, and_iff_right (Int.not_le.1 hint)]

theorem compareLength_ne_copy {n : ℕ} : compareLength info n ≠ .error .copy := by
  unfold compareLength
  split
  · exact fun h => nomatch h
  · exact fun h => nomatch h

/-- A name that is searched for. -/
structure IsSearched (name : List UInt8) : Prop where
  length : name.length = 15
  noCr : 13 ∉ name
  noLf : 10 ∉ name

theorem isSearched_lowerName : IsSearched lowerName := ⟨by decide, by decide, by decide⟩

theorem isSearched_upperName : IsSearched upperName := ⟨by decide, by decide, by decide⟩

theorem strstr_crlf_append (h : 13 ∉ p) (rest : List UInt8) :
    strstr crlf (p ++ rest) = strstr crlf rest := by
  induction p with
  | nil => rfl
  | cons b p ih =>
      have hb : ¬ crlf <+: b :: (p ++ rest) := by
        intro hpre
        exact h ((List.cons_prefix_cons.1 hpre).1 ▸ List.mem_cons_self)
      rw [List.cons_append, strstr, if_neg hb]
      exact ih fun hmem => h (List.mem_cons_of_mem _ hmem)

theorem lineOf_append (h : strstr crlf rest = some p) (v : List UInt8) :
    lineOf (rest ++ v) = lineOf rest := by
  obtain ⟨j, hj, -, rfl⟩ := strstr_eq_some_iff.1 h
  have hle : rest.length - j ≤ rest.length := Nat.sub_le _ _
  rw [lineOf, lineOf, h, strstr_append_of_some h, Option.getD_some, Option.getD_some,
    List.length_append, List.length_append, List.length_drop, Nat.add_sub_add_right,
    List.take_append_of_le_length (Nat.sub_le _ _)]

/-- What is copied from behind a name is the rest of its line, without one byte. -/
theorem copyLength_eq {name pe : List UInt8} (hname : IsSearched name)
    (hend : strstr crlf rest = some pe) :
    copyLength (name ++ rest) pe = lineLength (lineOf rest) := by
  obtain ⟨j, hj, -, rfl⟩ := strstr_eq_some_iff.1 hend
  have hline : lineOf rest = rest.take j := by
    rw [lineOf, hend, Option.getD_some, List.length_drop, Nat.sub_sub_self hj]
  have hlen : (rest.take j).length = j := List.length_take_of_le hj
  have hn : ((name ++ rest).length : ℤ) - 16 - (rest.drop j).length = (j : ℤ) - 1 := by
    rw [List.length_append, hname.length, List.length_drop]
    omega
  rw [hline, copyLength, lineLength, hn, hlen]
  by_cases hbad : j = 0 ∨ 33 < j
  · rw [if_pos (by omega), if_pos hbad]
  · have htmp : ((name ++ rest).drop 16).take ((j : ℤ) - 1).toNat = (rest.take j).tail := by
      have h16 : 16 = name.length + 1 := by rw [hname.length]
      rw [h16, List.drop_length_add_append, ← List.drop_one, List.drop_take]
      congr 1
      omega
    have htmpLen : (rest.take j).tail.length = 32 ↔ j = 33 := by
      rw [List.length_tail, hlen]
      omega
    rw [if_neg (by omega), if_neg hbad, htmp]
    simp only [htmpLen]

/-- What stands behind a name of the head is read from its line alone. -/
theorem IsHead.copyLength_eq (h : IsHead head) {name : List UInt8} (hname : IsSearched name)
    (hfound : strstr name head = some p) (v : List UInt8) :
    ∃ pe, strstr crlf (p ++ v) = some pe ∧
      copyLength (p ++ v) pe = lineLength (lineOf (p.drop 15)) := by
  obtain ⟨k, -, hfirst, rfl⟩ := strstr_eq_some_iff.1 hfound
  obtain ⟨rest, hrest⟩ := hfirst.here
  have hcrlf : crlf <:+: head.drop k := by
    obtain ⟨text, htext, -⟩ := h.ends
    have hsuffix : crlf <:+ head := ⟨text ++ crlf, by rw [htext, List.append_assoc]⟩
    refine (List.suffix_of_suffix_length_le hsuffix (List.drop_suffix k head) ?_).isInfix
    rw [← hrest, List.length_append, hname.length]
    change 2 ≤ _
    omega
  have hsame : strstr crlf (head.drop k) = strstr crlf rest := by
    rw [← hrest, strstr_crlf_append hname.noCr]
  cases hend : strstr crlf rest with
  | none =>
      rw [hend, strstr_eq_none_iff] at hsame
      exact absurd hcrlf hsame
  | some pe =>
      refine ⟨pe ++ v, strstr_append_of_some (hsame.trans hend) v, ?_⟩
      rw [← hrest, List.append_assoc, HttpAPI.copyLength_eq hname (strstr_append_of_some hend v),
        lineOf_append hend, ← hname.length, List.drop_left]

/-! ## Readings -/

/-- What is read of a text after the head is complete. -/
def readLength (str : List UInt8) : Except HttpFault (Option ℤ) :=
  match findContentLength str with
  | none => .ok none
  | some ps =>
      match strstr crlf ps with
      | none => .ok none
      | some pe => (copyLength ps pe).map some

/-- The line behind a name, if the head has it. -/
def lengthLine (name head : List UInt8) : Option (List UInt8) :=
  (strstr name head).map fun p => lineOf (p.drop 15)

theorem IsHead.skip (h : IsHead head) {name : List UInt8} (hname : IsSearched name)
    (hnone : strstr name head = none) (v : List UInt8) :
    strstr name (head ++ v) = strstr name v := by
  obtain ⟨text, htext, -⟩ := h.ends
  have hlast : head = (text ++ [13, 10, 13]) ++ [10] := by
    rw [htext, List.append_assoc]
    rfl
  rw [strstr_eq_none_iff] at hnone
  have hin : ¬ name <:+: text ++ [13, 10, 13] := fun hin =>
    hnone (hin.trans (hlast ▸ (List.prefix_append _ _).isInfix))
  rw [hlast, List.append_assoc]
  exact strstr_append_of_none hname.noLf hin v

theorem readLength_of_line (h : IsHead head) {name : List UInt8} (hname : IsSearched name)
    (hfound : strstr name head = some p) (v : List UInt8)
    (hfind : findContentLength (head ++ v) = some (p ++ v)) :
    readLength (head ++ v) = (lineLength (lineOf (p.drop 15))).map some := by
  obtain ⟨pe, hpe, hcopy⟩ := h.copyLength_eq hname hfound v
  rw [readLength, hfind]
  simp only [hpe, hcopy]

/-- With the small letters in the head, the body plays no part. -/
theorem readLength_lower (h : IsHead head) (hline : lengthLine lowerName head = some line)
    (v : List UInt8) : readLength (head ++ v) = (lineLength line).map some := by
  obtain ⟨p, hp, rfl⟩ := Option.map_eq_some_iff.1 hline
  refine readLength_of_line h isSearched_lowerName hp v ?_
  rw [findContentLength, strstr_append_of_some hp]
  rfl

/-- With the capitals there, it does if it has the small letters. -/
theorem readLength_upper (h : IsHead head) (hnone : lengthLine lowerName head = none)
    (hline : lengthLine upperName head = some line) (hv : strstr lowerName v = none) :
    readLength (head ++ v) = (lineLength line).map some := by
  obtain ⟨p, hp, rfl⟩ := Option.map_eq_some_iff.1 hline
  refine readLength_of_line h isSearched_upperName hp v ?_
  rw [findContentLength, h.skip isSearched_lowerName (Option.map_eq_none_iff.1 hnone), hv,
    strstr_append_of_some hp]
  rfl

theorem readLength_none (hlower : lengthLine lowerName head = none)
    (hupper : lengthLine upperName head = none) : readLength head = .ok none := by
  rw [readLength, findContentLength, Option.map_eq_none_iff.1 hlower,
    Option.map_eq_none_iff.1 hupper]
  rfl

/-- Small letters at the end of what is there so far: there is no end of a line behind them. -/
theorem readLength_body (h : IsHead head) (hnone : lengthLine lowerName head = none)
    (hv : strstr lowerName v = some lowerName) : readLength (head ++ v) = .ok none := by
  rw [readLength, findContentLength, h.skip isSearched_lowerName (Option.map_eq_none_iff.1 hnone), hv]
  rfl

/-- A check when the head has just been seen to be complete. -/
theorem httpChecked_head (h : IsHead head) (w : List UInt8) :
    httpChecked .init (head ++ w) = (readLength (head ++ (CString.ofBuffer w).bytes)).bind fun n =>
      match n with
      | none => .ok (true, ⟨0, head.length, true⟩)
      | some n => compareLength ⟨n, head.length, true⟩ (head ++ w).length := by
  rw [httpChecked, CString.bytes_ofBuffer_append h.noNul, h.endOfHead_append]
  simp only [readLength, if_true]
  cases findContentLength (head ++ (CString.ofBuffer w).bytes) with
  | none => rfl
  | some ps =>
      dsimp only
      cases strstr crlf ps with
      | none => rfl
      | some pe =>
          dsimp only
          cases copyLength ps pe with
          | error e => rfl
          | ok n => rfl

/-- It goes by the number on the line that is read. -/
theorem httpChecked_line (h : IsHead head)
    (hreading : readLength (head ++ (CString.ofBuffer w).bytes) = (lineLength line).map some) :
    httpChecked .init (head ++ w) = (lineLength line).bind fun n =>
      compareLength ⟨n, head.length, true⟩ (head ++ w).length := by
  rw [httpChecked_head h, hreading]
  cases lineLength line <;> rfl

/-- A later check, with a number. -/
theorem httpChecked_later {n : ℤ} {size : ℕ} (hn : n ≠ 0) (recvmsg : List UInt8) :
    httpChecked ⟨n, size, true⟩ recvmsg = compareLength ⟨n, size, true⟩ recvmsg.length := by
  rw [httpChecked, endOfHead, if_pos rfl]
  simp only [if_neg hn]

/-! ## When the end is seen where it is -/

/-- For each chunk whether the request is complete with it, up to the first time. -/
def completions (total : ℕ) : ℕ → List (List UInt8) → List Bool
  | _, [] => []
  | n, chunk :: chunks =>
      if n + chunk.length = total then [true]
      else false :: completions total (n + chunk.length) chunks

/-- However the request is cut into chunks, the end is seen where it is. -/
def FramedAlike (room : ℕ) (r : Request) : Prop :=
  ∀ chunks : List (List UInt8), (∀ chunk ∈ chunks, chunk ≠ []) → chunks.flatten <+: r.bytes →
    chunks.flatten.length ≤ room →
      checkSelectRead .init [] chunks = .ok (completions r.bytes.length 0 chunks)

/-- The line that is read says the length of the body, or both are more than there is room for. -/
def ReadsLength (room : ℕ) (r : Request) (line : List UInt8) : Prop :=
  (1 ≤ line.length ∧ line.length ≤ 33 ∧ (line.length = 33 → behindNumber line.tail ≠ [])) ∧
    atoi line.tail + r.head.length < 2 ^ 31 ∧
    ((atoi line.tail).toNat = r.body.length ∨
      room < r.head.length + (atoi line.tail).toNat ∧ room < r.head.length + r.body.length)

/-- The text of the body that can be seen before the request is complete. -/
def earlyBody (room : ℕ) (r : Request) : List UInt8 :=
  (CString.ofBuffer (r.body.dropLast.take (room - r.head.length))).bytes

/-- What `HttpChecked` finds says where the request ends. -/
def SaysLength (room : ℕ) (r : Request) : Prop :=
  room < r.head.length ∨
    match lengthLine lowerName r.head, lengthLine upperName r.head with
    | some line, _ => ReadsLength room r line
    | none, some line => ReadsLength room r line ∧ ¬ lowerName <:+: earlyBody room r
    | none, none => r.body = []

theorem ReadsLength.lineLength_eq (h : ReadsLength room r line) :
    lineLength line = .ok (atoi line.tail) :=
  lineLength_eq_ok_iff.2 ⟨h.1, rfl⟩

theorem ReadsLength.compareLength_eq (h : ReadsLength room r line) {n : ℕ} (hhead : r.head.length ≤ n)
    (hbytes : n ≤ r.head.length + r.body.length) (hroom : n ≤ room) :
    compareLength ⟨atoi line.tail, r.head.length, true⟩ n =
        .ok (n = r.head.length + r.body.length, ⟨atoi line.tail, r.head.length, true⟩) ∧
      (n ≠ r.head.length + r.body.length → atoi line.tail ≠ 0) := by
  obtain ⟨-, hint, hlength⟩ := h
  have hiff : atoi line.tail + r.head.length ≤ n ↔ n = r.head.length + r.body.length := by omega
  exact ⟨compareLength_eq_ok_iff.2 ⟨hint, decide_eq_decide.2 hiff, rfl⟩, by omega⟩

theorem ofBuffer_mono {u : List UInt8} (h : w <+: u) :
    (CString.ofBuffer w).bytes <+: (CString.ofBuffer u).bytes := by
  obtain ⟨t, rfl⟩ := h
  change w.takeWhile (· ≠ 0) <+: (w ++ t).takeWhile (· ≠ 0)
  induction w with
  | nil => exact List.nil_prefix
  | cons b w ih =>
      rw [List.cons_append, List.takeWhile_cons, List.takeWhile_cons]
      split
      · exact List.cons_prefix_cons.2 ⟨rfl, ih⟩
      · exact List.prefix_rfl

theorem prefix_ofBuffer {u : List UInt8} (h : w <+: u) (h0 : 0 ∉ w) :
    w <+: (CString.ofBuffer u).bytes := by
  have hprefix := ofBuffer_mono h
  rwa [CString.bytes_ofBuffer h0] at hprefix

/-- Small letters that are not seen before the last byte of a text are its end. -/
theorem strstr_at_end {name x : List UInt8} (hfound : strstr name x = some p)
    (hearly : ¬ name <:+: x.dropLast) : p = name := by
  obtain ⟨k, -, hfirst, rfl⟩ := strstr_eq_some_iff.1 hfound
  obtain ⟨t, ht⟩ := hfirst.here
  rcases List.eq_nil_or_concat t with rfl | ⟨t, b, rfl⟩
  · rw [← ht, List.append_nil]
  · have hx : x = (x.take k ++ name ++ t) ++ [b] := by
      conv_lhs => rw [← List.take_append_drop k x, ← ht, List.concat_eq_append]
      simp only [List.append_assoc]
    have hdrop := (congrArg List.dropLast hx).trans List.dropLast_concat
    exact absurd ⟨x.take k, t, hdrop.symm⟩ hearly

/-- The first check after the head is complete. -/
theorem SaysLength.first (h : SaysLength room r) (hw : w <+: r.body)
    (hroom : r.head.length + w.length ≤ room) :
    ∃ info, httpChecked .init (r.head ++ w) = .ok (w.length = r.body.length, info) ∧
      (w.length ≠ r.body.length → ∃ line, ReadsLength room r line ∧ atoi line.tail ≠ 0 ∧
        info = ⟨atoi line.tail, r.head.length, true⟩) := by
  have hhead := r.isHead
  have hle := hw.length_le
  have hread : ∀ {line}, ReadsLength room r line →
      readLength (r.head ++ (CString.ofBuffer w).bytes) = (lineLength line).map some →
      ∃ info, httpChecked .init (r.head ++ w) = .ok (w.length = r.body.length, info) ∧
        (w.length ≠ r.body.length → ∃ line, ReadsLength room r line ∧ atoi line.tail ≠ 0 ∧
          info = ⟨atoi line.tail, r.head.length, true⟩) := by
    intro line hline hreading
    have hn : (r.head ++ w).length = r.head.length + w.length := List.length_append
    obtain ⟨hcompare, hne⟩ := hline.compareLength_eq (n := r.head.length + w.length)
      (Nat.le_add_right _ _) (Nat.add_le_add_left hle _) hroom
    refine ⟨⟨atoi line.tail, r.head.length, true⟩, ?_, fun hw' => ⟨line, hline, hne ?_, rfl⟩⟩
    · rw [httpChecked_line hhead hreading, hline.lineLength_eq, hn]
      simp only [Nat.add_left_cancel_iff] at hcompare
      exact hcompare
    · omega
  have hdone : readLength (r.head ++ (CString.ofBuffer w).bytes) = .ok none →
      w.length = r.body.length →
      ∃ info, httpChecked .init (r.head ++ w) = .ok (w.length = r.body.length, info) ∧
        (w.length ≠ r.body.length → ∃ line, ReadsLength room r line ∧ atoi line.tail ≠ 0 ∧
          info = ⟨atoi line.tail, r.head.length, true⟩) := by
    intro hreading hw'
    refine ⟨⟨0, r.head.length, true⟩, ?_, fun hne => absurd hw' hne⟩
    rw [httpChecked_head hhead, hreading, decide_eq_true hw']
    rfl
  rcases h with hfull | h
  · omega
  · split at h
    · next line _ hlower => exact hread h (readLength_lower hhead hlower _)
    · next line hlower hupper =>
        obtain ⟨hline, hearly⟩ := h
        cases hv : strstr lowerName (CString.ofBuffer w).bytes with
        | none => exact hread hline (readLength_upper hhead hlower hupper hv)
        | some p =>
            -- small letters in the body, that are only seen with its last byte
            have hseen : ∀ u, u <+: r.body.dropLast.take (room - r.head.length) →
                ¬ lowerName <:+: (CString.ofBuffer u).bytes := fun u hu hin =>
              hearly (hin.trans (ofBuffer_mono hu).isInfix)
            have hinfix : lowerName <:+: (CString.ofBuffer w).bytes := by
              by_contra hnot
              rw [strstr_eq_none_iff.2 hnot] at hv
              cases hv
            have hw' : w.length = r.body.length := by
              by_contra hne
              refine hseen w ?_ hinfix
              rw [List.prefix_take_iff, List.dropLast_eq_take, List.prefix_take_iff]
              exact ⟨⟨hw, by omega⟩, by omega⟩
            refine hdone (readLength_body hhead hlower ?_) hw'
            rw [hv, strstr_at_end hv]
            intro hin
            refine hearly (hin.trans (prefix_ofBuffer ?_ ?_).isInfix)
            · have hlen : (CString.ofBuffer w).bytes.length ≤ w.length :=
                (List.takeWhile_prefix _).length_le
              have hseen : (CString.ofBuffer w).bytes.dropLast <+: r.body :=
                ((List.dropLast_prefix _).trans (List.takeWhile_prefix _)).trans hw
              rw [List.prefix_take_iff, List.dropLast_eq_take (l := r.body), List.prefix_take_iff,
                List.length_dropLast]
              exact ⟨⟨hseen, by omega⟩, by omega⟩
            · intro h0
              exact (CString.ofBuffer w).noNul (List.mem_of_mem_dropLast h0)
    · next hlower hupper =>
        have hw' : w = [] := List.prefix_nil.1 (h ▸ hw)
        refine hdone ?_ (by rw [hw', h])
        rw [hw', CString.bytes_ofBuffer_nil, List.append_nil]
        exact readLength_none hlower hupper

/-- Between two checks: the head is not complete, or a number has been read that says where the end
    is. -/
def Waits (room : ℕ) (r : Request) (recvmsg : List UInt8) (info : HttpDef) : Prop :=
  recvmsg.length < r.head.length ∧ info = .init ∨
    r.head.length ≤ recvmsg.length ∧ ∃ line, ReadsLength room r line ∧ atoi line.tail ≠ 0 ∧
      info = ⟨atoi line.tail, r.head.length, true⟩

theorem SaysLength.check (h : SaysLength room r) {recvmsg recvmsg' : List UInt8}
    (hwait : Waits room r recvmsg info) (hmore : recvmsg <+: recvmsg') (hpre : recvmsg' <+: r.bytes)
    (hroom : recvmsg'.length ≤ room) :
    ∃ info', httpChecked info recvmsg' = .ok (recvmsg'.length = r.bytes.length, info') ∧
      (recvmsg'.length ≠ r.bytes.length → Waits room r recvmsg' info') := by
  have hbytes : r.bytes.length = r.head.length + r.body.length := List.length_append
  have hle := hpre.length_le
  have hle' := hmore.length_le
  rcases hwait with ⟨hshort, rfl⟩ | ⟨hlong, line, hline, hne, rfl⟩
  · rcases Nat.lt_or_ge recvmsg'.length r.head.length with hlt | hge
    -- the head is still not complete, or becomes so with this chunk
    · have hhead : recvmsg' <+: r.head :=
        List.prefix_of_prefix_length_le hpre (List.prefix_append _ _) hlt.le
      refine ⟨.init, ?_, fun _ => .inl ⟨hlt, rfl⟩⟩
      rw [httpChecked, r.isHead.endOfHead_prefix hhead hlt, decide_eq_false (by omega)]
    · obtain ⟨w, rfl⟩ := List.prefix_of_prefix_length_le (List.prefix_append _ _) hpre hge
      have hw : w <+: r.body := (List.prefix_append_right_inj _).1 hpre
      rw [List.length_append] at hroom hle
      obtain ⟨info, hcheck, hnext⟩ := h.first hw hroom
      have hiff : (r.head ++ w).length = r.bytes.length ↔ w.length = r.body.length := by
        rw [List.length_append]
        omega
      refine ⟨info, ?_, fun hne => .inr ⟨hge, hnext fun heq => hne (hiff.2 heq)⟩⟩
      simp only [hiff]
      exact hcheck
  · rw [httpChecked_later hne]
    obtain ⟨hcompare, -⟩ := hline.compareLength_eq (hlong.trans hle') (hbytes ▸ hle) hroom
    exact ⟨_, hbytes ▸ hcompare, fun _ => .inr ⟨hlong.trans hle', line, hline, hne, rfl⟩⟩

/-- **Whatever the chunks are**, from a wait on. -/
theorem SaysLength.loop (h : SaysLength room r) {recvmsg : List UInt8} {chunks : List (List UInt8)}
    (hwait : Waits room r recvmsg info) (hpre : recvmsg ++ chunks.flatten <+: r.bytes)
    (hroom : (recvmsg ++ chunks.flatten).length ≤ room) :
    checkSelectRead info recvmsg chunks =
      .ok (completions r.bytes.length recvmsg.length chunks) := by
  induction chunks generalizing recvmsg info with
  | nil => rfl
  | cons chunk chunks ih =>
      rw [List.flatten_cons, ← List.append_assoc] at hpre hroom
      have hroom' : (recvmsg ++ chunk).length ≤ room := by
        rw [List.length_append] at hroom
        omega
      obtain ⟨info', hcheck, hnext⟩ := h.check hwait (List.prefix_append recvmsg chunk)
        ((List.prefix_append _ _).trans hpre) hroom'
      rw [checkSelectRead, completions, hcheck, ← List.length_append]
      by_cases hdone : (recvmsg ++ chunk).length = r.bytes.length
      · rw [if_pos hdone, decide_eq_true hdone]
        rfl
      · rw [if_neg hdone, decide_eq_false hdone]
        have hrest := ih (hnext hdone) hpre hroom
        simp only [Except.bind, hrest]
        rfl

/-! ## What it takes -/

theorem checkSelectRead_one {recvmsg chunk : List UInt8} {b : Bool}
    (h : checkSelectRead info recvmsg [chunk] = .ok [b]) :
    ∃ info', httpChecked info (recvmsg ++ chunk) = .ok (b, info') := by
  obtain ⟨⟨b', info'⟩, hcheck, hrest⟩ := bind_eq_ok_iff.1 h
  refine ⟨info', ?_⟩
  cases b' with
  | true =>
      obtain rfl := List.singleton_inj.1 (Except.ok.inj hrest)
      exact hcheck
  | false =>
      obtain rfl := List.singleton_inj.1 (Except.ok.inj hrest)
      exact hcheck

/-- The head and some of the body at once. -/
theorem FramedAlike.one (h : FramedAlike room r) (hw : w <+: r.body)
    (hroom : r.head.length + w.length ≤ room) :
    ∃ info, httpChecked .init (r.head ++ w) = .ok (w.length = r.body.length, info) := by
  have hhead := r.isHead.length_pos
  have hrun := h [r.head ++ w]
    (by
      intro chunk hchunk hnil
      rw [List.mem_singleton.1 hchunk] at hnil
      have hlen := congrArg List.length hnil
      rw [List.length_append, List.length_nil] at hlen
      omega)
    (by
      rw [List.flatten_singleton]
      exact (List.prefix_append_right_inj _).2 hw)
    (by rwa [List.flatten_singleton, List.length_append])
  have hcompletions : completions r.bytes.length 0 [r.head ++ w] =
      [decide (w.length = r.body.length)] := by
    rw [completions, completions, Request.bytes, List.length_append, List.length_append, Nat.zero_add]
    by_cases hw' : w.length = r.body.length
    · rw [if_pos (by rw [hw']), decide_eq_true hw']
    · rw [if_neg (by omega), decide_eq_false hw']
  rw [hcompletions] at hrun
  exact checkSelectRead_one hrun

/-- First the head, then some of the body. -/
theorem FramedAlike.two (h : FramedAlike room r) (hw : w <+: r.body) (hne : w ≠ [])
    (hroom : r.head.length + w.length ≤ room)
    (hfirst : httpChecked .init r.head = .ok (false, info)) :
    ∃ info', httpChecked info (r.head ++ w) = .ok (w.length = r.body.length, info') := by
  have hhead := r.isHead.length_pos
  have hbody := hw.length_le
  have hpos := List.length_pos_iff.2 hne
  have hflatten : [r.head, w].flatten = r.head ++ w := by
    rw [List.flatten_cons, List.flatten_singleton]
  have hrun := h [r.head, w]
    (by
      intro chunk hchunk
      rcases List.mem_cons.1 hchunk with rfl | hchunk
      · exact List.length_pos_iff.1 (by omega)
      · exact List.mem_singleton.1 hchunk ▸ hne)
    (by
      rw [hflatten]
      exact (List.prefix_append_right_inj _).2 hw)
    (by rwa [hflatten, List.length_append])
  rw [checkSelectRead, List.nil_append, hfirst, completions, Request.bytes, List.length_append,
    Nat.zero_add, if_neg (by omega)] at hrun
  obtain ⟨bs, hrest, hbs⟩ := map_eq_ok_iff.1 hrun
  have hcompletions : bs = [decide (w.length = r.body.length)] := by
    have htail := List.tail_eq_of_cons_eq hbs
    rw [htail, completions, completions]
    by_cases hw' : w.length = r.body.length
    · rw [if_pos (by rw [hw']), decide_eq_true hw']
    · rw [if_neg (by omega), decide_eq_false hw']
  rw [hcompletions] at hrest
  exact checkSelectRead_one hrest

/-- A line of the head that is read says the length. -/
theorem FramedAlike.reads (h : FramedAlike room r) (hroom : r.head.length ≤ room)
    (hreading : readLength r.head = (lineLength line).map some) : ReadsLength room r line := by
  obtain ⟨info, hcheck⟩ := h.one List.nil_prefix hroom
  have hcompare := hcheck
  rw [httpChecked_line r.isHead (by rwa [CString.bytes_ofBuffer_nil, List.append_nil]),
    List.append_nil] at hcompare
  obtain ⟨n, hread, hcompare⟩ := bind_eq_ok_iff.1 hcompare
  obtain ⟨hline, rfl⟩ := lineLength_eq_ok_iff.1 hread
  obtain ⟨hint, hsame, rfl⟩ := compareLength_eq_ok_iff.1 hcompare
  rw [decide_eq_decide, List.length_nil] at hsame
  dsimp only at hint hsame
  refine ⟨hline, by omega, ?_⟩
  by_contra hwrong
  -- with another number, a second chunk up to the smaller of it and the length tells them apart
  have hbody : ¬ 0 = r.body.length := by omega
  have hlen : (r.body.take (min (atoi line.tail).toNat r.body.length)).length
      = min (atoi line.tail).toNat r.body.length := List.length_take_of_le (Nat.min_le_right _ _)
  rw [List.append_nil, List.length_nil, decide_eq_false hbody] at hcheck
  obtain ⟨info', hsecond⟩ := h.two
    (List.take_prefix (min (atoi line.tail).toNat r.body.length) r.body)
    (List.length_pos_iff.1 (by omega)) (by omega) hcheck
  rw [httpChecked_later (by omega)] at hsecond
  obtain ⟨-, hsame', -⟩ := compareLength_eq_ok_iff.1 hsecond
  rw [decide_eq_decide, List.length_append, hlen] at hsame'
  dsimp only at hsame'
  omega

/-- Small letters that can be seen in the body too early are taken for the field. -/
theorem FramedAlike.early (h : FramedAlike room r) (hlower : lengthLine lowerName r.head = none) :
    ¬ lowerName <:+: earlyBody room r := by
  intro hin
  cases hfound : strstr lowerName (earlyBody room r) with
  | none => exact strstr_eq_none_iff.1 hfound hin
  | some p =>
      obtain ⟨k, -, hfirst, rfl⟩ := strstr_eq_some_iff.1 hfound
      -- what is seen of the body ends with the first of these names: no line behind it, so the request
      -- is taken for complete
      have hend := hfirst.here.length_le
      rw [List.length_drop, isSearched_lowerName.length] at hend
      have hearly : earlyBody room r <+: r.body.dropLast.take (room - r.head.length) :=
        List.takeWhile_prefix _
      have hearlyLen := hearly.length_le
      rw [List.length_take, List.length_dropLast] at hearlyLen
      have hw : ((earlyBody room r).take (k + 15)).length = k + 15 := List.length_take_of_le (by omega)
      have hnul : 0 ∉ (earlyBody room r).take (k + 15) := fun h0 =>
        (CString.ofBuffer _).noNul (List.mem_of_mem_take h0)
      have hat : FirstAt lowerName ((earlyBody room r).take (k + 15)) k := by
        refine ⟨?_, fun j hj hpre => hfirst.notBefore j hj ?_⟩
        · rw [List.drop_take, Nat.add_sub_cancel_left, List.prefix_take_iff,
            isSearched_lowerName.length]
          exact ⟨hfirst.here, Nat.le_refl _⟩
        · rw [List.drop_take] at hpre
          exact hpre.trans (List.take_prefix _ _)
      have hlast : ((earlyBody room r).take (k + 15)).drop k = lowerName := by
        refine (List.IsPrefix.eq_of_length hat.here ?_).symm
        rw [List.length_drop, hw, isSearched_lowerName.length, Nat.add_sub_cancel_left]
      obtain ⟨info, hcheck⟩ := h.one (((List.take_prefix (k + 15) _).trans hearly).trans
        ((List.take_prefix _ _).trans (List.dropLast_prefix _))) (by omega)
      have hbody := hat.strstr_eq
      rw [hlast] at hbody
      rw [httpChecked_head r.isHead, CString.bytes_ofBuffer hnul, readLength_body r.isHead hlower hbody] at hcheck
      have hdone := (Prod.mk.inj (Except.ok.inj hcheck)).1
      have hdone' := of_decide_eq_true hdone.symm
      omega

/-- **When the end of a request does not depend on the chunks**: when the line that `HttpChecked`
    finds behind the name says the length of the body. -/
theorem framedAlike_iff : FramedAlike room r ↔ SaysLength room r := by
  have hhead := r.isHead
  constructor
  · intro h
    rcases Nat.lt_or_ge room r.head.length with hfull | hroom
    · exact .inl hfull
    · refine .inr ?_
      split
      · next line _ hlower =>
          have hreading := readLength_lower hhead hlower []
          rw [List.append_nil] at hreading
          exact h.reads hroom hreading
      · next line hlower hupper =>
          have hreading := readLength_upper hhead hlower hupper (by decide : strstr lowerName [] = none)
          rw [List.append_nil] at hreading
          exact ⟨h.reads hroom hreading, h.early hlower⟩
      · next hlower hupper =>
          obtain ⟨info, hcheck⟩ := h.one List.nil_prefix hroom
          rw [httpChecked_head hhead, CString.bytes_ofBuffer_nil, List.append_nil,
            readLength_none hlower hupper] at hcheck
          have hdone := of_decide_eq_true (Prod.mk.inj (Except.ok.inj hcheck)).1.symm
          exact List.eq_nil_of_length_eq_zero hdone.symm
  · intro h chunks _ hpre hroom
    have hpos := hhead.length_pos
    exact h.loop (.inl ⟨by rw [List.length_nil]; omega, rfl⟩) hpre hroom

/-! ## `tmp` -/

/-- What is found in the text has a line that fits into `tmp`. -/
def LineFits (info : HttpDef) (recvmsg : List UInt8) : Prop :=
  (endOfHead info (CString.ofBuffer recvmsg).bytes).isSome → info.ContentLen = 0 →
    ∀ ps, findContentLength (CString.ofBuffer recvmsg).bytes = some ps → crlf <:+: ps →
      1 ≤ (lineOf (ps.drop 15)).length ∧ (lineOf (ps.drop 15)).length ≤ 33

theorem findContentLength_spec {str ps : List UInt8} (h : findContentLength str = some ps) :
    ∃ name rest, IsSearched name ∧ ps = name ++ rest := by
  have hspec : ∀ {name}, strstr name str = some ps → ∃ rest, ps = name ++ rest := by
    intro name hfound
    obtain ⟨k, -, hfirst, rfl⟩ := strstr_eq_some_iff.1 hfound
    obtain ⟨rest, hrest⟩ := hfirst.here
    exact ⟨rest, hrest.symm⟩
  unfold findContentLength at h
  cases hlower : strstr lowerName str with
  | some p =>
      rw [hlower] at h
      obtain ⟨rest, hrest⟩ := hspec (hlower.trans h)
      exact ⟨lowerName, rest, isSearched_lowerName, hrest⟩
  | none =>
      rw [hlower] at h
      obtain ⟨rest, hrest⟩ := hspec h
      exact ⟨upperName, rest, isSearched_upperName, hrest⟩

theorem endOfHead_contentLen {info' : HttpDef} {str : List UInt8} (h : endOfHead info str = some info') :
    info'.ContentLen = info.ContentLen := by
  unfold endOfHead at h
  split at h
  · obtain rfl := Option.some.inj h
    rfl
  · obtain ⟨headEnd, -, rfl⟩ := Option.map_eq_some_iff.1 h
    rfl

/-- **When `tmp` is large enough**, for any bytes. -/
theorem lineFits_iff (recvmsg : List UInt8) :
    httpChecked info recvmsg ≠ .error .copy ↔ LineFits info recvmsg := by
  cases hend : endOfHead info (CString.ofBuffer recvmsg).bytes with
  | none =>
      simp only [httpChecked, LineFits, hend]
      exact iff_of_true (fun h => nomatch h) fun h => nomatch h
  | some info' =>
      simp only [httpChecked, LineFits, hend]
      rw [endOfHead_contentLen hend]
      by_cases hlen : info.ContentLen = 0
      · rw [if_pos hlen]
        cases hfind : findContentLength (CString.ofBuffer recvmsg).bytes with
        | none => exact iff_of_true (fun h => nomatch h) fun _ _ _ h => nomatch h
        | some ps =>
            dsimp only
            cases hcrlf : strstr crlf ps with
            | none =>
                refine iff_of_true (fun h => nomatch h) ?_
                intro _ _ ps' hps hin
                obtain rfl := Option.some.inj hps
                exact absurd hin (strstr_eq_none_iff.1 hcrlf)
            | some pe =>
                -- the line is copied before anything else can go wrong
                obtain ⟨name, rest, hname, rfl⟩ := findContentLength_spec hfind
                have hrest : strstr crlf rest = some pe := by
                  rwa [strstr_crlf_append hname.noCr] at hcrlf
                have hin : crlf <:+: name ++ rest := by
                  by_contra hnot
                  rw [strstr_eq_none_iff.2 hnot] at hcrlf
                  cases hcrlf
                have hdrop : (name ++ rest).drop 15 = rest := by rw [← hname.length, List.drop_left]
                have hcopy : lineLength (lineOf rest) ≠ .error .copy ↔
                    1 ≤ (lineOf rest).length ∧ (lineOf rest).length ≤ 33 := by
                  rw [ne_eq, lineLength_eq_copy_iff, not_not]
                have hbind : ((copyLength (name ++ rest) pe).bind fun ContentLen =>
                    compareLength { info' with ContentLen := ContentLen } recvmsg.length) ≠
                      .error .copy ↔ lineLength (lineOf rest) ≠ .error .copy := by
                  rw [copyLength_eq hname hrest]
                  cases lineLength (lineOf rest) with
                  | error e => simp only [Except.bind, ne_eq, Except.error.injEq]
                  | ok n => exact iff_of_true compareLength_ne_copy fun h => nomatch h
                dsimp only
                rw [hbind, hcopy]
                constructor
                · intro hfits _ _ ps' hps _
                  obtain rfl := Option.some.inj hps
                  rwa [hdrop]
                · intro h
                  have hfits := h rfl hlen (name ++ rest) rfl hin
                  rwa [hdrop] at hfits
      · rw [if_neg hlen]
        exact iff_of_true compareLength_ne_copy fun _ h => absurd h hlen

/-- **When `HttpChecked` does what it is for**: for every request, when the line it finds says the length
    of the body; and for any bytes, when the line it finds has between 1 and 33 bytes behind the name. -/
theorem httpChecked_iff (r : Request) (info : HttpDef) (recvmsg : List UInt8) :
    (FramedAlike DF_NET_MSGBUFLEN r ↔ SaysLength DF_NET_MSGBUFLEN r) ∧
      (httpChecked info recvmsg ≠ .error .copy ↔ LineFits info recvmsg) :=
  ⟨framedAlike_iff, lineFits_iff recvmsg⟩

/-- `POST /adpapi HTTP/1.1` with `Content-Length:2`, without a blank. -/
def closeRequest : Request where
  method := ascii "POST"
  target := ascii "/adpapi"
  fields := [⟨ascii "Content-Length", ascii "2", isName_contentLength, by decide +kernel⟩]
  body := ascii "\x7b\x7d"
  isMethod := by decide +kernel
  isTarget := by decide +kernel
  isBody := ⟨[], ascii "2", [], rfl, by decide +kernel, by decide, by decide +kernel, rfl⟩

/-- It is taken for complete without its body; and a head with an empty line behind the name makes the
    copy run out of `tmp`. -/
theorem blank_missing : ¬ FramedAlike DF_NET_MSGBUFLEN closeRequest ∧
    httpChecked .init (lowerName ++ crlf ++ crlf) = .error .copy := by
  refine ⟨fun h => ?_, by decide⟩
  have hrun := h [closeRequest.head] (by decide) (by decide) (by decide)
  exact absurd hrun (by decide)

end SmartPlat.HttpAPI
