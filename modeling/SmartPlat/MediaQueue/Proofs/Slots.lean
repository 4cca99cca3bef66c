import SmartPlat.MediaQueue.Queue
import SmartPlat.Lib.Transition

set_option autoImplicit false

/-! # Media queue: which reader owns which slot

A slot is a queue index and a reader index. The table never hands out a slot that is taken, and a
registration that is turned down changes no queue. What can break the ownership is the way back:
`MediaQueueUnRegistReadHandle` clears the slot its handle names, whoever sits there by now, and the
handle of a registration that found no slot names the write pointer. Indices outside the table are
the third way: `QUEUE_CHN_MAX` passes the check of both functions, and `DisdroyQueue` checks nothing. -/

namespace SmartPlat.MediaQueue

open SmartPlat.Lib

variable {s s' : QueueState} {h h' : ℕ} {q : Fin queueChnMax} {i : Fin queueUseMax}

/-! ## Slots -/

/-- The handle names slot `i` of queue `q`. -/
structure Names (handle : MediaQueueRegistHandle) (q : Fin queueChnMax) (i : Fin queueUseMax) :
    Prop where
  queue : handle.queueID = q.val
  reader : handle.registerID = i.val

/-- Every live handle has a slot of an existing queue, and no two have the same. -/
structure Owned (s : QueueState) : Prop where
  slot : ∀ h, s.live h = true → ∃ q i, Names (s.handles h) q i ∧
    (s.queueHandle q).enabled = true ∧ ((s.queueHandle q).pRead i).isSome = true
  own : ∀ h h' q i, s.live h = true → s.live h' = true → Names (s.handles h) q i →
    Names (s.handles h') q i → h = h'

structure TableInv (s : QueueState) : Prop where
  owned : Owned s
  /-- A queue has a write pointer as long as it is in use. -/
  writing : ∀ q, (s.queueHandle q).pWrite.isSome = (s.queueHandle q).enabled
  reader : ∀ h, (s.handles h).registerID = -1 ∨
    ∃ i : Fin queueUseMax, (s.handles h).registerID = i.val

theorem Names.unique {handle : MediaQueueRegistHandle} {q' : Fin queueChnMax} {i' : Fin queueUseMax}
    (hn : Names handle q i) (hn' : Names handle q' i') : q = q' ∧ i = i' := by
  have hq := hn.queue.symm.trans hn'.queue
  have hi := hn.reader.symm.trans hn'.reader
  exact ⟨Fin.ext (by omega), Fin.ext (by omega)⟩

theorem queueIndex_eq_some_iff {queueID : ℤ} : queueIndex queueID = some q ↔ queueID = q.val := by
  unfold queueIndex
  split
  · next h =>
      rw [Option.some.injEq, Fin.ext_iff]
      dsimp only
      omega
  · next h =>
      have hlt := q.isLt
      simp only [reduceCtorEq, false_iff]
      omega

theorem queueIndex_eq_none_iff {queueID : ℤ} :
    queueIndex queueID = none ↔ ¬ (0 ≤ queueID ∧ queueID < queueChnMax) := by
  unfold queueIndex
  split
  · next h => exact iff_of_false (fun hsome => nomatch hsome) fun hnot => hnot h
  · next h => exact iff_of_true rfl h

theorem inv_mediaQueueInit : TableInv mediaQueueInit where
  owned := ⟨(fun _ hl => nomatch hl), fun _ _ _ _ hl => nomatch hl⟩
  writing _ := rfl
  reader _ := .inr ⟨0, rfl⟩

/-! ## What the calls do -/

/-- `CreateQueue` leaves the table as it is or puts a new queue where none was. -/
theorem createQueueIn_cases (queueHandle : QueueTable) (queueSize : ℕ) (mem : Bool) :
    createQueueIn queueHandle queueSize mem = (-1, queueHandle) ∨
      ∃ q : Fin queueChnMax, (queueHandle q).enabled = false ∧
        createQueueIn queueHandle queueSize mem
          = ((q.val : ℤ), Function.update queueHandle q (createQueue queueSize)) := by
  unfold createQueueIn
  cases hget : getQueueID queueHandle with
  | none => exact .inl rfl
  | some q =>
      have hunused := getQueueID_unused hget
      cases mem with
      | false => exact .inl (by simp [claimQueue, hunused])
      | true => exact .inr ⟨q, hunused, by simp [claimQueue, hunused]⟩

/-- A registration finds no queue, no slot, or a free slot. -/
theorem registReadHandle_cases (queueHandle : QueueTable) (handle : MediaQueueRegistHandle)
    (hid : handle.queueID ≠ queueChnMax) :
    (∀ q : Fin queueChnMax, handle.queueID = q.val → (queueHandle q).enabled = false) ∧
        registReadHandle queueHandle handle = .ok (-1, queueHandle, handle) ∨
      (∃ q : Fin queueChnMax, handle.queueID = q.val ∧
          ∀ i, ((queueHandle q).pRead i).isSome = true) ∧
        registReadHandle queueHandle handle
          = .ok (-1, queueHandle, { handle with registerID := -1, pReadData := true }) ∨
      ∃ (q : Fin queueChnMax) (i : Fin queueUseMax), handle.queueID = q.val ∧
        (queueHandle q).enabled = true ∧ (queueHandle q).pRead i = none ∧
        registReadHandle queueHandle handle
          = .ok (i.val, Function.update queueHandle q { queueHandle q with
              pRead := Function.update (queueHandle q).pRead i (queueHandle q).pWrite },
            { handle with registerID := i.val, pReadData := true }) := by
  unfold registReadHandle
  split
  · next hrange =>
      refine .inl ⟨fun q hq => ?_, rfl⟩
      have hlt := q.isLt
      rw [queueIDRefused] at hrange
      omega
  · next hrange =>
      rw [queueIDRefused, not_or] at hrange
      cases hq : queueIndex handle.queueID with
      | none => exact absurd (queueIndex_eq_none_iff.1 hq) (by omega)
      | some q =>
          dsimp only
          split
          · next henabled =>
              rw [mediaQueueRegistReadHandle, if_neg (by simp [henabled])]
              cases hslot : (List.finRange queueUseMax).find?
                  (fun i => ((queueHandle q).pRead i).isNone) with
              | none =>
                  refine .inr (.inl ⟨⟨q, queueIndex_eq_some_iff.1 hq, fun i => ?_⟩, ?_⟩)
                  · have htaken := List.find?_eq_none.1 hslot i (List.mem_finRange i)
                    simpa [Option.isSome_iff_ne_none] using htaken
                  · simp [keyFalse]
              | some i =>
                  have hfree := List.find?_some hslot
                  refine .inr (.inr ⟨q, i, queueIndex_eq_some_iff.1 hq, henabled, ?_, rfl⟩)
                  exact Option.isNone_iff_eq_none.1 hfree
          · next hunused =>
              refine .inl ⟨fun q' hq' => ?_, rfl⟩
              obtain rfl : q = q' := Option.some.inj (hq.symm.trans (queueIndex_eq_some_iff.2 hq'))
              simpa using hunused

/-- The queue with its read pointer `i` cleared. -/
def clearSlot (q : QueueHandle) (i : Fin queueUseMax) : QueueHandle :=
  { q with pRead := Function.update q.pRead i none }

@[simp] theorem clearSlot_pWrite (p : QueueHandle) : (clearSlot p i).pWrite = p.pWrite := rfl

theorem clearSlot_pRead_of_ne (p : QueueHandle) {j : Fin queueUseMax} (hj : j ≠ i) :
    (clearSlot p i).pRead j = p.pRead j := Function.update_of_ne hj _ _

/-- Where the handle of an unregistration points, and what becomes of it. -/
theorem unRegistReadHandle_cases (queueHandle : QueueTable) {handle : MediaQueueRegistHandle}
    (hid : handle.queueID ≠ queueChnMax)
    (hreader : handle.registerID = -1 ∨ ∃ i : Fin queueUseMax, handle.registerID = i.val) :
    queueIDRefused handle.queueID ∧
        unRegistReadHandle queueHandle handle = .ok (-1, queueHandle, handle) ∨
      ∃ (q : Fin queueChnMax) (q' : QueueHandle), handle.queueID = q.val ∧
        unRegistReadHandle queueHandle handle = .ok (keyTrue, Function.update queueHandle q q',
          { handle with pReadData := false }) ∧
        (handle.registerID = -1 ∧ q' = { queueHandle q with pWrite := none } ∨
          ∃ i : Fin queueUseMax, handle.registerID = i.val ∧
            q' = clearSlot (queueHandle q) i) := by
  unfold unRegistReadHandle
  split
  · next hrange => exact .inl ⟨hrange, rfl⟩
  · next hrange =>
      rw [queueIDRefused, not_or] at hrange
      cases hq : queueIndex handle.queueID with
      | none => exact absurd (queueIndex_eq_none_iff.1 hq) (by omega)
      | some q =>
          refine .inr ⟨q, ?_⟩
          rcases hreader with hreg | ⟨i, hreg⟩
          · refine ⟨_, queueIndex_eq_some_iff.1 hq, ?_, .inl ⟨hreg, rfl⟩⟩
            simp [clearReader, hreg, Except.map]
          · have hlt := i.isLt
            refine ⟨_, queueIndex_eq_some_iff.1 hq, ?_, .inr ⟨i, hreg, rfl⟩⟩
            dsimp only
            rw [clearReader, if_neg (by omega), dif_pos (by omega), Except.map]
            have hi : (⟨handle.registerID.toNat, by omega⟩ : Fin queueUseMax) = i :=
              Fin.ext (by simp only [hreg, Int.toNat_natCast])
            rw [hi]
            rfl

/-! ## What a call has to keep -/

/-- What is asked of one call: it stays inside the table, every live handle has a slot of its own
    afterwards, a registration that fails changes no queue, and an unregistration changes no write
    pointer and no cursor of another live handle. -/
structure CallSafe (s : QueueState) (e : QueueOp × Option ℤ) (s' : QueueState) : Prop where
  inside : e.2 ≠ none
  owned : Owned s'
  refused : ∀ h queueID, e = (.regist h queueID, some (-1)) → s'.queueHandle = s.queueHandle
  writing : ∀ h q, e.1 = .unRegist h → (s'.queueHandle q).pWrite = (s.queueHandle q).pWrite
  cursors : ∀ h h' q i, e.1 = .unRegist h → h' ≠ h → s.live h' = true → Names (s.handles h') q i →
    (s'.queueHandle q).pRead i = (s.queueHandle q).pRead i

/-- Where the calls do that: the index is one of the table, and an unregistered handle names neither
    the write pointer of a queue in use nor the slot of another live handle. -/
def Proper (s : QueueState) (e : QueueOp × Option ℤ) : Prop :=
  match e.1 with
  | .createQueue _ _ => True
  | .disdroyQueue queueID => 0 ≤ queueID ∧ queueID < queueChnMax
  | .regist _ queueID => queueID ≠ queueChnMax
  | .unRegist h => (s.handles h).queueID ≠ queueChnMax ∧
      ∀ q : Fin queueChnMax, (s.handles h).queueID = q.val →
        ((s.queueHandle q).enabled = true → (s.handles h).registerID ≠ -1) ∧
        ∀ h' i, h' ≠ h → s.live h' = true → Names (s.handles h') q i →
          (s.handles h).registerID ≠ i.val

/-- Owners keep their slots when no handle becomes live and no slot of a live handle is cleared. -/
theorem Owned.kept (ho : Owned s)
    (hlive : ∀ h, s'.live h = true → s.live h = true ∧ s'.handles h = s.handles h)
    (hslot : ∀ h q i, s'.live h = true → Names (s.handles h) q i →
      (s.queueHandle q).enabled = true → ((s.queueHandle q).pRead i).isSome = true →
      (s'.queueHandle q).enabled = true ∧ ((s'.queueHandle q).pRead i).isSome = true) :
    Owned s' where
  slot h hl := by
    obtain ⟨hl₀, hh⟩ := hlive h hl
    obtain ⟨q, i, hn, henabled, hread⟩ := ho.slot h hl₀
    exact ⟨q, i, hh ▸ hn, hslot h q i hl hn henabled hread⟩
  own h h' q i hl hl' hn hn' := by
    obtain ⟨hl₀, hh⟩ := hlive h hl
    obtain ⟨hl₀', hh'⟩ := hlive h' hl'
    exact ho.own h h' q i hl₀ hl₀' (hh ▸ hn) (hh' ▸ hn')

/-- Creating and destroying only has to leave the owners their slots. -/
theorem CallSafe.other {op : QueueOp} {r : ℤ} (ho : Owned s')
    (hregist : ∀ h queueID, op ≠ .regist h queueID) (hunRegist : ∀ h, op ≠ .unRegist h) :
    CallSafe s (op, some r) s' where
  inside := Option.some_ne_none r
  owned := ho
  refused h queueID he := absurd (congrArg Prod.fst he) (hregist h queueID)
  writing h _ he := absurd he (hunRegist h)
  cursors h _ _ _ he := absurd he (hunRegist h)

/-- A queue that is put in place of another one has a write pointer exactly when it is in use. -/
theorem writing_update (hI : TableInv s) {q' : QueueHandle} (hq : q'.pWrite.isSome = q'.enabled)
    (p : Fin queueChnMax) : (Function.update s.queueHandle q q' p).pWrite.isSome
      = (Function.update s.queueHandle q q' p).enabled := by
  by_cases hp : p = q
  · subst hp
    rw [Function.update_self]
    exact hq
  · rw [Function.update_of_ne hp]
    exact hI.writing p

theorem createQueue_safe (hI : TableInv s) {queueSize : ℕ} {mem : Bool} {r : ℤ}
    (hcall : queueCall s (.createQueue queueSize mem) = .ok (r, s')) :
    TableInv s' ∧ CallSafe s (.createQueue queueSize mem, some r) s' := by
  obtain ⟨rfl, rfl⟩ := Prod.mk.inj (Except.ok.inj hcall)
  have hkeeps : TableInv { s with queueHandle := (createQueueIn s.queueHandle queueSize mem).2 } := by
    rcases createQueueIn_cases s.queueHandle queueSize mem with heq | ⟨q, hunused, heq⟩
    · rw [heq]
      exact hI
    · rw [heq]
      refine ⟨hI.owned.kept (fun h hl => ⟨hl, rfl⟩) fun h q' i _ _ henabled hread => ?_,
        fun q' => ?_, hI.reader⟩
      · have hne : q' ≠ q := by
          rintro rfl
          rw [hunused] at henabled
          cases henabled
        simp only [Function.update_of_ne hne]
        exact ⟨henabled, hread⟩
      · exact writing_update hI rfl q'
  exact ⟨hkeeps, .other hkeeps.owned (fun _ _ => QueueOp.noConfusion) fun _ => QueueOp.noConfusion⟩

theorem disdroyQueue_safe (hI : TableInv s) {queueID r : ℤ}
    (hcall : queueCall s (.disdroyQueue queueID) = .ok (r, s')) :
    TableInv s' ∧ CallSafe s (.disdroyQueue queueID, some r) s' := by
  obtain ⟨⟨r', t⟩, hd, heq⟩ := map_eq_ok_iff.1 hcall
  obtain ⟨rfl, rfl⟩ := Prod.mk.inj heq
  have hkeeps : TableInv { s with
      queueHandle := t
      live := fun h => s.live h && decide ((s.handles h).queueID ≠ queueID) } := by
    have hlive : ∀ h, (s.live h && decide ((s.handles h).queueID ≠ queueID)) = true →
        s.live h = true ∧ (s.handles h).queueID ≠ queueID := by
      intro h hl
      rw [Bool.and_eq_true, decide_eq_true_iff] at hl
      exact hl
    unfold disdroyQueue at hd
    split at hd
    · cases hd
    · next q hq =>
        rw [queueIndex_eq_some_iff] at hq
        split at hd
        · next henabled =>
            obtain ⟨-, rfl⟩ := Prod.mk.inj (Except.ok.inj hd)
            refine ⟨hI.owned.kept (fun h hl => ⟨(hlive h hl).1, rfl⟩)
              fun h q' i hl hn henabled hread => ?_, fun q' => ?_, hI.reader⟩
            · have hne : q' ≠ q := by
                rintro rfl
                exact (hlive h hl).2 (hn.queue.trans hq.symm)
              simp only [Function.update_of_ne hne]
              exact ⟨henabled, hread⟩
            · exact writing_update hI rfl q'
        · obtain ⟨-, rfl⟩ := Prod.mk.inj (Except.ok.inj hd)
          exact ⟨hI.owned.kept (fun h hl => ⟨(hlive h hl).1, rfl⟩)
            fun _ _ _ _ _ henabled hread => ⟨henabled, hread⟩, hI.writing, hI.reader⟩
  exact ⟨hkeeps, .other hkeeps.owned (fun _ _ => QueueOp.noConfusion) fun _ => QueueOp.noConfusion⟩

/-- A registration that fails gives up what the handle was before. -/
theorem inv_refused (hI : TableInv s) (handle : MediaQueueRegistHandle)
    (hreader : handle.registerID = -1 ∨ ∃ i : Fin queueUseMax, handle.registerID = i.val) :
    TableInv { s with
      handles := Function.update s.handles h handle
      live := Function.update s.live h false } := by
  have hlive : ∀ h', Function.update s.live h false h' = true → h' ≠ h ∧ s.live h' = true := by
    intro h' hl
    have hne : h' ≠ h := by
      rintro rfl
      rw [Function.update_self] at hl
      cases hl
    rw [Function.update_of_ne hne] at hl
    exact ⟨hne, hl⟩
  refine ⟨hI.owned.kept (fun h' hl => ⟨(hlive h' hl).2, Function.update_of_ne (hlive h' hl).1 _ _⟩)
    fun _ _ _ _ _ henabled hread => ⟨henabled, hread⟩, hI.writing, fun h' => ?_⟩
  by_cases hh : h' = h
  · subst hh
    simpa only [Function.update_self] using hreader
  · simpa only [Function.update_of_ne hh] using hI.reader h'

/-- A registration that succeeds takes a slot nobody owned. -/
theorem inv_granted (hI : TableInv s) (handle : MediaQueueRegistHandle) (hn : Names handle q i)
    (henabled : (s.queueHandle q).enabled = true) (hfree : (s.queueHandle q).pRead i = none) :
    TableInv {
      queueHandle := Function.update s.queueHandle q { s.queueHandle q with
        pRead := Function.update (s.queueHandle q).pRead i (s.queueHandle q).pWrite }
      handles := Function.update s.handles h handle
      live := Function.update s.live h true } := by
  have hwrite : (s.queueHandle q).pWrite.isSome = true := (hI.writing q).trans henabled
  -- nobody was in the slot
  have hnobody : ∀ h', s.live h' = true → ¬ Names (s.handles h') q i := by
    intro h' hl hn'
    obtain ⟨q₁, i₁, hn₁, -, hread⟩ := hI.owned.slot h' hl
    obtain ⟨rfl, rfl⟩ := hn'.unique hn₁
    rw [hfree] at hread
    cases hread
  refine ⟨⟨fun h' hl => ?_, fun h₁ h₂ p j hl₁ hl₂ hn₁ hn₂ => ?_⟩, fun p => ?_, fun h' => ?_⟩
  · by_cases hh : h' = h
    · subst hh
      refine ⟨q, i, ?_, ?_, ?_⟩
      · simpa only [Function.update_self] using hn
      · simpa only [Function.update_self] using henabled
      · simpa only [Function.update_self] using hwrite
    · simp only [Function.update_of_ne hh] at hl ⊢
      obtain ⟨p, j, hn', hen, hread⟩ := hI.owned.slot h' hl
      refine ⟨p, j, hn', ?_⟩
      by_cases hp : p = q
      · subst hp
        have hj : j ≠ i := by
          rintro rfl
          exact hnobody h' hl hn'
        simpa only [Function.update_self, Function.update_of_ne hj] using ⟨hen, hread⟩
      · simpa only [Function.update_of_ne hp] using ⟨hen, hread⟩
  · by_cases hh₁ : h₁ = h <;> by_cases hh₂ : h₂ = h
    · rw [hh₁, hh₂]
    · subst hh₁
      simp only [Function.update_self, Function.update_of_ne hh₂] at hl₂ hn₁ hn₂
      obtain ⟨rfl, rfl⟩ := hn.unique hn₁
      exact absurd hn₂ (hnobody h₂ hl₂)
    · subst hh₂
      simp only [Function.update_self, Function.update_of_ne hh₁] at hl₁ hn₁ hn₂
      obtain ⟨rfl, rfl⟩ := hn.unique hn₂
      exact absurd hn₁ (hnobody h₁ hl₁)
    · simp only [Function.update_of_ne hh₁, Function.update_of_ne hh₂] at hl₁ hl₂ hn₁ hn₂
      exact hI.owned.own h₁ h₂ p j hl₁ hl₂ hn₁ hn₂
  · refine writing_update hI ?_ p
    exact hI.writing q
  · by_cases hh : h' = h
    · subst hh
      simpa only [Function.update_self] using .inr ⟨i, hn.reader⟩
    · simpa only [Function.update_of_ne hh] using hI.reader h'

/-- A registration only has to leave the owners their slots, and the queues alone when it fails. -/
theorem CallSafe.registered {queueID r : ℤ} (ho : Owned s')
    (hrefused : r = -1 → s'.queueHandle = s.queueHandle) :
    CallSafe s (.regist h queueID, some r) s' where
  inside := Option.some_ne_none r
  owned := ho
  refused _ _ he := hrefused (Option.some.inj (congrArg Prod.snd he))
  writing _ _ he := nomatch he
  cursors _ _ _ _ he := nomatch he

theorem regist_safe (hI : TableInv s) {queueID r : ℤ} (hid : queueID ≠ queueChnMax)
    (hcall : queueCall s (.regist h queueID) = .ok (r, s')) :
    TableInv s' ∧ CallSafe s (.regist h queueID, some r) s' := by
  obtain ⟨⟨r', t, handle⟩, hd, heq⟩ := map_eq_ok_iff.1 hcall
  obtain ⟨rfl, rfl⟩ := Prod.mk.inj heq
  rcases registReadHandle_cases s.queueHandle { s.handles h with queueID := queueID } hid with
    ⟨-, hcase⟩ | ⟨-, hcase⟩ | ⟨q, i, hq, henabled, hfree, hcase⟩
  · cases hcase.symm.trans hd
    have hkeeps := inv_refused (h := h) hI { s.handles h with queueID := queueID } (hI.reader h)
    exact ⟨hkeeps, .registered hkeeps.owned fun _ => rfl⟩
  · cases hcase.symm.trans hd
    have hkeeps := inv_refused (h := h) hI ⟨true, -1, queueID⟩ (.inl rfl)
    exact ⟨hkeeps, .registered hkeeps.owned fun _ => rfl⟩
  · cases hcase.symm.trans hd
    have hkeeps := inv_granted (h := h) hI ⟨true, i.val, queueID⟩ ⟨hq, rfl⟩ henabled hfree
    have hpos : decide ((0 : ℤ) ≤ i.val) = true := decide_eq_true (by omega)
    simp only [hpos]
    exact ⟨hkeeps, .registered hkeeps.owned fun hr => absurd hr (by omega)⟩

/-- A slot that no live handle has can be cleared. -/
theorem inv_cleared (hI : TableInv s)
    (hnobody : ∀ h', s.live h' = true → ¬ Names (s.handles h') q i) : TableInv { s with
      queueHandle := Function.update s.queueHandle q (clearSlot (s.queueHandle q) i) } := by
  refine ⟨hI.owned.kept (fun h' hl => ⟨hl, rfl⟩) fun h' p j hl hn henabled hread => ?_,
    fun p => ?_, hI.reader⟩
  · by_cases hp : p = q
    · subst hp
      have hj : j ≠ i := by
        rintro rfl
        exact hnobody h' hl hn
      simp only [Function.update_self, clearSlot_pRead_of_ne _ hj]
      exact ⟨henabled, hread⟩
    · simpa only [Function.update_of_ne hp] using ⟨henabled, hread⟩
  · refine writing_update hI ?_ p
    exact hI.writing q

/-- Unregistering a handle that names no slot of another one takes away its own slot at most. -/
theorem unRegist_safe (hI : TableInv s) {r : ℤ} (hproper : Proper s (.unRegist h, some r))
    (hcall : queueCall s (.unRegist h) = .ok (r, s')) :
    TableInv s' ∧ CallSafe s (.unRegist h, some r) s' := by
  obtain ⟨hid, hslots⟩ := hproper
  obtain ⟨⟨r', t, handle⟩, hd, heq⟩ := map_eq_ok_iff.1 hcall
  obtain ⟨rfl, rfl⟩ := Prod.mk.inj heq
  have hgone := fun handle => inv_refused (h := h) hI handle
  rcases unRegistReadHandle_cases s.queueHandle hid (hI.reader h) with
    ⟨-, hcase⟩ | ⟨q, q', hq, hcase, ⟨hreg, rfl⟩ | ⟨i, hreg, rfl⟩⟩
  · cases hcase.symm.trans hd
    have hkeeps := hgone (s.handles h) (hI.reader h)
    exact ⟨hkeeps, Option.some_ne_none _, hkeeps.owned, (fun _ _ he => nomatch he),
      fun _ _ _ => rfl, fun _ _ _ _ _ _ _ _ => rfl⟩
  · -- a queue that is not in use has no write pointer to lose
    have hunused : (s.queueHandle q).pWrite = none := by
      have hnot : (s.queueHandle q).enabled = false := by
        by_contra hen
        exact (hslots q hq).1 (by simpa using hen) hreg
      rw [← Option.isSome_eq_false_iff.trans Option.isNone_iff_eq_none, hI.writing, hnot]
    have hsame : { s.queueHandle q with pWrite := none } = s.queueHandle q := by rw [← hunused]
    rw [hsame, Function.update_eq_self] at hcase
    cases hcase.symm.trans hd
    have hkeeps := hgone { s.handles h with pReadData := false } (hI.reader h)
    exact ⟨hkeeps, Option.some_ne_none _, hkeeps.owned, (fun _ _ he => nomatch he),
      fun _ _ _ => rfl, fun _ _ _ _ _ _ _ _ => rfl⟩
  · cases hcase.symm.trans hd
    have hothers : ∀ h', h' ≠ h → s.live h' = true → ¬ Names (s.handles h') q i :=
      fun h' hh hl hn => (hslots q hq).2 h' i hh hl hn hreg
    have hkeeps := inv_cleared (q := q) (i := i)
      (hgone { s.handles h with pReadData := false } (hI.reader h)) (by
        intro h' hl hn
        have hh : h' ≠ h := by
          rintro rfl
          simp only [Function.update_self] at hl
          cases hl
        simp only [Function.update_of_ne hh] at hl hn
        exact hothers h' hh hl hn)
    refine ⟨hkeeps, Option.some_ne_none _, hkeeps.owned, (fun _ _ he => nomatch he),
      fun h₁ p _ => ?_, fun h₁ h' p j he hh hl hn => ?_⟩
    · by_cases hp : p = q
      · subst hp
        simp only [Function.update_self, clearSlot_pWrite]
      · simp only [Function.update_of_ne hp]
    · cases he
      by_cases hp : p = q
      · subst hp
        have hj : j ≠ i := by
          rintro rfl
          exact hothers h' hh hl hn
        simp only [Function.update_self, clearSlot_pRead_of_ne _ hj]
      · simp only [Function.update_of_ne hp]

/-! ## Every run -/

/-- The call indexes `queueHandle` outside its elements. -/
def OutOfTable (s : QueueState) : QueueOp → Prop
  | .createQueue _ _ => False
  | .disdroyQueue queueID => ¬ (0 ≤ queueID ∧ queueID < queueChnMax)
  | .regist _ queueID => queueID = queueChnMax
  | .unRegist h => (s.handles h).queueID = queueChnMax

theorem queueCall_outOfTable {op : QueueOp} (hout : OutOfTable s op) :
    queueCall s op = .error .badAccess := by
  have hnone : queueIndex queueChnMax = none := queueIndex_eq_none_iff.2 (by omega)
  have hpass : ¬ queueIDRefused queueChnMax := by decide
  cases op with
  | createQueue queueSize mem => exact hout.elim
  | disdroyQueue queueID =>
      have hid := queueIndex_eq_none_iff.2 hout
      simp only [queueCall, disdroyQueue, hid, Except.map]
  | regist h queueID =>
      obtain rfl : queueID = queueChnMax := hout
      simp only [queueCall, registReadHandle, if_neg hpass, hnone, Except.map]
  | unRegist h =>
      have hid : (s.handles h).queueID = queueChnMax := hout
      simp only [queueCall, unRegistReadHandle, hid, if_neg hpass, hnone, Except.map]

theorem not_safe_of_outOfTable {op : QueueOp} {res : Option ℤ} (hout : OutOfTable s op)
    (hs : TableStep s (op, res) s') : ¬ CallSafe s (op, res) s' := by
  intro hsafe
  cases hs with
  | returns hcall => cases (queueCall_outOfTable hout).symm.trans hcall
  | faults _ => exact hsafe.inside rfl

/-- A handle that names the write pointer of a queue in use, or the slot of another live handle,
    takes it away. -/
theorem not_safe_unRegist (hI : TableInv s) {res : Option ℤ}
    (hid : (s.handles h).queueID = q.val)
    (hbad : (s.queueHandle q).enabled = true ∧ (s.handles h).registerID = -1 ∨
      ∃ h' i, h' ≠ h ∧ s.live h' = true ∧ Names (s.handles h') q i ∧
        (s.handles h).registerID = i.val)
    (hs : TableStep s (.unRegist h, res) s') : ¬ CallSafe s (.unRegist h, res) s' := by
  intro hsafe
  have hlt := q.isLt
  have hne : (s.handles h).queueID ≠ queueChnMax := by omega
  have hrange : ¬ queueIDRefused (s.handles h).queueID := by
    rw [queueIDRefused]
    omega
  obtain ⟨q₁, q', hq₁, hcase, heffect⟩ :=
    (unRegistReadHandle_cases s.queueHandle hne (hI.reader h)).resolve_left fun hr => hrange hr.1
  obtain rfl : q₁ = q := Fin.ext (by omega)
  have htable : s'.queueHandle q₁ = q' := by
    cases hs with
    | returns hcall =>
        simp only [queueCall, hcase, Except.map, Except.ok.injEq, Prod.mk.injEq] at hcall
        obtain ⟨-, rfl⟩ := hcall
        exact Function.update_self _ _ _
    | faults hcall =>
        simp only [queueCall, hcase, Except.map] at hcall
        cases hcall
  rcases hbad with ⟨henabled, hreg⟩ | ⟨h', i, hh, hl, hn, hreg⟩
  · rcases heffect with ⟨-, rfl⟩ | ⟨i, hreg', -⟩
    · have hkept := hsafe.writing h q₁ rfl
      have hwrite := hI.writing q₁
      rw [← hkept, htable, henabled] at hwrite
      cases hwrite
    · omega
  · rcases heffect with ⟨hreg', -⟩ | ⟨j, hreg', rfl⟩
    · omega
    · obtain rfl : j = i := Fin.ext (by omega)
      have hkept := hsafe.cursors h h' q₁ j rfl hh hl hn
      obtain ⟨q₂, i₂, hn₂, -, hread⟩ := hI.owned.slot h' hl
      obtain ⟨rfl, rfl⟩ := hn.unique hn₂
      have hcleared : (clearSlot (s.queueHandle q₁) j).pRead j = none := Function.update_self _ _ _
      rw [← hkept, htable, hcleared] at hread
      cases hread

/-- A call that is not proper does what is forbidden at once. -/
theorem not_safe_of_not_proper (hI : TableInv s) {e : QueueOp × Option ℤ} (hnot : ¬ Proper s e)
    (hs : TableStep s e s') : ¬ CallSafe s e s' := by
  obtain ⟨op, res⟩ := e
  by_cases hout : OutOfTable s op
  · exact not_safe_of_outOfTable hout hs
  · cases op with
    | createQueue queueSize mem => exact absurd trivial hnot
    | disdroyQueue queueID => exact absurd (not_not.1 hout) hnot
    | regist h queueID => exact absurd hout hnot
    | unRegist h =>
        intro hsafe
        refine hnot ⟨hout, fun q hid => ⟨fun henabled hreg => ?_, fun h' i hh hl hn hreg => ?_⟩⟩
        · exact not_safe_unRegist hI hid (.inl ⟨henabled, hreg⟩) hs hsafe
        · exact not_safe_unRegist hI hid (.inr ⟨h', i, hh, hl, hn, hreg⟩) hs hsafe

/-- A proper call returns. -/
theorem queueCall_ok (hI : TableInv s) {op : QueueOp} {res : Option ℤ} (hproper : Proper s (op, res)) :
    ∃ r, queueCall s op = .ok r := by
  cases op with
  | createQueue queueSize mem => exact ⟨_, rfl⟩
  | disdroyQueue queueID =>
      simp only [queueCall, disdroyQueue]
      cases hid : queueIndex queueID with
      | none => exact absurd hproper (queueIndex_eq_none_iff.1 hid)
      | some q =>
          dsimp only
          split <;> exact ⟨_, rfl⟩
  | regist h queueID =>
      rcases registReadHandle_cases s.queueHandle { s.handles h with queueID := queueID } hproper with
        ⟨-, hcase⟩ | ⟨-, hcase⟩ | ⟨q, i, -, -, -, hcase⟩ <;>
      exact ⟨_, by rw [queueCall, hcase, Except.map]⟩
  | unRegist h =>
      rcases unRegistReadHandle_cases s.queueHandle hproper.1 (hI.reader h) with
        ⟨-, hcase⟩ | ⟨q, q', -, hcase, -⟩ <;>
      exact ⟨_, by rw [queueCall, hcase, Except.map]⟩

theorem safe_of_proper (hI : TableInv s) {e : QueueOp × Option ℤ} (hproper : Proper s e)
    (hs : TableStep s e s') : TableInv s' ∧ CallSafe s e s' := by
  obtain ⟨op, res⟩ := e
  cases hs with
  | returns hcall =>
      cases op with
      | createQueue queueSize mem => exact createQueue_safe hI hcall
      | disdroyQueue queueID => exact disdroyQueue_safe hI hcall
      | regist h queueID => exact regist_safe hI hproper hcall
      | unRegist h => exact unRegist_safe hI hproper hcall
  | faults hcall =>
      obtain ⟨r, hok⟩ := queueCall_ok hI hproper
      cases hok.symm.trans hcall

/-- **When readers own their slots.** The runs in which every call stays inside the table, leaves
    every live handle a slot of its own, changes no queue when a registration fails, and touches no
    write pointer and no other live handle's cursor when one is unregistered, are the runs in which
    every call is proper. -/
theorem reader_slots_iff {tr : List (QueueOp × Option ℤ)} :
    Run (stepThat CallSafe TableStep) mediaQueueInit tr s ↔
      Run (stepWhen Proper TableStep) mediaQueueInit tr s := by
  refine Run.each_iff TableInv inv_mediaQueueInit (fun s e s' hI hproper hs => ?_)
    fun s e s' hI hnot hs => ?_
  · exact safe_of_proper hI hproper hs
  · exact not_safe_of_not_proper hI hnot hs

/-- A reader keeps its handle while its queue is destroyed and created again; when it unregisters, it
    clears the slot of the reader that came after it. -/
def staleRun : List (QueueOp × Option ℤ) :=
  [(.createQueue 1024 true, some 1), (.regist 0 1, some 0), (.disdroyQueue 1, some 0),
    (.createQueue 1024 true, some 1), (.regist 1 1, some 0)]

theorem stale_unregistration_unsafe : ∃ s s', Run TableStep mediaQueueInit staleRun s ∧
    TableStep s (.unRegist 0, some 0) s' ∧ ¬ CallSafe s (.unRegist 0, some 0) s' := by
  have hrun : Run TableStep mediaQueueInit staleRun _ :=
    ((((Run.nil.snoc (.returns rfl)).snoc (.returns rfl)).snoc (.returns rfl)).snoc
      (.returns rfl)).snoc (.returns rfl)
  refine ⟨_, _, hrun, .returns rfl, fun hsafe => ?_⟩
  have hcursor := hsafe.cursors 0 1 1 0 rfl (by decide) rfl ⟨rfl, rfl⟩
  cases hcursor

end SmartPlat.MediaQueue
