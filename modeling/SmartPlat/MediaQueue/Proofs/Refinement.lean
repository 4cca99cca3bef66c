import SmartPlat.MediaQueue.Proofs.Frames
import Mathlib.Data.List.FinRange

set_option autoImplicit false

/-! # Media queue: what each operation does to the unread frames

`Holds q w u` describes a queue by its write position and each reader's unread frames; every state a
queue reaches is described so (`Integrity.lean`). Here one lemma for each operation says what it
makes of the description. A write first decides, reader by reader, which of its unread frames the
reader keeps (`landing`); then either some reader has no place to go and the server is aborted
(`writeData_error`), or the frame is appended to what every reader kept (`writeData_ok`). -/

namespace SmartPlat.MediaQueue

open SmartPlat.Lib

/-! ## Describing a queue -/

inductive ReaderHolds (buff : List UInt8) (size w : ℕ) :
    Option ℕ → Option (List Frame) → Prop
  | free : ReaderHolds buff size w none none
  | reading {r : ℕ} {fs : List Frame} :
      Unread buff size w r fs → ReaderHolds buff size w (some r) (some fs)

/-- The queue writes at `w` and reader `i` has the frames `u i` before it (`none`: slot `i` is
    free). -/
structure Holds (q : QueueHandle) (w : ℕ) (u : Fin queueUseMax → Option (List Frame)) : Prop where
  enabled : q.enabled = true
  pWrite : q.pWrite = some w
  len : q.dataBuff.length = q.dataBuffSize
  w_le : w ≤ q.dataBuffSize
  w_lt : 0 < q.dataBuffSize → w < q.dataBuffSize
  readers : ∀ i, ReaderHolds q.dataBuff q.dataBuffSize w (q.pRead i) (u i)

/-- A write of `len` bytes at `w` that ends before or at the end of the buffer. -/
def contiguous (size w len : ℕ) : Bool := decide (w + len ≤ size)

/-- The guards of `WriteData` let the new frame run over a reader with these unread frames. They
    differ at equality: a frame that fills the ring exactly overruns only if it wraps. -/
def overruns (size w len : ℕ) (fs : List Frame) : Bool :=
  if contiguous size w len then decide (size < totalSize Frame.size fs + len)
  else decide (size ≤ totalSize Frame.size fs + len)

theorem overruns_of_lt {size w len : ℕ} {fs : List Frame}
    (h : size < totalSize Frame.size fs + len) : overruns size w len fs = true := by
  rw [overruns]
  split <;> rw [decide_eq_true_iff] <;> omega

theorem not_overruns_of_lt {size w len : ℕ} {fs : List Frame}
    (h : totalSize Frame.size fs + len < size) : overruns size w len fs = false := by
  rw [overruns]
  split <;> rw [decide_eq_false_iff_not] <;> omega

/-- The unread frames a reader keeps when `len` bytes are written; `none` aborts the server. -/
def landing (size w len : ℕ) (fs : List Frame) : Option (List Frame) :=
  if overruns size w len fs then resync Frame.size Frame.isKey (size - len) fs else some fs

/-- The unread frames once the frame is written: it is appended, but a ring it fills to the last
    byte reads as empty. -/
def appended (size : ℕ) (f : Frame) (s : List Frame) : List Frame :=
  if totalSize Frame.size s + f.size = size then [] else s ++ [f]

/-- What a write of `f` makes of a reader's unread frames. -/
def pushUnread (size w : ℕ) (f : Frame) (fs : List Frame) : Option (List Frame) :=
  (landing size w f.size fs).map (appended size f)

variable {q q' : QueueHandle} {w : ℕ} {u : Fin queueUseMax → Option (List Frame)} {f : Frame}
  {i : Fin queueUseMax}

theorem Holds.unread {r : ℕ} {fs : List Frame} (h : Holds q w u) (hr : q.pRead i = some r)
    (hu : u i = some fs) : Unread q.dataBuff q.dataBuffSize w r fs := by
  have hi := h.readers i
  rw [hr, hu] at hi
  cases hi with
  | reading hun => exact hun

theorem Holds.reader {fs : List Frame} (h : Holds q w u) (hu : u i = some fs) :
    ∃ r, q.pRead i = some r ∧ Unread q.dataBuff q.dataBuffSize w r fs := by
  have hi := h.readers i
  rw [hu] at hi
  cases hr : q.pRead i with
  | none => rw [hr] at hi; nomatch hi
  | some r => exact ⟨r, rfl, h.unread hr hu⟩

theorem Holds.free_iff (h : Holds q w u) : q.pRead i = none ↔ u i = none := by
  have hi := h.readers i
  cases hr : q.pRead i with
  | none =>
      rw [hr] at hi
      generalize u i = ui at hi
      cases hi
      simp
  | some r =>
      rw [hr] at hi
      generalize u i = ui at hi
      cases hi
      simp

theorem Holds.frames {r : ℕ} (h : Holds q w u) (hr : q.pRead i = some r) :
    ∃ fs, u i = some fs ∧ Unread q.dataBuff q.dataBuffSize w r fs := by
  cases hu : u i with
  | none => rw [h.free_iff.2 hu] at hr; cases hr
  | some fs => exact ⟨fs, rfl, h.unread hr hu⟩

/-! ## Creation, registration, reading -/

theorem createQueue_holds (queueSize : ℕ) :
    Holds (createQueue queueSize) 0 fun _ => none where
  enabled := rfl
  pWrite := rfl
  len := List.length_replicate
  w_le := Nat.zero_le _
  w_lt := id
  readers := fun _ => .free

/-- A reader at the write pointer has nothing unread. -/
theorem unread_nil {buff : List UInt8} {size : ℕ} (hlen : buff.length = size) (hw : w ≤ size) :
    Unread buff size w w [] :=
  (Blocks.nil hlen hw).unread

theorem regist_holds (h : Holds q w u) (hr : mediaQueueRegistReadHandle q = ((i : ℤ), q')) :
    u i = none ∧ Holds q' w (Function.update u i (some [])) := by
  rw [mediaQueueRegistReadHandle, if_neg (by simp [h.enabled])] at hr
  split at hr
  · next j hfind =>
      have hji : (j : ℤ) = (i : ℤ) := congrArg Prod.fst hr
      obtain rfl : j = i := Fin.ext (by exact_mod_cast hji)
      obtain rfl := congrArg Prod.snd hr
      have hfree : q.pRead j = none := by simpa using List.find?_some hfind
      refine ⟨h.free_iff.1 hfree, h.enabled, h.pWrite, h.len, h.w_le, h.w_lt, fun k => ?_⟩
      by_cases hk : k = j
      · subst hk
        simp only [Function.update_self, h.pWrite]
        exact .reading (unread_nil h.len h.w_le)
      · simp only [Function.update_of_ne hk]
        exact h.readers k
  · exact absurd (congrArg Prod.fst hr) (by simp only [keyFalse]; omega)

/-- A fifth registration fails and leaves the queue as it is. -/
theorem regist_refused (h : Holds q w u) (hr : mediaQueueRegistReadHandle q = (keyFalse, q')) :
    q' = q := by
  rw [mediaQueueRegistReadHandle, if_neg (by simp [h.enabled])] at hr
  split at hr
  · exact absurd (congrArg Prod.fst hr) (by simp only [keyFalse]; omega)
  · exact (congrArg Prod.snd hr).symm

/-- **What `ReadData` does**: the first unread frame, if the buffer takes it, and nothing else. -/
theorem readData_eq {r : ℕ} {fs : List Frame} {bufflen : ℤ} (h : Holds q w u)
    (hr : q.pRead i = some r) (hu : u i = some fs) :
    readData i q bufflen = match fs with
      | [] => .ok (none, q)
      | f :: _ =>
          if f.size ≤ bufflen then
            .ok (some f.data, { q with
              pRead := Function.update q.pRead i (some (ringAdvance q.dataBuffSize r f.size)) })
          else .ok (none, q) := by
  have hun := (h.unread hr hu).blocks
  cases fs with
  | nil => exact hun.readData_nil h.enabled h.pWrite hr bufflen
  | cons f fs =>
      rw [hun.readData_cons h.enabled h.pWrite hr f.whole, if_pos f.lengthKnown]
      rfl

theorem read_holds {f : Frame} {fs : List Frame} {r : ℕ} (h : Holds q w u)
    (hr : q.pRead i = some r) (hu : u i = some (f :: fs)) :
    Holds { q with
      pRead := Function.update q.pRead i (some (ringAdvance q.dataBuffSize r f.size)) }
      w (Function.update u i (some fs)) := by
  refine ⟨h.enabled, h.pWrite, h.len, h.w_le, h.w_lt, fun k => ?_⟩
  by_cases hk : k = i
  · subst hk
    simp only [Function.update_self]
    exact .reading (h.unread hr hu).tail
  · simp only [Function.update_of_ne hk]
    exact h.readers k

/-! ## The loop over the read pointers -/

/-- One turn of the loop in `balanceReaders`. -/
def balanceOne (guard : ℕ → Bool) (move : ℕ → Except Fault ℕ) :
    Option ℕ → Except Fault (Option ℕ)
  | none => .ok none
  | some r => if guard r then (move r).map some else .ok (some r)

theorem balanceReaders_cons (guard : ℕ → Bool) (move : ℕ → Except Fault ℕ)
    (i : Fin queueUseMax) (is : List (Fin queueUseMax)) (pRead : Fin queueUseMax → Option ℕ) :
    balanceReaders guard move (i :: is) pRead
      = (balanceOne guard move (pRead i)).bind fun r =>
          balanceReaders guard move is (Function.update pRead i r) := by
  rw [balanceReaders]
  cases hr : pRead i with
  | none =>
      have hself : Function.update pRead i none = pRead := by rw [← hr, Function.update_eq_self]
      simp [balanceOne, Except.bind, hself]
  | some r =>
      have hself : Function.update pRead i (some r) = pRead := by
        rw [← hr, Function.update_eq_self]
      simp only [balanceOne]
      split
      · cases move r <;> rfl
      · simp [Except.bind, hself]

theorem balanceReaders_ok {guard : ℕ → Bool} {move : ℕ → Except Fault ℕ}
    {is : List (Fin queueUseMax)} {pRead pRead' : Fin queueUseMax → Option ℕ} (hnd : is.Nodup)
    (hin : ∀ i ∈ is, balanceOne guard move (pRead i) = .ok (pRead' i))
    (hout : ∀ i, i ∉ is → pRead' i = pRead i) :
    balanceReaders guard move is pRead = .ok pRead' := by
  induction is generalizing pRead with
  | nil =>
      rw [balanceReaders]
      congr 1
      funext i
      exact (hout i (List.not_mem_nil)).symm
  | cons j is ih =>
      obtain ⟨hj, hnd⟩ := List.nodup_cons.1 hnd
      rw [balanceReaders_cons, hin j List.mem_cons_self]
      refine ih hnd (fun i hi => ?_) (fun i hi => ?_)
      · have hij : i ≠ j := by rintro rfl; exact hj hi
        rw [Function.update_of_ne hij]
        exact hin i (List.mem_cons_of_mem j hi)
      · by_cases hij : i = j
        · subst hij; rw [Function.update_self]
        · rw [Function.update_of_ne hij]
          exact hout i (by simp [hij, hi])

theorem balanceReaders_error {guard : ℕ → Bool} {move : ℕ → Except Fault ℕ} {e : Fault}
    {is : List (Fin queueUseMax)} {pRead : Fin queueUseMax → Option ℕ} (hnd : is.Nodup)
    (hall : ∀ i ∈ is, ∀ e', balanceOne guard move (pRead i) = .error e' → e' = e)
    (hex : ∃ i ∈ is, balanceOne guard move (pRead i) = .error e) :
    balanceReaders guard move is pRead = .error e := by
  induction is generalizing pRead with
  | nil => simp at hex
  | cons j is ih =>
      obtain ⟨hj, hnd⟩ := List.nodup_cons.1 hnd
      rw [balanceReaders_cons]
      cases hb : balanceOne guard move (pRead j) with
      | error e' => rw [hall j List.mem_cons_self e' hb]; rfl
      | ok r =>
          -- this turn leaves the pointers of the later readers alone
          have hne : ∀ i ∈ is, Function.update pRead j r i = pRead i := by
            intro i hi
            have hij : i ≠ j := by rintro rfl; exact hj hi
            exact Function.update_of_ne hij _ _
          refine ih hnd (fun i hi e' he => ?_) ?_
          · rw [hne i hi] at he
            exact hall i (List.mem_cons_of_mem j hi) e' he
          · obtain ⟨i, hi, he⟩ := hex
            rcases List.mem_cons.1 hi with rfl | hi
            · rw [hb] at he; nomatch he
            · exact ⟨i, hi, by rw [hne i hi]; exact he⟩

/-- Two passes over all readers come to what both do to each reader in turn. -/
theorem balanceReaders_twice_ok (g₁ g₂ : ℕ → Bool) (move : ℕ → Except Fault ℕ)
    {pRead pRead' : Fin queueUseMax → Option ℕ}
    (h : ∀ i, (balanceOne g₁ move (pRead i)).bind (balanceOne g₂ move) = .ok (pRead' i)) :
    ∃ mid, balanceReaders g₁ move (List.finRange queueUseMax) pRead = .ok mid ∧
      balanceReaders g₂ move (List.finRange queueUseMax) mid = .ok pRead' := by
  have hmid : ∀ i, ∃ m, balanceOne g₁ move (pRead i) = .ok m ∧
      balanceOne g₂ move m = .ok (pRead' i) := by
    intro i
    have hi := h i
    cases hb : balanceOne g₁ move (pRead i) with
    | error e => rw [hb] at hi; nomatch hi
    | ok m => rw [hb] at hi; exact ⟨m, rfl, hi⟩
  choose mid h1 h2 using hmid
  have hmem := List.mem_finRange (n := queueUseMax)
  exact ⟨mid, balanceReaders_ok (List.nodup_finRange _) (fun i _ => h1 i)
      (fun i hi => absurd (hmem i) hi),
    balanceReaders_ok (List.nodup_finRange _) (fun i _ => h2 i) (fun i hi => absurd (hmem i) hi)⟩

theorem balanceReaders_twice_error (g₁ g₂ : ℕ → Bool) (move : ℕ → Except Fault ℕ) {e : Fault}
    {pRead : Fin queueUseMax → Option ℕ}
    (hall : ∀ i e', (balanceOne g₁ move (pRead i)).bind (balanceOne g₂ move) = .error e' → e' = e)
    (hex : ∃ i, (balanceOne g₁ move (pRead i)).bind (balanceOne g₂ move) = .error e) :
    balanceReaders g₁ move (List.finRange queueUseMax) pRead = .error e ∨
      ∃ mid, balanceReaders g₁ move (List.finRange queueUseMax) pRead = .ok mid ∧
        balanceReaders g₂ move (List.finRange queueUseMax) mid = .error e := by
  have hmem := List.mem_finRange (n := queueUseMax)
  have hall₁ : ∀ i e', balanceOne g₁ move (pRead i) = .error e' → e' = e := by
    intro i e' he
    exact hall i e' (by rw [he]; rfl)
  by_cases hfail : ∃ i, balanceOne g₁ move (pRead i) = .error e
  · obtain ⟨i, hi⟩ := hfail
    exact Or.inl (balanceReaders_error (List.nodup_finRange _) (fun i _ => hall₁ i)
      ⟨i, hmem i, hi⟩)
  · have hok : ∀ i, ∃ m, balanceOne g₁ move (pRead i) = .ok m := by
      intro i
      cases hb : balanceOne g₁ move (pRead i) with
      | error e' => exact absurd ⟨i, by rw [hb, hall₁ i e' hb]⟩ hfail
      | ok m => exact ⟨m, rfl⟩
    choose mid hmid using hok
    refine Or.inr ⟨mid, balanceReaders_ok (List.nodup_finRange _) (fun i _ => hmid i)
      (fun i hi => absurd (hmem i) hi), ?_⟩
    obtain ⟨i, hi⟩ := hex
    refine balanceReaders_error (List.nodup_finRange _) (fun i _ e' he => hall i e' ?_)
      ⟨i, hmem i, ?_⟩
    · rw [hmid i]; exact he
    · rw [hmid i] at hi; exact hi

/-! ## One reader under a write -/

section OneReader

variable {buff : List UInt8} {size w r len : ℕ} {fs : List Frame}

/-- Where a reader with unread frames `fs` stands once it kept only `landing` of them. -/
def landed (size w r len : ℕ) (fs : List Frame) : Except Fault (Option ℕ) :=
  match landing size w len fs with
  | none => .error .assertFail
  | some s => .ok (some (ringAdvance size r (totalSize Frame.size fs - totalSize Frame.size s)))

theorem moveReadPoint_landed {fuel : ℕ} (h : Unread buff size w r fs) (hlen : len ≤ size)
    (hover : overruns size w len fs = true) (hfuel : size < fuel) :
    (moveReadPoint w len buff size fuel r).map some = landed size w r len fs := by
  have hd := h.dist
  have hle := ringDist_le h.r_le h.w_le
  have hbound : fs.length ≤ totalSize Frame.size fs := length_le_totalSize Frame.whole fs
  rw [moveReadPoint_eq h hlen (by omega), landed, landing, if_pos hover]
  cases resync Frame.size Frame.isKey (size - len) fs <;> rfl

theorem landed_of_not_overruns (h : Unread buff size w r fs)
    (hover : overruns size w len fs = false) : landed size w r len fs = .ok (some r) := by
  rw [landed, landing, hover]
  simp [ringAdvance_zero h.r_le]

/-- A frame that ends inside the buffer. -/
theorem balanceOne_contiguous {fuel : ℕ} (h : Unread buff size w r fs) (hlen : len ≤ size)
    (hc : w + len ≤ size) (hfuel : size < fuel) :
    balanceOne (fun r => decide (r > w ∧ r < w + len)) (moveReadPoint w len buff size fuel) (some r)
      = landed size w r len fs := by
  have hd := h.dist
  have hdist := ringDist_cases size r w
  have hr := h.r_le
  have hover : overruns size w len fs = decide (r > w ∧ r < w + len) := by
    rw [overruns, contiguous, decide_eq_true hc, if_pos rfl, decide_eq_decide]
    omega
  rw [balanceOne, ← hover]
  split
  · next hov => exact moveReadPoint_landed h hlen hov hfuel
  · next hov => rw [landed_of_not_overruns h (by simpa using hov)]

/-- A frame that goes on at the start of the buffer: the two guards together. -/
theorem balanceOne_wrapped {fuel : ℕ} (h : Unread buff size w r fs) (hw : w ≤ size)
    (hlen : len ≤ size) (hc : ¬ w + len ≤ size) (hfuel : size < fuel) :
    (balanceOne (fun r => decide (r > w ∧ r ≤ size)) (moveReadPoint w len buff size fuel)
        (some r)).bind
      (balanceOne (fun r => decide (r ≤ len - (size - w))) (moveReadPoint w len buff size fuel))
      = landed size w r len fs := by
  have hd := h.dist
  have hdist := ringDist_cases size r w
  have hr := h.r_le
  have hover : overruns size w len fs = decide (r > w ∨ r ≤ len - (size - w)) := by
    rw [overruns, contiguous, decide_eq_false hc, if_neg Bool.false_ne_true, decide_eq_decide]
    omega
  by_cases h1 : r > w
  · have hov : overruns size w len fs = true := by rw [hover]; exact decide_eq_true (Or.inl h1)
    have hmove := moveReadPoint_landed h hlen hov hfuel
    rw [balanceOne, if_pos (decide_eq_true ⟨h1, hr⟩), hmove, landed, landing, if_pos hov]
    -- a reader the first guard has moved stands clear of the second
    cases hres : resync Frame.size Frame.isKey (size - len) fs with
    | none => rfl
    | some s =>
        obtain ⟨pre, -, rfl, -, hroom⟩ := resync_spec hres
        have hs := h.drop
        have hds := hs.dist
        have hdists := ringDist_cases size (ringAdvance size r (totalSize Frame.size pre)) w
        simp only [totalSize_append, Nat.add_sub_cancel, Except.bind, balanceOne]
        rw [if_neg (by rw [decide_eq_true_iff]; omega)]
  · rw [balanceOne, if_neg (by rw [decide_eq_true_iff]; omega), Except.bind, balanceOne]
    split
    · next h2 =>
        have hov : overruns size w len fs = true := by
          rw [hover]; exact decide_eq_true (Or.inr (of_decide_eq_true h2))
        exact moveReadPoint_landed h hlen hov hfuel
    · next h2 =>
        have hov : overruns size w len fs = false := by
          rw [hover, decide_eq_false_iff_not]
          rw [decide_eq_true_iff] at h2
          omega
        rw [landed_of_not_overruns h hov]

/-- What is left of the unread frames leaves room for the write. -/
theorem landing_room {s : List Frame} (h : Unread buff size w r fs) (hlen : len ≤ size)
    (hs : landing size w len fs = some s) : s <:+ fs ∧ totalSize Frame.size s + len ≤ size := by
  have hd := h.dist
  have hdist := ringDist_cases size r w
  have hr := h.r_le
  rw [landing] at hs
  split at hs
  · obtain ⟨pre, -, rfl, -, hroom⟩ := resync_spec hs
    exact ⟨List.suffix_append pre s, by omega⟩
  · next hover =>
      obtain rfl := Option.some.inj hs
      refine ⟨List.suffix_refl _, ?_⟩
      rw [overruns] at hover
      split at hover <;> rw [decide_eq_true_iff] at hover <;> omega

theorem Unread.landed {s : List Frame} (h : Unread buff size w r fs) (hs : s <:+ fs) :
    Unread buff size w
      (ringAdvance size r (totalSize Frame.size fs - totalSize Frame.size s)) s := by
  obtain ⟨pre, rfl⟩ := hs
  rw [totalSize_append, Nat.add_sub_cancel]
  exact h.drop

/-- The written frame comes behind what was unread, unless it closes the ring. -/
theorem Unread.write {f : Frame} (h : Unread buff size w r fs) (hw : w < size)
    (hroom : totalSize Frame.size fs + f.size ≤ size) :
    Unread (ringWrite buff w f.data) size ((w + f.size) % size) r (appended size f fs) :=
  (h.blocks.write hw hroom).unread

end OneReader

/-! ## Writing -/

/-- The unread frames of every reader after a write that went through. -/
def pushAll (size w : ℕ) (f : Frame) (u : Fin queueUseMax → Option (List Frame)) :
    Fin queueUseMax → Option (List Frame) :=
  fun i => (u i).bind (pushUnread size w f)

/-- The read pointers after the balancing loops. -/
def landedAll (size w len : ℕ) (pRead : Fin queueUseMax → Option ℕ)
    (u : Fin queueUseMax → Option (List Frame)) : Fin queueUseMax → Option ℕ :=
  fun i => (pRead i).bind fun r => (u i).bind fun fs => (landing size w len fs).map fun s =>
    ringAdvance size r (totalSize Frame.size fs - totalSize Frame.size s)

/-- The loops of `WriteData` over the read pointers, for either branch. -/
def balanceAll (q : QueueHandle) (w len : ℕ) : Except Fault (Fin queueUseMax → Option ℕ) :=
  let move := moveReadPoint w len q.dataBuff q.dataBuffSize (q.dataBuffSize + 1)
  let users := List.finRange queueUseMax
  if w + len ≤ q.dataBuffSize then
    balanceReaders (fun r => decide (r > w ∧ r < w + len)) move users q.pRead
  else
    (balanceReaders (fun r => decide (r > w ∧ r ≤ q.dataBuffSize)) move users q.pRead).bind
      (balanceReaders (fun r => decide (r ≤ len - (q.dataBuffSize - w))) move users)

/-- `writeData` balances the readers, copies the frame into the ring and moves the write pointer. -/
theorem writeData_balances (henabled : q.enabled = true) (hpWrite : q.pWrite = some w)
    (hlen : q.dataBuff.length = q.dataBuffSize) (hw : w ≤ q.dataBuffSize) (data : List UInt8) :
    writeData q data = (balanceAll q w data.length).map fun pRead =>
      (keyTrue, { q with
        pRead := pRead
        dataBuff := ringWrite q.dataBuff w data
        pWrite := some ((w + data.length) % q.dataBuffSize) }) := by
  simp only [writeData, hpWrite]
  rw [if_neg (by simp [henabled]), balanceAll]
  by_cases hc : w + data.length ≤ q.dataBuffSize
  · rw [if_pos (by omega), if_pos hc, ringWrite, if_pos (by omega)]
  · rw [if_neg (by omega), if_neg hc, ringWrite, if_neg (by omega), hlen]
    cases balanceReaders (fun r => decide (r > w ∧ r ≤ q.dataBuffSize)) _ _ q.pRead with
    | error e => rfl
    | ok pRead => rfl

theorem writeData_eq (h : Holds q w u) (data : List UInt8) :
    writeData q data = (balanceAll q w data.length).map fun pRead =>
      (keyTrue, { q with
        pRead := pRead
        dataBuff := ringWrite q.dataBuff w data
        pWrite := some ((w + data.length) % q.dataBuffSize) }) :=
  writeData_balances h.enabled h.pWrite h.len h.w_le data

/-- What balancing comes to for one slot. -/
def landedOne (size w len : ℕ) : Option ℕ → Option (List Frame) → Except Fault (Option ℕ)
  | some r, some fs => landed size w r len fs
  | _, _ => .ok none

section OneSlot

variable {buff : List UInt8} {size len : ℕ} {pRead : Option ℕ} {v : Option (List Frame)}

theorem ReaderHolds.balance_contiguous (h : ReaderHolds buff size w pRead v) (hlen : len ≤ size)
    (hc : w + len ≤ size) :
    balanceOne (fun r => decide (r > w ∧ r < w + len)) (moveReadPoint w len buff size (size + 1))
      pRead = landedOne size w len pRead v := by
  cases h with
  | free => rfl
  | reading hun => exact balanceOne_contiguous hun hlen hc (Nat.lt_succ_self size)

theorem ReaderHolds.balance_wrapped (h : ReaderHolds buff size w pRead v) (hw : w ≤ size)
    (hlen : len ≤ size) (hc : ¬ w + len ≤ size) :
    (balanceOne (fun r => decide (r > w ∧ r ≤ size)) (moveReadPoint w len buff size (size + 1))
        pRead).bind
      (balanceOne (fun r => decide (r ≤ len - (size - w)))
        (moveReadPoint w len buff size (size + 1)))
      = landedOne size w len pRead v := by
  cases h with
  | free => rfl
  | reading hun => exact balanceOne_wrapped hun hw hlen hc (Nat.lt_succ_self size)

theorem ReaderHolds.landedOne_error {e : Fault}
    (he : landedOne size w len pRead v = .error e) : e = .assertFail := by
  unfold landedOne at he
  split at he
  · unfold landed at he
    split at he
    · exact (Except.error.inj he).symm
    · nomatch he
  · nomatch he

end OneSlot

theorem balanceAll_ok {len : ℕ} (h : Holds q w u) (hlen : len ≤ q.dataBuffSize)
    (hland : ∀ i fs, u i = some fs → landing q.dataBuffSize w len fs ≠ none) :
    balanceAll q w len = .ok (landedAll q.dataBuffSize w len q.pRead u) := by
  have hone : ∀ i, landedOne q.dataBuffSize w len (q.pRead i) (u i)
      = .ok (landedAll q.dataBuffSize w len q.pRead u i) := by
    intro i
    rw [landedAll]
    cases hr : q.pRead i with
    | none => rfl
    | some r =>
        obtain ⟨fs, hu, -⟩ := h.frames hr
        obtain ⟨s, hs⟩ := Option.ne_none_iff_exists'.1 (hland i fs hu)
        simp only [hu, landedOne, landed, hs, Option.bind_some, Option.map_some]
  rw [balanceAll]
  split
  · next hc =>
      refine balanceReaders_ok (List.nodup_finRange _) (fun i _ => ?_)
        (fun i hi => absurd (List.mem_finRange i) hi)
      rw [(h.readers i).balance_contiguous hlen hc, hone i]
  · next hc =>
      obtain ⟨mid, h1, h2⟩ := balanceReaders_twice_ok
        (fun r => decide (r > w ∧ r ≤ q.dataBuffSize))
        (fun r => decide (r ≤ len - (q.dataBuffSize - w)))
        (moveReadPoint w len q.dataBuff q.dataBuffSize (q.dataBuffSize + 1))
        (fun i => ((h.readers i).balance_wrapped h.w_le hlen hc).trans (hone i))
      rw [h1]
      exact h2

theorem balanceAll_error {len : ℕ} (h : Holds q w u) (hlen : len ≤ q.dataBuffSize)
    (hlost : ∃ i fs, u i = some fs ∧ landing q.dataBuffSize w len fs = none) :
    balanceAll q w len = .error .assertFail := by
  have hone : ∃ i, landedOne q.dataBuffSize w len (q.pRead i) (u i) = .error .assertFail := by
    obtain ⟨i, fs, hu, hnone⟩ := hlost
    obtain ⟨r, hr, -⟩ := h.reader hu
    exact ⟨i, by rw [hr, hu, landedOne, landed, hnone]⟩
  rw [balanceAll]
  split
  · next hc =>
      obtain ⟨i, hi⟩ := hone
      refine balanceReaders_error (List.nodup_finRange _) (fun j _ e he => ?_)
        ⟨i, List.mem_finRange i, ?_⟩
      · rw [(h.readers j).balance_contiguous hlen hc] at he
        exact ReaderHolds.landedOne_error he
      · rw [(h.readers i).balance_contiguous hlen hc, hi]
  · next hc =>
      obtain ⟨i, hi⟩ := hone
      have htwice := balanceReaders_twice_error
        (fun r => decide (r > w ∧ r ≤ q.dataBuffSize))
        (fun r => decide (r ≤ len - (q.dataBuffSize - w)))
        (moveReadPoint w len q.dataBuff q.dataBuffSize (q.dataBuffSize + 1))
        (fun j e he => ReaderHolds.landedOne_error
          (((h.readers j).balance_wrapped h.w_le hlen hc).symm.trans he))
        ⟨i, ((h.readers i).balance_wrapped h.w_le hlen hc).trans hi⟩
      rcases htwice with h1 | ⟨mid, h1, h2⟩
      · rw [h1]; rfl
      · rw [h1]; exact h2

/-- **A write aborts the server** when some reader has nowhere to land. -/
theorem writeData_error (h : Holds q w u) (hf : f.size ≤ q.dataBuffSize)
    (hlost : ∃ i fs, u i = some fs ∧ landing q.dataBuffSize w f.size fs = none) :
    writeData q f.data = .error .assertFail := by
  rw [writeData_eq h, show f.data.length = f.size from rfl, balanceAll_error h hf hlost]
  rfl

/-- The queue after a write that went through. -/
def afterWrite (q : QueueHandle) (w : ℕ) (u : Fin queueUseMax → Option (List Frame)) (f : Frame) :
    QueueHandle :=
  { q with
    pRead := landedAll q.dataBuffSize w f.size q.pRead u
    dataBuff := ringWrite q.dataBuff w f.data
    pWrite := some ((w + f.size) % q.dataBuffSize) }

/-- **A write that goes through** moves each reader to what it keeps and appends the frame. -/
theorem writeData_ok (h : Holds q w u) (hf : f.size ≤ q.dataBuffSize)
    (hland : ∀ i fs, u i = some fs → landing q.dataBuffSize w f.size fs ≠ none) :
    writeData q f.data = .ok (keyTrue, afterWrite q w u f) ∧
      Holds (afterWrite q w u f) ((w + f.size) % q.dataBuffSize) (pushAll q.dataBuffSize w f u) := by
  have hpos := f.size_ge
  have hmod : (w + f.size) % q.dataBuffSize < q.dataBuffSize := Nat.mod_lt _ (by omega)
  have hdata : f.data.length = f.size := rfl
  have hlen := h.len
  constructor
  · rw [writeData_eq h, hdata, balanceAll_ok h hf hland]
    rfl
  · refine ⟨h.enabled, rfl, ?_, hmod.le, fun _ => hmod, fun i => ?_⟩
    · have hw := h.w_le
      exact (length_ringWrite _ _ (by omega) (by omega)).trans hlen
    · simp only [afterWrite, landedAll, pushAll]
      cases hr : q.pRead i with
      | none =>
          rw [h.free_iff.1 hr]
          exact .free
      | some r =>
          obtain ⟨fs, hu, hun⟩ := h.frames hr
          obtain ⟨s, hs⟩ := Option.ne_none_iff_exists'.1 (hland i fs hu)
          obtain ⟨hsuf, hroom⟩ := landing_room hun hf hs
          simp only [hu, hs, pushUnread, Option.bind_some, Option.map_some]
          exact .reading ((hun.landed hsuf).write (h.w_lt (by omega)) hroom)

/-- Whatever goes through is described by `writeData_ok`. -/
theorem landing_of_writeData {rc : ℤ} (h : Holds q w u) (hf : f.size ≤ q.dataBuffSize)
    (hw : writeData q f.data = .ok (rc, q')) :
    (∀ i fs, u i = some fs → landing q.dataBuffSize w f.size fs ≠ none) ∧
      q' = afterWrite q w u f ∧ rc = keyTrue := by
  have hland : ∀ i fs, u i = some fs → landing q.dataBuffSize w f.size fs ≠ none := by
    intro i fs hu hnone
    rw [writeData_error h hf ⟨i, fs, hu, hnone⟩] at hw
    nomatch hw
  have hok := (writeData_ok h hf hland).1
  rw [hw] at hok
  obtain ⟨h1, h2⟩ := Prod.mk.inj (Except.ok.inj hok)
  exact ⟨hland, h2, h1⟩

end SmartPlat.MediaQueue
