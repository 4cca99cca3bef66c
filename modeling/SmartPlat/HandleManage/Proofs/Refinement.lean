import SmartPlat.HandleManage.Proofs.Operations

set_option autoImplicit false

/-! # The handle list behaves as a sequence

From a memory that represents a sequence, every call returns what it returns on the sequence and leaves
a memory that represents the sequence afterwards, with two exceptions: where `malloc` fails the code
writes through `NULL`, and a count beyond `INT_MAX` wraps. -/

namespace SmartPlat.HandleManage

open Lib

variable {H σ : Type}

/-- The memory holds the sequence. -/
structure Simulates (w : World H σ) (head : Addr) (s : Sequence H σ) : Prop where
  nodes : ∃ nodes, Represents w.heap head nodes ∧ nodes.map Prod.snd = s.handles
  env : w.env = s.env

/-- What a call needs to come out right: memory for the node that it adds, and a count that is an
    `int`. -/
def Allowed (w : World H σ) (s : Sequence H σ) (c : Call H σ) : Prop :=
  match c.onNull, c.op with
  | false, .addHandle (some _) malloc | false, .addHandle1 (some _) malloc =>
      (malloc.alloc w.heap).isSome
  | false, .getUsrCount => s.handles.length < 2 ^ 31
  | _, _ => True

variable {fuel : ℕ} {head : Addr} {w w' : World H σ} {s : Sequence H σ} {op : Op H σ} {c : Call H σ}
  {cs pre : List (Call H σ)} {heap : Heap H} {rc : ℤ}

theorem call_withHeap {x : Except Fault (ℤ × Heap H)} (hx : x = .ok (rc, heap)) :
    x.map w.withHeap = .ok (.rc rc, { w with heap := heap }) := by
  rw [hx]
  rfl

variable [DecidableEq H]

/-! ## One call -/

/-- A call on `NULL` does nothing. -/
theorem call_null : call fuel (Call.target ⟨true, op⟩ head) w op = .ok ((s.step ⟨true, op⟩).1, w) ∧
    (s.step ⟨true, op⟩).2 = s := by
  cases op <;> exact ⟨rfl, rfl⟩

theorem call_delHandle (h : Simulates w head s) (hfuel : s.handles.length < fuel) (v : H) :
    ∃ w', call fuel (some head) w (.delHandle (some v)) =
        .ok ((s.step ⟨false, .delHandle (some v)⟩).1, w') ∧
      Simulates w' head (s.step ⟨false, .delHandle (some v)⟩).2 := by
  obtain ⟨⟨nodes, hrep, hnodes⟩, henv⟩ := h
  have hlen : nodes.length < fuel := by rwa [← hnodes, List.length_map] at hfuel
  by_cases hv : v ∈ s.handles
  · obtain ⟨heap', nodes', hcall, hrep', herase⟩ := delHandle_spec hrep hlen (hnodes ▸ hv)
    simp only [Sequence.step, if_pos hv]
    exact ⟨{ w with heap := heap' }, call_withHeap hcall,
      ⟨nodes', hrep', herase.trans (hnodes ▸ rfl)⟩, henv⟩
  · have hcall := delHandle_absent hrep hlen (hnodes ▸ hv)
    simp only [Sequence.step, if_neg hv]
    exact ⟨w, call_withHeap hcall, ⟨nodes, hrep, hnodes⟩, henv⟩

/-- The count is right while it fits. -/
theorem call_getUsrCount (h : Simulates w head s) (hfuel : s.handles.length < fuel)
    (hfits : s.handles.length < 2 ^ 31) :
    call fuel (some head) w .getUsrCount = .ok (.rc s.handles.length, w) := by
  obtain ⟨⟨nodes, hrep, hnodes⟩, -⟩ := h
  rw [← hnodes, List.length_map] at hfuel hfits ⊢
  have hcount : (nodes.length : ℤ).bmod (2 ^ 32) = nodes.length :=
    Int.bmod_eq_of_le (by omega) (by omega)
  show (getUsrCount w.heap fuel (some head)).map _ = _
  rw [getUsrCount_spec hrep hfuel, hcount]
  rfl

/-- **One call.** It returns what it returns on the sequence, and the sequence afterwards is held. -/
theorem call_spec (h : Simulates w head s) (hfuel : s.handles.length < fuel) (hallowed : Allowed w s c) :
    ∃ w', call fuel (c.target head) w c.op = .ok ((s.step c).1, w') ∧
      Simulates w' head (s.step c).2 := by
  obtain ⟨⟨nodes, hrep, hnodes⟩, henv⟩ := h
  have hlen : nodes.length < fuel := by rwa [← hnodes, List.length_map] at hfuel
  have hself : Simulates w head s := ⟨⟨nodes, hrep, hnodes⟩, henv⟩
  obtain ⟨onNull, op⟩ := c
  cases onNull with
  | true =>
      obtain ⟨hcall, hstep⟩ : call fuel (Call.target ⟨true, op⟩ head) w op = _ ∧ (s.step ⟨true, op⟩).2 = s :=
        call_null
      exact ⟨w, hcall, by rwa [hstep]⟩
  | false =>
      cases op with
      | initHead =>
          obtain ⟨headNode, hheadNode⟩ := hrep.exists_head
          obtain ⟨heap', hcall, hrep'⟩ := initHead_spec hheadNode
          exact ⟨{ w with heap := heap' }, call_withHeap hcall, ⟨[], hrep', rfl⟩, henv⟩
      | addHandle handle malloc =>
          cases handle with
          | none => exact ⟨w, rfl, hself⟩
          | some v =>
              obtain ⟨heap', n, hcall, hrep'⟩ := addHandle_spec (v := v) hrep hlen hallowed
              refine ⟨{ w with heap := heap' }, call_withHeap hcall, ⟨_, hrep', ?_⟩, henv⟩
              rw [List.map_append, hnodes]
              rfl
      | addHandle1 handle malloc =>
          cases handle with
          | none => exact ⟨w, rfl, hself⟩
          | some v =>
              obtain ⟨heap', n, hcall, hrep'⟩ := addHandle1_spec (v := v) hrep hallowed
              refine ⟨{ w with heap := heap' }, call_withHeap hcall, ⟨_, hrep', ?_⟩, henv⟩
              rw [List.map_cons, hnodes]
              rfl
      | delHandle handle =>
          cases handle with
          | none => exact ⟨w, rfl, hself⟩
          | some v =>
              exact call_delHandle hself hfuel v
      | getNextHandle =>
          refine ⟨w, ?_, hself⟩
          show (getNextHandle w.heap (some head)).map _ = _
          rw [getNextHandle_spec hrep, hnodes]
          rfl
      | getUsrCount => exact ⟨w, call_getUsrCount hself hfuel hallowed, hself⟩
      | postLoop f =>
          cases f with
          | none => exact ⟨w, rfl, hself⟩
          | some f =>
              refine ⟨{ w with env := s.handles.foldl (fun env h => f (some h) env) s.env }, ?_,
                ⟨nodes, hrep, hnodes⟩, rfl⟩
              show (postLoop w.heap fuel w.env (some head) (some f)).map _ = _
              rw [postLoop_spec hrep hlen, hnodes, henv]
              rfl
      | getHandleByInt member value =>
          refine ⟨w, ?_, hself⟩
          show (getHandleByInt w.heap fuel member value (some head)).map _ = _
          rw [getHandleByInt, getHandle_spec hrep hlen, hnodes]
          rfl
      | getHandleByStr member value =>
          refine ⟨w, ?_, hself⟩
          show (getHandleByStr w.heap fuel member value (some head)).map _ = _
          rw [getHandleByStr, getHandle_spec hrep hlen, hnodes]
          rfl

/-- A call that lacks what it needs crashes or returns something else. -/
theorem call_fails (h : Simulates w head s) (hfuel : s.handles.length < fuel)
    (hallowed : ¬ Allowed w s c) : call fuel (c.target head) w c.op ≠ .ok ((s.step c).1, w') := by
  obtain ⟨⟨nodes, hrep, hnodes⟩, henv⟩ := h
  have hlen : nodes.length < fuel := by rwa [← hnodes, List.length_map] at hfuel
  obtain ⟨onNull, op⟩ := c
  cases onNull with
  | true => exact absurd (by cases op <;> exact trivial) hallowed
  | false =>
      cases op with
      | addHandle handle malloc =>
          cases handle with
          | none => exact absurd trivial hallowed
          | some v =>
              have hcall := addHandle_fails (v := v) hrep hlen (Option.not_isSome_iff_eq_none.mp hallowed)
              show (addHandle w.heap malloc fuel (some head) (some v)).map w.withHeap ≠ _
              rw [hcall]
              exact fun h => nomatch h
      | addHandle1 handle malloc =>
          cases handle with
          | none => exact absurd trivial hallowed
          | some v =>
              have hcall := addHandle1_fails (v := v) hrep (Option.not_isSome_iff_eq_none.mp hallowed)
              show (addHandle1 w.heap malloc (some head) (some v)).map w.withHeap ≠ _
              rw [hcall]
              exact fun h => nomatch h
      | getUsrCount =>
          show (getUsrCount w.heap fuel (some head)).map (fun count => (Result.rc count, w)) ≠ _
          have hge : ¬ s.handles.length < 2 ^ 31 := hallowed
          have hlt : ((nodes.length : ℤ).bmod (2 ^ 32)) < (2 ^ 32 + 1) / 2 := Int.bmod_lt (by decide)
          rw [getUsrCount_spec hrep hlen]
          intro h
          have hcount : (nodes.length : ℤ).bmod (2 ^ 32) = s.handles.length :=
            Result.rc.inj (Prod.mk.inj (Except.ok.inj h)).1
          omega
      | _ => exact absurd trivial hallowed

/-! ## Sequences of calls -/

theorem step_length : (s.step c).2.handles.length ≤ s.handles.length + 1 := by
  have herase (v : H) : (s.handles.erase v).length ≤ s.handles.length := List.length_erase_le
  unfold Sequence.step
  split <;> try split
  all_goals grind

/-- Every call of a sequence has what it needs in the state that the calls before it have left. -/
def AllAllowed (fuel : ℕ) (head : Addr) : World H σ → Sequence H σ → List (Call H σ) → Prop
  | _, _, [] => True
  | w, s, c :: cs =>
      Allowed w s c ∧
        ∀ r w', call fuel (c.target head) w c.op = .ok (r, w') → AllAllowed fuel head w' (s.step c).2 cs

/-- Where the first call returns what it should, the others decide. -/
theorem calls_cons_iff {w₁ : World H σ}
    (hcall : call fuel (c.target head) w c.op = .ok ((s.step c).1, w₁)) :
    calls fuel head w (c :: cs) = .ok ((s.steps (c :: cs)).1, w') ↔
      calls fuel head w₁ cs = .ok (((s.step c).2.steps cs).1, w') := by
  rw [calls, hcall]
  show (calls fuel head w₁ cs).map (fun rs => ((s.step c).1 :: rs.1, rs.2)) =
    .ok ((s.step c).1 :: ((s.step c).2.steps cs).1, w') ↔ _
  rw [map_eq_ok_iff]
  constructor
  · rintro ⟨rs, hrs, heq⟩
    obtain ⟨hresults, hw⟩ := Prod.mk.inj heq
    rw [hrs, ← hw, ← (List.cons.inj hresults).2]
  · exact fun h => ⟨_, h, rfl⟩

theorem calls_iff (h : Simulates w head s) (hfuel : s.handles.length + cs.length < fuel) :
    (∃ w', calls fuel head w cs = .ok ((s.steps cs).1, w') ∧ Simulates w' head (s.steps cs).2) ↔
      AllAllowed fuel head w s cs := by
  induction cs generalizing w s with
  | nil => exact ⟨fun _ => trivial, fun _ => ⟨w, rfl, h⟩⟩
  | cons c cs ih =>
      rw [List.length_cons] at hfuel
      have hlen := step_length (s := s) (c := c)
      have hfuel_s : s.handles.length < fuel := by omega
      constructor
      · rintro ⟨w', hcalls, hsim⟩
        obtain ⟨⟨r, w₁⟩, hcall, hrest⟩ := bind_eq_ok_iff.mp hcalls
        obtain ⟨rs, -, heq⟩ := map_eq_ok_iff.mp hrest
        obtain rfl : r = (s.step c).1 := (List.cons.inj (Prod.mk.inj heq).1).1
        have hallowed : Allowed w s c := by
          by_contra hnot
          exact call_fails h hfuel_s hnot hcall
        obtain ⟨w₂, hcall₂, hsim₂⟩ := call_spec h hfuel_s hallowed
        refine ⟨hallowed, fun r w₃ hcall₃ => ?_⟩
        obtain rfl : w₂ = w₃ := (Prod.mk.inj (Except.ok.inj (hcall₂.symm.trans hcall₃))).2
        exact (ih hsim₂ (by omega)).mp ⟨w', (calls_cons_iff hcall₂).mp hcalls, hsim⟩
      · rintro ⟨hallowed, hrest⟩
        obtain ⟨w₁, hcall, hsim⟩ := call_spec h hfuel_s hallowed
        obtain ⟨w', hcalls, hsim'⟩ := (ih hsim (by omega)).mpr (hrest _ _ hcall)
        exact ⟨w', (calls_cons_iff hcall).mpr hcalls, hsim'⟩

theorem AllAllowed.of_prefix (h : AllAllowed fuel head w s cs) (hpre : pre <+: cs) :
    AllAllowed fuel head w s pre := by
  induction pre generalizing w s cs with
  | nil => trivial
  | cons c pre ih =>
      obtain ⟨cs, rfl, hpre'⟩ := List.cons_prefix_iff.mp hpre
      exact ⟨h.1, fun r w' hcall => ih (h.2 r w' hcall) hpre'⟩

/-! ## The list from its initialisation on -/

/-- The calls return what they return on a sequence; afterwards the nodes behind the head hold the
    handles of the sequence in its order and are linked well. -/
def Refines (fuel : ℕ) (head : Addr) (w : World H σ) (s : Sequence H σ) (cs : List (Call H σ)) : Prop :=
  ∃ w' nodes, calls fuel head w cs = .ok ((s.steps cs).1, w') ∧ w'.env = (s.steps cs).2.env ∧
    nodes.map Prod.snd = (s.steps cs).2.handles ∧ Represents w'.heap head nodes ∧
    WellLinked w'.heap (head :: nodes.map Prod.fst)

/-- The result says that nothing was done or found. -/
def Result.Failed : Result H → Prop
  | .rc rc => rc = keyFalse
  | .handle h => h = none

theorem step_failed (h : (s.step c).1.Failed) : (s.step c).2 = s := by
  revert h
  unfold Sequence.step
  split <;> try split
  all_goals simp [Result.Failed, keyTrue, keyFalse]

/-- Memory in which the caller's head lies, with anything in it. -/
def World.begin (heap : Heap H) (head : Addr) (node : Node H) (env : σ) : World H σ where
  heap := Function.update heap head (some node)
  env := env

variable {node : Node H} {env : σ}

theorem refines_iff (hfuel : cs.length < fuel) :
    Refines fuel head (World.begin heap head node env) ⟨[], env⟩ (⟨false, .initHead⟩ :: cs) ↔
      AllAllowed fuel head (World.begin heap head node env) ⟨[], env⟩ (⟨false, .initHead⟩ :: cs) := by
  have hnode : (World.begin heap head node env).heap head = some node := Function.update_self ..
  obtain ⟨heap', hinit, hrep⟩ := initHead_spec hnode
  have hcall : call fuel (some head) (World.begin heap head node env) .initHead =
      .ok (.rc keyTrue, ⟨heap', env⟩) := call_withHeap hinit
  have hsim : Simulates ⟨heap', env⟩ head ⟨[], env⟩ := ⟨⟨[], hrep, rfl⟩, rfl⟩
  have hroom : ([] : List H).length + cs.length < fuel := by simpa using hfuel
  have hcalls := calls_iff hsim hroom
  constructor
  · rintro ⟨w', nodes, hrun, henv, hnodes, hrep', -⟩
    refine ⟨trivial, fun r w₁ hr => ?_⟩
    obtain rfl : ⟨heap', env⟩ = w₁ := (Prod.mk.inj (Except.ok.inj (hcall.symm.trans hr))).2
    exact hcalls.mp ⟨w', (calls_cons_iff hcall).mp hrun, ⟨nodes, hrep', hnodes⟩, henv⟩
  · rintro ⟨-, hrest⟩
    obtain ⟨w', hrun, ⟨nodes, hrep', hnodes⟩, henv⟩ := hcalls.mpr (hrest _ _ hcall)
    exact ⟨w', nodes, (calls_cons_iff hcall).mpr hrun, henv, hnodes, hrep', hrep'.wellLinked⟩

/-- **The list is a sequence.** A call that reports failure changes nothing of the sequence; and from its
    initialisation on the list behaves as the sequence after every call exactly if every call has what
    it needs: each `malloc` succeeds, and no list of `2 ^ 31` handles is counted. -/
theorem handle_list_refines_iff (hfuel : cs.length < fuel) :
    (∀ (s : Sequence H σ) c, (s.step c).1.Failed → (s.step c).2 = s) ∧
      ((∀ pre, pre <+: cs →
          Refines fuel head (World.begin heap head node env) ⟨[], env⟩ (⟨false, .initHead⟩ :: pre)) ↔
        AllAllowed fuel head (World.begin heap head node env) ⟨[], env⟩ (⟨false, .initHead⟩ :: cs)) := by
  refine ⟨fun s c => step_failed, fun h => (refines_iff hfuel).mp (h cs List.prefix_rfl), ?_⟩
  intro h pre hpre
  exact (refines_iff (hpre.length_le.trans_lt hfuel)).mpr
    (h.of_prefix (List.cons_prefix_cons.mpr ⟨rfl, hpre⟩))

/-- A `malloc` that fails. -/
def Malloc.failing : Malloc H where
  alloc _ := none
  fresh h := nomatch h

/-- The theorem for a list that one handle is added to and deleted from, in a memory of three cells. -/
theorem handle_list_refines_iff_two :
    let malloc : Malloc ℕ :=
      { alloc := fun heap => if heap 2 = none then some (2, ⟨some 9, some 9, some 9⟩) else none
        fresh := by
          intro heap a node h
          split at h
          · next hfree => cases h; exact hfree
          · exact nomatch h }
    let cs : List (Call ℕ ℕ) := [⟨false, .addHandle (some 5) malloc⟩, ⟨false, .delHandle (some 5)⟩]
    (∀ (s : Sequence ℕ ℕ) c, (s.step c).1.Failed → (s.step c).2 = s) ∧
      ((∀ pre, pre <+: cs → Refines 3 1 (World.begin (fun _ => none) 1 ⟨none, none, none⟩ 0) ⟨[], 0⟩
          (⟨false, .initHead⟩ :: pre)) ↔
        AllAllowed 3 1 (World.begin (fun _ => none) 1 ⟨none, none, none⟩ 0) ⟨[], 0⟩
          (⟨false, .initHead⟩ :: cs)) :=
  handle_list_refines_iff (by decide)

/-- A handle is added while no memory is left: the sequence gets longer, the program crashes. -/
theorem add_without_memory :
    let cs : List (Call ℕ ℕ) := [⟨false, .initHead⟩, ⟨false, .addHandle (some 5) .failing⟩]
    calls 3 1 (World.begin (fun _ => none) 1 ⟨none, none, none⟩ 0) cs = .error .badAccess ∧
      (Sequence.steps ⟨[], 0⟩ cs).1 = [.rc keyTrue, .rc keyTrue] ∧
      (Sequence.steps ⟨[], 0⟩ cs).2.handles = [5] ∧
      ¬ Refines 3 1 (World.begin (fun _ => none) 1 ⟨none, none, none⟩ 0) ⟨[], 0⟩ cs := by
  intro cs
  have hcrash : calls 3 1 (World.begin (fun _ => none) 1 ⟨none, none, none⟩ 0) cs = .error .badAccess := rfl
  refine ⟨hcrash, rfl, rfl, ?_⟩
  rintro ⟨w', nodes, hrun, -⟩
  exact absurd (hcrash.symm.trans hrun) (fun h => nomatch h)

end SmartPlat.HandleManage
