import SmartPlat.UsrMem.Proofs.Allocation

set_option autoImplicit false

/-! # Arenas release everything once

`usr_free` takes the header behind that of the arena out of the ring before it follows its pointer and releases it,
so every round starts with a smaller arena. -/

namespace SmartPlat.UsrMem

open SmartPlat.Lib Memory

variable {m : Memory} {a b head : Addr} {create p : Option Addr} {calls : List Call}
  {as : List (Addr × Option Addr)}

/-! ## One round -/

theorem released_cons (as : List (Addr × Option Addr)) (head b : Addr) (p : Option Addr) :
    released ((b, p) :: as) head = (p.toList ++ [b]) ++ released as head := by
  rw [released, released, List.flatMap_cons, List.append_assoc]

/-- **The block** of the first header is released, if there is one. -/
theorem free_block (h : IsArena m head ((b, p) :: as)) :
    ∃ m', m.free p = .ok m' ∧ (m'.next = m.next ∧ m'.prev = m.prev ∧ m'.memAddr = m.memAddr) ∧
      m'.handles = m.handles ∧ (∀ c ∈ m.blocks, p ≠ some c → c ∈ m'.blocks) ∧
      m'.freed = m.freed ++ p.toList := by
  cases p with
  | none => exact ⟨m, rfl, ⟨rfl, rfl, rfl⟩, rfl, fun c hc _ => hc, (List.append_nil _).symm⟩
  | some q =>
      obtain ⟨hblock, hhandle⟩ := h.blocks (b, some q) List.mem_cons_self q rfl
      refine ⟨_, (if_neg hhandle).trans (if_pos hblock), ⟨rfl, rfl, rfl⟩, rfl, fun c hc hne => ?_, rfl⟩
      exact Finset.mem_erase.2 ⟨fun hcq => hne (congrArg some hcq.symm), hc⟩

/-- **One round** releases the first block and its header, and leaves an arena without them. -/
theorem freeNodes_step (h : IsArena m head ((b, p) :: as)) (fuel : ℕ) :
    ∃ m', freeNodes (some head) (fuel + 1) m (m.next head) = freeNodes (some head) fuel m' (m'.next head) ∧
      IsArena m' head as ∧ m'.freed = m.freed ++ (p.toList ++ [b]) := by
  have hring : IsRing m.next m.prev head (b :: as.map Prod.fst) := h.ring
  obtain ⟨hfirst, hback, -⟩ := hring.seg
  obtain ⟨c, hc, hbc, hcb⟩ := hring.next_first
  have hne {d : Addr} (hd : d ∈ head :: as.map Prod.fst) : d ≠ b := by
    rintro rfl
    have hnodup := (List.Perm.swap head d _).nodup_iff.2 hring.nodup
    exact (List.nodup_cons.1 hnodup).1 hd
  have hbh : b ≠ head := (hne List.mem_cons_self).symm
  have hhandles {d : Addr} (hd : d ∈ head :: as.map Prod.fst) : d ∈ m.handles :=
    h.handles d (List.Sublist.subset (List.Sublist.cons_cons head (List.sublist_cons_self b _)) hd)
  have hb : b ∈ m.handles := h.handles b (List.mem_cons_of_mem head List.mem_cons_self)
  have honce := h.once
  rw [released_cons] at honce
  obtain ⟨-, honce', hdisjoint⟩ := List.nodup_append.1 honce
  obtain ⟨m₁, hfree₁, ⟨hnext₁, hprev₁, hmem₁⟩, hhandles₁, hblocks₁, hfreed₁⟩ := free_block h
  have hhead₁ : head ∈ m₁.handles := hhandles₁ ▸ hhandles List.mem_cons_self
  have hback₁ : m₁.prev b = some head := hprev₁ ▸ hback
  have hbc₁ : m₁.next b = some c := hnext₁ ▸ hbc
  obtain ⟨m₂, hremove, hsame, hnext₂, htake⟩ :=
    listRemove_spec hhead₁ (hhandles₁ ▸ hb) (hhandles₁ ▸ hhandles hc) hback₁ hbc₁ hbh hcb
  have hhandles₂ : m₂.handles = m.handles := hsame.handles.trans hhandles₁
  have hread₂ : m₂.readNext (some b) = .ok (some c) := hnext₂ ▸ readNext_eq (m := m₂) (hhandles₂ ▸ hb)
  let m₃ : Memory := { m₂ with handles := m₂.handles.erase b, freed := m₂.freed ++ [b] }
  have hfree₂ : m₂.free (some b) = .ok m₃ := if_pos (hhandles₂ ▸ hb)
  have hnext₃ : m₃.next head = some c := htake.next_head.trans (hnext₁ ▸ hbc)
  have hread : m.readMemAddr (some b) = .ok p :=
    (readMemAddr_eq hb).trans (congrArg _ (h.memAddr (b, p) List.mem_cons_self))
  refine ⟨m₃, ?_, ⟨?_, ?_, ?_, ?_, honce'⟩, ?_⟩
  · rw [hnext₃, hfirst, freeNodes, if_neg fun hsome => hbh (Option.some.inj hsome)]
    dsimp only
    rw [hread, bind_ok, hfree₁, bind_ok, hremove, bind_ok, hread₂, bind_ok, hfree₂, bind_ok]
  · rw [hnext₁, hprev₁] at htake
    exact hring.takeFirst htake
  · intro d hd
    exact Finset.mem_erase.2 ⟨hne hd, hhandles₂ ▸ hhandles hd⟩
  · intro e he
    have hmem₃ : m₃.memAddr = m.memAddr := hsame.memAddr.trans hmem₁
    rw [hmem₃]
    exact h.memAddr e (List.mem_cons_of_mem _ he)
  · intro e he q hq
    obtain ⟨hblock, hhandle⟩ := h.blocks e (List.mem_cons_of_mem _ he) q hq
    have hother : p ≠ some q := by
      rintro rfl
      exact hdisjoint q List.mem_cons_self q (mem_released.2 (.inr ⟨e, he, .inr hq.symm⟩)) rfl
    have hblocks₃ : m₃.blocks = m₁.blocks := hsame.blocks
    refine ⟨hblocks₃ ▸ hblocks₁ q hblock hother, fun hq => hhandle ?_⟩
    exact hhandles₂ ▸ Finset.mem_of_mem_erase hq
  · have hfreed₃ : m₃.freed = m₂.freed ++ [b] := rfl
    rw [hfreed₃, hsame.freed, hfreed₁, List.append_assoc]

/-! ## The loop -/

/-- **The loop** releases the blocks and their headers, in order, in as many rounds. -/
theorem freeNodes_spec (h : IsArena m head as) :
    ∃ m', freeNodes (some head) (as.length + 1) m (m.next head) = .ok m' ∧ head ∈ m'.handles ∧
      m'.freed ++ [head] = m.freed ++ released as head := by
  induction as generalizing m with
  | nil =>
      have hempty : m.next head = some head := h.ring.seg
      exact ⟨m, if_pos hempty, h.handles head List.mem_cons_self, rfl⟩
  | cons e as ih =>
      obtain ⟨m₁, hround, harena, hfreed⟩ := freeNodes_step h (as.length + 1)
      obtain ⟨m₂, hloop, hhead, hrest⟩ := ih harena
      refine ⟨m₂, hround.trans hloop, hhead, ?_⟩
      rw [hrest, hfreed, released_cons, List.append_assoc]

/-- **`usr_free`** ends, and releases everything the arena has. -/
theorem usrFree_spec (h : IsArena m head as) :
    ∃ fuel m', usrFree fuel m (some head) = .ok m' ∧ m'.freed = m.freed ++ released as head := by
  obtain ⟨m₁, hloop, hhead, hfreed⟩ := freeNodes_spec h
  refine ⟨as.length + 1, { m₁ with handles := m₁.handles.erase head, freed := m₁.freed ++ [head] }, ?_, hfreed⟩
  rw [usrFree, readNext_eq (h.handles head List.mem_cons_self), bind_ok, hloop, bind_ok]
  exact if_pos hhead

/-! ## Runs -/

/-- What `malloc` returns in a run, as far as it is not NULL. -/
def addressesOf (calls : List Call) : List Addr := calls.flatMap fun c => c.p.toList ++ c.newHandle.toList

/-- The calls of `malloc` that are made for it succeed; one for no bytes need not. -/
def Call.Succeeds (c : Call) : Prop := c.newHandle.isSome ∧ (c.p.isSome ∨ c.len = 0)

/-- After each part of the run the headers are a ring, each block is there once, and `usr_free` would release the
    blocks, their headers and that of the arena, each once. -/
def KeepsAndReleases (m : Memory) (create : Option Addr) (calls : List Call) : Prop :=
  ∀ pre, pre <+: calls → ∃ head m₁ m₂ as, create = some head ∧ createMemHandle m create = .ok m₁ ∧
    usrMallocs create pre m₁ = .ok m₂ ∧ IsArena m₂ head as ∧
    as.map (fun e => (some e.1, e.2)) = pre.map (fun c => (c.newHandle, c.p)) ∧
    ∃ fuel m₃ addresses, usrFree fuel m₂ create = .ok m₃ ∧ m₃.freed = m₂.freed ++ addresses ∧ addresses.Nodup ∧
      ∀ a, a ∈ addresses ↔ some a = create ∨ ∃ c ∈ pre, some a = c.newHandle ∨ some a = c.p

theorem Fresh.of_append {l l' : List Addr} (h : Fresh m (l ++ l')) : Fresh m l :=
  ⟨(List.nodup_append.1 h.1).1, fun a ha => h.2 a (List.mem_append_left _ ha)⟩

/-- **The run** puts the blocks of its calls into the arena, in order. -/
theorem usrMallocs_spec (h : IsArena m head as) (hfresh : Fresh m (addressesOf calls))
    (hcalls : ∀ c ∈ calls, c.Succeeds) :
    ∃ m' new, usrMallocs (some head) calls m = .ok m' ∧ IsArena m' head (as ++ new) ∧
      new.map (fun e => (some e.1, e.2)) = calls.map fun c => (c.newHandle, c.p) := by
  induction calls generalizing m as with
  | nil => exact ⟨m, [], rfl, (List.append_nil as).symm ▸ h, rfl⟩
  | cons c calls ih =>
      obtain ⟨hc, hlater⟩ := List.forall_mem_cons.1 hcalls
      obtain ⟨len, newHandle, p⟩ := c
      obtain ⟨a, rfl⟩ := Option.isSome_iff_exists.1 hc.1
      rw [addressesOf, List.flatMap_cons] at hfresh
      obtain ⟨m₁, hmalloc, harena, hhandles, hblocks, -⟩ := usrMalloc_spec h hfresh.of_append hc.2
      have hfresh₁ : Fresh m₁ (addressesOf calls) := by
        obtain ⟨hhere, hrest, hdisjoint⟩ := List.nodup_append.1 hfresh.1
        refine ⟨hrest, fun b hb => ?_⟩
        obtain ⟨hhandle, hblock⟩ := hfresh.2 b (List.mem_append_right _ hb)
        rw [hhandles, Finset.mem_insert, not_or, hblocks, not_or]
        refine ⟨⟨fun hba => ?_, hhandle⟩, hblock, fun hp => ?_⟩
        · exact hdisjoint a (List.mem_append_right _ List.mem_cons_self) b hb hba.symm
        · exact hdisjoint b (List.mem_append_left _ (Option.mem_toList.2 hp)) b hb rfl
      obtain ⟨m₂, new, hrun, harena₂, hnew⟩ := ih harena hfresh₁ hlater
      refine ⟨m₂, (a, p) :: new, ?_, ?_, congrArg (List.cons (some a, p)) hnew⟩
      · rw [usrMallocs, hmalloc]
        exact hrun
      · rw [List.append_cons]
        exact harena₂

/-- A run that comes to its end had all its memory. -/
theorem succeeds_of_usrMallocs {m' : Memory} (hrun : usrMallocs create calls m = .ok m') :
    ∀ c ∈ calls, c.Succeeds := by
  induction calls generalizing m with
  | nil => exact fun c hc => absurd hc List.not_mem_nil
  | cons c calls ih =>
      obtain ⟨len, newHandle, p⟩ := c
      rw [usrMallocs] at hrun
      obtain ⟨r, hmalloc, hrest⟩ := bind_eq_ok_iff.1 hrun
      refine List.forall_mem_cons.2 ⟨⟨?_, ?_⟩, ih hrest⟩
      · cases newHandle with
        | none => cases hmalloc
        | some a => rfl
      · cases p with
        | some q => exact .inl rfl
        | none =>
            obtain ⟨m₁, -, hmalloc⟩ := bind_eq_ok_iff.1 hmalloc
            obtain ⟨m₂, hmemset, -⟩ := bind_eq_ok_iff.1 hmalloc
            rw [memset] at hmemset
            by_cases hlen : len = 0
            · exact .inr hlen
            · rw [if_neg hlen] at hmemset
              cases hmemset

/-- **Arenas**: a run keeps the ring, and `usr_free` then releases everything once, exactly if each call of
    `malloc` for a number of bytes succeeds. -/
theorem keepsAndReleases_iff (m : Memory) (create : Option Addr) (calls : List Call)
    (hfresh : Fresh m (create.toList ++ addressesOf calls)) :
    KeepsAndReleases m create calls ↔ create.isSome ∧ ∀ c ∈ calls, c.Succeeds := by
  constructor
  · intro h
    obtain ⟨head, m₁, m₂, as, hcreate, -, hrun, -⟩ := h calls (List.prefix_refl calls)
    exact ⟨hcreate ▸ rfl, succeeds_of_usrMallocs hrun⟩
  · rintro ⟨hsome, hcalls⟩ pre ⟨rest, rfl⟩
    obtain ⟨head, rfl⟩ := Option.isSome_iff_exists.1 hsome
    obtain ⟨m₁, hcreate, hnext, hprev, -, hhandles, hblocks, -⟩ := createMemHandle_spec m head
    have harena : IsArena m₁ head [] := isArena_nil hnext hprev (hhandles ▸ Finset.mem_insert_self head _)
    have hfresh₁ : Fresh m₁ (addressesOf pre ++ addressesOf rest) := by
      rw [addressesOf, List.flatMap_append] at hfresh
      obtain ⟨hhead, hnodup⟩ := List.nodup_cons.1 hfresh.1
      refine ⟨hnodup, fun a ha => ?_⟩
      obtain ⟨hhandle, hblock⟩ := hfresh.2 a (List.mem_cons_of_mem head ha)
      rw [hhandles, Finset.mem_insert, not_or, hblocks]
      exact ⟨⟨fun hah => hhead (hah ▸ ha), hhandle⟩, hblock⟩
    obtain ⟨m₂, as, hrun, harena₂, has⟩ := usrMallocs_spec harena hfresh₁.of_append fun c hc =>
      hcalls c (List.mem_append_left _ hc)
    obtain ⟨fuel, m₃, hfree, hfreed⟩ := usrFree_spec harena₂
    refine ⟨head, m₁, m₂, as, rfl, hcreate, hrun, harena₂, has, fuel, m₃, released as head, hfree, hfreed,
      harena₂.once, fun a => ?_⟩
    rw [mem_released, Option.some.injEq]
    refine or_congr_right ?_
    have hpairs : (∃ e ∈ as.map fun e => (some e.1, e.2), some a = e.1 ∨ some a = e.2) ↔
        ∃ e ∈ pre.map fun c => (c.newHandle, c.p), some a = e.1 ∨ some a = e.2 := by rw [← has]
    simpa only [List.mem_map, exists_exists_and_eq_and, Option.some.injEq] using hpairs

/-- Two blocks, one of them of no bytes and without an address. -/
theorem keepsAndReleases_two :
    Fresh ⟨fun _ => none, fun _ => none, fun _ => none, ∅, ∅, []⟩
        ([16] ++ addressesOf [⟨8, some 32, some 48⟩, ⟨0, some 64, none⟩]) ∧
      (KeepsAndReleases ⟨fun _ => none, fun _ => none, fun _ => none, ∅, ∅, []⟩ (some 16)
          [⟨8, some 32, some 48⟩, ⟨0, some 64, none⟩] ↔
        (some 16).isSome ∧ ∀ c ∈ [⟨8, some 32, some 48⟩, ⟨0, some 64, none⟩], Call.Succeeds c) :=
  have h : Fresh ⟨fun _ => none, fun _ => none, fun _ => none, ∅, ∅, []⟩
      ([16] ++ addressesOf [⟨8, some 32, some 48⟩, ⟨0, some 64, none⟩]) :=
    ⟨by decide, fun a _ => ⟨Finset.notMem_empty a, Finset.notMem_empty a⟩⟩
  ⟨h, keepsAndReleases_iff _ (some 16) _ h⟩

/-- What `malloc` returns is written to before anybody could look at it. -/
theorem usrMalloc_null :
    ¬ KeepsAndReleases ⟨fun _ => none, fun _ => none, fun _ => none, ∅, ∅, []⟩ (some 16) [⟨8, some 32, none⟩] := by
  intro h
  obtain ⟨head, m₁, m₂, as, hcreate, -, hrun, -⟩ := h _ (List.prefix_refl _)
  have hcall := succeeds_of_usrMallocs hrun _ List.mem_cons_self
  exact absurd hcall.2 (by decide)

end SmartPlat.UsrMem
