import SmartPlat.UsrMem.Arena
import SmartPlat.Lib.Ring

set_option autoImplicit false

/-! # Arenas keep their ring

The headers of an arena are a ring after every allocation, if the calls of `malloc` succeed. -/

namespace SmartPlat.UsrMem

open SmartPlat.Lib

variable {m : Memory} {a b c head last item : Addr} {v p : Option Addr} {len : Int32}
  {as : List (Addr × Option Addr)}

/-! ## Reading and writing -/

namespace Memory

theorem handleAt_eq (h : a ∈ m.handles) : m.handleAt (some a) = .ok a := if_pos h

theorem readMemAddr_eq (h : a ∈ m.handles) : m.readMemAddr (some a) = .ok (m.memAddr a) := by
  rw [readMemAddr, handleAt_eq h]
  rfl

theorem readNext_eq (h : a ∈ m.handles) : m.readNext (some a) = .ok (m.next a) := by
  rw [readNext, handleAt_eq h]
  rfl

theorem readPrev_eq (h : a ∈ m.handles) : m.readPrev (some a) = .ok (m.prev a) := by
  rw [readPrev, handleAt_eq h]
  rfl

theorem writeMemAddr_eq (h : a ∈ m.handles) : m.writeMemAddr (some a) v = .ok (m.setMemAddr a v) := by
  rw [writeMemAddr, handleAt_eq h]
  rfl

theorem writeNext_eq (h : a ∈ m.handles) : m.writeNext (some a) v = .ok (m.setNext a v) := by
  rw [writeNext, handleAt_eq h]
  rfl

theorem writePrev_eq (h : a ∈ m.handles) : m.writePrev (some a) v = .ok (m.setPrev a v) := by
  rw [writePrev, handleAt_eq h]
  rfl

@[simp] theorem handles_setMemAddr : (m.setMemAddr a v).handles = m.handles := rfl

@[simp] theorem handles_setNext : (m.setNext a v).handles = m.handles := rfl

@[simp] theorem handles_setPrev : (m.setPrev a v).handles = m.handles := rfl

@[simp] theorem next_setPrev : (m.setPrev a v).next = m.next := rfl

@[simp] theorem prev_setNext : (m.setNext a v).prev = m.prev := rfl

@[simp] theorem next_setNext_self : (m.setNext a v).next a = v := Function.update_self ..

@[simp] theorem prev_setPrev_self : (m.setPrev a v).prev a = v := Function.update_self ..

theorem next_setNext_of_ne (h : b ≠ a) : (m.setNext a v).next b = m.next b := Function.update_of_ne h ..

theorem prev_setPrev_of_ne (h : b ≠ a) : (m.setPrev a v).prev b = m.prev b := Function.update_of_ne h ..

theorem bind_ok {α β : Type} (a : α) (f : α → Except Fault β) : (Except.ok a >>= f) = f a := rfl

/-- Only links of the list have changed. -/
structure SameBut (m m' : Memory) : Prop where
  memAddr : m'.memAddr = m.memAddr
  handles : m'.handles = m.handles
  blocks : m'.blocks = m.blocks
  freed : m'.freed = m.freed

end Memory

open Memory

/-! ## `list.c` -/

theorem listInit_spec (ha : a ∈ m.handles) :
    listInit m (some a) = .ok ((m.setNext a (some a)).setPrev a (some a)) := by
  rw [listInit, writeNext_eq ha]
  exact writePrev_eq ha

/-- **`list_add_tail`** puts the item between the last cell and the head. -/
theorem listAddTail_spec (hhead : head ∈ m.handles) (hitem : item ∈ m.handles) (hlast : last ∈ m.handles)
    (hback : m.prev head = some last) (hih : item ≠ head) (hil : item ≠ last) :
    ∃ m', listAddTail m (some head) (some item) = .ok m' ∧ m.SameBut m' ∧
      PutLast m.next m.prev m'.next m'.prev head last item := by
  let m₁ := m.setNext item (some head)
  let m₂ := m₁.setPrev item (some last)
  let m₃ := m₂.setNext last (some item)
  have hread₁ : m₁.readPrev (some head) = .ok (some last) := hback ▸ readPrev_eq (m := m₁) hhead
  have hwrite₁ : m₁.writePrev (some item) (some last) = .ok m₂ := writePrev_eq hitem
  have hprev₂ : m₂.prev head = some last := (prev_setPrev_of_ne hih.symm).trans hback
  have hread₂ : m₂.readPrev (some head) = .ok (some last) := hprev₂ ▸ readPrev_eq (m := m₂) hhead
  have hwrite₂ : m₂.writeNext (some last) (some item) = .ok m₃ := writeNext_eq hlast
  have hwrite₃ : m₃.writePrev (some head) (some item) = .ok (m₃.setPrev head (some item)) := writePrev_eq hhead
  refine ⟨m₃.setPrev head (some item), ?_, ⟨rfl, rfl, rfl, rfl⟩, ?_⟩
  · rw [listAddTail, writeNext_eq hitem, bind_ok, hread₁, bind_ok, hwrite₁, bind_ok, hread₂, bind_ok, hwrite₂, bind_ok,
      hwrite₃]
  · constructor
    · exact next_setNext_self
    · exact (next_setNext_of_ne hil).trans next_setNext_self
    · exact (prev_setPrev_of_ne hih).trans prev_setPrev_self
    · exact prev_setPrev_self
    · intro c hcl hci
      exact (next_setNext_of_ne hcl).trans (next_setNext_of_ne hci)
    · intro c hch hci
      exact (prev_setPrev_of_ne hch).trans (prev_setPrev_of_ne hci)

/-- **`list_remove`** takes the first cell out and leaves its own pointers as they are. -/
theorem listRemove_spec (hhead : head ∈ m.handles) (hb : b ∈ m.handles) (hc : c ∈ m.handles)
    (hback : m.prev b = some head) (hbc : m.next b = some c) (hbh : b ≠ head) (hcb : c ≠ b) :
    ∃ m', listRemove m (some b) = .ok m' ∧ m.SameBut m' ∧ m'.next b = some c ∧
      TakenFirst m.next m.prev m'.next m'.prev head b := by
  let m₁ := m.setPrev c (some head)
  have hnext : m.readNext (some b) = .ok (some c) := hbc ▸ readNext_eq hb
  have hprev : m.readPrev (some b) = .ok (some head) := hback ▸ readPrev_eq hb
  have hprev₁ : m₁.prev b = some head := (prev_setPrev_of_ne hcb.symm).trans hback
  have hread₁ : m₁.readPrev (some b) = .ok (some head) := hprev₁ ▸ readPrev_eq (m := m₁) hb
  have hread₂ : m₁.readNext (some b) = .ok (some c) := hbc ▸ readNext_eq (m := m₁) hb
  have hwrite : m₁.writeNext (some head) (some c) = .ok (m₁.setNext head (some c)) := writeNext_eq hhead
  refine ⟨m₁.setNext head (some c), ?_, ⟨rfl, rfl, rfl, rfl⟩, (next_setNext_of_ne hbh).trans hbc, ?_⟩
  · rw [listRemove, hnext, bind_ok, hprev, bind_ok, writePrev_eq hc, bind_ok, hread₁, bind_ok, hread₂, bind_ok, hwrite]
  · constructor
    · exact next_setNext_self.trans hbc.symm
    · intro d hd
      obtain rfl := Option.some.inj (hbc.symm.trans hd)
      exact prev_setPrev_self
    · exact fun d hd => next_setNext_of_ne hd
    · exact fun d hd => prev_setPrev_of_ne fun hdc => hd (hdc ▸ hbc)

/-! ## The invariant -/

/-- What is released of an arena, in order: each block and its header, and the header of the arena. -/
def released (as : List (Addr × Option Addr)) (head : Addr) : List Addr :=
  as.flatMap (fun e => e.2.toList ++ [e.1]) ++ [head]

/-- The arena at `head` has the headers and blocks `as`. -/
structure IsArena (m : Memory) (head : Addr) (as : List (Addr × Option Addr)) : Prop where
  ring : IsRing m.next m.prev head (as.map Prod.fst)
  handles : ∀ a ∈ head :: as.map Prod.fst, a ∈ m.handles
  memAddr : ∀ e ∈ as, m.memAddr e.1 = e.2
  blocks : ∀ e ∈ as, ∀ p, e.2 = some p → p ∈ m.blocks ∧ p ∉ m.handles
  once : (released as head).Nodup

theorem mem_released : a ∈ released as head ↔ a = head ∨ ∃ e ∈ as, a = e.1 ∨ some a = e.2 := by
  simp only [released, List.mem_append, List.mem_flatMap, List.mem_singleton, Option.mem_toList]
  constructor
  · rintro (⟨e, he, hblock | hheader⟩ | hhead)
    · exact .inr ⟨e, he, .inr hblock.symm⟩
    · exact .inr ⟨e, he, .inl hheader⟩
    · exact .inl hhead
  · rintro (hhead | ⟨e, he, hheader | hblock⟩)
    · exact .inr hhead
    · exact .inl ⟨e, he, .inr hheader⟩
    · exact .inl ⟨e, he, .inl hblock.symm⟩

theorem IsArena.live (h : IsArena m head as) (ha : a ∈ released as head) : a ∈ m.handles ∨ a ∈ m.blocks := by
  rcases mem_released.1 ha with rfl | ⟨e, he, rfl | hblock⟩
  · exact .inl (h.handles a List.mem_cons_self)
  · exact .inl (h.handles e.1 (List.mem_cons_of_mem _ (List.mem_map_of_mem he)))
  · exact .inr (h.blocks e he a hblock.symm).1

/-- Addresses that `malloc` may return: each once, and none in use. -/
def Fresh (m : Memory) (addresses : List Addr) : Prop :=
  addresses.Nodup ∧ ∀ a ∈ addresses, a ∉ m.handles ∧ a ∉ m.blocks

theorem released_perm (as : List (Addr × Option Addr)) (head a : Addr) (p : Option Addr) :
    (released (as ++ [(a, p)]) head).Perm ((p.toList ++ [a]) ++ released as head) := by
  rw [released, released, List.flatMap_append, List.flatMap_singleton, List.append_assoc]
  exact List.perm_append_comm_assoc _ (p.toList ++ [a]) _

/-! ## Allocating -/

/-- **A new header** is a ring of its own. -/
theorem createMemHandle_spec (m : Memory) (a : Addr) :
    ∃ m', createMemHandle m (some a) = .ok m' ∧ m'.next a = some a ∧ m'.prev a = some a ∧
      (∀ b, b ≠ a → m'.next b = m.next b ∧ m'.prev b = m.prev b ∧ m'.memAddr b = m.memAddr b) ∧
      m'.handles = insert a m.handles ∧ m'.blocks = m.blocks ∧ m'.freed = m.freed := by
  refine ⟨_, listInit_spec (Finset.mem_insert_self a m.handles), next_setNext_self, prev_setPrev_self, ?_,
    rfl, rfl, rfl⟩
  intro b hb
  refine ⟨(next_setNext_of_ne hb).trans (next_setNext_of_ne hb), ?_, Function.update_of_ne hb ..⟩
  exact (prev_setPrev_of_ne hb).trans (prev_setPrev_of_ne hb)

theorem isArena_nil (hnext : m.next head = some head) (hprev : m.prev head = some head) (hhead : head ∈ m.handles) :
    IsArena m head [] where
  ring := isRing_nil hnext hprev
  handles _ ha := List.mem_singleton.1 ha ▸ hhead
  memAddr _ he := absurd he List.not_mem_nil
  blocks _ he := absurd he List.not_mem_nil
  once := List.nodup_singleton head

theorem memset_spec (hp : p.isSome ∨ len = 0) :
    ∃ m', memset m p len = .ok m' ∧ (m'.next = m.next ∧ m'.prev = m.prev ∧ m'.memAddr = m.memAddr) ∧
      m'.handles = m.handles ∧ m'.freed = m.freed ∧ ∀ b, b ∈ m'.blocks ↔ b ∈ m.blocks ∨ p = some b := by
  cases p with
  | none =>
      obtain hlen : len = 0 := by simpa using hp
      exact ⟨m, if_pos hlen, ⟨rfl, rfl, rfl⟩, rfl, rfl, fun b => by simp⟩
  | some q =>
      refine ⟨_, rfl, ⟨rfl, rfl, rfl⟩, rfl, rfl, fun b => ?_⟩
      rw [Finset.mem_insert, Option.some.injEq, or_comm, eq_comm]

/-- **An allocation** whose calls of `malloc` succeed puts the header and its block at the end of the ring. -/
theorem usrMalloc_spec (h : IsArena m head as) (hfresh : Fresh m (p.toList ++ [a])) (hp : p.isSome ∨ len = 0) :
    ∃ m', usrMalloc m (some head) len (some a) p = .ok (m', p) ∧ IsArena m' head (as ++ [(a, p)]) ∧
      m'.handles = insert a m.handles ∧ (∀ b, b ∈ m'.blocks ↔ b ∈ m.blocks ∨ p = some b) ∧ m'.freed = m.freed := by
  obtain ⟨m₁, hcreate, hnext₁, hprev₁, hother₁, hhandles₁, hblocks₁, hfreed₁⟩ := createMemHandle_spec m a
  obtain ⟨m₂, hmemset, ⟨hnext₂, hprev₂, hmem₂⟩, hhandles₂, hfreed₂, hblocks₂⟩ := memset_spec (m := m₁) hp
  let m₃ := m₂.setMemAddr a p
  have ha : a ∉ m.handles := (hfresh.2 a (List.mem_append_right _ List.mem_cons_self)).1
  have hne {b : Addr} (hb : b ∈ head :: as.map Prod.fst) : b ≠ a := fun hba => ha (hba ▸ h.handles b hb)
  have hhandles₃ : m₃.handles = insert a m.handles := hhandles₂.trans hhandles₁
  have hblocks₃ (b : Addr) : b ∈ m₃.blocks ↔ b ∈ m.blocks ∨ p = some b := hblocks₁ ▸ hblocks₂ b
  have hin {b : Addr} (hb : b ∈ m.handles) : b ∈ m₃.handles := hhandles₃ ▸ Finset.mem_insert_of_mem hb
  have ha₃ : a ∈ m₃.handles := hhandles₃ ▸ Finset.mem_insert_self a _
  have hring₃ : IsRing m₃.next m₃.prev head (as.map Prod.fst) := by
    refine h.ring.congr (fun b hb => ?_) fun b hb => ?_
    · exact (congrFun hnext₂ b).trans (hother₁ b (hne hb)).1
    · exact (congrFun hprev₂ b).trans (hother₁ b (hne hb)).2.1
  have hlast := List.getLastD_mem_cons (a := head) (l := as.map Prod.fst)
  obtain ⟨m₄, hadd, hsame, hput⟩ := listAddTail_spec (hin (h.handles head List.mem_cons_self)) ha₃
    (hin (h.handles _ hlast)) hring₃.back (hne List.mem_cons_self).symm (hne hlast).symm
  refine ⟨m₄, ?_, ⟨?_, ?_, ?_, ?_, ?_⟩, hsame.handles.trans hhandles₃, fun b => hsame.blocks ▸ hblocks₃ b, ?_⟩
  · have hwrite : m₂.writeMemAddr (some a) p = .ok m₃ := writeMemAddr_eq ha₃
    rw [usrMalloc, hcreate, bind_ok, hmemset, bind_ok, hwrite, bind_ok, hadd]
    rfl
  · rw [List.map_append]
    exact hring₃.putLast (fun hmem => hne hmem rfl) hput
  · intro b hb
    rw [hsame.handles, hhandles₃, Finset.mem_insert]
    rw [List.map_append, ← List.cons_append, List.mem_append] at hb
    exact hb.symm.imp List.mem_singleton.1 (h.handles b)
  · intro e he
    rw [hsame.memAddr]
    rcases List.mem_append.1 he with he | he
    · have hea := hne (List.mem_cons_of_mem head (List.mem_map_of_mem he))
      have hold : m₂.memAddr e.1 = e.2 := (congrFun hmem₂ e.1).trans ((hother₁ e.1 hea).2.2.trans (h.memAddr e he))
      exact (Function.update_of_ne hea ..).trans hold
    · obtain rfl := List.mem_singleton.1 he
      exact Function.update_self ..
  · intro e he q hq
    rw [hsame.blocks, hblocks₃, hsame.handles, hhandles₃, Finset.mem_insert, not_or]
    rcases List.mem_append.1 he with he | he
    · obtain ⟨hblock, hhandle⟩ := h.blocks e he q hq
      have haq := (hfresh.2 a (List.mem_append_right _ List.mem_cons_self)).2
      exact ⟨.inl hblock, fun hqa => haq (hqa ▸ hblock), hhandle⟩
    · obtain rfl := List.mem_singleton.1 he
      obtain rfl : p = some q := hq
      have hqa : q ≠ a := fun hqa => (List.nodup_cons.1 hfresh.1).1 (hqa ▸ List.mem_cons_self)
      exact ⟨.inr rfl, hqa, (hfresh.2 q List.mem_cons_self).1⟩
  · rw [(released_perm as head a p).nodup_iff]
    refine List.nodup_append.2 ⟨hfresh.1, h.once, fun b hb c hc hbc => ?_⟩
    exact (h.live hc).elim (hbc ▸ hfresh.2 b hb).1 (hbc ▸ hfresh.2 b hb).2
  · rw [hsame.freed]
    exact hfreed₂.trans hfreed₁

end SmartPlat.UsrMem
