import SmartPlat.HandleManage.Proofs.Nodes

set_option autoImplicit false

/-! # The operations of a handle list

What each function does to the nodes behind the head, and what it returns. Where `malloc` fails,
`HandleManageAddHandle` and `HandleManageAddHandle1` write through `NULL`. -/

namespace SmartPlat.HandleManage

open Lib

variable {H σ : Type} {heap : Heap H} {b c n p head : Addr} {v : H} {last node prev succ : Node H}
  {nodes l r : List (Addr × H)}
  {malloc : Malloc H} {fuel : ℕ}

/-! ## An empty list -/

theorem initHead_spec (h : heap head = some node) :
    ∃ heap', initHead heap (some head) = .ok (keyTrue, heap') ∧ Represents heap' head [] := by
  refine ⟨Function.update heap head (some { handle := none, next := none, pre := none }), ?_,
    exists_update ⟨node, h⟩ _, isList_nil ?_ ?_, by simp⟩
  · simp only [initHead, store_eq h, bind, Except.bind, pure, Except.pure]
  · simp [nextOf_update]
  · simp [preOf_update]

/-! ## Adding a node -/

theorem malloc_spec (h : Represents heap head nodes) (halloc : (malloc.alloc heap).isSome) :
    ∃ n node heap₁, malloc.run heap = (some n, heap₁) ∧ heap₁ n = some node ∧
      Represents heap₁ head nodes ∧ n ∉ head :: nodes.map Prod.fst := by
  obtain ⟨⟨n, node⟩, halloc⟩ := Option.isSome_iff_exists.mp halloc
  have hn := h.not_mem (malloc.fresh halloc)
  refine ⟨n, node, Function.update heap n (some node), ?_, ?_, h.update hn _, hn⟩
  · simp only [Malloc.run, halloc]
  · rw [Function.update_self]

theorem malloc_fails (halloc : malloc.alloc heap = none) : malloc.run heap = (none, heap) := by
  simp only [Malloc.run, halloc]

/-- The two assignments of `HandleManageAddHandle`, and those of `HandleManageAddHandle1` to an empty
    list. -/
theorem putBehind_last (hlast : heap p = some last) (hend : last.next = none) (hpn : p ≠ n) :
    PutBehind (nextOf heap) (preOf heap)
      (nextOf (Function.update (Function.update heap p (some { last with next := some n })) n
        (some { handle := some v, next := none, pre := some p })))
      (preOf (Function.update (Function.update heap p (some { last with next := some n })) n
        (some { handle := some v, next := none, pre := some p }))) p n := by
  have hnext := nextOf_eq hlast
  have hpre := preOf_eq hlast
  constructor <;> simp only [nextOf_update, preOf_update, Option.bind_some] <;> grind

theorem addHandle_spec (h : Represents heap head nodes) (hfuel : nodes.length < fuel)
    (halloc : (malloc.alloc heap).isSome) :
    ∃ heap' n, addHandle heap malloc fuel (some head) (some v) = .ok (keyTrue, heap') ∧
      Represents heap' head (nodes ++ [(n, v)]) := by
  obtain ⟨n, node, heap₁, hrun, hnode, hrep, hn⟩ := malloc_spec h halloc
  obtain ⟨headNode, hheadNode⟩ := hrep.exists_head
  have hlast := lastNode_spec hrep.links.seg hrep.holds hheadNode hfuel
  have hend : nextOf heap₁ _ = none := hrep.links.seg.next_last
  have hmem : (nodes.map Prod.fst).getLastD head ∈ head :: nodes.map Prod.fst :=
    List.getLastD_mem_cons
  generalize hp : (nodes.map Prod.fst).getLastD head = p at hlast hend hmem
  have hpn : p ≠ n := fun hpn => hn (hpn ▸ hmem)
  obtain ⟨last, hlastNode⟩ := hrep.exists_node hmem
  have hnode₂ := (Function.update_of_ne hpn.symm (some { last with next := some n }) heap₁).trans hnode
  refine ⟨Function.update (Function.update heap₁ p (some { last with next := some n })) n
    (some { handle := some v, next := none, pre := some p }), n, ?_, ?_⟩
  · simp only [addHandle, hrun, hlast, store_eq hlastNode, store_eq hnode₂, bind, Except.bind, pure,
      Except.pure]
  · rw [← List.append_nil nodes] at hrep hn
    refine hrep.put hn ?_ ?_ ?_ fun a ha => ?_
    · rw [hp]
      exact putBehind_last hlastNode ((nextOf_eq hlastNode).symm.trans hend) hpn
    · exact exists_update (exists_update ⟨headNode, hheadNode⟩ _) _
    · simp [handleOf_update]
    · rw [handleOf_update, if_neg ha]
      exact handleOf_relink hlastNode _ _ a

/-- The four assignments of `HandleManageAddHandle1`, `c` being the first node so far. -/
theorem putBehind_first (hp : heap p = some last) (hnext : last.next = some c) (hpn : p ≠ n)
    (hcn : c ≠ n) (hcp : c ≠ p) {first : Node H} (hc : heap c = some first) :
    PutBehind (nextOf heap) (preOf heap)
      (nextOf (Function.update (Function.update (Function.update heap n
        (some { handle := some v, next := some c, pre := some p })) p
        (some { last with next := some n })) c (some { first with pre := some n })))
      (preOf (Function.update (Function.update (Function.update heap n
        (some { handle := some v, next := some c, pre := some p })) p
        (some { last with next := some n })) c (some { first with pre := some n }))) p n := by
  have hnext_p := nextOf_eq hp
  have hpre_p := preOf_eq hp
  have hnext_c := nextOf_eq hc
  constructor <;> simp only [nextOf_update, preOf_update, Option.bind_some] <;> grind

theorem addHandle1_spec (h : Represents heap head nodes) (halloc : (malloc.alloc heap).isSome) :
    ∃ heap' n, addHandle1 heap malloc (some head) (some v) = .ok (keyTrue, heap') ∧
      Represents heap' head ((n, v) :: nodes) := by
  obtain ⟨n, node, heap₁, hrun, hnode, hrep, hn⟩ := malloc_spec h halloc
  obtain ⟨headNode, hheadNode⟩ := hrep.exists_head
  have hhn : head ≠ n := fun hhn => hn (by simp [hhn])
  have hhead₂ (x : Node H) := (Function.update_of_ne hhn (some x) heap₁).trans hheadNode
  cases hnext : headNode.next with
  | none =>
      refine ⟨Function.update (Function.update heap₁ n
        (some { handle := some v, next := none, pre := some head })) head
        (some { headNode with next := some n }), n, ?_, ?_⟩
      · simp only [addHandle1, hrun, load_eq hheadNode, hnext, store_eq hnode, store_eq (hhead₂ _), bind,
          Except.bind, pure, Except.pure]
      · rw [Function.update_comm hhn.symm]
        refine hrep.put (l := []) hn (putBehind_last hheadNode hnext hhn) ?_ ?_ fun a ha => ?_
        · exact exists_update (exists_update ⟨headNode, hheadNode⟩ _) _
        · simp [handleOf_update]
        · rw [handleOf_update, if_neg ha]
          exact handleOf_relink hheadNode _ _ a
  | some c =>
      have hc : c ∈ nodes.map Prod.fst :=
        (hrep.links.seg.next_mem List.mem_cons_self ((nextOf_eq hheadNode).trans hnext)).1
      have hcn : c ≠ n := fun hcn => hn (hcn ▸ List.mem_cons_of_mem head hc)
      have hch : c ≠ head := fun hch => (List.nodup_cons.mp hrep.links.nodup).1 (hch ▸ hc)
      obtain ⟨first, hfirst⟩ := hrep.exists_node (List.mem_cons_of_mem head hc)
      have hfirst₃ (x y : Node H) :
          Function.update (Function.update heap₁ n (some x)) head (some y) c = some first := by
        rw [Function.update_of_ne hch, Function.update_of_ne hcn, hfirst]
      refine ⟨Function.update (Function.update (Function.update heap₁ n
        (some { handle := some v, next := some c, pre := some head })) head
        (some { headNode with next := some n })) c (some { first with pre := some n }), n, ?_, ?_⟩
      · simp only [addHandle1, hrun, load_eq hheadNode, hnext, store_eq hnode, store_eq (hhead₂ _),
          store_eq (hfirst₃ _ _), bind, Except.bind, pure, Except.pure]
      · refine hrep.put (l := []) hn (putBehind_first hheadNode hnext hhn hcn hch hfirst) ?_ ?_
          fun a ha => ?_
        · exact exists_update (exists_update (exists_update ⟨headNode, hheadNode⟩ _) _) _
        · simp only [handleOf_update, if_neg hcn.symm, if_neg hhn.symm]
          rfl
        · rw [handleOf_relink (hfirst₃ _ _), handleOf_relink (hhead₂ _), handleOf_update, if_neg ha]

/-- A null pointer from `malloc` is written through. -/
theorem addHandle_fails (h : Represents heap head nodes) (hfuel : nodes.length < fuel)
    (halloc : malloc.alloc heap = none) :
    addHandle heap malloc fuel (some head) (some v) = .error .badAccess := by
  obtain ⟨headNode, hheadNode⟩ := h.exists_head
  have hlast := lastNode_spec h.links.seg h.holds hheadNode hfuel
  obtain ⟨last, hlastNode⟩ := h.exists_node List.getLastD_mem_cons
  simp only [addHandle, malloc_fails halloc, hlast, store_eq hlastNode, store_null, bind, Except.bind]

theorem addHandle1_fails (h : Represents heap head nodes) (halloc : malloc.alloc heap = none) :
    addHandle1 heap malloc (some head) (some v) = .error .badAccess := by
  obtain ⟨headNode, hheadNode⟩ := h.exists_head
  simp only [addHandle1, malloc_fails halloc, load_eq hheadNode, store_null, bind, Except.bind]
  split
  · rfl
  · rfl

/-! ## Deleting a node -/

/-- What `HandleManageDelHandle` leaves when the node is the last one. -/
theorem takenFrom_last (hp : heap p = some prev) (hb : heap b = some node) (hnext : node.next = none)
    (hpb : p ≠ b) :
    TakenFrom (nextOf heap) (preOf heap)
      (nextOf (Function.update (Function.update heap p (some { prev with next := none })) b none))
      (preOf (Function.update (Function.update heap p (some { prev with next := none })) b none))
      p b := by
  have hnext_b := nextOf_eq hb
  have hpre_p := preOf_eq hp
  constructor <;> simp only [nextOf_update, preOf_update, Option.bind_some] <;> grind

/-- What it leaves when the node `c` comes behind it. -/
theorem takenFrom_inner (hp : heap p = some prev) (hb : heap b = some node)
    (hnext : node.next = some c) (hc : heap c = some succ) (hpb : p ≠ b) (hcb : c ≠ b) (hcp : c ≠ p) :
    TakenFrom (nextOf heap) (preOf heap)
      (nextOf (Function.update (Function.update (Function.update heap p
        (some { prev with next := some c })) c (some { succ with pre := some p })) b none))
      (preOf (Function.update (Function.update (Function.update heap p
        (some { prev with next := some c })) c (some { succ with pre := some p })) b none)) p b := by
  have hnext_b := nextOf_eq hb
  have hpre_p := preOf_eq hp
  have hnext_c := nextOf_eq hc
  constructor <;> simp only [nextOf_update, preOf_update, Option.bind_some] <;> grind

/-- The node before the one taken out, and what is known of the addresses around it. -/
theorem around (h : Represents heap head (l ++ (b, v) :: r)) :
    ∃ node p prev, heap b = some node ∧ node.pre = some p ∧ heap p = some prev ∧ p ≠ b ∧ head ≠ b ∧
      p = (l.map Prod.fst).getLastD head ∧
      ∀ c, node.next = some c → (∃ succ, heap c = some succ) ∧ c ≠ b ∧ c ≠ p := by
  have hlinks := h.links
  rw [List.map_append, List.map_cons] at hlinks
  obtain ⟨hfront, hback, hrest⟩ := seg_append.mp hlinks.seg
  obtain ⟨node, hnode, -⟩ := exists_of_handleOf (h.holds (b, v) (by simp))
  have hmem : (l.map Prod.fst).getLastD head ∈ head :: l.map Prod.fst := List.getLastD_mem_cons
  generalize hp : (l.map Prod.fst).getLastD head = p at hback hmem
  have hnodup := hlinks.nodup
  simp only [List.nodup_cons, List.nodup_append, List.mem_append, List.mem_cons] at hnodup hmem
  obtain ⟨prev, hprev⟩ := h.exists_node (a := p) <| by
    rw [List.map_append, List.mem_cons, List.mem_append]
    exact hmem.imp id .inl
  refine ⟨node, p, prev, hnode, (preOf_eq hnode).symm.trans hback, hprev, ?_, ?_, rfl, fun c hc => ?_⟩
  · grind
  · grind
  · have hc : c ∈ r.map Prod.fst :=
      (hrest.next_mem List.mem_cons_self ((nextOf_eq hnode).trans hc)).1
    refine ⟨h.exists_node ?_, ?_, ?_⟩
    · rw [List.map_append, List.map_cons]
      exact List.mem_cons_of_mem head (List.mem_append_right _ (List.mem_cons_of_mem b hc))
    · grind
    · grind

theorem unlink_spec (h : Represents heap head (l ++ (b, v) :: r)) :
    ∃ heap', unlink heap b = .ok heap' ∧ Represents heap' head (l ++ r) := by
  obtain ⟨node, p, prev, hb, hpre, hp, hpb, hhead_b, hp_eq, hsucc⟩ := around h
  obtain ⟨headNode, hheadNode⟩ := h.exists_head
  have hhead' : ∃ headNode, heap head = some headNode := ⟨headNode, hheadNode⟩
  have hb₁ (x : Node H) := (Function.update_of_ne hpb.symm (some x) heap).trans hb
  cases hnext : node.next with
  | none =>
      refine ⟨Function.update (Function.update heap p (some { prev with next := none })) b none, ?_, ?_⟩
      · simp only [unlink, load_eq hb, hpre, hnext, store_eq hp, load_eq (hb₁ _), store_eq (hb₁ _), bind,
          Except.bind, pure, Except.pure, Heap.free, Function.update_idem]
      · refine h.take (hp_eq ▸ takenFrom_last hp hb hnext hpb) ?_ fun a ha => ?_
        · rw [Function.update_of_ne hhead_b]
          exact exists_update hhead' _
        · rw [handleOf_update, if_neg ha]
          exact handleOf_relink hp _ _ a
  | some c =>
      obtain ⟨⟨succ, hc⟩, hcb, hcp⟩ := hsucc c hnext
      have hc₁ (x : Node H) := (Function.update_of_ne hcp (some x) heap).trans hc
      have hb₂ (x y : Node H) :
          Function.update (Function.update heap p (some x)) c (some y) b = some node := by
        rw [Function.update_of_ne hcb.symm, hb₁]
      refine ⟨Function.update (Function.update (Function.update heap p
        (some { prev with next := some c })) c (some { succ with pre := some p })) b none, ?_, ?_⟩
      · simp only [unlink, load_eq hb, hpre, hnext, store_eq hp, load_eq (hb₁ _), store_eq (hc₁ _),
          store_eq (hb₂ _ _), bind, Except.bind, pure, Except.pure, Heap.free, Function.update_idem]
      · refine h.take (hp_eq ▸ takenFrom_inner hp hb hnext hc hpb hcb hcp) ?_ fun a ha => ?_
        · rw [Function.update_of_ne hhead_b]
          exact exists_update (exists_update hhead' _) _
        · rw [handleOf_update, if_neg ha, handleOf_relink (hc₁ _)]
          exact handleOf_relink hp _ _ a

/-- The search for a handle finds its first node. -/
theorem findHandle_spec [DecidableEq H] (h : Represents heap head nodes) (hfuel : nodes.length < fuel)
    (v : H) : findNode heap (fun h => .ok (some v = h)) fuel (nextOf heap head) =
      .ok ((nodes.find? fun p => v = p.2).map Prod.fst) :=
  findNode_spec (fun h => v = h) (fun h => by simp only [Option.some.injEq]) h.links.seg h.holds hfuel

theorem delHandle_spec [DecidableEq H] (h : Represents heap head nodes) (hfuel : nodes.length < fuel)
    (hv : v ∈ nodes.map Prod.snd) :
    ∃ heap' nodes', delHandle heap fuel (some head) (some v) = .ok (keyTrue, heap') ∧
      Represents heap' head nodes' ∧ nodes'.map Prod.snd = (nodes.map Prod.snd).erase v := by
  obtain ⟨headNode, hheadNode⟩ := h.exists_head
  have hfind := findHandle_spec h hfuel v
  obtain ⟨⟨b, v'⟩, hfirst⟩ : ∃ p, nodes.find? (fun p => v = p.2) = some p := by
    rw [← Option.isSome_iff_exists, List.find?_isSome]
    obtain ⟨p, hp, hpv⟩ := List.mem_map.mp hv
    exact ⟨p, hp, by simp [hpv]⟩
  obtain ⟨hvv, l, r, rfl, hl⟩ := List.find?_eq_some_iff_append.mp hfirst
  obtain rfl : v = v' := by simpa using hvv
  obtain ⟨heap', hunlink, hrep⟩ := unlink_spec h
  refine ⟨heap', l ++ r, ?_, hrep, ?_⟩
  · rw [hfirst] at hfind
    simp only [delHandle, load_eq hheadNode, ← nextOf_eq hheadNode, hfind, Option.map_some, hunlink, bind,
      Except.bind, pure, Except.pure]
  · have hnot : v ∉ l.map Prod.snd := by
      intro hmem
      obtain ⟨p, hp, hpv⟩ := List.mem_map.mp hmem
      exact absurd hpv.symm (by simpa using hl p hp)
    rw [List.map_append, List.map_append, List.map_cons, List.erase_append_right _ hnot,
      List.erase_cons_head]

theorem delHandle_absent [DecidableEq H] (h : Represents heap head nodes) (hfuel : nodes.length < fuel)
    (hv : v ∉ nodes.map Prod.snd) :
    delHandle heap fuel (some head) (some v) = .ok (keyFalse, heap) := by
  obtain ⟨headNode, hheadNode⟩ := h.exists_head
  have hfind := findHandle_spec h hfuel v
  have hnone : nodes.find? (fun p => v = p.2) = none := by
    rw [List.find?_eq_none]
    exact fun p hp => by simpa using fun hvp : v = p.2 => hv (hvp ▸ List.mem_map_of_mem hp)
  rw [hnone] at hfind
  simp only [delHandle, load_eq hheadNode, ← nextOf_eq hheadNode, hfind, Option.map_none, bind, Except.bind,
    pure, Except.pure]

/-! ## Reading the list -/

theorem getNextHandle_spec (h : Represents heap head nodes) :
    getNextHandle heap (some head) = .ok (nodes.map Prod.snd).head? := by
  obtain ⟨headNode, hheadNode⟩ := h.exists_head
  have hnext := nextOf_eq hheadNode
  have hseg := h.links.seg
  cases nodes with
  | nil =>
      have hnone : headNode.next = none := hnext.symm.trans hseg
      simp only [getNextHandle, load_eq hheadNode, hnone, bind, Except.bind]
      rfl
  | cons p nodes =>
      obtain ⟨node, hfirst, hnode, hhandle, -⟩ := seg_cons hseg h.holds
      have hsome : headNode.next = some p.1 := hnext.symm.trans hfirst
      simp only [getNextHandle, load_eq hheadNode, hsome, load_eq hnode, hhandle, bind, Except.bind]
      rfl

theorem getUsrCount_spec (h : Represents heap head nodes) (hfuel : nodes.length < fuel) :
    getUsrCount heap fuel (some head) = .ok ((nodes.length : ℤ).bmod (2 ^ 32)) := by
  obtain ⟨headNode, hheadNode⟩ := h.exists_head
  have hcount := countNodes_spec 0 h.links.seg h.holds hheadNode hfuel
  rwa [Int.zero_bmod, Int.zero_add] at hcount

theorem postLoop_spec (h : Represents heap head nodes) (hfuel : nodes.length < fuel)
    (f : Option H → σ → σ) (env : σ) :
    postLoop heap fuel env (some head) (some f) =
      .ok (keyTrue, (nodes.map Prod.snd).foldl (fun env h => f (some h) env) env) := by
  obtain ⟨headNode, hheadNode⟩ := h.exists_head
  simp only [postLoop, load_eq hheadNode, ← nextOf_eq hheadNode,
    postNodes_spec h.links.seg h.holds hfuel, bind, Except.bind, pure, Except.pure]

theorem getHandle_spec (h : Represents heap head nodes) (hfuel : nodes.length < fuel) (p : H → Bool) :
    getHandle heap fuel p (some head) = .ok ((nodes.map Prod.snd).find? p) := by
  obtain ⟨headNode, hheadNode⟩ := h.exists_head
  have hfind {test : Option H → Except Fault Bool} (htest : ∀ v, test (some v) = .ok (p v)) :=
    findNode_spec p htest h.links.seg h.holds hfuel
  rw [List.find?_map]
  simp only [getHandle, load_eq hheadNode, ← nextOf_eq hheadNode, bind, Except.bind]
  rw [hfind fun v => rfl]
  show _ = Except.ok ((nodes.find? fun q => p q.2).map Prod.snd)
  cases hfirst : nodes.find? fun q => p q.2 with
  | none => rfl
  | some q =>
      obtain ⟨node, hnode, hhandle⟩ := exists_of_handleOf (h.holds q (List.mem_of_find?_eq_some hfirst))
      simp only [Option.map_some, load_eq hnode, hhandle]
      rfl

end SmartPlat.HandleManage
