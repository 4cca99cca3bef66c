import SmartPlat.HandleManage.Basic
import SmartPlat.Lib.LinkedList
import Mathlib.Data.Int.ModEq

set_option autoImplicit false

/-! # The nodes of a handle list

`Represents` relates the memory to the nodes behind the head and their handles. One lemma for every loop
over the nodes says what it finds; one for putting a node in and one for taking a node out say that the
memory represents the longer and the shorter list afterwards. -/

namespace SmartPlat.HandleManage

open Lib

variable {H σ : Type} {heap heap' : Heap H} {a b n head : Addr} {v : H} {node : Node H}
  {nodes l r : List (Addr × H)} {fuel : ℕ}

/-! ## Fields of the nodes -/

def nextOf (heap : Heap H) (a : Addr) : Option Addr := (heap a).bind Node.next

def preOf (heap : Heap H) (a : Addr) : Option Addr := (heap a).bind Node.pre

def handleOf (heap : Heap H) (a : Addr) : Option H := (heap a).bind Node.handle

theorem nextOf_update (o : Option (Node H)) :
    nextOf (Function.update heap a o) b = if b = a then o.bind Node.next else nextOf heap b := by
  simp only [nextOf, Function.update_apply]
  split <;> rfl

theorem preOf_update (o : Option (Node H)) :
    preOf (Function.update heap a o) b = if b = a then o.bind Node.pre else preOf heap b := by
  simp only [preOf, Function.update_apply]
  split <;> rfl

theorem handleOf_update (o : Option (Node H)) :
    handleOf (Function.update heap a o) b = if b = a then o.bind Node.handle else handleOf heap b := by
  simp only [handleOf, Function.update_apply]
  split <;> rfl

theorem nextOf_eq (h : heap a = some node) : nextOf heap a = node.next := by
  rw [nextOf, h]
  rfl

theorem preOf_eq (h : heap a = some node) : preOf heap a = node.pre := by
  rw [preOf, h]
  rfl

theorem handleOf_eq (h : heap a = some node) : handleOf heap a = node.handle := by
  rw [handleOf, h]
  rfl

theorem exists_of_handleOf (h : handleOf heap a = some v) :
    ∃ node, heap a = some node ∧ node.handle = some v :=
  Option.bind_eq_some_iff.mp h

theorem load_eq (h : heap a = some node) : heap.load (some a) = .ok node := by
  simp only [Heap.load, h]

theorem store_eq (h : heap a = some node) (f : Node H → Node H) :
    heap.store (some a) f = .ok (Function.update heap a (some (f node))) := by
  simp only [Heap.store, h]

@[simp]
theorem load_null : heap.load none = .error .badAccess := rfl

@[simp]
theorem store_null (f : Node H → Node H) : heap.store none f = .error .badAccess := rfl

/-- An assignment to a link leaves the handles alone. -/
theorem handleOf_relink (h : heap b = some node) (next pre : Option Addr) (a : Addr) :
    handleOf (Function.update heap b (some { node with next, pre })) a = handleOf heap a := by
  rw [handleOf_update]
  split
  · next hab => rw [hab, handleOf_eq h, Option.bind_some]
  · rfl

/-- A node that exists still does after an assignment. -/
theorem exists_update (h : ∃ node, heap a = some node) (x : Node H) :
    ∃ node, Function.update heap b (some x) a = some node := by
  rw [Function.update_apply]
  split
  · exact ⟨x, rfl⟩
  · exact h

/-! ## Representation -/

/-- The nodes behind `head`, in order, with the handles in them. -/
structure Represents (heap : Heap H) (head : Addr) (nodes : List (Addr × H)) : Prop where
  exists_head : ∃ node, heap head = some node
  links : IsList (nextOf heap) (preOf heap) head (nodes.map Prod.fst)
  holds : ∀ p ∈ nodes, handleOf heap p.1 = some p.2

theorem Represents.exists_node (h : Represents heap head nodes)
    (ha : a ∈ head :: nodes.map Prod.fst) : ∃ node, heap a = some node := by
  rcases List.mem_cons.mp ha with rfl | ha
  · exact h.exists_head
  · obtain ⟨p, hp, rfl⟩ := List.mem_map.mp ha
    obtain ⟨node, hnode, -⟩ := exists_of_handleOf (h.holds p hp)
    exact ⟨node, hnode⟩

/-- A node that `malloc` returns is none of the list. -/
theorem Represents.not_mem (h : Represents heap head nodes) (hn : heap n = none) :
    n ∉ head :: nodes.map Prod.fst := by
  intro hmem
  obtain ⟨node, hnode⟩ := h.exists_node hmem
  exact absurd (hn.symm.trans hnode) (by simp)

/-- Nodes outside the list do not matter. -/
theorem Represents.update (h : Represents heap head nodes) (hn : n ∉ head :: nodes.map Prod.fst)
    (o : Option (Node H)) : Represents (Function.update heap n o) head nodes where
  exists_head := by
    obtain ⟨node, hnode⟩ := h.exists_head
    exact ⟨node, (Function.update_of_ne (fun hhead => hn (by simp [hhead])) _ _).trans hnode⟩
  links := by
    have hne : ∀ c ∈ head :: nodes.map Prod.fst, c ≠ n := fun c hc hcn => hn (hcn ▸ hc)
    refine h.links.congr (fun c hc => ?_) (fun c hc => ?_)
    · rw [nextOf_update, if_neg (hne c hc)]
    · rw [preOf_update, if_neg (hne c hc)]
  holds p hp := by
    have hpn : p.1 ≠ n := fun hpn => hn (hpn ▸ List.mem_cons_of_mem head (List.mem_map_of_mem hp))
    rw [handleOf_update, if_neg hpn, h.holds p hp]

theorem Represents.put (h : Represents heap head (l ++ r)) (hn : n ∉ head :: (l ++ r).map Prod.fst)
    (hput : PutBehind (nextOf heap) (preOf heap) (nextOf heap') (preOf heap')
      ((l.map Prod.fst).getLastD head) n)
    (hhead : ∃ node, heap' head = some node) (hnew : handleOf heap' n = some v)
    (hkeep : ∀ a, a ≠ n → handleOf heap' a = handleOf heap a) :
    Represents heap' head (l ++ (n, v) :: r) where
  exists_head := hhead
  links := by
    rw [List.map_append, List.map_cons]
    rw [List.map_append] at hn
    exact IsList.put (List.map_append ▸ h.links) hn hput
  holds p hp := by
    rcases List.mem_append.mp hp with hp | hp
    · have hmem := List.mem_append_left r hp
      rw [hkeep p.1 fun hpn => hn (hpn ▸ List.mem_cons_of_mem head (List.mem_map_of_mem hmem)),
        h.holds p hmem]
    · rcases List.mem_cons.mp hp with rfl | hp
      · exact hnew
      · have hmem := List.mem_append_right l hp
        rw [hkeep p.1 fun hpn => hn (hpn ▸ List.mem_cons_of_mem head (List.mem_map_of_mem hmem)),
          h.holds p hmem]

theorem Represents.take (h : Represents heap head (l ++ (b, v) :: r))
    (htake : TakenFrom (nextOf heap) (preOf heap) (nextOf heap') (preOf heap')
      ((l.map Prod.fst).getLastD head) b)
    (hhead : ∃ node, heap' head = some node)
    (hkeep : ∀ a, a ≠ b → handleOf heap' a = handleOf heap a) : Represents heap' head (l ++ r) where
  exists_head := hhead
  links := by
    have hlinks := h.links
    rw [List.map_append, List.map_cons] at hlinks
    rw [List.map_append]
    exact hlinks.take htake
  holds p hp := by
    have hmem : p ∈ l ++ (b, v) :: r :=
      ((List.Sublist.refl l).append (List.sublist_cons_self (b, v) r)).subset hp
    -- no other node of the list is at the address of the one taken out
    have hpb : p.1 ≠ b := by
      have hnodup := h.links.nodup
      have hp' : p.1 ∈ (l ++ r).map Prod.fst := List.mem_map_of_mem hp
      simp only [List.map_append, List.map_cons, List.nodup_cons, List.nodup_append, List.mem_append]
        at hnodup hp'
      grind
    rw [hkeep p.1 hpb, h.holds p hmem]

/-! ## What representation says of the links -/

/-- The links of these nodes are inverse to each other, and none leads back. -/
structure WellLinked (heap : Heap H) (cells : List Addr) : Prop where
  next_pre : ∀ a ∈ cells, ∀ b, nextOf heap a = some b → b ∈ cells ∧ preOf heap b = some a
  pre_next : ∀ a ∈ cells, ∀ b, preOf heap a = some b → b ∈ cells ∧ nextOf heap b = some a
  acyclic : ∀ a ∈ cells, ¬ Relation.TransGen (fun a b => nextOf heap a = some b) a a

theorem Represents.wellLinked (h : Represents heap head nodes) :
    WellLinked heap (head :: nodes.map Prod.fst) where
  next_pre _ ha b hb := ((h.links.inverse ha).1 b hb).imp_left (List.mem_cons_of_mem head)
  pre_next _ ha b hb := (h.links.inverse ha).2 b hb
  acyclic _ ha := h.links.acyclic ha

/-! ## The loops -/

/-- A node behind another one, and the list behind it. -/
theorem seg_cons {p : Addr × H}
    (hseg : Seg (nextOf heap) (preOf heap) a ((p :: nodes).map Prod.fst) none)
    (hholds : ∀ q ∈ p :: nodes, handleOf heap q.1 = some q.2) :
    ∃ node, nextOf heap a = some p.1 ∧ heap p.1 = some node ∧ node.handle = some p.2 ∧
      node.next = nextOf heap p.1 ∧ Seg (nextOf heap) (preOf heap) p.1 (nodes.map Prod.fst) none ∧
      ∀ q ∈ nodes, handleOf heap q.1 = some q.2 := by
  obtain ⟨hnext, -, hrest⟩ := hseg
  obtain ⟨node, hnode, hhandle⟩ := exists_of_handleOf (hholds p List.mem_cons_self)
  exact ⟨node, hnext, hnode, hhandle, (nextOf_eq hnode).symm, hrest,
    fun q hq => hholds q (List.mem_cons_of_mem p hq)⟩

theorem findNode_spec {test : Option H → Except Fault Bool} (t : H → Bool)
    (htest : ∀ v, test (some v) = .ok (t v))
    (hseg : Seg (nextOf heap) (preOf heap) a (nodes.map Prod.fst) none)
    (hholds : ∀ p ∈ nodes, handleOf heap p.1 = some p.2) (hfuel : nodes.length < fuel) :
    findNode heap test fuel (nextOf heap a) = .ok ((nodes.find? (fun p => t p.2)).map Prod.fst) := by
  induction nodes generalizing a fuel with
  | nil =>
      obtain ⟨fuel, rfl⟩ := Nat.exists_eq_add_one.mpr hfuel
      rw [show nextOf heap a = none from hseg]
      rfl
  | cons p nodes ih =>
      obtain ⟨node, hnext, hnode, hhandle, hnode_next, hrest, hholds'⟩ := seg_cons hseg hholds
      obtain ⟨fuel, rfl⟩ := Nat.exists_eq_add_one.mpr (Nat.zero_lt_of_lt hfuel)
      have ih := ih hrest hholds' (Nat.lt_of_succ_lt_succ hfuel)
      simp only [findNode, hnext, load_eq hnode, hhandle, htest, hnode_next, ih, bind, Except.bind, pure,
        Except.pure, List.find?_cons]
      cases t p.2 <;> rfl

theorem postNodes_spec {f : Option H → σ → σ} {env : σ}
    (hseg : Seg (nextOf heap) (preOf heap) a (nodes.map Prod.fst) none)
    (hholds : ∀ p ∈ nodes, handleOf heap p.1 = some p.2) (hfuel : nodes.length < fuel) :
    postNodes heap f fuel (nextOf heap a) env =
      .ok ((nodes.map Prod.snd).foldl (fun env h => f (some h) env) env) := by
  induction nodes generalizing a fuel env with
  | nil =>
      obtain ⟨fuel, rfl⟩ := Nat.exists_eq_add_one.mpr hfuel
      rw [show nextOf heap a = none from hseg]
      rfl
  | cons p nodes ih =>
      obtain ⟨node, hnext, hnode, hhandle, hnode_next, hrest, hholds'⟩ := seg_cons hseg hholds
      obtain ⟨fuel, rfl⟩ := Nat.exists_eq_add_one.mpr (Nat.zero_lt_of_lt hfuel)
      simp only [postNodes, hnext, load_eq hnode, hhandle, hnode_next, bind, Except.bind]
      exact ih hrest hholds' (Nat.lt_of_succ_lt_succ hfuel)

theorem lastNode_spec (hseg : Seg (nextOf heap) (preOf heap) a (nodes.map Prod.fst) none)
    (hholds : ∀ p ∈ nodes, handleOf heap p.1 = some p.2) (hnode : heap a = some node)
    (hfuel : nodes.length < fuel) :
    lastNode heap fuel a = .ok ((nodes.map Prod.fst).getLastD a) := by
  induction nodes generalizing a fuel node with
  | nil =>
      obtain ⟨fuel, rfl⟩ := Nat.exists_eq_add_one.mpr hfuel
      have hnone : node.next = none := (nextOf_eq hnode).symm.trans hseg
      simp only [lastNode, load_eq hnode, hnone, bind, Except.bind]
      rfl
  | cons p nodes ih =>
      obtain ⟨node', hnext, hnode', -, -, hrest, hholds'⟩ := seg_cons hseg hholds
      obtain ⟨fuel, rfl⟩ := Nat.exists_eq_add_one.mpr (Nat.zero_lt_of_lt hfuel)
      have hsome : node.next = some p.1 := (nextOf_eq hnode).symm.trans hnext
      simp only [lastNode, load_eq hnode, hsome, bind, Except.bind, List.map_cons, List.getLastD_cons]
      exact ih hrest hholds' hnode' (Nat.lt_of_succ_lt_succ hfuel)

theorem countNodes_spec (count : ℤ) (hseg : Seg (nextOf heap) (preOf heap) a (nodes.map Prod.fst) none)
    (hholds : ∀ p ∈ nodes, handleOf heap p.1 = some p.2) (hnode : heap a = some node)
    (hfuel : nodes.length < fuel) :
    countNodes heap fuel a (count.bmod (2 ^ 32)) = .ok ((count + nodes.length).bmod (2 ^ 32)) := by
  induction nodes generalizing a fuel node count with
  | nil =>
      obtain ⟨fuel, rfl⟩ := Nat.exists_eq_add_one.mpr hfuel
      have hnone : node.next = none := (nextOf_eq hnode).symm.trans hseg
      simp only [countNodes, load_eq hnode, hnone, bind, Except.bind]
      rw [List.length_nil, Nat.cast_zero, Int.add_zero]
  | cons p nodes ih =>
      obtain ⟨node', hnext, hnode', -, -, hrest, hholds'⟩ := seg_cons hseg hholds
      obtain ⟨fuel, rfl⟩ := Nat.exists_eq_add_one.mpr (Nat.zero_lt_of_lt hfuel)
      have hsome : node.next = some p.1 := (nextOf_eq hnode).symm.trans hnext
      have hlen : count + ((p :: nodes).length : ℤ) = count + 1 + nodes.length := by
        rw [List.length_cons]
        omega
      simp only [countNodes, load_eq hnode, hsome, bind, Except.bind, Int.bmod_add_bmod, hlen]
      exact ih (count + 1) hrest hholds' hnode' (Nat.lt_of_succ_lt_succ hfuel)

end SmartPlat.HandleManage
