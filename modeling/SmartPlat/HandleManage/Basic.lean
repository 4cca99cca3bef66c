import SmartPlat.CString
import Mathlib.Logic.Function.Basic

set_option autoImplicit false

/-! # The handle list (`handlemanage.c`, `handlemanage.h`)

A doubly linked list of `malloc`ed nodes behind a head that the caller owns. Every function holds the
mutex of the head while it works, so calls of several threads come one after the other; the mutex
itself is left out. Pointers are addresses, `none` being `NULL`. -/

namespace SmartPlat.HandleManage

abbrev Addr := ℕ

variable {H σ : Type}

/-- `HandleManage_T`. -/
structure Node (H : Type) where
  handle : Option H
  next : Option Addr
  pre : Option Addr
  deriving DecidableEq, Repr

/-! ## Memory -/

/-- The nodes that exist, the head included. -/
abbrev Heap (H : Type) := Addr → Option (Node H)

/-- `*p` -/
def Heap.load (heap : Heap H) : Option Addr → Except Fault (Node H)
  | none => .error .badAccess
  | some a =>
      match heap a with
      | none => .error .badAccess
      | some node => .ok node

/-- An assignment to fields of `*p`. -/
def Heap.store (heap : Heap H) (p : Option Addr) (f : Node H → Node H) : Except Fault (Heap H) :=
  match p with
  | none => .error .badAccess
  | some a =>
      match heap a with
      | none => .error .badAccess
      | some node => .ok (Function.update heap a (some (f node)))

def Heap.free (heap : Heap H) (a : Addr) : Heap H := Function.update heap a none

/-- What one call of `malloc` does: it returns `NULL`, or a node that did not exist, with whatever is in
    it. -/
structure Malloc (H : Type) where
  alloc : Heap H → Option (Addr × Node H)
  fresh : ∀ {heap a node}, alloc heap = some (a, node) → heap a = none

def Malloc.run (malloc : Malloc H) (heap : Heap H) : Option Addr × Heap H :=
  match malloc.alloc heap with
  | none => (none, heap)
  | some (a, node) => (some a, Function.update heap a (some node))

/-! ## The loops over the list -/

/-- `for(cur = head->next;cur != NULL;cur = cur->next)` up to the first node that passes a test. -/
def findNode (heap : Heap H) (test : Option H → Except Fault Bool) :
    ℕ → Option Addr → Except Fault (Option Addr)
  | 0, _ => .error .timeout
  | _ + 1, none => .ok none
  | fuel + 1, some cur => do
      let node ← heap.load (some cur)
      if ← test node.handle then return some cur
      else findNode heap test fuel node.next

/-- The same loop with `fun(cur->handle,argc,arg)` at every node. -/
def postNodes (heap : Heap H) (f : Option H → σ → σ) : ℕ → Option Addr → σ → Except Fault σ
  | 0, _, _ => .error .timeout
  | _ + 1, none, env => .ok env
  | fuel + 1, some cur, env => do
      let node ← heap.load (some cur)
      postNodes heap f fuel node.next (f node.handle env)

/-- `for(cur = head;cur->next!= NULL;cur = cur->next);` -/
def lastNode (heap : Heap H) : ℕ → Addr → Except Fault Addr
  | 0, _ => .error .timeout
  | fuel + 1, cur => do
      let node ← heap.load (some cur)
      match node.next with
      | none => .ok cur
      | some next => lastNode heap fuel next

/-- The same loop with `count++`, an `int`. -/
def countNodes (heap : Heap H) : ℕ → Addr → ℤ → Except Fault ℤ
  | 0, _, _ => .error .timeout
  | fuel + 1, cur, count => do
      let node ← heap.load (some cur)
      match node.next with
      | none => .ok count
      | some next => countNodes heap fuel next ((count + 1).bmod (2 ^ 32))

/-! ## The functions -/

/-- `HandleManageInitHead` -/
def initHead (heap : Heap H) : Option Addr → Except Fault (ℤ × Heap H)
  | none => .ok (keyFalse, heap)
  | some head => do
      let heap ← heap.store (some head) fun _ => { handle := none, next := none, pre := none }
      return (keyTrue, heap)

/-- The body of the loop of `HandleManageDelHandle` for the node that is deleted. -/
def unlink (heap : Heap H) (cur : Addr) : Except Fault (Heap H) := do
  let node ← heap.load (some cur)
  let heap ← heap.store node.pre fun pre => { pre with next := node.next }
  let node ← heap.load (some cur)
  let heap ←
    match node.next with
    | none => pure heap
    | some next => heap.store (some next) fun succ => { succ with pre := node.pre }
  let heap ← heap.store (some cur) fun node => { node with next := none, pre := none }
  return heap.free cur

/-- `HandleManageDelHandle` -/
def delHandle [DecidableEq H] (heap : Heap H) (fuel : ℕ) :
    Option Addr → Option H → Except Fault (ℤ × Heap H)
  | some head, some handle => do
      let node ← heap.load (some head)
      match ← findNode heap (fun h => .ok (some handle = h)) fuel node.next with
      | none => return (keyFalse, heap)
      | some cur => return (keyTrue, ← unlink heap cur)
  | _, _ => .ok (keyFalse, heap)

/-- `HandleManageAddHandle`; what `malloc` returned is not looked at. -/
def addHandle (heap : Heap H) (malloc : Malloc H) (fuel : ℕ) :
    Option Addr → Option H → Except Fault (ℤ × Heap H)
  | some head, some handle => do
      let (newNode, heap) := malloc.run heap
      let cur ← lastNode heap fuel head
      let heap ← heap.store (some cur) fun node => { node with next := newNode }
      let heap ← heap.store newNode fun _ => { pre := some cur, next := none, handle := some handle }
      return (keyTrue, heap)
  | _, _ => .ok (keyFalse, heap)

/-- `HandleManageAddHandle1` -/
def addHandle1 (heap : Heap H) (malloc : Malloc H) :
    Option Addr → Option H → Except Fault (ℤ × Heap H)
  | some head, some handle => do
      let (newNode, heap) := malloc.run heap
      let node ← heap.load (some head)
      match node.next with
      | some next =>
          let heap ← heap.store newNode fun _ =>
            { pre := some head, next := some next, handle := some handle }
          let heap ← heap.store (some head) fun node => { node with next := newNode }
          let heap ← heap.store (some next) fun node => { node with pre := newNode }
          return (keyTrue, heap)
      | none =>
          let heap ← heap.store newNode fun _ =>
            { pre := some head, next := none, handle := some handle }
          let heap ← heap.store (some head) fun node => { node with next := newNode }
          return (keyTrue, heap)
  | _, _ => .ok (keyFalse, heap)

/-- `HandleManageGetNextHandle` -/
def getNextHandle (heap : Heap H) : Option Addr → Except Fault (Option H)
  | none => .ok none
  | some head => do
      let node ← heap.load (some head)
      match node.next with
      | none => return none
      | some cur => return (← heap.load (some cur)).handle

/-- `HandleManageGetUsrCount` -/
def getUsrCount (heap : Heap H) (fuel : ℕ) : Option Addr → Except Fault ℤ
  | none => .ok keyFalse
  | some head => countNodes heap fuel head 0

/-- `HandleManagePostLoop`, the function with its `argc` and `arg` working on an environment. -/
def postLoop (heap : Heap H) (fuel : ℕ) (env : σ) :
    Option Addr → Option (Option H → σ → σ) → Except Fault (ℤ × σ)
  | some head, some f => do
      let node ← heap.load (some head)
      return (keyTrue, ← postNodes heap f fuel node.next env)
  | _, _ => .ok (keyFalse, env)

/-- The two lookup macros, up to the comparison of the member. -/
def getHandle (heap : Heap H) (fuel : ℕ) (p : H → Bool) : Option Addr → Except Fault (Option H)
  | none => .ok none
  | some head => do
      let node ← heap.load (some head)
      let test : Option H → Except Fault Bool
        | none => .error .badAccess
        | some h => .ok (p h)
      match ← findNode heap test fuel node.next with
      | none => return none
      | some cur => return (← heap.load (some cur)).handle

/-- `HandleManageGetHandleByInt` -/
def getHandleByInt (heap : Heap H) (fuel : ℕ) (member : H → ℤ) (value : ℤ) (head : Option Addr) :
    Except Fault (Option H) :=
  getHandle heap fuel (fun h => member h = value) head

/-- `HandleManageGetHandleByStr` -/
def getHandleByStr (heap : Heap H) (fuel : ℕ) (member : H → CString) (value : CString)
    (head : Option Addr) : Except Fault (Option H) :=
  getHandle heap fuel (fun h => member h = value) head

/-! ## Sequences of calls -/

/-- The functions and macros with their arguments except the list. A member of the handles is what it is
    at the time of the call. -/
inductive Op (H σ : Type) where
  | initHead
  | addHandle (handle : Option H) (malloc : Malloc H)
  | addHandle1 (handle : Option H) (malloc : Malloc H)
  | delHandle (handle : Option H)
  | getNextHandle
  | getUsrCount
  | postLoop (f : Option (Option H → σ → σ))
  | getHandleByInt (member : H → ℤ) (value : ℤ)
  | getHandleByStr (member : H → CString) (value : CString)

/-- What is called, and whether it is called with `NULL` in place of the list. -/
structure Call (H σ : Type) where
  onNull : Bool
  op : Op H σ

def Call.target (c : Call H σ) (head : Addr) : Option Addr := if c.onNull then none else some head

/-- What a call returns. -/
inductive Result (H : Type) where
  | rc (rc : ℤ)
  | handle (handle : Option H)
  deriving DecidableEq, Repr

/-- The memory, and what the functions handed to `HandleManagePostLoop` work on. -/
structure World (H σ : Type) where
  heap : Heap H
  env : σ

def World.withHeap (w : World H σ) (r : ℤ × Heap H) : Result H × World H σ :=
  (.rc r.1, { w with heap := r.2 })

def call [DecidableEq H] (fuel : ℕ) (head : Option Addr) (w : World H σ) :
    Op H σ → Except Fault (Result H × World H σ)
  | .initHead => (initHead w.heap head).map w.withHeap
  | .addHandle handle malloc => (addHandle w.heap malloc fuel head handle).map w.withHeap
  | .addHandle1 handle malloc => (addHandle1 w.heap malloc head handle).map w.withHeap
  | .delHandle handle => (delHandle w.heap fuel head handle).map w.withHeap
  | .getNextHandle => (getNextHandle w.heap head).map fun h => (.handle h, w)
  | .getUsrCount => (getUsrCount w.heap fuel head).map fun count => (.rc count, w)
  | .postLoop f => (postLoop w.heap fuel w.env head f).map fun r => (.rc r.1, { w with env := r.2 })
  | .getHandleByInt member value =>
      (getHandleByInt w.heap fuel member value head).map fun h => (.handle h, w)
  | .getHandleByStr member value =>
      (getHandleByStr w.heap fuel member value head).map fun h => (.handle h, w)

/-- Calls on one list, in order: what they return, and what they leave. -/
def calls [DecidableEq H] (fuel : ℕ) (head : Addr) :
    World H σ → List (Call H σ) → Except Fault (List (Result H) × World H σ)
  | w, [] => .ok ([], w)
  | w, c :: cs =>
      (call fuel (c.target head) w c.op).bind fun r =>
        (calls fuel head r.2 cs).map fun rs => (r.1 :: rs.1, rs.2)

/-! ## What the list is for -/

/-- A finite sequence of handles, and the environment of the functions posted to them. -/
structure Sequence (H σ : Type) where
  handles : List H
  env : σ

/-- What a call does to a sequence. A call on `NULL`, or with `NULL` for a handle or a function, is
    refused. -/
def Sequence.step [DecidableEq H] (s : Sequence H σ) (c : Call H σ) : Result H × Sequence H σ :=
  match c.onNull, c.op with
  | true, .getNextHandle | true, .getHandleByInt _ _ | true, .getHandleByStr _ _ => (.handle none, s)
  | true, _ => (.rc keyFalse, s)
  | false, .initHead => (.rc keyTrue, { s with handles := [] })
  | false, .addHandle none _ | false, .addHandle1 none _ => (.rc keyFalse, s)
  | false, .addHandle (some h) _ => (.rc keyTrue, { s with handles := s.handles ++ [h] })
  | false, .addHandle1 (some h) _ => (.rc keyTrue, { s with handles := h :: s.handles })
  | false, .delHandle none => (.rc keyFalse, s)
  | false, .delHandle (some h) =>
      if h ∈ s.handles then (.rc keyTrue, { s with handles := s.handles.erase h })
      else (.rc keyFalse, s)
  | false, .getNextHandle => (.handle s.handles.head?, s)
  | false, .getUsrCount => (.rc s.handles.length, s)
  | false, .postLoop none => (.rc keyFalse, s)
  | false, .postLoop (some f) =>
      (.rc keyTrue, { s with env := s.handles.foldl (fun env h => f (some h) env) s.env })
  | false, .getHandleByInt member value => (.handle (s.handles.find? (member · = value)), s)
  | false, .getHandleByStr member value => (.handle (s.handles.find? (member · = value)), s)

def Sequence.steps [DecidableEq H] : Sequence H σ → List (Call H σ) → List (Result H) × Sequence H σ
  | s, [] => ([], s)
  | s, c :: cs => ((s.step c).1 :: ((s.step c).2.steps cs).1, ((s.step c).2.steps cs).2)

end SmartPlat.HandleManage
