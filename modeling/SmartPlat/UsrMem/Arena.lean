import SmartPlat.Common
import Mathlib.Data.Finset.Insert
import Mathlib.Data.Finset.Erase
import Mathlib.Logic.Function.Basic

set_option autoImplicit false

/-! # Memory arenas: `ExtLibs/UsrMem/usrmem.c`, `ExtLibs/List/list.c`

Every block of an arena has a header, and the headers are in a ring with that of the arena. The `_list` of a
header is told from the header by an offset, which `node_to_item` takes away again; both have the address of the
header here. What `malloc` returns is an argument. -/

namespace SmartPlat.UsrMem

abbrev Addr := ℕ

/-- The members of the `MemHandle_T`s, by address; which of them exist, and which other blocks; and what `free` was
    given, in order. -/
structure Memory where
  memAddr : Addr → Option Addr
  next : Addr → Option Addr
  prev : Addr → Option Addr
  handles : Finset Addr
  blocks : Finset Addr
  freed : List Addr

namespace Memory

variable (m : Memory)

def setMemAddr (a : Addr) (v : Option Addr) : Memory := { m with memAddr := Function.update m.memAddr a v }

def setNext (a : Addr) (v : Option Addr) : Memory := { m with next := Function.update m.next a v }

def setPrev (a : Addr) (v : Option Addr) : Memory := { m with prev := Function.update m.prev a v }

/-- `p->`: the address, if there is a `MemHandle_T`. -/
def handleAt (p : Option Addr) : Except Fault Addr :=
  match p with
  | none => .error .badAccess
  | some a => if a ∈ m.handles then .ok a else .error .badAccess

def readMemAddr (p : Option Addr) : Except Fault (Option Addr) := (m.handleAt p).map m.memAddr

def readNext (p : Option Addr) : Except Fault (Option Addr) := (m.handleAt p).map m.next

def readPrev (p : Option Addr) : Except Fault (Option Addr) := (m.handleAt p).map m.prev

def writeMemAddr (p v : Option Addr) : Except Fault Memory := (m.handleAt p).map fun a => m.setMemAddr a v

def writeNext (p v : Option Addr) : Except Fault Memory := (m.handleAt p).map fun a => m.setNext a v

def writePrev (p v : Option Addr) : Except Fault Memory := (m.handleAt p).map fun a => m.setPrev a v

/-- `free(p)` -/
def free (p : Option Addr) : Except Fault Memory :=
  match p with
  | none => .ok m
  | some a =>
      if a ∈ m.handles then .ok { m with handles := m.handles.erase a, freed := m.freed ++ [a] }
      else if a ∈ m.blocks then .ok { m with blocks := m.blocks.erase a, freed := m.freed ++ [a] }
      else .error .badAccess

end Memory

/-! ## `list.c` -/

def listInit (m : Memory) (node : Option Addr) : Except Fault Memory := do
  let m ← m.writeNext node node
  m.writePrev node node

def listAddTail (m : Memory) (head item : Option Addr) : Except Fault Memory := do
  let m ← m.writeNext item head
  let m ← m.writePrev item (← m.readPrev head)
  let m ← m.writeNext (← m.readPrev head) item
  m.writePrev head item

def listRemove (m : Memory) (item : Option Addr) : Except Fault Memory := do
  let m ← m.writePrev (← m.readNext item) (← m.readPrev item)
  m.writeNext (← m.readPrev item) (← m.readNext item)

/-! ## `usrmem.c` -/

/-- `memset` of `size` bytes at what `malloc(size)` has returned: a block that exists from then on, or nothing if
    there are no bytes. -/
def memset (m : Memory) (p : Option Addr) (len : Int32) : Except Fault Memory :=
  match p with
  | none => if len = 0 then .ok m else .error .badAccess
  | some a => .ok { m with blocks := insert a m.blocks }

/-- `CreateMemHandle`; what `malloc` returned is not looked at. -/
def createMemHandle (m : Memory) (handle : Option Addr) : Except Fault Memory :=
  match handle with
  | none => .error .badAccess
  | some a =>
      let m := { m with handles := insert a m.handles }
      listInit (((m.setMemAddr a none).setNext a none).setPrev a none) (some a)

def usrMalloc (m : Memory) (handle : Option Addr) (len : Int32) (newHandle p : Option Addr) :
    Except Fault (Memory × Option Addr) := do
  let m ← createMemHandle m newHandle
  let m ← memset m p len
  let m ← m.writeMemAddr newHandle p
  let m ← listAddTail m handle newHandle
  return (m, p)

/-- The loop of `usr_free`. -/
def freeNodes (handle : Option Addr) : ℕ → Memory → Option Addr → Except Fault Memory
  | 0, _, _ => .error .timeout
  | fuel + 1, m, node =>
      if node = handle then .ok m
      else do
        let tmpHandle := node
        let m ← m.free (← m.readMemAddr tmpHandle)
        let m ← listRemove m node
        let node ← m.readNext node
        let m ← m.free tmpHandle
        freeNodes handle fuel m node

def usrFree (fuel : ℕ) (m : Memory) (handle : Option Addr) : Except Fault Memory := do
  let m ← freeNodes handle fuel m (← m.readNext handle)
  m.free handle

/-! ## Runs -/

/-- A call of `usr_malloc` on an arena, with what its two calls of `malloc` return. -/
structure Call where
  len : Int32
  newHandle : Option Addr
  p : Option Addr

def usrMallocs (handle : Option Addr) : List Call → Memory → Except Fault Memory
  | [], m => .ok m
  | c :: calls, m => do
      let (m, _) ← usrMalloc m handle c.len c.newHandle c.p
      usrMallocs handle calls m

end SmartPlat.UsrMem
