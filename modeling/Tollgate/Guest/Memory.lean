import Tollgate.Count
import Tollgate.Settings

namespace Tollgate.Guest

-- The bytes of a region of `2 ^ level` addresses. A fresh or filled region of any size is one leaf.
inductive Cells
  | all (byte : UInt8)
  | split (low high : Cells)
deriving Repr, DecidableEq, Inhabited

namespace Cells

def get : Nat → Cells → Nat → UInt8
  | _, .all b, _ => b
  | 0, .split low _, _ => get 0 low 0
  | level + 1, .split low high, address =>
    if address.testBit level then get level high address else get level low address

def set : Nat → Cells → Nat → UInt8 → Cells
  | 0, _, _, b => .all b
  | level + 1, .all old, address, b =>
    if address.testBit level then .split (.all old) (set level (.all old) address b)
    else .split (set level (.all old) address b) (.all old)
  | level + 1, .split low high, address, b =>
    if address.testBit level then .split low (set level high address b)
    else .split (set level low address b) high

-- Gives `byte` to every address from `first` up to `last`, where the region starts at `base`.
def fill (byte : UInt8) (first last : Nat) : Nat → Cells → Nat → Cells
  | level, cells, base =>
    if last ≤ base ∨ base + pow2 level ≤ first then cells
    else if first ≤ base ∧ base + pow2 level ≤ last then .all byte
    else match level, cells with
      | 0, _ => .all byte
      | level + 1, .all old =>
        .split (fill byte first last level (.all old) base)
          (fill byte first last level (.all old) (base + pow2 level))
      | level + 1, .split low high =>
        .split (fill byte first last level low base)
          (fill byte first last level high (base + pow2 level))

end Cells

-- Pages that addresses of 32 bits can reach.
def Memory.maxPages : Nat := 65536

structure Memory where
  pages : Nat
  limit : Nat
  cells : Cells := .all 0
  fits : pages ≤ limit
  reachable : limit ≤ Memory.maxPages
deriving Repr, DecidableEq

namespace Memory

def level : Nat := 32

instance : Inhabited Memory := ⟨⟨0, 0, .all 0, Nat.le_refl 0, Nat.zero_le _⟩⟩

def size (m : Memory) : Nat := m.pages * pageSize

def get (m : Memory) (address : Nat) : UInt8 := m.cells.get level address

def set (m : Memory) (address : Nat) (b : UInt8) : Memory :=
  { m with cells := m.cells.set level address b }

-- The bytes from an address on, whether or not they lie inside the memory.
def slice (m : Memory) (address size : Nat) : List UInt8 :=
  (List.range size).map fun i => m.get (address + i)

def read? (m : Memory) (address size : Nat) : Option (List UInt8) :=
  if address + size ≤ m.size then some (m.slice address size) else none

def splice (m : Memory) (address : Nat) : List UInt8 → Memory
  | [] => m
  | b :: rest => splice (m.set address b) (address + 1) rest

def write? (m : Memory) (address : Nat) (bytes : List UInt8) : Option Memory :=
  if address + bytes.length ≤ m.size then some (m.splice address bytes) else none

def fill? (m : Memory) (address : Nat) (byte : UInt8) (size : Nat) : Option Memory :=
  if address + size ≤ m.size then
    some { m with cells := m.cells.fill byte address (address + size) level 0 }
  else none

def grow? (m : Memory) (more : Nat) : Option Memory :=
  if h : m.pages + more ≤ m.limit then some { m with pages := m.pages + more, fits := h }
  else none

def ofBytes : List UInt8 → Nat
  | [] => 0
  | b :: rest => b.toNat + 256 * ofBytes rest

def toBytes (value : Nat) : Nat → List UInt8
  | 0 => []
  | n + 1 => UInt8.ofNat (value % 256) :: toBytes (value / 256) n

def load? (m : Memory) (address bytes : Nat) : Option Nat := (m.read? address bytes).map ofBytes

def store? (m : Memory) (address bytes value : Nat) : Option Memory :=
  m.write? address (toBytes value bytes)

end Memory

end Tollgate.Guest
