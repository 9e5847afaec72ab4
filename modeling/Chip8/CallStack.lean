/-!
# The call stack

Sixteen cells for return addresses and the number of those in use. The machine never calls with a
full stack and never returns with an empty one; the operations on their own are total, and their
number of cells in use can leave the range. A place below zero then counts from the end, a read
takes the nearest cell that there is, and a write to a place without a cell is dropped.

* `CallStack.push`, `CallStack.pop`: the operations.
* `CallStack.addresses`: the addresses in use, oldest first.
-/

namespace Chip8

/-- Return addresses, and how many of the cells are in use. -/
structure CallStack where
  cells : Vector UInt16 16
  depth : Int
  deriving DecidableEq

namespace CallStack

/-- The largest number of calls that can be open at once. -/
def capacity : Int := 16

/-- No calls are open. -/
def empty : CallStack := ⟨Vector.replicate 16 0, 0⟩

/-- The cell that a place means, with places below zero counted from the end. -/
def cellOf (place : Int) : Int :=
  if place < 0 then place + capacity else place

/-- The content of the cell nearest to a place. -/
def read (s : CallStack) (place : Int) : UInt16 :=
  s.cells[min (cellOf place).toNat 15]

/-- The cells after a write; it is dropped when the place has no cell. -/
def write (s : CallStack) (place : Int) (value : UInt16) : Vector UInt16 16 :=
  if 0 ≤ cellOf place then s.cells.setIfInBounds (cellOf place).toNat value else s.cells

/-- Remember the low twelve bits of an address. -/
def push (s : CallStack) (address : UInt16) : CallStack :=
  ⟨s.write s.depth (address &&& 0x0FFF), s.depth + 1⟩

/-- Forget the latest address, and clear its cell; the address is the second part. -/
def pop (s : CallStack) : CallStack × UInt16 :=
  (⟨s.write (s.depth - 1) 0, s.depth - 1⟩, s.read (s.depth - 1))

/-- The addresses in use, oldest first. -/
def addresses (s : CallStack) : List UInt16 :=
  s.cells.toList.take s.depth.toNat

/-- The stack that holds the given addresses, of which at most sixteen count. -/
def ofList (addresses : List UInt16) : CallStack :=
  ⟨Vector.ofFn fun i => addresses.getD i 0, min addresses.length 16⟩

end CallStack

end Chip8
