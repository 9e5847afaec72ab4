/-!
# Random bytes

The random bytes come from the block function Threefry, which turns a key and a pair of counters into a
pair of words. A key is split into a fresh key and a key for one draw, so that the bytes depend only on
the first key and on how many were drawn.

* `Random.threefry`: the block function on two words of 32 bits, in 20 rounds.
* `RandomKey.ofSeed?`: the first key.
* `RandomKey.draw`: a byte, and the key for the next one.
-/

namespace Chip8

/-- Two words of 32 bits: a key, a pair of counters or a block. -/
structure RandomKey where
  first : UInt32
  second : UInt32
  deriving DecidableEq, Repr

namespace Random

/-- The word turned left by a number of bits below 32. -/
def rotateLeft (word bits : UInt32) : UInt32 :=
  (word <<< bits) ||| (word >>> (32 - bits))

/-- One round: add, turn, and mix. -/
def mix (block : RandomKey) (bits : UInt32) : RandomKey :=
  let sum := block.first + block.second
  ⟨sum, rotateLeft block.second bits ^^^ sum⟩

/-- The turns of the four rounds between two injections of the key. -/
def turns (even : Bool) : List UInt32 :=
  if even then [13, 15, 26, 6] else [17, 29, 16, 24]

/-- Four rounds, then two words of the key and the number of the injection are added. -/
def quarter (number : UInt32) (even : Bool) (a b : UInt32) (block : RandomKey) : RandomKey :=
  let mixed := (turns even).foldl mix block
  ⟨mixed.first + a, mixed.second + b + number⟩

/-- The block function: five times four rounds, each followed by an injection of the key. -/
def threefry (key counter : RandomKey) : RandomKey :=
  let parity := key.first ^^^ key.second ^^^ 0x1BD11BDA
  quarter 5 true parity key.first <|
  quarter 4 false key.second parity <|
  quarter 3 true key.first key.second <|
  quarter 2 false parity key.first <|
  quarter 1 true key.second parity <|
  ⟨counter.first + key.first, counter.second + key.second⟩

end Random

namespace RandomKey

/-- The key of a seed, which has to be an integer of 64 bits with a sign; its low 32 bits count. -/
def ofSeed? (seed : Int) : Option RandomKey :=
  if -0x8000000000000000 ≤ seed ∧ seed < 0x8000000000000000 then
    some ⟨0, UInt32.ofNat (seed % 0x100000000).toNat⟩
  else none

/-- The key for all draws after the next one. -/
def next (key : RandomKey) : RandomKey :=
  Random.threefry key ⟨0, 0⟩

/-- The byte that the key gives: the two halves of a block that was reached through two more keys. -/
def byte (key : RandomKey) : UInt8 :=
  let drawKey := Random.threefry (Random.threefry key ⟨0, 1⟩) ⟨0, 1⟩
  let block := Random.threefry drawKey ⟨0, 0⟩
  (block.first ^^^ block.second).toUInt8

end RandomKey

end Chip8
