/-!
# The keypad

Sixteen keys, each held down or up, and the letters of a keyboard that stand for them. The keypad and
the block of the keyboard look alike:

    1 2 3 C        1 2 3 4
    4 5 6 D        q w e r
    7 8 9 E        a s d f
    A 0 B F        z x c v

* `Key.ofInt?`, `Key.ofTyped?`: the key with a number, and the key that a typed text stands for.
* `Keypad.holds`, `Keypad.put`, `Keypad.pressed`: which keys are held down.
-/

namespace Chip8

/-- One of the sixteen keys. -/
abbrev Key := Fin 16

/-- Which keys are held down. -/
abbrev Keypad := Vector Bool 16

namespace Key

/-- The key with a number, if there is one. -/
def ofInt? (number : Int) : Option Key :=
  if h : 0 ≤ number ∧ number < 16 then some ⟨number.toNat, by omega⟩ else none

/-- The characters of the keyboard that stand for the keys 0 to F. -/
def characters : Vector Char 16 :=
  #v['x', '1', '2', '3', 'q', 'w', 'e', 'a', 's', 'd', 'z', 'c', '4', 'r', 'f', 'v']

/-- The character of the keyboard that stands for a key. -/
def character (k : Key) : Char := characters[k]

/-- The key that a typed text stands for: one of the sixteen characters, in small letters or capitals.
No other letter of any script has one of them as its small letter. -/
def ofTyped? (typed : String) : Option Key :=
  (List.finRange 16).find? fun k => typed.toList.map Char.toLower = [k.character]

/-- The name of a key, which is never a bare number. -/
def name (k : Key) : String :=
  (if k.val < 10 then "K" else "") ++ String.ofList [(Nat.digitChar k).toUpper]

end Key

namespace Keypad

/-- No key is held down. -/
def released : Keypad := Vector.replicate 16 false

/-- Whether a key is held down. -/
def holds (pad : Keypad) (key : Key) : Bool := pad[key]

/-- The keypad with a key down or up. -/
def put (pad : Keypad) (key : Key) (down : Bool) : Keypad := pad.set key down

/-- The keys that are held down, in ascending order. -/
def pressed (pad : Keypad) : List Key :=
  (List.finRange 16).filter pad.holds

end Keypad

end Chip8
