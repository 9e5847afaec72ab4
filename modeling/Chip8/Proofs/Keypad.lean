import Chip8.Keypad
import Mathlib.Tactic.SplitIfs

/-!
# Keys and the keypad

* `Key.ofInt?_eq_some_iff`, `Key.ofInt?_eq_none_iff`: which numbers name a key.
* `Keypad.ext_holds`: a keypad is what its keys are.
* `Keypad.holds_put`, `Keypad.put_comm`: a change of one key leaves the others alone.
-/

namespace Chip8

namespace Key

variable {number : Int} {key : Key}

theorem ofInt?_eq_some_iff : ofInt? number = some key ↔ (key : Int) = number := by
  have hkey := key.isLt
  unfold ofInt?
  split_ifs with h
  · rw [Option.some.injEq, Fin.ext_iff]
    show number.toNat = key.val ↔ _
    omega
  · constructor
    · nofun
    · intro heq
      omega

theorem ofInt?_eq_none_iff : ofInt? number = none ↔ ¬ (0 ≤ number ∧ number ≤ 15) := by
  unfold ofInt?
  split_ifs with h
  · constructor
    · nofun
    · intro hnot
      omega
  · constructor
    · intro _ hbounds
      omega
    · exact fun _ => rfl

end Key

namespace Keypad

theorem ext_holds {pad pad' : Keypad} (h : ∀ key, pad.holds key = pad'.holds key) : pad = pad' :=
  Vector.ext fun i hi => h ⟨i, hi⟩

theorem holds_released (key : Key) : released.holds key = false :=
  Vector.getElem_replicate key.isLt

theorem holds_put (pad : Keypad) (key other : Key) (down : Bool) :
    (pad.put key down).holds other = if key = other then down else pad.holds other := by
  show (pad.set key down)[other.val] = _
  rw [Vector.getElem_set]
  simp only [Fin.ext_iff]
  rfl

theorem put_comm (pad : Keypad) {key other : Key} (down down' : Bool) (h : key ≠ other) :
    (pad.put key down).put other down' = (pad.put other down').put key down :=
  Vector.set_comm down down' (fun heq => h (Fin.ext heq))

end Keypad

end Chip8
