import Chip8.Proofs.Processor.Effect
import Chip8.Proofs.Processor.Run
import Mathlib.Logic.Function.Iterate

/-!
# The stream of random bytes

A key gives a stream of bytes, one for each draw. In a run the stream moves on with the draws that are
completed, and with nothing else, so the bytes do not depend on what is done between them.

* `RandomKey.after`, `RandomKey.nth`: the key after a number of draws, and the byte it gives.
* `Draw`, `Processor.draws`: a completed draw, and all of them in a run.
* `Draw.Takes`: a draw at a position of the stream; `draws_of_run` says that the draws of a run are at
  one position after the other.
-/

namespace Chip8

namespace RandomKey

/-- The key after a number of draws. -/
def after (key : RandomKey) (n : Nat) : RandomKey := next^[n] key

/-- The byte of a draw, given how many draws were before it. -/
def nth (key : RandomKey) (n : Nat) : UInt8 := (key.after n).byte

theorem after_succ (key : RandomKey) (n : Nat) : key.after (n + 1) = (key.after n).next :=
  Function.iterate_succ_apply' next n key

/-- The first draw with a key of zeros. -/
example : (⟨0, 0⟩ : RandomKey).after 1 = ⟨0x6B200159, 0x99BA4EFE⟩ ∧ (⟨0, 0⟩ : RandomKey).nth 0 = 14 := by
  decide +kernel

end RandomKey

/-- Whether the step drew a random byte. -/
def Executed.random (step : Executed) : Bool := step.instruction matches .random ..

/-- A completed draw: the processor before and after it, the register and the mask. -/
structure Draw where
  before : Processor
  after : Processor
  register : Register
  mask : UInt8

/-- The draw takes the byte at a position of the stream of a key. It stores the bits of the mask, changes no
other register, and moves the stream on by one. -/
structure Draw.Takes (key : RandomKey) (position : Nat) (d : Draw) : Prop where
  step : d.before.step = .ok (d.after, .random d.register d.mask)
  before : d.before.random = key.after position
  after : d.after.random = key.after (position + 1)
  registers : d.after.registers = d.before.registers.set d.register (key.nth position &&& d.mask)

/-- The draws take the bytes from a position on, one after the other. -/
def TakesFrom (key : RandomKey) (position : Nat) (draws : List Draw) : Prop :=
  ∀ j (d : Draw), draws[j]? = some d → d.Takes key (position + j)

section Positions

variable {key : RandomKey} {position : Nat}

/-- What the draw leaves in its register. -/
theorem Draw.Takes.register_eq {d : Draw} (h : d.Takes key position) :
    d.after.register d.register = key.nth position &&& d.mask := by
  rw [Processor.register, h.registers]
  exact Vector.getElem_set_self d.register.isLt

/-- No bit outside the mask is set. -/
theorem Draw.Takes.masked {d : Draw} (h : d.Takes key position) :
    d.after.register d.register &&& ~~~d.mask = 0 := by
  rw [h.register_eq, UInt8.and_assoc, UInt8.and_not_self, UInt8.and_zero]

theorem takesFrom_nil : TakesFrom key position [] := by
  intro j d h
  cases h

theorem takesFrom_singleton {d : Draw} (h : d.Takes key position) : TakesFrom key position [d] := by
  intro j e he
  cases j with
  | zero =>
    cases he
    exact h
  | succ j => cases he

theorem TakesFrom.append {draws more : List Draw} (h : TakesFrom key position draws)
    (hmore : TakesFrom key (position + draws.length) more) : TakesFrom key position (draws ++ more) := by
  intro j d hd
  rcases Nat.lt_or_ge j draws.length with hlt | hge
  · rw [List.getElem?_append_left hlt] at hd
    exact h j d hd
  · rw [List.getElem?_append_right hge] at hd
    have hposition : position + draws.length + (j - draws.length) = position + j := by omega
    exact hposition ▸ hmore _ d hd

end Positions

namespace Processor

variable {p q : Processor} {i : Instruction} {key : RandomKey} {position : Nat}

/-- The draw that an action completes, if it does. -/
def draw (p : Processor) : Action → List Draw
  | .step =>
    match p.step with
    | .ok (q, .random x mask) => [⟨p, q, x, mask⟩]
    | _ => []
  | _ => []

/-- The draws of a run, the first one first. -/
def draws (p : Processor) (actions : List Action) : List Draw := p.along draw actions

theorem draws_cons (p : Processor) (action : Action) (rest : List Action) :
    p.draws (action :: rest) = p.draw action ++ (p.act action).draws rest := rfl

theorem takes_of_step {x : Register} {mask : UInt8} (h : p.step = .ok (q, .random x mask))
    (hkey : p.random = key.after position) : Draw.Takes key position ⟨p, q, x, mask⟩ := by
  obtain ⟨-, -, rfl⟩ := step_eq_ok_iff.mp h
  refine ⟨h, hkey, ?_, ?_⟩
  · rw [RandomKey.after_succ, ← hkey]
    rfl
  · rw [RandomKey.nth, ← hkey]
    rfl

theorem step_random (h : p.step = .ok (q, i)) (hother : Executed.random ⟨p.counter, i⟩ = false) :
    q.random = p.random := by
  obtain ⟨-, -, rfl⟩ := step_eq_ok_iff.mp h
  rw [apply_random]
  cases i with
  | random x mask => cases hother
  | _ => rfl

/-- An action completes a draw, or it leaves the stream where it is. -/
theorem draw_cases (p : Processor) (action : Action) :
    (∃ x mask, p.step = .ok (p.act action, .random x mask) ∧
      p.draw action = [⟨p, p.act action, x, mask⟩] ∧
      (p.executed action).countP Executed.random = 1) ∨
    ((p.act action).random = p.random ∧ p.draw action = [] ∧
      (p.executed action).countP Executed.random = 0) := by
  cases action with
  | step =>
    cases hstep : p.step with
    | error f =>
      refine Or.inr ⟨?_, ?_, ?_⟩
      all_goals simp only [act, draw, executed, hstep, List.countP_nil]
    | ok made =>
      obtain ⟨q, i⟩ := made
      have hact : p.act .step = q := by simp only [act, hstep]
      rw [hact]
      cases i with
      | random x mask =>
        refine Or.inl ⟨x, mask, rfl, ?_, ?_⟩
        · simp only [draw, hstep]
        · simp only [executed, hstep]
          rfl
      | _ =>
        refine Or.inr ⟨step_random hstep rfl, ?_, ?_⟩
        · simp only [draw, hstep]
        · simp only [executed, hstep]
          rfl
  | _ => exact Or.inr ⟨rfl, rfl, rfl⟩

/-- The draws of a run take the bytes one after the other, and the key after the run is the one after
all of them. -/
theorem draws_of_run (actions : List Action) (h : p.random = key.after position) :
    (p.run actions).random = key.after (position + (p.draws actions).length) ∧
      TakesFrom key position (p.draws actions) := by
  induction actions generalizing p position with
  | nil => exact ⟨h, takesFrom_nil⟩
  | cons action rest ih =>
    rw [run, draws_cons, List.length_append, ← Nat.add_assoc]
    rcases p.draw_cases action with ⟨x, mask, hstep, hone, -⟩ | ⟨hsame, hnone, -⟩
    · have htakes := takes_of_step hstep h
      obtain ⟨hrandom, hrest⟩ := ih htakes.after
      rw [hone]
      exact ⟨hrandom, (takesFrom_singleton htakes).append hrest⟩
    · rw [hnone]
      exact ih (hsame.trans h)

/-- There is one draw for each step of a run that drew a byte. -/
theorem length_draws (p : Processor) (actions : List Action) :
    (p.draws actions).length = (p.trace actions).countP Executed.random := by
  refine p.length_along (fun p action => ?_) actions
  rcases p.draw_cases action with ⟨x, mask, -, hone, hcount⟩ | ⟨-, hnone, hcount⟩
  · rw [hone, hcount]
    rfl
  · rw [hnone, hcount]
    rfl

end Processor

end Chip8
