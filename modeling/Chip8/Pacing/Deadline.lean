/-!
# Pacing by deadlines

A paced loop acts, waits, and acts again. The deadline of the next action lies one period after the
one before, so a slow action shortens the wait and does not delay all that follow. When an action ends
more than a period after the deadline of the next one, this deadline moves to the end of the action, so
that nothing is caught up in a burst. The numbers are those of any type with the operations that are
used.

* `nextDeadline`, `waitFor`: the deadline after an action, and the wait until then.
* `rounds`: the loop against a clock that only actions and waits move.
-/

namespace Chip8.Pacing

variable {α : Type} [Add α] [Sub α] [LT α] [DecidableLT α] [OfNat α 0]

/-- The deadline after an action that ended at `now`. -/
def nextDeadline (period deadline now : α) : α :=
  let due := deadline + period
  if due < now - period then now else due

/-- The time until a deadline, zero if it has passed. -/
def waitFor (deadline now : α) : α :=
  if 0 < deadline - now then deadline - now else 0

/-- An action of the loop and the wait after it. -/
structure Round (α : Type) where
  /-- The time when the action begins. -/
  calledAt : α
  /-- The deadline that the action was waiting for. -/
  deadline : α
  wait : α

/-- The rounds of a loop, from a time and the deadline then in force. Each action takes the first time
of its pair, and the wait after it takes the second time longer than asked for. -/
def roundsFrom (period : α) (now deadline : α) : List (α × α) → List (Round α)
  | [] => []
  | (duration, late) :: rest =>
    let ended := now + duration
    let due := nextDeadline period deadline ended
    let wait := waitFor due ended
    ⟨now, deadline, wait⟩ :: roundsFrom period (ended + (wait + late)) due rest

/-- The rounds of a loop that begins at a time, which is its first deadline. -/
def rounds (period start : α) (actions : List (α × α)) : List (Round α) :=
  roundsFrom period start start actions

end Chip8.Pacing
