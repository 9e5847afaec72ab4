import Chip8.Proofs.Machine.Halt
import Chip8.Proofs.Processor.Run

/-!
# The work of a machine

What the processor of a machine goes through is a run, whoever makes the steps and the ticks: the host or
the loops. Only a reset breaks the run off and begins another one.

* `Exchange.actions`, `Exchange.executed`: the part of the run that belongs to an exchange, and the steps
  completed in it.
* `run_of_answers`: the processor after an exchange without a reset.
* `sinceReset`, `workOf`: the exchanges since the latest reset, and what the processor went through in them.
* `worked_of_history`: all of this work is one run, from the start of the latest program on.
-/

namespace Chip8

instance Request.decidableClears : DecidablePred Request.clears
  | .reset rom => inferInstanceAs (Decidable (rom.length ≤ 3584))
  | .step | .tick | .press _ | .release _ | .start | .stop => inferInstanceAs (Decidable False)

/-- Whether the loops begin when the machine is started. -/
def Machine.begins (m : Machine) : Bool := !(m.halted || m.running || m.settings.zeroPeriod)

/-- What happens when the loops begin, before their steps. -/
def Machine.firstActions (m : Machine) : List Action := if m.ticker.actsAtStart then [.tick] else []

namespace Exchange

/-- The steps that are counted in an exchange. -/
def steps (x : Exchange) : List Action :=
  List.replicate (x.turn.state.count - x.before.count) .step

/-- What the processor goes through in an exchange, unless it is reset. When the loops begin the timers tick
at once, if the ticker is not still at work. -/
def actions (x : Exchange) : List Action :=
  match x.request with
  | .step => x.steps
  | .tick => [.tick]
  | .press number => ((Key.ofInt? number).map Action.press).toList
  | .release number => ((Key.ofInt? number).map Action.release).toList
  | .start => if x.before.begins then x.before.firstActions ++ x.steps else []
  | .reset _ | .stop => []

/-- The steps completed in an exchange. -/
def executed (x : Exchange) : List Executed := x.before.processor.trace x.actions

end Exchange

/-- The exchanges after the latest reset to a program that fits. -/
def sinceReset (history : List Exchange) : List Exchange :=
  history.foldl (fun since x => if x.request.clears then [] else since ++ [x]) []

theorem sinceReset_concat (past : List Exchange) (x : Exchange) :
    sinceReset (past ++ [x]) = if x.request.clears then [] else sinceReset past ++ [x] := by
  rw [sinceReset, List.foldl_append]
  rfl

theorem Processor.run_one {p q : Processor} {i : Instruction} (h : p.step = .ok (q, i)) :
    p.run [.step] = q ∧ p.trace [.step] = [⟨p.counter, i⟩] :=
  ⟨p.run_step h [], p.trace_step h []⟩

/-- The steps of a loop are the completed steps of a run. -/
theorem LoopRun.run_eq {lost? : Instruction → Option HostFailure} {slow : Bool} {p q : Processor} {n : Nat}
    {ending : LoopEnd} (h : LoopRun lost? slow p n q ending) :
    p.run (List.replicate n .step) = q ∧ (p.trace (List.replicate n .step)).length = n := by
  induction h with
  | fault hstep => exact ⟨rfl, rfl⟩
  | lost hstep | wait _ hstep =>
    obtain ⟨hrun, htrace⟩ := Processor.run_one hstep
    rw [List.replicate_one]
    exact ⟨hrun, congrArg List.length htrace⟩
  | next hslow hstep hshown hrest ih =>
    obtain ⟨hrun, hlength⟩ := ih
    rw [List.replicate_succ, Processor.run_step hstep, Processor.trace_step hstep]
    exact ⟨hrun, congrArg (· + 1) hlength⟩

namespace Machine

variable {m last : Machine} {request : Request} {turn : Turn Machine Answer}

theorem steps_of_refused (h : turn.state.count = m.count) :
    Exchange.steps ⟨m, request, turn⟩ = [] := by
  rw [Exchange.steps, h, Nat.sub_self]
  rfl

theorem steps_of_done (h : turn.state.count = m.count + 1) :
    Exchange.steps ⟨m, request, turn⟩ = [.step] := by
  rw [Exchange.steps, h, Nat.add_sub_cancel_left]
  rfl

/-- The first actions complete no step, and lead to the processor with which the loop begins. -/
theorem run_firstActions (m : Machine) :
    m.processor.run m.firstActions = m.begun.processor ∧ m.processor.trace m.firstActions = [] := by
  rw [processor_begun, firstActions]
  split_ifs <;> exact ⟨rfl, rfl⟩

/-- The actions of a start that begins the loops. -/
theorem actions_of_start {n : Nat} {q : Processor} {ending : LoopEnd} (hfault : m.fault = none)
    (hrest : m.running = false) (hrates : m.settings.zeroPeriod = false)
    (h : turn.state = m.left n q ending) :
    Exchange.actions ⟨m, .start, turn⟩ = m.firstActions ++ List.replicate n .step := by
  have hbegins : m.begins = true := by simp [begins, halted, hfault, hrest, hrates]
  have hsteps : Exchange.steps ⟨m, .start, turn⟩ = List.replicate n .step := by
    rw [Exchange.steps, h, left_count, Nat.add_sub_cancel_left]
  simp only [Exchange.actions, if_pos hbegins, hsteps]

/-- Unless it is reset, the processor goes through the actions of an exchange, and the completed steps among
them are counted. -/
theorem run_of_answers (h : m.Answers request turn) (hkeeps : ¬ request.clears) :
    turn.state.processor = m.processor.run (Exchange.actions ⟨m, request, turn⟩) ∧
      turn.state.count = m.count + (Exchange.executed ⟨m, request, turn⟩).length := by
  have hexit := exit_of_answers h
  obtain ⟨last, events, answer⟩ := turn
  dsimp only at hexit ⊢
  unfold Exchange.executed
  cases hexit with
  | @done q i hfault hstep | @unseen q i failure hfault hstep =>
    obtain ⟨hrun, htrace⟩ := Processor.run_one hstep
    have hactions : ∀ result, Exchange.actions ⟨m, .step, m.advanced q, events, result⟩ = [.step] :=
      fun result => steps_of_done rfl
    rw [hactions, hrun, htrace]
    exact ⟨rfl, rfl⟩
  | @faulted f hfault =>
    have hactions : ∀ result, Exchange.actions ⟨m, .step, m.broken f, events, result⟩ = [] :=
      fun result => steps_of_refused rfl
    rw [hactions]
    exact ⟨rfl, rfl⟩
  | halted hfault =>
    have hactions : ∀ result, Exchange.actions ⟨m, .step, m, events, result⟩ = [] :=
      fun result => steps_of_refused rfl
    rw [hactions]
    exact ⟨rfl, rfl⟩
  | press hkey | pressNoKey hkey | release hkey | releaseNoKey hkey =>
    simp only [Exchange.actions, hkey]
    exact ⟨rfl, rfl⟩
  | reset hboot | resetUnseen hboot => exact absurd (Processor.fits_of_boot? hboot) hkeeps
  | startHalted hfault | startAgain hfault hfault' | zeroPeriod hfault hfault' hzero =>
    have hidle : ¬ m.begins = true := by simp_all [begins, halted]
    simp only [Exchange.actions, if_neg hidle]
    exact ⟨rfl, rfl⟩
  | @start n q ending hfault hrest hrates hloop =>
    obtain ⟨hrun, hlength⟩ := hloop.run_eq
    obtain ⟨hfirst, hnone⟩ := m.run_firstActions
    rw [actions_of_start hfault hrest hrates rfl, left_processor, left_count, Processor.run_append,
      Processor.trace_append, hfirst, hnone]
    exact ⟨hrun.symm, congrArg (m.count + ·) hlength.symm⟩
  | _ => exact ⟨rfl, rfl⟩

/-- A reset to a program that fits boots the processor with the key of the machine. -/
theorem boot_of_answers (h : m.Answers request turn) (hclears : request.clears) :
    ∃ rom, request = .reset rom ∧
      Processor.boot? m.settings.random rom = some turn.state.processor ∧ turn.state.count = 0 := by
  have hexit := exit_of_answers h
  obtain ⟨last, events, answer⟩ := turn
  dsimp only at hexit ⊢
  cases hexit with
  | reset hboot | resetUnseen hboot => exact ⟨_, rfl, hboot, rfl⟩
  | romTooLarge hboot => exact absurd hclears (Nat.not_le.mpr (Processor.boot?_eq_none_iff.mp hboot))
  | _ => exact hclears.elim

/-! ## Work since the latest reset -/

/-- What the processor has gone through since the latest reset. -/
def workOf (history : List Exchange) : List Action := (sinceReset history).flatMap Exchange.actions

/-- The steps completed since the latest reset. -/
def stepsOf (history : List Exchange) : List Executed := (sinceReset history).flatMap Exchange.executed

/-- What is gathered, exchange by exchange, along the work since the latest reset. -/
def gatheredOf {α : Type} (gather : Processor → Action → List α) (history : List Exchange) : List α :=
  (sinceReset history).flatMap fun x => x.before.processor.along gather x.actions

/-- The work since the latest reset is one run, from the start of a program to the processor as it is. -/
structure Worked (random : RandomKey) (history : List Exchange) (start : Processor) (m : Machine) : Prop where
  boot : ∃ rom, Processor.boot? random rom = some start
  run : m.processor = start.run (workOf history)
  count : m.count = (start.trace (workOf history)).length
  gathered {α : Type} (gather : Processor → Action → List α) :
    gatheredOf gather history = start.along gather (workOf history)

variable {random : RandomKey} {past history : List Exchange} {start : Processor}

theorem Worked.stepsOf_eq (h : Worked random history start m) :
    stepsOf history = start.trace (workOf history) := by
  rw [Processor.trace_eq_along, ← h.gathered, stepsOf, gatheredOf]
  exact congrArg (List.flatMap · (sinceReset history)) (funext fun x => Processor.trace_eq_along _ _)

theorem Worked.of_clears (hrandom : m.settings.random = random) (h : m.Answers request turn)
    (hclears : request.clears) :
    Worked random (past ++ [⟨m, request, turn⟩]) turn.state.processor turn.state := by
  have hsince : sinceReset (past ++ [⟨m, request, turn⟩]) = [] := by
    rw [sinceReset_concat, if_pos hclears]
  have hwork : workOf (past ++ [⟨m, request, turn⟩]) = [] := by
    rw [workOf, hsince, List.flatMap_nil]
  obtain ⟨rom, -, hboot, hcount⟩ := boot_of_answers h hclears
  rw [hrandom] at hboot
  refine ⟨⟨rom, hboot⟩, ?_, ?_, fun gather => ?_⟩
  · rw [hwork]
    rfl
  · rw [hwork, hcount]
    rfl
  · rw [hwork, gatheredOf, hsince]
    rfl

theorem Worked.concat (hworked : Worked random past start m) (h : m.Answers request turn)
    (hkeeps : ¬ request.clears) :
    Worked random (past ++ [⟨m, request, turn⟩]) start turn.state := by
  have hsince : sinceReset (past ++ [⟨m, request, turn⟩]) = sinceReset past ++ [⟨m, request, turn⟩] := by
    rw [sinceReset_concat, if_neg hkeeps]
  have hwork : workOf (past ++ [⟨m, request, turn⟩]) =
      workOf past ++ Exchange.actions ⟨m, request, turn⟩ := by
    rw [workOf, hsince, List.flatMap_append, List.flatMap_singleton]
    rfl
  obtain ⟨hrun, hcount⟩ := run_of_answers h hkeeps
  refine ⟨hworked.boot, ?_, ?_, fun gather => ?_⟩
  · rw [hwork, Processor.run_append, ← hworked.run, hrun]
  · rw [hwork, Processor.trace_append, List.length_append, ← hworked.run, ← hworked.count, hcount]
    rfl
  · rw [hwork, Processor.along_append, ← hworked.run, ← hworked.gathered, gatheredOf, hsince,
      List.flatMap_append, List.flatMap_singleton]
    rfl

/-- **The work of a machine is one run.** After any history of a new machine, its processor is what a run from the
start of the latest program leads to, and the count is that of the completed steps of the run. -/
theorem worked_of_history {rom : Rom} {steps ticks : Rate} {threshold : Level} {renderer : Renderer}
    {listener : Listener} (hnew : create rom random steps ticks threshold renderer listener = .ok m)
    (h : m.History history last) : ∃ start, Worked random history start last := by
  obtain ⟨p, stepPeriod, tickPeriod, hboot, -, -, rfl⟩ := create_eq_ok_iff.mp hnew
  have hall := h.invariant
    (fun q past => q.settings.random = random ∧ ∃ start, Worked random past start q)
    ⟨rfl, p, ⟨rom, hboot⟩, rfl, rfl, fun gather => rfl⟩ ?_
  · exact hall.2
  · rintro q past request turn ⟨hrandom, start, hworked⟩ hanswer
    have hkept : turn.state.settings.random = random :=
      (congrArg Settings.random (exit_of_answers hanswer).settings_eq).trans hrandom
    by_cases hclears : request.clears
    · exact ⟨hkept, _, Worked.of_clears hrandom hanswer hclears⟩
    · exact ⟨hkept, start, hworked.concat hanswer hclears⟩

end Machine

end Chip8
