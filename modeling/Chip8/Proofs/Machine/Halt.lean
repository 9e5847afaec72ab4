import Chip8.Proofs.Keypad
import Chip8.Proofs.Machine.History
import Chip8.Proofs.Processor.Run
import Mathlib.Data.List.Basic
import Mathlib.Logic.Function.Iterate

/-!
# Halted machines

A machine that a fault has halted stays halted with this fault until it is reset to a program that fits.
Until then ticks and keys are all that can reach its processor.

Halting and coming to rest are two things. The loop comes to rest with the fault that it meets itself. A
fault of a step made by the host leaves the loops running, and they end with their own next step.

* `Request.clears`, `fault_sticky`: what can take the fault away, and what stays while nothing does.
* `Exchange.exposes`, `halted_and_running_iff`: the histories after which a machine is halted and running.
-/

namespace Chip8

/-- A reset to a program that fits. -/
def Request.clears : Request → Prop
  | .reset rom => rom.length ≤ 3584
  | _ => False

/-- The requests after which the loops are at rest. -/
def Request.stops : Request → Prop
  | .stop | .reset _ => True
  | _ => False

/-- The keypad after a request. -/
def Keypad.after (pad : Keypad) : Request → Keypad
  | .press number => (Key.ofInt? number).elim pad fun key => pad.put key true
  | .release number => (Key.ofInt? number).elim pad fun key => pad.put key false
  | _ => pad

/-- The processor after a request of which only ticks and keys reach it. -/
def Processor.reached (p : Processor) : Request → Processor
  | .tick => p.tick
  | .press number => (Key.ofInt? number).elim p p.press
  | .release number => (Key.ofInt? number).elim p p.release
  | _ => p

/-- A step fails while the loops are running. -/
def Exchange.exposes (x : Exchange) : Prop :=
  x.request = .step ∧ x.before.running = true ∧ ∃ f, x.turn.result = .error (.trouble (.fault f))

/-- Ticks and keys change the timers and the keypad, and nothing else. -/
theorem Processor.foldl_reached (p : Processor) (requests : List Request) :
    requests.foldl Processor.reached p =
      { p with
        delay := countDown^[requests.count .tick] p.delay
        sound := countDown^[requests.count .tick] p.sound
        keypad := requests.foldl Keypad.after p.keypad } := by
  induction requests generalizing p with
  | nil => rfl
  | cons request rest ih =>
    rw [List.foldl_cons, List.foldl_cons, ih]
    by_cases htick : request = .tick
    · subst htick
      rw [List.count_cons_self, Function.iterate_succ_apply, Function.iterate_succ_apply]
      rfl
    · rw [List.count_cons_of_ne htick]
      cases request with
      | tick => exact absurd rfl htick
      | press number | release number =>
        cases hkey : Key.ofInt? number <;> simp only [Keypad.after, Processor.reached, hkey] <;> rfl
      | _ => rfl

theorem LoopRun.step_of_fault {lost? : Instruction → Option HostFailure} {slow : Bool} {p q : Processor}
    {n : Nat} {f : Fault} (h : LoopRun lost? slow p n q (.fault f)) : q.step = .error f := by
  -- All the steps of a run have one ending, which has to be general for the induction.
  generalize hending : LoopEnd.fault f = ending at h
  induction h with
  | fault hstep =>
    cases hending
    exact hstep
  | lost | wait => cases hending
  | next hslow hstep hshown hrest ih => exact ih hending

namespace Machine

variable {m last : Machine} {request : Request} {answer : Answer} {turn : Turn Machine Answer}
  {history : List Exchange} {f : Fault}

/-! ## A fault stays -/

/-- The request with which a fault is recorded: the processor is the one that the step failed on. -/
theorem Exit.fault_first (h : m.Exit request last answer) (hclean : m.fault = none)
    (hfault : last.fault = some f) :
    last.processor.step = .error f ∧
      ((request = .step ∧ last.processor = m.processor ∧ last.count = m.count) ∨
      (request = .start ∧ ∃ n, LoopRun m.lost? m.isSlow m.begun.processor n last.processor (.fault f) ∧
        last.count = m.count + n)) := by
  cases h with
  | @faulted f' _ hstep =>
    cases hfault
    exact ⟨hstep, Or.inl ⟨rfl, rfl, rfl⟩⟩
  | @start n q ending _ hrest hrates hloop =>
    cases ending with
    | fault f' =>
      cases hfault
      exact ⟨hloop.step_of_fault, Or.inr ⟨rfl, n, hloop, rfl⟩⟩
    | lost | waiting => exact absurd (hclean.symm.trans hfault) nofun
  | reset | resetUnseen => cases hfault
  | _ => exact absurd (hclean.symm.trans hfault) nofun

/-- A halted machine and a request that does not clear the fault. -/
theorem Exit.of_halted (h : m.Exit request last answer) (hfault : m.fault = some f)
    (hkeeps : ¬ request.clears) :
    last.fault = some f ∧ last.count = m.count ∧ last.processor = m.processor.reached request ∧
      (request = .step ∨ request = .start → answer = .error (.trouble (.halted f))) := by
  cases h with
  | done hnone | unseen hnone | faulted hnone | startAgain hnone | zeroPeriod hnone | start hnone =>
    exact absurd (hfault.symm.trans hnone) nofun
  | halted hcause | startHalted hcause =>
    cases hfault.symm.trans hcause
    exact ⟨hfault, rfl, rfl, fun _ => rfl⟩
  | press hkey | pressNoKey hkey | release hkey | releaseNoKey hkey =>
    refine ⟨hfault, rfl, ?_, by simp⟩
    rw [Processor.reached, hkey]
    rfl
  | reset hboot | resetUnseen hboot => exact absurd (Processor.fits_of_boot? hboot) hkeeps
  | _ => exact ⟨hfault, rfl, rfl, by simp⟩

theorem History.of_halted (h : m.History history last) (hfault : m.fault = some f)
    (hkeeps : ∀ x ∈ history, ¬ x.request.clears) :
    last.fault = some f ∧ last.count = m.count ∧
      last.processor = (history.map Exchange.request).foldl Processor.reached m.processor ∧
      ∀ x ∈ history, x.request = .step ∨ x.request = .start →
        x.turn.result = .error (.trouble (.halted f)) := by
  induction h with
  | nil m => exact ⟨hfault, rfl, rfl, fun x hx => absurd hx List.not_mem_nil⟩
  | @cons m request turn rest last hanswer hrest ih =>
    obtain ⟨hfirst, hsame, hreached, hrefused⟩ :=
      (exit_of_answers hanswer).of_halted hfault (hkeeps _ List.mem_cons_self)
    obtain ⟨hlast, hcount, hprocessor, hothers⟩ :=
      ih hfirst fun x hx => hkeeps x (List.mem_cons_of_mem _ hx)
    refine ⟨hlast, hcount.trans hsame, ?_, ?_⟩
    · rw [hprocessor, hreached]
      rfl
    · intro x hx hasks
      rcases List.mem_cons.mp hx with rfl | hx
      · exact hrefused hasks
      · exact hothers x hx hasks

/-- A reset to a program that fits takes the fault away. -/
theorem Exit.of_clears (h : m.Exit request last answer) (hclears : request.clears) :
    last.fault = none := by
  cases h with
  | reset | resetUnseen => rfl
  | romTooLarge hboot => exact absurd hclears (Nat.not_le.mpr (Processor.boot?_eq_none_iff.mp hboot))
  | _ => exact hclears.elim

/-- **A fault stays.** A request that records a fault leaves the processor as it was before the instruction that
failed, which is the one that a step began with, or the one that the steps of the loop led to. Over
every history from there on in which nothing is reset to a program that fits, the machine stays halted with
this very fault. Every step and every start is refused because of it, the count stays, and the processor
changes by ticks and keys only. Such a reset takes the fault away. -/
theorem fault_sticky (hclean : m.fault = none) (hfirst : m.Answers request turn)
    (hfault : turn.state.fault = some f) (h : turn.state.History history last)
    (hkeeps : ∀ x ∈ history, ¬ x.request.clears) :
    let p := turn.state.processor
    let requests := history.map Exchange.request
    (p.step = .error f ∧
      ((request = .step ∧ p = m.processor ∧ turn.state.count = m.count) ∨
      (request = .start ∧ ∃ n, LoopRun m.lost? m.isSlow m.begun.processor n p (.fault f) ∧
        turn.state.count = m.count + n))) ∧
    (last.fault = some f ∧ last.halted = true ∧ last.count = turn.state.count) ∧
    last.processor =
      { p with
        delay := Processor.countDown^[requests.count .tick] p.delay
        sound := Processor.countDown^[requests.count .tick] p.sound
        keypad := requests.foldl Keypad.after p.keypad } ∧
    (∀ x ∈ history, x.request = .step ∨ x.request = .start →
      x.turn.result = .error (.trouble (.halted f))) ∧
    (∀ next, next = .step ∨ next = .start →
      ∃ events, last.Answers next ⟨last, events, .error (.trouble (.halted f))⟩) ∧
    ∀ next cleared, next.clears → last.Answers next cleared → cleared.state.fault = none := by
  intro p requests
  obtain ⟨hlast, hcount, hprocessor, hrefused⟩ := h.of_halted hfault hkeeps
  refine ⟨(exit_of_answers hfirst).fault_first hclean hfault, ⟨hlast, ?_, hcount⟩, ?_, hrefused, ?_, ?_⟩
  · rw [halted, hlast]
    rfl
  · rw [hprocessor, Processor.foldl_reached]
  · rintro next (rfl | rfl)
    · exact exists_answers_of_exit (.halted hlast)
    · exact exists_answers_of_exit (.startHalted hlast)
  · intro next cleared hclears hanswer
    exact (exit_of_answers hanswer).of_clears hclears

/-- A return with no call open, then a tick, a key, another step, and a reset to a program that is too
large. -/
theorem fault_sticky_of_underflow :
    ∃ (m last : Machine) (turn : Turn Machine Answer) (history : List Exchange) (large : Rom),
      m.Answers .step turn ∧ turn.state.History history last ∧
      history.map Exchange.request = [.tick, .press 5, .step, .reset large] ∧
      last.fault = some .stackUnderflow ∧ last.count = turn.state.count ∧
      last.processor.keypad = turn.state.processor.keypad.put 5 true := by
  have hrun : ((Machine.create [0x00, 0xEE] ⟨0, 0⟩ (.whole 1000) (.whole 60) .info .absent
      .absent).toOption.map fun m => (m.fault, m.step.state.fault)) =
      some (none, some .stackUnderflow) := by decide +kernel
  obtain ⟨m, -, hfaults⟩ := Option.map_eq_some_iff.mp hrun
  obtain ⟨hclean, hfault⟩ := Prod.mk.inj hfaults
  obtain ⟨first, hfirst⟩ := m.exists_answers_step
  obtain ⟨large, hlarge⟩ : ∃ large : Rom, 3584 < large.length :=
    ⟨List.replicate 3585 0, by rw [List.length_replicate]; decide⟩
  obtain ⟨history, last, hhistory, hasked⟩ :=
    m.step.state.exists_history [.tick, .press 5, .step, .reset large] (by simp)
  have hkeeps : ∀ request ∈ history.map Exchange.request, ¬ request.clears := by
    rw [hasked]
    simp [Request.clears, hlarge]
  obtain ⟨-, ⟨hlast, -, hcount⟩, hprocessor, -⟩ := fault_sticky hclean hfirst hfault hhistory
    fun x hx => hkeeps x.request (List.mem_map_of_mem hx)
  rw [hasked] at hprocessor
  exact ⟨m, last, _, history, large, hfirst, hhistory, hasked, hlast, hcount,
    congrArg Processor.keypad hprocessor⟩

/-! ## Halted and running -/

/-- Since the latest step that failed while the loops were running, nothing has stopped them. -/
def Exposed (history : List Exchange) : Prop :=
  ∃ past x future, history = past ++ x :: future ∧ x.exposes ∧ ∀ y ∈ future, ¬ y.request.stops

theorem not_exposed_nil : ¬ Exposed [] := by
  rintro ⟨past, x, future, hsplit, -⟩
  simp at hsplit

theorem exposed_concat {past : List Exchange} {x : Exchange} :
    Exposed (past ++ [x]) ↔ x.exposes ∨ (Exposed past ∧ ¬ x.request.stops) := by
  constructor
  · -- The step that failed is the latest exchange, or that one came after it.
    rintro ⟨before, y, after, hsplit, hy, hafter⟩
    rcases List.eq_nil_or_concat' after with rfl | ⟨between, z, rfl⟩
    · obtain ⟨-, rfl⟩ := List.append_singleton_inj.mp hsplit
      exact Or.inl hy
    · rw [← List.cons_append, ← List.append_assoc] at hsplit
      obtain ⟨rfl, rfl⟩ := List.append_singleton_inj.mp hsplit
      have hbetween : ∀ w ∈ between, ¬ w.request.stops :=
        fun w hw => hafter w (List.mem_append_left _ hw)
      exact Or.inr ⟨⟨before, y, between, rfl, hy, hbetween⟩, hafter x (by simp)⟩
  · rintro (hx | ⟨⟨before, y, between, rfl, hy, hbetween⟩, hx⟩)
    · exact ⟨past, x, [], rfl, hx, fun y hy => absurd hy List.not_mem_nil⟩
    · refine ⟨before, y, between ++ [x], by simp, hy, ?_⟩
      intro w hw
      rcases List.mem_append.mp hw with hw | hw
      · exact hbetween w hw
      · rwa [List.mem_singleton.mp hw]

/-- What a request does to a machine that is halted and running, and how a machine becomes so. -/
theorem Exit.halted_and_running (h : m.Exit request turn.state turn.result) :
    (turn.state.halted = true ∧ turn.state.running = true) ↔
      Exchange.exposes ⟨m, request, turn⟩ ∨
        ((m.halted = true ∧ m.running = true) ∧ ¬ request.stops) := by
  obtain ⟨last, events, answer⟩ := turn
  dsimp only at h
  unfold Exchange.exposes Machine.halted
  cases h with
  | done hfault | unseen hfault => simp [advanced, hfault]
  | startAgain hfault | zeroPeriod hfault => simp [hfault]
  | faulted hfault hstep => simp [broken, hfault, running, stepper]
  | @start n q ending hfault hrest hrates hloop =>
    rw [running_left]
    cases ending <;> simp [left, hfault]
  | tick => simp [Request.stops, Machine.tick, running, stepper]
  | press hkey | release hkey => simp [Request.stops, running, stepper]
  | _ => simp [Request.stops]

/-- **When a halted machine is running.** After any history of a new machine, it is halted and running exactly
when a step of the host failed while the loops were running, and nothing was stopped or reset since. So if
no such step fails, a halted machine is never running. And when the machine is halted, the loops come to
rest with the next step of their own. -/
theorem halted_and_running_iff {rom : Rom} {random : RandomKey} {steps ticks : Rate} {threshold : Level}
    {renderer : Renderer} {listener : Listener}
    (hnew : create rom random steps ticks threshold renderer listener = .ok m)
    (h : m.History history last) :
    ((last.halted = true ∧ last.running = true) ↔ Exposed history) ∧
    ((∀ x ∈ history, ¬ x.exposes) → last.halted = true → last.running = false) ∧
    (last.halted = true → last.loopStep.1 = last.rest) := by
  have hexposed : (last.halted = true ∧ last.running = true) ↔ Exposed history := by
    refine h.invariant (fun q past => (q.halted = true ∧ q.running = true) ↔ Exposed past) ?_ ?_
    · simp [not_exposed_nil, halted, (at_rest_of_create hnew).1]
    · intro q past request turn hq hanswer
      rw [exposed_concat, (exit_of_answers hanswer).halted_and_running, hq]
  refine ⟨hexposed, fun hquiet hhalted => ?_, fun hhalted => ?_⟩
  · by_contra hrunning
    obtain ⟨past, x, future, rfl, hx, -⟩ := hexposed.mp ⟨hhalted, by simpa using hrunning⟩
    exact hquiet x (by simp) hx
  · obtain ⟨cause, hcause⟩ := Option.isSome_iff_exists.mp hhalted
    rw [loopStep_of_halted hcause]

/-- A loop with a thousand seconds between its steps makes the first one and waits. Then a step of the host fails,
and the machine is halted while the loop goes on waiting. -/
theorem halted_while_waiting :
    ∃ (m last : Machine) (history : List Exchange),
      create [0x60, 0x01, 0x00, 0xEE] ⟨0, 0⟩ (.real 0.001) (.real 0.001) .critical .absent .absent =
        .ok m ∧
      m.History history last ∧ history.map Exchange.request = [.start, .step] ∧
      last.halted = true ∧ last.running = true := by
  have hrun : ((create [0x60, 0x01, 0x00, 0xEE] ⟨0, 0⟩ (.real 0.001) (.real 0.001) .critical .absent
      .absent).toOption.bind fun m => (m.perform? 0 .start).map fun started =>
        (started.state.step.state.halted, started.state.step.state.running)) =
      some (true, true) := by decide +kernel
  obtain ⟨m, hm, hstarts⟩ := Option.bind_eq_some_iff.mp hrun
  obtain ⟨started, hstart, hlast⟩ := Option.map_eq_some_iff.mp hstarts
  obtain ⟨hhalted, hrunning⟩ := Prod.mk.inj hlast
  obtain ⟨events, hstep⟩ := started.state.exists_answers_step
  exact ⟨m, _, _, eq_ok_of_toOption hm, .cons ⟨0, hstart⟩ (.cons hstep (.nil _)), rfl, hhalted,
    hrunning⟩

theorem halted_and_running_iff_of_waiting :
    ∃ (m last : Machine) (history : List Exchange),
      create [0x60, 0x01, 0x00, 0xEE] ⟨0, 0⟩ (.real 0.001) (.real 0.001) .critical .absent .absent =
        .ok m ∧
      m.History history last ∧ Exposed history ∧ last.loopStep.1 = last.rest := by
  obtain ⟨m, last, history, hnew, hhistory, -, hhalted, hrunning⟩ := halted_while_waiting
  obtain ⟨hexposed, -, hends⟩ := halted_and_running_iff hnew hhistory
  exact ⟨m, last, history, hnew, hhistory, hexposed.mp ⟨hhalted, hrunning⟩, hends hhalted⟩

/-- It is not so that a halted machine is never running. -/
theorem not_halted_imp_at_rest :
    ¬ ∀ (rom : Rom) (random : RandomKey) (steps ticks : Rate) (threshold : Level) (renderer : Renderer)
      (listener : Listener) (m last : Machine) (history : List Exchange),
      create rom random steps ticks threshold renderer listener = .ok m → m.History history last →
      last.halted = true → last.running = false := by
  intro hclaim
  obtain ⟨m, last, history, hnew, hhistory, -, hhalted, hrunning⟩ := halted_while_waiting
  have hrest := hclaim _ _ _ _ _ _ _ m last history hnew hhistory hhalted
  rw [hrunning] at hrest
  cases hrest

end Machine

end Chip8
