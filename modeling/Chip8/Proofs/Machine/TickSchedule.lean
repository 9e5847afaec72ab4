import Chip8.Proofs.Machine.Interleaving
import Chip8.Proofs.Picture
import Chip8.Proofs.Processor.Drawing
import Chip8.Proofs.Processor.Timers
import Chip8.Session

/-!
# Ticks between steps

A run without a window lets the timers tick after every so many steps, so that each step comes after the ticks
that are due by then.

* `schedule`: steps, each with the ticks that are due after it.
* `schedule_eq_append`: a step of the schedule, and what comes before it.
* `Machine.Completes`: a machine makes all steps among some actions, and what they show can be shown.
* `runSteps_of_completes`: as long as steps are completed, a run without a window keeps to the schedule.
* `Machine.Paced`: the machine after a number of steps, with the ticks that were due.
* `completes_or_trouble`: all steps of the schedule are completed, or those before one that is refused.
* `Session.Outcome.Closes`, `Picture.Shows`: how a session without a window ends, and what its picture shows.
* `runHeadless_keeps_schedule`: the run, the exit code of its session and its picture.
-/

namespace Chip8

open Chip8.Action (stepCount tickCount)

/-! ## The schedule -/

/-- Steps after a number of steps that were made before, each with the ticks that are due after it. -/
def scheduleFrom (perTick made : Nat) : Nat → List Action
  | 0 => []
  | steps + 1 =>
    .step :: (List.replicate ((made + 1) / perTick - made / perTick) .tick ++
      scheduleFrom perTick (made + 1) steps)

/-- A number of steps, each with the ticks that are due after it. -/
def schedule (perTick steps : Nat) : List Action := scheduleFrom perTick 0 steps

section Schedule

variable {perTick made steps : Nat}

/-- One tick is due after every so many steps. -/
theorem ticks_due (perTick made : Nat) :
    (List.replicate ((made + 1) / perTick - made / perTick) Action.tick) =
      if (made + 1) % perTick = 0 then [.tick] else [] := by
  rw [Nat.succ_div]
  simp only [Nat.dvd_iff_mod_eq_zero]
  split_ifs
  · rw [Nat.add_sub_cancel_left]
    rfl
  · rw [Nat.add_zero, Nat.sub_self]
    rfl

theorem stepCount_scheduleFrom (perTick made steps : Nat) :
    stepCount (scheduleFrom perTick made steps) = steps := by
  induction steps generalizing made with
  | zero => rfl
  | succ steps ih =>
    rw [scheduleFrom, Action.stepCount_step, Action.stepCount_append, Action.stepCount_ticks, ih, Nat.zero_add]

theorem tickCount_scheduleFrom (perTick made steps : Nat) :
    tickCount (scheduleFrom perTick made steps) = (made + steps) / perTick - made / perTick := by
  induction steps generalizing made with
  | zero => exact (Nat.sub_self _).symm
  | succ steps ih =>
    have hone : made / perTick ≤ (made + 1) / perTick := Nat.div_le_div_right (by omega)
    have hmore : (made + 1) / perTick ≤ (made + 1 + steps) / perTick := Nat.div_le_div_right (by omega)
    have hstep : ∀ rest, tickCount (.step :: rest) = tickCount rest := fun _ => rfl
    have hsame : made + (steps + 1) = made + 1 + steps := by omega
    rw [scheduleFrom, hstep, Action.tickCount_append, Action.tickCount_ticks, ih, hsame]
    omega

theorem scheduleFrom_add (perTick made steps more : Nat) :
    scheduleFrom perTick made (steps + more) =
      scheduleFrom perTick made steps ++ scheduleFrom perTick (made + steps) more := by
  induction steps generalizing made with
  | zero => rw [Nat.zero_add, Nat.add_zero, scheduleFrom, List.nil_append]
  | succ steps ih =>
    have hleft : steps + 1 + more = steps + more + 1 := by omega
    have hright : made + 1 + steps = made + (steps + 1) := by omega
    rw [hleft, scheduleFrom, ih, scheduleFrom, hright, List.cons_append, List.append_assoc]

theorem stepCount_schedule (perTick steps : Nat) : stepCount (schedule perTick steps) = steps :=
  stepCount_scheduleFrom perTick 0 steps

theorem tickCount_schedule (perTick steps : Nat) :
    tickCount (schedule perTick steps) = steps / perTick := by
  rw [schedule, tickCount_scheduleFrom, Nat.zero_add, Nat.zero_div, Nat.sub_zero]

/-- A step comes after those before it, and after the ticks that are due by then. -/
theorem schedule_eq_append (perTick : Nat) {j steps : Nat} (h : j < steps) :
    ∃ after, schedule perTick steps = schedule perTick j ++ .step :: after := by
  obtain ⟨more, rfl⟩ : ∃ more, steps = j + (more + 1) := ⟨steps - j - 1, by omega⟩
  rw [schedule, scheduleFrom_add, scheduleFrom]
  exact ⟨_, rfl⟩

end Schedule

namespace Machine

variable {m : Machine} {actions : List Action} {i : Instruction} {perTick made steps : Nat}

/-! ## Steps that are completed -/

/-- The machine makes all steps among the actions, and what they show can be shown. -/
def Completes (m : Machine) (actions : List Action) : Prop :=
  ∀ x ∈ m.made actions, ∃ i, x.1 = .ok (some i)

theorem completes_append {before after : List Action} :
    m.Completes (before ++ after) ↔ m.Completes before ∧ (m.acts before).Completes after := by
  unfold Completes
  rw [made_append, List.forall_mem_append]

theorem completes_of_outside {a : Action} {rest : List Action} (ha : a.isStep = false) :
    m.Completes (a :: rest) ↔ (m.act a).state.Completes rest := by
  unfold Completes
  rw [made_cons ha]

theorem completes_step {rest : List Action} :
    m.Completes (.step :: rest) ↔ (∃ i, m.step.result = .done i) ∧ m.step.state.Completes rest := by
  have hdone : (∃ i, m.step.result.toExcept.map some = .ok (some i)) ↔ ∃ i, m.step.result = .done i := by
    cases m.step.result <;> simp [StepOutcome.toExcept, Except.map]
  unfold Completes
  rw [← hdone]
  exact List.forall_mem_cons

theorem completes_ticks (m : Machine) (n : Nat) : m.Completes (List.replicate n .tick) := by
  induction n generalizing m with
  | zero => exact fun x hx => absurd hx List.not_mem_nil
  | succ n ih => exact (completes_of_outside rfl).mpr (ih m.tick)

/-- What a completed step comes to. -/
theorem advanced_of_done (h : m.step.result = .done i) :
    ∃ q, m.processor.step = .ok (q, i) ∧ m.step.state = m.advanced q := by
  have hexit := m.exit_of_step
  rw [h] at hexit
  generalize m.step.state = last at hexit
  cases hexit with
  | done hfault hstep hshown => exact ⟨_, hstep, rfl⟩

/-- When all steps are completed, the actions are a run of the processor. -/
theorem acts_of_completes (h : m.Completes actions) :
    m.acts actions =
        { m with processor := m.processor.run actions, count := m.count + stepCount actions } ∧
      (m.processor.trace actions).length = stepCount actions := by
  -- A step is counted and recorded in the trace; the other actions change the processor alone.
  induction actions generalizing m with
  | nil => exact ⟨rfl, rfl⟩
  | cons a rest ih =>
    cases ha : a.isStep with
    | true =>
      obtain rfl := Action.eq_step ha
      obtain ⟨⟨i, hdone⟩, hrest⟩ := completes_step.mp h
      obtain ⟨q, hstep, hstate⟩ := advanced_of_done hdone
      rw [hstate] at hrest
      obtain ⟨hacts, hlength⟩ := ih hrest
      have hcount : m.count + 1 + stepCount rest = m.count + (stepCount rest + 1) := by omega
      rw [Action.stepCount_step, Processor.run_step hstep, Processor.trace_step hstep, List.length_cons]
      refine ⟨?_, congrArg (· + 1) hlength⟩
      show m.step.state.acts rest = _
      rw [hstate, hacts, ← hcount]
      rfl
    | false =>
      obtain ⟨hacts, hlength⟩ := ih ((completes_of_outside ha).mp h)
      have hprocessor : (m.act a).state.processor = m.processor.act a := by
        rw [act_outside m ha, Processor.act_of_outside ha]
        rfl
      have hexecuted : m.processor.executed a = [] := by
        cases a with
        | step => cases ha
        | _ => rfl
      rw [Action.stepCount_cons ha, Processor.run, Processor.trace, hexecuted, ← hprocessor]
      refine ⟨?_, hlength⟩
      show (m.act a).state.acts rest = _
      rw [hacts, act_outside m ha]
      rfl

/-- A refused step changes neither the processor nor the count. -/
theorem step_of_trouble {t : Trouble} (h : m.step.result.toExcept = .error (.trouble t)) :
    m.step.state.processor = m.processor ∧ m.step.state.count = m.count := by
  have hexit := m.exit_of_step
  rw [h] at hexit
  generalize m.step.state = last at hexit ⊢
  cases hexit with
  | faulted | halted => exact ⟨rfl, rfl⟩

/-! ## Runs without a window -/

/-- After a completed step the run goes on with the ticks that are due. -/
theorem runSteps_succ (h : m.step.result = .done i) :
    let others := runSteps perTick steps (made + 1)
      (m.step.state.acts (List.replicate ((made + 1) / perTick - made / perTick) .tick))
    (runSteps perTick (steps + 1) made m).state = others.state ∧
      (runSteps perTick (steps + 1) made m).result = others.result := by
  rw [ticks_due, runSteps]
  simp only [h]
  split_ifs <;> exact ⟨rfl, rfl⟩

/-- As long as steps are completed the run keeps to the schedule. -/
theorem runSteps_of_completes (h : m.Completes (scheduleFrom perTick made steps)) (more : Nat) :
    let others := runSteps perTick more (made + steps) (m.acts (scheduleFrom perTick made steps))
    (runSteps perTick (steps + more) made m).state = others.state ∧
      (runSteps perTick (steps + more) made m).result = others.result := by
  -- By induction on the steps: the run that is left knows how many were made before.
  induction steps generalizing m made with
  | zero =>
    rw [Nat.zero_add]
    exact ⟨rfl, rfl⟩
  | succ steps ih =>
    obtain ⟨⟨i, hdone⟩, hrest⟩ := completes_step.mp h
    obtain ⟨-, hrest⟩ := completes_append.mp hrest
    have hsteps : steps + 1 + more = steps + more + 1 := by omega
    have hmade : made + 1 + steps = made + (steps + 1) := by omega
    obtain ⟨hstate, hresult⟩ := @runSteps_succ m i perTick made (steps + more) hdone
    obtain ⟨hothers, hverdict⟩ := ih hrest
    rw [hsteps, scheduleFrom]
    show _ = (runSteps _ _ _ (m.step.state.acts _)).state ∧ _ = (runSteps _ _ _ (m.step.state.acts _)).result
    rw [acts_append, ← hmade]
    exact ⟨hstate.trans hothers, hresult.trans hverdict⟩

theorem runSteps_of_trouble {t : Trouble} (h : m.step.result.toExcept = .error (.trouble t)) :
    (runSteps perTick (steps + 1) made m).state = m.step.state ∧
      (runSteps perTick (steps + 1) made m).result = .ok false := by
  rw [runSteps]
  cases hresult : m.step.result with
  | faulted | halted => exact ⟨rfl, rfl⟩
  | done | unseen =>
    rw [hresult] at h
    cases h

/-- The machine has made a number of steps, with the ticks that were due, when it is the last one. -/
structure Paced (m : Machine) (perTick made : Nat) (last : Machine) : Prop where
  processor : last.processor = m.processor.run (schedule perTick made)
  completed : (m.processor.trace (schedule perTick made)).length = made
  count : last.count = m.count + made
  delay : (∀ x ∈ m.processor.trace (schedule perTick made), ∀ r, x.instruction ≠ .setDelay r) →
    last.processor.delay.toNat = m.processor.delay.toNat - made / perTick
  sound : (∀ x ∈ m.processor.trace (schedule perTick made), ∀ r, x.instruction ≠ .setSound r) →
    last.processor.sound.toNat = m.processor.sound.toNat - made / perTick

theorem paced_of_completes (h : m.Completes (schedule perTick made)) :
    m.Paced perTick made (m.acts (schedule perTick made)) := by
  obtain ⟨hacts, hlength⟩ := acts_of_completes h
  rw [stepCount_schedule] at hacts hlength
  have hprocessor := congrArg processor hacts
  refine ⟨hprocessor, hlength, congrArg count hacts, fun hset => ?_, fun hset => ?_⟩
  · rw [hprocessor, ← tickCount_schedule]
    exact m.processor.toNat_delay_run hset
  · rw [hprocessor, ← tickCount_schedule]
    exact m.processor.toNat_sound_run hset

/-- The machine is paced as well when the next step is refused. -/
theorem Paced.refused {last : Machine} {t : Trouble} (h : m.Paced perTick made last)
    (hstep : last.step.result.toExcept = .error (.trouble t)) : m.Paced perTick made last.step.state := by
  obtain ⟨hprocessor, hcount⟩ := step_of_trouble hstep
  refine ⟨hprocessor.trans h.processor, h.completed, hcount.trans h.count, ?_, ?_⟩
  · rw [hprocessor]
    exact h.delay
  · rw [hprocessor]
    exact h.sound

/-- A renderer that does not fail leaves two outcomes of a step. -/
theorem done_or_trouble (hshown : m.renderer.failure? = none) :
    (∃ i, m.step.result = .done i) ∨ ∃ t, m.step.result.toExcept = .error (.trouble t) := by
  cases hresult : m.step.result with
  | done i => exact .inl ⟨i, rfl⟩
  | faulted f => exact .inr ⟨.fault f, rfl⟩
  | halted cause => exact .inr ⟨.halted cause, rfl⟩
  | unseen failure =>
    have hexit := m.exit_of_step
    rw [hresult] at hexit
    generalize m.step.state = last at hexit
    cases hexit with
    | unseen hfault hstep hlost =>
      rw [lost?, hshown, ite_self] at hlost
      cases hlost

/-- Either all steps of the schedule are completed, or those before one that is refused. -/
theorem completes_or_trouble (hshown : m.renderer.failure? = none) (perTick steps : Nat) :
    m.Completes (schedule perTick steps) ∨
      ∃ made < steps, ∃ t, m.Completes (schedule perTick made) ∧
        (m.acts (schedule perTick made)).step.result.toExcept = .error (.trouble t) := by
  induction steps with
  | zero => exact .inl fun x hx => absurd hx List.not_mem_nil
  | succ steps ih =>
    rcases ih with hall | ⟨made, hless, t, hsome, hstep⟩
    · have hquiet : (m.acts (schedule perTick steps)).renderer.failure? = none := by
        rw [(acts_of_completes hall).1]
        exact hshown
      rcases done_or_trouble hquiet with hdone | ⟨t, hstep⟩
      · left
        rw [schedule, scheduleFrom_add, Nat.zero_add, completes_append]
        refine ⟨hall, completes_step.mpr ⟨hdone, ?_⟩⟩
        rw [scheduleFrom, List.append_nil]
        exact completes_ticks _ _
      · exact .inr ⟨steps, Nat.lt_succ_self steps, t, hall, hstep⟩
    · exact .inr ⟨made, Nat.lt_succ_of_lt hless, t, hsome, hstep⟩

end Machine

/-! ## Sessions without a window -/

/-- A session without a window has come to its end with the machine, whether or not all steps were made. -/
structure Session.Outcome.Closes (outcome : Session.Outcome) (m : Machine) (complete : Bool)
    (picture : Option (String × Picture)) : Prop where
  machine : outcome.machine = some m
  exitCode : outcome.exitCode = if complete then 0 else 1
  picture : outcome.picture = picture

/-- The picture shows the screen pixel by pixel, in the scale, the colours and the grid that were asked for. -/
structure Picture.Shows (picture : Picture) (o : Options) (screen : Screen) : Prop where
  sized : picture.Sized (32 * side o.scale) (64 * side o.scale)
  pixel : ∀ r c, r < 32 * side o.scale → c < 64 * side o.scale →
    picture.pixel? r c = some (colourAt screen.lit o.scale o.scheme.on o.scheme.off
      (if o.grid then some ⟨128, 128, 128⟩ else none) r c)

theorem Picture.shows_screenshot (o : Options) (screen : Screen) :
    (screenshot screen o.scale o.scheme o.grid).Shows o screen where
  sized := sized_paint screen _ _ _ _
  pixel _ _ hr hc := pixel?_paint screen _ _ _ hr hc

/-- A run that tells whether it is complete settles how its session ends, but for the picture. -/
theorem Session.run?_of_headless {o : Options} {rom : Rom} {random : RandomKey} {m last : Machine}
    {perTick limit : Nat} {complete : Bool} (save : Session.Saver) (batches : List (List WindowEvent))
    (hheadless : o.headless = true) (hseed : RandomKey.ofSeed? o.seed = some random)
    (hnew : Machine.create rom random o.rate Machine.defaultTickRate o.level .absent .absent = .ok m)
    (hratio : Session.stepsPerTick o.rate = .ok perTick)
    (hlast : (m.runHeadless perTick o.steps).state = last)
    (hresult : (m.runHeadless perTick o.steps).result = .ok complete) :
    (∀ picture, Session.screenshotOf save o last = .ok picture →
      ∃ outcome, Session.run? limit save o (.bytes rom) batches = some (.ok outcome) ∧
        outcome.Closes last complete picture) ∧
    ∀ crash, Session.screenshotOf save o last = .error crash →
      Session.run? limit save o (.bytes rom) batches = some (.error crash) := by
  obtain ⟨_, _, _, hboot, -⟩ := Machine.create_eq_ok_iff.mp hnew
  have hfits : ¬ Memory.programLimit < rom.length := Nat.not_lt.mpr (Processor.fits_of_boot? hboot)
  have hrun : Session.run? limit save o (.bytes rom) batches = some (Session.runHeadless save o m
      (Session.say o .info ("Loaded " ++ o.rom ++ " (" ++ Nat.repr rom.length ++ " bytes)"))) := by
    simp only [Session.run?, if_neg hfits, hseed, hnew, hheadless, if_true]
  rw [hrun, Session.runHeadless, hratio]
  simp only [Except.mapError, bind, Except.bind, hresult, hlast]
  constructor
  · intro picture hpicture
    rw [hpicture]
    exact ⟨_, rfl, rfl, rfl, rfl⟩
  · intro crash hcrash
    rw [hcrash]

namespace Machine

variable {m : Machine} {perTick made : Nat} {n : Int}

theorem runHeadless_of_completes (h : m.Completes (schedule perTick n.toNat)) :
    (m.runHeadless perTick n).result = .ok true ∧
      m.Paced perTick n.toNat (m.runHeadless perTick n).state := by
  obtain ⟨hstate, hresult⟩ := runSteps_of_completes h 0
  refine ⟨hresult, ?_⟩
  show m.Paced perTick n.toNat (runSteps perTick (n.toNat + 0) 0 m).state
  rw [hstate]
  exact paced_of_completes h

theorem runHeadless_of_trouble {t : Trouble} (hless : (made : Int) < n)
    (h : m.Completes (schedule perTick made))
    (hstep : (m.acts (schedule perTick made)).step.result.toExcept = .error (.trouble t)) :
    (m.runHeadless perTick n).result = .ok false ∧
      m.Paced perTick made (m.runHeadless perTick n).state := by
  obtain ⟨more, hmore⟩ : ∃ more, n.toNat = made + (more + 1) := ⟨n.toNat - made - 1, by omega⟩
  obtain ⟨hstate, hresult⟩ := runSteps_of_completes h (more + 1)
  obtain ⟨hlast, hrefused⟩ := @runSteps_of_trouble _ perTick (0 + made) more t hstep
  rw [runHeadless, hmore]
  refine ⟨hresult.trans hrefused, ?_⟩
  rw [hstate.trans hlast]
  exact (paced_of_completes h).refused hstep

/-- **A run without a window keeps to its schedule.** In the schedule each step comes after those before it and
after one tick for every `perTick` of them. A run whose steps are all completed makes them and their ticks,
and says so; one whose next step is refused has made those before it with the ticks that were due, and no
more. A timer that no instruction of the run sets has been counted down by these ticks. Unless the renderer
fails there is no third case. A session without a window ends with 0 in the first case and with 1 in the
second. When a picture is asked for, it is handed to the host, and it shows the screen of the last machine;
the session ends like that if the host saves it, and with its error if it does not. -/
theorem runHeadless_keeps_schedule (m : Machine) (perTick : Nat) (n : Int) :
    (∀ j, stepCount (schedule perTick j) = j ∧ tickCount (schedule perTick j) = j / perTick ∧
      ∀ steps, j < steps → ∃ after, schedule perTick steps = schedule perTick j ++ .step :: after) ∧
    (m.Completes (schedule perTick n.toNat) →
      (m.runHeadless perTick n).result = .ok true ∧
        m.Paced perTick n.toNat (m.runHeadless perTick n).state) ∧
    (∀ (made : Nat) t, (made : Int) < n → m.Completes (schedule perTick made) →
      (m.acts (schedule perTick made)).step.result.toExcept = .error (.trouble t) →
      (m.runHeadless perTick n).result = .ok false ∧
        m.Paced perTick made (m.runHeadless perTick n).state) ∧
    (∀ cause, m.fault = some cause → 0 < n →
      (m.runHeadless perTick n).result = .ok false ∧ m.Paced perTick 0 (m.runHeadless perTick n).state) ∧
    (m.renderer.failure? = none →
      m.Completes (schedule perTick n.toNat) ∨
        ∃ (made : Nat) (t : Trouble), (made : Int) < n ∧ m.Completes (schedule perTick made) ∧
          (m.acts (schedule perTick made)).step.result.toExcept = .error (.trouble t)) ∧
    ∀ (save : Session.Saver) (o : Options) rom random limit batches, o.headless = true → o.steps = n →
      RandomKey.ofSeed? o.seed = some random →
      create rom random o.rate defaultTickRate o.level .absent .absent = .ok m →
      Session.stepsPerTick o.rate = .ok perTick →
      ∃ complete, (m.runHeadless perTick n).result = .ok complete ∧
        let last := (m.runHeadless perTick n).state
        (o.screenshot = none ∨ o.screenshot = some "" →
          ∃ outcome, Session.run? limit save o (.bytes rom) batches = some (.ok outcome) ∧
            outcome.Closes last complete none) ∧
        ∀ file, o.screenshot = some file → file ≠ "" →
          ∃ picture, Picture.Shows picture o last.processor.screen ∧
            (save file picture = .ok () →
              ∃ outcome, Session.run? limit save o (.bytes rom) batches = some (.ok outcome) ∧
                outcome.Closes last complete (some (file, picture))) ∧
            ∀ failure, save file picture = .error failure →
              Session.run? limit save o (.bytes rom) batches = some (.error (.unsaved failure)) := by
  refine ⟨fun j => ⟨stepCount_schedule perTick j, tickCount_schedule perTick j,
    fun _ => schedule_eq_append perTick⟩, runHeadless_of_completes,
    fun _ _ => runHeadless_of_trouble, ?_, ?_, ?_⟩
  · intro cause hfault hpos
    have hstep : m.step.result.toExcept = .error (.trouble (.halted cause)) := by
      rw [step_of_halted hfault]
      rfl
    exact runHeadless_of_trouble hpos (fun x hx => absurd hx List.not_mem_nil) hstep
  · intro hshown
    refine (completes_or_trouble hshown perTick n.toNat).imp_right ?_
    rintro ⟨made, hless, t, hsome, hstep⟩
    exact ⟨made, t, by omega, hsome, hstep⟩
  · rintro save o rom random limit batches hheadless rfl hseed hnew hratio
    have habsent : m.renderer.failure? = none := by
      obtain ⟨_, _, _, -, -, -, rfl⟩ := create_eq_ok_iff.mp hnew
      rfl
    have hverdict : ∃ complete, (m.runHeadless perTick o.steps).result = .ok complete := by
      rcases completes_or_trouble habsent perTick o.steps.toNat with hall | ⟨made, hless, t, hsome, hstep⟩
      · exact ⟨true, (runHeadless_of_completes hall).1⟩
      · exact ⟨false, (runHeadless_of_trouble (by omega) hsome hstep).1⟩
    obtain ⟨complete, hresult⟩ := hverdict
    obtain ⟨hsaved, hcrashed⟩ :=
      Session.run?_of_headless save batches hheadless hseed hnew hratio rfl hresult
    refine ⟨complete, hresult, fun hnone => hsaved none ?_, fun file hfile hname => ?_⟩
    · rw [Session.screenshotOf]
      rcases hnone with hnone | hnone <;> rw [hnone]
      rfl
    · have hasked : file.isEmpty = false := by simpa using hname
      refine ⟨_, Picture.shows_screenshot o _, fun hsave => hsaved _ ?_, fun failure hsave =>
        hcrashed _ ?_⟩
      all_goals
        simp only [Session.screenshotOf, hfile, hasked, hsave, Bool.false_eq_true, if_false]

/-- Ten steps are asked for, with a tick after every second one, but the fourth one fails. The picture shows the
first two pixels of the sprite that was drawn, and the grid between them. -/
theorem runHeadless_keeps_schedule_of_underflow :
    ∃ (o : Options) (m : Machine) (outcome : Session.Outcome) (picture : Picture),
      create [0xA2, 0x00, 0x60, 0x09, 0xD0, 0x01, 0x00, 0xEE] ⟨0, 0⟩ o.rate defaultTickRate o.level .absent
        .absent = .ok m ∧
      m.Completes (schedule 2 3) ∧
      (m.runHeadless 2 10).result = .ok false ∧ m.Paced 2 3 (m.runHeadless 2 10).state ∧
      Session.run? 0 (fun _ _ => .ok ()) o (.bytes [0xA2, 0x00, 0x60, 0x09, 0xD0, 0x01, 0x00, 0xEE]) [] =
        some (.ok outcome) ∧
      outcome.exitCode = 1 ∧ outcome.picture = some ("last.png", picture) ∧
      picture.pixel? 19 19 = some ⟨0, 255, 0⟩ ∧ picture.pixel? 19 20 = some ⟨128, 128, 128⟩ ∧
      picture.pixel? 19 21 = some ⟨0, 0, 0⟩ := by
  let o : Options :=
    { headless := true, steps := 10, rate := .real 120, scale := 2, scheme := .classic, grid := true,
      screenshot := some "last.png", seed := 0, level := .info, rom := "rom" }
  have hrun : ((create [0xA2, 0x00, 0x60, 0x09, 0xD0, 0x01, 0x00, 0xEE] ⟨0, 0⟩ (.real 120) defaultTickRate
      .info .absent .absent).toOption.map fun m =>
        ((m.made (schedule 2 3)).map Prod.fst, (m.acts (schedule 2 3)).step.result.toExcept)) =
      some ([.ok (some (.setIndex 0x200)), .ok (some (.set 0 9)), .ok (some (.draw 0 0 1))],
        .error (.trouble (.fault .stackUnderflow))) := by decide +kernel
  -- Before the sprite is drawn both cells are dark, and of the sprite the first one is lit.
  have hdraw : ((create [0xA2, 0x00, 0x60, 0x09, 0xD0, 0x01, 0x00, 0xEE] ⟨0, 0⟩ (.real 120) defaultTickRate
      .info .absent .absent).toOption.bind fun m =>
        let p := m.processor.run [.step, .step, .tick]
        let q := p.advance
        p.step.toOption.map fun made => (made.2, [585, 586].map fun cell => (q.screen.lit cell ^^
          Screen.spriteLights q.memory q.index.toNat (1 : Nibble) ((q.register 0).toNat % 64)
            ((q.register 0).toNat % 32) cell))) =
      some (.draw 0 0 1, [true, false]) := by decide +kernel
  obtain ⟨m, hm, hmade⟩ := Option.map_eq_some_iff.mp hrun
  obtain ⟨hanswers, hrefused⟩ := Prod.mk.inj hmade
  rw [hm, Option.bind_some] at hdraw
  obtain ⟨⟨q, i⟩, hq, hmade⟩ := Option.map_eq_some_iff.mp hdraw
  obtain ⟨rfl, hcells⟩ := Prod.mk.inj hmade
  obtain ⟨hlit, hothers⟩ := List.cons.inj hcells
  obtain ⟨hdark, -⟩ := List.cons.inj hothers
  have hnew := eq_ok_of_toOption hm
  have hcompletes : m.Completes (schedule 2 3) := by
    intro x hx
    have hanswer : x.1 ∈ (m.made (schedule 2 3)).map Prod.fst := List.mem_map_of_mem hx
    rw [hanswers] at hanswer
    simp only [List.mem_cons, List.not_mem_nil, or_false] at hanswer
    rcases hanswer with h | h | h <;> exact ⟨_, h⟩
  have hratio : Session.stepsPerTick o.rate = .ok 2 :=
    eq_ok_of_toOption (by decide +kernel : (Session.stepsPerTick (.real 120)).toOption = some 2)
  obtain ⟨-, -, htrouble, -, -, hsession⟩ := runHeadless_keeps_schedule m 2 10
  obtain ⟨hresult, hpaced⟩ := htrouble 3 _ (by decide) hcompletes hrefused
  obtain ⟨complete, hverdict, -, hasked⟩ :=
    hsession (fun _ _ => .ok ()) o _ ⟨0, 0⟩ 0 [] rfl rfl (by decide) hnew hratio
  cases hresult.symm.trans hverdict
  obtain ⟨picture, hshows, hsaved, -⟩ := hasked "last.png" rfl (by decide)
  obtain ⟨outcome, hrun, hcloses⟩ := hsaved rfl
  have hstep := eq_ok_of_toOption hq
  have hlast : (m.runHeadless 2 10).state.processor = q :=
    hpaced.processor.trans (Processor.run_step hstep [])
  obtain ⟨-, -, hdrawn⟩ := Processor.step_eq_ok_iff.mp hstep
  have hpixel : ∀ r c, r < 64 → c < 128 → picture.pixel? r c = some (Picture.colourAt q.screen.lit 2
      ⟨0, 255, 0⟩ ⟨0, 0, 0⟩ (some ⟨128, 128, 128⟩) r c) := by
    rw [← hlast]
    exact hshows.pixel
  have hfirst : q.screen.lit 585 = true := by
    rw [hdrawn, Processor.lit_apply_draw _ _ _ _ (by decide)]
    exact hlit
  have hsecond : q.screen.lit 586 = false := by
    rw [hdrawn, Processor.lit_apply_draw _ _ _ _ (by decide)]
    exact hdark
  have hside : Picture.side 2 = 2 := rfl
  refine ⟨o, m, outcome, picture, hnew, hcompletes, hresult, hpaced, hrun, hcloses.exitCode,
    hcloses.picture, ?_, ?_, ?_⟩
  · rw [hpixel _ _ (by decide) (by decide)]
    simp [Picture.colourAt, hside, hfirst]
  · rw [hpixel _ _ (by decide) (by decide)]
    simp [Picture.colourAt, hside]
  · rw [hpixel _ _ (by decide) (by decide)]
    simp [Picture.colourAt, hside, hsecond]

end Machine

end Chip8
