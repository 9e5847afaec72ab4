import Chip8.Proofs.Machine.Observers

/-!
# A start that runs to the end

A program that fails after some steps brings the loops to an end, or a renderer that fails does so before it.
What is left, what has been logged by then and whom it was told to follow from the steps of the program.

A period of zero is as fast as it can be, but with one nothing is begun at all. And a renderer that fails with an
error of the machine's own kind is taken for the program: its failure is not logged, and the listener hears of it.

* `Processor.FailsAfter`: a processor completes a number of steps, and the next one fails.
* `loopRun_of_failsAfter`, `loopRun_of_lost`: how the loop of a machine leaves off then.
* `Machine.linesOf`: the lines of notices under the threshold of a machine.
* `messagesOf_during`: the lines of completed steps.
* `Machine.StartLeaves`: the one answer to a start.
* `startLeaves_of_shown`, `startLeaves_of_lost`: what a start comes to when no screen is lost, and when one is.
* `start_of_failing_program`: the two together.
* `not_start_of_failing_program`: a start need not run to the end of the program.
-/

namespace Chip8

/-! ## Programs that fail -/

/-- From a processor on a number of steps are completed, and the next one fails. -/
structure Processor.FailsAfter (p : Processor) (n : Nat) (q : Processor) (f : Fault) : Prop where
  run : p.run (List.replicate n .step) = q
  completed : (p.trace (List.replicate n .step)).length = n
  fails : q.step = .error f

/-- A step that gives no instruction has failed. -/
theorem Processor.error_of_map_snd {p : Processor} {f : Fault} (h : p.step.map Prod.snd = .error f) :
    p.step = .error f := by
  cases hstep : p.step with
  | error g =>
    rw [hstep] at h
    exact congrArg Except.error (Except.error.inj h)
  | ok made =>
    rw [hstep] at h
    cases h

section Loops

variable {p q : Processor} {n : Nat} {f : Fault} {lost? : Instruction → Option HostFailure}
  {failure : HostFailure}

/-- After a step that fails no other one is completed. -/
theorem Processor.trace_of_error (h : p.step = .error f) (n : Nat) :
    p.trace (List.replicate n .step) = [] := by
  induction n with
  | zero => rfl
  | succ n ih =>
    have hnone : p.executed .step = [] := by simp only [executed, h]
    have hact : p.act .step = p := by simp only [act, h]
    rw [List.replicate_succ, trace, hnone, hact, ih, List.nil_append]

/-- The first of the steps, and the others. -/
theorem Processor.FailsAfter.step (h : p.FailsAfter (n + 1) q f) :
    ∃ r i, p.step = .ok (r, i) ∧ r.FailsAfter n q f := by
  obtain ⟨hrun, hcompleted, hfails⟩ := h
  cases hstep : p.step with
  | error g =>
    rw [trace_of_error hstep] at hcompleted
    cases hcompleted
  | ok made =>
    obtain ⟨r, i⟩ := made
    rw [List.replicate_succ, run_step hstep] at hrun
    rw [List.replicate_succ, trace_step hstep] at hcompleted
    exact ⟨r, i, rfl, hrun, Nat.succ.inj hcompleted, hfails⟩

/-- Unless a screen is lost the loop ends with the fault. -/
theorem loopRun_of_failsAfter (h : p.FailsAfter n q f)
    (hshown : ∀ x ∈ p.trace (List.replicate n .step), lost? x.instruction = none) :
    LoopRun lost? false p n q (.fault f) := by
  induction n generalizing p with
  | zero =>
    obtain ⟨rfl, -, hfails⟩ := h
    exact .fault hfails
  | succ n ih =>
    obtain ⟨r, i, hstep, hrest⟩ := h.step
    rw [List.replicate_succ, Processor.trace_step hstep] at hshown
    exact .next rfl hstep (hshown _ List.mem_cons_self)
      (ih hrest fun x hx => hshown x (List.mem_cons_of_mem _ hx))

/-- The loop ends at the first step whose screen is lost. -/
theorem loopRun_of_lost {before after : List Executed} {x : Executed} (h : p.FailsAfter n q f)
    (htrace : p.trace (List.replicate n .step) = before ++ x :: after)
    (hshown : ∀ y ∈ before, lost? y.instruction = none) (hlost : lost? x.instruction = some failure) :
    p.trace (List.replicate (before.length + 1) .step) = before ++ [x] ∧
      LoopRun lost? false p (before.length + 1) (p.run (List.replicate (before.length + 1) .step))
        (.lost failure) := by
  induction n generalizing p before with
  | zero => exact absurd htrace.symm (by simp [Processor.trace])
  | succ n ih =>
    obtain ⟨r, i, hstep, hrest⟩ := h.step
    rw [List.replicate_succ, Processor.trace_step hstep] at htrace
    rw [List.replicate_succ, Processor.trace_step hstep, Processor.run_step hstep]
    cases before with
    | nil =>
      obtain ⟨rfl, -⟩ := List.cons.inj htrace
      exact ⟨rfl, .lost hstep hlost⟩
    | cons y before =>
      obtain ⟨rfl, hothers⟩ := List.cons.inj htrace
      obtain ⟨hbegun, hloop⟩ := ih hrest hothers fun y hy => hshown y (List.mem_cons_of_mem _ hy)
      exact ⟨congrArg (_ :: ·) hbegun, .next rfl hstep (hshown _ List.mem_cons_self) hloop⟩

end Loops

/-! ## Lines of the log -/

/-- The notice of a completed step. -/
def Executed.notice (x : Executed) : Notice := .executed x.place x.instruction

/-- What a listener that fails leaves in the log. -/
def Listener.complaints : Listener → List Notice
  | .failing failure => [.listenerFailed failure]
  | _ => []

theorem messagesOf_append (events more : List Event) :
    Session.messagesOf (events ++ more) = Session.messagesOf events ++ Session.messagesOf more :=
  List.filterMap_append

namespace Machine

variable {m : Machine} {p q : Processor} {n : Nat} {f : Fault} {ending : LoopEnd}

/-- The lines of notices, as far as the threshold lets them through. -/
def linesOf (m : Machine) (notices : List Notice) : List Message :=
  (notices.map Notice.message).filter fun line => m.settings.threshold.shows line.level

theorem linesOf_append (m : Machine) (notices more : List Notice) :
    m.linesOf (notices ++ more) = m.linesOf notices ++ m.linesOf more := by
  rw [linesOf, List.map_append, List.filter_append]
  rfl

/-- The line of a notice is what the machine says. -/
theorem linesOf_cons (m : Machine) (notice : Notice) (rest : List Notice) :
    m.linesOf (notice :: rest) = Session.messagesOf (m.say notice) ++ m.linesOf rest := by
  have hlevel : notice.message.level = notice.level := rfl
  rw [linesOf, List.map_cons, List.filter_cons, hlevel, say]
  cases m.settings.threshold.shows notice.level <;> rfl

theorem linesOf_singleton (m : Machine) (notice : Notice) :
    m.linesOf [notice] = Session.messagesOf (m.say notice) := by
  rw [linesOf_cons]
  exact List.append_nil _

theorem messagesOf_kept (m : Machine) (i : Instruction) : Session.messagesOf (m.kept i) = [] := by
  refine List.filterMap_eq_nil_iff.mpr fun event hevent => ?_
  rw [mem_kept hevent]

theorem messagesOf_tell (m : Machine) (trouble : Trouble) :
    Session.messagesOf (m.tell trouble) = m.linesOf m.listener.complaints := by
  unfold tell
  cases m.listener with
  | failing failure => exact (m.linesOf_singleton (.listenerFailed failure)).symm
  | _ => rfl

theorem reportsOf_tell (m : Machine) (trouble : Trouble) :
    reportsOf (m.tell trouble) = if m.listener = .absent then [] else [trouble] := by
  unfold tell
  cases m.listener with
  | failing failure => exact congrArg (trouble :: ·) (m.reportsOf_say (.listenerFailed failure))
  | _ => rfl

/-- Each completed step leaves one line. -/
theorem messagesOf_during (m : Machine) (n : Nat) :
    Session.messagesOf (m.during n) =
      m.linesOf ((m.processor.trace (List.replicate n .step)).map Executed.notice) := by
  induction n generalizing m with
  | zero => rfl
  | succ n ih =>
    cases hstep : m.processor.step with
    | error f =>
      have hnone : m.during (n + 1) = [] := by simp only [during, hstep]
      rw [hnone, Processor.trace_of_error hstep]
      rfl
    | ok made =>
      obtain ⟨q, i⟩ := made
      rw [during_succ hstep, messagesOf_append, messagesOf_append, messagesOf_kept, List.append_nil, ih,
        List.replicate_succ, Processor.trace_step hstep, List.map_cons, linesOf_cons]
      rfl

/-! ## Starts -/

/-- A start that begins the loops has one answer, which a run of the loop settles. -/
theorem answers_start_iff (hfault : m.fault = none) (hrest : m.running = false)
    (hrates : m.settings.zeroPeriod = false)
    (hloop : LoopRun m.lost? m.isSlow m.begun.processor n q ending) (turn : Turn Machine Answer) :
    m.Answers .start turn ↔
      turn = ⟨m.left n q ending,
        m.say (.starting (1.0 / m.settings.stepPeriod) (1.0 / m.settings.tickPeriod)) ++
          (m.begun.during n ++ m.parting q ending), .ok none⟩ := by
  have hform : ∀ turn, m.Answers .start turn → turn = ⟨m.left n q ending,
      m.say (.starting (1.0 / m.settings.stepPeriod) (1.0 / m.settings.tickPeriod)) ++
        (m.begun.during n ++ m.parting q ending), .ok none⟩ := by
    intro turn hanswer
    obtain ⟨n', q', ending', hloop', hturn⟩ := turn_of_start hanswer hfault hrest hrates
    obtain ⟨rfl, rfl, rfl⟩ := hloop.unique hloop'
    exact hturn
  constructor
  · exact hform turn
  · rintro rfl
    obtain ⟨events, hanswer⟩ := exists_answers_of_exit (.start hfault hrest hrates hloop)
    rwa [hform _ hanswer] at hanswer

/-- With a period of zero the one answer is a refusal. -/
theorem answers_start_iff_of_zeroPeriod (hfault : m.fault = none) (hrest : m.running = false)
    (hzero : m.settings.zeroPeriod = true) (turn : Turn Machine Answer) :
    m.Answers .start turn ↔ turn = ⟨m, [], .error .zeroPeriod⟩ := by
  constructor
  · exact fun hanswer => turn_of_zeroPeriod hanswer hfault hrest hzero
  · rintro rfl
    obtain ⟨events, hanswer⟩ := exists_answers_of_exit (.zeroPeriod hfault hrest hzero)
    rwa [turn_of_zeroPeriod hanswer hfault hrest hzero] at hanswer

/-- A start has one answer only. It leaves the last machine, these notices are lines of the log by then if
they are severe enough, and the listener has been told of these errors. -/
structure StartLeaves (m last : Machine) (events : List Event) (notices : List Notice)
    (told : List Trouble) : Prop where
  answer : ∀ turn, m.Answers .start turn ↔ turn = ⟨last, events, .ok none⟩
  logged : Session.messagesOf events = m.linesOf notices
  told : reportsOf events = told

theorem startLeaves_of_loopRun (hfault : m.fault = none) (hrest : m.running = false)
    (hrates : m.settings.zeroPeriod = false)
    (hloop : LoopRun m.lost? m.isSlow m.begun.processor n q ending) {notices : List Notice}
    {told : List Trouble} (hlogged : Session.messagesOf (m.parting q ending) = m.linesOf notices)
    (htold : reportsOf (m.parting q ending) = told) :
    m.StartLeaves (m.left n q ending)
      (m.say (.starting (1.0 / m.settings.stepPeriod) (1.0 / m.settings.tickPeriod)) ++
        (m.begun.during n ++ m.parting q ending))
      (.starting (1.0 / m.settings.stepPeriod) (1.0 / m.settings.tickPeriod) ::
        (m.begun.processor.trace (List.replicate n .step)).map Executed.notice ++ notices) told := by
  have hlines : ∀ notices, m.begun.linesOf notices = m.linesOf notices := by
    rw [begun_eq]
    exact fun notices => rfl
  refine ⟨answers_start_iff hfault hrest hrates hloop, ?_, ?_⟩
  · rw [messagesOf_append, messagesOf_append, messagesOf_during, hlogged, hlines, List.cons_append,
      linesOf_cons, linesOf_append]
  · rw [reportsOf_append, reportsOf_append, reportsOf_say, reportsOf_during, htold]
    rfl

theorem messagesOf_parting_fault (m : Machine) (q : Processor) (f : Fault) :
    Session.messagesOf (m.parting q (.fault f)) =
      m.linesOf ([.halted q.counter f, .loopEnded] ++ m.listener.complaints) := by
  rw [parting, messagesOf_append, messagesOf_append, messagesOf_tell, linesOf_append, linesOf_cons,
    linesOf_singleton]

theorem reportsOf_parting_fault (m : Machine) (q : Processor) (f : Fault) :
    reportsOf (m.parting q (.fault f)) = if m.listener = .absent then [] else [.fault f] := by
  rw [parting, reportsOf_append, reportsOf_append, reportsOf_say, reportsOf_say, reportsOf_tell]
  rfl

/-- A failure of the renderer is logged, and the listener does not hear of it. -/
theorem loss_of_other {failure : HostFailure} (hother : failure.own = false) :
    Session.messagesOf (m.loss failure) = m.linesOf [.loopLost failure] ∧ reportsOf (m.loss failure) = [] := by
  rw [loss, hother]
  exact ⟨(m.linesOf_singleton (.loopLost failure)).symm, m.reportsOf_say (.loopLost failure)⟩

/-- An error of the machine's own kind is told to the listener instead. -/
theorem loss_of_own {failure : HostFailure} (hown : failure.own = true) :
    Session.messagesOf (m.loss failure) = m.linesOf (.loopEnded :: m.listener.complaints) ∧
      reportsOf (m.loss failure) = if m.listener = .absent then [] else [.raised failure] := by
  rw [loss, if_pos hown, messagesOf_append, messagesOf_tell, linesOf_cons, reportsOf_append, reportsOf_say,
    reportsOf_tell]
  exact ⟨rfl, rfl⟩

/-- When a screen is lost there is no fault. -/
theorem left_of_lost (hfault : m.fault = none) (failure : HostFailure) :
    m.left n q (.lost failure) =
      { m with processor := q, count := m.count + n, fault := none, started := false } := by
  rw [← hfault]
  rfl

theorem lost?_of_not_drawn {x : Executed} (h : x.drawn = false) : m.lost? x.instruction = none := by
  rw [lost?, ← x.drawn_eq, h]
  rfl

/-- The timers tick before a fast loop begins, since nothing is still at work of a loop before. -/
theorem processor_begun_of_fast (hfast : m.isSlow = false) (hrest : m.running = false) :
    m.begun.processor = m.processor.tick := by
  have hwaits : m.stepper.breaksDown = false := by
    have hslow : Pacing.isSlow m.stepper.period = false := hfast
    rw [Worker.breaksDown, hslow, Bool.false_and]
  rw [begun_of_not_started (started_of_waits hwaits hrest)]
  rfl

section Programs

variable (hfault : m.fault = none) (hrest : m.running = false) (hfast : m.isSlow = false)
  (hrates : m.settings.zeroPeriod = false) (hends : m.processor.tick.FailsAfter n q f)

include hfault hrest hfast hrates hends

theorem startLeaves_of_shown
    (hshown : ∀ x ∈ m.processor.tick.trace (List.replicate n .step), m.lost? x.instruction = none) :
    ∃ events,
      m.StartLeaves
        { m with processor := q, count := m.count + n, fault := some f, started := false } events
        (.starting (1.0 / m.settings.stepPeriod) (1.0 / m.settings.tickPeriod) ::
          (m.processor.tick.trace (List.replicate n .step)).map Executed.notice ++
            [.halted q.counter f, .loopEnded] ++ m.listener.complaints)
        (if m.listener = .absent then [] else [.fault f]) ∧
      m.tell (.fault f) <:+ events := by
  have hticked := processor_begun_of_fast hfast hrest
  have hloop := loopRun_of_failsAfter hends hshown
  rw [← hfast, ← hticked] at hloop
  have hleaves := startLeaves_of_loopRun hfault hrest hrates hloop (m.messagesOf_parting_fault q f)
    (m.reportsOf_parting_fault q f)
  rw [← List.append_assoc (_ :: _), hticked] at hleaves
  refine ⟨_, hleaves, ?_⟩
  -- the telling is the end of the parting, which comes after the steps
  have hparting : m.tell (.fault f) <:+ m.parting q (.fault f) := List.suffix_append _ _
  exact hparting.trans ((List.suffix_append _ _).trans (List.suffix_append _ _))

theorem startLeaves_of_lost {before after : List Executed} {x : Executed} {failure : HostFailure}
    {notices : List Notice} {told : List Trouble}
    (htrace : m.processor.tick.trace (List.replicate n .step) = before ++ x :: after)
    (hshown : ∀ y ∈ before, m.lost? y.instruction = none) (hlost : m.lost? x.instruction = some failure)
    (hloss : Session.messagesOf (m.loss failure) = m.linesOf notices ∧ reportsOf (m.loss failure) = told) :
    ∃ events,
      m.StartLeaves
        { m with
          processor := m.processor.tick.run (List.replicate (before.length + 1) .step)
          count := m.count + (before.length + 1), fault := none, started := false } events
        (.starting (1.0 / m.settings.stepPeriod) (1.0 / m.settings.tickPeriod) ::
          (before ++ [x]).map Executed.notice ++ notices) told := by
  have hticked := processor_begun_of_fast hfast hrest
  obtain ⟨hbegun, hloop⟩ := loopRun_of_lost hends htrace hshown hlost
  rw [← hfast, ← hticked] at hloop
  have hleaves := startLeaves_of_loopRun hfault hrest hrates hloop hloss.1 hloss.2
  rw [hticked, hbegun, left_of_lost hfault] at hleaves
  exact ⟨_, hleaves⟩

end Programs

/-- **A start runs to the end of the program.** Let a machine at rest that is not halted be started, with a
loop that does not wait, when its program, after one tick of the timers, completes `n` steps and then
fails. With a period of zero the start is refused, and nothing happens at all. Otherwise, if no screen is
lost, the machine has made these steps and is halted by the fault, the log has the start, the steps, the
place of the fault and the end of the loop, and the listener is told of the fault once; if the listener
fails, there is one more line, and nothing else is different. If the renderer fails and one of the steps can
be seen on the screen, the loop ends right after the first such step, without a fault. Then the failure is the
last line, and the listener is not told; but when the error is of the machine's own kind, the last line about
the loop is the one that it ended, and the listener is told of the error. -/
theorem start_of_failing_program (m : Machine) (hfault : m.fault = none) (hrest : m.running = false)
    (hfast : m.isSlow = false) (hends : m.processor.tick.FailsAfter n q f) :
    let trace := m.processor.tick.trace (List.replicate n .step)
    let starting := Notice.starting (1.0 / m.settings.stepPeriod) (1.0 / m.settings.tickPeriod)
    (m.settings.zeroPeriod = true →
      ∀ turn, m.Answers .start turn ↔ turn = ⟨m, [], .error .zeroPeriod⟩) ∧
    (m.settings.zeroPeriod = false →
      (m.renderer.failure? = none ∨ (∀ x ∈ trace, x.drawn = false) → ∃ events,
        m.StartLeaves
          { m with processor := q, count := m.count + n, fault := some f, started := false } events
          (starting :: trace.map Executed.notice ++ [.halted q.counter f, .loopEnded] ++
            m.listener.complaints)
          (if m.listener = .absent then [] else [.fault f]) ∧
        m.tell (.fault f) <:+ events) ∧
      ∀ failure, m.renderer = .failing failure → (∃ x ∈ trace, x.drawn = true) →
        ∃ before x after last, trace = before ++ x :: after ∧ (∀ y ∈ before, y.drawn = false) ∧
          x.drawn = true ∧
          last = { m with
            processor := m.processor.tick.run (List.replicate (before.length + 1) .step)
            count := m.count + (before.length + 1), fault := none, started := false } ∧
          (failure.own = false → ∃ events,
            m.StartLeaves last events
              (starting :: (before ++ [x]).map Executed.notice ++ [.loopLost failure]) []) ∧
          (failure.own = true → ∃ events,
            m.StartLeaves last events
              (starting :: (before ++ [x]).map Executed.notice ++ .loopEnded :: m.listener.complaints)
              (if m.listener = .absent then [] else [.raised failure]))) := by
  intro trace starting
  refine ⟨answers_start_iff_of_zeroPeriod hfault hrest, fun hrates => ⟨?_, ?_⟩⟩
  · intro hshown
    refine startLeaves_of_shown hfault hrest hfast hrates hends fun x hx => ?_
    rcases hshown with hquiet | hblind
    · rw [lost?, hquiet, ite_self]
    · exact lost?_of_not_drawn (hblind x hx)
  · intro failure hfails hdrawn
    obtain ⟨x, hfirst⟩ := Option.isSome_iff_exists.mp (List.find?_isSome.mpr hdrawn)
    obtain ⟨hx, before, after, htrace, hquiet⟩ := List.find?_eq_some_iff_append.mp hfirst
    have hbefore : ∀ y ∈ before, y.drawn = false := by simpa using hquiet
    have hlost : m.lost? x.instruction = some failure := by
      rw [lost?, ← x.drawn_eq, hx, hfails]
      rfl
    have hshown : ∀ y ∈ before, m.lost? y.instruction = none := fun y hy =>
      lost?_of_not_drawn (hbefore y hy)
    exact ⟨before, x, after, _, htrace, hbefore, hx, rfl,
      fun hother =>
        startLeaves_of_lost hfault hrest hfast hrates hends htrace hshown hlost (loss_of_other hother),
      fun hown => startLeaves_of_lost hfault hrest hfast hrates hends htrace hshown hlost (loss_of_own hown)⟩

/-- A sprite is drawn before the program fails. The listener fails to hear of it; and when the renderer fails
to show the sprite, nobody is told. -/
theorem start_of_failing_program_of_sprite :
    ∃ (m last : Machine) (q : Processor) (events lostEvents : List Event),
      create [0x60, 0x05, 0xD0, 0x05, 0x00, 0xEE] ⟨0, 7⟩ (.whole 1000) (.whole 60) .info .faithful
        (.failing ⟨"ValueError", "no", false⟩) = .ok m ∧
      m.isSlow = false ∧ m.processor.tick.FailsAfter 2 q .stackUnderflow ∧
      m.Answers .start
        ⟨{ m with processor := q, count := m.count + 2, fault := some .stackUnderflow, started := false },
          events, .ok none⟩ ∧
      (Session.messagesOf events).map Message.text =
        ["Starting at 1000 steps/s, timers at 60 Hz", "Halted at 0x204: Return with empty call stack",
          "Step loop stopped", "on_error callback raised ValueError: no"] ∧
      reportsOf events = [.fault .stackUnderflow] ∧
      (m.shownTo (.failing ⟨"OSError", "gone", false⟩)).Answers .start ⟨last, lostEvents, .ok none⟩ ∧
      last.fault = none ∧ reportsOf lostEvents = [] := by
  have hrun : ((create [0x60, 0x05, 0xD0, 0x05, 0x00, 0xEE] ⟨0, 7⟩ (.whole 1000) (.whole 60) .info .faithful
      (.failing ⟨"ValueError", "no", false⟩)).toOption.map fun m =>
        let p := m.processor.tick
        let trace := p.trace (List.replicate 2 .step)
        let q := p.run (List.replicate 2 .step)
        ((m.isSlow, m.settings.zeroPeriod), trace.map Executed.drawn, q.step.map Prod.snd,
          (m.linesOf (.starting (1.0 / m.settings.stepPeriod) (1.0 / m.settings.tickPeriod) ::
            trace.map Executed.notice ++ [.halted q.counter .stackUnderflow, .loopEnded] ++
              m.listener.complaints)).map Message.text)) =
      some ((false, false), [false, true], .error .stackUnderflow,
        ["Starting at 1000 steps/s, timers at 60 Hz", "Halted at 0x204: Return with empty call stack",
          "Step loop stopped", "on_error callback raised ValueError: no"]) := by decide +kernel
  obtain ⟨m, hm, hmade⟩ := Option.map_eq_some_iff.mp hrun
  obtain ⟨hpace, hmade⟩ := Prod.mk.inj hmade
  obtain ⟨hfast, hrates⟩ := Prod.mk.inj hpace
  obtain ⟨hdrawn, hmade⟩ := Prod.mk.inj hmade
  obtain ⟨hstep, htexts⟩ := Prod.mk.inj hmade
  have hnew := eq_ok_of_toOption hm
  obtain ⟨hfault, hrest, hrenderer, hlistener⟩ : m.fault = none ∧ m.running = false ∧
      m.renderer.failure? = none ∧ m.listener = .failing ⟨"ValueError", "no", false⟩ := by
    obtain ⟨_, _, _, -, -, -, rfl⟩ := create_eq_ok_iff.mp hnew
    exact ⟨rfl, rfl, rfl, rfl⟩
  have hends : m.processor.tick.FailsAfter 2 (m.processor.tick.run (List.replicate 2 .step))
      .stackUnderflow := by
    exact ⟨rfl, (List.length_map _).symm.trans (congrArg List.length hdrawn),
      Processor.error_of_map_snd hstep⟩
  obtain ⟨-, hplain⟩ := start_of_failing_program m hfault hrest hfast hends
  obtain ⟨events, hleaves, -⟩ := (hplain hrates).1 (.inl hrenderer)
  obtain ⟨-, hlost⟩ :=
    start_of_failing_program (m.shownTo (.failing ⟨"OSError", "gone", false⟩)) hfault hrest hfast hends
  have hseen : ∃ x ∈ m.processor.tick.trace (List.replicate 2 .step), x.drawn = true := by
    rw [← List.mem_map, hdrawn]
    simp
  obtain ⟨_, _, _, _, -, -, -, rfl, hother, -⟩ := (hlost hrates).2 _ rfl hseen
  obtain ⟨lostEvents, hlostLeaves⟩ := hother rfl
  refine ⟨m, _, _, events, lostEvents, hnew, hfast, hends, (hleaves.answer _).mpr rfl, ?_, ?_,
    (hlostLeaves.answer _).mpr rfl, rfl, hlostLeaves.told⟩
  · rw [hleaves.logged]
    exact htexts
  · rw [hleaves.told, hlistener]
    rfl

/-- It is not so that a start makes the steps of the program, whatever the rate: with an infinite one it makes
none. -/
theorem not_start_of_failing_program :
    ¬ ∀ (rom : Rom) (random : RandomKey) (steps ticks : Rate) (threshold : Level) (listener : Listener)
      (m : Machine) (n : Nat) (q : Processor) (f : Fault) (turn : Turn Machine Answer),
      create rom random steps ticks threshold .absent listener = .ok m → m.isSlow = false →
      m.processor.tick.FailsAfter n q f → m.Answers .start turn →
      turn.state.processor = q ∧ turn.state.count = m.count + n ∧ turn.state.fault = some f := by
  intro hclaim
  have hrun : ((create [0x60, 0x05, 0x00, 0xEE] ⟨0, 0⟩ (.real (1.0 / 0.0)) (.whole 60) .info .absent
      .absent).toOption.map fun m =>
        let p := m.processor.tick
        (m.isSlow, m.settings.zeroPeriod, (p.trace [.step]).length, (p.run [.step]).step.map Prod.snd)) =
      some (false, true, 1, .error .stackUnderflow) := by decide +kernel
  obtain ⟨m, hm, hmade⟩ := Option.map_eq_some_iff.mp hrun
  obtain ⟨hfast, hmade⟩ := Prod.mk.inj hmade
  obtain ⟨hzero, hmade⟩ := Prod.mk.inj hmade
  obtain ⟨hcompleted, hstep⟩ := Prod.mk.inj hmade
  have hnew := eq_ok_of_toOption hm
  obtain ⟨hfault, hrest⟩ := at_rest_of_create hnew
  have hends : m.processor.tick.FailsAfter 1 (m.processor.tick.run [.step]) .stackUnderflow :=
    ⟨rfl, hcompleted, Processor.error_of_map_snd hstep⟩
  have hanswer := (answers_start_iff_of_zeroPeriod hfault hrest hzero _).mpr rfl
  obtain ⟨-, -, hhalted⟩ := hclaim _ _ _ _ _ _ m 1 _ _ _ hnew hfast hends hanswer
  exact absurd (hfault.symm.trans hhalted) nofun

end Machine

end Chip8
