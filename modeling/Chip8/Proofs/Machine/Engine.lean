import Chip8.Proofs.Keypad
import Chip8.Proofs.Machine.History
import Chip8.Proofs.Processor.Run
import Mathlib.Data.List.Forall2

/-!
# The engine of a machine

A machine carries a processor and counts its steps. Whatever it is asked, these two only go through a few
pure functions, and a request that is refused does nothing to them.

A start makes the timers tick and then the steps of the loop, with two exceptions. With an infinite rate it is
refused, and a loop that breaks down at its first wait leaves a ticker behind, which does not tick again when
the steps are started anew.

* `Engine`, `Deed`, `Engine.do?`: the processor with the count, and what can be done to it.
* `Machine.Refuses`: the reasons for which a request is refused.
* `Machine.Contributes`: the deeds that a request contributes.
* `Machine.Moves`: a key of the keypad is moved, and nothing else.
* `engine_of_history`: the engine after a history.
* `not_tick_and_steps_of_start`: not every start makes the timers tick and then the steps of the loop.
-/

namespace Chip8

/-- A processor and the number of its steps. -/
structure Engine where
  processor : Processor
  count : Nat

/-- What can be done to an engine. -/
inductive Deed where
  | step
  | tick
  | press (key : Key)
  | release (key : Key)
  | boot (rom : Rom)

namespace Engine

variable {random : RandomKey}

/-- The engine after a deed, if it can be done: a step must not fail, and a program must fit. -/
def do? (random : RandomKey) (e : Engine) : Deed → Option Engine
  | .step =>
    match e.processor.step with
    | .ok (next, _) => some ⟨next, e.count + 1⟩
    | .error _ => none
  | .tick => some ⟨e.processor.tick, e.count⟩
  | .press key => some ⟨e.processor.press key, e.count⟩
  | .release key => some ⟨e.processor.release key, e.count⟩
  | .boot rom => (Processor.boot? random rom).map fun next => ⟨next, 0⟩

/-- The engine after deeds that are done in a row. -/
def doAll? (random : RandomKey) (e : Engine) (deeds : List Deed) : Option Engine :=
  deeds.foldlM (do? random) e

theorem doAll?_cons (random : RandomKey) (e : Engine) (deed : Deed) (rest : List Deed) :
    e.doAll? random (deed :: rest) = (e.do? random deed).bind fun next => next.doAll? random rest :=
  List.foldlM_cons

theorem doAll?_append (random : RandomKey) (e : Engine) (first second : List Deed) :
    e.doAll? random (first ++ second) =
      (e.doAll? random first).bind fun between => between.doAll? random second :=
  List.foldlM_append

theorem doAll?_one (random : RandomKey) (e : Engine) (deed : Deed) :
    e.doAll? random [deed] = e.do? random deed := by
  rw [doAll?_cons]
  cases e.do? random deed <;> rfl

theorem do?_step {p q : Processor} {i : Instruction} (hstep : p.step = .ok (q, i)) (count : Nat) :
    do? random ⟨p, count⟩ .step = some ⟨q, count + 1⟩ := by
  simp only [do?, hstep]

theorem do?_boot {e : Engine} {p : Processor} {rom : Rom} (hboot : Processor.boot? random rom = some p) :
    e.do? random (.boot rom) = some ⟨p, 0⟩ := by
  rw [do?, hboot]
  rfl

/-- The steps of a loop, one after the other. -/
theorem doAll?_of_loopRun {lost? : Instruction → Option HostFailure} {slow : Bool} {p q : Processor}
    {n : Nat} {ending : LoopEnd} (h : LoopRun lost? slow p n q ending) (count : Nat) :
    doAll? random ⟨p, count⟩ (List.replicate n .step) = some ⟨q, count + n⟩ := by
  induction h generalizing count with
  | fault hstep => rfl
  | lost hstep hlost =>
    rw [List.replicate_one, doAll?_one]
    exact do?_step hstep count
  | wait hslow hstep hshown =>
    rw [List.replicate_one, doAll?_one]
    exact do?_step hstep count
  | @next p q i n r ending hslow hstep hshown hrest ih =>
    have hcount : count + 1 + n = count + (n + 1) := by omega
    rw [List.replicate_succ, doAll?_cons, do?_step hstep count, Option.bind_some, ih (count + 1), hcount]

end Engine

namespace Machine

variable {m last : Machine} {request : Request} {answer : Answer} {history : List Exchange}

/-- The processor of a machine, and the number of its steps. -/
def engine (m : Machine) : Engine := ⟨m.processor, m.count⟩

/-- Why a request is refused. -/
inductive Refuses (m : Machine) : Request → Refusal → Prop where
  | fault {f} (hfault : m.fault = none) (hstep : m.processor.step = .error f) :
    Refuses m .step (.trouble (.fault f))
  | halted {cause} (hfault : m.fault = some cause) : Refuses m .step (.trouble (.halted cause))
  | startHalted {cause} (hfault : m.fault = some cause) :
    Refuses m .start (.trouble (.halted cause))
  | zeroPeriod (hfault : m.fault = none) (hrest : m.running = false)
    (hzero : m.settings.zeroPeriod = true) : Refuses m .start .zeroPeriod
  | press {number} (h : ¬ (0 ≤ number ∧ number ≤ 15)) : Refuses m (.press number) (.noSuchKey number)
  | release {number} (h : ¬ (0 ≤ number ∧ number ≤ 15)) :
    Refuses m (.release number) (.noSuchKey number)
  | reset {rom : Rom} (h : 3584 < rom.length) : Refuses m (.reset rom) (.romTooLarge rom.length)

/-- What is done when the loops begin, before their steps: a tick, unless the ticker is still at work. -/
def firstDeeds (m : Machine) : List Deed := if m.ticker.actsAtStart then [.tick] else []

/-- The deeds that a request contributes, by its answer. When the renderer fails, this is the same as when it
does not. -/
inductive Contributes (m : Machine) : Request → Answer → List Deed → Prop where
  | refused {request refusal} (h : m.Refuses request refusal) :
    Contributes m request (.error refusal) []
  | step {q i} (hfault : m.fault = none) (hstep : m.processor.step = .ok (q, i)) :
    Contributes m .step (.ok (some i)) [.step]
  | stepUnseen {q i failure} (hfault : m.fault = none) (hstep : m.processor.step = .ok (q, i))
    (hlost : m.lost? i = some failure) : Contributes m .step (.error (.unseen failure)) [.step]
  | tick : Contributes m .tick (.ok none) [.tick]
  | press (key : Key) : Contributes m (.press key) (.ok none) [.press key]
  | release (key : Key) : Contributes m (.release key) (.ok none) [.release key]
  | reset {rom : Rom} (h : rom.length ≤ 3584) : Contributes m (.reset rom) (.ok none) [.boot rom]
  | resetUnseen {rom : Rom} {failure} (h : rom.length ≤ 3584)
    (hlost : m.renderer.failure? = some failure) :
    Contributes m (.reset rom) (.error (.unseen failure)) [.boot rom]
  | start {made q ending} (hfault : m.fault = none) (hrest : m.running = false)
    (hrates : m.settings.zeroPeriod = false)
    (hloop : LoopRun m.lost? m.isSlow m.begun.processor made q ending) :
    Contributes m .start (.ok none) (m.firstDeeds ++ List.replicate made .step)
  | startAgain (hfault : m.fault = none) (hrunning : m.running = true) :
    Contributes m .start (.ok none) []
  | stop : Contributes m .stop (.ok none) []

/-! ## One request -/

/-- The loop begins with the processor after the first deeds. -/
theorem doAll?_firstDeeds (m : Machine) (random : RandomKey) :
    m.engine.doAll? random m.firstDeeds = some ⟨m.begun.processor, m.count⟩ := by
  rw [processor_begun, firstDeeds]
  split_ifs <;> rfl

theorem engine_left (m : Machine) (n : Nat) (q : Processor) (ending : LoopEnd) :
    (m.left n q ending).engine = ⟨q, m.count + n⟩ := by
  rw [engine, left_processor, left_count]

/-- What a request does to the engine is what it contributes. -/
theorem Exit.contributes (h : m.Exit request last answer) :
    ∃ deeds, m.Contributes request answer deeds ∧
      m.engine.doAll? m.settings.random deeds = some last.engine := by
  cases h with
  | done hfault hstep hshown =>
    refine ⟨[.step], .step hfault hstep, ?_⟩
    rw [Engine.doAll?_one]
    exact Engine.do?_step hstep m.count
  | unseen hfault hstep hlost =>
    refine ⟨[.step], .stepUnseen hfault hstep hlost, ?_⟩
    rw [Engine.doAll?_one]
    exact Engine.do?_step hstep m.count
  | faulted hfault hstep => exact ⟨[], .refused (.fault hfault hstep), rfl⟩
  | halted hfault => exact ⟨[], .refused (.halted hfault), rfl⟩
  | tick => exact ⟨[.tick], .tick, rfl⟩
  | @press number key hkey =>
    obtain rfl := Key.ofInt?_eq_some_iff.mp hkey
    exact ⟨[.press key], .press key, rfl⟩
  | pressNoKey hkey => exact ⟨[], .refused (.press (Key.ofInt?_eq_none_iff.mp hkey)), rfl⟩
  | @release number key hkey =>
    obtain rfl := Key.ofInt?_eq_some_iff.mp hkey
    exact ⟨[.release key], .release key, rfl⟩
  | releaseNoKey hkey => exact ⟨[], .refused (.release (Key.ofInt?_eq_none_iff.mp hkey)), rfl⟩
  | @reset rom p hboot hshown =>
    refine ⟨[.boot rom], .reset (Processor.fits_of_boot? hboot), ?_⟩
    rw [Engine.doAll?_one]
    exact Engine.do?_boot hboot
  | @resetUnseen rom p failure hboot hlost =>
    refine ⟨[.boot rom], .resetUnseen (Processor.fits_of_boot? hboot) hlost, ?_⟩
    rw [Engine.doAll?_one]
    exact Engine.do?_boot hboot
  | romTooLarge hboot => exact ⟨[], .refused (.reset (Processor.boot?_eq_none_iff.mp hboot)), rfl⟩
  | startHalted hfault => exact ⟨[], .refused (.startHalted hfault), rfl⟩
  | startAgain hfault hrunning => exact ⟨[], .startAgain hfault hrunning, rfl⟩
  | zeroPeriod hfault hrest hzero => exact ⟨[], .refused (.zeroPeriod hfault hrest hzero), rfl⟩
  | @start n q ending hfault hrest hrates hloop =>
    refine ⟨m.firstDeeds ++ List.replicate n .step, .start hfault hrest hrates hloop, ?_⟩
    rw [Engine.doAll?_append, doAll?_firstDeeds, Option.bind_some, engine_left]
    exact Engine.doAll?_of_loopRun hloop m.count
  | stop => exact ⟨[], .stop, rfl⟩

/-- A refused request does nothing to the engine. -/
theorem Exit.engine_of_refused {refusal : Refusal} (h : m.Exit request last (.error refusal))
    (hseen : ∀ failure, refusal ≠ .unseen failure) : last.engine = m.engine := by
  cases h with
  | unseen hfault hstep hlost => exact absurd rfl (hseen _)
  | resetUnseen hboot hlost => exact absurd rfl (hseen _)
  | _ => rfl

/-- When the renderer fails, the request has been carried out. -/
theorem Exit.engine_of_unseen {failure : HostFailure}
    (h : m.Exit request last (.error (.unseen failure))) :
    (request = .step ∧ ∃ q i, m.processor.step = .ok (q, i) ∧ last.engine = ⟨q, m.count + 1⟩) ∨
    ∃ rom p, request = .reset rom ∧ Processor.boot? m.settings.random rom = some p ∧
      last.engine = ⟨p, 0⟩ := by
  cases h with
  | @unseen q i _ hfault hstep hlost => exact Or.inl ⟨rfl, q, i, hstep, rfl⟩
  | @resetUnseen rom p _ hboot hlost => exact Or.inr ⟨rom, p, rfl, hboot, rfl⟩

/-- One key of the keypad is down or up afterwards, and nothing else is changed. -/
structure Moves (m : Machine) (key : Key) (down : Bool) (last : Machine) : Prop where
  moved : ∀ other, last.processor.keypad.holds other =
    if other = key then down else m.processor.keypad.holds other
  others : last = { m with processor := { m.processor with keypad := last.processor.keypad } }

theorem moves_put (m : Machine) (key : Key) (down : Bool) :
    m.Moves key down { m with processor := { m.processor with keypad := m.processor.keypad.put key down } } where
  moved other := by
    dsimp only
    rw [Keypad.holds_put]
    simp only [eq_comm]
  others := rfl

/-- To press a key moves it down. -/
theorem Exit.moves_of_press {key : Key} (h : m.Exit (.press key) last answer) : m.Moves key true last := by
  cases h with
  | press hkey =>
    obtain rfl := Fin.ext (Int.ofNat.inj (Key.ofInt?_eq_some_iff.mp hkey))
    exact m.moves_put _ true
  | pressNoKey hkey =>
    have hlt := key.isLt
    exact absurd ⟨by omega, by omega⟩ (Key.ofInt?_eq_none_iff.mp hkey)

/-- To release a key moves it up. -/
theorem Exit.moves_of_release {key : Key} (h : m.Exit (.release key) last answer) :
    m.Moves key false last := by
  cases h with
  | release hkey =>
    obtain rfl := Fin.ext (Int.ofNat.inj (Key.ofInt?_eq_some_iff.mp hkey))
    exact m.moves_put _ false
  | releaseNoKey hkey =>
    have hlt := key.isLt
    exact absurd ⟨by omega, by omega⟩ (Key.ofInt?_eq_none_iff.mp hkey)

/-- A start of a machine at rest that is not halted makes a tick and the steps of its loop, if both rates are
finite and the loop does not break down. -/
theorem Exit.engine_of_start (h : m.Exit .start last answer) (hfault : m.fault = none)
    (hrest : m.running = false) (hrates : m.settings.zeroPeriod = false)
    (hwaits : m.stepper.breaksDown = false) :
    ∃ made q ending, LoopRun m.lost? m.isSlow m.processor.tick made q ending ∧
      last.engine = ⟨q, m.count + made⟩ := by
  have hstarted := started_of_waits hwaits hrest
  cases h with
  | startHalted hcause => exact absurd (hfault.symm.trans hcause) nofun
  | startAgain _ hrunning => exact absurd (hrest.symm.trans hrunning) nofun
  | zeroPeriod _ _ hzero => exact absurd (hrates.symm.trans hzero) nofun
  | @start n q ending _ _ _ hloop =>
    rw [begun_of_not_started hstarted] at hloop
    exact ⟨n, q, ending, hloop, m.engine_left n q ending⟩

/-! ## Histories -/

/-- The deeds of a history are those that its requests contribute. -/
theorem History.contributes (h : m.History history last) :
    ∃ deeds : List (List Deed),
      List.Forall₂ (fun x added => x.before.Contributes x.request x.turn.result added) history deeds ∧
      m.engine.doAll? m.settings.random deeds.flatten = some last.engine := by
  induction h with
  | nil m => exact ⟨[], .nil, rfl⟩
  | @cons m request turn rest last hanswer hrest ih =>
    have hexit := exit_of_answers hanswer
    obtain ⟨added, hadded, hfirst⟩ := hexit.contributes
    obtain ⟨deeds, hdeeds, hall⟩ := ih
    refine ⟨added :: deeds, .cons hadded hdeeds, ?_⟩
    rw [List.flatten_cons, Engine.doAll?_append, hfirst, Option.bind_some, ← hexit.settings_eq]
    exact hall

/-- **A machine refines its engine.** Over every history the processor and the count of a machine go through the
deeds that the requests contribute, each of which can be done. A refused request does nothing to them. When
a request fails because the renderer does, the step or the reset has been carried out. To press or to
release a key moves this key alone. A start of a machine at rest that is not halted makes a tick and the steps
of its loop, if both rates are finite and the loop does not break down at its first wait; with an infinite
rate it does nothing. -/
theorem engine_of_history (h : m.History history last) :
    (∃ deeds : List (List Deed),
      List.Forall₂ (fun x added => x.before.Contributes x.request x.turn.result added) history deeds ∧
      m.engine.doAll? m.settings.random deeds.flatten = some last.engine) ∧
    ∀ x ∈ history,
      (∀ refusal, x.turn.result = .error refusal → (∀ failure, refusal ≠ .unseen failure) →
        x.turn.state.engine = x.before.engine) ∧
      (∀ failure, x.turn.result = .error (.unseen failure) →
        (x.request = .step ∧ ∃ q i, x.before.processor.step = .ok (q, i) ∧
          x.turn.state.engine = ⟨q, x.before.count + 1⟩) ∨
        ∃ rom p, x.request = .reset rom ∧
          Processor.boot? x.before.settings.random rom = some p ∧ x.turn.state.engine = ⟨p, 0⟩) ∧
      (∀ key : Key, (x.request = .press key → x.before.Moves key true x.turn.state) ∧
        (x.request = .release key → x.before.Moves key false x.turn.state)) ∧
      (x.request = .start → x.before.fault = none → x.before.running = false →
        (x.before.settings.zeroPeriod = true →
          x.turn.result = .error .zeroPeriod ∧ x.turn.state.engine = x.before.engine) ∧
        (x.before.settings.zeroPeriod = false → x.before.stepper.breaksDown = false →
          ∃ made q ending,
            LoopRun x.before.lost? x.before.isSlow x.before.processor.tick made q ending ∧
              x.turn.state.engine = ⟨q, x.before.count + made⟩)) := by
  refine ⟨h.contributes, fun x hx => ⟨?_, ?_, ?_, ?_⟩⟩
  · intro refusal hrefusal hseen
    have hexit := h.exits x hx
    rw [hrefusal] at hexit
    exact hexit.engine_of_refused hseen
  · intro failure hfailure
    have hexit := h.exits x hx
    rw [hfailure] at hexit
    exact hexit.engine_of_unseen
  · refine fun key => ⟨fun hasked => ?_, fun hasked => ?_⟩
    · have hexit := h.exits x hx
      rw [hasked] at hexit
      exact hexit.moves_of_press
    · have hexit := h.exits x hx
      rw [hasked] at hexit
      exact hexit.moves_of_release
  · intro hasked hfault hrest
    have hexit := h.exits x hx
    rw [hasked] at hexit
    refine ⟨fun hzero => ?_, hexit.engine_of_start hfault hrest⟩
    have hturn := turn_of_zeroPeriod (hasked ▸ h.answers x hx) hfault hrest hzero
    exact ⟨congrArg Turn.result hturn, congrArg (engine ∘ Turn.state) hturn⟩

/-- A loop that makes one step and meets a fault at the next one, and then a step that is refused. -/
theorem engine_of_history_of_fault :
    ∃ (m last : Machine) (history : List Exchange) (deeds : List (List Deed)),
      m.History history last ∧ history.map Exchange.request = [.start, .step] ∧
      last.count = 1 ∧ last.fault = some .stackUnderflow ∧
      List.Forall₂ (fun x added => x.before.Contributes x.request x.turn.result added) history deeds ∧
      m.engine.doAll? m.settings.random deeds.flatten = some last.engine := by
  have hrun : ((Machine.create [0x60, 0x05, 0x00, 0xEE] ⟨0, 0⟩ (.whole 1000) (.whole 60) .info .absent
      .absent).toOption.bind fun m => (m.perform? 2 .start).map fun started =>
        (started.state.step.state.count, started.state.step.state.fault)) =
      some (1, some .stackUnderflow) := by decide +kernel
  obtain ⟨m, -, hstarts⟩ := Option.bind_eq_some_iff.mp hrun
  obtain ⟨started, hstart, hlast⟩ := Option.map_eq_some_iff.mp hstarts
  obtain ⟨events, hstep⟩ := started.state.exists_answers_step
  have hhistory : m.History _ started.state.step.state := .cons ⟨2, hstart⟩ (.cons hstep (.nil _))
  obtain ⟨⟨deeds, hdeeds, hall⟩, -⟩ := engine_of_history hhistory
  obtain ⟨hcount, hfault⟩ := Prod.mk.inj hlast
  exact ⟨m, _, _, deeds, hhistory, rfl, hcount, hfault, hdeeds, hall⟩

/-- It is not so that a start of any new machine makes a tick and the steps of its loop. With an infinite rate it
leaves a program that fails at its second step where it is. -/
theorem not_tick_and_steps_of_start :
    ¬ ∀ (rom : Rom) (random : RandomKey) (steps ticks : Rate) (threshold : Level) (renderer : Renderer)
      (listener : Listener) (m : Machine) (turn : Turn Machine Answer),
      create rom random steps ticks threshold renderer listener = .ok m → m.Answers .start turn →
      ∃ made q ending, LoopRun m.lost? m.isSlow m.processor.tick made q ending ∧
        turn.state.engine = ⟨q, m.count + made⟩ := by
  intro hclaim
  have hrun : ((create [0x60, 0x05, 0x00, 0xEE] ⟨0, 0⟩ (.real (1.0 / 0.0)) (.whole 60) .info .absent
      .absent).toOption.map fun m =>
        (m.settings.zeroPeriod, m.processor.tick.step.toOption.isSome)) = some (true, true) := by
    decide +kernel
  obtain ⟨m, hm, hmade⟩ := Option.map_eq_some_iff.mp hrun
  obtain ⟨hzero, hstep⟩ := Prod.mk.inj hmade
  have hnew := eq_ok_of_toOption hm
  obtain ⟨hfault, hrest⟩ := at_rest_of_create hnew
  obtain ⟨events, hanswer⟩ := exists_answers_of_exit (.zeroPeriod hfault hrest hzero)
  obtain ⟨made, q, ending, hloop, hengine⟩ := hclaim _ _ _ _ _ _ _ m _ hnew hanswer
  -- A first step that is completed would have been counted.
  have hnone : m.count = m.count + made := congrArg Engine.count hengine
  cases hloop with
  | fault hfails =>
    rw [hfails] at hstep
    cases hstep
  | lost | wait | next => omega

end Machine

end Chip8
