import Chip8.Proofs.Machine.Loop

/-!
# Histories of a machine

A history is any number of requests, each of them answered before the next one is made. A start whose loop
goes on for ever has no answer, so no history holds it.

* `Machine.Answers`: a request is answered by a turn, whatever limit it takes; `Answers.unique` says that
  there is one answer at most.
* `Machine.Exit`: the exits of all requests, with what each of them does to the machine;
  `exists_answers_iff` says that these are all of them.
* `Exchange`, `Machine.History`: a request with its answer, and many of them in a row.
* `performAll?`: many requests carried out one after the other.
* `History.invariant`: what holds at the start and is kept by every answer holds after every history.
-/

namespace Chip8

/-- The answer to a request: the instruction of a step, or nothing, or why the request raised an error. -/
abbrev Answer := Except Refusal (Option Instruction)

/-- A request, the machine that it was made to, and what came of it. -/
structure Exchange where
  before : Machine
  request : Request
  turn : Turn Machine Answer

namespace Machine

variable {m last : Machine} {request : Request} {answer : Answer} {turn : Turn Machine Answer}

/-- The request is answered by the turn. -/
def Answers (m : Machine) (request : Request) (turn : Turn Machine Answer) : Prop :=
  ∃ limit, m.perform? limit request = some turn

/-! ## Exits -/

/-- The exits of the requests: the machine after a request, and the answer. -/
inductive Exit (m : Machine) : Request → Machine → Answer → Prop where
  | done {q i} (hfault : m.fault = none) (hstep : m.processor.step = .ok (q, i))
    (hshown : m.lost? i = none) : Exit m .step (m.advanced q) (.ok (some i))
  | unseen {q i failure} (hfault : m.fault = none) (hstep : m.processor.step = .ok (q, i))
    (hlost : m.lost? i = some failure) : Exit m .step (m.advanced q) (.error (.unseen failure))
  | faulted {f} (hfault : m.fault = none) (hstep : m.processor.step = .error f) :
    Exit m .step (m.broken f) (.error (.trouble (.fault f)))
  | halted {cause} (hfault : m.fault = some cause) :
    Exit m .step m (.error (.trouble (.halted cause)))
  | tick : Exit m .tick m.tick (.ok none)
  | press {number key} (hkey : Key.ofInt? number = some key) :
    Exit m (.press number) { m with processor := m.processor.press key } (.ok none)
  | pressNoKey {number} (hkey : Key.ofInt? number = none) :
    Exit m (.press number) m (.error (.noSuchKey number))
  | release {number key} (hkey : Key.ofInt? number = some key) :
    Exit m (.release number) { m with processor := m.processor.release key } (.ok none)
  | releaseNoKey {number} (hkey : Key.ofInt? number = none) :
    Exit m (.release number) m (.error (.noSuchKey number))
  | reset {rom p} (hboot : Processor.boot? m.settings.random rom = some p)
    (hshown : m.renderer.failure? = none) : Exit m (.reset rom) (m.restarted p) (.ok none)
  | resetUnseen {rom p failure} (hboot : Processor.boot? m.settings.random rom = some p)
    (hlost : m.renderer.failure? = some failure) :
    Exit m (.reset rom) (m.restarted p) (.error (.unseen failure))
  | romTooLarge {rom} (hboot : Processor.boot? m.settings.random rom = none) :
    Exit m (.reset rom) m.rest (.error (.romTooLarge rom.length))
  | startHalted {cause} (hfault : m.fault = some cause) :
    Exit m .start m (.error (.trouble (.halted cause)))
  | startAgain (hfault : m.fault = none) (hrunning : m.running = true) : Exit m .start m (.ok none)
  | zeroPeriod (hfault : m.fault = none) (hrest : m.running = false)
    (hzero : m.settings.zeroPeriod = true) : Exit m .start m (.error .zeroPeriod)
  | start {n q ending} (hfault : m.fault = none) (hrest : m.running = false)
    (hrates : m.settings.zeroPeriod = false)
    (hloop : LoopRun m.lost? m.isSlow m.begun.processor n q ending) :
    Exit m .start (m.left n q ending) (.ok none)
  | stop : Exit m .stop m.rest (.ok none)

theorem Exit.settings_eq (h : m.Exit request last answer) : last.settings = m.settings := by
  cases h with
  | start => exact left_settings
  | _ => rfl

theorem Exit.renderer_eq (h : m.Exit request last answer) : last.renderer = m.renderer := by
  cases h with
  | start => exact left_renderer
  | _ => rfl

theorem Exit.listener_eq (h : m.Exit request last answer) : last.listener = m.listener := by
  cases h with
  | start => exact left_listener
  | _ => rfl

theorem exit_of_step (m : Machine) : m.Exit .step m.step.state (m.step.result.toExcept.map some) := by
  cases hfault : m.fault with
  | some cause =>
    rw [step_of_halted hfault]
    exact .halted hfault
  | none =>
    cases hstep : m.processor.step with
    | error f =>
      rw [step_of_error hfault hstep]
      exact .faulted hfault hstep
    | ok made =>
      obtain ⟨q, i⟩ := made
      cases hlost : m.lost? i with
      | none =>
        rw [step_of_shown hfault hstep hlost]
        exact .done hfault hstep hlost
      | some failure =>
        rw [step_of_lost hfault hstep hlost]
        exact .unseen hfault hstep hlost

theorem exit_of_press (m : Machine) (number : Int) :
    m.Exit (.press number) (m.press number).state ((m.press number).result.map fun _ => none) := by
  unfold Machine.press withKey
  cases hkey : Key.ofInt? number with
  | none => exact .pressNoKey hkey
  | some key => exact .press hkey

theorem exit_of_release (m : Machine) (number : Int) :
    m.Exit (.release number) (m.release number).state
      ((m.release number).result.map fun _ => none) := by
  unfold Machine.release withKey
  cases hkey : Key.ofInt? number with
  | none => exact .releaseNoKey hkey
  | some key => exact .release hkey

theorem exit_of_reset (m : Machine) (rom : Rom) :
    m.Exit (.reset rom) (m.reset rom).state ((m.reset rom).result.map fun _ => none) := by
  cases hboot : Processor.boot? m.settings.random rom with
  | none =>
    rw [reset_of_tooLarge hboot]
    exact .romTooLarge hboot
  | some p =>
    cases hlost : m.renderer.failure? with
    | none =>
      rw [reset_of_shown hboot hlost]
      exact .reset hboot hlost
    | some failure =>
      rw [reset_of_lost hboot hlost]
      exact .resetUnseen hboot hlost

theorem exit_of_start {limit : Nat} {started : Turn Machine (Except Refusal Unit)}
    (h : m.start? limit = some started) :
    m.Exit .start started.state (started.result.map fun _ => none) := by
  cases hfault : m.fault with
  | some cause =>
    rw [start?_of_halted hfault] at h
    cases h
    exact .startHalted hfault
  | none =>
    cases hrunning : m.running with
    | true =>
      rw [start?_of_running hfault hrunning] at h
      cases h
      exact .startAgain hfault hrunning
    | false =>
      cases hrates : m.settings.zeroPeriod with
      | true =>
        rw [start?_of_zeroPeriod hfault hrunning hrates] at h
        cases h
        exact .zeroPeriod hfault hrunning hrates
      | false =>
        rw [start?_of_rest hfault hrunning hrates] at h
        obtain ⟨⟨last, events⟩, hbegin, rfl⟩ := Option.map_eq_some_iff.mp h
        obtain ⟨n, q, ending, hloop, rfl⟩ := (begun_iff hfault).mp ⟨limit, events, hbegin⟩
        exact .start hfault hrunning hrates hloop

/-- Every answer is one of the exits. -/
theorem exit_of_answers (h : m.Answers request turn) : m.Exit request turn.state turn.result := by
  obtain ⟨limit, hturn⟩ := h
  cases request with
  | step =>
    cases hturn
    exact m.exit_of_step
  | tick =>
    cases hturn
    exact .tick
  | press number =>
    cases hturn
    exact m.exit_of_press number
  | release number =>
    cases hturn
    exact m.exit_of_release number
  | reset rom =>
    cases hturn
    exact m.exit_of_reset rom
  | start =>
    obtain ⟨started, hstart, rfl⟩ := Option.map_eq_some_iff.mp hturn
    exact exit_of_start hstart
  | stop =>
    cases hturn
    exact .stop

theorem exists_answers_step (m : Machine) :
    ∃ events, m.Answers .step ⟨m.step.state, events, m.step.result.toExcept.map some⟩ :=
  ⟨m.step.events, 0, rfl⟩

theorem exists_answers_reset (m : Machine) (rom : Rom) :
    ∃ events, m.Answers (.reset rom)
      ⟨(m.reset rom).state, events, (m.reset rom).result.map fun _ => none⟩ :=
  ⟨(m.reset rom).events, 0, rfl⟩

/-- Every exit is an answer to the request. -/
theorem exists_answers_of_exit (h : m.Exit request last answer) :
    ∃ events, m.Answers request ⟨last, events, answer⟩ := by
  cases h with
  | done hfault hstep hshown =>
    have h := m.exists_answers_step
    rwa [step_of_shown hfault hstep hshown] at h
  | unseen hfault hstep hlost =>
    have h := m.exists_answers_step
    rwa [step_of_lost hfault hstep hlost] at h
  | faulted hfault hstep =>
    have h := m.exists_answers_step
    rwa [step_of_error hfault hstep] at h
  | halted hfault =>
    have h := m.exists_answers_step
    rwa [step_of_halted hfault] at h
  | tick => exact ⟨[], 0, rfl⟩
  | press hkey | pressNoKey hkey =>
    refine ⟨[], 0, ?_⟩
    simp only [perform?, Machine.press, withKey, hkey]
    rfl
  | release hkey | releaseNoKey hkey =>
    refine ⟨[], 0, ?_⟩
    simp only [perform?, Machine.release, withKey, hkey]
    rfl
  | @reset rom p hboot hshown =>
    have h := m.exists_answers_reset rom
    rwa [reset_of_shown hboot hshown] at h
  | @resetUnseen rom p failure hboot hlost =>
    have h := m.exists_answers_reset rom
    rwa [reset_of_lost hboot hlost] at h
  | @romTooLarge rom hboot =>
    have h := m.exists_answers_reset rom
    rwa [reset_of_tooLarge hboot] at h
  | startHalted hfault =>
    refine ⟨[], 0, ?_⟩
    rw [perform?, start?_of_halted hfault]
    rfl
  | startAgain hfault hrunning =>
    refine ⟨[], 0, ?_⟩
    rw [perform?, start?_of_running hfault hrunning]
    rfl
  | zeroPeriod hfault hrest hzero =>
    refine ⟨[], 0, ?_⟩
    rw [perform?, start?_of_zeroPeriod hfault hrest hzero]
    rfl
  | start hfault hrest hrates hloop =>
    obtain ⟨limit, events, hbegin⟩ := (begun_iff hfault).mpr ⟨_, _, _, hloop, rfl⟩
    have hstart := @start?_of_rest m limit hfault hrest hrates
    rw [hbegin] at hstart
    exact ⟨_, limit, congrArg (Option.map perform?.silent) hstart⟩
  | stop => exact ⟨m.stop.events, 0, rfl⟩

theorem exists_answers_iff :
    (∃ events, m.Answers request ⟨last, events, answer⟩) ↔ m.Exit request last answer := by
  constructor
  · rintro ⟨events, hanswer⟩
    exact exit_of_answers hanswer
  · exact exists_answers_of_exit

/-! ## Single answers -/

theorem perform?_mono {limit limit' : Nat} (hle : limit ≤ limit')
    (h : m.perform? limit request = some turn) : m.perform? limit' request = some turn := by
  cases request with
  | start =>
    obtain ⟨started, hstart, hturn⟩ := Option.map_eq_some_iff.mp h
    exact Option.map_eq_some_iff.mpr ⟨started, start?_mono hle hstart, hturn⟩
  | _ => exact h

/-- A request has one answer at most. -/
theorem Answers.unique {turn' : Turn Machine Answer} (h : m.Answers request turn)
    (h' : m.Answers request turn') : turn = turn' := by
  obtain ⟨limit, hturn⟩ := h
  obtain ⟨limit', hturn'⟩ := h'
  have hmax := perform?_mono (Nat.le_max_left limit limit') hturn
  have hmax' := perform?_mono (Nat.le_max_right limit limit') hturn'
  exact Option.some.inj (hmax.symm.trans hmax')

/-- The turn of a start that begins the loops. -/
theorem turn_of_start (h : m.Answers .start turn) (hfault : m.fault = none)
    (hrest : m.running = false) (hrates : m.settings.zeroPeriod = false) :
    ∃ n q ending, LoopRun m.lost? m.isSlow m.begun.processor n q ending ∧
      turn = ⟨m.left n q ending,
        m.say (.starting (1.0 / m.settings.stepPeriod) (1.0 / m.settings.tickPeriod)) ++
          (m.begun.during n ++ m.parting q ending), .ok none⟩ := by
  obtain ⟨limit, hturn⟩ := h
  obtain ⟨started, hstart, rfl⟩ := Option.map_eq_some_iff.mp hturn
  rw [start?_of_rest hfault hrest hrates] at hstart
  obtain ⟨⟨last, events⟩, hbegin, rfl⟩ := Option.map_eq_some_iff.mp hstart
  obtain ⟨n, q, ending, hloop, rfl, rfl⟩ := loopRun_of_begun hfault hbegin
  exact ⟨n, q, ending, hloop, rfl⟩

/-- The turn of a start that fails to tell the rates. -/
theorem turn_of_zeroPeriod (h : m.Answers .start turn) (hfault : m.fault = none)
    (hrest : m.running = false) (hzero : m.settings.zeroPeriod = true) :
    turn = ⟨m, [], .error .zeroPeriod⟩ := by
  obtain ⟨limit, hturn⟩ := h
  rw [perform?, start?_of_zeroPeriod hfault hrest hzero] at hturn
  cases hturn
  rfl

/-! ## Many requests -/

/-- Requests that are answered one after the other, and the machine after the last one. -/
inductive History : Machine → List Exchange → Machine → Prop where
  | nil (m : Machine) : History m [] m
  | cons {m request turn rest last} (hanswer : m.Answers request turn)
    (hrest : History turn.state rest last) : History m (⟨m, request, turn⟩ :: rest) last

variable {history history' past : List Exchange} {last' : Machine}

/-- What is asked settles a history. -/
theorem History.unique (h : m.History history last) (h' : m.History history' last')
    (hasked : history.map Exchange.request = history'.map Exchange.request) :
    history = history' ∧ last = last' := by
  induction h generalizing history' with
  | nil m =>
    cases h' with
    | nil => exact ⟨rfl, rfl⟩
    | cons => cases hasked
  | @cons m request turn rest last hanswer hrest ih =>
    cases h' with
    | nil => cases hasked
    | @cons _ request' turn' rest' _ hanswer' hrest' =>
      obtain ⟨rfl, hothers⟩ := List.cons.inj hasked
      obtain rfl := hanswer.unique hanswer'
      obtain ⟨rfl, rfl⟩ := ih hrest' hothers
      exact ⟨rfl, rfl⟩

/-- Carry out requests one after the other. The limit is that of each start. -/
def performAll? (limit : Nat) (m : Machine) : List Request → Option (List Exchange × Machine)
  | [] => some ([], m)
  | request :: rest => do
    let turn ← m.perform? limit request
    let (history, last) ← turn.state.performAll? limit rest
    return (⟨m, request, turn⟩ :: history, last)

theorem history_of_performAll? {limit : Nat} {requests : List Request}
    (h : m.performAll? limit requests = some (history, last)) :
    m.History history last ∧ history.map Exchange.request = requests := by
  induction requests generalizing m history with
  | nil =>
    cases h
    exact ⟨.nil _, rfl⟩
  | cons request rest ih =>
    obtain ⟨turn, hturn, hothers⟩ := Option.bind_eq_some_iff.mp h
    obtain ⟨⟨others, end'⟩, hrest, hmade⟩ := Option.bind_eq_some_iff.mp hothers
    cases hmade
    obtain ⟨hhistory, hasked⟩ := ih hrest
    refine ⟨.cons ⟨limit, hturn⟩ hhistory, ?_⟩
    rw [List.map_cons, hasked]

/-- Only a start can be left without an answer. -/
theorem exists_answers (m : Machine) (h : request ≠ .start) : ∃ turn, m.Answers request turn := by
  cases request with
  | start => exact absurd rfl h
  | _ => exact ⟨_, 0, rfl⟩

/-- All requests but starts can be made in any order. -/
theorem exists_history (m : Machine) (requests : List Request) (h : .start ∉ requests) :
    ∃ history last, m.History history last ∧ history.map Exchange.request = requests := by
  induction requests generalizing m with
  | nil => exact ⟨[], m, .nil m, rfl⟩
  | cons request rest ih =>
    obtain ⟨turn, hanswer⟩ := m.exists_answers (List.ne_of_not_mem_cons h).symm
    obtain ⟨history, last, hrest, hasked⟩ := ih turn.state (List.not_mem_of_not_mem_cons h)
    refine ⟨⟨m, request, turn⟩ :: history, last, .cons hanswer hrest, ?_⟩
    rw [List.map_cons, hasked]

/-- An invariant of histories, which can speak of what has been asked and answered so far. -/
theorem History.invariant (h : m.History history last) (Inv : Machine → List Exchange → Prop)
    (hstart : Inv m [])
    (hnext : ∀ q past request turn, Inv q past → q.Answers request turn →
      Inv turn.state (past ++ [⟨q, request, turn⟩])) : Inv last history := by
  -- Requests are taken off the front of a history, but what has been asked grows at its end.
  have key : ∀ past, Inv m past → Inv last (past ++ history) := by
    clear hstart
    induction h with
    | nil m =>
      intro past hpast
      simpa using hpast
    | @cons m request turn rest last hanswer hrest ih =>
      intro past hpast
      have hone := ih (past ++ [⟨m, request, turn⟩]) (hnext m past request turn hpast hanswer)
      simpa using hone
  simpa using key [] hstart

/-- Whatever a history asks is answered. -/
theorem History.answers (h : m.History history last) :
    ∀ x ∈ history, x.before.Answers x.request x.turn := by
  induction h with
  | nil m =>
    intro x hx
    exact absurd hx List.not_mem_nil
  | cons hanswer hrest ih =>
    intro x hx
    rcases List.mem_cons.mp hx with rfl | hx
    · exact hanswer
    · exact ih x hx

/-- Whatever a history asks, it is answered by one of the exits. -/
theorem History.exits (h : m.History history last) :
    ∀ x ∈ history, x.before.Exit x.request x.turn.state x.turn.result :=
  fun x hx => exit_of_answers (h.answers x hx)

end Machine

end Chip8
