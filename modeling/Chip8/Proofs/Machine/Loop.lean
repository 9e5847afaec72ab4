import Chip8.Proofs.Machine.Requests

/-!
# The loop

What the loop of a machine does from the moment it begins, as a relation between processors: the limit of
`Machine.loop?` is gone, and a loop that goes on for ever is related to nothing.

* `LoopEnd`: how a loop leaves off.
* `LoopRun`: the completed steps of a loop, and how it leaves off after them.
* `Machine.left`: the machine that a loop leaves behind.
* `Machine.during`, `Machine.parting`: what the host notices of its steps, and of its end.
* `loopRun_of_begun`, `begun_iff`: with some limit, `Machine.begin?` has an answer exactly when a loop leaves
  off.
* `start?_mono`: a larger limit does not change an answer.
-/

namespace Chip8

/-- How a loop leaves off. -/
inductive LoopEnd where
  /-- The next instruction fails. -/
  | fault (f : Fault)
  /-- The renderer failed at the latest instruction. -/
  | lost (failure : HostFailure)
  /-- The loop is to wait for the time of its next step. -/
  | waiting

/-- A loop from a processor on completes a number of steps, which lead to another processor, and leaves
off. A slow loop makes one step only, and then waits. -/
inductive LoopRun (lost? : Instruction → Option HostFailure) (slow : Bool) :
    Processor → Nat → Processor → LoopEnd → Prop where
  | fault {p f} (hstep : p.step = .error f) : LoopRun lost? slow p 0 p (.fault f)
  | lost {p q i failure} (hstep : p.step = .ok (q, i)) (hlost : lost? i = some failure) :
    LoopRun lost? slow p 1 q (.lost failure)
  | wait {p q i} (hslow : slow = true) (hstep : p.step = .ok (q, i)) (hshown : lost? i = none) :
    LoopRun lost? slow p 1 q .waiting
  | next {p q i n r ending} (hslow : slow = false) (hstep : p.step = .ok (q, i))
    (hshown : lost? i = none) (hrest : LoopRun lost? slow q n r ending) :
    LoopRun lost? slow p (n + 1) r ending

/-- A loop has one outcome only. -/
theorem LoopRun.unique {lost? : Instruction → Option HostFailure} {slow : Bool} {p q q' : Processor}
    {n n' : Nat} {ending ending' : LoopEnd} (h : LoopRun lost? slow p n q ending)
    (h' : LoopRun lost? slow p n' q' ending') : n = n' ∧ q = q' ∧ ending = ending' := by
  induction h generalizing n' with
  | fault hstep => cases h' <;> simp_all
  | lost hstep hlost => cases h' <;> simp_all
  | wait hslow hstep hshown => cases h' <;> simp_all
  | next hslow hstep hshown hrest ih =>
    cases h' with
    | next _ hstep' _ hrest' =>
      cases hstep.symm.trans hstep'
      obtain ⟨rfl, rfl, rfl⟩ := ih hrest'
      exact ⟨rfl, rfl, rfl⟩
    | _ => simp_all

namespace Machine

variable {m last : Machine} {p q : Processor} {n limit : Nat} {ending : LoopEnd} {events : List Event}

/-- The machine that a loop leaves behind after a number of steps. -/
def left (m : Machine) (n : Nat) (q : Processor) : LoopEnd → Machine
  | .fault f => { m with processor := q, count := m.count + n, fault := some f, started := false }
  | .lost _ => { m with processor := q, count := m.count + n, started := false }
  | .waiting => { m with processor := q, count := m.count + n, started := true }

@[simp] theorem left_processor : (m.left n q ending).processor = q := by
  cases ending <;> rfl

@[simp] theorem left_count : (m.left n q ending).count = m.count + n := by
  cases ending <;> rfl

@[simp] theorem left_settings : (m.left n q ending).settings = m.settings := by
  cases ending <;> rfl

@[simp] theorem left_renderer : (m.left n q ending).renderer = m.renderer := by
  cases ending <;> rfl

@[simp] theorem left_listener : (m.left n q ending).listener = m.listener := by
  cases ending <;> rfl

/-- A loop that leaves off makes no more steps, unless it waits and does not break down. -/
theorem running_left :
    (m.left n q ending).running =
      match ending with
      | .waiting => !m.stepper.breaksDown
      | _ => false := by
  cases ending <;> rfl

/-- Whether the loops have been started before makes no difference to what is left of them. -/
theorem left_begun : m.begun.left n q ending = m.left n q ending := by
  rw [begun_eq]
  cases ending <;> rfl

/-- The steps before do not matter for what a loop leaves behind. -/
theorem left_advanced (m : Machine) (p : Processor) (n : Nat) (q : Processor) (ending : LoopEnd) :
    (m.advanced p).left n q ending = m.left (n + 1) q ending := by
  have hcount : m.count + 1 + n = m.count + (n + 1) := by omega
  cases ending <;> simp [left, advanced, hcount]

/-- What the host notices of a number of completed steps. -/
def during (m : Machine) : Nat → List Event
  | 0 => []
  | n + 1 =>
    match m.processor.step with
    | .ok (q, i) =>
      m.say (.executed m.processor.counter i) ++ (m.advanced q).kept i ++ (m.advanced q).during n
    | .error _ => []

/-- What the host notices when a loop leaves off at a processor. -/
def parting (m : Machine) (q : Processor) : LoopEnd → List Event
  | .fault f => m.say (.halted q.counter f) ++ m.say .loopEnded ++ m.tell (.fault f)
  | .lost failure => m.loss failure
  | .waiting => []

theorem during_succ {i : Instruction} (hstep : m.processor.step = .ok (q, i)) (n : Nat) :
    m.during (n + 1) =
      m.say (.executed m.processor.counter i) ++ (m.advanced q).kept i ++ (m.advanced q).during n := by
  rw [during]
  simp only [hstep]

theorem during_shown {i : Instruction} (hstep : m.processor.step = .ok (q, i)) :
    m.during 1 = m.say (.executed m.processor.counter i) ++ (m.advanced q).kept i := by
  rw [during_succ hstep]
  exact List.append_nil _

theorem during_lost {i : Instruction} {failure : HostFailure} (hstep : m.processor.step = .ok (q, i))
    (hlost : m.lost? i = some failure) : m.during 1 = m.say (.executed m.processor.counter i) := by
  rw [during_shown hstep, kept_of_lost q hlost, List.append_nil]

/-- Of completed steps nothing is noticed but themselves and what they show. -/
theorem mem_during {event : Event} (h : event ∈ m.during n) :
    (∃ place i, event = .notice (.executed place i)) ∨ ∃ screen, event = .frame screen := by
  induction n generalizing m with
  | zero => exact absurd h List.not_mem_nil
  | succ n ih =>
    cases hstep : m.processor.step with
    | error f =>
      unfold during at h
      rw [hstep] at h
      exact absurd h List.not_mem_nil
    | ok made =>
      obtain ⟨q, i⟩ := made
      rw [during_succ hstep, List.mem_append, List.mem_append] at h
      rcases h with (hsaid | hkept) | hmore
      · exact .inl ⟨_, _, mem_say hsaid⟩
      · exact .inr ⟨_, mem_kept hkept⟩
      · exact ih hmore

theorem parting_advanced (m : Machine) (p q : Processor) (ending : LoopEnd) :
    (m.advanced p).parting q ending = m.parting q ending := by
  cases ending <;> rfl

theorem parting_begun (m : Machine) (q : Processor) (ending : LoopEnd) :
    m.begun.parting q ending = m.parting q ending := by
  rw [begun_eq]
  cases ending <;> rfl

theorem lost?_begun (m : Machine) : m.begun.lost? = m.lost? := by
  rw [begun_eq]
  rfl

theorem isSlow_begun (m : Machine) : m.begun.isSlow = m.isSlow := by
  rw [begun_eq]
  rfl

/-! ## Loops at the full speed -/

theorem loop?_of_rest (h : m.started = false) (limit : Nat) : m.loop? limit = some (m, []) := by
  unfold loop?
  simp [h]

theorem loop?_rest (m : Machine) (limit : Nat) : m.rest.loop? limit = some (m.rest, []) :=
  loop?_of_rest rfl limit

theorem loop?_succ (h : m.started = true) :
    m.loop? (limit + 1) =
      (m.loopStep.1.loop? limit).map fun made => (made.1, m.loopStep.2 ++ made.2) := by
  rw [loop?]
  simp [h]

/-- What the limited loop answers is a run of the loop. -/
theorem loopRun_of_loop? (hstarted : m.started = true) (hfault : m.fault = none)
    (h : m.loop? limit = some (last, events)) :
    ∃ n q ending, LoopRun m.lost? false m.processor n q ending ∧ last = m.left n q ending ∧
      events = m.during n ++ m.parting q ending := by
  -- By induction on the limit, of which each step of the loop uses up one.
  induction limit generalizing m events with
  | zero => simp [loop?, hstarted] at h
  | succ limit ih =>
    rw [loop?_succ hstarted] at h
    obtain ⟨⟨r, more⟩, hrest, hlast⟩ := Option.map_eq_some_iff.mp h
    cases hstep : m.processor.step with
    | error f =>
      rw [loopStep_of_error hfault hstep, loop?_rest] at hrest
      cases hrest
      rw [loopStep_of_error hfault hstep] at hlast
      cases hlast
      exact ⟨0, m.processor, .fault f, .fault hstep, rfl, List.append_nil _⟩
    | ok made =>
      obtain ⟨q, i⟩ := made
      cases hlost : m.lost? i with
      | some failure =>
        rw [loopStep_of_lost hfault hstep hlost, loop?_rest] at hrest
        cases hrest
        rw [loopStep_of_lost hfault hstep hlost] at hlast
        cases hlast
        refine ⟨1, q, .lost failure, .lost hstep hlost, rfl, ?_⟩
        rw [during_lost hstep hlost]
        exact List.append_nil _
      | none =>
        rw [loopStep_of_shown hfault hstep hlost] at hrest hlast
        cases hlast
        obtain ⟨n, s, ending, hrun, rfl, rfl⟩ := ih (m := m.advanced q) hstarted hfault hrest
        refine ⟨n + 1, s, ending, .next rfl hstep hlost hrun, left_advanced m q n s ending, ?_⟩
        simp only [during_succ hstep, parting_advanced, List.append_assoc]

/-- A run of the loop is what the limited loop answers when the limit is large enough. -/
theorem loop?_of_loopRun (hrun : LoopRun m.lost? false m.processor n q ending)
    (hstarted : m.started = true) (hfault : m.fault = none) :
    ∃ limit events, m.loop? limit = some (m.left n q ending, events) := by
  -- By induction on the run. It needs a limit that is larger by one than what its rest needs.
  generalize hlost? : m.lost? = lost? at hrun
  generalize hp : m.processor = p at hrun
  generalize hfast : false = slow at hrun
  induction hrun generalizing m with
  | @fault p f hstep =>
    subst hp
    have hloop := @loop?_succ m 0 hstarted
    rw [loopStep_of_error hfault hstep, loop?_rest] at hloop
    exact ⟨1, _, hloop⟩
  | @lost p q i failure hstep hlost =>
    subst hp hlost?
    have hloop := @loop?_succ m 0 hstarted
    rw [loopStep_of_lost hfault hstep hlost, loop?_rest] at hloop
    exact ⟨1, _, hloop⟩
  | wait hslow => cases hfast.trans hslow
  | @next p q i n r ending hslow hstep hshown hrest ih =>
    subst hp hlost?
    obtain ⟨limit, events, hlimit⟩ := ih (m := m.advanced q) hstarted hfault rfl rfl
    have hloop := @loop?_succ m limit hstarted
    rw [loopStep_of_shown hfault hstep hshown, hlimit, left_advanced] at hloop
    exact ⟨limit + 1, _, hloop⟩

/-! ## Any loop -/

/-- The only step of a slow loop is a run of the loop. -/
theorem loopStep_eq_left (hstarted : m.started = true) (hfault : m.fault = none) :
    ∃ n q ending, LoopRun m.lost? true m.processor n q ending ∧
      m.loopStep = (m.left n q ending, m.during n ++ m.parting q ending) := by
  cases hstep : m.processor.step with
  | error f =>
    rw [loopStep_of_error hfault hstep]
    exact ⟨0, m.processor, .fault f, .fault hstep, rfl⟩
  | ok made =>
    obtain ⟨q, i⟩ := made
    cases hlost : m.lost? i with
    | some failure =>
      rw [loopStep_of_lost hfault hstep hlost]
      refine ⟨1, q, .lost failure, .lost hstep hlost, Prod.ext rfl ?_⟩
      rw [during_lost hstep hlost]
      rfl
    | none =>
      rw [loopStep_of_shown hfault hstep hlost]
      refine ⟨1, q, .waiting, .wait rfl hstep hlost, Prod.ext ?_ ?_⟩
      · rw [left, ← hstarted]
        rfl
      · rw [during_shown hstep]
        exact (List.append_nil _).symm

/-- What the loop answers when it begins is a run of the loop. -/
theorem loopRun_of_begin? (hstarted : m.started = true) (hfault : m.fault = none)
    (h : m.begin? limit = some (last, events)) :
    ∃ n q ending, LoopRun m.lost? m.isSlow m.processor n q ending ∧ last = m.left n q ending ∧
      events = m.during n ++ m.parting q ending := by
  unfold begin? at h
  cases hslow : m.isSlow with
  | true =>
    obtain ⟨n, q, ending, hrun, hmade⟩ := loopStep_eq_left hstarted hfault
    rw [if_pos hslow, hmade] at h
    cases h
    exact ⟨n, q, ending, hrun, rfl, rfl⟩
  | false =>
    rw [hslow] at h
    exact loopRun_of_loop? hstarted hfault h

/-- A run of the loop is what it answers when it begins, with a limit that is large enough. -/
theorem begin?_of_loopRun (hstarted : m.started = true) (hfault : m.fault = none)
    (hrun : LoopRun m.lost? m.isSlow m.processor n q ending) :
    ∃ limit events, m.begin? limit = some (m.left n q ending, events) := by
  unfold begin?
  cases hslow : m.isSlow with
  | true =>
    -- A slow loop always answers, so its answer has to be the given outcome.
    rw [hslow] at hrun
    obtain ⟨n', q', ending', hrun', hmade⟩ := loopStep_eq_left hstarted hfault
    obtain ⟨rfl, rfl, rfl⟩ := hrun.unique hrun'
    exact ⟨0, _, congrArg some hmade⟩
  | false =>
    rw [hslow] at hrun
    exact loop?_of_loopRun hrun hstarted hfault

/-- What becomes of a machine whose loops begin. -/
theorem loopRun_of_begun (hfault : m.fault = none) (h : m.begun.begin? limit = some (last, events)) :
    ∃ n q ending, LoopRun m.lost? m.isSlow m.begun.processor n q ending ∧ last = m.left n q ending ∧
      events = m.begun.during n ++ m.parting q ending := by
  have hclean : m.begun.fault = none := by rwa [begun_eq]
  have hstarted : m.begun.started = true := by rw [begun_eq]
  have hrun := loopRun_of_begin? hstarted hclean h
  simp only [left_begun, parting_begun, lost?_begun, isSlow_begun] at hrun
  exact hrun

/-- Once the loops begin, they do what the relation says; and when they leave off, there is a limit under
which this is found. -/
theorem begun_iff (hfault : m.fault = none) :
    (∃ limit events, m.begun.begin? limit = some (last, events)) ↔
      ∃ n q ending, LoopRun m.lost? m.isSlow m.begun.processor n q ending ∧
        last = m.left n q ending := by
  constructor
  · rintro ⟨limit, events, hlast⟩
    obtain ⟨n, q, ending, hrun, hleft, -⟩ := loopRun_of_begun hfault hlast
    exact ⟨n, q, ending, hrun, hleft⟩
  · rintro ⟨n, q, ending, hrun, rfl⟩
    have hclean : m.begun.fault = none := by rwa [begun_eq]
    have hstarted : m.begun.started = true := by rw [begun_eq]
    rw [← lost?_begun, ← isSlow_begun] at hrun
    rw [← left_begun]
    exact begin?_of_loopRun hstarted hclean hrun

/-! ## Larger limits -/

theorem loop?_mono {limit' : Nat} {made : Machine × List Event} (hle : limit ≤ limit')
    (h : m.loop? limit = some made) : m.loop? limit' = some made := by
  induction limit generalizing m limit' made with
  | zero =>
    -- Without a step only a machine at rest has an answer.
    unfold loop? at h ⊢
    split_ifs at h ⊢
    exact h
  | succ limit ih =>
    obtain ⟨more, rfl⟩ : ∃ more, limit' = more + 1 := ⟨limit' - 1, by omega⟩
    unfold loop? at h ⊢
    split_ifs at h ⊢
    · obtain ⟨rest, hrest, hmade⟩ := Option.map_eq_some_iff.mp h
      exact Option.map_eq_some_iff.mpr ⟨rest, ih (by omega) hrest, hmade⟩
    · exact h

theorem begin?_mono {limit' : Nat} {made : Machine × List Event} (hle : limit ≤ limit')
    (h : m.begin? limit = some made) : m.begin? limit' = some made := by
  unfold begin? at h ⊢
  split_ifs at h ⊢
  · exact h
  · exact loop?_mono hle h

theorem start?_mono {limit' : Nat} {made : Turn Machine (Except Refusal Unit)} (hle : limit ≤ limit')
    (h : m.start? limit = some made) : m.start? limit' = some made := by
  cases hfault : m.fault with
  | some cause =>
    rw [start?_of_halted hfault] at h ⊢
    exact h
  | none =>
    cases hrunning : m.running with
    | true =>
      rw [start?_of_running hfault hrunning] at h ⊢
      exact h
    | false =>
      cases hrates : m.settings.zeroPeriod with
      | true =>
        rw [start?_of_zeroPeriod hfault hrunning hrates] at h ⊢
        exact h
      | false =>
        rw [start?_of_rest hfault hrunning hrates] at h ⊢
        obtain ⟨begun, hbegin, hmade⟩ := Option.map_eq_some_iff.mp h
        exact Option.map_eq_some_iff.mpr ⟨begun, begin?_mono hle hbegin, hmade⟩

end Machine

end Chip8
