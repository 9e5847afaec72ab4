import Chip8.Proofs.Machine.History

/-!
# Machines under another watch

Of a machine that says everything and tells everything, each event is noticed in one way by a host with
another threshold and another listener. So a machine that is watched in another way goes through the
same exchanges, and what is noticed of them is got from the events one by one.

* `Event.heard`, `heardOf`: what is noticed of an event, and of many.
* `Machine.watched`: the machine with another threshold and another listener.
* `perform?_watched`: the same is carried out under another watch.
* `history_watched_iff`: the histories under another watch.
-/

namespace Chip8

variable {threshold threshold' : Level} {listener : Listener}

/-- What is noticed of an event under a threshold and by a listener. -/
def Event.heard (threshold : Level) (listener : Listener) : Event → List Event
  | .notice said => if threshold.shows said.level then [.notice said] else []
  | .frame screen => [.frame screen]
  | .report trouble =>
    match listener with
    | .absent => []
    | .attentive => [.report trouble]
    | .failing failure =>
      .report trouble :: if threshold.shows .error then [.notice (.listenerFailed failure)] else []

/-- What is noticed of many events. -/
def heardOf (threshold : Level) (listener : Listener) (events : List Event) : List Event :=
  events.flatMap (Event.heard threshold listener)

@[simp] theorem heardOf_append (events more : List Event) :
    heardOf threshold listener (events ++ more) =
      heardOf threshold listener events ++ heardOf threshold listener more :=
  List.flatMap_append

namespace Machine

variable {m last : Machine} {request : Request} {limit : Nat} {events : List Event} {α : Type}

/-- The machine under another threshold, with another listener. -/
def watched (m : Machine) (threshold : Level) (listener : Listener) : Machine :=
  { m with settings := { m.settings with threshold }, listener }

/-- A turn of the machine under another threshold, with another listener. -/
def turnWatched (threshold : Level) (listener : Listener) (turn : Turn Machine α) : Turn Machine α :=
  ⟨turn.state.watched threshold listener, heardOf threshold listener turn.events, turn.result⟩

/-- What a loop leaves, under another threshold and with another listener. -/
def loopWatched (threshold : Level) (listener : Listener) (made : Machine × List Event) :
    Machine × List Event :=
  (made.1.watched threshold listener, heardOf threshold listener made.2)

/-- Every notice of the machine is shown, and its listener hears of every fault. -/
structure Open (m : Machine) : Prop where
  threshold : m.settings.threshold = .debug
  listener : m.listener = .attentive

theorem Open.of_exit {answer : Answer} (h : m.Open) (hexit : m.Exit request last answer) :
    last.Open := by
  have hthreshold : last.settings.threshold = m.settings.threshold :=
    congrArg Settings.threshold hexit.settings_eq
  exact ⟨hthreshold.trans h.threshold, hexit.listener_eq.trans h.listener⟩

theorem Open.loopStep (h : m.Open) : m.loopStep.1.Open := by
  have hstep : m.step.state.Open := h.of_exit m.exit_of_step
  have hended : m.step.state.rest.Open := ⟨hstep.threshold, hstep.listener⟩
  unfold Machine.loopStep
  dsimp only
  split
  · exact hstep
  all_goals exact hended

/-! ## The same under another watch -/

section Watched

variable (threshold listener)

theorem say_watched (h : m.Open) (notice : Notice) :
    (m.watched threshold listener).say notice = heardOf threshold listener (m.say notice) := by
  have hshown : m.say notice = [.notice notice] := by
    rw [say, h.threshold]
    cases notice <;> rfl
  rw [hshown]
  exact (List.append_nil _).symm

theorem tell_watched (h : m.Open) (trouble : Trouble) :
    (m.watched threshold listener).tell trouble = heardOf threshold listener (m.tell trouble) := by
  have htold : m.tell trouble = [.report trouble] := by
    rw [tell, h.listener]
  rw [htold]
  cases listener <;> exact (List.append_nil _).symm

theorem loss_watched (h : m.Open) (failure : HostFailure) :
    (m.watched threshold listener).loss failure = heardOf threshold listener (m.loss failure) := by
  unfold loss
  split_ifs
  · rw [heardOf_append, say_watched threshold listener h, tell_watched threshold listener h]
  · exact say_watched threshold listener h _

theorem view_watched (m : Machine) :
    (m.watched threshold listener).view = heardOf threshold listener m.view := by
  unfold view
  unfold watched
  cases m.renderer <;> rfl

theorem kept_watched (m : Machine) (i : Instruction) :
    (m.watched threshold listener).kept i = heardOf threshold listener (m.kept i) := by
  unfold kept
  split_ifs
  · exact view_watched threshold listener m
  · rfl

theorem step_watched (h : m.Open) :
    (m.watched threshold listener).step = turnWatched threshold listener m.step := by
  cases hfault : m.fault with
  | some cause =>
    rw [step_of_halted hfault, step_of_halted (m := m.watched threshold listener) hfault]
    rfl
  | none =>
    cases hstep : m.processor.step with
    | error f =>
      rw [step_of_error hfault hstep, step_of_error (m := m.watched threshold listener) hfault hstep,
        say_watched threshold listener h]
      rfl
    | ok made =>
      obtain ⟨q, i⟩ := made
      cases hlost : m.lost? i with
      | none =>
        have hkept := kept_watched threshold listener (m.advanced q) i
        rw [step_of_shown hfault hstep hlost,
          step_of_shown (m := m.watched threshold listener) hfault hstep hlost,
          say_watched threshold listener h, turnWatched, heardOf_append, ← hkept]
        rfl
      | some failure =>
        rw [step_of_lost hfault hstep hlost,
          step_of_lost (m := m.watched threshold listener) hfault hstep hlost,
          say_watched threshold listener h]
        rfl

theorem loopStep_watched (h : m.Open) :
    (m.watched threshold listener).loopStep = loopWatched threshold listener m.loopStep := by
  have hstep : m.step.state.Open := h.of_exit m.exit_of_step
  have hended : m.step.state.rest.Open := ⟨hstep.threshold, hstep.listener⟩
  have hsay := say_watched threshold listener hended
  have htell := tell_watched threshold listener hended
  have hloss := loss_watched threshold listener hended
  unfold Machine.loopStep loopWatched
  rw [step_watched threshold listener h]
  unfold turnWatched
  dsimp only
  cases m.step.result with
  | done i => rfl
  | unseen failure =>
    rw [heardOf_append, ← hloss]
    rfl
  | faulted f | halted cause =>
    rw [heardOf_append, heardOf_append, ← hsay, ← htell]
    rfl

theorem loop?_watched (h : m.Open) :
    (m.watched threshold listener).loop? limit =
      (m.loop? limit).map (loopWatched threshold listener) := by
  induction limit generalizing m with
  | zero =>
    unfold loop? watched
    split_ifs <;> rfl
  | succ limit ih =>
    cases hstarted : m.started with
    | true =>
      have hrest : ((loopWatched threshold listener m.loopStep).1).loop? limit =
          (m.loopStep.1.loop? limit).map (loopWatched threshold listener) := ih h.loopStep
      rw [loop?_succ hstarted, loop?_succ (m := m.watched threshold listener) hstarted,
        loopStep_watched threshold listener h, hrest, Option.map_map, Option.map_map]
      refine congrArg (Option.map · _) (funext fun made => ?_)
      simp only [Function.comp_apply, loopWatched, heardOf_append]
    | false =>
      rw [loop?_of_rest hstarted, loop?_of_rest (m := m.watched threshold listener) hstarted]
      rfl

theorem begin?_watched (h : m.Open) :
    (m.watched threshold listener).begin? limit =
      (m.begin? limit).map (loopWatched threshold listener) := by
  unfold begin?
  show (if m.isSlow then some (m.watched threshold listener).loopStep
    else (m.watched threshold listener).loop? limit) = _
  split_ifs
  · exact congrArg some (loopStep_watched threshold listener h)
  · exact loop?_watched threshold listener h

theorem begun_watched (m : Machine) :
    (m.watched threshold listener).begun = m.begun.watched threshold listener := by
  rw [begun_eq, begun_eq m, processor_begun, processor_begun]
  rfl

theorem start?_watched (h : m.Open) :
    (m.watched threshold listener).start? limit =
      (m.start? limit).map (turnWatched threshold listener) := by
  cases hfault : m.fault with
  | some cause =>
    rw [start?_of_halted hfault, start?_of_halted (m := m.watched threshold listener) hfault]
    rfl
  | none =>
    cases hrunning : m.running with
    | true =>
      rw [start?_of_running hfault hrunning,
        start?_of_running (m := m.watched threshold listener) hfault hrunning]
      rfl
    | false =>
      cases hrates : m.settings.zeroPeriod with
      | true =>
        rw [start?_of_zeroPeriod hfault hrunning hrates,
          start?_of_zeroPeriod (m := m.watched threshold listener) hfault hrunning hrates]
        rfl
      | false =>
        have hbegun : m.begun.Open := by
          rw [begun_eq]
          exact ⟨h.threshold, h.listener⟩
        rw [start?_of_rest hfault hrunning hrates,
          start?_of_rest (m := m.watched threshold listener) hfault hrunning hrates, begun_watched,
          begin?_watched threshold listener hbegun, Option.map_map, Option.map_map,
          say_watched threshold listener h]
        refine congrArg (Option.map · _) (funext fun made => ?_)
        simp only [Function.comp_apply, turnWatched, loopWatched, heardOf_append]
        rfl

theorem stop_watched (h : m.Open) :
    (m.watched threshold listener).stop = turnWatched threshold listener m.stop := by
  have hsay := say_watched threshold listener h (.stopped m.count)
  show (⟨m.rest.watched threshold listener,
    if m.running then (m.watched threshold listener).say (.stopped m.count) else [], ()⟩ :
    Turn Machine Unit) = _
  rw [hsay, stop, turnWatched]
  cases m.running <;> rfl

theorem reset_watched (h : m.Open) (rom : Rom) :
    (m.watched threshold listener).reset rom = turnWatched threshold listener (m.reset rom) := by
  have hstop : (m.watched threshold listener).stop.events = heardOf threshold listener m.stop.events :=
    congrArg Turn.events (stop_watched threshold listener h)
  cases hboot : Processor.boot? m.settings.random rom with
  | none =>
    rw [reset_of_tooLarge hboot, reset_of_tooLarge (m := m.watched threshold listener) hboot, hstop]
    rfl
  | some p =>
    cases hlost : m.renderer.failure? with
    | none =>
      have hview := view_watched threshold listener (m.restarted p)
      rw [reset_of_shown hboot hlost,
        reset_of_shown (m := m.watched threshold listener) hboot hlost, hstop]
      simp only [turnWatched, heardOf_append, ← hview]
      rfl
    | some failure =>
      rw [reset_of_lost hboot hlost,
        reset_of_lost (m := m.watched threshold listener) hboot hlost, hstop]
      rfl

/-- Whatever is asked, the same is done under another watch. -/
theorem perform?_watched (h : m.Open) :
    (m.watched threshold listener).perform? limit request =
      (m.perform? limit request).map (turnWatched threshold listener) := by
  cases request with
  | step =>
    rw [perform?, step_watched threshold listener h]
    rfl
  | tick => rfl
  | press number | release number =>
    simp only [perform?, Machine.press, Machine.release, withKey]
    cases Key.ofInt? number <;> rfl
  | reset rom =>
    rw [perform?, reset_watched threshold listener h]
    rfl
  | start =>
    rw [perform?, perform?, start?_watched threshold listener h, Option.map_map, Option.map_map]
    rfl
  | stop =>
    rw [perform?, stop_watched threshold listener h]
    rfl

end Watched

/-- What is answered under another watch. -/
theorem answers_watched_iff (h : m.Open) {turn' : Turn Machine Answer} :
    (m.watched threshold listener).Answers request turn' ↔
      ∃ turn, m.Answers request turn ∧ turn' = turnWatched threshold listener turn := by
  constructor
  · rintro ⟨limit, hturn'⟩
    rw [perform?_watched threshold listener h] at hturn'
    obtain ⟨turn, hturn, hmade⟩ := Option.map_eq_some_iff.mp hturn'
    exact ⟨turn, ⟨limit, hturn⟩, hmade.symm⟩
  · rintro ⟨turn, ⟨limit, hturn⟩, rfl⟩
    refine ⟨limit, ?_⟩
    rw [perform?_watched threshold listener h, hturn]
    rfl

/-- An exchange under another watch. -/
def exchangeWatched (threshold : Level) (listener : Listener) (x : Exchange) : Exchange :=
  ⟨x.before.watched threshold listener, x.request, turnWatched threshold listener x.turn⟩

/-- The histories under another watch are the same ones, noticed in another way. -/
theorem history_watched_iff (h : m.Open) {history' : List Exchange} {last' : Machine} :
    (m.watched threshold listener).History history' last' ↔
      ∃ history last, m.History history last ∧ last' = last.watched threshold listener ∧
        history' = history.map (exchangeWatched threshold listener) := by
  constructor
  · intro hhistory
    generalize hm : m.watched threshold listener = n at hhistory
    induction hhistory generalizing m with
    | nil n => exact ⟨[], m, .nil m, hm.symm, rfl⟩
    | @cons n request turn' rest' last' hanswer hrest ih =>
      subst hm
      obtain ⟨turn, hturn, rfl⟩ := (answers_watched_iff h).mp hanswer
      have hopen : turn.state.Open := h.of_exit (exit_of_answers hturn)
      obtain ⟨rest, last, hhistory, hlast, rfl⟩ := ih hopen rfl
      exact ⟨⟨m, request, turn⟩ :: rest, last, .cons hturn hhistory, hlast, rfl⟩
  · rintro ⟨history, last, hhistory, rfl, rfl⟩
    induction hhistory with
    | nil m => exact .nil _
    | @cons m request turn rest last hanswer hrest ih =>
      have hopen : turn.state.Open := h.of_exit (exit_of_answers hanswer)
      exact .cons ((answers_watched_iff h).mpr ⟨turn, hanswer, rfl⟩) (ih hopen)

end Machine

end Chip8
