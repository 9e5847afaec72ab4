import Chip8.Proofs.Window.Requests
import Chip8.Session

/-!
# The modes of a window

A window plays, is paused, or shows the fault that has ended its program. What it holds of this agrees with
its machine after every event.

There are two ways in which it gets out of step. With an infinite rate the window cannot be opened. And when the
loop breaks down at its first wait, nobody tells the window, which takes it that it is still playing.

* `Window.Mode`, `Window.InMode`, `Window.Mode.Leads`: the modes, and how events lead from one to another.
* `Window.Sound`: the invariant, which also says that only a slow machine is left without a fault.
* `Window.Handling`, `Window.Course`: an event and what came of it, and many of them in a row.
* `lawful_of_handle?`, `exists_handle?`: one event; `lawful_of_course`, `exists_play?`: all of them.
* `modes_of_course`: the modes of a window that is put around a new machine.
* `not_mode_of_opened`: a window that is opened need not be in one of the first three.
-/

namespace Chip8

namespace Window

variable {w home last : Window} {limit : Nat}

/-! ## Modes -/

/-- The modes in which a window can be. -/
inductive Mode where
  | playing
  | paused
  | faulted
  /-- The window has not noticed that the loop has broken down. -/
  | stalled
  deriving DecidableEq, Repr

/-- Whether the window is in a mode: what it holds of pauses and errors agrees with its machine. -/
def InMode (w : Window) : Mode → Prop
  | .playing =>
    w.paused = false ∧ w.trouble = none ∧ w.machine.running = true ∧ w.machine.halted = false
  | .paused =>
    w.paused = true ∧ w.trouble = none ∧ w.machine.running = false ∧ w.machine.halted = false
  | .faulted =>
    w.paused = false ∧ (∃ f, w.trouble = some (.fault f) ∧ w.machine.fault = some f) ∧
      w.machine.running = false ∧ w.machine.halted = true
  | .stalled =>
    w.paused = false ∧ w.trouble = none ∧ w.machine.running = false ∧ w.machine.halted = false ∧
      w.machine.started = true

/-- How events lead from one mode to another. A machine that is started may run into a fault at once. -/
inductive Mode.Leads : Mode → WindowEvent → Mode → Prop where
  | pause : Leads .playing (.keyDown .f1) .paused
  | pauseStalled : Leads .stalled (.keyDown .f1) .paused
  | resume {next} (hnext : next ≠ .paused) : Leads .paused (.keyDown .f1) next
  | stuck : Leads .faulted (.keyDown .f1) .faulted
  | restart {mode next} (hnext : next ≠ .paused) : Leads mode (.keyDown .f2) next
  | other {mode event} (hf1 : event ≠ .keyDown .f1) (hf2 : event ≠ .keyDown .f2) :
    Leads mode event mode

theorem InMode.unique {mode mode' : Mode} (h : w.InMode mode) (h' : w.InMode mode') :
    mode = mode' := by
  cases mode <;> cases mode' <;> simp_all [InMode]

/-- The error that the window remembers tells whether the machine is halted. -/
theorem InMode.trouble_isSome {mode : Mode} (h : w.InMode mode) :
    w.trouble.isSome = w.machine.halted := by
  cases mode with
  | playing | paused =>
    rw [h.2.1, h.2.2.2]
    rfl
  | stalled =>
    rw [h.2.1, h.2.2.2.1]
    rfl
  | faulted =>
    obtain ⟨-, ⟨f, htrouble, -⟩, -, hhalted⟩ := h
    rw [htrouble, hhalted]
    rfl

/-- A window that plays has a loop that does not break down. -/
theorem InMode.waits (h : w.InMode .playing) : w.machine.stepper.breaksDown = false := by
  have hworker : (w.machine.started && !w.machine.stepper.breaksDown) = true := h.2.2.1
  simpa using (Bool.and_eq_true_iff.mp hworker).2

/-- A window that has stalled has a loop that breaks down. -/
theorem InMode.breaksDown (h : w.InMode .stalled) : w.machine.stepper.breaksDown = true := by
  obtain ⟨-, -, hrest, -, hstarted⟩ := h
  rcases Machine.running_eq_false_iff.mp hrest with hnot | hbroken
  · exact absurd (hnot.symm.trans hstarted) nofun
  · exact hbroken

/-- Only a window that plays has a running machine. -/
theorem InMode.playing_of_running {mode : Mode} (h : w.InMode mode) (hrunning : w.machine.running = true) :
    w.InMode .playing := by
  cases mode with
  | playing => exact h
  | paused | faulted | stalled => exact absurd (hrunning.symm.trans h.2.2.1) nofun

/-- A window in one of the modes, where only a slow machine is not halted. -/
structure Sound (home w : Window) : Prop where
  keeps : home.Keeps w
  mode : ∃ mode, w.InMode mode
  slow : w.machine.halted = false → w.machine.isSlow = true

/-- A machine at rest without a fault starts to play, if it is slow, or runs into a fault. -/
theorem sound_of_start? (hkeeps : home.Keeps w) (hfault : w.machine.fault = none)
    (hrest : w.machine.running = false) (hrates : w.machine.settings.zeroPeriod = false)
    (hpaused : w.paused = false) (htrouble : w.trouble = none)
    {turn : Turn Window (Except Refusal Unit)} (h : w.start? limit = some turn) :
    turn.result = .ok () ∧ home.Sound turn.state ∧
      ∃ mode, mode ≠ .paused ∧ turn.state.InMode mode := by
  obtain ⟨started, hstart, rfl⟩ := Option.map_eq_some_iff.mp h
  obtain ⟨hresult, n, q, ending, hleft, hending⟩ :=
    Machine.start?_cases hfault hrest hrates hkeeps.renderer hkeeps.listener hstart
  have hkept : home.Keeps (w.absorb started.state started.events) := by
    rw [absorb_eq, hleft]
    exact hkeeps.update Machine.left_settings Machine.left_renderer Machine.left_listener
  have hmode : ∃ mode, mode ≠ .paused ∧ (w.absorb started.state started.events).InMode mode := by
    rw [absorb_eq, hleft]
    rcases hending with ⟨rfl, -, hreports⟩ | ⟨f, rfl, hreports⟩
    · rw [hreports]
      have hrunning := @Machine.running_left w.machine q n .waiting
      have hclean : (w.machine.left n q .waiting).halted = false := by
        simp [Machine.halted, Machine.left, hfault]
      -- Of the loop that waits the window is told nothing, whether it breaks down or not.
      cases hbroken : w.machine.stepper.breaksDown with
      | false =>
        rw [hbroken] at hrunning
        exact ⟨.playing, by decide, hpaused, htrouble, hrunning, hclean⟩
      | true =>
        rw [hbroken] at hrunning
        exact ⟨.stalled, by decide, hpaused, htrouble, hrunning, hclean, rfl⟩
    · rw [hreports]
      exact ⟨.faulted, by decide, hpaused, ⟨f, rfl, rfl⟩, rfl, rfl⟩
  obtain ⟨mode, hnext, hin⟩ := hmode
  refine ⟨hresult, ⟨hkept, ⟨mode, hin⟩, ?_⟩, mode, hnext, hin⟩
  rw [absorb_eq, hleft]
  rcases hending with ⟨rfl, hslow, -⟩ | ⟨f, rfl, -⟩
  · exact fun _ => hslow
  · intro hclean
    cases hclean

/-! ## Single events -/

/-- An event, the window to which it happened, and what came of it. -/
structure Handling where
  before : Window
  event : WindowEvent
  turn : Turn Window (Except Refusal Bool)

/-- What comes of an event in a window that was once opened. -/
structure Handling.Lawful (opened : Window) (x : Handling) : Prop where
  result : x.turn.result = .ok x.event.closes
  leads : ∃ mode next, x.before.InMode mode ∧ mode.Leads x.event next ∧ x.turn.state.InMode next
  stuck : x.event = .keyDown .f1 → x.before.InMode .faulted → x.turn.state = x.before
  anew : x.event = .keyDown .f2 → x.turn.state = { opened with showInside := x.before.showInside }

theorem togglePause?_of_unpaused (hpaused : w.paused = false) (hclean : w.machine.halted = false)
    (limit : Nat) :
    w.togglePause? limit =
      some ⟨{ w with paused := true, machine := w.machine.rest }, w.machine.stop.events, .ok ()⟩ := by
  have hstop := stop_state { w with paused := true }
  rw [togglePause?, if_neg (by simp [hclean]), if_neg (by simp [hpaused])]
  dsimp only
  rw [hstop]
  rfl

theorem togglePause?_of_paused (h : w.InMode .paused) (limit : Nat) :
    w.togglePause? limit = { w with paused := false }.start? limit := by
  obtain ⟨hpaused, -, -, hclean⟩ := h
  rw [togglePause?, hclean, hpaused]
  rfl

theorem togglePause?_of_faulted (h : w.InMode .faulted) (limit : Nat) :
    w.togglePause? limit = some ⟨w, [], .ok ()⟩ := by
  obtain ⟨-, -, -, hhalted⟩ := h
  rw [togglePause?, if_pos hhalted]

/-- Once the machine is stopped the window is paused. -/
theorem inMode_paused (htrouble : w.trouble = none) (hclean : w.machine.halted = false) :
    ({ w with paused := true, machine := w.machine.rest } : Window).InMode .paused :=
  ⟨rfl, htrouble, rfl, hclean⟩

/-- The key that pauses and resumes changes nothing after a fault. -/
theorem sound_of_togglePause? (hrates : home.machine.settings.zeroPeriod = false) (h : home.Sound w)
    {turn : Turn Window (Except Refusal Unit)} (hturn : w.togglePause? limit = some turn) :
    turn.result = .ok () ∧ home.Sound turn.state ∧ (w.InMode .faulted → turn.state = w) ∧
      ∃ mode next, w.InMode mode ∧ mode.Leads (.keyDown .f1) next ∧ turn.state.InMode next := by
  obtain ⟨mode, hmode⟩ := h.mode
  have hother : mode ≠ .faulted → w.InMode .faulted → turn.state = w :=
    fun hne hfaulted => absurd (hmode.unique hfaulted) hne
  cases mode with
  | playing =>
    rw [togglePause?_of_unpaused hmode.1 hmode.2.2.2] at hturn
    cases hturn
    have hin := inMode_paused hmode.2.1 hmode.2.2.2
    exact ⟨rfl, ⟨h.keeps.update rfl rfl rfl, ⟨_, hin⟩, h.slow⟩, hother (by decide), _, _, hmode, .pause,
      hin⟩
  | stalled =>
    rw [togglePause?_of_unpaused hmode.1 hmode.2.2.2.1] at hturn
    cases hturn
    have hin := inMode_paused hmode.2.1 hmode.2.2.2.1
    exact ⟨rfl, ⟨h.keeps.update rfl rfl rfl, ⟨_, hin⟩, h.slow⟩, hother (by decide), _, _, hmode,
      .pauseStalled, hin⟩
  | paused =>
    rw [togglePause?_of_paused hmode] at hturn
    have hclean : w.machine.fault = none := by simpa [Machine.halted] using hmode.2.2.2
    have hkeeps : home.Keeps { w with paused := false } := h.keeps.update rfl rfl rfl
    have hpaced : w.machine.settings.zeroPeriod = false := by rw [h.keeps.settings, hrates]
    obtain ⟨hresult, hsound, next, hnext, hin⟩ :=
      sound_of_start? hkeeps hclean hmode.2.2.1 hpaced rfl hmode.2.1 hturn
    exact ⟨hresult, hsound, hother (by decide), _, next, hmode, .resume hnext, hin⟩
  | faulted =>
    rw [togglePause?_of_faulted hmode] at hturn
    cases hturn
    exact ⟨rfl, h, fun _ => rfl, _, _, hmode, .stuck, hmode⟩

variable {opened : Turn Window (Except Refusal Unit)}

/-- What comes of opening a window. -/
theorem sound_of_opened (hhome : home.AtStart) (hrates : home.machine.settings.zeroPeriod = false)
    (hopen : home.start? limit = some opened) :
    opened.result = .ok () ∧ home.Sound opened.state ∧
      ∃ mode, mode ≠ .paused ∧ opened.state.InMode mode :=
  sound_of_start? hhome.keeps hhome.fault (Machine.running_of_not_started hhome.started) hrates
    hhome.paused hhome.trouble hopen

theorem lawful_of_handle? (hhome : home.AtStart) (hrates : home.machine.settings.zeroPeriod = false)
    (hopen : home.start? limit = some opened) (h : home.Sound w) {event : WindowEvent} {limit' : Nat}
    {turn : Turn Window (Except Refusal Bool)}
    (hturn : w.handle? limit' event = some turn) :
    home.Sound turn.state ∧ Handling.Lawful opened.state ⟨w, event, turn⟩ := by
  by_cases hf1 : event = .keyDown .f1
  · subst hf1
    obtain ⟨toggled, htoggle, rfl⟩ := Option.map_eq_some_iff.mp hturn
    obtain ⟨hresult, hsound, hstuck, hleads⟩ := sound_of_togglePause? hrates h htoggle
    refine ⟨hsound, ?_, hleads, fun _ => hstuck, by simp⟩
    dsimp only
    rw [hresult]
    rfl
  by_cases hf2 : event = .keyDown .f2
  · subst hf2
    obtain ⟨restarted, hrestart, rfl⟩ := Option.map_eq_some_iff.mp hturn
    rw [restart?_eq hhome hrates h.keeps] at hrestart
    obtain ⟨opened', hopen', rfl⟩ := Option.map_eq_some_iff.mp hrestart
    obtain rfl := start?_unique hopen hopen'
    obtain ⟨-, hsound, next, hnext, hin⟩ := sound_of_opened hhome hrates hopen
    obtain ⟨mode, hmode⟩ := h.mode
    have hin' : ({ opened.state with showInside := w.showInside } : Window).InMode next := by
      cases next <;> exact hin
    exact ⟨⟨hsound.keeps.update rfl rfl rfl, ⟨next, hin'⟩, hsound.slow⟩, rfl,
      ⟨mode, next, hmode, .restart hnext, hin'⟩, by simp, fun _ => rfl⟩
  obtain ⟨processor, showInside, hhandle⟩ := handle?_of_other hf1 hf2 w limit'
  cases hhandle.symm.trans hturn
  obtain ⟨mode, hmode⟩ := h.mode
  have hin : ({ w with machine := { w.machine with processor }, showInside } : Window).InMode mode := by
    cases mode <;> exact hmode
  exact ⟨⟨h.keeps.update rfl rfl rfl, ⟨mode, hin⟩, h.slow⟩, rfl,
    ⟨mode, mode, hmode, .other hf1 hf2, hin⟩, fun hevent => absurd hevent hf1,
    fun hevent => absurd hevent hf2⟩

/-- When a window could be opened, every event can be handled with the same limit. -/
theorem exists_handle? (hhome : home.AtStart) (hrates : home.machine.settings.zeroPeriod = false)
    (hopen : home.start? limit = some opened) (h : home.Sound w) (event : WindowEvent) :
    ∃ turn, w.handle? limit event = some turn := by
  by_cases hf1 : event = .keyDown .f1
  · subst hf1
    obtain ⟨turn, htoggle⟩ : ∃ turn, w.togglePause? limit = some turn := by
      obtain ⟨mode, hmode⟩ := h.mode
      cases mode with
      | playing => exact ⟨_, togglePause?_of_unpaused hmode.1 hmode.2.2.2 limit⟩
      | stalled => exact ⟨_, togglePause?_of_unpaused hmode.1 hmode.2.2.2.1 limit⟩
      | faulted => exact ⟨_, togglePause?_of_faulted hmode limit⟩
      | paused =>
        obtain ⟨started, hstart⟩ := Machine.exists_start?_of_slow (h.slow hmode.2.2.2) limit
        rw [togglePause?_of_paused hmode]
        exact ⟨_, Option.map_eq_some_iff.mpr ⟨started, hstart, rfl⟩⟩
    exact ⟨_, Option.map_eq_some_iff.mpr ⟨turn, htoggle, rfl⟩⟩
  by_cases hf2 : event = .keyDown .f2
  · subst hf2
    obtain ⟨turn, hrestart⟩ : ∃ turn, w.restart? limit = some turn := by
      rw [restart?_eq hhome hrates h.keeps, hopen]
      exact ⟨_, rfl⟩
    exact ⟨_, Option.map_eq_some_iff.mpr ⟨turn, hrestart, rfl⟩⟩
  obtain ⟨processor, showInside, hhandle⟩ := handle?_of_other hf1 hf2 w limit
  exact ⟨_, hhandle⟩

/-! ## Many events -/

/-- Events that are handled one after the other, and the window after the last one. -/
inductive Course : Window → List Handling → Window → Prop where
  | nil (w : Window) : Course w [] w
  | cons {w event limit turn rest last} (hturn : w.handle? limit event = some turn)
    (hrest : Course turn.state rest last) : Course w (⟨w, event, turn⟩ :: rest) last

/-- The events that are handled of those that happen turn by turn: none after a turn in which the window is
closed, and one that closes it when no turns are left. -/
def handledOf : List (List WindowEvent) → List WindowEvent
  | [] => [.quit]
  | events :: rest =>
    if events.any WindowEvent.closes then events else events ++ handledOf rest

variable {course more : List Handling} {between : Window}

theorem Course.append (h : w.Course course between) (hmore : between.Course more last) :
    w.Course (course ++ more) last := by
  induction h with
  | nil w => exact hmore
  | cons hturn hrest ih => exact .cons hturn (ih hmore)

section Opened

variable (hhome : home.AtStart) (hrates : home.machine.settings.zeroPeriod = false)
  (hopen : home.start? limit = some opened)

include hhome hrates hopen

theorem lawful_of_course (h : home.Sound w) (hcourse : w.Course course last) :
    home.Sound last ∧ ∀ x ∈ course, x.Lawful opened.state := by
  induction hcourse with
  | nil w => exact ⟨h, fun x hx => absurd hx List.not_mem_nil⟩
  | cons hturn hrest ih =>
    obtain ⟨hnext, hfirst⟩ := lawful_of_handle? hhome hrates hopen h hturn
    obtain ⟨hlast, hothers⟩ := ih hnext
    refine ⟨hlast, ?_⟩
    intro x hx
    rcases List.mem_cons.mp hx with rfl | hx
    · exact hfirst
    · exact hothers x hx

/-- The events of a turn are all handled, and they close the window if one of them does. -/
theorem exists_handleAll? (h : home.Sound w) (events : List WindowEvent) :
    ∃ turn course, w.handleAll? limit events = some turn ∧ w.Course course turn.state ∧
      course.map Handling.event = events ∧ turn.result = .ok (events.any WindowEvent.closes) := by
  induction events generalizing w with
  | nil => exact ⟨_, [], rfl, .nil w, rfl, rfl⟩
  | cons event rest ih =>
    obtain ⟨first, hfirst⟩ := exists_handle? hhome hrates hopen h event
    obtain ⟨hnext, hlawful⟩ := lawful_of_handle? hhome hrates hopen h hfirst
    obtain ⟨others, course, hothers, hcourse, hevents, hclosed⟩ := ih hnext
    have hresult : first.result = .ok event.closes := hlawful.result
    refine ⟨⟨others.state, first.events ++ others.events, others.result.map (event.closes || ·)⟩,
      ⟨w, event, first⟩ :: course, ?_, .cons hfirst hcourse, ?_, ?_⟩
    · simp only [handleAll?, hfirst, Option.bind_eq_bind, Option.bind_some, hresult, hothers]
      rfl
    · rw [List.map_cons, hevents]
    · dsimp only
      rw [hclosed, List.any_cons]
      rfl

theorem exists_turns? (h : home.Sound w) (batches : List (List WindowEvent)) :
    ∃ turn frames course, w.turns? limit batches = some turn ∧ turn.result = .ok frames ∧
      w.Course course turn.state ∧ course.map Handling.event = handledOf batches := by
  induction batches generalizing w with
  | nil =>
    obtain ⟨turn, course, hturn, hcourse, hevents, hclosed⟩ := exists_handleAll? hhome hrates hopen h [.quit]
    refine ⟨⟨turn.state, turn.events, turn.result.map fun _ => [turn.state.view]⟩, [turn.state.view],
      course, ?_, ?_, hcourse, hevents⟩
    · simp only [turns?, hturn, Option.bind_eq_bind, Option.bind_some]
      rfl
    · dsimp only
      rw [hclosed]
      rfl
  | cons events rest ih =>
    obtain ⟨turn, course, hturn, hcourse, hevents, hclosed⟩ := exists_handleAll? hhome hrates hopen h events
    rw [handledOf]
    cases hcloses : events.any WindowEvent.closes with
    | true =>
      refine ⟨⟨turn.state, turn.events, .ok [turn.state.view]⟩, _, course, ?_, rfl, hcourse, hevents⟩
      simp only [turns?, hturn, Option.bind_eq_bind, Option.bind_some, hclosed, hcloses]
      rfl
    | false =>
      obtain ⟨hnext, -⟩ := lawful_of_course hhome hrates hopen h hcourse
      obtain ⟨others, frames, more, hothers, hframes, hmore, hhandled⟩ := ih hnext
      refine ⟨⟨others.state, turn.events ++ others.events, others.result.map (turn.state.view :: ·)⟩,
        turn.state.view :: frames, course ++ more, ?_, ?_, hcourse.append hmore, ?_⟩
      · simp only [turns?, hturn, Option.bind_eq_bind, Option.bind_some, hclosed, hcloses, hothers]
        rfl
      · dsimp only
        rw [hframes]
        rfl
      · rw [List.map_append, hevents, hhandled]
        rfl

/-- All turns are played, and in the end the machine is stopped. -/
theorem exists_play? (batches : List (List WindowEvent)) :
    ∃ turn frames course last, home.play? limit batches = some turn ∧ turn.result = .ok frames ∧
      opened.state.Course course last ∧ course.map Handling.event = handledOf batches ∧
      turn.state = { last with machine := last.machine.rest } := by
  obtain ⟨hresult, hsound, -⟩ := sound_of_opened hhome hrates hopen
  obtain ⟨played, frames, course, hplayed, hframes, hcourse, hevents⟩ :=
    exists_turns? hhome hrates hopen hsound batches
  refine ⟨⟨played.state.stop.state, opened.events ++ played.events ++ played.state.stop.events,
    played.result⟩, frames, course, played.state, ?_, hframes, hcourse, hevents, played.state.stop_state⟩
  simp only [play?, hopen, Option.bind_eq_bind, Option.bind_some, hresult, hplayed]
  rfl

end Opened

/-- With an infinite rate nothing comes of opening a window. -/
theorem play?_of_zeroPeriod (hfault : w.machine.fault = none) (hstarted : w.machine.started = false)
    (hzero : w.machine.settings.zeroPeriod = true) (limit : Nat) (batches : List (List WindowEvent)) :
    w.play? limit batches = some ⟨w, [], .error .zeroPeriod⟩ := by
  have hsame : w.stop = ⟨w, [], ()⟩ := by
    rw [stop, Machine.stop, Machine.rest_of_not_started hstarted, Machine.running_of_not_started hstarted]
    rfl
  rw [play?, start?_of_zeroPeriod hfault hstarted hzero]
  simp only [Option.bind_eq_bind, Option.bind_some, hsame]
  rfl

/-- **A window is in one of its modes.** Let a window be put around a new machine, and let it be opened, which
fails with an infinite rate: then the session ends with this error, no event is handled, and nothing else has
happened. Otherwise the window plays, or a fault has ended that. Whatever events happen to it, it is in exactly
one mode afterwards, and each of them leads from one mode to another as it has to: the key that pauses does
nothing after a fault, and to begin anew comes to what the window was when it was opened. Instead of playing
it has stalled when the period of the loop is longer than any wait, and only then. Whatever happens turn by
turn, the window comes to its end with these events. Then the machine is at rest, and the exit code of the
session is one when the machine is halted and zero when it is not. -/
theorem modes_of_course {rom : Rom} {random : RandomKey} {steps ticks : Rate} {threshold : Level}
    {renderer : Renderer} {listener : Listener} {m : Machine} {o : Options}
    (hnew : Machine.create rom random steps ticks threshold renderer listener = .ok m)
    (hopen : (attach m rom o.scale o.scheme o.grid).start? limit = some opened) :
    (m.settings.zeroPeriod = true →
      opened = ⟨attach m rom o.scale o.scheme o.grid, [], .error .zeroPeriod⟩ ∧
      ∀ limit' batches,
        (attach m rom o.scale o.scheme o.grid).play? limit' batches =
          some ⟨attach m rom o.scale o.scheme o.grid, [], .error .zeroPeriod⟩ ∧
        ∀ said, Session.runWindow? limit' o rom m said batches =
          some (.error (.refused .zeroPeriod))) ∧
    (m.settings.zeroPeriod = false →
      opened.result = .ok () ∧ (∃ mode, mode ≠ .paused ∧ opened.state.InMode mode) ∧
      (∀ course last, opened.state.Course course last →
        (∃! mode, last.InMode mode) ∧
        (last.InMode .playing → m.stepper.breaksDown = false) ∧
        (last.InMode .stalled → m.stepper.breaksDown = true) ∧
        ∀ x ∈ course, x.Lawful opened.state) ∧
      ∀ batches, ∃ turn frames course last,
        (attach m rom o.scale o.scheme o.grid).play? limit batches = some turn ∧
        turn.result = .ok frames ∧ opened.state.Course course last ∧
        course.map Handling.event = handledOf batches ∧
        turn.state = { last with machine := last.machine.rest } ∧
        ∀ said, ∃ outcome, Session.runWindow? limit o rom m said batches = some (.ok outcome) ∧
          outcome.machine = some turn.state.machine ∧ turn.state.machine.running = false ∧
          outcome.exitCode = if turn.state.machine.halted then 1 else 0) := by
  have hhome := atStart_attach hnew o.scale o.scheme o.grid
  constructor
  · intro hzero
    have hstart := start?_of_zeroPeriod hhome.fault hhome.started hzero limit
    have hplay := play?_of_zeroPeriod hhome.fault hhome.started hzero
    refine ⟨Option.some.inj (hopen.symm.trans hstart), fun limit' batches =>
      ⟨hplay limit' batches, fun said => ?_⟩⟩
    simp only [Session.runWindow?, hplay, Option.map_some]
  · intro hrates
    obtain ⟨hresult, hsound, hmode⟩ := sound_of_opened hhome hrates hopen
    refine ⟨hresult, hmode, ?_, ?_⟩
    · intro course last hcourse
      obtain ⟨hlast, hlawful⟩ := lawful_of_course hhome hrates hopen hsound hcourse
      obtain ⟨next, hnext⟩ := hlast.mode
      have hperiod : last.machine.stepper.breaksDown = m.stepper.breaksDown :=
        Machine.breaksDown_of_settings hlast.keeps.settings
      exact ⟨⟨next, hnext, fun _ hother => hother.unique hnext⟩,
        fun hplaying => hperiod.symm.trans hplaying.waits,
        fun hstalled => hperiod.symm.trans hstalled.breaksDown, hlawful⟩
    · intro batches
      obtain ⟨turn, frames, course, last, hplay, hframes, hcourse, hevents, hstate⟩ :=
        exists_play? hhome hrates hopen batches
      refine ⟨turn, frames, course, last, hplay, hframes, hcourse, hevents, hstate, fun said => ?_⟩
      obtain ⟨hlast, -⟩ := lawful_of_course hhome hrates hopen hsound hcourse
      obtain ⟨next, hnext⟩ := hlast.mode
      refine ⟨⟨if turn.state.trouble.isSome then 1 else 0, said ++ Session.messagesOf turn.events,
        some turn.state.machine, none⟩, ?_, rfl, by rw [hstate]; rfl, ?_⟩
      · simp only [Session.runWindow?, hplay, Option.map_some, hframes]
      · have htrouble : turn.state.trouble.isSome = turn.state.machine.halted := by
          rw [hstate]
          exact hnext.trouble_isSome
        rw [htrouble]

/-- A machine is paused after its first step, and when it is resumed its second one fails. -/
theorem modes_of_course_of_resumed :
    ∃ (m : Machine) (o : Options) (opened : Turn Window (Except Refusal Unit))
      (outcome : Session.Outcome),
      Machine.create [0x60, 0x01, 0x00, 0xEE] ⟨0, 0⟩ (.real 0.001) (.real 0.001) .info .absent .absent =
        .ok m ∧
      (attach m [0x60, 0x01, 0x00, 0xEE] o.scale o.scheme o.grid).start? 0 = some opened ∧
      opened.state.InMode .playing ∧
      Session.runWindow? 0 o [0x60, 0x01, 0x00, 0xEE] m []
        [[.keyDown .f1], [.keyDown .f3, .keyDown .f1]] = some (.ok outcome) ∧
      outcome.exitCode = 1 := by
  let o : Options :=
    { headless := false, steps := 0, rate := .real 0.001, scale := 8, scheme := .classic, grid := false,
      screenshot := none, seed := 0, level := .info, rom := "rom" }
  have hrun : ((Machine.create [0x60, 0x01, 0x00, 0xEE] ⟨0, 0⟩ (.real 0.001) (.real 0.001) .info .absent
      .absent).toOption.bind fun m =>
        ((attach m [0x60, 0x01, 0x00, 0xEE] 8 .classic false).start? 0).bind fun opened =>
          ((attach m [0x60, 0x01, 0x00, 0xEE] 8 .classic false).play? 0
            [[.keyDown .f1], [.keyDown .f3, .keyDown .f1]]).map fun turn =>
              (m.settings.zeroPeriod, opened.state.machine.running, turn.state.machine.halted)) =
      some (false, true, true) := by decide +kernel
  obtain ⟨m, hm, hopens⟩ := Option.bind_eq_some_iff.mp hrun
  obtain ⟨opened, hopen, hplays⟩ := Option.bind_eq_some_iff.mp hopens
  obtain ⟨turn, hplay, hlast⟩ := Option.map_eq_some_iff.mp hplays
  obtain ⟨hrates, hlast⟩ := Prod.mk.inj hlast
  obtain ⟨hrunning, hhalted⟩ := Prod.mk.inj hlast
  have hnew := Machine.eq_ok_of_toOption hm
  obtain ⟨-, hmodes⟩ := modes_of_course (o := o) hnew hopen
  obtain ⟨-, ⟨mode, -, hmode⟩, -, hplayed⟩ := hmodes hrates
  obtain ⟨turn', -, -, -, hplay', -, -, -, -, hsession⟩ :=
    hplayed [[.keyDown .f1], [.keyDown .f3, .keyDown .f1]]
  cases hplay.symm.trans hplay'
  obtain ⟨outcome, hsession, -, -, hcode⟩ := hsession []
  refine ⟨m, o, opened, outcome, hnew, hopen, hmode.playing_of_running hrunning, hsession, ?_⟩
  rw [hcode, hhalted]
  rfl

/-- It is not so that a window is in one of the first three modes once it is opened: with an infinite rate it has
noticed nothing of the failure, and nothing runs. -/
theorem not_mode_of_opened :
    ¬ ∀ (rom : Rom) (random : RandomKey) (steps ticks : Rate) (threshold : Level) (m : Machine) (limit : Nat)
      (opened : Turn Window (Except Refusal Unit)),
      Machine.create rom random steps ticks threshold .absent .absent = .ok m →
      (attach m rom 8 .classic false).start? limit = some opened →
      opened.state.InMode .playing ∨ opened.state.InMode .paused ∨ opened.state.InMode .faulted := by
  intro hclaim
  have hrun : ((Machine.create [0x60, 0x05, 0x00, 0xEE] ⟨0, 0⟩ (.real (1.0 / 0.0)) (.whole 60) .info .absent
      .absent).toOption.map fun m => m.settings.zeroPeriod) = some true := by decide +kernel
  obtain ⟨m, hm, hzero⟩ := Option.map_eq_some_iff.mp hrun
  have hnew := Machine.eq_ok_of_toOption hm
  have hhome := atStart_attach hnew 8 .classic false
  have hrest := Machine.running_of_not_started hhome.started
  have hopen := start?_of_zeroPeriod hhome.fault hhome.started hzero 0
  rcases hclaim _ _ _ _ _ m 0 _ hnew hopen with hin | hin | hin
  · exact absurd (hrest.symm.trans hin.2.2.1) nofun
  · exact absurd hin.1 nofun
  · obtain ⟨-, ⟨f, htrouble, -⟩, -⟩ := hin
    cases htrouble

end Window

end Chip8
