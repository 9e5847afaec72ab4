import Chip8.Proofs.Machine.Frames

/-!
# What a window does

The operations of a window, said once for each of the ways in which they can come out, when its machine is
shown to it and reports to it.

* `Machine.start?_cases`: what a start comes to.
* `Window.Keeps`, `Window.AtStart`: what no event changes, and windows that have not been opened yet.
* `restart?_eq`: to begin anew comes to the same as to open the window.
* `handle?_of_other`: events that do not concern the loops.
-/

namespace Chip8

attribute [ext] Machine Window

/-- A loop whose screens can all be shown ends with a fault, or waits if it is slow. -/
theorem LoopRun.ending_cases {lost? : Instruction → Option HostFailure} {slow : Bool}
    {p q : Processor} {n : Nat} {ending : LoopEnd} (h : LoopRun lost? slow p n q ending)
    (hshown : ∀ i, lost? i = none) :
    (ending = .waiting ∧ slow = true) ∨ ∃ f, ending = .fault f := by
  induction h with
  | fault hstep => exact .inr ⟨_, rfl⟩
  | lost hstep hlost => exact absurd (hlost.symm.trans (hshown _)) nofun
  | wait hslow => exact .inl ⟨rfl, hslow⟩
  | next hslow hstep hnext hrest ih => exact ih

namespace Machine

variable {m : Machine} {limit : Nat}

/-- What a start comes to when the renderer keeps every screen and the listener hears of every fault: the
loops wait, which only slow ones do, or a fault has ended them, and the listener was told of it. -/
theorem start?_cases (hfault : m.fault = none) (hrest : m.running = false)
    (hrates : m.settings.zeroPeriod = false) (hrenderer : m.renderer = .faithful)
    (hlistener : m.listener = .attentive) {started : Turn Machine (Except Refusal Unit)}
    (h : m.start? limit = some started) :
    started.result = .ok () ∧ ∃ n q ending, started.state = m.left n q ending ∧
      ((ending = .waiting ∧ m.isSlow = true ∧ reportsOf started.events = []) ∨
        ∃ f, ending = .fault f ∧ reportsOf started.events = [.fault f]) := by
  rw [start?_of_rest hfault hrest hrates] at h
  obtain ⟨⟨last, events⟩, hbegin, rfl⟩ := Option.map_eq_some_iff.mp h
  obtain ⟨n, q, ending, hloop, rfl, rfl⟩ := loopRun_of_begun hfault hbegin
  refine ⟨rfl, n, q, ending, rfl, ?_⟩
  simp only [reportsOf_append, reportsOf_say, reportsOf_during, List.nil_append]
  rcases hloop.ending_cases (lost?_of_faithful hrenderer) with ⟨rfl, hslow⟩ | ⟨f, rfl⟩
  · exact .inl ⟨rfl, hslow, rfl⟩
  · refine .inr ⟨f, rfl, ?_⟩
    have htell : m.tell (.fault f) = [.report (.fault f)] := by
      rw [tell, hlistener]
    rw [parting, htell, reportsOf_append, reportsOf_append, reportsOf_say, reportsOf_say]
    rfl

/-- A slow machine can always be started. -/
theorem exists_start?_of_slow (hslow : m.isSlow = true) (limit : Nat) :
    ∃ started, m.start? limit = some started := by
  cases hfault : m.fault with
  | some cause => exact ⟨_, start?_of_halted hfault⟩
  | none =>
    cases hrunning : m.running with
    | true => exact ⟨_, start?_of_running hfault hrunning⟩
    | false =>
      cases hrates : m.settings.zeroPeriod with
      | true => exact ⟨_, start?_of_zeroPeriod hfault hrunning hrates⟩
      | false =>
        rw [← isSlow_begun] at hslow
        have hbegin : m.begun.begin? limit = some m.begun.loopStep := if_pos hslow
        rw [start?_of_rest hfault hrunning hrates, hbegin]
        exact ⟨_, rfl⟩

end Machine

/-- Whether the event closes the window. -/
def WindowEvent.closes (event : WindowEvent) : Bool :=
  event matches .quit | .keyDown .escape

namespace Window

variable {w home : Window} {limit : Nat}

theorem stop_state (w : Window) : w.stop.state = { w with machine := w.machine.rest } := by
  unfold stop
  dsimp only
  rw [absorb_eq, Machine.framesOf_stop, Machine.reportsOf_stop]
  rfl

/-! ## Starts and restarts -/

theorem start?_mono {limit' : Nat} {turn : Turn Window (Except Refusal Unit)} (hle : limit ≤ limit')
    (h : w.start? limit = some turn) : w.start? limit' = some turn := by
  obtain ⟨started, hstart, hturn⟩ := Option.map_eq_some_iff.mp h
  exact Option.map_eq_some_iff.mpr ⟨started, Machine.start?_mono hle hstart, hturn⟩

/-- However long a start may take, there is one answer at most. -/
theorem start?_unique {limit' : Nat} {turn turn' : Turn Window (Except Refusal Unit)}
    (h : w.start? limit = some turn) (h' : w.start? limit' = some turn') : turn = turn' := by
  have hmax := start?_mono (Nat.le_max_left limit limit') h
  have hmax' := start?_mono (Nat.le_max_right limit limit') h'
  exact Option.some.inj (hmax.symm.trans hmax')

/-- What no event changes of a window. -/
structure Keeps (home w : Window) : Prop where
  rom : w.rom = home.rom
  scale : w.scale = home.scale
  scheme : w.scheme = home.scheme
  grid : w.grid = home.grid
  settings : w.machine.settings = home.machine.settings
  renderer : w.machine.renderer = .faithful
  listener : w.machine.listener = .attentive

theorem Keeps.update (h : home.Keeps w) {machine : Machine} {showInside paused : Bool}
    {trouble : Option Trouble} {shown : Screen} (hsettings : machine.settings = w.machine.settings)
    (hrenderer : machine.renderer = w.machine.renderer)
    (hlistener : machine.listener = w.machine.listener) :
    home.Keeps { w with machine, showInside, paused, trouble, shown } :=
  ⟨h.rom, h.scale, h.scheme, h.grid, hsettings.trans h.settings, hrenderer.trans h.renderer,
    hlistener.trans h.listener⟩

/-- A window that has not been opened yet. -/
structure AtStart (home : Window) : Prop where
  boot : Processor.boot? home.machine.settings.random home.rom = some home.machine.processor
  fault : home.machine.fault = none
  count : home.machine.count = 0
  started : home.machine.started = false
  paused : home.paused = false
  trouble : home.trouble = none
  shown : home.shown = home.machine.processor.screen
  keeps : home.Keeps home

theorem atStart_attach {rom : Rom} {random : RandomKey} {steps ticks : Rate} {threshold : Level}
    {renderer : Renderer} {listener : Listener} {m : Machine}
    (hnew : Machine.create rom random steps ticks threshold renderer listener = .ok m) (scale : Int)
    (scheme : Scheme) (grid : Bool) : (attach m rom scale scheme grid).AtStart := by
  obtain ⟨processor, stepPeriod, tickPeriod, hboot, -, -, rfl⟩ := Machine.create_eq_ok_iff.mp hnew
  have hblank : processor.screen = Screen.blank := by
    obtain ⟨memory, rfl⟩ := Processor.boot?_eq_some hboot
    rfl
  exact ⟨hboot, rfl, rfl, rfl, rfl, rfl, hblank.symm, ⟨rfl, rfl, rfl, rfl, rfl, rfl, rfl⟩⟩

/-- A reset of a machine that was started with this program makes it a new one. -/
theorem restarted_eq (hhome : home.AtStart) (hkeeps : home.Keeps w) :
    w.machine.restarted home.machine.processor = home.machine :=
  Machine.ext hkeeps.settings (hkeeps.renderer.trans hhome.keeps.renderer.symm)
    (hkeeps.listener.trans hhome.keeps.listener.symm) rfl hhome.fault.symm hhome.count.symm
    hhome.started.symm

/-- What the window shows of the inside makes no difference to a start. -/
theorem start?_showInside (home : Window) (showInside : Bool) :
    { home with showInside }.start? limit =
      (home.start? limit).map fun opened =>
        ⟨{ opened.state with showInside }, opened.events, opened.result⟩ := by
  unfold start?
  rw [Option.map_map]
  congr 1
  funext turn
  simp only [Function.comp_apply, absorb_eq]

/-- With an infinite rate nothing comes of a start. -/
theorem start?_of_zeroPeriod (hfault : w.machine.fault = none) (hstarted : w.machine.started = false)
    (hzero : w.machine.settings.zeroPeriod = true) (limit : Nat) :
    w.start? limit = some ⟨w, [], .error .zeroPeriod⟩ := by
  rw [start?, Machine.start?_of_zeroPeriod hfault (Machine.running_of_not_started hstarted) hzero]
  rfl

/-- To begin anew comes to the same as to open the window, but for what is shown of the inside. -/
theorem restart?_eq (hhome : home.AtStart) (hrates : home.machine.settings.zeroPeriod = false)
    (hkeeps : home.Keeps w) :
    w.restart? limit = (home.start? limit).map fun opened =>
      ⟨{ opened.state with showInside := w.showInside },
        (w.machine.reset w.rom).events ++ opened.events ++ opened.state.machine.say .restarted,
        .ok ()⟩ := by
  have hboot : Processor.boot? w.machine.settings.random w.rom = some home.machine.processor := by
    rw [hkeeps.settings, hkeeps.rom, hhome.boot]
  have hreset := Machine.reset_of_shown hboot (congrArg Renderer.failure? hkeeps.renderer)
  rw [restarted_eq hhome hkeeps, Machine.view_of_faithful hhome.keeps.renderer] at hreset
  have hfresh : { w.absorb home.machine (w.machine.stop.events ++ [.frame home.machine.processor.screen]) with
      trouble := none, paused := false } = { home with showInside := w.showInside } := by
    rw [absorb_eq, framesOf_append, Machine.framesOf_stop]
    exact Window.ext rfl hkeeps.rom hkeeps.scale hkeeps.scheme hkeeps.grid rfl hhome.paused.symm
      hhome.trouble.symm hhome.shown.symm
  unfold restart?
  rw [hreset]
  dsimp only
  rw [hfresh, start?_showInside]
  cases hopen : home.start? limit with
  | none => rfl
  | some opened =>
    obtain ⟨started, hstart, rfl⟩ := Option.map_eq_some_iff.mp hopen
    obtain ⟨hresult, -⟩ := Machine.start?_cases hhome.fault
      (Machine.running_of_not_started hhome.started) hrates hhome.keeps.renderer hhome.keeps.listener hstart
    simp only [Option.map_some, Option.bind_eq_bind, Option.bind_some, hresult]
    rfl

/-! ## Other events -/

theorem passKey_eq (w : Window) (name : KeyName) (change : Processor → Key → Processor) :
    ∃ processor, w.passKey name change = { w with machine := { w.machine with processor } } := by
  unfold passKey
  cases name.key? with
  | none => exact ⟨w.machine.processor, rfl⟩
  | some key => exact ⟨_, rfl⟩

/-- All events but two leave everything but the keys and what is shown of the inside. -/
theorem handle?_of_other {event : WindowEvent} (hf1 : event ≠ .keyDown .f1)
    (hf2 : event ≠ .keyDown .f2) (w : Window) (limit : Nat) :
    ∃ processor showInside, w.handle? limit event =
      some ⟨{ w with machine := { w.machine with processor }, showInside }, [], .ok event.closes⟩ := by
  have hkey : ∀ name change, ∃ processor showInside, some
      (Turn.mk (w.passKey name change) [] (.ok false : Except Refusal Bool)) =
        some ⟨{ w with machine := { w.machine with processor }, showInside }, [], .ok false⟩ := by
    intro name change
    obtain ⟨processor, hpass⟩ := w.passKey_eq name change
    rw [hpass]
    exact ⟨processor, w.showInside, rfl⟩
  cases event with
  | quit | other => exact ⟨w.machine.processor, w.showInside, rfl⟩
  | keyUp name => exact hkey name Processor.release
  | keyDown name =>
    cases name with
    | f1 => exact absurd rfl hf1
    | f2 => exact absurd rfl hf2
    | escape => exact ⟨w.machine.processor, w.showInside, rfl⟩
    | f3 => exact ⟨w.machine.processor, !w.showInside, rfl⟩
    | typed text => exact hkey (.typed text) Processor.press

end Window

end Chip8
