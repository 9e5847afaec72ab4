import Chip8.Proofs.Machine.Work
import Chip8.Proofs.Processor.Effect
import Chip8.Window.Play

/-!
# The renderer keeps up with the screen

A renderer that keeps what it is shown has the screen of the machine, after whatever the machine was asked
for, and it is shown no screen without a reason.

* `framesOf`: the screens that the renderer is shown, among all that the host notices.
* `Processor.pictures`: the screens after those steps of a run that can change it.
* `framesOf_of_answers`: the screens that are shown in an exchange.
* `reportsOf`, `Window.absorb_eq`: what a window makes of the events of its machine.
* `frames_of_history`: the latest screen that was shown, and how many there were.
-/

namespace Chip8

/-- The screens that the renderer is shown. -/
def framesOf (events : List Event) : List Screen :=
  events.filterMap fun
    | .frame screen => some screen
    | _ => none

/-- The latest of some screens, or the one there was before. -/
theorem getLastD_append (before after : List Screen) (screen : Screen) :
    (before ++ after).getLastD screen = after.getLastD (before.getLastD screen) := by
  simp only [List.getLastD_eq_getLast?, List.getLast?_append]
  cases after.getLast? <;> rfl

@[simp] theorem framesOf_nil : framesOf [] = [] := rfl

@[simp] theorem framesOf_append (events more : List Event) :
    framesOf (events ++ more) = framesOf events ++ framesOf more :=
  List.filterMap_append

/-! ## The pictures of a run -/

/-- Whether the step cleared the screen or drew a sprite. -/
def Executed.drawn (step : Executed) : Bool :=
  step.instruction matches .clearScreen | .draw ..

theorem Executed.drawn_eq (step : Executed) : step.drawn = step.instruction.changesScreen := by
  unfold drawn
  cases step.instruction <;> rfl

namespace Processor

variable {p q : Processor}

/-- The screen after an action, if the action completes a step that can be seen on it. -/
def picture (p : Processor) (action : Action) : List Screen :=
  if (p.executed action).any Executed.drawn then [(p.act action).screen] else []

/-- The screens after those steps of a run that can be seen on it. -/
def pictures (p : Processor) (actions : List Action) : List Screen := p.along picture actions

@[simp] theorem pictures_nil (p : Processor) : p.pictures [] = [] := rfl

theorem pictures_cons (p : Processor) (action : Action) (rest : List Action) :
    p.pictures (action :: rest) = p.picture action ++ (p.act action).pictures rest := rfl

theorem step_screen {i : Instruction} (h : p.step = .ok (q, i)) (hquiet : i.changesScreen = false) :
    q.screen = p.screen := by
  obtain ⟨-, -, rfl⟩ := step_eq_ok_iff.mp h
  exact apply_screen p.advance i hquiet

theorem picture_of_ok {i : Instruction} (h : p.step = .ok (q, i)) :
    p.picture .step = if i.changesScreen then [q.screen] else [] := by
  simp only [picture, executed, act, h, Executed.drawn_eq, List.any_cons, List.any_nil, Bool.or_false]

theorem picture_of_error {f : Fault} (h : p.step = .error f) : p.picture .step = [] := by
  simp only [picture, executed, h, List.any_nil, Bool.false_eq_true, if_false]

/-- The screen stays as it is and there is no picture, or a step is completed and there is a picture of what
it drew. -/
theorem picture_cases (p : Processor) (action : Action) :
    ((p.act action).screen = p.screen ∧ p.picture action = [] ∧
      (p.executed action).countP Executed.drawn = 0) ∨
    (p.picture action = [(p.act action).screen] ∧ (p.executed action).countP Executed.drawn = 1) := by
  unfold picture
  rcases p.act_cases action with ⟨i, hstep, hone⟩ | ⟨⟨delay, sound, keypad, hact⟩, hnone⟩
  · rw [hone]
    cases hscreen : i.changesScreen with
    | false => exact Or.inl ⟨step_screen hstep hscreen, by simp [Executed.drawn_eq, hscreen]⟩
    | true => exact Or.inr (by simp [Executed.drawn_eq, hscreen])
  · rw [hnone, hact]
    exact Or.inl ⟨rfl, rfl, rfl⟩

/-- The latest picture of a run is the screen at its end. -/
theorem getLastD_pictures (p : Processor) (actions : List Action) :
    (p.pictures actions).getLastD p.screen = (p.run actions).screen := by
  induction actions generalizing p with
  | nil => rfl
  | cons action rest ih =>
    rw [pictures_cons, run, ← ih]
    rcases p.picture_cases action with ⟨hsame, hnone, -⟩ | ⟨hone, -⟩
    · rw [hnone, hsame, List.nil_append]
    · rw [hone, getLastD_append]
      rfl

/-- There is one picture for each step of a run that can be seen on the screen. -/
theorem length_pictures (p : Processor) (actions : List Action) :
    (p.pictures actions).length = (p.trace actions).countP Executed.drawn := by
  refine p.length_along (fun p action => ?_) actions
  rcases p.picture_cases action with ⟨-, hnone, hcount⟩ | ⟨hone, hcount⟩
  · rw [hnone, hcount]
    rfl
  · rw [hone, hcount]
    rfl

end Processor

/-! ## The frames of an exchange -/

/-- Whether the exchange is a reset that succeeded. -/
def Exchange.renews (x : Exchange) : Bool :=
  (x.request matches .reset _) && x.turn.result.isOk

namespace Machine

variable {m last : Machine} {request : Request} {turn : Turn Machine Answer}

@[simp] theorem framesOf_say (m : Machine) (notice : Notice) : framesOf (m.say notice) = [] := by
  unfold say
  split_ifs <;> rfl

@[simp] theorem framesOf_tell (m : Machine) (trouble : Trouble) : framesOf (m.tell trouble) = [] := by
  unfold tell
  cases m.listener with
  | failing failure => exact m.framesOf_say _
  | _ => rfl

@[simp] theorem framesOf_loss (m : Machine) (failure : HostFailure) : framesOf (m.loss failure) = [] := by
  unfold loss
  split_ifs <;> simp only [framesOf_append, framesOf_say, framesOf_tell, List.append_nil]

@[simp] theorem framesOf_parting (m : Machine) (q : Processor) (ending : LoopEnd) :
    framesOf (m.parting q ending) = [] := by
  cases ending with
  | fault f => simp only [parting, framesOf_append, framesOf_say, framesOf_tell, List.append_nil]
  | lost failure => exact m.framesOf_loss failure
  | waiting => rfl

@[simp] theorem framesOf_stop (m : Machine) : framesOf m.stop.events = [] := by
  unfold stop
  dsimp only
  split_ifs
  · exact m.framesOf_say _
  · rfl

theorem view_of_faithful (h : m.renderer = .faithful) : m.view = [.frame m.processor.screen] := by
  rw [view, h]

theorem lost?_of_faithful (h : m.renderer = .faithful) (i : Instruction) : m.lost? i = none := by
  rw [lost?, h]
  exact ite_self _

theorem framesOf_kept (h : m.renderer = .faithful) {q : Processor} {i : Instruction}
    (hstep : m.processor.step = .ok (q, i)) :
    framesOf ((m.advanced q).kept i) = m.processor.picture .step := by
  rw [Processor.picture_of_ok hstep, kept, view_of_faithful (m := m.advanced q) h]
  split_ifs <;> rfl

/-- What is shown of completed steps, whoever makes them. -/
theorem framesOf_during (h : m.renderer = .faithful) (n : Nat) :
    framesOf (m.during n) = m.processor.pictures (List.replicate n .step) := by
  induction n generalizing m with
  | zero => rfl
  | succ n ih =>
    rw [List.replicate_succ, Processor.pictures_cons]
    cases hstep : m.processor.step with
    | ok made =>
      obtain ⟨q, i⟩ := made
      have hact : m.processor.act .step = q := by simp only [Processor.act, hstep]
      simp only [during_succ hstep, framesOf_append, framesOf_say, framesOf_kept h hstep, hact,
        ih (m := m.advanced q) h]
      rfl
    | error f =>
      -- After an error neither side goes on.
      have hact : m.processor.act .step = m.processor := by simp only [Processor.act, hstep]
      have hnone : framesOf (m.during n) = [] := by
        cases n with
        | zero => rfl
        | succ n => simp only [during, hstep, framesOf_nil]
      rw [Processor.picture_of_error hstep, hact, ← ih h, hnone, during]
      simp only [hstep, framesOf_nil, List.append_nil]

/-- What is shown of the loop, from the first actions on. -/
theorem framesOf_begun (h : m.renderer = .faithful) (n : Nat) :
    framesOf (m.begun.during n) =
      m.processor.pictures (m.firstActions ++ List.replicate n .step) := by
  have hfaithful : m.begun.renderer = .faithful := by rwa [begun_eq]
  have hnone : m.processor.pictures m.firstActions = [] := by
    unfold firstActions
    split_ifs <;> rfl
  have hpictures := m.processor.along_append Processor.picture m.firstActions (List.replicate n .step)
  rw [framesOf_during hfaithful, Processor.pictures, Processor.pictures, hpictures, m.run_firstActions.1]
  rw [Processor.pictures] at hnone
  rw [hnone, List.nil_append]

theorem framesOf_step (h : m.renderer = .faithful) (result : Answer) :
    framesOf m.step.events =
      m.processor.pictures (Exchange.steps ⟨m, .step, m.step.state, m.step.events, result⟩) := by
  cases hfault : m.fault with
  | some cause =>
    have hsteps : ∀ events, Exchange.steps ⟨m, .step, m, events, result⟩ = [] :=
      fun events => steps_of_refused rfl
    rw [step_of_halted hfault, hsteps]
    rfl
  | none =>
    cases hstep : m.processor.step with
    | error f =>
      have hsteps : ∀ events, Exchange.steps ⟨m, .step, m.broken f, events, result⟩ = [] :=
        fun events => steps_of_refused rfl
      rw [step_of_error hfault hstep, hsteps, framesOf_say]
      rfl
    | ok made =>
      obtain ⟨q, i⟩ := made
      have hsteps : ∀ events, Exchange.steps ⟨m, .step, m.advanced q, events, result⟩ = [.step] :=
        fun events => steps_of_done rfl
      rw [step_of_shown hfault hstep (lost?_of_faithful h i), hsteps, framesOf_append,
        framesOf_say, framesOf_kept h hstep]
      exact (List.append_nil _).symm

/-- The pictures of the run are what the renderer is shown, unless the processor is reset. -/
theorem framesOf_of_answers (h : m.renderer = .faithful) (hanswer : m.Answers request turn)
    (hkeeps : ¬ request.clears) :
    framesOf turn.events = m.processor.pictures (Exchange.actions ⟨m, request, turn⟩) := by
  obtain ⟨limit, hturn⟩ := hanswer
  cases request with
  | start =>
    cases hfault : m.fault with
    | some cause =>
      rw [perform?, start?_of_halted hfault] at hturn
      cases hturn
      simp [Exchange.actions, begins, halted, hfault, perform?.silent]
    | none =>
      cases hrunning : m.running with
      | true =>
        rw [perform?, start?_of_running hfault hrunning] at hturn
        cases hturn
        simp [Exchange.actions, begins, hrunning, perform?.silent]
      | false =>
        cases hrates : m.settings.zeroPeriod with
        | true =>
          rw [turn_of_zeroPeriod ⟨limit, hturn⟩ hfault hrunning hrates]
          simp [Exchange.actions, begins, hrates]
        | false =>
          obtain ⟨n, q, ending, -, rfl⟩ := turn_of_start ⟨limit, hturn⟩ hfault hrunning hrates
          rw [actions_of_start hfault hrunning hrates rfl]
          simp only [framesOf_append, framesOf_say, framesOf_parting, framesOf_begun h, List.nil_append,
            List.append_nil]
  | step =>
    cases hturn
    exact framesOf_step h _
  | reset rom =>
    cases hturn
    have hboot : Processor.boot? m.settings.random rom = none :=
      Processor.boot?_eq_none_iff.mpr (Nat.lt_of_not_le hkeeps)
    rw [perform?.silent, reset_of_tooLarge hboot]
    exact m.framesOf_stop
  | press number | release number =>
    cases hturn
    simp only [perform?.silent, Machine.press, Machine.release, withKey, Exchange.actions]
    cases Key.ofInt? number <;> rfl
  | tick =>
    cases hturn
    rfl
  | stop =>
    cases hturn
    exact m.framesOf_stop

/-- A reset succeeds, and shows the blank screen of the new program. -/
theorem framesOf_of_clears (h : m.renderer = .faithful) (hanswer : m.Answers request turn)
    (hclears : request.clears) :
    turn.state.processor.screen = Screen.blank ∧ turn.result = .ok none ∧
      framesOf turn.events = [Screen.blank] := by
  cases request with
  | reset rom =>
    obtain ⟨limit, hturn⟩ := hanswer
    cases hturn
    obtain ⟨p, hboot⟩ := Processor.exists_boot? m.settings.random hclears
    have hscreen : p.screen = Screen.blank := by
      obtain ⟨memory, rfl⟩ := Processor.boot?_eq_some hboot
      rfl
    have hshown : m.renderer.failure? = none := congrArg Renderer.failure? h
    rw [perform?.silent, reset_of_shown hboot hshown]
    refine ⟨hscreen, rfl, ?_⟩
    rw [framesOf_append, framesOf_stop, view_of_faithful (m := m.restarted p) h, ← hscreen]
    rfl
  | _ => exact hclears.elim

theorem renews_of_keeps (h : m.Answers request turn) (hkeeps : ¬ request.clears) :
    Exchange.renews ⟨m, request, turn⟩ = false := by
  have hexit := exit_of_answers h
  obtain ⟨last, events, answer⟩ := turn
  dsimp only at hexit
  cases hexit with
  | reset hboot | resetUnseen hboot => exact absurd (Processor.fits_of_boot? hboot) hkeeps
  | _ => rfl

/-- What is shown in an exchange ends with the screen of the machine. -/
theorem getLastD_framesOf (h : m.renderer = .faithful) (hanswer : m.Answers request turn) :
    (framesOf turn.events).getLastD m.processor.screen = turn.state.processor.screen := by
  by_cases hclears : request.clears
  · obtain ⟨hscreen, -, hframes⟩ := framesOf_of_clears h hanswer hclears
    rw [hframes, hscreen]
    rfl
  · obtain ⟨hrun, -⟩ := run_of_answers hanswer hclears
    rw [framesOf_of_answers h hanswer hclears, hrun, Processor.getLastD_pictures]

/-- Nothing is shown in an exchange but what was drawn, and the screen of a new program. -/
theorem length_framesOf (h : m.renderer = .faithful) (hanswer : m.Answers request turn) :
    (framesOf turn.events).length =
      (Exchange.executed ⟨m, request, turn⟩).countP Executed.drawn +
        [Exchange.mk m request turn].countP Exchange.renews := by
  rw [List.countP_singleton]
  by_cases hclears : request.clears
  · obtain ⟨-, hresult, hframes⟩ := framesOf_of_clears h hanswer hclears
    cases request with
    | reset rom =>
      rw [hframes, Exchange.renews, hresult]
      rfl
    | _ => exact hclears.elim
  · rw [framesOf_of_answers h hanswer hclears, Processor.length_pictures,
      renews_of_keeps hanswer hclears]
    rfl

/-! ## The frames of a history -/

/-- The screens that the renderer is shown in a history. -/
def delivered (history : List Exchange) : List Screen :=
  history.flatMap fun x => framesOf x.turn.events

/-- From a blank screen on, the renderer has the screen of the machine. -/
theorem delivered_of_history {history : List Exchange} (hfaithful : m.renderer = .faithful)
    (hblank : m.processor.screen = Screen.blank) (h : m.History history last) :
    (delivered history).getLastD Screen.blank = last.processor.screen ∧
      (delivered history).length =
        (history.flatMap Exchange.executed).countP Executed.drawn + history.countP Exchange.renews := by
  have hall := h.invariant (fun q past => q.renderer = .faithful ∧
    (delivered past).getLastD Screen.blank = q.processor.screen ∧
      (delivered past).length =
        (past.flatMap Exchange.executed).countP Executed.drawn + past.countP Exchange.renews)
    ⟨hfaithful, hblank.symm, rfl⟩ ?_
  · exact hall.2
  · rintro q past request turn ⟨hrenderer, hshown, hcount⟩ hanswer
    have hframes : delivered (past ++ [⟨q, request, turn⟩]) = delivered past ++ framesOf turn.events := by
      simp [delivered]
    have hlast := getLastD_framesOf hrenderer hanswer
    have hlength := length_framesOf hrenderer hanswer
    refine ⟨(exit_of_answers hanswer).renderer_eq.trans hrenderer, ?_, ?_⟩
    · rw [hframes, getLastD_append, hshown, hlast]
    · rw [hframes, List.length_append, hcount, hlength, List.flatMap_append, List.flatMap_singleton,
        List.countP_append, List.countP_append]
      omega

end Machine

/-! ## The reports, and the frame of a window -/

/-- The errors that the listener is told of. -/
def reportsOf (events : List Event) : List Trouble :=
  events.filterMap fun
    | .report trouble => some trouble
    | _ => none

@[simp] theorem reportsOf_append (events more : List Event) :
    reportsOf (events ++ more) = reportsOf events ++ reportsOf more :=
  List.filterMap_append

namespace Machine

@[simp] theorem reportsOf_say (m : Machine) (notice : Notice) : reportsOf (m.say notice) = [] := by
  unfold say
  split_ifs <;> rfl

@[simp] theorem reportsOf_stop (m : Machine) : reportsOf m.stop.events = [] := by
  unfold stop
  dsimp only
  split_ifs
  · exact m.reportsOf_say _
  · rfl

@[simp] theorem reportsOf_during (m : Machine) (n : Nat) : reportsOf (m.during n) = [] := by
  refine List.filterMap_eq_nil_iff.mpr fun event hevent => ?_
  rcases mem_during hevent with ⟨place, i, rfl⟩ | ⟨screen, rfl⟩ <;> rfl

end Machine

namespace Window

/-- The window after a history of its machine. -/
def follow (w : Window) (history : List Exchange) : Window :=
  history.foldl (fun w x => w.absorb x.turn.state x.turn.events) w

/-- The window takes over the machine, the latest screen and the latest error. -/
theorem absorb_eq (w : Window) (machine : Machine) (events : List Event) :
    w.absorb machine events =
      { w with
        machine
        shown := (framesOf events).getLastD w.shown
        trouble := (reportsOf events).getLast?.or w.trouble } := by
  have key : ∀ w : Window, events.foldl absorbOne w =
      { w with
        shown := (framesOf events).getLastD w.shown
        trouble := (reportsOf events).getLast?.or w.trouble } := by
    induction events with
    | nil => intro w; rfl
    | cons event rest ih =>
      intro w
      rw [List.foldl_cons, ih]
      cases event with
      | notice notice => rfl
      | frame screen =>
        simp only [absorbOne, framesOf, reportsOf, List.filterMap_cons, List.getLastD_cons]
      | report trouble =>
        have hreports : reportsOf (.report trouble :: rest) = trouble :: reportsOf rest := rfl
        simp only [absorbOne, hreports, List.getLast?_cons]
        cases (reportsOf rest).getLast? <;> rfl
  exact key { w with machine }

/-- A window has the machine after a history, and the latest screen that was shown. -/
theorem follow_history (w : Window) {m last : Machine} {history : List Exchange}
    (h : m.History history last) (hmachine : w.machine = m) :
    (w.follow history).machine = last ∧
      (w.follow history).shown = (Machine.delivered history).getLastD w.shown := by
  induction h generalizing w with
  | nil m => exact ⟨hmachine, rfl⟩
  | @cons m request turn rest last hanswer hrest ih =>
    have hone := congrArg Window.machine (w.absorb_eq turn.state turn.events)
    have hshown := congrArg Window.shown (w.absorb_eq turn.state turn.events)
    obtain ⟨hlast, hlatest⟩ := ih (w.absorb turn.state turn.events) hone
    refine ⟨hlast, ?_⟩
    rw [Machine.delivered, List.flatMap_cons, getLastD_append]
    exact hlatest.trans (congrArg (List.getLastD _) hshown)

end Window

/-! ## New machines -/

namespace Machine

variable {m : Machine}

/-- **The renderer keeps up with the screen.** When a new machine has a renderer that keeps what it is shown,
then after every history the latest screen that was shown is the screen of the machine, where a blank one
counts as shown at the start, and as many screens were shown as there were steps that cleared the screen or
drew a sprite and resets that succeeded. The screen of a window that is put around a new machine is the
screen of its machine. -/
theorem frames_of_history {rom : Rom} {random : RandomKey} {steps ticks : Rate} {threshold : Level}
    {renderer : Renderer} {listener : Listener}
    (hnew : create rom random steps ticks threshold renderer listener = .ok m) :
    (renderer = .faithful → ∀ history last, m.History history last →
      (delivered history).getLastD Screen.blank = last.processor.screen ∧
      (delivered history).length =
        (history.flatMap Exchange.executed).countP Executed.drawn +
          history.countP Exchange.renews) ∧
    ∀ program scale scheme grid history last,
      (Window.attach m program scale scheme grid).machine.History history last →
      ((Window.attach m program scale scheme grid).follow history).machine = last ∧
      ((Window.attach m program scale scheme grid).follow history).shown = last.processor.screen := by
  have hblank : m.processor.screen = Screen.blank := by
    obtain ⟨processor, -, -, hboot, -, -, rfl⟩ := create_eq_ok_iff.mp hnew
    obtain ⟨memory, rfl⟩ := Processor.boot?_eq_some hboot
    rfl
  constructor
  · rintro rfl history last h
    obtain ⟨_, _, _, _, _, _, hm⟩ := create_eq_ok_iff.mp hnew
    have hfaithful : m.renderer = .faithful := by rw [hm]
    exact delivered_of_history hfaithful hblank h
  · intro program scale scheme grid history last h
    obtain ⟨hmachine, hshown⟩ := (Window.attach m program scale scheme grid).follow_history h rfl
    have hlatest := (delivered_of_history (m := { m with renderer := .faithful, listener := .attentive })
      rfl hblank h).1
    exact ⟨hmachine, hshown.trans hlatest⟩

/-- A sprite is drawn by the loop, which ends with a fault, and after a reset the screen is cleared. -/
theorem frames_of_history_of_sprite :
    ∃ (m last : Machine) (history : List Exchange),
      create [0xD0, 0x05, 0x00, 0xEE] ⟨0, 7⟩ (.whole 1000) (.whole 60) .info .faithful .absent = .ok m ∧
      m.History history last ∧
      history.map Exchange.request = [.start, .step, .reset [0x00, 0xE0], .step] ∧
      (delivered history).length = 3 ∧
      (delivered history).getLastD Screen.blank = last.processor.screen := by
  have hrun : ((create [0xD0, 0x05, 0x00, 0xEE] ⟨0, 7⟩ (.whole 1000) (.whole 60) .info .faithful
      .absent).toOption.bind fun m =>
        (m.performAll? 2 [.start, .step, .reset [0x00, 0xE0], .step]).map fun made =>
          ((made.1.flatMap Exchange.executed).countP Executed.drawn,
            made.1.countP Exchange.renews)) = some (2, 1) := by decide +kernel
  obtain ⟨m, hm, hmade⟩ := Option.bind_eq_some_iff.mp hrun
  obtain ⟨⟨history, last⟩, hall, hcounts⟩ := Option.map_eq_some_iff.mp hmade
  obtain ⟨hdrawn, hrenews⟩ := Prod.mk.inj hcounts
  obtain ⟨hhistory, hasked⟩ := history_of_performAll? hall
  have hnew := eq_ok_of_toOption hm
  obtain ⟨hlatest, hlength⟩ := (frames_of_history hnew).1 rfl history last hhistory
  rw [hdrawn, hrenews] at hlength
  exact ⟨m, last, history, hnew, hhistory, hasked, hlength, hlatest⟩

end Machine

end Chip8
