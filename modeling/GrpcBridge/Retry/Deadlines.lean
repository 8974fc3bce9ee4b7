/-
# Retry.Deadlines -- the timers behind a call's deadline

Three layers give a call a deadline, each for itself: `RecoveringConnection.select`
(web/src/recovery.ts), the `start` of `createTunnelTransport` (web/src/transport.ts), and
`RetryingTransport.run` (web/src/retry.ts), which hands what is left of it to the two
others.  All of them arm one timer with the whole delay and believe it when it fires.  But
`setTimeout` keeps neither more than 31 bits of a delay nor its fraction, and what `run`
finds left when it arms its timer need not be whole for a timeout that is.  `pause` is right
with any delay: its timer looks at the clock, and is armed again.

Each layer is a machine of its own.  Its statements that read the clock or touch a timer
are steps, the clock may advance between any two of them, and everything else that
happens to a call (its signal, a session, an answer, the policy of a retry) is a choice of
the event.  A moment is reported with each `DeadlineExceeded`.
-/
import GrpcBridge.Theory.Machine
import GrpcBridge.Theory.Timers

namespace GrpcBridge.Retry

set_option autoImplicit false

open GrpcBridge.Theory

/-! ## select -/

/-- Where a call of `select` is. -/
inductive SelectStage where
  | entered
  /-- `started` has been read. -/
  | measured (started : ℚ)
  /-- It awaits its promise with a timer. -/
  | waiting (started : ℚ) (timer : Timer)
  /-- The promise has resolved; `done` has cleared the timer. -/
  | resolved (started : ℚ)
  | returned
  /-- Rejected for another reason. -/
  | rejected
  | exceeded (moment : ℚ)

structure SelectClock where
  now : ℚ
  stage : SelectStage := .entered

inductive SelectEvent where
  | advance (by' : ℚ)
  | measure
  | arm
  | fire
  /-- `done`, with or without an error that is not the deadline's. -/
  | done (ok : Bool)
  /-- The continuation, with the call's signal and whether there is a session. -/
  | resume (aborted session : Bool)

def SelectClock.step (timeoutMs : ℚ) (s : SelectClock) : SelectEvent → Option SelectClock
  | .advance ms => if 0 ≤ ms then some { s with now := s.now + ms } else none
  | .measure =>
      match s.stage with
      | .entered => some { s with stage := .measured s.now }
      | _ => none
  | .arm =>
      match s.stage with
      | .measured started => some { s with stage := .waiting started ⟨s.now, timeoutMs⟩ }
      | _ => none
  | .fire =>
      match s.stage with
      | .waiting _ timer =>
          if timer.due ≤ s.now then some { s with stage := .exceeded s.now } else none
      | _ => none
  | .done ok =>
      match s.stage with
      | .waiting started _ =>
          some { s with stage := if ok then .resolved started else .rejected }
      | _ => none
  | .resume aborted session =>
      match s.stage with
      | .resolved started =>
          if aborted then some { s with stage := .rejected }
          else if timeoutMs - (s.now - started) ≤ 0 then some { s with stage := .exceeded s.now }
          else some { s with stage := if session then .returned else .rejected }
      | _ => none

/-- A call with a timeout that enters `select` at some moment. -/
def selectMachine (timeoutMs entered : ℚ) : Machine SelectClock SelectEvent where
  init := { now := entered }
  step := SelectClock.step timeoutMs

/-! ## start -/

inductive StartStage where
  | entered
  | running (timer : Timer)
  /-- `cleanup` has cleared the timer. -/
  | ended
  | exceeded (moment : ℚ)

structure StartClock where
  now : ℚ
  stage : StartStage := .entered

inductive StartEvent where
  | advance (by' : ℚ)
  | arm
  /-- The timer aborts the attempt. -/
  | fire
  | cleanup

def StartClock.step (timeoutMs : ℚ) (s : StartClock) : StartEvent → Option StartClock
  | .advance ms => if 0 ≤ ms then some { s with now := s.now + ms } else none
  | .arm =>
      match s.stage with
      | .entered => some { s with stage := .running ⟨s.now, timeoutMs⟩ }
      | _ => none
  | .fire =>
      match s.stage with
      | .running timer =>
          if timer.due ≤ s.now then some { s with stage := .exceeded s.now } else none
      | _ => none
  | .cleanup =>
      match s.stage with
      | .running _ => some { s with stage := .ended }
      | _ => none

/-- A call with a timeout that enters `start` at some moment. -/
def startMachine (timeoutMs entered : ℚ) : Machine StartClock StartEvent where
  init := { now := entered }
  step := StartClock.step timeoutMs

/-! ## run -/

/-- Where a call of `run` is. -/
inductive RunStage where
  | entered
  /-- `deadline` is known. -/
  | measured (deadline : ℚ)
  /-- The delay of the timer is known. -/
  | arming (deadline delay : ℚ)
  /-- Before a check of the abort signal and of what is left: at the head of the loop, and
  between `select` and `invoke`. -/
  | checking (deadline : ℚ)
  /-- `remaining` has been read for a layer below. -/
  | calling (deadline left : ℚ)
  /-- It awaits a layer below, whose own deadline is this timer. -/
  | awaiting (deadline : ℚ) (inner : Timer)
  /-- In the catch block; `late` when the error is a `DeadlineExceeded` of a deadline. -/
  | caught (deadline : ℚ) (late : Bool)
  | pausing (deadline : ℚ)
  /-- The response iterator is in the user's hands, with both timers still armed. -/
  | streaming (inner : Timer)
  | returned
  | failed
  | exceeded (moment : ℚ)

structure RunClock where
  now : ℚ
  stage : RunStage := .entered
  timer : Option Timer := none
  /-- The abort signal, and whether the deadline is its reason. -/
  aborted : Option Bool := none

inductive RunEvent where
  | advance (by' : ℚ)
  | measure
  | compute
  | arm
  | fire
  /-- The caller's signal or the channel's. -/
  | cancel
  | check
  | call
  /-- The layer below resolves: a transport was selected, or the attempt has a result. -/
  | resolves (selected stream : Bool)
  /-- The layer below fails, by its own deadline or otherwise. -/
  | fails (late : Bool)
  /-- The catch block throws, or pauses before another attempt. -/
  | handle (again : Bool)
  | wake
  /-- The response iterator ends, by a deadline or otherwise. -/
  | finish (late : Bool)

namespace RunClock

/-- `throw` of an error that is or is not a `DeadlineExceeded` of a deadline. -/
def throw (s : RunClock) (late : Bool) : RunClock :=
  { s with stage := if late then .exceeded s.now else .failed, timer := none }

def step (timeout : ℚ) (s : RunClock) : RunEvent → Option RunClock
  | .advance ms => if 0 ≤ ms then some { s with now := s.now + ms } else none
  | .measure =>
      match s.stage with
      | .entered => some { s with stage := .measured (s.now + timeout) }
      | _ => none
  | .compute =>
      match s.stage with
      | .measured deadline => some { s with stage := .arming deadline (max 0 (deadline - s.now)) }
      | _ => none
  | .arm =>
      match s.stage with
      | .arming deadline delay =>
          some { s with stage := .checking deadline, timer := some ⟨s.now, delay⟩ }
      | _ => none
  | .fire =>
      match s.timer with
      | some timer =>
          if timer.due ≤ s.now then
            some { s with timer := none, aborted := s.aborted <|> some true }
          else none
      | none => none
  | .cancel => some { s with aborted := s.aborted <|> some false }
  | .check =>
      match s.stage with
      | .checking deadline =>
          match s.aborted with
          | some late => some (s.throw late)
          | none =>
              if deadline - s.now ≤ 0 then some { s with stage := .caught deadline true }
              else some { s with stage := .calling deadline (deadline - s.now) }
      | _ => none
  | .call =>
      match s.stage with
      | .calling deadline left => some { s with stage := .awaiting deadline ⟨s.now, left⟩ }
      | _ => none
  | .resolves selected stream =>
      match s.stage with
      | .awaiting deadline inner =>
          if selected then some { s with stage := .checking deadline }
          else if stream then some { s with stage := .streaming inner }
          else some { s with stage := .returned, timer := none }
      | _ => none
  | .fails late =>
      match s.stage with
      | .awaiting deadline inner =>
          if late then
            if inner.due ≤ s.now then some { s with stage := .caught deadline true } else none
          else some { s with stage := .caught deadline false }
      | _ => none
  | .handle again =>
      match s.stage with
      | .caught deadline late =>
          match s.aborted with
          | some late => some (s.throw late)
          | none => some (if again then { s with stage := .pausing deadline } else s.throw late)
      | _ => none
  | .wake =>
      match s.stage with
      | .pausing deadline =>
          match s.aborted with
          | some late => some (s.throw late)
          | none => some { s with stage := .checking deadline }
      | _ => none
  | .finish late =>
      match s.stage with
      | .streaming inner =>
          if late then
            if s.aborted = some true ∨ inner.due ≤ s.now then some (s.throw true) else none
          else some { s with stage := .returned, timer := none }
      | _ => none

end RunClock

/-- A call with a timeout that enters `run` at some moment. -/
def runMachine (timeout entered : ℚ) : Machine RunClock RunEvent where
  init := { now := entered }
  step := RunClock.step timeout

/-! ## pause -/

inductive PauseStage where
  | entered
  /-- `end` is known. -/
  | measured (end' : ℚ)
  | waiting (end' : ℚ) (timer : Timer)
  /-- `tick` has found this much left. -/
  | rearming (end' remaining : ℚ)
  | resolved (moment : ℚ)
  | rejected

structure PauseClock where
  now : ℚ
  stage : PauseStage := .entered

inductive PauseEvent where
  | advance (by' : ℚ)
  | measure
  | arm
  /-- The timer calls `tick`. -/
  | tick
  | rearm
  | cancel

def PauseClock.step (ms : ℚ) (s : PauseClock) : PauseEvent → Option PauseClock
  | .advance by' => if 0 ≤ by' then some { s with now := s.now + by' } else none
  | .measure =>
      match s.stage with
      | .entered => some { s with stage := .measured (s.now + ms) }
      | _ => none
  | .arm =>
      match s.stage with
      | .measured end' => some { s with stage := .waiting end' ⟨s.now, min ms maxDelay⟩ }
      | _ => none
  | .tick =>
      match s.stage with
      | .waiting end' timer =>
          if timer.due ≤ s.now then
            some { s with stage :=
              if 0 < end' - s.now then .rearming end' (end' - s.now) else .resolved s.now }
          else none
      | _ => none
  | .rearm =>
      match s.stage with
      | .rearming end' remaining =>
          some { s with stage := .waiting end' ⟨s.now, min remaining maxDelay⟩ }
      | _ => none
  | .cancel =>
      match s.stage with
      | .waiting _ _ => some { s with stage := .rejected }
      | _ => none

/-- A call of `pause` at some moment. -/
def pauseMachine (ms entered : ℚ) : Machine PauseClock PauseEvent where
  init := { now := entered }
  step := PauseClock.step ms

/-! ## On time -/

/-- No call with this timeout is told that its deadline is exceeded before that is so. -/
def SelectOnTime (timeoutMs : ℚ) : Prop :=
  ∀ entered s moment, (selectMachine timeoutMs entered).Reaches Machine.always s →
    s.stage = .exceeded moment → entered + timeoutMs ≤ moment

def StartOnTime (timeoutMs : ℚ) : Prop :=
  ∀ entered s moment, (startMachine timeoutMs entered).Reaches Machine.always s →
    s.stage = .exceeded moment → entered + timeoutMs ≤ moment

def RunOnTime (timeout : ℚ) : Prop :=
  ∀ entered s moment, (runMachine timeout entered).Reaches Machine.always s →
    s.stage = .exceeded moment → entered + timeout ≤ moment

/-- The deadline and the delay of the timer that `run` arms, or has a layer below arm. -/
def RunClock.arms (s : RunClock) : RunEvent → Option (ℚ × ℚ)
  | .arm =>
      match s.stage with
      | .arming deadline delay => some (deadline, delay)
      | _ => none
  | .call =>
      match s.stage with
      | .calling deadline left => some (deadline, left)
      | _ => none
  | _ => none

/-- What `setTimeout` keeps of the delay lasts until the deadline. -/
def RunClock.Lasts (s : RunClock) (e : RunEvent) : Prop :=
  ∀ armed ∈ s.arms e, armed.2 ≤ maxDelay ∧ armed.1 ≤ s.now + ⌊armed.2⌋

instance (s : RunClock) (e : RunEvent) : Decidable (s.Lasts e) :=
  inferInstanceAs (Decidable (∀ armed ∈ s.arms e, _))

/-- No call whose delays all last is told so too early by `run`. -/
def LastingRunOnTime (timeout : ℚ) : Prop :=
  ∀ entered s moment, (runMachine timeout entered).Reaches RunClock.Lasts s →
    s.stage = .exceeded moment → entered + timeout ≤ moment

/-- A pause of this length does not resolve before it is over. -/
def PauseOnTime (ms : ℚ) : Prop :=
  ∀ entered s moment, (pauseMachine ms entered).Reaches Machine.always s →
    s.stage = .resolved moment → entered + ms ≤ moment

section Select

variable {timeoutMs entered : ℚ} {s s' : SelectClock}

/-- What `select` knows at each stage. -/
def SelectClock.Sound (timeoutMs entered : ℚ) (s : SelectClock) : Prop :=
  entered ≤ s.now ∧
    match s.stage with
    | .measured started | .resolved started => entered ≤ started
    | .waiting started timer => entered ≤ started ∧ entered + timeoutMs ≤ timer.due
    | .exceeded moment => entered + timeoutMs ≤ moment
    | .entered | .returned | .rejected => True

theorem SelectClock.step_sound {e : SelectEvent} (kept : Timer.Kept timeoutMs)
    (sound : s.Sound timeoutMs entered) (stepped : s.step timeoutMs e = some s') :
    s'.Sound timeoutMs entered := by
  obtain ⟨later, known⟩ := sound
  cases e with
  | advance ms =>
      simp only [step] at stepped
      split at stepped
      · cases stepped
        exact ⟨by dsimp only; linarith, known⟩
      · cases stepped
  | measure =>
      simp only [step] at stepped
      split at stepped
      · cases stepped
        exact ⟨later, later⟩
      · cases stepped
  | arm =>
      simp only [step] at stepped
      split at stepped
      · rename_i started stage
        rw [stage] at known
        cases stepped
        refine ⟨later, known, ?_⟩
        rw [Timer.due_of_kept kept]
        dsimp only
        linarith
      · cases stepped
  | fire =>
      simp only [step] at stepped
      split at stepped
      · rename_i started timer stage
        rw [stage] at known
        split at stepped
        · rename_i due
          cases stepped
          exact ⟨later, known.2.trans due⟩
        · cases stepped
      · cases stepped
  | done ok =>
      simp only [step] at stepped
      split at stepped
      · rename_i started timer stage
        rw [stage] at known
        cases stepped
        cases ok with
        | true => exact ⟨later, known.1⟩
        | false => exact ⟨later, trivial⟩
      · cases stepped
  | resume aborted session =>
      simp only [step] at stepped
      split at stepped
      · rename_i started stage
        rw [stage] at known
        have known : entered ≤ started := known
        split at stepped
        · cases stepped
          exact ⟨later, trivial⟩
        · split at stepped
          · rename_i late
            cases stepped
            refine ⟨later, ?_⟩
            show entered + timeoutMs ≤ s.now
            linarith
          · cases stepped
            cases session with
            | true => exact ⟨later, trivial⟩
            | false => exact ⟨later, trivial⟩
      · cases stepped

theorem selectOnTime (kept : Timer.Kept timeoutMs) : SelectOnTime timeoutMs := by
  intro entered s moment reached exceeded
  have sound : s.Sound timeoutMs entered := reached.invariant
    (SelectClock.Sound timeoutMs entered)
    (fun _ _ _ sound _ stepped => SelectClock.step_sound kept sound stepped)
    ⟨le_refl entered, trivial⟩
  have known := sound.2
  rw [exceeded] at known
  exact known

/-- The timer of any other timeout is believed before the time is up. -/
theorem selectEarly (positive : 0 < timeoutMs) (cut : ¬ Timer.Kept timeoutMs) :
    ¬ SelectOnTime timeoutMs := by
  intro onTime
  let timer : Timer := ⟨0, timeoutMs⟩
  have passes : 0 ≤ timer.due := Timer.armed_le_due (t := timer) positive.le
  have ran : (selectMachine timeoutMs 0).run Machine.always (selectMachine timeoutMs 0).init
      [.measure, .arm, .advance timer.due, .fire] =
      some { now := timer.due, stage := .exceeded timer.due } := by
    simp [Machine.run, selectMachine, SelectClock.step, Machine.always, passes, timer]
  have late := onTime 0 _ timer.due (Machine.steps_of_run _ ran) rfl
  have early : timer.due < 0 + timeoutMs := Timer.due_lt (t := timer) positive cut
  linarith

end Select

section Start

variable {timeoutMs entered : ℚ} {s s' : StartClock}

/-- What `start` knows at each stage. -/
def StartClock.Sound (timeoutMs entered : ℚ) (s : StartClock) : Prop :=
  entered ≤ s.now ∧
    match s.stage with
    | .running timer => entered + timeoutMs ≤ timer.due
    | .exceeded moment => entered + timeoutMs ≤ moment
    | .entered | .ended => True

theorem StartClock.step_sound {e : StartEvent} (kept : Timer.Kept timeoutMs)
    (sound : s.Sound timeoutMs entered) (stepped : s.step timeoutMs e = some s') :
    s'.Sound timeoutMs entered := by
  obtain ⟨later, known⟩ := sound
  cases e with
  | advance ms =>
      simp only [step] at stepped
      split at stepped
      · cases stepped
        exact ⟨by dsimp only; linarith, known⟩
      · cases stepped
  | arm =>
      simp only [step] at stepped
      split at stepped
      · cases stepped
        refine ⟨later, ?_⟩
        show entered + timeoutMs ≤ Timer.due ⟨s.now, timeoutMs⟩
        rw [Timer.due_of_kept kept]
        dsimp only
        linarith
      · cases stepped
  | fire =>
      simp only [step] at stepped
      split at stepped
      · rename_i timer stage
        rw [stage] at known
        have known : entered + timeoutMs ≤ timer.due := known
        split at stepped
        · rename_i due
          cases stepped
          exact ⟨later, known.trans due⟩
        · cases stepped
      · cases stepped
  | cleanup =>
      simp only [step] at stepped
      split at stepped
      · cases stepped
        exact ⟨later, trivial⟩
      · cases stepped

theorem startOnTime (kept : Timer.Kept timeoutMs) : StartOnTime timeoutMs := by
  intro entered s moment reached exceeded
  have sound : s.Sound timeoutMs entered := reached.invariant
    (StartClock.Sound timeoutMs entered)
    (fun _ _ _ sound _ stepped => StartClock.step_sound kept sound stepped)
    ⟨le_refl entered, trivial⟩
  have known := sound.2
  rw [exceeded] at known
  exact known

/-- The timer of any other timeout aborts the attempt before the time is up. -/
theorem startEarly (positive : 0 < timeoutMs) (cut : ¬ Timer.Kept timeoutMs) :
    ¬ StartOnTime timeoutMs := by
  intro onTime
  let timer : Timer := ⟨0, timeoutMs⟩
  have passes : 0 ≤ timer.due := Timer.armed_le_due (t := timer) positive.le
  have ran : (startMachine timeoutMs 0).run Machine.always (startMachine timeoutMs 0).init
      [.arm, .advance timer.due, .fire] =
      some { now := timer.due, stage := .exceeded timer.due } := by
    simp [Machine.run, startMachine, StartClock.step, Machine.always, passes, timer]
  have late := onTime 0 _ timer.due (Machine.steps_of_run _ ran) rfl
  have early : timer.due < 0 + timeoutMs := Timer.due_lt (t := timer) positive cut
  linarith

end Start

section Run

variable {timeout entered now later : ℚ} {s s' : RunClock}

/-- What `run` knows at each stage about a call that entered it at `entered`. -/
def RunStage.Sound (timeout entered now : ℚ) : RunStage → Prop
  | .entered | .returned | .failed => True
  | .measured deadline | .arming deadline _ | .checking deadline | .calling deadline _
  | .pausing deadline => entered + timeout ≤ deadline
  | .awaiting deadline inner => entered + timeout ≤ deadline ∧ entered + timeout ≤ inner.due
  | .caught deadline late =>
      entered + timeout ≤ deadline ∧ (late = true → entered + timeout ≤ now)
  | .streaming inner => entered + timeout ≤ inner.due
  | .exceeded moment => entered + timeout ≤ moment

/-- Time takes nothing of it back. -/
theorem RunStage.Sound.mono {stage : RunStage} (advanced : now ≤ later)
    (known : stage.Sound timeout entered now) : stage.Sound timeout entered later := by
  cases stage with
  | caught deadline late => exact ⟨known.1, fun is => (known.2 is).trans advanced⟩
  | _ => exact known

namespace RunClock

structure Sound (timeout entered : ℚ) (s : RunClock) : Prop where
  later : entered ≤ s.now
  timer : ∀ timer ∈ s.timer, entered + timeout ≤ timer.due
  aborted : s.aborted = some true → entered + timeout ≤ s.now
  stage : s.stage.Sound timeout entered s.now

/-- A step of the call itself, which leaves its signal alone. -/
theorem Sound.proceed {stage : RunStage} (sound : s.Sound timeout entered)
    (known : stage.Sound timeout entered s.now) : { s with stage }.Sound timeout entered :=
  ⟨sound.later, sound.timer, sound.aborted, known⟩

/-- `cleanup`. -/
theorem Sound.cleanup (sound : s.Sound timeout entered) :
    { s with timer := none }.Sound timeout entered :=
  ⟨sound.later, by rintro _ ⟨⟩, sound.aborted, sound.stage⟩

theorem Sound.throw {late : Bool} (sound : s.Sound timeout entered)
    (passed : late = true → entered + timeout ≤ s.now) : (s.throw late).Sound timeout entered := by
  cases late with
  | true => exact sound.cleanup.proceed (passed rfl)
  | false => exact sound.cleanup.proceed trivial

theorem step_sound {e : RunEvent} (sound : s.Sound timeout entered) (lasts : s.Lasts e)
    (stepped : s.step timeout e = some s') : s'.Sound timeout entered := by
  have known := sound.stage
  cases e with
  | advance ms =>
      simp only [step] at stepped
      split at stepped
      · have advanced : s.now ≤ s.now + ms := by linarith
        cases stepped
        exact ⟨sound.later.trans advanced, sound.timer,
          fun is => (sound.aborted is).trans advanced, known.mono advanced⟩
      · cases stepped
  | measure =>
      simp only [step] at stepped
      split at stepped
      · cases stepped
        exact sound.proceed (add_le_add_left sound.later timeout)
      · cases stepped
  | compute =>
      simp only [step] at stepped
      split at stepped
      · rename_i deadline stage
        rw [stage] at known
        cases stepped
        exact sound.proceed known
      · cases stepped
  | arm =>
      simp only [step] at stepped
      split at stepped
      · rename_i deadline delay stage
        rw [stage] at known
        obtain ⟨short, reaches⟩ := lasts _ (by rw [arms, stage]; rfl)
        cases stepped
        refine ⟨sound.later, ?_, sound.aborted, known⟩
        rintro _ ⟨⟩
        rw [Timer.due_of_le short]
        exact known.trans reaches
      · cases stepped
  | fire =>
      simp only [step] at stepped
      split at stepped
      · rename_i timer armed
        split at stepped
        · rename_i due
          cases stepped
          exact ⟨sound.later, by rintro _ ⟨⟩, fun _ => (sound.timer timer armed).trans due, known⟩
        · cases stepped
      · cases stepped
  | cancel =>
      simp only [step] at stepped
      cases stepped
      refine ⟨sound.later, sound.timer, ?_, known⟩
      cases aborted : s.aborted with
      | none => rintro ⟨⟩
      | some late =>
          rintro ⟨⟩
          exact sound.aborted aborted
  | check =>
      simp only [step] at stepped
      split at stepped
      · rename_i deadline stage
        rw [stage] at known
        split at stepped
        · rename_i late aborted
          cases stepped
          exact sound.throw (by rintro rfl; exact sound.aborted aborted)
        · split at stepped
          · rename_i nothing
            cases stepped
            exact sound.proceed ⟨known, fun _ => known.trans (by linarith)⟩
          · cases stepped
            exact sound.proceed known
      · cases stepped
  | call =>
      simp only [step] at stepped
      split at stepped
      · rename_i deadline left stage
        rw [stage] at known
        obtain ⟨short, reaches⟩ := lasts _ (by rw [arms, stage]; rfl)
        cases stepped
        refine sound.proceed ⟨known, ?_⟩
        rw [Timer.due_of_le short]
        exact known.trans reaches
      · cases stepped
  | resolves selected stream =>
      simp only [step] at stepped
      split at stepped
      · rename_i deadline inner stage
        rw [stage] at known
        split at stepped
        · cases stepped
          exact sound.proceed known.1
        · split at stepped
          · cases stepped
            exact sound.proceed known.2
          · cases stepped
            exact sound.cleanup.proceed trivial
      · cases stepped
  | fails late =>
      simp only [step] at stepped
      split at stepped
      · rename_i deadline inner stage
        rw [stage] at known
        split at stepped
        · split at stepped
          · rename_i due
            cases stepped
            exact sound.proceed ⟨known.1, fun _ => known.2.trans due⟩
          · cases stepped
        · cases stepped
          exact sound.proceed ⟨known.1, by rintro ⟨⟩⟩
      · cases stepped
  | handle again =>
      simp only [step] at stepped
      split at stepped
      · rename_i deadline late stage
        rw [stage] at known
        split at stepped
        · rename_i reason aborted
          cases stepped
          exact sound.throw (by rintro rfl; exact sound.aborted aborted)
        · cases stepped
          cases again with
          | true => exact sound.proceed known.1
          | false => exact sound.throw known.2
      · cases stepped
  | wake =>
      simp only [step] at stepped
      split at stepped
      · rename_i deadline stage
        rw [stage] at known
        split at stepped
        · rename_i reason aborted
          cases stepped
          exact sound.throw (by rintro rfl; exact sound.aborted aborted)
        · cases stepped
          exact sound.proceed known
      · cases stepped
  | finish late =>
      simp only [step] at stepped
      split at stepped
      · rename_i inner stage
        rw [stage] at known
        split at stepped
        · split at stepped
          · rename_i reason
            cases stepped
            exact sound.throw fun _ => reason.elim sound.aborted known.trans
          · cases stepped
        · cases stepped
          exact sound.cleanup.proceed trivial
      · cases stepped

end RunClock

theorem lastingRunOnTime (timeout : ℚ) : LastingRunOnTime timeout := by
  intro entered s moment reached exceeded
  have sound : s.Sound timeout entered := reached.invariant (RunClock.Sound timeout entered)
    (fun _ _ _ sound lasts stepped => RunClock.step_sound sound lasts stepped)
    ⟨le_refl entered, by rintro _ ⟨⟩, by rintro ⟨⟩, trivial⟩
  have known := sound.stage
  rw [exceeded] at known
  exact known

/-- The timer of a delay that is not kept aborts the call before its first attempt. -/
theorem runEarly_of_spent (spent : ℚ) (nonneg : 0 ≤ spent) (left : 0 < timeout - spent)
    (cut : ¬ Timer.Kept (timeout - spent)) : ¬ RunOnTime timeout := by
  intro onTime
  let timer : Timer := ⟨spent, timeout - spent⟩
  have passes : spent ≤ timer.due := Timer.armed_le_due (t := timer) left.le
  have ran : (runMachine timeout 0).run Machine.always (runMachine timeout 0).init
      [.measure, .advance spent, .compute, .arm, .advance (timer.due - spent), .fire, .check] =
      some { now := timer.due, stage := .exceeded timer.due, timer := none,
             aborted := some true } := by
    simp [Machine.run, runMachine, RunClock.step, RunClock.throw, Machine.always, nonneg,
      passes, max_eq_right left.le, timer]
  have late := onTime 0 _ timer.due (Machine.steps_of_run _ ran) rfl
  have early : timer.due < spent + (timeout - spent) := Timer.due_lt (t := timer) left cut
  linarith

/-- A fraction of a millisecond between the two readings of the clock is enough. -/
theorem runEarly (positive : 0 < timeout) : ¬ RunOnTime timeout := by
  by_cases kept : Timer.Kept timeout
  · have whole : (1 : ℚ) ≤ timeout := by
      have atLeast : (0 : ℚ) < ⌊timeout⌋ := by rw [kept.2]; exact positive
      rw [← kept.2]
      exact_mod_cast Int.add_one_le_iff.2 (Int.cast_pos.1 atLeast)
    refine runEarly_of_spent (1 / 2) (by norm_num) (by linarith) fun half => ?_
    have both : ((2 * (⌊timeout⌋ - ⌊timeout - 1 / 2⌋) : ℤ) : ℚ) = (1 : ℤ) := by
      push_cast
      rw [kept.2, half.2]
      ring
    have odd : 2 * (⌊timeout⌋ - ⌊timeout - 1 / 2⌋) = 1 := Int.cast_injective both
    omega
  · exact runEarly_of_spent 0 (le_refl 0) (by rwa [sub_zero]) (by rwa [sub_zero])

end Run

section Pause

variable {ms entered : ℚ} {s s' : PauseClock}

/-- `pause` looks at the clock before it resolves. -/
def PauseClock.Sound (ms entered : ℚ) (s : PauseClock) : Prop :=
  entered ≤ s.now ∧
    match s.stage with
    | .measured end' | .waiting end' _ | .rearming end' _ => entered + ms ≤ end'
    | .resolved moment => entered + ms ≤ moment
    | .entered | .rejected => True

theorem PauseClock.step_sound {e : PauseEvent} (sound : s.Sound ms entered)
    (stepped : s.step ms e = some s') : s'.Sound ms entered := by
  obtain ⟨later, known⟩ := sound
  cases e with
  | advance by' =>
      simp only [step] at stepped
      split at stepped
      · cases stepped
        exact ⟨by dsimp only; linarith, known⟩
      · cases stepped
  | measure =>
      simp only [step] at stepped
      split at stepped
      · cases stepped
        refine ⟨later, ?_⟩
        show entered + ms ≤ s.now + ms
        linarith
      · cases stepped
  | arm | rearm =>
      simp only [step] at stepped
      split at stepped
      · rename_i stage
        rw [stage] at known
        cases stepped
        exact ⟨later, known⟩
      · cases stepped
  | tick =>
      simp only [step] at stepped
      split at stepped
      · rename_i end' timer stage
        rw [stage] at known
        have known : entered + ms ≤ end' := known
        split at stepped
        · cases stepped
          refine ⟨later, ?_⟩
          by_cases left : 0 < end' - s.now
          · simp only [if_pos left]
            exact known
          · simp only [if_neg left]
            linarith
        · cases stepped
      · cases stepped
  | cancel =>
      simp only [step] at stepped
      split at stepped
      · cases stepped
        exact ⟨later, trivial⟩
      · cases stepped

theorem pauseOnTime (ms : ℚ) : PauseOnTime ms := by
  intro entered s moment reached resolved
  have sound : s.Sound ms entered := reached.invariant (PauseClock.Sound ms entered)
    (fun _ _ _ sound _ stepped => PauseClock.step_sound sound stepped) ⟨le_refl entered, trivial⟩
  have known := sound.2
  rw [resolved] at known
  exact known

end Pause

/-! ## The layers together -/

/-- **No early deadline, as far as a timer keeps its delay.**  `select` and `start` let a
call have the whole of its timeout exactly when `setTimeout` keeps it.  `run` can be early
with any timeout, since the clock advances before it arms its timer, and is not in a run in
which its delays last.  A pause is never short. -/
theorem onTime_iff (timeout : ℚ) (positive : 0 < timeout) :
    (SelectOnTime timeout ↔ Timer.Kept timeout) ∧ (StartOnTime timeout ↔ Timer.Kept timeout) ∧
      ¬ RunOnTime timeout ∧ LastingRunOnTime timeout ∧ ∀ ms, 0 ≤ ms → PauseOnTime ms := by
  refine ⟨⟨?_, selectOnTime⟩, ⟨?_, startOnTime⟩, runEarly positive, lastingRunOnTime timeout, ?_⟩
  · intro onTime
    by_contra cut
    exact selectEarly positive cut onTime
  · intro onTime
    by_contra cut
    exact startEarly positive cut onTime
  · intro ms _
    exact pauseOnTime ms

/-- A second, with a run whose delay lasts and that is over on time. -/
theorem onTime_second :
    SelectOnTime 1000 ∧ StartOnTime 1000 ∧ ¬ RunOnTime 1000 ∧ LastingRunOnTime 1000 ∧
      PauseOnTime 1000 ∧
      (runMachine 1000 0).Reaches RunClock.Lasts
        { now := 1000, stage := .exceeded 1000, aborted := some true } := by
  obtain ⟨select, start, run, lasting, pause⟩ := onTime_iff 1000 (by norm_num)
  have kept : Timer.Kept 1000 := by norm_num [Timer.Kept, maxDelay]
  have due : Timer.due ⟨0, 1000⟩ = 1000 := by rw [Timer.due_of_kept kept, zero_add]
  have ran : (runMachine 1000 0).run RunClock.Lasts (runMachine 1000 0).init
      [.measure, .compute, .arm, .advance 1000, .fire, .check] =
      some { now := 1000, stage := .exceeded 1000, aborted := some true } := by
    simp [Machine.run, runMachine, RunClock.step, RunClock.throw, RunClock.Lasts, RunClock.arms,
      kept.1, due]
  exact ⟨select.2 kept, start.2 kept, run, lasting, pause 1000 (by norm_num),
    Machine.steps_of_run _ ran⟩

/-- Beyond what a timer keeps each of the layers is early, `select` and `start` also with a
fraction of a millisecond, and `run` also with ten of them. -/
theorem onTime_cut :
    (¬ SelectOnTime 2147483648 ∧ ¬ StartOnTime 2147483648 ∧ ¬ RunOnTime 2147483648) ∧
      (¬ SelectOnTime (109 / 10) ∧ ¬ StartOnTime (109 / 10)) ∧ ¬ RunOnTime 10 := by
  have long : ¬ Timer.Kept 2147483648 := by norm_num [Timer.Kept, maxDelay]
  have fraction : ¬ Timer.Kept (109 / 10) := by norm_num [Timer.Kept, maxDelay]
  exact ⟨⟨selectEarly (by norm_num) long, startEarly (by norm_num) long, runEarly (by norm_num)⟩,
    ⟨selectEarly (by norm_num) fraction, startEarly (by norm_num) fraction⟩,
    runEarly (by norm_num)⟩

end GrpcBridge.Retry
