/-
# Recovery.Connection -- a connection that dials again

`RecoveringConnection` (web/src/recovery.ts).  It owns at most one session at a time,
leaves sessions that received GOAWAY to their drain, and dials again after a loss.
Its methods are cut at their awaits:

* `connect` runs up to `await this.dial(...)`; `dialed` and `dialFailed` are the two
  continuations;
* `lost`, `drained` and `removed` are the callbacks on `channel.closed` and
  `channel.draining`;
* `close` runs up to `await Promise.all(...)`, and `closeSettles` is the rest.

`emit` tells the waiting selections and then the listeners, one after the other.  A
listener may call `close` from inside its callback, and `closes` says which of them do:
`deliver` is the loop, in which such a call runs to its first await before the next
listener is called.

`dial` is the environment's: it may return a new session or one it has returned before,
and a session's `close` may throw.  A promise of a channel settles by an event of its
own, and a registered callback runs by another, at any time after that.

The clock is `performance.now()`: it advances by any amount between two events, and while
`select` runs.  The timer of a selection can fire when it is due, or at any time later.
-/
import GrpcBridge.Theory.Machine
import GrpcBridge.Theory.Timers
import Mathlib.Algebra.Order.Field.Rat
import Mathlib.Data.NNRat.Defs

namespace GrpcBridge.Recovery

set_option autoImplicit false

inductive BridgeState where
  | connecting
  | open
  | transientFailure
  | closed
deriving DecidableEq, Repr

inductive Reason where
  | local
  | remote
  | error
deriving DecidableEq, Repr

/-- `BridgeConnectionEvent`, less the error it may carry. -/
structure BridgeEvent where
  state : BridgeState
  reason : Option Reason := none
deriving DecidableEq, Repr

/-! ## Sessions -/

/-- A session that `dial` has returned, and the callbacks that are still to run for it. -/
structure Session where
  /-- `channel.closed` has settled; whether it resolved. -/
  closed : Option Bool := none
  /-- `channel.draining` has resolved. -/
  draining : Bool := false
  closeCalled : Bool := false
  /-- `channel.close()` throws. -/
  closeThrows : Bool := false
  /-- Calls of `lost` registered on `channel.closed`. -/
  onClosed : Nat := 0
  /-- Callbacks registered on `channel.draining`. -/
  onDraining : Nat := 0
  /-- Callbacks on `channel.closed` that take the session out of the draining set. -/
  onDrained : Nat := 0
deriving DecidableEq, Repr

/-! ## The life of a connection -/

/-- The `initial` promise. -/
inductive Initial where
  | pending
  | ready
  | failed
deriving DecidableEq, Repr

/-- `firstReady` and `firstFailure`: a promise settles once. -/
def Initial.settle (p outcome : Initial) : Initial :=
  match p with
  | .pending => outcome
  | settled => settled

/-- The fields that decide what the connection does next. -/
structure Life where
  state : BridgeState := .connecting
  session : Option Nat := none
  /-- The draining set. -/
  draining : List Nat := []
  /-- Every session `dial` has returned. -/
  sessions : List Session := []
  /-- The constructor's microtask has run. -/
  started : Bool := false
  /-- `stopped.signal.aborted` -/
  stopped : Bool := false
  timer : Option ℚ := none
  delay : ℚ := 1000
  /-- Calls of `dial` that have not settled, and all calls of it. -/
  dialing : Nat := 0
  dials : Nat := 0
  initial : Initial := .pending
  /-- `close` awaits the channels. -/
  closing : Bool := false
  /-- The `closed` promise has resolved. -/
  finished : Bool := false

namespace Life

def markClosed (l : Life) (s : Nat) : Life :=
  { l with sessions := l.sessions.modify s fun session => { session with closeCalled := true } }

/-- `Promise.all([...].map((s) => s?.channel.close()))`: a call that throws ends the map,
and `close` with it. -/
def closeChannels : List Nat → Life → Life
  | [], l => { l with closing := true }
  | s :: rest, l =>
      if l.sessions[s]?.any (·.closeThrows) then { l.markClosed s with finished := true }
      else closeChannels rest (l.markClosed s)

/-- `close` before it emits. -/
def stop (l : Life) : Life :=
  { l with
    stopped := true
    timer := none
    session := none
    initial := l.initial.settle .failed }

/-- The sessions that `close` closes. -/
def channels (l : Life) : List Nat := l.session.toList ++ l.draining

end Life

/-! ## Observers -/

inductive Unavailable where
  | canceled
  | channelClosed
  | channelUnavailable
  | deadlineExceeded
deriving DecidableEq, Repr

/-- A `timeoutMs`.  `NaN` is not positive, as 0 is not. -/
inductive Timeout where
  | finite (ms : ℚ)
  | infinite
deriving DecidableEq

namespace Timeout

/-- `timeoutMs > 0` -/
def positive : Timeout → Bool
  | .finite ms => decide (0 < ms)
  | .infinite => true

/-- `timeoutMs - spent` -/
def less (spent : ℚ) : Timeout → Timeout
  | .finite ms => .finite (ms - spent)
  | .infinite => .infinite

/-- The earliest moment at which a timer can fire that is armed with it.  `setTimeout` keeps
`Infinity` no more than another delay that is too long. -/
def due (armed : ℚ) : Timeout → ℚ
  | .finite ms => Theory.Timer.due ⟨armed, ms⟩
  | .infinite => armed

end Timeout

/-- A call of `select`: in `changes`, resolved but not resumed, or over. -/
inductive Selection where
  | waiting
  | resolved
  | rejected (error : Unavailable)
  | returned (session : Nat) (timeoutMs : Option Timeout)
deriving DecidableEq

structure Selector where
  wait : Bool
  timeoutMs : Option Timeout
  started : ℚ
  /-- From there to the call of `setTimeout`. -/
  spent : ℚ≥0
  /-- The call's signal is aborted. -/
  aborted : Bool
  phase : Selection := .waiting
deriving DecidableEq

namespace Selector

/-- `check` of one selection. -/
def check (l : Life) (q : Selector) : Selector :=
  match q.phase with
  | .waiting =>
      if q.aborted then { q with phase := .rejected .canceled }
      else if l.state = .closed then { q with phase := .rejected .channelClosed }
      else if l.session.isSome then { q with phase := .resolved }
      else if !q.wait && decide (l.state = .transientFailure) then
        { q with phase := .rejected .channelUnavailable }
      else q
  | _ => q

/-- `timeoutMs !== undefined && timeoutMs > 0` -/
def timed (q : Selector) : Bool := q.timeoutMs.any Timeout.positive

/-- When its timer can fire, until `done` clears it. -/
def due (q : Selector) : Option ℚ :=
  if q.timed then q.timeoutMs.map (Timeout.due (q.started + q.spent)) else none

def remaining (now : ℚ) (q : Selector) : Option Timeout :=
  if q.timed then q.timeoutMs.map (Timeout.less (now - q.started)) else q.timeoutMs

/-- `select` finds no time left. -/
def late (now : ℚ) (q : Selector) : Bool :=
  q.timed && (q.remaining now).any fun left => !left.positive

end Selector

structure Connection extends Life where
  now : ℚ := 0
  listeners : List Nat := []
  /-- History: what each listener was called with, in order. -/
  delivered : List (Nat × BridgeEvent) := []
  selectors : List Selector := []

/-- Which listeners call `close` from inside their callback. -/
abbrev Closes := Nat → Bool

namespace Connection

/-- `emit` up to its loop over the listeners. -/
def announce (c : Connection) (state : BridgeState) : Connection :=
  let l := { c.toLife with state }
  { c with toLife := l, selectors := c.selectors.map (Selector.check l) }

/-- `emit("closed", "local")`: a listener that calls `close` again finds it done. -/
def emitClosed (c : Connection) : Connection :=
  let c := c.announce .closed
  { c with delivered := c.delivered ++ c.listeners.map fun l => (l, ⟨.closed, some .local⟩) }

def close (c : Connection) : Connection :=
  if c.stopped then c
  else
    let channels := c.channels
    let c := { c with toLife := c.toLife.stop }.emitClosed
    { c with toLife := c.toLife.closeChannels channels }

/-- The loop over a copy of the listeners. -/
def deliver (event : BridgeEvent) (closes : Closes) : List Nat → Connection → Connection
  | [], c => c
  | l :: rest, c =>
      let c := { c with delivered := c.delivered ++ [(l, event)] }
      deliver event closes rest (if closes l then c.close else c)

def emit (c : Connection) (event : BridgeEvent) (closes : Closes) : Connection :=
  deliver event closes c.listeners (c.announce event.state)

/-- `subscribe`: the listener is called at once with the present state. -/
def subscribe (c : Connection) (l : Nat) (closes : Bool) : Connection :=
  let c := { c with
    listeners := if l ∈ c.listeners then c.listeners else c.listeners ++ [l]
    delivered := c.delivered ++ [(l, ⟨c.state, none⟩)] }
  if closes then c.close else c

/-! ## Dialing -/

/-- `connect` up to the call of `dial`. -/
def connect (c : Connection) (closes : Closes) : Connection :=
  let c := c.emit ⟨.connecting, none⟩ closes
  if c.stopped then { c with initial := c.initial.settle .failed }
  else { c with dialing := c.dialing + 1, dials := c.dials + 1 }

/-- `random` is the value of `Math.random()`. -/
def retry (c : Connection) (reason : Reason) (closes : Closes) (random : ℚ) : Connection :=
  let c := c.emit ⟨.transientFailure, some reason⟩ closes
  if c.stopped then c
  else { c with
    timer := some (c.delay * (4 / 5 + random * (2 / 5)))
    delay := min (c.delay * (8 / 5)) 30000 }

/-- The session object that `dial` returns: a new one, or one of those it has returned. -/
def receive (c : Connection) (returned : Option Nat) (closeThrows : Bool) : Nat × Connection :=
  match returned with
  | some s => (s, c)
  | none => (c.sessions.length, { c with sessions := c.sessions ++ [{ closeThrows }] })

/-- `this.session = session`, with its callbacks. -/
def install (c : Connection) (s : Nat) : Connection :=
  { c with
    session := some s
    delay := 1000
    sessions := c.sessions.modify s fun session => { session with
      onClosed := session.onClosed + 1
      onDraining := session.onDraining + 1 } }

/-- `connect` after `dial` has resolved. -/
def dialed (c : Connection) (returned : Option Nat) (closeThrows : Bool) (closes : Closes) :
    Connection :=
  let (s, c) := { c with dialing := c.dialing - 1 }.receive returned closeThrows
  if c.stopped then { c with toLife := c.toLife.markClosed s }
  else
    let c := (c.install s).emit ⟨.open, none⟩ closes
    { c with initial := c.initial.settle .ready }

/-- `connect` after `dial` has rejected. -/
def dialFailed (c : Connection) (closes : Closes) (random : ℚ) : Connection :=
  let c := { c with dialing := c.dialing - 1, initial := c.initial.settle .failed }
  if c.stopped then c else c.retry .error closes random

/-! ## The callbacks of a channel -/

def lost (c : Connection) (s : Nat) (reason : Reason) (closes : Closes) (random : ℚ) : Connection :=
  let c := { c with sessions := c.sessions.modify s fun session =>
    { session with onClosed := session.onClosed - 1 } }
  if c.stopped ∨ c.session ≠ some s then c
  else { c with session := none }.retry reason closes random

/-- The callback of `channel.draining`. -/
def drained (c : Connection) (s : Nat) (closes : Closes) : Connection :=
  let c := { c with sessions := c.sessions.modify s fun session =>
    { session with onDraining := session.onDraining - 1 } }
  if c.stopped ∨ c.session ≠ some s then c
  else
    connect { c with
      draining := if s ∈ c.draining then c.draining else c.draining ++ [s]
      sessions := c.sessions.modify s fun session =>
        { session with onDrained := session.onDrained + 1 }
      session := none } closes

/-- The callback that forgets a session whose channel has closed. -/
def removed (c : Connection) (s : Nat) : Connection :=
  { c with
    draining := c.draining.filter (· ≠ s)
    sessions := c.sessions.modify s fun session =>
      { session with onDrained := session.onDrained - 1 } }

/-- The rest of `close`: the channels' promises have all resolved, or one has not. -/
def closeSettles (c : Connection) (ok : Bool) : Connection :=
  { c with
    closing := false
    finished := true
    draining := if ok then [] else c.draining }

/-! ## select -/

/-- A call of `select` up to its await, which takes `spent`. -/
def select (c : Connection) (wait : Bool) (timeoutMs : Option Timeout) (aborted : Bool)
    (spent : ℚ≥0) : Connection :=
  let q : Selector := { wait, timeoutMs, started := c.now, spent, aborted }
  { c with
    now := c.now + spent
    selectors := c.selectors ++ [q.check c.toLife] }

def setSelection (c : Connection) (k : Nat) (phase : Selection) : Connection :=
  { c with selectors := c.selectors.modify k fun q => { q with phase } }

/-- The abort event of the call's signal. -/
def cancel (c : Connection) (k : Nat) : Connection :=
  { c with selectors := c.selectors.modify k fun q => { q with
      aborted := true
      phase := if q.phase = .waiting then .rejected .canceled else q.phase } }

/-- `select` after its promise has resolved. -/
def resume (c : Connection) (k : Nat) (q : Selector) : Connection :=
  c.setSelection k <|
    if q.aborted then .rejected .canceled
    else if q.late c.now then .rejected .deadlineExceeded
    else match c.session with
      | none => .rejected .channelUnavailable
      | some s => .returned s (q.remaining c.now)

end Connection

/-! ## Events -/

inductive Event where
  | advance (ms : ℚ≥0)
  /-- The constructor's microtask. -/
  | start (closes : Closes)
  | dialed (returned : Option Nat) (closeThrows : Bool) (closes : Closes)
  | dialFailed (closes : Closes) (random : ℚ)
  /-- The backoff timer fires. -/
  | timer (closes : Closes)
  /-- `channel.closed` of session `s` settles, or `channel.draining` resolves. -/
  | channelCloses (s : Nat) (ok : Bool)
  | channelDrains (s : Nat)
  | lost (s : Nat) (closes : Closes) (random : ℚ)
  | drained (s : Nat) (closes : Closes)
  | removed (s : Nat)
  | close
  | closeSettles (ok : Bool)
  | subscribe (l : Nat) (closes : Bool)
  | unsubscribe (l : Nat)
  | select (wait : Bool) (timeoutMs : Option Timeout) (aborted : Bool) (spent : ℚ≥0)
  | cancel (k : Nat)
  /-- The timer of selection `k` fires. -/
  | expire (k : Nat)
  | resume (k : Nat)

namespace Connection

def step (c : Connection) : Event → Option Connection
  | .advance ms => some { c with now := c.now + ms }
  | .start closes =>
      if c.started then none
      else
        let c := { c with started := true }
        some (if c.stopped then c else c.connect closes)
  | .dialed returned closeThrows closes =>
      if 0 < c.dialing ∧ ∀ s ∈ returned, s < c.sessions.length then
        some (c.dialed returned closeThrows closes)
      else none
  | .dialFailed closes random =>
      if 0 < c.dialing then some (c.dialFailed closes random) else none
  | .timer closes =>
      match c.timer with
      | some _ => some ({ c with timer := none }.connect closes)
      | none => none
  | .channelCloses s ok =>
      if c.sessions[s]?.any (·.closed.isNone) then
        some { c with sessions := c.sessions.modify s fun session => { session with closed := some ok } }
      else none
  | .channelDrains s =>
      some { c with sessions := c.sessions.modify s fun session => { session with draining := true } }
  | .lost s closes random =>
      match c.sessions[s]? with
      | some session =>
          match session.closed with
          | some ok =>
              if 0 < session.onClosed then
                some (c.lost s (if ok then .remote else .error) closes random)
              else none
          | none => none
      | none => none
  | .drained s closes =>
      if c.sessions[s]?.any fun session => session.draining && decide (0 < session.onDraining) then
        some (c.drained s closes)
      else none
  | .removed s =>
      if c.sessions[s]?.any fun session =>
          session.closed.isSome && decide (0 < session.onDrained) then
        some (c.removed s)
      else none
  | .close => some c.close
  | .closeSettles ok => if c.closing then some (c.closeSettles ok) else none
  | .subscribe l closes => some (c.subscribe l closes)
  | .unsubscribe l => some { c with listeners := c.listeners.filter (· ≠ l) }
  | .select wait timeoutMs aborted spent => some (c.select wait timeoutMs aborted spent)
  | .cancel k => some (c.cancel k)
  | .expire k =>
      match c.selectors[k]? with
      | some q =>
          if q.phase = .waiting ∧ q.due.any fun due => decide (due ≤ c.now) then
            some (c.setSelection k (.rejected .deadlineExceeded))
          else none
      | none => none
  | .resume k =>
      match c.selectors[k]? with
      | some q => if q.phase = .resolved then some (c.resume k q) else none
      | none => none

/-- What an event does, and when it can happen. -/
inductive Stepped (c : Connection) : Event → Connection → Prop
  | advance (ms : ℚ≥0) : Stepped c (.advance ms) { c with now := c.now + ms }
  | start (closes : Closes) (unstarted : c.started = false) :
      Stepped c (.start closes) (if c.stopped then { c with started := true }
        else { c with started := true }.connect closes)
  | dialed {returned : Option Nat} (throws : Bool) (closes : Closes) (dialing : 0 < c.dialing)
      (known : ∀ s ∈ returned, s < c.sessions.length) :
      Stepped c (.dialed returned throws closes) (c.dialed returned throws closes)
  | dialFailed (closes : Closes) (random : ℚ) (dialing : 0 < c.dialing) :
      Stepped c (.dialFailed closes random) (c.dialFailed closes random)
  | timer {due : ℚ} (closes : Closes) (armed : c.timer = some due) :
      Stepped c (.timer closes) ({ c with timer := none }.connect closes)
  | channelCloses (s : Nat) (ok : Bool) : Stepped c (.channelCloses s ok)
      { c with sessions := c.sessions.modify s fun session => { session with closed := some ok } }
  | channelDrains (s : Nat) : Stepped c (.channelDrains s)
      { c with sessions := c.sessions.modify s fun session => { session with draining := true } }
  | lost {s : Nat} {session : Session} {ok : Bool} (closes : Closes) (random : ℚ)
      (found : c.sessions[s]? = some session) (closed : session.closed = some ok) :
      Stepped c (.lost s closes random) (c.lost s (if ok then .remote else .error) closes random)
  | drained (s : Nat) (closes : Closes) : Stepped c (.drained s closes) (c.drained s closes)
  | removed {s : Nat} {session : Session} (found : c.sessions[s]? = some session)
      (closed : session.closed.isSome = true) : Stepped c (.removed s) (c.removed s)
  | close : Stepped c .close c.close
  | closeSettles (ok : Bool) (closing : c.closing = true) :
      Stepped c (.closeSettles ok) (c.closeSettles ok)
  | subscribe (l : Nat) (closes : Bool) : Stepped c (.subscribe l closes) (c.subscribe l closes)
  | unsubscribe (l : Nat) : Stepped c (.unsubscribe l)
      { c with listeners := c.listeners.filter (· ≠ l) }
  | select (wait : Bool) (timeoutMs : Option Timeout) (aborted : Bool) (spent : ℚ≥0) :
      Stepped c (.select wait timeoutMs aborted spent) (c.select wait timeoutMs aborted spent)
  | cancel (k : Nat) : Stepped c (.cancel k) (c.cancel k)
  | expire {k : Nat} {q : Selector} {due : ℚ} (found : c.selectors[k]? = some q)
      (waiting : q.phase = .waiting) (armed : q.due = some due) (passed : due ≤ c.now) :
      Stepped c (.expire k) (c.setSelection k (.rejected .deadlineExceeded))
  | resume {k : Nat} {q : Selector} (found : c.selectors[k]? = some q)
      (resolved : q.phase = .resolved) : Stepped c (.resume k) (c.resume k q)

/-- The inversion of `step`, event by event. -/
theorem step_cases {c c' : Connection} {e : Event} (stepped : c.step e = some c') :
    c.Stepped e c' := by
  cases e with
  | advance ms =>
      cases stepped
      exact .advance ms
  | start closes =>
      simp only [step] at stepped
      split at stepped
      · cases stepped
      · rename_i unstarted
        cases stepped
        exact .start closes (Bool.eq_false_of_not_eq_true unstarted)
  | dialed returned throws closes =>
      obtain ⟨⟨dialing, known⟩, ⟨⟩⟩ := Option.ite_none_right_eq_some.1 stepped
      exact .dialed throws closes dialing known
  | dialFailed closes random =>
      obtain ⟨dialing, ⟨⟩⟩ := Option.ite_none_right_eq_some.1 stepped
      exact .dialFailed closes random dialing
  | timer closes =>
      simp only [step] at stepped
      split at stepped
      · rename_i due armed
        cases stepped
        exact .timer closes armed
      · cases stepped
  | channelCloses s ok =>
      obtain ⟨-, ⟨⟩⟩ := Option.ite_none_right_eq_some.1 stepped
      exact .channelCloses s ok
  | lost s closes random =>
      simp only [step] at stepped
      split at stepped
      · rename_i session found
        split at stepped
        · rename_i ok closed
          obtain ⟨-, ⟨⟩⟩ := Option.ite_none_right_eq_some.1 stepped
          exact .lost closes random found closed
        · cases stepped
      · cases stepped
  | drained s closes =>
      obtain ⟨-, ⟨⟩⟩ := Option.ite_none_right_eq_some.1 stepped
      exact .drained s closes
  | removed s =>
      obtain ⟨guard, ⟨⟩⟩ := Option.ite_none_right_eq_some.1 stepped
      obtain ⟨session, found, closed⟩ := (Option.any_eq_true _ _).1 guard
      exact .removed found (Bool.and_eq_true_iff.1 closed).1
  | closeSettles ok =>
      obtain ⟨closing, ⟨⟩⟩ := Option.ite_none_right_eq_some.1 stepped
      exact .closeSettles ok closing
  | expire k =>
      simp only [step] at stepped
      split at stepped
      · rename_i q found
        obtain ⟨⟨waiting, guard⟩, ⟨⟩⟩ := Option.ite_none_right_eq_some.1 stepped
        obtain ⟨due, armed, passed⟩ := (Option.any_eq_true _ _).1 guard
        exact .expire found waiting armed (of_decide_eq_true passed)
      · cases stepped
  | resume k =>
      simp only [step] at stepped
      split at stepped
      · rename_i q found
        obtain ⟨resolved, ⟨⟩⟩ := Option.ite_none_right_eq_some.1 stepped
        exact .resume found resolved
      · cases stepped
  | channelDrains s =>
      cases stepped
      exact .channelDrains s
  | close =>
      cases stepped
      exact .close
  | subscribe l closes =>
      cases stepped
      exact .subscribe l closes
  | unsubscribe l =>
      cases stepped
      exact .unsubscribe l
  | select wait timeoutMs aborted spent =>
      cases stepped
      exact .select wait timeoutMs aborted spent
  | cancel k =>
      cases stepped
      exact .cancel k

end Connection

/-- Every interleaving of dials, losses, drains, timers, observers and `close`, with the
listener that the constructor was given, if any. -/
def recoveryMachine (listener : Option Nat) : Theory.Machine Connection Event where
  init := { listeners := listener.toList }
  step := Connection.step

end GrpcBridge.Recovery
