/-
# Recovery.Selections -- what a call that waits for a session is told

`select` waits in a promise until there is a session.  The promise resolves inside an
emit, and the rest of `select` runs as a continuation of its own: by then the session may
be gone, and the call is told that the channel is unavailable although it asked to wait.

Its deadline is a timer that is armed with the whole timeout, and `select` believes it when
it fires.  A timeout that `setTimeout` does not keep can be reported before it has elapsed.

`Calls` remembers what held when a selection was rejected, which selections resumed with no
session on a connection that is not closed, and which were given up by a timer that was
early.  For a call that waits, these are exactly the ones that are rejected without a cause
(`waits_iff_of_reaches`); no timer is early for a timeout that `setTimeout` keeps
(`unhurried_of_reaches`).
-/
import GrpcBridge.Recovery.Lifecycle

namespace GrpcBridge.Recovery

set_option autoImplicit false

open GrpcBridge.Theory

/-! ## What an emit does to the selections -/

namespace Selector

def rejected (q : Selector) : Bool :=
  match q.phase with
  | .rejected _ => true
  | _ => false

/-- What `check` can do to a selection, when `closed` says that the connection is closed. -/
structure Onward (closed : Prop) (q q' : Selector) : Prop where
  wait : q'.wait = q.wait
  timeoutMs : q'.timeoutMs = q.timeoutMs
  aborted : q'.aborted = q.aborted
  final : q.phase ≠ .waiting → q' = q
  cause : q.rejected = false → q'.rejected = true → q.wait = true → q.aborted = true ∨ closed

theorem onward_refl (closed : Prop) (q : Selector) : Onward closed q q := by
  refine ⟨rfl, rfl, rfl, fun _ => rfl, ?_⟩
  intro before after
  rw [before] at after
  cases after

theorem Onward.trans {closed : Prop} {q q' q'' : Selector} (first : Onward closed q q')
    (second : Onward closed q' q'') : Onward closed q q'' := by
  refine ⟨second.wait.trans first.wait, second.timeoutMs.trans first.timeoutMs,
    second.aborted.trans first.aborted, ?_, ?_⟩
  · intro finished
    have same := first.final finished
    rw [same] at second
    exact second.final finished
  · intro before after wait
    cases middle : q'.rejected with
    | true => exact first.cause before middle wait
    | false =>
        rw [← first.aborted]
        exact second.cause middle after (first.wait.trans wait)

theorem Onward.mono {closed wider : Prop} {q q' : Selector} (onward : Onward closed q q')
    (weaken : closed → wider) : Onward wider q q' :=
  ⟨onward.wait, onward.timeoutMs, onward.aborted, onward.final,
    fun before after wait => (onward.cause before after wait).imp id weaken⟩

theorem check_onward (l : Life) (q : Selector) : Onward (l.state = .closed) q (q.check l) := by
  unfold check
  split
  · rename_i waiting
    have here : ∀ {P : Prop}, q.phase ≠ .waiting → P := fun elsewhere => absurd waiting elsewhere
    split
    · rename_i aborted
      exact ⟨rfl, rfl, rfl, here, fun _ _ _ => .inl aborted⟩
    · split
      · rename_i closed
        exact ⟨rfl, rfl, rfl, here, fun _ _ _ => .inr closed⟩
      · split
        · exact ⟨rfl, rfl, rfl, here, fun _ resolved => Bool.noConfusion resolved⟩
        · split
          · rename_i impatient
            refine ⟨rfl, rfl, rfl, here, fun _ _ wait => ?_⟩
            rw [wait] at impatient
            cases impatient
          · exact onward_refl _ q
  · exact onward_refl _ q

end Selector

namespace Connection

variable {c c' : Connection}

/-- Every selection has been checked, any number of times. -/
def Attends (c c' : Connection) : Prop :=
  ∃ f : Selector → Selector, c'.selectors = c.selectors.map f ∧
    ∀ q, Selector.Onward (c'.state = .closed) q (f q)

theorem attends_same (selectors : c'.selectors = c.selectors) : c.Attends c' :=
  ⟨id, by rw [selectors, List.map_id], fun q => q.onward_refl _⟩

theorem Attends.trans {c'' : Connection} (first : c.Attends c') (second : c'.Attends c'')
    (closed : c'.state = .closed → c''.state = .closed) : c.Attends c'' := by
  obtain ⟨f, selectors, onward⟩ := first
  obtain ⟨f', selectors', onward'⟩ := second
  refine ⟨f' ∘ f, by rw [selectors', selectors, List.map_map], fun q => ?_⟩
  exact ((onward q).mono closed).trans (onward' (f q))

theorem announce_attends (c : Connection) (state : BridgeState) : c.Attends (c.announce state) :=
  ⟨_, rfl, fun q => q.check_onward { c.toLife with state }⟩

theorem close_closed (closed : c.state = .closed) : c.close.state = .closed := by
  unfold close
  split
  · exact closed
  · dsimp only
    rw [(Life.closeChannels_swept _ _).rest]
    rfl

theorem close_attends (c : Connection) : c.Attends c.close := by
  unfold close
  split
  · exact attends_same rfl
  · dsimp only
    have checked : { c with toLife := c.toLife.stop }.Attends
        ({ c with toLife := c.toLife.stop }.announce .closed) := announce_attends _ _
    obtain ⟨f, selectors, onward⟩ := checked
    refine ⟨f, selectors, fun q => (onward q).mono fun _ => ?_⟩
    rw [(Life.closeChannels_swept _ _).rest]
    rfl

theorem deliver_closed (event : BridgeEvent) (closes : Closes) (ls : List Nat)
    (closed : c.state = .closed) : (deliver event closes ls c).state = .closed := by
  induction ls generalizing c with
  | nil => exact closed
  | cons l rest ih =>
      rw [deliver]
      apply ih
      split
      · exact close_closed closed
      · exact closed

theorem deliver_attends (event : BridgeEvent) (closes : Closes) (ls : List Nat) (c : Connection) :
    c.Attends (deliver event closes ls c) := by
  induction ls generalizing c with
  | nil => exact attends_same rfl
  | cons l rest ih =>
      rw [deliver]
      split
      · have called : c.Attends { c with delivered := c.delivered ++ [(l, event)] } := attends_same rfl
        have closing := called.trans (close_attends _) close_closed
        exact closing.trans (ih _) (deliver_closed event closes rest)
      · have called : c.Attends { c with delivered := c.delivered ++ [(l, event)] } := attends_same rfl
        exact called.trans (ih _) (deliver_closed event closes rest)

theorem emit_attends (c : Connection) (event : BridgeEvent) (closes : Closes) :
    c.Attends (c.emit event closes) :=
  (announce_attends c event.state).trans (deliver_attends event closes c.listeners _)
    (deliver_closed event closes c.listeners)

/-- What surrounds an emit leaves the selections and the state alone. -/
theorem Attends.frame {d d' : Connection} (attends : c.Attends c') (before : d.selectors = c.selectors)
    (after : d'.selectors = c'.selectors) (state : d'.state = c'.state) : d.Attends d' := by
  obtain ⟨f, selectors, onward⟩ := attends
  refine ⟨f, by rw [after, selectors, before], fun q => ?_⟩
  rw [state]
  exact onward q

theorem Attends.after {d : Connection} (attends : c.Attends c')
    (before : d.selectors = c.selectors) : d.Attends c' :=
  attends.frame before rfl rfl

theorem connect_attends (c : Connection) (closes : Closes) : c.Attends (c.connect closes) := by
  have emitted := emit_attends c ⟨.connecting, none⟩ closes
  unfold connect
  dsimp only
  split
  · exact emitted.frame rfl rfl rfl
  · exact emitted.frame rfl rfl rfl

theorem retry_attends (c : Connection) (reason : Reason) (closes : Closes) (random : ℚ) :
    c.Attends (c.retry reason closes random) := by
  have emitted := emit_attends c ⟨.transientFailure, some reason⟩ closes
  unfold retry
  dsimp only
  split
  · exact emitted
  · exact emitted.frame rfl rfl rfl

theorem dialed_attends (c : Connection) (returned : Option Nat) (throws : Bool) (closes : Closes) :
    c.Attends (c.dialed returned throws closes) := by
  have kept : ({ c with dialing := c.dialing - 1 }.receive returned throws).2.selectors =
      c.selectors := by
    cases returned with
    | none => rfl
    | some s => rfl
  unfold dialed
  dsimp only
  generalize ({ c with dialing := c.dialing - 1 } : Connection).receive returned throws = received
    at kept
  split
  · exact attends_same kept
  · exact (emit_attends (received.2.install received.1) ⟨.open, none⟩ closes).frame kept.symm rfl rfl

end Connection

/-! ## Why a selection was rejected -/

/-- What held when a selection was rejected: its signal was aborted, its timeout had
elapsed, the connection was closed. -/
structure Cause where
  aborted : Bool
  elapsed : Bool
  closed : Bool
deriving DecidableEq, Repr

def Cause.justified (c : Cause) : Prop := c.aborted = true ∨ c.elapsed = true ∨ c.closed = true

namespace Timeout

/-- It is over by `now`, counted from `started`. -/
def hasPassed (started now : ℚ) : Timeout → Bool
  | .finite ms => decide (started + ms ≤ now)
  | .infinite => false

/-- `setTimeout` keeps it as it is. -/
def kept : Timeout → Bool
  | .finite ms => decide (Timer.Kept ms)
  | .infinite => false

theorem positive_less (started now : ℚ) (t : Timeout) :
    (t.less (now - started)).positive = !t.hasPassed started now := by
  cases t with
  | infinite => rfl
  | finite ms =>
      rw [less, positive, hasPassed, ← decide_not]
      refine decide_eq_decide.2 ?_
      rw [not_le]
      constructor <;> intro bound <;> linarith

/-- A timer that keeps its delay fires in time. -/
theorem hasPassed_of_due {started armed now : ℚ} {t : Timeout} (later : started ≤ armed)
    (passed : t.due armed ≤ now) (kept : t.kept = true) : t.hasPassed started now = true := by
  cases t with
  | infinite => cases kept
  | finite ms =>
      have whole : Timer.Kept ms := of_decide_eq_true kept
      rw [due, Timer.due_of_kept whole] at passed
      refine decide_eq_true ?_
      dsimp only at passed
      linarith

end Timeout

namespace Selector

/-- The timeout of the call has elapsed, by the clock. -/
def elapsed (now : ℚ) (q : Selector) : Bool :=
  q.timed && q.timeoutMs.any (Timeout.hasPassed q.started now)

/-- No timer is armed, or `setTimeout` keeps the timeout as it is. -/
def kept (q : Selector) : Bool := q.timeoutMs.all fun t => !t.positive || t.kept

theorem late_eq_elapsed (now : ℚ) (q : Selector) : q.late now = q.elapsed now := by
  unfold late elapsed remaining
  cases timed : q.timed with
  | false => rfl
  | true =>
      cases q.timeoutMs with
      | none => rfl
      | some t => simp [Timeout.positive_less]

theorem elapsed_of_due {now due : ℚ} {q : Selector} (armed : q.due = some due)
    (passed : due ≤ now) (kept : q.kept = true) : q.elapsed now = true := by
  unfold Selector.due at armed
  split at armed
  · rename_i timed
    obtain ⟨t, given, rfl⟩ := Option.map_eq_some_iff.1 armed
    have positive : t.positive = true := by simpa [Selector.timed, given] using timed
    have whole : t.kept = true := by simpa [Selector.kept, given, positive] using kept
    have later : q.started ≤ q.started + q.spent := le_add_of_nonneg_right q.spent.coe_nonneg
    simp [elapsed, timed, given, Timeout.hasPassed_of_due later passed whole]
  · cases armed

end Selector

/-- What holds of a selection of the connection. -/
def Connection.cause (c : Connection) (q : Selector) : Cause :=
  ⟨q.aborted, q.elapsed c.now, c.state = .closed⟩

structure Calls where
  connection : Connection
  causes : Nat → Option Cause := fun _ => none
  /-- The selections that resumed with no session on a connection that is not closed, with
  time left and their signal not aborted. -/
  stranded : Nat → Bool := fun _ => false
  /-- The selections whose timer fired before their timeout had elapsed, with a timeout that
  `setTimeout` does not keep. -/
  hurried : Nat → Bool := fun _ => false

namespace Calls

def cause (w : Calls) (c : Connection) (k : Nat) : Option Cause :=
  match c.selectors[k]? with
  | some q =>
      if q.rejected && !w.connection.selectors[k]?.any Selector.rejected then some (c.cause q)
      else w.causes k
  | none => w.causes k

/-- A step that resumes selection `k` without a session. -/
def strands (c : Connection) (e : Event) (k : Nat) : Bool :=
  match e with
  | .resume j =>
      j == k && c.session.isNone && c.state ≠ .closed &&
        c.selectors[k]?.any fun q => !q.aborted && !q.elapsed c.now
  | _ => false

/-- A step in which the timer of selection `k` is early. -/
def hurries (c : Connection) (e : Event) (k : Nat) : Bool :=
  match e with
  | .expire j =>
      j == k && c.state ≠ .closed &&
        c.selectors[k]?.any fun q => !q.aborted && !q.kept && !q.elapsed c.now
  | _ => false

/-- The step of event `e` to `c`. -/
def record (w : Calls) (e : Event) (c : Connection) : Calls :=
  { connection := c
    causes := w.cause c
    stranded := fun k => w.stranded k || strands w.connection e k
    hurried := fun k => w.hurried k || hurries w.connection e k }

def step (w : Calls) (e : Event) : Option Calls := (w.connection.step e).map (w.record e)

/-- Every interleaving, with the causes of rejections. -/
def machine (listener : Option Nat) : Machine Calls Event where
  init := { connection := (recoveryMachine listener).init }
  step := step

/-- Wait-for-ready waits: a selection that waits is rejected for a cause only. -/
def Waits (w : Calls) (k : Nat) : Prop :=
  ∀ q, w.connection.selectors[k]? = some q → q.wait = true → q.rejected = true →
    ∃ cause, w.causes k = some cause ∧ cause.justified

/-- A selection that was rejected without a cause. -/
def wronged (w : Calls) (k : Nat) : Bool := w.stranded k || w.hurried k

/-- A step that rejects selection `k` without a cause. -/
def wrongs (c : Connection) (e : Event) (k : Nat) : Bool := strands c e k || hurries c e k

theorem record_wronged (w : Calls) (e : Event) (c : Connection) (k : Nat) :
    (w.record e c).wronged k = (w.wronged k || wrongs w.connection e k) := by
  simp only [wronged, wrongs, record]
  ac_rfl

/-- One selection with its history. -/
structure Told (q : Selector) (cause : Option Cause) (wronged : Bool) : Prop where
  rejects : wronged = true → q.rejected = true
  caused : q.rejected = true → ∃ c, cause = some c ∧
    (q.wait = true → (c.justified ↔ wronged = false))

/-- A step that leaves a rejected selection as it is, and rejects for a cause. -/
theorem Told.turn {q q' : Selector} {cause : Option Cause} {wronged : Bool}
    (told : Told q cause wronged) (fresh : Cause) (final : q.rejected = true → q'.rejected = true)
    (wait : q'.wait = q.wait)
    (justified : q.rejected = false → q'.rejected = true → q.wait = true → fresh.justified) :
    Told q' (if q'.rejected && !q.rejected then some fresh else cause) wronged := by
  cases before : q.rejected with
  | true =>
      have after := final before
      simp only [after, Bool.not_true, Bool.and_false, Bool.false_eq_true, if_false]
      refine ⟨fun _ => after, fun _ => ?_⟩
      rw [wait]
      exact told.caused before
  | false =>
      have unwronged : wronged = false := by
        refine Bool.eq_false_of_not_eq_true fun wronged => ?_
        have after := told.rejects wronged
        rw [before] at after
        cases after
      subst unwronged
      refine ⟨Bool.noConfusion, fun after => ⟨fresh, ?_, fun waits => ?_⟩⟩
      · rw [after]
        rfl
      · exact iff_of_true (justified before after (wait ▸ waits)) rfl

/-- Every selection agrees with its history, and none has a history before it is made. -/
structure Agrees (w : Calls) : Prop where
  told : ∀ k q, w.connection.selectors[k]? = some q → Told q (w.causes k) (w.wronged k)
  unmade : ∀ k, w.connection.selectors[k]? = none → w.wronged k = false
  cut : ∀ k q, w.connection.selectors[k]? = some q → w.hurried k = true → q.kept = false

variable {w w' : Calls} {e : Event} {c : Connection}

theorem cause_eq {k : Nat} {q q' : Selector} (before : w.connection.selectors[k]? = some q)
    (after : c.selectors[k]? = some q') :
    w.cause c k = if q'.rejected && !q.rejected then some (c.cause q') else w.causes k := by
  rw [cause, after, before]
  rfl

/-- The timers that are early have a timeout that `setTimeout` does not keep. -/
theorem cut_of_hurries {k : Nat} {q : Selector} (hurries : hurries c e k = true)
    (found : c.selectors[k]? = some q) : q.kept = false := by
  unfold Calls.hurries at hurries
  split at hurries
  · rw [found] at hurries
    simp only [Option.any_some, Bool.and_eq_true, Bool.not_eq_true'] at hurries
    exact hurries.2.1.2
  · cases hurries

/-- A selection that a step leaves its timeout. -/
theorem Agrees.cut_next (agrees : w.Agrees) {k : Nat} {q q' : Selector}
    (before : w.connection.selectors[k]? = some q) (timeoutMs : q'.timeoutMs = q.timeoutMs)
    (hurried : (w.record e c).hurried k = true) : q'.kept = false := by
  rw [Selector.kept, timeoutMs]
  obtain earlier | now := Bool.or_eq_true_iff.1 hurried
  · exact agrees.cut k q before earlier
  · exact cut_of_hurries now before

/-- A step in which selections are checked, nothing resumes and no timer fires. -/
theorem Agrees.attends (agrees : w.Agrees) (attends : w.connection.Attends c)
    (other : ∀ k, wrongs w.connection e k = false) : (w.record e c).Agrees := by
  obtain ⟨f, selectors, onward⟩ := attends
  refine ⟨?_, ?_, ?_⟩
  · intro k q' after
    have after : c.selectors[k]? = some q' := after
    have found := after
    rw [selectors, List.getElem?_map] at found
    obtain ⟨q, before, rfl⟩ := Option.map_eq_some_iff.1 found
    rw [record_wronged, other k, Bool.or_false]
    show Told (f q) (w.cause c k) (w.wronged k)
    rw [cause_eq before after]
    refine (agrees.told k q before).turn _ ?_ (onward q).wait ?_
    · intro rejected
      have finished : q.phase ≠ .waiting := by
        intro waiting
        rw [Selector.rejected, waiting] at rejected
        cases rejected
      rw [(onward q).final finished]
      exact rejected
    · intro before' after' wait
      obtain aborted | closed := (onward q).cause before' after' wait
      · exact .inl ((onward q).aborted.trans aborted)
      · exact .inr (.inr (decide_eq_true closed))
  · intro k unmade
    have unmade : c.selectors[k]? = none := unmade
    rw [selectors, List.getElem?_map, Option.map_eq_none_iff] at unmade
    rw [record_wronged, other k, agrees.unmade k unmade]
    rfl
  · intro k q' after hurried
    have after : c.selectors[k]? = some q' := after
    rw [selectors, List.getElem?_map] at after
    obtain ⟨q, before, rfl⟩ := Option.map_eq_some_iff.1 after
    exact agrees.cut_next before (onward q).timeoutMs hurried

/-- A step that changes one selection. -/
theorem Agrees.modify (agrees : w.Agrees) {j : Nat} {f : Selector → Selector}
    (selectors : c.selectors = w.connection.selectors.modify j f)
    (timeoutMs : ∀ q, (f q).timeoutMs = q.timeoutMs)
    (elsewhere : ∀ k, k ≠ j → wrongs w.connection e k = false)
    (here : ∀ q, w.connection.selectors[j]? = some q → Told q (w.causes j) (w.wronged j) →
      Told (f q) (if (f q).rejected && !q.rejected then some (c.cause (f q)) else w.causes j)
        (w.wronged j || wrongs w.connection e j))
    (made : w.connection.selectors[j]? = none → wrongs w.connection e j = false) :
    (w.record e c).Agrees := by
  refine ⟨?_, ?_, ?_⟩
  · intro k q' after
    have after : c.selectors[k]? = some q' := after
    have found := after
    rw [selectors, List.getElem?_modify] at found
    obtain ⟨q, before, rfl⟩ := Option.map_eq_some_iff.1 found
    rw [record_wronged]
    show Told _ (w.cause c k) _
    rw [cause_eq before after]
    by_cases own : j = k
    · subst own
      rw [if_pos rfl]
      exact here q before (agrees.told j q before)
    · rw [if_neg own, elsewhere k (Ne.symm own), Bool.or_false]
      simp only [Bool.and_not_self, Bool.false_eq_true, if_false]
      exact agrees.told k q before
  · intro k unmade
    have unmade : c.selectors[k]? = none := unmade
    rw [List.getElem?_eq_none_iff, selectors, List.length_modify,
      ← List.getElem?_eq_none_iff] at unmade
    rw [record_wronged, agrees.unmade k unmade]
    by_cases own : k = j
    · subst own
      rw [made unmade]
      rfl
    · rw [elsewhere k own]
      rfl
  · intro k q' after hurried
    have after : c.selectors[k]? = some q' := after
    rw [selectors, List.getElem?_modify] at after
    obtain ⟨q, before, rfl⟩ := Option.map_eq_some_iff.1 after
    refine agrees.cut_next before ?_ hurried
    split
    · exact timeoutMs q
    · rfl

theorem Agrees.select (agrees : w.Agrees) (wait : Bool) (timeoutMs : Option Timeout) (aborted : Bool)
    (spent : ℚ≥0) :
    (w.record (.select wait timeoutMs aborted spent)
      (w.connection.select wait timeoutMs aborted spent)).Agrees := by
  obtain ⟨fresh, made⟩ : ∃ fresh : Selector,
      fresh = { wait, timeoutMs, started := w.connection.now, spent, aborted } := ⟨_, rfl⟩
  have onward := Selector.check_onward w.connection.toLife fresh
  have selectors : (w.connection.select wait timeoutMs aborted spent).selectors =
      w.connection.selectors ++ [fresh.check w.connection.toLife] := by
    rw [made]
    rfl
  have pending : fresh.rejected = false := by
    rw [made]
    rfl
  refine ⟨?_, ?_, ?_⟩
  · intro k q' after
    have after : (w.connection.select wait timeoutMs aborted spent).selectors[k]? = some q' := after
    have found := after
    rw [selectors] at found
    rw [record_wronged, show wrongs w.connection (.select wait timeoutMs aborted spent) k = false
      from rfl, Bool.or_false]
    show Told q' (w.cause _ k) (w.wronged k)
    cases before : w.connection.selectors[k]? with
    | some q =>
        rw [List.getElem?_append_left (List.getElem?_eq_some_iff.1 before).1, before] at found
        have same := Option.some.inj found
        subst same
        rw [cause_eq before after]
        simp only [Bool.and_not_self, Bool.false_eq_true, if_false]
        exact agrees.told k q before
    | none =>
        have new : q' = fresh.check w.connection.toLife := by
          rw [List.getElem?_append_right (List.getElem?_eq_none_iff.1 before)] at found
          obtain ⟨_, same⟩ := List.getElem?_eq_some_iff.1 found
          rw [← same]
          simp
        subst new
        rw [agrees.unmade k before, cause, after, before]
        refine ⟨Bool.noConfusion, fun rejected => ?_⟩
        dsimp only
        rw [rejected]
        refine ⟨_, rfl, fun waits => iff_of_true ?_ rfl⟩
        obtain aborted' | closed := onward.cause pending rejected (onward.wait.symm.trans waits)
        · exact .inl (onward.aborted.trans aborted')
        · exact .inr (.inr (decide_eq_true closed))
  · intro k unmade
    have unmade : (w.connection.select wait timeoutMs aborted spent).selectors[k]? = none := unmade
    rw [List.getElem?_eq_none_iff, selectors, List.length_append] at unmade
    rw [record_wronged, agrees.unmade k (List.getElem?_eq_none_iff.2 (by omega))]
    rfl
  · intro k q' after hurried
    have after : (w.connection.select wait timeoutMs aborted spent).selectors[k]? = some q' := after
    cases before : w.connection.selectors[k]? with
    | some q =>
        rw [selectors, List.getElem?_append_left (List.getElem?_eq_some_iff.1 before).1, before] at after
        cases after
        exact agrees.cut_next before rfl hurried
    | none =>
        have unhurried := (Bool.or_eq_false_iff.1 (agrees.unmade k before)).2
        have same : (w.record (.select wait timeoutMs aborted spent)
            (w.connection.select wait timeoutMs aborted spent)).hurried k = (w.hurried k || false) := rfl
        rw [same, unhurried] at hurried
        cases hurried

theorem Agrees.cancel (agrees : w.Agrees) (j : Nat) :
    (w.record (.cancel j) (w.connection.cancel j)).Agrees := by
  refine agrees.modify rfl (fun _ => rfl) (fun _ _ => rfl) ?_ fun _ => rfl
  intro q _ told
  rw [show wrongs w.connection (.cancel j) j = false from rfl, Bool.or_false]
  refine told.turn _ ?_ rfl fun _ _ _ => .inl rfl
  intro rejected
  have finished : q.phase ≠ .waiting := by
    intro waiting
    rw [Selector.rejected, waiting] at rejected
    cases rejected
  simp only [Selector.rejected, if_neg finished]
  exact rejected

/-- A step that rejects selection `j`, exactly without a cause when it wrongs it. -/
theorem Told.ends {j : Nat} {q : Selector} (told : Told q (w.causes j) (w.wronged j))
    (pending : q.rejected = false) (error : Unavailable) {wrong : Bool}
    (exact_ : (c.cause q).justified ↔ wrong = false) :
    Told { q with phase := .rejected error }
      (if ({ q with phase := .rejected error } : Selector).rejected && !q.rejected then
        some (c.cause q) else w.causes j) (w.wronged j || wrong) := by
  have unwronged : w.wronged j = false := by
    refine Bool.eq_false_of_not_eq_true fun wronged => ?_
    rw [told.rejects wronged] at pending
    cases pending
  refine ⟨fun _ => rfl, fun _ => ?_⟩
  rw [pending, unwronged, Bool.false_or]
  exact ⟨_, rfl, fun _ => exact_⟩

/-- The timer of a selection: it is early only if `setTimeout` has not kept its delay. -/
theorem Agrees.expire (agrees : w.Agrees) {j : Nat} {q : Selector} {due : ℚ}
    (found : w.connection.selectors[j]? = some q) (waiting : q.phase = .waiting)
    (armed : q.due = some due) (passed : due ≤ w.connection.now) :
    (w.record (.expire j) (w.connection.setSelection j (.rejected .deadlineExceeded))).Agrees := by
  have pending : q.rejected = false := by rw [Selector.rejected, waiting]
  refine agrees.modify rfl (fun _ => rfl) ?_ ?_ ?_
  · intro k other
    have apart : (j == k) = false := beq_eq_false_iff_ne.2 (Ne.symm other)
    simp only [wrongs, strands, hurries, apart, Bool.false_and, Bool.or_false]
  · intro q' found' told
    cases found.symm.trans found'
    refine told.ends pending _ ?_
    have early : wrongs w.connection (.expire j) j = (decide (w.connection.state ≠ .closed) &&
        (!q.aborted && !q.kept && !q.elapsed w.connection.now)) := by
      simp [wrongs, strands, hurries, found]
    rw [early]
    show q.aborted = true ∨ q.elapsed w.connection.now = true ∨
      decide (w.connection.state = .closed) = true ↔ _
    cases kept : q.kept with
    | true =>
        have elapsed := Selector.elapsed_of_due armed passed kept
        simp [elapsed]
    | false =>
        cases q.aborted <;> cases q.elapsed w.connection.now <;> simp
  · intro unmade
    rw [found] at unmade
    cases unmade

/-- The continuation of `select`. -/
theorem Agrees.resume (agrees : w.Agrees) {j : Nat} {q : Selector}
    (found : w.connection.selectors[j]? = some q) (resolved : q.phase = .resolved) :
    (w.record (.resume j) (w.connection.resume j q)).Agrees := by
  have pending : q.rejected = false := by rw [Selector.rejected, resolved]
  refine agrees.modify rfl (fun _ => rfl) ?_ ?_ ?_
  · intro k other
    have apart : (j == k) = false := beq_eq_false_iff_ne.2 (Ne.symm other)
    simp only [wrongs, strands, hurries, apart, Bool.false_and, Bool.or_false]
  · intro q' found' told
    cases found.symm.trans found'
    have strand : wrongs w.connection (.resume j) j = (w.connection.session.isNone &&
        decide (w.connection.state ≠ .closed) &&
          (!q.aborted && !q.elapsed w.connection.now)) := by
      simp [wrongs, strands, hurries, found]
    rw [strand]
    split
    · rename_i aborted
      refine told.ends pending _ ?_
      simp [Connection.cause, Cause.justified, aborted]
    · rename_i attached
      split
      · rename_i late
        rw [Selector.late_eq_elapsed] at late
        refine told.ends pending _ (iff_of_true (.inr (.inl late)) ?_)
        simp [late]
      · rename_i early
        rw [Selector.late_eq_elapsed] at early
        cases session : w.connection.session with
        | some s =>
            rw [Option.isNone_some, Bool.false_and, Bool.false_and, Bool.or_false]
            refine told.turn _ ?_ rfl fun _ after => Bool.noConfusion after
            intro rejected
            rw [pending] at rejected
            cases rejected
        | none =>
            refine told.ends pending _ ?_
            show q.aborted = true ∨ q.elapsed w.connection.now = true ∨
              decide (w.connection.state = .closed) = true ↔ _
            simp [attached, early]
  · intro unmade
    rw [found] at unmade
    cases unmade

/-- **One step.** -/
theorem agrees_step (agrees : w.Agrees) (stepped : w.step e = some w') : w'.Agrees := by
  obtain ⟨c, moved, rfl⟩ := Option.map_eq_some_iff.1 stepped
  cases Connection.step_cases moved with
  | start closes unstarted =>
      refine agrees.attends ?_ fun _ => rfl
      split
      · exact Connection.attends_same rfl
      · exact (Connection.connect_attends _ closes).after rfl
  | dialed throws closes dialing known =>
      exact agrees.attends (Connection.dialed_attends _ _ throws closes) fun _ => rfl
  | dialFailed closes random dialing =>
      refine agrees.attends ?_ fun _ => rfl
      simp only [Connection.dialFailed]
      split
      · exact Connection.attends_same rfl
      · exact (Connection.retry_attends _ .error closes random).after rfl
  | timer closes armed =>
      refine agrees.attends ?_ fun _ => rfl
      exact (Connection.connect_attends _ closes).after rfl
  | lost closes random found closed =>
      refine agrees.attends ?_ fun _ => rfl
      simp only [Connection.lost]
      split
      · exact Connection.attends_same rfl
      · exact (Connection.retry_attends _ _ closes random).after rfl
  | drained s closes =>
      refine agrees.attends ?_ fun _ => rfl
      simp only [Connection.drained]
      split
      · exact Connection.attends_same rfl
      · exact (Connection.connect_attends _ closes).after rfl
  | close => exact agrees.attends (Connection.close_attends _) fun _ => rfl
  | subscribe l closes =>
      refine agrees.attends ?_ fun _ => rfl
      simp only [Connection.subscribe]
      split
      · exact (Connection.close_attends _).after rfl
      · exact Connection.attends_same rfl
  | advance | channelCloses | channelDrains | removed | closeSettles | unsubscribe =>
      exact agrees.attends (Connection.attends_same rfl) fun _ => rfl
  | select wait timeoutMs aborted spent => exact agrees.select wait timeoutMs aborted spent
  | cancel j => exact agrees.cancel j
  | expire found waiting armed passed => exact agrees.expire found waiting armed passed
  | resume found resolved => exact agrees.resume found resolved

theorem agrees_of_reaches {listener : Option Nat}
    (reached : (machine listener).Reaches Machine.always w) : w.Agrees := by
  refine reached.invariant Agrees (fun _ _ _ agrees _ stepped => agrees_step agrees stepped) ?_
  have unmade : ∀ {P : Prop} (k : Nat) (q : Selector),
      (machine listener).init.connection.selectors[k]? = some q → P := by
    intro _ k q found
    simp [machine, recoveryMachine] at found
  exact ⟨fun k q found => unmade k q found, fun _ _ => rfl, fun k q found => unmade k q found⟩

/-- No timer is early for a timeout that `setTimeout` keeps, or for one that arms none. -/
theorem unhurried_of_reaches {listener : Option Nat}
    (reached : (machine listener).Reaches Machine.always w) {k : Nat} {q : Selector}
    (made : w.connection.selectors[k]? = some q) (kept : q.kept = true) : w.hurried k = false := by
  refine Bool.eq_false_of_not_eq_true fun hurried => ?_
  rw [(agrees_of_reaches reached).cut k q made hurried] at kept
  cases kept

/-- **Wait-for-ready waits exactly when the session is still there and no timer is early.**  In
every state that any interleaving reaches, a selection that waits has been rejected for a
cause only (its signal, its timeout, the connection closed), unless it resumed with no
session on an open connection, or its timer fired before a timeout that `setTimeout` does not
keep. -/
theorem waits_iff_of_reaches {listener : Option Nat}
    (reached : (machine listener).Reaches Machine.always w) {k : Nat} {q : Selector}
    (made : w.connection.selectors[k]? = some q) (wait : q.wait = true) :
    w.Waits k ↔ w.stranded k = false ∧ w.hurried k = false := by
  have told := (agrees_of_reaches reached).told k q made
  rw [← Bool.or_eq_false_iff]
  constructor
  · intro waits
    refine Bool.eq_false_of_not_eq_true fun wronged => ?_
    have rejected := told.rejects wronged
    obtain ⟨cause, recorded, justified⟩ := waits q made wait rejected
    obtain ⟨cause', recorded', exact_⟩ := told.caused rejected
    cases recorded.symm.trans recorded'
    exact Bool.false_ne_true (((exact_ wait).1 justified).symm.trans wronged)
  · intro unwronged q' made' _ rejected
    cases made.symm.trans made'
    obtain ⟨cause, recorded, exact_⟩ := told.caused rejected
    exact ⟨cause, recorded, (exact_ wait).2 unwronged⟩

def quietly : Closes := fun _ => false

/-- A session whose channel has closed by the time the waiting call resumes. -/
def lostInBetween : List Event :=
  [.start quietly, .select true none false 0, .dialed none false quietly, .channelCloses 0 true,
    .lost 0 quietly (1 / 2), .resume 0]

/-- A waiting call that runs out of time. -/
def outOfTime : List Event :=
  [.start quietly, .select true (some (.finite 100)) false 2, .advance 100, .expire 0]

/-- The first selection, its cause, whether it was wronged, and the state. -/
def report (w : Calls) : Option Selector × Option Cause × Bool × Bool × BridgeState :=
  (w.connection.selectors[0]?, w.causes 0, w.stranded 0, w.hurried 0, w.connection.state)

theorem lostInBetween_report :
    ((machine none).run Machine.always (machine none).init lostInBetween).map report =
      some (some ⟨true, none, 0, 0, false, .rejected .channelUnavailable⟩,
        some ⟨false, false, false⟩, true, false, .transientFailure) := by
  decide +kernel

theorem outOfTime_report :
    ((machine none).run Machine.always (machine none).init outOfTime).map report =
      some (some ⟨true, some (.finite 100), 0, 2, false, .rejected .deadlineExceeded⟩,
        some ⟨false, true, false⟩, false, false, .connecting) := by
  decide +kernel

/-- A timeout of more than 31 bits, whose timer can fire at once. -/
example : ((machine none).run Machine.always (machine none).init
      [.start quietly, .select true (some (.finite 2147483648)) false 0, .expire 0]).map report =
    some (some ⟨true, some (.finite 2147483648), 0, 0, false, .rejected .deadlineExceeded⟩,
      some ⟨false, false, false⟩, false, true, .connecting) := by
  decide +kernel

/-- **A call that waits is told that the channel is unavailable.** -/
theorem lostInBetween_rejected : ∃ w, (machine none).Reaches Machine.always w ∧
    w.connection.selectors[0]? =
      some ⟨true, none, 0, 0, false, .rejected .channelUnavailable⟩ ∧
    w.connection.state = .transientFailure ∧ ¬ w.Waits 0 := by
  obtain ⟨w, ran, seen⟩ := Option.map_eq_some_iff.1 lostInBetween_report
  simp only [report, Prod.mk.injEq] at seen
  obtain ⟨made, cause, -, -, state⟩ := seen
  refine ⟨w, Machine.steps_of_run _ ran, made, state, ?_⟩
  intro waits
  obtain ⟨c, recorded, justified⟩ := waits _ made rfl rfl
  cases cause.symm.trans recorded
  simp [Cause.justified] at justified

theorem waits_outOfTime : ∃ w, (machine none).Reaches Machine.always w ∧
    w.connection.selectors[0]? =
      some ⟨true, some (.finite 100), 0, 2, false, .rejected .deadlineExceeded⟩ ∧ w.Waits 0 := by
  obtain ⟨w, ran, seen⟩ := Option.map_eq_some_iff.1 outOfTime_report
  simp only [report, Prod.mk.injEq] at seen
  obtain ⟨made, -, unstranded, unhurried, -⟩ := seen
  have reached := Machine.steps_of_run _ ran
  exact ⟨w, reached, made, (waits_iff_of_reaches reached made rfl).2 ⟨unstranded, unhurried⟩⟩

end Calls

end GrpcBridge.Recovery
