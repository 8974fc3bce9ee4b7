/-
# Recovery.Listeners -- what a subscriber hears, and in which order

`emit` sets the state and then calls a copy of the listeners one after the other.  A
listener may call `close` from inside its callback.  That call emits "closed" to everybody
before it returns, and then the outer loop goes on with the event it was at: the
listeners after the one that closed hear "closed" first and the older event last.

What a step does to the listeners depends on four fields of the connection (`Seen`).  The
`Audience` keeps the states that were assigned, in order, and what each listener has heard
since it subscribed.  As long as nobody but the last listener closes from inside an emit,
every subscriber hears exactly the assignments since its subscription, and the first emit
in which an earlier one does puts the older event after "closed" (`inOrder_of_reaches`).
-/
import GrpcBridge.Recovery.Lifecycle

namespace GrpcBridge.Recovery

set_option autoImplicit false

open GrpcBridge.Theory

/-! ## The part of a connection that listeners see -/

structure Seen where
  listeners : List Nat
  delivered : List (Nat × BridgeEvent)
  state : BridgeState
  stopped : Bool

def Connection.seen (c : Connection) : Seen := ⟨c.listeners, c.delivered, c.state, c.stopped⟩

/-- The event of `close`. -/
def closedEvent : BridgeEvent := ⟨.closed, some .local⟩

/-- The calls that the loop of an emit makes over a list of listeners, when `all` are
subscribed: the first call of `close` tells everybody. -/
def told (event : BridgeEvent) (closes : Closes) (all : List Nat) :
    Bool → List Nat → List (Nat × BridgeEvent)
  | _, [] => []
  | stopped, l :: rest =>
      (l, event) ::
        if closes l && !stopped then all.map (·, closedEvent) ++ told event closes all true rest
        else told event closes all stopped rest

namespace Seen

def close (v : Seen) : Seen :=
  if v.stopped then v
  else { v with
    delivered := v.delivered ++ v.listeners.map (·, closedEvent)
    state := .closed
    stopped := true }

/-- The loop of an emit. -/
def deliver (event : BridgeEvent) (closes : Closes) (ls : List Nat) (v : Seen) : Seen :=
  { v with
    delivered := v.delivered ++ told event closes v.listeners v.stopped ls
    state := if ls.any closes && !v.stopped then .closed else v.state
    stopped := v.stopped || ls.any closes }

def emit (v : Seen) (event : BridgeEvent) (closes : Closes) : Seen :=
  { v with state := event.state }.deliver event closes v.listeners

end Seen

theorem Life.closeChannels_state (channels : List Nat) (l : Life) :
    (closeChannels channels l).state = l.state := by
  rw [(closeChannels_swept channels l).rest]

namespace Connection

theorem close_seen (c : Connection) : c.close.seen = c.seen.close := by
  cases stopped : c.stopped with
  | true =>
      have seen : c.seen.stopped = true := stopped
      rw [close, Seen.close, if_pos stopped, if_pos seen]
  | false =>
      have seen : ¬ c.seen.stopped = true := by
        show ¬ c.stopped = true
        rw [stopped]
        exact Bool.false_ne_true
      rw [close, Seen.close, if_neg (by rw [stopped]; exact Bool.false_ne_true), if_neg seen]
      simp only [Connection.seen, Life.closeChannels_state, Life.closeChannels_stopped]
      rfl

theorem deliver_seen (event : BridgeEvent) (closes : Closes) (ls : List Nat) (c : Connection) :
    (deliver event closes ls c).seen = c.seen.deliver event closes ls := by
  induction ls generalizing c with
  | nil => simp [deliver, Seen.deliver, told]
  | cons l rest ih =>
      rw [deliver, ih]
      cases first : closes l with
      | false => simp [Seen.deliver, told, first, Connection.seen]
      | true =>
          rw [if_pos rfl, close_seen]
          cases stopped : c.stopped with
          | true => simp [Seen.deliver, Seen.close, told, first, stopped, Connection.seen]
          | false => simp [Seen.deliver, Seen.close, told, first, stopped, Connection.seen]

theorem emit_seen (c : Connection) (event : BridgeEvent) (closes : Closes) :
    (c.emit event closes).seen = c.seen.emit event closes := by
  rw [emit, deliver_seen]
  rfl

theorem connect_seen (c : Connection) (closes : Closes) :
    (c.connect closes).seen = c.seen.emit ⟨.connecting, none⟩ closes := by
  rw [← emit_seen]
  unfold connect
  dsimp only
  split <;> rfl

theorem retry_seen (c : Connection) (reason : Reason) (closes : Closes) (random : ℚ) :
    (c.retry reason closes random).seen = c.seen.emit ⟨.transientFailure, some reason⟩ closes := by
  rw [← emit_seen]
  unfold retry
  dsimp only
  split <;> rfl

end Connection

/-! ## One step -/

namespace Connection

/-- The event that a step emits, other than "closed", and who closes from inside that emit. -/
def emission (c : Connection) : Event → Option (BridgeState × Closes)
  | .start closes => if c.started ∨ c.stopped then none else some (.connecting, closes)
  | .dialed _ _ closes => if c.stopped then none else some (.open, closes)
  | .dialFailed closes _ => if c.stopped then none else some (.transientFailure, closes)
  | .timer closes => some (.connecting, closes)
  | .lost s closes _ =>
      if c.stopped ∨ c.session ≠ some s then none else some (.transientFailure, closes)
  | .drained s closes =>
      if c.stopped ∨ c.session ≠ some s then none else some (.connecting, closes)
  | _ => none

/-- A step that calls `close` outside an emit. -/
def finalizes (c : Connection) : Event → Bool
  | .close => !c.stopped
  | .subscribe _ closes => closes && !c.stopped
  | _ => false

/-- The states that a step assigns, in order. -/
def assigned (c : Connection) (e : Event) : List BridgeState :=
  match c.emission e with
  | some (state, closes) => if c.listeners.any closes then [state, .closed] else [state]
  | none => if c.finalizes e then [.closed] else []

/-- What a step does to the part that listeners see. -/
inductive Speaks (c : Connection) : Event → Seen → Prop
  | emits {e : Event} {state : BridgeState} (reason : Option Reason) {closes : Closes} :
      c.emission e = some (state, closes) → state ≠ .closed → c.stopped = false →
      (∀ l closes, e ≠ .subscribe l closes) → Speaks c e (c.seen.emit ⟨state, reason⟩ closes)
  | close : Speaks c .close c.seen.close
  | subscribe (l : Nat) (closes : Bool) : Speaks c (.subscribe l closes)
      (let v := { c.seen with
        listeners := if l ∈ c.listeners then c.listeners else c.listeners ++ [l]
        delivered := c.delivered ++ [(l, ⟨c.state, none⟩)] }
      if closes then v.close else v)
  | unsubscribe (l : Nat) : Speaks c (.unsubscribe l)
      { c.seen with listeners := c.listeners.filter (· ≠ l) }
  | silent {e : Event} : c.emission e = none → c.finalizes e = false →
      (∀ l closes, e ≠ .subscribe l closes) → Speaks c e c.seen

variable {c c' : Connection}

theorem receive_seen (c : Connection) (returned : Option Nat) (throws : Bool) :
    (c.receive returned throws).2.seen = c.seen := by
  cases returned with
  | none => rfl
  | some s => rfl

theorem dialed_seen (c : Connection) (returned : Option Nat) (throws : Bool) (closes : Closes) :
    (c.dialed returned throws closes).seen =
      if c.stopped then c.seen else c.seen.emit ⟨.open, none⟩ closes := by
  have same : ({ c with dialing := c.dialing - 1 }.receive returned throws).2.seen = c.seen :=
    receive_seen _ returned throws
  unfold dialed
  dsimp only
  generalize ({ c with dialing := c.dialing - 1 } : Connection).receive returned throws = received
    at same
  have flag : received.2.stopped = c.stopped := congrArg Seen.stopped same
  rw [flag, ← same]
  split
  · rfl
  · have emitted := emit_seen (received.2.install received.1) ⟨.open, none⟩ closes
    exact emitted

/-- **What a step says to the listeners.** -/
theorem step_speaks {e : Event} (sound : c.Sound) (stepped : c.step e = some c') :
    c.Speaks e c'.seen := by
  cases step_cases stepped with
  | start closes unstarted =>
      split
      · rename_i stopped
        exact .silent (by simp [emission, stopped]) rfl (by rintro _ _ ⟨⟩)
      · rename_i running
        have running : c.stopped = false := Bool.eq_false_of_not_eq_true running
        rw [connect_seen]
        exact .emits none (by simp [emission, running, unstarted]) (by decide) running
          (by rintro _ _ ⟨⟩)
  | dialed throws closes dialing known =>
      rw [dialed_seen]
      split
      · rename_i stopped
        exact .silent (if_pos stopped) rfl (by rintro _ _ ⟨⟩)
      · rename_i running
        exact .emits none (if_neg running) (by decide) (Bool.eq_false_of_not_eq_true running)
          (by rintro _ _ ⟨⟩)
  | dialFailed closes random dialing =>
      simp only [dialFailed]
      split
      · rename_i stopped
        have stopped : c.stopped = true := stopped
        exact .silent (by simp [emission, stopped]) rfl (by rintro _ _ ⟨⟩)
      · rename_i running
        have running : c.stopped = false := Bool.eq_false_of_not_eq_true running
        rw [retry_seen]
        exact .emits _ (by simp [emission, running]) (by decide) running (by rintro _ _ ⟨⟩)
  | timer closes armed =>
      have running : c.stopped = false := by
        refine Bool.eq_false_of_not_eq_true fun stopped => ?_
        rw [(sound.stopped stopped).2.1] at armed
        cases armed
      rw [connect_seen]
      exact .emits none rfl (by decide) running (by rintro _ _ ⟨⟩)
  | lost closes random found closed =>
      simp only [lost]
      split
      · rename_i stale
        exact .silent (if_pos stale) rfl (by rintro _ _ ⟨⟩)
      · rename_i current
        have running : c.stopped = false :=
          Bool.eq_false_of_not_eq_true fun stopped => current (.inl stopped)
        rw [retry_seen]
        exact .emits _ (if_neg current) (by decide) running (by rintro _ _ ⟨⟩)
  | drained s closes =>
      simp only [drained]
      split
      · rename_i stale
        exact .silent (if_pos stale) rfl (by rintro _ _ ⟨⟩)
      · rename_i current
        have running : c.stopped = false :=
          Bool.eq_false_of_not_eq_true fun stopped => current (.inl stopped)
        rw [connect_seen]
        exact .emits _ (if_neg current) (by decide) running (by rintro _ _ ⟨⟩)
  | close =>
      rw [close_seen]
      exact .close
  | subscribe l closes =>
      have spoken := Speaks.subscribe (c := c) l closes
      cases closes with
      | false => exact spoken
      | true =>
          rw [subscribe, if_pos rfl, close_seen]
          exact spoken
  | unsubscribe l => exact .unsubscribe l
  | advance | channelCloses | channelDrains | removed | closeSettles | select | cancel | expire
  | resume =>
      exact .silent rfl rfl (by rintro _ _ ⟨⟩)

end Connection

/-! ## What each listener has heard -/

/-- The states in the calls of one listener. -/
def heardIn (l : Nat) (calls : List (Nat × BridgeEvent)) : List BridgeState :=
  (calls.filter (·.1 = l)).map (·.2.state)

@[simp] theorem heardIn_append (l : Nat) (calls more : List (Nat × BridgeEvent)) :
    heardIn l (calls ++ more) = heardIn l calls ++ heardIn l more := by
  rw [heardIn, List.filter_append, List.map_append]
  rfl

theorem heardIn_absent {l : Nat} {ls : List Nat} (event : BridgeEvent) (absent : l ∉ ls) :
    heardIn l (ls.map (·, event)) = [] := by
  rw [heardIn, List.map_eq_nil_iff, List.filter_eq_nil_iff]
  intro call member
  obtain ⟨other, inside, rfl⟩ := List.mem_map.1 member
  intro same
  exact absent (of_decide_eq_true same ▸ inside)

/-- A loop over the listeners calls each of them once. -/
theorem heardIn_map {l : Nat} {ls : List Nat} (event : BridgeEvent) (nodup : ls.Nodup)
    (member : l ∈ ls) : heardIn l (ls.map (·, event)) = [event.state] := by
  induction ls with
  | nil => cases member
  | cons first rest ih =>
      obtain ⟨fresh, nodup⟩ := List.nodup_cons.1 nodup
      have split : (first :: rest).map (·, event) = [(first, event)] ++ rest.map (·, event) := rfl
      rw [split, heardIn_append]
      by_cases own : first = l
      · subst own
        rw [heardIn_absent event fresh]
        simp [heardIn]
      · rw [ih nodup ((List.mem_cons.1 member).resolve_left (Ne.symm own))]
        simp [heardIn, own]

section Loop

variable (event : BridgeEvent) {closes : Closes} (all : List Nat)

theorem told_stopped (ls : List Nat) : told event closes all true ls = ls.map (·, event) := by
  induction ls with
  | nil => rfl
  | cons l rest ih => simp [told, ih]

theorem told_none {ls : List Nat} (nobody : ∀ l ∈ ls, closes l = false) :
    told event closes all false ls = ls.map (·, event) := by
  induction ls with
  | nil => rfl
  | cons l rest ih =>
      have first := nobody l List.mem_cons_self
      simp [told, first, ih fun l member => nobody l (List.mem_cons_of_mem _ member)]

/-- Everybody after the first who closes is told "closed" and then the event. -/
theorem told_first {before : List Nat} {l : Nat} (after : List Nat)
    (nobody : ∀ x ∈ before, closes x = false) (first : closes l = true) :
    told event closes all false (before ++ l :: after) =
      (before ++ [l]).map (·, event) ++ all.map (·, closedEvent) ++ after.map (·, event) := by
  induction before with
  | nil => simp [told, first, told_stopped]
  | cons x before ih =>
      have quiet := nobody x List.mem_cons_self
      have rest := ih fun y member => nobody y (List.mem_cons_of_mem _ member)
      simp only [List.cons_append, told, quiet, Bool.false_and, Bool.false_eq_true, if_false, rest,
        List.map_cons]

/-- Who is the first to close. -/
theorem first_closer (closes : Closes) (ls : List Nat) :
    (∀ l ∈ ls, closes l = false) ∨ ∃ before l after, ls = before ++ l :: after ∧
      (∀ x ∈ before, closes x = false) ∧ closes l = true := by
  cases find : ls.find? closes with
  | none =>
      refine .inl fun l member => ?_
      exact Bool.eq_false_of_not_eq_true (List.find?_eq_none.1 find l member)
  | some l =>
      obtain ⟨calls, before, after, split, nobody⟩ := List.find?_eq_some_iff_append.1 find
      refine .inr ⟨before, l, after, split, ?_, calls⟩
      intro x inside
      simpa using nobody x inside

/-- When only the last may close, everybody hears the event and then "closed". -/
theorem heardIn_told {l : Nat} {ls : List Nat} (nodup : ls.Nodup) (member : l ∈ ls)
    (orderly : ∀ x ∈ ls.dropLast, closes x = false) :
    heardIn l (told event closes ls false ls) =
      if ls.any closes then [event.state, .closed] else [event.state] := by
  obtain nobody | ⟨before, first, after, split, nobody, calls⟩ := first_closer closes ls
  · have any : ls.any closes = false := by
      rw [List.any_eq_false]
      intro x inside
      rw [nobody x inside]
      exact Bool.false_ne_true
    rw [told_none event ls nobody, heardIn_map event nodup member, any]
    rfl
  · have any : ls.any closes = true := by
      rw [List.any_eq_true]
      exact ⟨first, by rw [split]; simp, calls⟩
    have last : after = [] := by
      cases after with
      | nil => rfl
      | cons x after =>
          have early : first ∈ ls.dropLast := by
            rw [split, List.dropLast_append_of_ne_nil (List.cons_ne_nil _ _)]
            simp
          rw [orderly first early] at calls
          cases calls
    have whole : before ++ [first] = ls := by rw [split, last]
    have loop := told_first event ls after nobody calls
    rw [← split, last, List.map_nil, List.append_nil, whole] at loop
    rw [loop, heardIn_append, heardIn_map event nodup member, heardIn_map _ nodup member, any]
    rfl

/-- Somebody after one who closes hears "closed" and then the event. -/
theorem heardIn_disorderly {ls : List Nat} (nodup : ls.Nodup)
    (disorderly : ¬ ∀ x ∈ ls.dropLast, closes x = false) :
    ∃ l ∈ ls, heardIn l (told event closes ls false ls) = [.closed, event.state] := by
  obtain nobody | ⟨before, first, after, split, nobody, calls⟩ := first_closer closes ls
  · exact absurd (fun x inside => nobody x (List.dropLast_subset ls inside)) disorderly
  · cases after with
    | nil =>
        refine absurd (fun x inside => ?_) disorderly
        rw [split, List.dropLast_concat] at inside
        exact nobody x inside
    | cons late after =>
        have member : late ∈ ls := by
          rw [split]
          simp
        have loop := told_first event ls (late :: after) nobody calls
        have apart := nodup
        rw [split, List.append_cons] at apart
        obtain ⟨-, nodupAfter, apart⟩ := List.nodup_append.1 apart
        have earlier : late ∉ before ++ [first] := by
          intro inside
          exact apart late inside late List.mem_cons_self rfl
        rw [← split] at loop
        refine ⟨late, member, ?_⟩
        rw [loop, heardIn_append, heardIn_append, heardIn_absent event earlier,
          heardIn_map closedEvent nodup member, heardIn_map event nodupAfter List.mem_cons_self]
        rfl

end Loop

structure Audience where
  connection : Connection
  /-- The states that were assigned, with the initial one. -/
  log : List BridgeState := [.connecting]
  /-- Where in the log a listener's subscription begins. -/
  since : Nat → Nat := fun _ => 1
  /-- What a listener has heard since it subscribed. -/
  heard : Nat → List BridgeState := fun _ => []

namespace Audience

/-- The calls that a step makes. -/
def calls (w : Audience) (c : Connection) : List (Nat × BridgeEvent) :=
  c.delivered.drop w.connection.delivered.length

def note (w : Audience) (e : Event) (c : Connection) : Audience :=
  match e with
  | .subscribe l _ =>
      { connection := c
        log := w.log ++ w.connection.assigned e
        since := Function.update w.since l (w.log.length - 1)
        heard := fun x => Function.update w.heard l [] x ++ heardIn x (w.calls c) }
  | _ =>
      { connection := c
        log := w.log ++ w.connection.assigned e
        since := w.since
        heard := fun x => w.heard x ++ heardIn x (w.calls c) }

def step (w : Audience) (e : Event) : Option Audience :=
  (w.connection.step e).map (w.note e)

/-- Every interleaving, with what the listeners hear. -/
def machine (listener : Option Nat) : Machine Audience Event where
  init := { connection := (recoveryMachine listener).init }
  step := step

/-- Listeners see transitions in order: each hears the assignments since its subscription,
nothing after "closed", and last the state that the connection is in. -/
structure InOrder (w : Audience) : Prop where
  hears : ∀ l ∈ w.connection.listeners, w.heard l = w.log.drop (w.since l)
  final : ∀ l ∈ w.connection.listeners, .closed ∉ (w.heard l).dropLast
  current : ∀ l ∈ w.connection.listeners, ∀ state, (w.heard l).getLast? = some state →
    state = w.connection.state

/-- Nobody but the last of the listeners calls `close` from inside the emit of a step. -/
def Orderly (w : Audience) (e : Event) : Prop :=
  ∀ state closes, w.connection.emission e = some (state, closes) →
    ∀ l ∈ w.connection.listeners.dropLast, closes l = false

theorem orderly_iff {w : Audience} {e : Event} :
    w.Orderly e ↔ ∀ emission ∈ w.connection.emission e,
      ∀ l ∈ w.connection.listeners.dropLast, emission.2 l = false :=
  ⟨fun orderly emission found => orderly emission.1 emission.2 found,
    fun every state closes found => every (state, closes) found⟩

instance (w : Audience) (e : Event) : Decidable (w.Orderly e) :=
  decidable_of_iff' _ orderly_iff

/-- What orderly steps keep. -/
structure Tuned (w : Audience) : Prop where
  sound : w.connection.Sound
  nodup : w.connection.listeners.Nodup
  log : ∃ before, w.log = before ++ [w.connection.state] ∧ .closed ∉ before
  closed : w.connection.state = .closed → w.connection.stopped = true
  since : ∀ l, w.since l ≤ w.log.length
  hears : ∀ l ∈ w.connection.listeners, w.heard l = w.log.drop (w.since l)

variable {w w' : Audience} {e : Event} {c : Connection}

theorem Tuned.inOrder (tuned : w.Tuned) : w.InOrder := by
  obtain ⟨before, log, open_⟩ := tuned.log
  refine ⟨tuned.hears, ?_, ?_⟩
  · intro l member
    rw [tuned.hears l member]
    intro inside
    have suffix := List.take_append_drop (w.since l) w.log
    have some_ : w.log.drop (w.since l) ≠ [] := by
      intro none
      rw [none] at inside
      cases inside
    have last : w.log.dropLast = w.log.take (w.since l) ++ (w.log.drop (w.since l)).dropLast := by
      rw [← List.dropLast_append_of_ne_nil some_, suffix]
    rw [log, List.dropLast_concat] at last
    apply open_
    rw [last, ← log]
    exact List.mem_append_right _ inside
  · intro l member state final
    rw [tuned.hears l member, List.getLast?_drop] at final
    split at final
    · cases final
    · rw [log, List.getLast?_concat] at final
      exact (Option.some.inj final).symm

theorem note_other (other : ∀ l closes, e ≠ .subscribe l closes) :
    w.note e c =
      { connection := c
        log := w.log ++ w.connection.assigned e
        since := w.since
        heard := fun x => w.heard x ++ heardIn x (w.calls c) } := by
  cases e with
  | subscribe l closes => exact absurd rfl (other l closes)
  | _ => rfl

theorem calls_eq {more : List (Nat × BridgeEvent)}
    (delivered : c.delivered = w.connection.delivered ++ more) : w.calls c = more := by
  rw [calls, delivered, List.drop_left]

/-- Before it is closed, a connection has not logged "closed". -/
theorem Tuned.unclosed (tuned : w.Tuned) (running : w.connection.stopped = false) :
    .closed ∉ w.log := by
  obtain ⟨before, log, open_⟩ := tuned.log
  rw [log]
  intro inside
  obtain earlier | last := List.mem_append.1 inside
  · exact open_ earlier
  · have state := (List.mem_singleton.1 last).symm
    rw [tuned.closed state] at running
    cases running

/-- What every step needs but a subscription: each listener is called with the states that
are assigned. -/
theorem Tuned.other (tuned : w.Tuned) (sound : c.Sound)
    (other : ∀ l closes, e ≠ .subscribe l closes) {more : List (Nat × BridgeEvent)}
    (delivered : c.delivered = w.connection.delivered ++ more)
    (listeners : ∀ l ∈ c.listeners, l ∈ w.connection.listeners)
    (nodup : c.listeners.Nodup)
    (told : ∀ l ∈ c.listeners, heardIn l more = w.connection.assigned e)
    (log : ∃ before, w.log ++ w.connection.assigned e = before ++ [c.state] ∧ .closed ∉ before)
    (closed : c.state = .closed → c.stopped = true) : (w.note e c).Tuned := by
  rw [note_other other]
  refine ⟨sound, nodup, log, closed, ?_, ?_⟩
  · intro l
    exact (tuned.since l).trans (by simp)
  · intro l member
    dsimp only
    rw [calls_eq delivered, told l member, tuned.hears l (listeners l member),
      List.drop_append_of_le_length (tuned.since l)]

theorem Tuned.emits {state : BridgeState} {closes : Closes} {reason : Option Reason}
    (tuned : w.Tuned) (sound : c.Sound) (emission : w.connection.emission e = some (state, closes))
    (unclosed : state ≠ .closed) (running : w.connection.stopped = false)
    (other : ∀ l closes, e ≠ .subscribe l closes)
    (seen : c.seen = w.connection.seen.emit ⟨state, reason⟩ closes)
    (orderly : ∀ l ∈ w.connection.listeners.dropLast, closes l = false) : (w.note e c).Tuned := by
  have delivered : c.delivered = w.connection.delivered ++ told ⟨state, reason⟩ closes
      w.connection.listeners w.connection.stopped w.connection.listeners :=
    congrArg Seen.delivered seen
  have listeners : c.listeners = w.connection.listeners := congrArg Seen.listeners seen
  have state' : c.state = if w.connection.listeners.any closes && !w.connection.stopped then .closed
      else state := congrArg Seen.state seen
  have stopped' : c.stopped = (w.connection.stopped || w.connection.listeners.any closes) :=
    congrArg Seen.stopped seen
  rw [running] at delivered state' stopped'
  have open_ := tuned.unclosed running
  refine tuned.other sound other delivered (fun l member => listeners ▸ member)
    (listeners ▸ tuned.nodup) ?_ ?_ ?_
  · intro l member
    rw [listeners] at member
    rw [heardIn_told _ tuned.nodup member orderly, Connection.assigned, emission]
  · rw [Connection.assigned, emission]
    dsimp only
    rw [state']
    cases w.connection.listeners.any closes with
    | false => exact ⟨w.log, rfl, open_⟩
    | true =>
        refine ⟨w.log ++ [state], by simp, ?_⟩
        intro inside
        obtain earlier | last := List.mem_append.1 inside
        · exact open_ earlier
        · exact unclosed (List.mem_singleton.1 last).symm
  · intro closed
    rw [state'] at closed
    rw [stopped']
    cases any : w.connection.listeners.any closes with
    | false =>
        rw [any] at closed
        exact absurd closed unclosed
    | true => rfl

theorem Tuned.silent (tuned : w.Tuned) (sound : c.Sound)
    (unassigned : w.connection.assigned e = []) (other : ∀ l closes, e ≠ .subscribe l closes)
    (delivered : c.delivered = w.connection.delivered)
    (listeners : ∀ l ∈ c.listeners, l ∈ w.connection.listeners) (nodup : c.listeners.Nodup)
    (state : c.state = w.connection.state) (stopped : c.stopped = w.connection.stopped) :
    (w.note e c).Tuned := by
  have unsaid : c.delivered = w.connection.delivered ++ [] := by rw [delivered, List.append_nil]
  refine tuned.other sound other unsaid listeners nodup ?_ ?_ ?_
  · intro l member
    rw [unassigned]
    rfl
  · rw [unassigned, List.append_nil, state]
    exact tuned.log
  · rw [state, stopped]
    exact tuned.closed

theorem Tuned.close (tuned : w.Tuned) (sound : c.Sound)
    (seen : c.seen = w.connection.seen.close) : (w.note .close c).Tuned := by
  have other : ∀ l closes, Event.close ≠ .subscribe l closes := by
    rintro _ _ ⟨⟩
  cases running : w.connection.stopped with
  | true =>
      have flag : w.connection.seen.stopped = true := running
      rw [Seen.close, if_pos flag] at seen
      have listeners : c.listeners = w.connection.listeners := congrArg Seen.listeners seen
      exact tuned.silent sound (by simp [Connection.assigned, Connection.emission,
          Connection.finalizes, running]) other (congrArg Seen.delivered seen)
        (fun l member => listeners ▸ member) (listeners ▸ tuned.nodup)
        (congrArg Seen.state seen) (congrArg Seen.stopped seen)
  | false =>
      have flag : ¬ w.connection.seen.stopped = true := by
        show ¬ w.connection.stopped = true
        rw [running]
        exact Bool.false_ne_true
      rw [Seen.close, if_neg flag] at seen
      have listeners : c.listeners = w.connection.listeners := congrArg Seen.listeners seen
      have state : c.state = .closed := congrArg Seen.state seen
      have assigned : w.connection.assigned .close = [.closed] := by
        simp [Connection.assigned, Connection.emission, Connection.finalizes, running]
      refine tuned.other sound other (congrArg Seen.delivered seen)
        (fun l member => listeners ▸ member) (listeners ▸ tuned.nodup) ?_ ?_ ?_
      · intro l member
        rw [listeners] at member
        rw [assigned]
        exact heardIn_map closedEvent tuned.nodup member
      · rw [assigned, state]
        exact ⟨w.log, rfl, tuned.unclosed running⟩
      · intro _
        exact congrArg Seen.stopped seen

/-- The listeners after a subscription. -/
def joined (l : Nat) (ls : List Nat) : List Nat := if l ∈ ls then ls else ls ++ [l]

theorem joined_nodup {l : Nat} {ls : List Nat} (nodup : ls.Nodup) : (joined l ls).Nodup := by
  unfold joined
  split
  · exact nodup
  · rename_i absent
    rw [List.nodup_append]
    refine ⟨nodup, by simp, ?_⟩
    rintro x inside y last rfl
    exact absent (List.mem_singleton.1 last ▸ inside)

theorem mem_joined {l x : Nat} {ls : List Nat} (member : x ∈ joined l ls) : x = l ∨ x ∈ ls := by
  unfold joined at member
  split at member
  · exact .inr member
  · obtain inside | last := List.mem_append.1 member
    · exact .inr inside
    · exact .inl (List.mem_singleton.1 last)

/-- A subscription, and the call of `close` that the new listener may make. -/
theorem Tuned.subscribe {l : Nat} {closes : Bool} (tuned : w.Tuned) (sound : c.Sound)
    (spoken : w.connection.Speaks (.subscribe l closes) c.seen) :
    (w.note (.subscribe l closes) c).Tuned := by
  -- the call with the present state, and then "closed" for everybody if it closes
  have said : c.listeners = joined l w.connection.listeners ∧
      c.delivered = w.connection.delivered ++ ([(l, ⟨w.connection.state, none⟩)] ++
        if closes && !w.connection.stopped then c.listeners.map (·, closedEvent) else []) ∧
      c.state = (if closes && !w.connection.stopped then .closed else w.connection.state) ∧
      c.stopped = (w.connection.stopped || closes) := by
    generalize seen : c.seen = v at spoken
    cases spoken with
    | emits reason emission _ _ other => exact absurd rfl (other l closes)
    | silent _ _ other => exact absurd rfl (other l closes)
    | subscribe =>
        have listeners := congrArg Seen.listeners seen
        have delivered := congrArg Seen.delivered seen
        have state := congrArg Seen.state seen
        have stopped := congrArg Seen.stopped seen
        simp only [Connection.seen] at listeners delivered state stopped
        cases closes with
        | false => simp_all [joined]
        | true => cases running : w.connection.stopped <;> simp_all [joined, Seen.close]
  obtain ⟨listeners, delivered, state, stopped⟩ := said
  have assigned : w.connection.assigned (.subscribe l closes) =
      if closes && !w.connection.stopped then [.closed] else [] := rfl
  have nodup : c.listeners.Nodup := listeners ▸ joined_nodup tuned.nodup
  obtain ⟨before, log, open_⟩ := tuned.log
  -- what the call of `close` adds is heard by everybody
  have heard : ∀ x ∈ c.listeners, heardIn x
      (if closes && !w.connection.stopped then c.listeners.map (·, closedEvent) else []) =
        w.connection.assigned (.subscribe l closes) := by
    intro x member
    rw [assigned]
    split
    · exact heardIn_map closedEvent nodup member
    · rfl
  refine ⟨sound, nodup, ?_, ?_, ?_, ?_⟩
  · show ∃ before, w.log ++ w.connection.assigned (.subscribe l closes) = before ++ [c.state] ∧ _
    rw [assigned, state]
    split
    · rename_i closing
      have running : w.connection.stopped = false := by
        simp only [Bool.and_eq_true, Bool.not_eq_true'] at closing
        exact closing.2
      exact ⟨w.log, rfl, tuned.unclosed running⟩
    · rw [List.append_nil]
      exact tuned.log
  · show c.state = .closed → c.stopped = true
    rw [state, stopped]
    cases running : w.connection.stopped with
    | true => exact fun _ => rfl
    | false =>
        cases closes with
        | true => exact fun _ => rfl
        | false =>
            intro closed
            have flag := tuned.closed closed
            rw [running] at flag
            cases flag
  · intro x
    show Function.update w.since l (w.log.length - 1) x ≤
      (w.log ++ w.connection.assigned (.subscribe l closes)).length
    rw [List.length_append]
    by_cases own : x = l
    · subst own
      rw [Function.update_self]
      omega
    · rw [Function.update_of_ne own]
      exact (tuned.since x).trans (Nat.le_add_right _ _)
  · intro x member
    have member : x ∈ c.listeners := member
    show Function.update w.heard l [] x ++ heardIn x (w.calls c) =
      (w.log ++ w.connection.assigned (.subscribe l closes)).drop
        (Function.update w.since l (w.log.length - 1) x)
    rw [calls_eq delivered, heardIn_append, heard x member]
    by_cases own : x = l
    · subst own
      rw [Function.update_self, Function.update_self, List.drop_append_of_le_length (Nat.sub_le _ _),
        log]
      simp [heardIn]
    · have inside : x ∈ w.connection.listeners :=
        (mem_joined (listeners ▸ member)).resolve_left own
      have unheard : heardIn x ([l].map (·, ⟨w.connection.state, none⟩)) = [] :=
        heardIn_absent _ (by simpa using own)
      rw [List.map_singleton] at unheard
      rw [Function.update_of_ne own, Function.update_of_ne own, unheard,
        tuned.hears x inside, List.drop_append_of_le_length (tuned.since x)]
      rfl

/-- **One orderly step.** -/
theorem tuned_step (tuned : w.Tuned) (orderly : w.Orderly e) (stepped : w.step e = some w') :
    w'.Tuned := by
  obtain ⟨c, moved, rfl⟩ := Option.map_eq_some_iff.1 stepped
  have sound := Connection.step_sound tuned.sound moved
  have spoken := Connection.step_speaks tuned.sound moved
  generalize seen : c.seen = v at spoken
  cases spoken with
  | emits reason emission unclosed running other =>
      exact tuned.emits sound emission unclosed running other seen (orderly _ _ emission)
  | close => exact tuned.close sound seen
  | subscribe l closes =>
      refine tuned.subscribe sound ?_
      rw [seen]
      exact .subscribe l closes
  | unsubscribe l =>
      have listeners : c.listeners = w.connection.listeners.filter (· ≠ l) :=
        congrArg Seen.listeners seen
      refine tuned.silent sound rfl (by rintro _ _ ⟨⟩) (congrArg Seen.delivered seen) ?_ ?_
        (congrArg Seen.state seen) (congrArg Seen.stopped seen)
      · intro x member
        rw [listeners] at member
        exact (List.mem_filter.1 member).1
      · rw [listeners]
        exact tuned.nodup.filter _
  | silent unsaid unfinished other =>
      have listeners : c.listeners = w.connection.listeners := congrArg Seen.listeners seen
      have unassigned : w.connection.assigned e = [] := by
        rw [Connection.assigned, unsaid]
        simp only [unfinished, Bool.false_eq_true, if_false]
      exact tuned.silent sound unassigned other (congrArg Seen.delivered seen)
        (fun l member => listeners ▸ member) (listeners ▸ tuned.nodup)
        (congrArg Seen.state seen) (congrArg Seen.stopped seen)

theorem tuned_init (listener : Option Nat) : (machine listener).init.Tuned := by
  refine ⟨sound_init listener, ?_, ⟨[], rfl, by simp⟩, ?_, fun _ => le_refl 1, fun _ _ => rfl⟩
  · cases listener with
    | none => exact List.nodup_nil
    | some l => exact List.nodup_cons.2 ⟨List.not_mem_nil, List.nodup_nil⟩
  · intro closed
    cases closed

/-- A step that is not orderly puts the event after "closed" for somebody. -/
theorem Tuned.disorderly (tuned : w.Tuned) (disorderly : ¬ w.Orderly e)
    (stepped : w.step e = some w') : ¬ w'.InOrder := by
  obtain ⟨c, moved, rfl⟩ := Option.map_eq_some_iff.1 stepped
  have spoken := Connection.step_speaks tuned.sound moved
  obtain ⟨state, closes, emission, early⟩ : ∃ state closes,
      w.connection.emission e = some (state, closes) ∧
        ¬ ∀ l ∈ w.connection.listeners.dropLast, closes l = false := by
    by_contra none
    refine disorderly fun state closes emission => ?_
    by_contra early
    exact none ⟨state, closes, emission, early⟩
  generalize seen : c.seen = v at spoken
  cases spoken with
  | emits reason emission' unclosed running other =>
      obtain ⟨rfl, rfl⟩ : _ ∧ _ := Prod.mk.inj (Option.some.inj (emission.symm.trans emission'))
      have delivered := congrArg Seen.delivered seen
      have listeners : c.listeners = w.connection.listeners := congrArg Seen.listeners seen
      simp only [Connection.seen, Seen.emit, Seen.deliver, running] at delivered
      obtain ⟨late, member, heard⟩ := heardIn_disorderly ⟨state, reason⟩ tuned.nodup early
      rw [note_other other]
      rintro ⟨-, final, -⟩
      refine final late (listeners ▸ member) ?_
      dsimp only
      rw [calls_eq delivered, heard, List.dropLast_append_of_ne_nil (List.cons_ne_nil _ _)]
      exact List.mem_append_right _ List.mem_cons_self
  | close => cases emission
  | subscribe l closes => cases emission
  | unsubscribe l => cases emission
  | silent unsaid =>
      rw [unsaid] at emission
      cases emission

/-- **Listeners see transitions in order as long as only the last of them closes.**  In every
run of which every step is orderly, every listener hears the assignments since its
subscription, nothing after "closed", and last the current state.  The next step keeps
this exactly when it is orderly. -/
theorem inOrder_of_reaches {listener : Option Nat}
    (reached : (machine listener).Reaches Orderly w) :
    w.InOrder ∧ ∀ e w', w.step e = some w' → (w'.InOrder ↔ w.Orderly e) := by
  have tuned : w.Tuned := reached.invariant Tuned
    (fun _ _ _ tuned orderly stepped => tuned_step tuned orderly stepped) (tuned_init listener)
  refine ⟨tuned.inOrder, fun e w' stepped => ⟨?_, ?_⟩⟩
  · intro inOrder
    by_contra disorderly
    exact tuned.disorderly disorderly stepped inOrder
  · intro orderly
    exact (tuned_step tuned orderly stepped).inOrder

/-- Two listeners, and the microtask of the constructor. -/
def twoListeners (closes : Closes) : List Event :=
  [.subscribe 0 false, .subscribe 1 false, .start closes]

/-- What the two listeners hear, who is subscribed, and the state. -/
def report (w : Audience) : List Nat × List BridgeState × List BridgeState × BridgeState :=
  (w.connection.listeners, w.heard 0, w.heard 1, w.connection.state)

theorem firstCloses_report :
    ((machine none).run Machine.always (machine none).init (twoListeners (· == 0))).map report =
      some ([0, 1], [.connecting, .connecting, .closed], [.connecting, .closed, .connecting],
        .closed) := by
  decide +kernel

theorem lastCloses_report :
    ((machine none).run Orderly (machine none).init (twoListeners (· == 1))).map report =
      some ([0, 1], [.connecting, .connecting, .closed], [.connecting, .connecting, .closed],
        .closed) := by
  decide +kernel

/-- **A listener hears "connecting" after "closed".** -/
theorem firstCloses_disorder : ∃ w, (machine none).Reaches Machine.always w ∧
    1 ∈ w.connection.listeners ∧ w.heard 1 = [.connecting, .closed, .connecting] ∧
    w.connection.state = .closed ∧ ¬ w.InOrder := by
  obtain ⟨w, ran, seen⟩ := Option.map_eq_some_iff.1 firstCloses_report
  simp only [report, Prod.mk.injEq] at seen
  obtain ⟨listeners, -, heard, state⟩ := seen
  have member : 1 ∈ w.connection.listeners := by
    rw [listeners]
    decide
  refine ⟨w, Machine.steps_of_run _ ran, member, heard, state, ?_⟩
  rintro ⟨-, -, current⟩
  have last := current 1 member .connecting (by rw [heard]; rfl)
  rw [state] at last
  cases last

theorem inOrder_lastCloses : ∃ w, (machine none).Reaches Orderly w ∧
    w.heard 0 = [.connecting, .connecting, .closed] ∧ w.connection.state = .closed ∧ w.InOrder := by
  obtain ⟨w, ran, seen⟩ := Option.map_eq_some_iff.1 lastCloses_report
  simp only [report, Prod.mk.injEq] at seen
  obtain ⟨-, heard, -, state⟩ := seen
  have reached := Machine.steps_of_run _ ran
  exact ⟨w, reached, heard, state, (inOrder_of_reaches reached).1⟩

end Audience

end GrpcBridge.Recovery
