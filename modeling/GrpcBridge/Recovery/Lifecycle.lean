/-
# Recovery.Lifecycle -- one dial, one timer or one session

What the connection does next depends on its `Life` alone, and `emit` changes that in
one way only: it sets the state and, when some listener calls `close`, closes
(`emit_life`).  So every method is a function of the `Life`, with the outcome of its
emit as one Boolean, and `Sound` is kept method by method.

`Sound` counts: dials in progress, an armed timer and a current session add up to one
while the connection runs (`busy`).  `connect` and `retry` are entered with a count of
zero and leave it at one, unless a listener has closed the connection in between.
-/
import GrpcBridge.Recovery.Connection

namespace GrpcBridge.Recovery

set_option autoImplicit false

open GrpcBridge.Theory

/-! ## What a listener can do to the life of a connection -/

namespace Life

/-- All of `close` up to its await. -/
def close (l : Life) : Life :=
  if l.stopped then l else closeChannels l.channels { l.stop with state := .closed }

/-- `emit`, when `closed` says whether some listener calls `close`. -/
def emit (l : Life) (state : BridgeState) (closed : Bool) : Life :=
  if closed then { l with state }.close else { l with state }

theorem closeChannels_stopped (channels : List Nat) (l : Life) :
    (closeChannels channels l).stopped = l.stopped := by
  induction channels generalizing l with
  | nil => rfl
  | cons s rest ih =>
      unfold closeChannels
      split
      · rfl
      · exact ih _

theorem close_stopped (l : Life) : l.close.stopped = true := by
  unfold close
  split
  · assumption
  · rw [closeChannels_stopped]
    rfl

@[simp] theorem close_close (l : Life) : l.close.close = l.close := by
  rw [close, if_pos l.close_stopped]

end Life

namespace Connection

theorem close_life (c : Connection) : c.close.toLife = c.toLife.close := by
  unfold close Life.close
  split
  · rfl
  · rfl

theorem deliver_life (event : BridgeEvent) (closes : Closes) (ls : List Nat) (c : Connection) :
    (deliver event closes ls c).toLife = if ls.any closes then c.toLife.close else c.toLife := by
  induction ls generalizing c with
  | nil => rfl
  | cons l rest ih =>
      rw [deliver, ih]
      by_cases first : closes l = true
      · simp [first, close_life]
      · simp [first]

/-- **An emit sets the state, and closes when a listener does.** -/
theorem emit_life (c : Connection) (event : BridgeEvent) (closes : Closes) :
    (c.emit event closes).toLife = c.toLife.emit event.state (c.listeners.any closes) := by
  rw [emit, deliver_life]
  rfl

end Connection

/-! ## What is kept -/

/-- A session keeps what has happened to its channel. -/
def Session.Onward (before after : Session) : Prop :=
  (before.closed.isSome = true → after.closed.isSome = true) ∧
    (before.closeCalled = true → after.closeCalled = true)

/-- Every session of `after` was there before. -/
def Grows (before after : List Session) : Prop :=
  ∀ (s : Nat) (session' : Session), after[s]? = some session' →
    ∃ session : Session, before[s]? = some session ∧ session.Onward session'

theorem grows_refl (sessions : List Session) : Grows sessions sessions :=
  fun _ session found => ⟨session, found, id, id⟩

theorem Grows.trans {first second third : List Session} (one : Grows first second)
    (two : Grows second third) : Grows first third := by
  intro s session found
  obtain ⟨middle, there, onward⟩ := two s session found
  obtain ⟨session₀, before, earlier⟩ := one s middle there
  exact ⟨session₀, before, fun h => onward.1 (earlier.1 h), fun h => onward.2 (earlier.2 h)⟩

theorem grows_modify (sessions : List Session) (s : Nat) {f : Session → Session}
    (onward : ∀ session : Session, session.Onward (f session)) : Grows sessions (sessions.modify s f) := by
  intro k session' found
  rw [List.getElem?_modify] at found
  obtain ⟨session, there, rfl⟩ := Option.map_eq_some_iff.1 found
  refine ⟨session, there, ?_⟩
  split
  · exact onward session
  · exact ⟨id, id⟩

namespace Life

/-- `channel.close()` has been called on session `s`. -/
def Marked (sessions : List Session) (s : Nat) : Prop :=
  ∀ session, sessions[s]? = some session → session.closeCalled = true

theorem Marked.grows {before after : List Session} {s : Nat} (marked : Marked before s)
    (grows : Grows before after) : Marked after s := by
  intro session found
  obtain ⟨session₀, there, onward⟩ := grows s session found
  exact onward.2 (marked session₀ there)

theorem markClosed_grows (l : Life) (s : Nat) : Grows l.sessions (l.markClosed s).sessions :=
  grows_modify _ _ fun _ => ⟨id, fun _ => rfl⟩

theorem markClosed_marked (l : Life) (s : Nat) : Marked (l.markClosed s).sessions s := by
  intro session found
  simp only [markClosed, List.getElem?_modify_eq] at found
  obtain ⟨session₀, -, rfl⟩ := Option.map_eq_some_iff.1 found
  rfl

/-- What the calls of `channel.close()` leave. -/
structure Swept (channels : List Nat) (l l' : Life) : Prop where
  rest : l' = { l with sessions := l'.sessions, closing := l'.closing, finished := l'.finished }
  grows : Grows l.sessions l'.sessions
  first : ∀ s, channels.head? = some s → Marked l'.sessions s
  all : l'.closing = true → l.closing = true ∨ ∀ s ∈ channels, Marked l'.sessions s

theorem closeChannels_swept (channels : List Nat) (l : Life) :
    Swept channels l (closeChannels channels l) := by
  induction channels generalizing l with
  | nil => exact ⟨rfl, grows_refl _, by simp, by simp⟩
  | cons s rest ih =>
      have marked := l.markClosed_marked s
      have grows := l.markClosed_grows s
      unfold closeChannels
      split
      · refine ⟨rfl, grows, ?_, fun closing => .inl closing⟩
        rintro k head
        cases head
        exact marked
      · obtain ⟨kept, later, -, all⟩ := ih (l.markClosed s)
        refine ⟨kept, grows.trans later, ?_, ?_⟩
        · rintro k head
          cases head
          exact marked.grows later
        · intro closing
          rcases all closing with before | others
          · exact .inl before
          · right
            intro k inside
            rcases List.mem_cons.1 inside with rfl | inside
            · exact marked.grows later
            · exact others k inside

/-- Where a session that `dial` returned has gone. -/
def Owned (l : Life) (s : Nat) (session : Session) : Prop :=
  l.session = some s ∨ s ∈ l.draining ∨ session.closed.isSome = true ∨ session.closeCalled = true

/-- Dials in progress, armed timers and current sessions. -/
def busy (l : Life) : Nat := l.dialing + l.timer.toList.length + l.session.toList.length

structure Kept (l : Life) : Prop where
  stopped : l.stopped = true → l.state = .closed ∧ l.timer = none ∧ l.session = none
  owned : ∀ s session, l.sessions[s]? = some session → l.Owned s session
  closing : l.closing = true → l.stopped = true ∧ ∀ s ∈ l.draining, Marked l.sessions s

structure Sound (l : Life) : Prop extends Kept l where
  running : l.started = true → l.stopped = false → l.busy = 1
  unstarted : l.started = false → l.busy = 0

theorem Kept.unclosed {l : Life} (kept : Kept l) (running : l.stopped = false) :
    l.closing = false := by
  by_contra closing
  have stopped := (kept.closing (by simpa using closing)).1
  rw [running] at stopped
  cases stopped

/-- Nothing that a running connection does to its other fields matters to `Kept`. -/
theorem Kept.of_running {l l' : Life} (kept : Kept l) (running : l.stopped = false)
    (grows : Grows l.sessions l'.sessions) (stopped : l'.stopped = false)
    (closing : l'.closing = l.closing)
    (owned : ∀ s session, l.sessions[s]? = some session → l.Owned s session →
      l'.session = some s ∨ s ∈ l'.draining ∨ session.closed.isSome = true ∨
        session.closeCalled = true) : Kept l' := by
  refine ⟨fun down => ?_, ?_, fun going => ?_⟩
  · rw [stopped] at down
    cases down
  · intro s session found
    obtain ⟨before, there, onward⟩ := grows s session found
    rcases owned s before there (kept.owned s before there) with here | here | here | here
    · exact .inl here
    · exact .inr (.inl here)
    · exact .inr (.inr (.inl (onward.1 here)))
    · exact .inr (.inr (.inr (onward.2 here)))
  · rw [closing, kept.unclosed running] at going
    cases going

theorem Kept.close {l : Life} (kept : Kept l) : Kept l.close := by
  unfold Life.close
  split
  · exact kept
  · rename_i running
    have swept := closeChannels_swept l.channels { l.stop with state := .closed }
    generalize closeChannels l.channels { l.stop with state := .closed } = l' at swept
    obtain ⟨rest, grows, first, all⟩ := swept
    have open_ : l.closing = false := kept.unclosed (by simpa using running)
    refine ⟨fun _ => ?_, ?_, fun closing => ?_⟩
    · rw [rest]
      exact ⟨rfl, rfl, rfl⟩
    · intro s session found
      obtain ⟨before, there, onward⟩ := grows s session found
      rcases kept.owned s before there with here | here | here | here
      · have head : l.channels.head? = some s := by simp [channels, here]
        exact .inr (.inr (.inr (first s head session found)))
      · right
        left
        rw [rest]
        exact here
      · exact .inr (.inr (.inl (onward.1 here)))
      · exact .inr (.inr (.inr (onward.2 here)))
    · rw [rest]
      refine ⟨rfl, fun s inside => ?_⟩
      rcases all closing with before | every
      · exact absurd before (by simp [stop, open_])
      · exact every s (List.mem_append_right _ inside)

theorem close_fields (l : Life) :
    l.close.started = l.started ∧ l.close.dialing = l.dialing ∧ l.close.dials = l.dials := by
  unfold close
  split
  · exact ⟨rfl, rfl, rfl⟩
  · rw [(closeChannels_swept l.channels { l.stop with state := .closed }).rest]
    exact ⟨rfl, rfl, rfl⟩

/-- A connection that `close` has stopped is sound whatever it was doing. -/
theorem Kept.sound_close {l : Life} (kept : Kept l) (unstarted : l.started = false → l.busy = 0) :
    Sound l.close := by
  have closed := kept.close
  obtain ⟨started, dialing, -⟩ := l.close_fields
  refine ⟨closed, fun _ running => ?_, fun before => ?_⟩
  · rw [l.close_stopped] at running
    cases running
  · obtain ⟨-, timer, session⟩ := closed.stopped l.close_stopped
    have idle := unstarted (started ▸ before)
    simp only [busy, timer, session, dialing] at idle ⊢
    simp
    omega

theorem Kept.withState {l : Life} (kept : Kept l) (running : l.stopped = false)
    (state : BridgeState) : Kept { l with state } :=
  kept.of_running running (grows_refl _) running rfl fun _ _ _ owned => owned

/-- What happens to the channels alone. -/
theorem Kept.grown {l : Life} (kept : Kept l) {sessions : List Session}
    (grows : Grows l.sessions sessions) : Kept { l with sessions } := by
  refine ⟨kept.stopped, ?_, fun closing => ?_⟩
  · intro s session found
    obtain ⟨before, there, onward⟩ := grows s session found
    rcases kept.owned s before there with here | here | here | here
    · exact .inl here
    · exact .inr (.inl here)
    · exact .inr (.inr (.inl (onward.1 here)))
    · exact .inr (.inr (.inr (onward.2 here)))
  · obtain ⟨stopped, all⟩ := kept.closing closing
    exact ⟨stopped, fun s inside => (all s inside).grows grows⟩

theorem Sound.grown {l : Life} (sound : Sound l) {sessions : List Session}
    (grows : Grows l.sessions sessions) : Sound { l with sessions } :=
  ⟨sound.toKept.grown grows, sound.running, sound.unstarted⟩

/-- A session that is no longer current has closed or is left to its drain. -/
theorem Kept.vacate {l : Life} (kept : Kept l) (running : l.stopped = false) {s : Nat}
    (current : l.session = some s) {draining : List Nat} (still : l.draining ⊆ draining)
    (gone : s ∈ draining ∨ ∀ session, l.sessions[s]? = some session → session.closed.isSome = true) :
    Kept { l with session := none, draining } := by
  refine kept.of_running running (grows_refl _) running rfl fun k session there owned => ?_
  rcases owned with here | here | here | here
  · have same : k = s := Option.some.inj (here.symm.trans current)
    subst same
    rcases gone with inside | closed
    · exact .inr (.inl inside)
    · exact .inr (.inr (.inl (closed session there)))
  · exact .inr (.inl (still here))
  · exact .inr (.inr (.inl here))
  · exact .inr (.inr (.inr here))

end Life

/-! ## The methods -/

namespace Connection

open Life

variable {c : Connection} {closes : Closes}

/-- A running connection with nothing to do next dials, unless a listener closes it. -/
theorem connect_sound (kept : Kept c.toLife) (started : c.started = true)
    (running : c.stopped = false) (idle : c.toLife.busy = 0) :
    Sound (c.connect closes).toLife := by
  have emitted := c.emit_life ⟨.connecting, none⟩ closes
  have announced := kept.withState running .connecting
  unfold connect
  dsimp only
  generalize c.emit ⟨.connecting, none⟩ closes = c' at emitted
  rw [Life.emit] at emitted
  split at emitted
  · have closed : c'.stopped = true := by
      rw [emitted]
      exact close_stopped _
    obtain ⟨kept', running', unstarted'⟩ := emitted ▸ announced.sound_close fun _ => idle
    rw [if_pos closed]
    exact ⟨⟨kept'.stopped, kept'.owned, kept'.closing⟩, running', unstarted'⟩
  · have open_ : ¬ c'.stopped = true := by
      rw [emitted]
      simp [running]
    rw [if_neg open_]
    dsimp only
    rw [emitted]
    refine ⟨⟨announced.stopped, announced.owned, announced.closing⟩, fun _ _ => ?_, fun unstarted => ?_⟩
    · simp only [busy] at idle ⊢
      omega
    · exact absurd started (by simp [show c.started = false from unstarted])

theorem retry_sound (kept : Kept c.toLife) (started : c.started = true)
    (running : c.stopped = false) (idle : c.toLife.busy = 0) (reason : Reason) (random : ℚ) :
    Sound (c.retry reason closes random).toLife := by
  have emitted := c.emit_life ⟨.transientFailure, some reason⟩ closes
  have announced := kept.withState running .transientFailure
  unfold retry
  dsimp only
  generalize c.emit ⟨.transientFailure, some reason⟩ closes = c' at emitted
  rw [Life.emit] at emitted
  split at emitted
  · have closed : c'.stopped = true := by
      rw [emitted]
      exact close_stopped _
    rw [if_pos closed]
    exact emitted ▸ announced.sound_close fun _ => idle
  · have open_ : ¬ c'.stopped = true := by
      rw [emitted]
      simp [running]
    rw [if_neg open_]
    dsimp only
    rw [emitted]
    refine ⟨?_, fun _ _ => ?_, fun unstarted => ?_⟩
    · exact kept.of_running running (grows_refl _) running rfl fun _ _ _ owned => owned
    · simp only [busy, Option.toList_some, List.length_singleton] at idle ⊢
      omega
    · exact absurd started (by simp [show c.started = false from unstarted])

theorem close_sound (sound : Sound c.toLife) : Sound c.close.toLife := by
  rw [close_life]
  exact sound.toKept.sound_close sound.unstarted

theorem started_of_busy (sound : Sound c.toLife) (busy : 0 < c.toLife.busy) : c.started = true := by
  by_contra unstarted
  have idle := sound.unstarted (by simpa using unstarted)
  omega

theorem start_sound (sound : Sound c.toLife) (unstarted : c.started = false) :
    Sound (if c.stopped then { c with started := true }
      else ({ c with started := true } : Connection).connect closes).toLife := by
  obtain ⟨kept, -, idle⟩ := sound
  split
  · rename_i stopped
    refine ⟨⟨kept.stopped, kept.owned, kept.closing⟩, fun _ running => ?_, nofun⟩
    exact absurd stopped (by simp [show c.stopped = false from running])
  · rename_i running
    exact connect_sound ⟨kept.stopped, kept.owned, kept.closing⟩ rfl (by simpa using running)
      (idle unstarted)

theorem timer_sound (sound : Sound c.toLife) {d : ℚ} (armed : c.timer = some d) :
    Sound (({ c with timer := none } : Connection).connect closes).toLife := by
  have running : c.stopped = false := by
    by_contra stopped
    have := (sound.stopped (by simpa using stopped)).2.1
    simp [armed] at this
  have started : c.started = true := by
    apply started_of_busy sound
    simp only [busy, armed, Option.toList_some, List.length_singleton]
    omega
  have one := sound.running started running
  have kept : Kept { c.toLife with timer := none } :=
    sound.toKept.of_running running (grows_refl _) running rfl fun _ _ _ owned => owned
  refine connect_sound (c := { c with timer := none }) kept started running ?_
  simp only [busy, armed, Option.toList_some, List.length_singleton] at one
  simp only [busy, Option.toList_none, List.length_nil]
  omega

theorem dialFailed_sound (sound : Sound c.toLife) (dialing : 0 < c.dialing) (random : ℚ) :
    Sound (c.dialFailed closes random).toLife := by
  have started : c.started = true := by
    apply started_of_busy sound
    simp only [busy]
    omega
  unfold dialFailed
  dsimp only
  split
  · rename_i stopped
    refine ⟨⟨sound.stopped, sound.owned, sound.closing⟩, fun _ running => ?_, fun unstarted => ?_⟩
    · exact absurd stopped (by simp [show c.stopped = false from running])
    · exact absurd started (by simp [show c.started = false from unstarted])
  · rename_i running
    have running : c.stopped = false := by simpa using running
    have one := sound.running started running
    have kept : Kept { c.toLife with
        dialing := c.dialing - 1, initial := c.initial.settle .failed } :=
      ⟨sound.stopped, sound.owned, sound.closing⟩
    refine retry_sound (c := { c with
      dialing := c.dialing - 1, initial := c.initial.settle .failed }) kept started running ?_ _ _
    simp only [busy] at one ⊢
    omega

/-- `receive` adds to the sessions and leaves the rest. -/
theorem receive_fields (c : Connection) (returned : Option Nat) (throws : Bool) :
    (c.receive returned throws).2.stopped = c.stopped ∧
      (c.receive returned throws).2.started = c.started ∧
      (c.receive returned throws).2.timer = c.timer ∧
      (c.receive returned throws).2.dialing = c.dialing ∧
      (c.receive returned throws).2.dials = c.dials := by
  cases returned with
  | none => exact ⟨rfl, rfl, rfl, rfl, rfl⟩
  | some s => exact ⟨rfl, rfl, rfl, rfl, rfl⟩

/-- The session that `dial` returned becomes the current one. -/
theorem install_kept (kept : Kept c.toLife) (running : c.stopped = false)
    (vacant : c.session = none) {returned : Option Nat} (throws : Bool)
    (known : ∀ s ∈ returned, s < c.sessions.length) :
    Kept ((c.receive returned throws).2.install (c.receive returned throws).1).toLife := by
  have forward : ∀ session : Session, session.Onward { session with
      onClosed := session.onClosed + 1, onDraining := session.onDraining + 1 } :=
    fun _ => ⟨id, id⟩
  have open_ := kept.unclosed running
  cases returned with
  | some s =>
      refine kept.of_running running (grows_modify _ _ forward) running rfl ?_
      intro k session _ owned
      rcases owned with here | here | here | here
      · rw [vacant] at here
        cases here
      · exact .inr (.inl here)
      · exact .inr (.inr (.inl here))
      · exact .inr (.inr (.inr here))
  | none =>
      refine ⟨fun stopped => ?_, ?_, fun closing => ?_⟩
      · exact absurd running (by simp [show c.stopped = true from stopped])
      · intro k session found
        obtain ⟨before, there, onward⟩ := grows_modify _ _ forward k session found
        rw [receive] at there
        dsimp only at there
        by_cases old : k < c.sessions.length
        · rw [List.getElem?_append_left old] at there
          rcases kept.owned k before there with here | here | here | here
          · rw [vacant] at here
            cases here
          · exact .inr (.inl here)
          · exact .inr (.inr (.inl (onward.1 here)))
          · exact .inr (.inr (.inr (onward.2 here)))
        · have bound := (List.getElem?_eq_some_iff.1 there).1
          rw [List.length_append, List.length_singleton] at bound
          left
          show some c.sessions.length = some k
          congr
          omega
      · exact absurd open_ (by simp [show c.closing = true from closing])

/-- A session that arrives after `close` is closed. -/
theorem late_kept (kept : Kept c.toLife) (stopped : c.stopped = true) {returned : Option Nat}
    (throws : Bool) (known : ∀ s ∈ returned, s < c.sessions.length) :
    Kept ((c.receive returned throws).2.toLife.markClosed (c.receive returned throws).1) := by
  cases returned with
  | some s => exact kept.grown (c.markClosed_grows s)
  | none =>
      have down := kept.stopped stopped
      have marked := markClosed_marked { c.toLife with
        sessions := c.sessions ++ [{ closeThrows := throws }] } c.sessions.length
      have grows := markClosed_grows { c.toLife with
        sessions := c.sessions ++ [{ closeThrows := throws }] } c.sessions.length
      refine ⟨fun _ => down, ?_, fun closing => ⟨stopped, fun k inside => ?_⟩⟩
      · intro k session found
        by_cases new : k = c.sessions.length
        · subst new
          exact .inr (.inr (.inr (marked session found)))
        · obtain ⟨before, there, onward⟩ := grows k session found
          have bound := (List.getElem?_eq_some_iff.1 there).1
          dsimp only at there bound
          rw [List.length_append, List.length_singleton] at bound
          rw [List.getElem?_append_left (by omega)] at there
          rcases kept.owned k before there with here | here | here | here
          · exact .inl here
          · exact .inr (.inl here)
          · exact .inr (.inr (.inl (onward.1 here)))
          · exact .inr (.inr (.inr (onward.2 here)))
      · intro session found
        by_cases new : k = c.sessions.length
        · subst new
          exact marked session found
        · obtain ⟨before, there, onward⟩ := grows k session found
          have bound := (List.getElem?_eq_some_iff.1 there).1
          dsimp only at there bound
          rw [List.length_append, List.length_singleton] at bound
          rw [List.getElem?_append_left (by omega)] at there
          exact onward.2 ((kept.closing closing).2 k inside before there)

theorem emit_sound (sound : Sound c.toLife) (running : c.stopped = false) (event : BridgeEvent) :
    Sound (c.emit event closes).toLife := by
  have announced := sound.toKept.withState running event.state
  rw [emit_life, Life.emit]
  split
  · exact announced.sound_close sound.unstarted
  · exact ⟨announced, sound.running, sound.unstarted⟩

theorem dialed_sound (sound : Sound c.toLife) (dialing : 0 < c.dialing) {returned : Option Nat}
    (throws : Bool) (known : ∀ s ∈ returned, s < c.sessions.length) :
    Sound (c.dialed returned throws closes).toLife := by
  have started : c.started = true := by
    apply started_of_busy sound
    simp only [busy]
    omega
  have kept : Kept { c.toLife with dialing := c.dialing - 1 } :=
    ⟨sound.stopped, sound.owned, sound.closing⟩
  have late := fun stopped =>
    late_kept (c := { c with dialing := c.dialing - 1 }) kept stopped throws known
  have installed := fun running vacant =>
    install_kept (c := { c with dialing := c.dialing - 1 }) kept running vacant throws known
  obtain ⟨stopped', started', timer', dialing', -⟩ :=
    receive_fields { c with dialing := c.dialing - 1 } returned throws
  unfold dialed
  dsimp only
  generalize ({ c with dialing := c.dialing - 1 } : Connection).receive returned throws = received
    at *
  split
  · rename_i down
    refine ⟨late (stopped' ▸ down), fun _ running => ?_, fun unstarted => ?_⟩
    · exact absurd down (by simp [show received.2.stopped = false from running])
    · exact absurd (started'.trans started)
        (by simp [show received.2.started = false from unstarted])
  · rename_i up
    have running : c.stopped = false := by
      rw [stopped'] at up
      simpa using up
    have one := sound.running started running
    have vacant : c.session = none := by
      cases current : c.session with
      | none => rfl
      | some s =>
          simp only [busy, current, Option.toList_some, List.length_singleton] at one
          omega
    have fresh : Sound (received.2.install received.1).toLife := by
      refine ⟨installed running vacant, fun _ _ => ?_, fun unstarted => ?_⟩
      · simp only [busy, vacant, Option.toList_none, List.length_nil] at one
        simp only [busy, install, timer', dialing', Option.toList_some, List.length_singleton]
        omega
      · exact absurd (started'.trans started)
          (by simp [show received.2.started = false from unstarted])
    have emitted : Sound ((received.2.install received.1).emit ⟨.open, none⟩ closes).toLife :=
      emit_sound fresh (stopped'.trans running) ⟨.open, none⟩
    exact ⟨⟨emitted.stopped, emitted.owned, emitted.closing⟩, emitted.running, emitted.unstarted⟩

/-- Giving up the current session leaves a running connection with nothing to do. -/
theorem idle_of_current (sound : Sound c.toLife) (running : c.stopped = false) {s : Nat}
    (current : c.session = some s) :
    c.started = true ∧ c.dialing = 0 ∧ c.timer = none := by
  have started : c.started = true := by
    apply started_of_busy sound
    simp only [busy, current, Option.toList_some, List.length_singleton]
    omega
  have one := sound.running started running
  simp only [busy, current, Option.toList_some, List.length_singleton] at one
  refine ⟨started, by omega, ?_⟩
  cases armed : c.timer with
  | none => rfl
  | some d =>
      simp only [armed, Option.toList_some, List.length_singleton] at one
      omega

theorem lost_sound (sound : Sound c.toLife) (s : Nat) (reason : Reason) (random : ℚ)
    (closed : ∀ session, c.sessions[s]? = some session → session.closed.isSome = true) :
    Sound (c.lost s reason closes random).toLife := by
  have grows : Grows c.sessions (c.sessions.modify s fun session =>
      { session with onClosed := session.onClosed - 1 }) :=
    grows_modify _ _ fun _ => ⟨id, id⟩
  have called := sound.grown grows
  unfold lost
  dsimp only
  split
  · exact called
  · rename_i guards
    obtain ⟨up, other⟩ := not_or.1 guards
    have current : c.session = some s := not_not.1 other
    have running : c.stopped = false := by simpa using up
    obtain ⟨started, dialing, timer⟩ := idle_of_current sound running current
    have settled : ∀ session, (c.sessions.modify s fun session =>
        { session with onClosed := session.onClosed - 1 })[s]? = some session →
        session.closed.isSome = true := by
      intro session found
      obtain ⟨before, there, onward⟩ := grows s session found
      exact onward.1 (closed before there)
    have vacated := called.toKept.vacate running current (List.Subset.refl _) (.inr settled)
    refine retry_sound (c := { c with
      session := none
      sessions := c.sessions.modify s fun session =>
        { session with onClosed := session.onClosed - 1 } }) vacated started running ?_ reason random
    simp [busy, dialing, timer]

theorem drained_sound (sound : Sound c.toLife) (s : Nat) : Sound (c.drained s closes).toLife := by
  have grows : Grows c.sessions (c.sessions.modify s fun session =>
      { session with onDraining := session.onDraining - 1 }) :=
    grows_modify _ _ fun _ => ⟨id, id⟩
  have called := sound.grown grows
  unfold drained
  dsimp only
  split
  · exact called
  · rename_i guards
    obtain ⟨up, other⟩ := not_or.1 guards
    have current : c.session = some s := not_not.1 other
    have running : c.stopped = false := by simpa using up
    obtain ⟨started, dialing, timer⟩ := idle_of_current sound running current
    have registered := called.grown (grows_modify (c.sessions.modify s fun session =>
      { session with onDraining := session.onDraining - 1 }) s
      (f := fun session => { session with onDrained := session.onDrained + 1 })
      fun _ => ⟨id, id⟩)
    have inside : s ∈ if s ∈ c.draining then c.draining else c.draining ++ [s] := by
      split
      · assumption
      · simp
    have still : c.draining ⊆ if s ∈ c.draining then c.draining else c.draining ++ [s] := by
      split
      · exact List.Subset.refl _
      · exact List.subset_append_left _ _
    have vacated := registered.toKept.vacate running current still (.inl inside)
    refine connect_sound (c := { c with
      session := none
      draining := if s ∈ c.draining then c.draining else c.draining ++ [s]
      sessions := (c.sessions.modify s fun session =>
        { session with onDraining := session.onDraining - 1 }).modify s fun session =>
        { session with onDrained := session.onDrained + 1 } }) vacated started running ?_
    simp [busy, dialing, timer]

/-- Only a session whose channel has closed is forgotten. -/
theorem removed_sound (sound : Sound c.toLife) (s : Nat)
    (closed : ∀ session, c.sessions[s]? = some session → session.closed.isSome = true) :
    Sound (c.removed s).toLife := by
  have grows : Grows c.sessions (c.sessions.modify s fun session =>
      { session with onDrained := session.onDrained - 1 }) :=
    grows_modify _ _ fun _ => ⟨id, id⟩
  obtain ⟨⟨stopped, owned, closing⟩, running, unstarted⟩ := sound.grown grows
  refine ⟨⟨stopped, ?_, fun going => ?_⟩, running, unstarted⟩
  · intro k session found
    rcases owned k session found with here | here | here | here
    · exact .inl here
    · by_cases same : k = s
      · subst same
        obtain ⟨before, there, onward⟩ := grows k session found
        exact .inr (.inr (.inl (onward.1 (closed before there))))
      · right
        left
        simp only [removed, List.mem_filter]
        exact ⟨here, by simpa using same⟩
    · exact .inr (.inr (.inl here))
    · exact .inr (.inr (.inr here))
  · obtain ⟨down, all⟩ := closing going
    exact ⟨down, fun k inside => all k (List.mem_of_mem_filter inside)⟩

/-- The draining set is cleared after each of its channels was closed. -/
theorem closeSettles_sound (sound : Sound c.toLife) (closing : c.closing = true) (ok : Bool) :
    Sound (c.closeSettles ok).toLife := by
  obtain ⟨-, marked⟩ := sound.closing closing
  refine ⟨⟨sound.stopped, ?_, nofun⟩, sound.running, sound.unstarted⟩
  intro k session found
  rcases sound.owned k session found with here | here | here | here
  · exact .inl here
  · exact .inr (.inr (.inr (marked k here session found)))
  · exact .inr (.inr (.inl here))
  · exact .inr (.inr (.inr here))

theorem subscribe_sound (sound : Sound c.toLife) (l : Nat) (closes : Bool) :
    Sound (c.subscribe l closes).toLife := by
  unfold subscribe
  dsimp only
  split
  · exact close_sound (c := { c with
      listeners := if l ∈ c.listeners then c.listeners else c.listeners ++ [l]
      delivered := c.delivered ++ [(l, ⟨c.state, none⟩)] }) sound
  · exact sound

/-- The guard of the callbacks on `channel.closed`, as a fact about the session. -/
theorem closed_of_found {s : Nat} {session : Session} (found : c.sessions[s]? = some session)
    (closed : session.closed.isSome = true) :
    ∀ session', c.sessions[s]? = some session' → session'.closed.isSome = true := by
  intro session' found'
  rw [found] at found'
  cases found'
  exact closed

/-- **One step.** -/
theorem step_sound {e : Event} {c' : Connection} (sound : Sound c.toLife)
    (stepped : c.step e = some c') : Sound c'.toLife := by
  cases step_cases stepped with
  | start closes unstarted => exact start_sound sound unstarted
  | dialed throws closes dialing known => exact dialed_sound sound dialing throws known
  | dialFailed closes random dialing => exact dialFailed_sound sound dialing random
  | timer closes armed => exact timer_sound sound armed
  | channelCloses s ok => exact sound.grown (grows_modify _ _ fun _ => ⟨fun _ => rfl, id⟩)
  | channelDrains s => exact sound.grown (grows_modify _ _ fun _ => ⟨id, id⟩)
  | lost closes random found closed =>
      exact lost_sound sound _ _ random (closed_of_found found (by simp [closed]))
  | drained s closes => exact drained_sound sound s
  | removed found closed => exact removed_sound sound _ (closed_of_found found closed)
  | close => exact close_sound sound
  | closeSettles ok closing => exact closeSettles_sound sound closing ok
  | subscribe l closes => exact subscribe_sound sound l closes
  | advance | unsubscribe | select | cancel | expire | resume => exact sound

/-! ## After close -/

/-- What a stopped connection keeps: it stays stopped and dials no more. -/
def Ended (c c' : Connection) : Prop :=
  c.stopped = true → c'.stopped = true ∧ c'.dials = c.dials

theorem close_ended (c : Connection) : c.Ended c.close := by
  intro stopped
  rw [close, if_pos stopped]
  exact ⟨stopped, rfl⟩

theorem dialed_ended (c : Connection) (returned : Option Nat) (throws : Bool) (closes : Closes) :
    c.Ended (c.dialed returned throws closes) := by
  intro stopped
  obtain ⟨stopped', -, -, -, dials'⟩ :=
    receive_fields { c with dialing := c.dialing - 1 } returned throws
  have down := stopped'.trans stopped
  unfold dialed
  dsimp only
  rw [if_pos down]
  exact ⟨down, dials'⟩

/-- The guards of `connect`, of the timer and of the callbacks, on a stopped connection. -/
theorem step_ended {e : Event} {c' : Connection} (sound : Sound c.toLife)
    (stepped : c.step e = some c') : c.Ended c' := by
  intro stopped
  cases step_cases stepped with
  | start closes unstarted =>
      rw [if_pos stopped]
      exact ⟨stopped, rfl⟩
  | dialed throws closes dialing known => exact c.dialed_ended _ throws closes stopped
  | dialFailed closes random dialing =>
      rw [dialFailed, if_pos stopped]
      exact ⟨stopped, rfl⟩
  | timer closes armed =>
      rw [(sound.stopped stopped).2.1] at armed
      cases armed
  | lost closes random found closed =>
      rw [lost, if_pos (.inl stopped)]
      exact ⟨stopped, rfl⟩
  | drained s closes =>
      rw [drained, if_pos (.inl stopped)]
      exact ⟨stopped, rfl⟩
  | close => exact c.close_ended stopped
  | subscribe l closes =>
      unfold subscribe
      dsimp only
      split
      · exact close_ended { c with
          listeners := if l ∈ c.listeners then c.listeners else c.listeners ++ [l]
          delivered := c.delivered ++ [(l, ⟨c.state, none⟩)] } stopped
      · exact ⟨stopped, rfl⟩
  | advance | channelCloses | channelDrains | removed | closeSettles | unsubscribe | select
  | cancel | expire | resume => exact ⟨stopped, rfl⟩

/-- The session of a dial that completes late. -/
theorem dialed_marked {c' : Connection} {returned : Option Nat} {throws : Bool}
    (stopped : c.stopped = true) (stepped : c.step (.dialed returned throws closes) = some c') :
    Marked c'.sessions (c.receive returned throws).1 := by
  obtain ⟨-, ⟨⟩⟩ := Option.ite_none_right_eq_some.1 stepped
  have down := (receive_fields { c with dialing := c.dialing - 1 } returned throws).1.trans stopped
  unfold dialed
  dsimp only
  rw [if_pos down]
  cases returned with
  | none => exact markClosed_marked _ _
  | some s => exact markClosed_marked _ _

end Connection

/-! ## Runs -/

namespace Life

def Dialing (l : Life) : Prop := l.dialing = 1 ∧ l.timer = none ∧ l.session = none

def Waiting (l : Life) : Prop := l.dialing = 0 ∧ l.timer.isSome = true ∧ l.session = none

def Connected (l : Life) : Prop := l.dialing = 0 ∧ l.timer = none ∧ l.session.isSome = true

/-- A count of one is exactly one of the three. -/
theorem exclusive_of_busy {l : Life} (one : l.busy = 1) : l.Dialing ∨ l.Waiting ∨ l.Connected := by
  unfold busy at one
  cases armed : l.timer with
  | none =>
      cases current : l.session with
      | none =>
          left
          simp [armed, current] at one
          exact ⟨one, armed, current⟩
      | some s =>
          right
          right
          simp [armed, current] at one
          exact ⟨one, armed, by simp [current]⟩
  | some d =>
      right
      left
      cases current : l.session with
      | none =>
          simp [armed, current] at one
          exact ⟨one, by simp [armed], current⟩
      | some s =>
          simp [armed, current] at one

end Life

theorem sound_init (listener : Option Nat) : (recoveryMachine listener).init.Sound := by
  refine ⟨⟨?_, ?_, ?_⟩, ?_, ?_⟩
  · nofun
  · intro s session found
    cases found
  · nofun
  · nofun
  · intro _
    rfl

section Runs

variable {listener : Option Nat} {c : Connection}

theorem sound_of_reaches (reached : (recoveryMachine listener).Reaches Machine.always c) :
    c.Sound := by
  refine Machine.Steps.invariant (fun c : Connection => c.Sound) ?_ reached (sound_init listener)
  intro c e c' sound _ stepped
  exact Connection.step_sound sound stepped

/-- From any sound state, over the rest of a run. -/
theorem ended_of_steps {c' : Connection} (sound : c.Sound)
    (steps : (recoveryMachine listener).Steps Machine.always c c') : c'.Sound ∧ c.Ended c' := by
  refine Machine.Steps.invariant (fun c' : Connection => c'.Sound ∧ c.Ended c') ?_ steps
    ⟨sound, fun stopped => ⟨stopped, rfl⟩⟩
  rintro before e after ⟨sound, ended⟩ _ stepped
  refine ⟨Connection.step_sound sound stepped, fun stopped => ?_⟩
  obtain ⟨down, dials⟩ := ended stopped
  obtain ⟨down', dials'⟩ := Connection.step_ended sound stepped down
  exact ⟨down', dials'.trans dials⟩

/-- **Recovery.**  Between two callbacks a started connection that nobody has closed is
dialing, waiting for its timer or connected, and only one of these; no session it was
given is lost track of; and after `close` it is closed for good, with no timer, no new
dial, and a late session closed. -/
theorem recovery_of_reaches (reached : (recoveryMachine listener).Reaches Machine.always c) :
    (c.started = true → c.stopped = false → c.Dialing ∨ c.Waiting ∨ c.Connected) ∧
      (∀ s session, c.sessions[s]? = some session → c.Owned s session) ∧
      c.close.stopped = true ∧
      (c.stopped = true → ∀ c', (recoveryMachine listener).Steps Machine.always c c' →
        c'.stopped = true ∧ c'.state = .closed ∧ c'.timer = none ∧ c'.session = none ∧
          c'.dials = c.dials ∧
          ∀ returned throws closes c'', c'.step (.dialed returned throws closes) = some c'' →
            Life.Marked c''.sessions (c'.receive returned throws).1) := by
  have sound := sound_of_reaches reached
  refine ⟨?_, sound.owned, ?_, ?_⟩
  · intro started running
    exact Life.exclusive_of_busy (sound.running started running)
  · rw [Connection.close_life]
    exact c.toLife.close_stopped
  · intro stopped c' steps
    obtain ⟨sound', ended⟩ := ended_of_steps sound steps
    obtain ⟨down, dials⟩ := ended stopped
    obtain ⟨state, timer, session⟩ := sound'.stopped down
    exact ⟨down, state, timer, session, dials, fun _ _ _ _ => Connection.dialed_marked down⟩

/-- A session that drains while the next dial fails; the listener closes the connection
when it hears of the failure. -/
def drainedThenClosed : List Event :=
  [.start fun _ => false, .dialed none false fun _ => false, .channelDrains 0,
    .drained 0 fun _ => false, .dialFailed (fun _ => false) (1 / 2), .timer fun _ => false,
    .dialFailed (fun _ => true) (1 / 2)]

theorem recovery_drainedThenClosed :
    ∃ c, (recoveryMachine (some 0)).run Machine.always (recoveryMachine (some 0)).init
        drainedThenClosed = some c ∧
      c.stopped = true ∧ c.state = .closed ∧ c.timer = none ∧ c.dials = 3 ∧
      c.sessions.map (·.closeCalled) = [true] := by
  refine ⟨_, rfl, rfl, ?_⟩
  have recovery := recovery_of_reaches
    (Machine.steps_of_run (M := recoveryMachine (some 0)) drainedThenClosed rfl)
  obtain ⟨-, state, timer, -⟩ := recovery.2.2.2 rfl _ .refl
  exact ⟨state, timer, rfl, rfl⟩

end Runs

end GrpcBridge.Recovery
