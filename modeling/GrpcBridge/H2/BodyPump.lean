/-
# H2.BodyPump -- uploads under two flow-control windows

`pumpBody` and `SendWindow` (web/src/h2/connection.ts, web/src/h2/flow.ts).  The session
has the slice of an upload as one event and leaves open when it comes; here are the pumps
that send the slices.  A pump awaits the next chunk of its body, the connection's window,
its stream's window and the write of a slice.  It is cut at each of these, so that a window
that had credit when a waiter was resolved may be spent by other pumps before that waiter
goes on.

`pumpMachine` runs any number of pumps over one session.  Their session takes only steps
of `sessionMachine` (`session_of_pumps`), a pump that is parked at a window finds it
exhausted (`parked_of_reaches`), and the DATA frames of a stream spell its body
(`body_of_run`).
-/
import GrpcBridge.H2.SendCredit

namespace GrpcBridge.H2

open GrpcBridge.Theory

set_option autoImplicit false

/-! ## One window -/

/-- A waiter is named by the stream of its pump. -/
structure SendWindow where
  available : Int
  waiters : List Nat := []
  closed : Bool := false
deriving DecidableEq, Repr

namespace SendWindow

/-- `wake()`, with the waiters it resolves. -/
def wake (w : SendWindow) : SendWindow × List Nat := ({ w with waiters := [] }, w.waiters)

/-- `adjust(delta)`; `update(increment)` is the same code. -/
def adjust (w : SendWindow) (delta : Int) : SendWindow × List Nat :=
  let w := { w with available := w.available + delta }
  if 0 < w.available then w.wake else (w, [])

def consume (w : SendWindow) (n : Int) : SendWindow := { w with available := w.available - n }

/-- `waitPositive()` of a waiter, and whether its promise is resolved at once. -/
def waitPositive (w : SendWindow) (waiter : Nat) : SendWindow × Bool :=
  if decide (0 < w.available) || w.closed then (w, true)
  else ({ w with waiters := w.waiters ++ [waiter] }, false)

def close (w : SendWindow) : SendWindow × List Nat := { w with closed := true }.wake

/-- The calls that took a window to a value the session has for it. -/
def moveTo (w : SendWindow) (available : Int) (closed : Bool) : SendWindow × List Nat :=
  let (w, adjusted) := if available = w.available then (w, []) else w.adjust (available - w.available)
  let (w, stopped) := if closed && !w.closed then w.close else (w, [])
  (w, adjusted ++ stopped)

/-- Only an exhausted window that is open has waiters. -/
def Settled (w : SendWindow) : Prop := w.waiters ≠ [] → w.available ≤ 0 ∧ w.closed = false

theorem Settled.adjust {w : SendWindow} (settled : w.Settled) (delta : Int) :
    (w.adjust delta).1.Settled := by
  unfold SendWindow.adjust
  simp only
  split
  · exact fun waiting => absurd rfl waiting
  · rename_i exhausted
    exact fun waiting => ⟨Int.not_lt.1 exhausted, (settled waiting).2⟩

theorem close_settled (w : SendWindow) : w.close.1.Settled := fun waiting => absurd rfl waiting

theorem Settled.consume {w : SendWindow} (settled : w.Settled) {n : Int} (counts : 0 ≤ n) :
    (w.consume n).Settled := by
  intro waiting
  obtain ⟨exhausted, opened⟩ := settled waiting
  exact ⟨by change w.available - n ≤ 0; omega, opened⟩

theorem Settled.waitPositive {w : SendWindow} (settled : w.Settled) (waiter : Nat) :
    (w.waitPositive waiter).1.Settled := by
  unfold SendWindow.waitPositive
  split
  · exact settled
  · rename_i exhausted
    simp only [Bool.or_eq_true, decide_eq_true_eq, not_or, Bool.not_eq_true] at exhausted
    exact fun _ => ⟨Int.not_lt.1 exhausted.1, exhausted.2⟩

theorem Settled.moveTo {w : SendWindow} (settled : w.Settled) (available : Int) (closed : Bool) :
    (w.moveTo available closed).1.Settled := by
  unfold SendWindow.moveTo
  simp only
  split
  · split
    · exact close_settled _
    · exact settled
  · split
    · exact close_settled _
    · exact settled.adjust _

theorem waitPositive_fst (w : SendWindow) (waiter : Nat) :
    (w.waitPositive waiter).1 = { w with waiters := (w.waitPositive waiter).1.waiters } := by
  unfold waitPositive
  split <;> rfl

/-- A window is taken where the session has it, and its waiters stay or are all resolved. -/
theorem moveTo_spec (w : SendWindow) (available : Int) (closed : Bool) :
    (w.moveTo available closed).1.available = available ∧
      (w.moveTo available closed).1.closed = (w.closed || closed) ∧
      ∀ waiter, waiter ∈ w.waiters ↔ waiter ∈ (w.moveTo available closed).1.waiters ∨
        waiter ∈ (w.moveTo available closed).2 := by
  have moved : w.available + (available - w.available) = available := by omega
  unfold moveTo adjust close wake
  simp only [moved]
  repeat' split
  all_goals simp_all

/-- Nobody is resolved and still parked. -/
theorem moveTo_disjoint (w : SendWindow) (available : Int) (closed : Bool) {waiter : Nat}
    (resolved : waiter ∈ (w.moveTo available closed).2) :
    waiter ∉ (w.moveTo available closed).1.waiters := by
  revert resolved
  unfold moveTo adjust close wake
  simp only
  repeat' split
  all_goals simp_all

end SendWindow

/-! ## The pumps of a session -/

/-- Where a pump stands.  A promise of a window is resolved, or its waiter is parked. -/
inductive PumpPoint where
  /-- The next chunk of the body. -/
  | reading
  /-- `await this.connSendWindow.waitPositive()` -/
  | connWait (resolved : Bool)
  /-- `await stream.sendWindow.waitPositive()` -/
  | streamWait (resolved : Bool)
  /-- The write of a slice of `grant` bytes. -/
  | sending (grant : Nat)
  /-- The write of END_STREAM. -/
  | ending
  | finished
deriving DecidableEq, Repr

/-- Parked at a window. -/
def PumpPoint.Parked (point : PumpPoint) : Prop :=
  point = .connWait false ∨ point = .streamWait false

/-- What the session has for a pump there. -/
def PumpPoint.upload : PumpPoint → Upload
  | .finished => .idle
  | .ending => .ending
  | _ => .pumping

structure Pump where
  point : PumpPoint := .finished
  chunk : Bytes := []
  offset : Nat := 0
  /-- The chunks before this one, and whether the body has ended. -/
  before : Bytes := []
  exhausted : Bool := false
deriving DecidableEq, Repr

/-- What the body has given so far. -/
def Pump.given (p : Pump) : Bytes := p.before ++ p.chunk

def Pump.resolve (p : Pump) : Pump :=
  match p.point with
  | .connWait _ => { p with point := .connWait true }
  | .streamWait _ => { p with point := .streamWait true }
  | _ => p

theorem Pump.resolve_unparked (p : Pump) : ¬ p.resolve.point.Parked := by
  obtain ⟨point, chunk, offset, before, exhausted⟩ := p
  cases point <;> simp [resolve, PumpPoint.Parked]

/-- A session with the pumps of its streams and the waiters of its windows. -/
structure Pumps (H : Hpack) where
  conn : Conn H
  connWaiters : List Nat := []
  streamWaiters : Nat → List Nat := fun _ => []
  pump : Nat → Pump := fun _ => {}

inductive PumpEvent where
  /-- An event of the session that is not a step of a pump. -/
  | session (e : Event)
  /-- The body gives its next chunk, or ends. -/
  | chunk (id : Nat) (bytes : Bytes)
  | exhausted (id : Nat)
  /-- The continuation after a resolved wait for a window. -/
  | resume (id : Nat)
  /-- A write is done. -/
  | written (id : Nat)
  /-- The body or a write fails. -/
  | throws (id : Nat) (cause : Cause)
deriving DecidableEq, Repr

variable {H : Hpack}

namespace Pumps

def connWindow (u : Pumps H) : SendWindow := ⟨u.conn.connSendWindow, u.connWaiters, u.conn.closed⟩

def streamWindow (u : Pumps H) (s : Stream) : SendWindow :=
  ⟨s.sendWindow, u.streamWaiters s.id, s.sendClosed⟩

def set (u : Pumps H) (id : Nat) (p : Pump) : Pumps H :=
  { u with pump := Function.update u.pump id p }

@[simp] theorem set_conn (u : Pumps H) (id : Nat) (p : Pump) : (u.set id p).conn = u.conn := rfl

@[simp] theorem set_pump_self (u : Pumps H) (id : Nat) (p : Pump) : (u.set id p).pump id = p := by
  rw [set]
  exact Function.update_self _ _ _

theorem set_pump_of_ne (u : Pumps H) {id j : Nat} (other : j ≠ id) (p : Pump) :
    (u.set id p).pump j = u.pump j := by
  rw [set]
  exact Function.update_of_ne other _ _

/-- The session goes to `conn`: windows move and resolve their waiters, and the pumps of
new streams start. -/
def follow (u : Pumps H) (conn : Conn H) : Pumps H :=
  let connection := u.connWindow.moveTo conn.connSendWindow conn.closed
  let stream (id : Nat) : SendWindow × List Nat :=
    match u.conn.stream id, conn.stream id with
    | some s, some s' => (u.streamWindow s).moveTo s'.sendWindow s'.sendClosed
    | _, _ => (⟨0, u.streamWaiters id, false⟩, [])
  { conn
    connWaiters := connection.1.waiters
    streamWaiters := fun id => (stream id).1.waiters
    pump := fun id =>
      match u.conn.stream id, conn.stream id with
      | none, some s => if s.upload = .pumping then { point := .reading } else u.pump id
      | _, _ =>
          if id ∈ connection.2 ∨ id ∈ (stream id).2 then (u.pump id).resolve else u.pump id }

/-- `return` out of the loop. -/
def stop (u : Pumps H) (s : Stream) (p : Pump) : Pumps H :=
  (u.follow (u.conn.modify s.id fun s => { s with upload := .idle })).set s.id
    { p with point := .finished }

/-- `while (offset < chunk.length)` up to the next await. -/
def loop (u : Pumps H) (s : Stream) (p : Pump) : Pumps H :=
  if p.offset < p.chunk.length then
    if u.conn.closed || s.sendClosed then u.stop s p
    else
      let (window, resolved) := u.connWindow.waitPositive s.id
      { u with connWaiters := window.waiters }.set s.id { p with point := .connWait resolved }
  else u.set s.id { p with point := .reading }

/-- The loop once the connection's window was positive. -/
def awaitStream (u : Pumps H) (s : Stream) (p : Pump) : Pumps H :=
  let (window, resolved) := (u.streamWindow s).waitPositive s.id
  { u with streamWaiters := Function.update u.streamWaiters s.id window.waiters }.set s.id
    { p with point := .streamWait resolved }

def grant (u : Pumps H) (s : Stream) (p : Pump) : Int :=
  min ((p.chunk.length - p.offset : Nat) : Int)
    (min u.conn.connSendWindow (min s.sendWindow u.conn.remote.maxFrameSize))

/-- The loop once both windows were positive. -/
def sendSlice (u : Pumps H) (s : Stream) (p : Pump) : Pumps H :=
  if u.conn.closed || s.sendClosed then u.stop s p
  else
    let grant := u.grant s p
    if grant ≤ 0 then u.loop s p
    else
      let slice := (p.chunk.drop p.offset).take grant.toNat
      { u with conn := u.conn.uploadSlice s slice }.set s.id { p with point := .sending grant.toNat }

/-- After the loop: half-close a stream that is still live. -/
def finish (u : Pumps H) (s : Stream) (p : Pump) : Pumps H :=
  let live := !u.conn.closed && !s.sendClosed && u.conn.has s.id
  (u.follow (u.conn.uploadEnds s)).set s.id
    { p with point := if live then .ending else .finished, exhausted := true }

def step (w : Windows) (u : Pumps H) : PumpEvent → Option (Pumps H)
  | .session e => if e.ofPump then none else (u.conn.step w e).map u.follow
  | .chunk id bytes => do
      let s ← u.conn.stream id
      let p := u.pump id
      if p.point = .reading then
        some (u.loop s { p with before := p.given, chunk := bytes, offset := 0 })
      else none
  | .exhausted id => do
      let s ← u.conn.stream id
      if (u.pump id).point = .reading then some (u.finish s (u.pump id)) else none
  | .resume id => do
      let s ← u.conn.stream id
      match (u.pump id).point with
      | .connWait true => some (u.awaitStream s (u.pump id))
      | .streamWait true => some (u.sendSlice s (u.pump id))
      | _ => none
  | .written id => do
      let s ← u.conn.stream id
      let p := u.pump id
      match p.point with
      | .sending grant => some (u.loop s { p with offset := p.offset + grant })
      | .ending => some ((u.follow (u.conn.uploadFlushed s)).set id { p with point := .finished })
      | _ => none
  | .throws id cause => do
      let s ← u.conn.stream id
      let p := u.pump id
      match p.point with
      | .reading | .sending _ | .ending =>
          some ((u.follow (u.conn.uploadFails s cause)).set id { p with point := .finished })
      | _ => none

end Pumps

/-- Every interleaving of the pumps with the events of their session. -/
def pumpMachine (H : Hpack) (w : Windows) : Machine (Pumps H) PumpEvent where
  init := { conn := Conn.start H w }
  step := Pumps.step w

/-! ## Streams and their pumps -/

namespace Conn

variable {c c' : Conn H}

/-- What the session has for the pump of stream `id`. -/
def uploadOf (c : Conn H) (id : Nat) : Upload :=
  match c.stream id with
  | some s => s.upload
  | none => .idle

/-- The DATA frames sent on stream `id`. -/
def datas (c : Conn H) (id : Nat) : List DataFrame :=
  (c.sent.filterMap asData).filter fun f => f.streamId == id

theorem map_pump_stream (c : Conn H) (id : Nat) :
    (c.stream id).map pump = (c.streams.map pump).find? fun p => p.1 == id := by
  rw [stream, List.find?_map]
  rfl

theorem uploadOf_congr {id : Nat} (same : (c'.stream id).map pump = (c.stream id).map pump) :
    c'.uploadOf id = c.uploadOf id := by
  unfold uploadOf
  cases found : c.stream id with
  | none =>
      rw [found, Option.map_none, Option.map_eq_none_iff] at same
      rw [same]
  | some s =>
      rw [found, Option.map_some] at same
      obtain ⟨s', found', equal⟩ := Option.map_eq_some_iff.1 same
      rw [found']
      exact congrArg (fun p => p.2.1) equal

theorem Rest.stream (rest : Rest c c') (id : Nat) :
    (c'.stream id).map pump = (c.stream id).map pump := by
  rw [map_pump_stream, map_pump_stream, rest.pumps]

theorem Rest.datas_eq (rest : Rest c c') (id : Nat) : c'.datas id = c.datas id := by
  rw [Conn.datas, rest.datas, Conn.datas]

theorem find_update {f : Stream → Stream} (keeps : ∀ s, (f s).id = s.id) (k id : Nat)
    (streams : List Stream) :
    (Keyed.update Stream.id k f streams).find? (fun s => s.id == id) =
      (streams.find? fun s => s.id == id).map fun s => if id = k then f s else s := by
  induction streams with
  | nil => rfl
  | cons s rest ih =>
      rw [Keyed.update, List.map_cons, ← Keyed.update]
      have same : (if s.id = k then f s else s).id = s.id := by
        split
        · exact keeps s
        · rfl
      by_cases own : s.id = id
      · subst own
        simp only [List.find?_cons, same, beq_self_eq_true, Option.map_some]
      · rw [List.find?_cons_of_neg (by simp [same, own]), List.find?_cons_of_neg (by simp [own])]
        exact ih

/-- The pumps after a change of stream `k`. -/
theorem stream_of_update {f : Stream → Stream} {k : Nat} (keeps : ∀ s, (f s).id = s.id)
    (moved : c'.streams.map pump = (Keyed.update Stream.id k f c.streams).map pump) (id : Nat) :
    (c'.stream id).map pump =
      (c.stream id).map fun s => pump (if id = k then f s else s) := by
  have updated := find_update keeps k id c.streams
  rw [map_pump_stream, moved, List.find?_map]
  change Option.map pump ((Keyed.update Stream.id k f c.streams).find? fun s => s.id == id) = _
  rw [updated, Option.map_map]
  rfl

theorem uploadOf_of_update {f : Stream → Stream} {s : Stream} (keeps : ∀ s, (f s).id = s.id)
    (found : c.stream s.id = some s)
    (moved : c'.streams.map pump = (Keyed.update Stream.id s.id f c.streams).map pump) (id : Nat) :
    c'.uploadOf id = if id = s.id then (f s).upload else c.uploadOf id := by
  have streams := stream_of_update keeps moved id
  split
  · rename_i own
    subst own
    rw [found, Option.map_some, if_pos rfl] at streams
    obtain ⟨s', found', equal⟩ := Option.map_eq_some_iff.1 streams
    rw [uploadOf, found']
    exact congrArg (fun p => p.2.1) equal
  · rename_i other
    simp only [if_neg other] at streams
    exact uploadOf_congr streams

/-- A stream object stays. -/
def Keeps (c c' : Conn H) : Prop := ∀ id, c'.stream id = none → c.stream id = none

theorem keeps_of_update {f : Stream → Stream} {k : Nat} (keeps : ∀ s, (f s).id = s.id)
    (moved : c'.streams.map pump = (Keyed.update Stream.id k f c.streams).map pump) :
    Keeps c c' ∧ Keeps c' c := by
  refine ⟨fun id gone => ?_, fun id gone => ?_⟩
  · have streams := stream_of_update keeps moved id
    rwa [gone, Option.map_none, eq_comm, Option.map_eq_none_iff] at streams
  · have streams := stream_of_update keeps moved id
    rwa [gone, Option.map_none, Option.map_eq_none_iff] at streams

theorem Rest.keeps (rest : Rest c c') : Keeps c c' ∧ Keeps c' c := by
  refine ⟨fun id gone => ?_, fun id gone => ?_⟩
  · have streams := rest.stream id
    rwa [gone, Option.map_none, eq_comm, Option.map_eq_none_iff] at streams
  · have streams := rest.stream id
    rwa [gone, Option.map_none, Option.map_eq_none_iff] at streams

theorem stream_id {id : Nat} {s : Stream} (found : c.stream id = some s) : s.id = id :=
  (c.stream_eq_some found).2

end Conn

namespace Pumps

/-! ## Waiters -/

/-- The waiters are the parked pumps, each at its own window. -/
structure Waits (u : Pumps H) : Prop where
  connSettled : u.connWindow.Settled
  streamSettled : ∀ id s, u.conn.stream id = some s → (u.streamWindow s).Settled
  conn : ∀ id, id ∈ u.connWaiters ↔ (u.pump id).point = .connWait false
  stream : ∀ id, id ∈ u.streamWaiters id ↔ (u.pump id).point = .streamWait false
  own : ∀ id waiter, waiter ∈ u.streamWaiters id → waiter = id
  fresh : ∀ id, u.conn.stream id = none → u.pump id = {}

variable {u : Pumps H} {w : Windows}

theorem follow_pump_of_old {conn : Conn H} {id : Nat} {s s' : Stream}
    (found : u.conn.stream id = some s) (found' : conn.stream id = some s') :
    (u.follow conn).pump id =
      if id ∈ (u.connWindow.moveTo conn.connSendWindow conn.closed).2 ∨
          id ∈ ((u.streamWindow s).moveTo s'.sendWindow s'.sendClosed).2 then (u.pump id).resolve
      else u.pump id := by
  simp only [follow, found, found']

theorem follow_streamWaiters_of_old {conn : Conn H} {id : Nat} {s s' : Stream}
    (found : u.conn.stream id = some s) (found' : conn.stream id = some s') :
    (u.follow conn).streamWaiters id =
      ((u.streamWindow s).moveTo s'.sendWindow s'.sendClosed).1.waiters := by
  simp only [follow, found, found']

theorem follow_streamWaiters_of_new {conn : Conn H} {id : Nat} (new : u.conn.stream id = none) :
    (u.follow conn).streamWaiters id = u.streamWaiters id := by
  simp only [follow, new]

/-- The pump of an existing stream only has its promise resolved. -/
theorem follow_pump (conn : Conn H) {id : Nat} (keeps : conn.stream id = none → u.conn.stream id = none)
    (old : u.conn.stream id ≠ none) :
    (u.follow conn).pump id = u.pump id ∨ (u.follow conn).pump id = (u.pump id).resolve := by
  obtain ⟨s, found⟩ := Option.ne_none_iff_exists'.1 old
  obtain ⟨s', found'⟩ := Option.ne_none_iff_exists'.1 fun gone => old (keeps gone)
  rw [follow_pump_of_old found found']
  split
  · exact .inr rfl
  · exact .inl rfl

theorem follow_pump_of_new (waits : Waits u) (conn : Conn H) {id : Nat}
    (new : u.conn.stream id = none) :
    (∀ s, conn.stream id = some s → s.upload ≠ .pumping) ∧ (u.follow conn).pump id = {} ∨
      ∃ s, conn.stream id = some s ∧ s.upload = .pumping ∧
        (u.follow conn).pump id = { point := .reading } := by
  have idle := waits.fresh id new
  cases found : conn.stream id with
  | none =>
      refine .inl ⟨(fun s other => nomatch other), ?_⟩
      simp only [follow, new, found, idle]
      split <;> rfl
  | some s =>
      simp only [follow, new, found, idle]
      split
      · exact .inr ⟨s, rfl, ‹_›, rfl⟩
      · refine .inl ⟨?_, rfl⟩
        rintro t ⟨⟩
        assumption

/-- A pump stays parked when its window stays exhausted. -/
theorem follow_connWait (waits : Waits u) {conn : Conn H} (keeps : Conn.Keeps u.conn conn) (id : Nat) :
    ((u.follow conn).pump id).point = .connWait false ↔ (u.pump id).point = .connWait false ∧
      id ∉ (u.connWindow.moveTo conn.connSendWindow conn.closed).2 := by
  cases found : u.conn.stream id with
  | none =>
      have idle : (u.pump id).point = .finished := by rw [waits.fresh id found]
      rw [idle]
      obtain ⟨-, same⟩ | ⟨s, -, -, same⟩ := follow_pump_of_new waits conn found
      · simp [same]
      · simp [same]
  | some s =>
      obtain ⟨s', found'⟩ := Option.ne_none_iff_exists'.1 fun gone => by
        rw [keeps id gone] at found
        cases found
      rw [follow_pump_of_old found found']
      split
      · rename_i resolved
        refine ⟨fun parked => absurd (.inl parked) (Pump.resolve_unparked _), ?_⟩
        rintro ⟨parked, stays⟩
        have mine := resolved.resolve_left stays
        have inside := ((u.streamWindow s).moveTo_spec s'.sendWindow s'.sendClosed).2.2 id
        have waiting : id ∈ u.streamWaiters s.id := inside.2 (.inr mine)
        rw [Conn.stream_id found, waits.stream, parked] at waiting
        cases waiting
      · rename_i stays
        exact ⟨fun parked => ⟨parked, fun resolved => stays (.inl resolved)⟩, fun h => h.1⟩

theorem follow_streamWait (waits : Waits u) {conn : Conn H} {id : Nat} {s s' : Stream}
    (found : u.conn.stream id = some s) (found' : conn.stream id = some s') :
    ((u.follow conn).pump id).point = .streamWait false ↔ (u.pump id).point = .streamWait false ∧
      id ∉ ((u.streamWindow s).moveTo s'.sendWindow s'.sendClosed).2 := by
  rw [follow_pump_of_old found found']
  split
  · rename_i resolved
    refine ⟨fun parked => absurd (.inr parked) (Pump.resolve_unparked _), ?_⟩
    rintro ⟨parked, stays⟩
    have mine := resolved.resolve_right stays
    have inside := (u.connWindow.moveTo_spec conn.connSendWindow conn.closed).2.2 id
    have waiting : id ∈ u.connWaiters := inside.2 (.inr mine)
    rw [waits.conn, parked] at waiting
    cases waiting
  · rename_i stays
    exact ⟨fun parked => ⟨parked, fun resolved => stays (.inr resolved)⟩, fun h => h.1⟩

/-- A window that moves resolves its waiters when it has to, and parks nobody. -/
theorem Waits.follow (waits : Waits u) {conn : Conn H} (keeps : Conn.Keeps u.conn conn) :
    Waits (u.follow conn) := by
  obtain ⟨moved, shut, taken⟩ := u.connWindow.moveTo_spec conn.connSendWindow conn.closed
  have settled := waits.connSettled.moveTo conn.connSendWindow conn.closed
  have nobody : ∀ id, u.conn.stream id = none → u.streamWaiters id = [] := by
    intro id new
    refine List.eq_nil_iff_forall_not_mem.2 fun waiter inside => ?_
    have own := waits.own id waiter inside
    rw [own, waits.stream, waits.fresh id new] at inside
    cases inside
  have found' : ∀ {id s}, u.conn.stream id = some s → ∃ s', conn.stream id = some s' := by
    intro id s found
    refine Option.ne_none_iff_exists'.1 fun gone => ?_
    rw [keeps id gone] at found
    cases found
  refine ⟨?_, ?_, ?_, ?_, ?_, ?_⟩
  · intro waiting
    obtain ⟨exhausted, opened⟩ := settled waiting
    rw [moved] at exhausted
    rw [shut, Bool.or_eq_false_iff] at opened
    exact ⟨exhausted, opened.2⟩
  · intro id s' found'
    change conn.stream id = some s' at found'
    have named : s'.id = id := Conn.stream_id found'
    cases found : u.conn.stream id with
    | none =>
        intro waiting
        refine absurd ?_ waiting
        change (u.follow conn).streamWaiters s'.id = []
        rw [named, follow_streamWaiters_of_new found, nobody id found]
    | some s =>
        obtain ⟨moved, shut, -⟩ := (u.streamWindow s).moveTo_spec s'.sendWindow s'.sendClosed
        have settled := (waits.streamSettled id s found).moveTo s'.sendWindow s'.sendClosed
        intro waiting
        change (u.follow conn).streamWaiters s'.id ≠ [] at waiting
        rw [named, follow_streamWaiters_of_old found found'] at waiting
        obtain ⟨exhausted, opened⟩ := settled waiting
        rw [moved] at exhausted
        rw [shut, Bool.or_eq_false_iff] at opened
        exact ⟨exhausted, opened.2⟩
  · intro id
    rw [follow_connWait waits keeps, ← waits.conn]
    have taken := taken id
    change id ∈ u.connWaiters ↔ _ at taken
    change id ∈ (u.connWindow.moveTo conn.connSendWindow conn.closed).1.waiters ↔ _
    rw [taken]
    refine ⟨fun stays => ⟨.inl stays, fun resolved => ?_⟩, fun h => h.1.resolve_right h.2⟩
    exact SendWindow.moveTo_disjoint _ _ _ resolved stays
  · intro id
    cases found : u.conn.stream id with
    | none =>
        rw [follow_streamWaiters_of_new found, nobody id found]
        obtain ⟨-, same⟩ | ⟨s, -, -, same⟩ := follow_pump_of_new waits conn found
        · simp [same]
        · simp [same]
    | some s =>
        obtain ⟨s', found'⟩ := found' found
        have taken := ((u.streamWindow s).moveTo_spec s'.sendWindow s'.sendClosed).2.2 id
        change id ∈ u.streamWaiters s.id ↔ _ at taken
        rw [Conn.stream_id found] at taken
        rw [follow_streamWait waits found found', follow_streamWaiters_of_old found found',
          ← waits.stream, taken]
        refine ⟨fun stays => ⟨.inl stays, fun resolved => ?_⟩, fun h => h.1.resolve_right h.2⟩
        exact SendWindow.moveTo_disjoint _ _ _ resolved stays
  · intro id waiter inside
    cases found : u.conn.stream id with
    | none =>
        rw [follow_streamWaiters_of_new found] at inside
        exact waits.own id waiter inside
    | some s =>
        obtain ⟨s', found'⟩ := found' found
        have taken := ((u.streamWindow s).moveTo_spec s'.sendWindow s'.sendClosed).2.2 waiter
        rw [follow_streamWaiters_of_old found found'] at inside
        have old : waiter ∈ u.streamWaiters s.id := taken.2 (.inl inside)
        rw [Conn.stream_id found] at old
        exact waits.own id waiter old
  · intro id gone
    change conn.stream id = none at gone
    obtain ⟨-, same⟩ | ⟨s, found, -, -⟩ := follow_pump_of_new waits conn (keeps id gone)
    · exact same
    · rw [gone] at found
      cases found

/-- A pump changes its place, and its waiters with it. -/
theorem Waits.put (waits : Waits u) {id : Nat} {s : Stream} (found : u.conn.stream id = some s)
    {p : Pump} {connWaiters : List Nat} {streamWaiters : Nat → List Nat}
    (connSettled : (⟨u.conn.connSendWindow, connWaiters, u.conn.closed⟩ : SendWindow).Settled)
    (streamSettled : (⟨s.sendWindow, streamWaiters id, s.sendClosed⟩ : SendWindow).Settled)
    (conns : ∀ j, j ≠ id → (j ∈ connWaiters ↔ j ∈ u.connWaiters))
    (others : ∀ j, j ≠ id → streamWaiters j = u.streamWaiters j)
    (conn : id ∈ connWaiters ↔ p.point = .connWait false)
    (stream : id ∈ streamWaiters id ↔ p.point = .streamWait false)
    (own : ∀ waiter ∈ streamWaiters id, waiter = id) :
    Waits ({ u with connWaiters, streamWaiters }.set id p) where
  connSettled := connSettled
  streamSettled := by
    intro j t found'
    change u.conn.stream j = some t at found'
    by_cases same : j = id
    · subst same
      rw [found] at found'
      cases found'
      rw [← Conn.stream_id found] at streamSettled
      exact streamSettled
    · have named := Conn.stream_id found'
      have before := waits.streamSettled j t found'
      have waiters : streamWaiters t.id = u.streamWaiters t.id := others t.id (named ▸ same)
      change (⟨t.sendWindow, streamWaiters t.id, t.sendClosed⟩ : SendWindow).Settled
      rw [waiters]
      exact before
  conn := by
    intro j
    by_cases same : j = id
    · subst same
      rw [set_pump_self]
      exact conn
    · rw [set_pump_of_ne _ same]
      exact (conns j same).trans (waits.conn j)
  stream := by
    intro j
    by_cases same : j = id
    · subst same
      rw [set_pump_self]
      exact stream
    · rw [set_pump_of_ne _ same]
      change j ∈ streamWaiters j ↔ _
      rw [others j same]
      exact waits.stream j
  own := by
    intro j waiter inside
    by_cases same : j = id
    · subst same
      exact own waiter inside
    · change waiter ∈ streamWaiters j at inside
      rw [others j same] at inside
      exact waits.own j waiter inside
  fresh := by
    intro j gone
    have other : j ≠ id := by
      rintro rfl
      change u.conn.stream j = none at gone
      rw [found] at gone
      cases gone
    rw [set_pump_of_ne _ other]
    exact waits.fresh j gone

theorem Waits.set (waits : Waits u) {id : Nat} {s : Stream} (found : u.conn.stream id = some s)
    (before : ¬ (u.pump id).point.Parked) {p : Pump} (after : ¬ p.point.Parked) :
    Waits (u.set id p) := by
  rw [PumpPoint.Parked, not_or] at before after
  have settled := waits.streamSettled id s found
  rw [streamWindow, Conn.stream_id found] at settled
  refine waits.put found waits.connSettled settled (fun _ _ => Iff.rfl) (fun _ _ => rfl) ?_ ?_
    (waits.own id)
  · rw [waits.conn]
    simp only [before.1, after.1]
  · rw [waits.stream]
    simp only [before.2, after.2]

/-- A pump parks at the connection's window only when that is exhausted. -/
theorem Waits.parkConn (waits : Waits u) {id : Nat} {s : Stream}
    (found : u.conn.stream id = some s) (before : ¬ (u.pump id).point.Parked) (p : Pump) :
    Waits ({ u with connWaiters := (u.connWindow.waitPositive id).1.waiters }.set id
      { p with point := .connWait (u.connWindow.waitPositive id).2 }) := by
  have parked := waits.connSettled.waitPositive id
  have settled := waits.streamSettled id s found
  rw [streamWindow, Conn.stream_id found] at settled
  rw [PumpPoint.Parked, not_or] at before
  refine waits.put found ?_ settled ?_ (fun _ _ => rfl) ?_ ?_ (waits.own id)
  · rw [SendWindow.waitPositive_fst] at parked
    exact parked
  · intro j other
    unfold SendWindow.waitPositive
    split
    · exact Iff.rfl
    · change j ∈ u.connWaiters ++ [id] ↔ _
      rw [List.mem_append, List.mem_singleton]
      simp only [other, or_false]
  · unfold SendWindow.waitPositive
    split
    · change id ∈ u.connWaiters ↔ _
      rw [waits.conn]
      simp [before.1]
    · change id ∈ u.connWaiters ++ [id] ↔ _
      simp
  · rw [waits.stream]
    simp [before.2]

theorem Waits.parkStream (waits : Waits u) {id : Nat} {s : Stream}
    (found : u.conn.stream id = some s) (before : ¬ (u.pump id).point.Parked) (p : Pump) :
    Waits ({ u with
      streamWaiters :=
        Function.update u.streamWaiters id ((u.streamWindow s).waitPositive id).1.waiters }.set id
      { p with point := .streamWait ((u.streamWindow s).waitPositive id).2 }) := by
  have parked := (waits.streamSettled id s found).waitPositive id
  rw [PumpPoint.Parked, not_or] at before
  have named := Conn.stream_id found
  refine waits.put found waits.connSettled ?_ (fun _ _ => Iff.rfl) ?_ ?_ ?_ ?_
  · rw [SendWindow.waitPositive_fst] at parked
    rw [Function.update_self]
    exact parked
  · intro j other
    exact Function.update_of_ne other _ _
  · rw [waits.conn]
    simp [before.1]
  · rw [Function.update_self]
    unfold SendWindow.waitPositive
    split
    · change id ∈ u.streamWaiters s.id ↔ _
      rw [named, waits.stream]
      simp [before.2]
    · change id ∈ u.streamWaiters s.id ++ [id] ↔ _
      simp
  · intro waiter inside
    rw [Function.update_self] at inside
    unfold SendWindow.waitPositive at inside
    split at inside
    · change waiter ∈ u.streamWaiters s.id at inside
      rw [named] at inside
      exact waits.own id waiter inside
    · change waiter ∈ u.streamWaiters s.id ++ [id] at inside
      rw [named, List.mem_append, List.mem_singleton] at inside
      exact inside.elim (waits.own id waiter) fun same => same

/-! ## Bodies -/

def slice (id : Nat) (bytes : Bytes) : DataFrame :=
  { streamId := id, data := bytes, endStream := false }

def last (id : Nat) : DataFrame := { streamId := id, data := [], endStream := true }

/-- What a pump has sent of its body, by where it stands. -/
def Spells (p : Pump) (sent : Bytes) (ended : Bool) : Prop :=
  match p.point with
  | .reading => sent = p.given ∧ ended = false
  | .connWait _ => sent = p.before ++ p.chunk.take p.offset ∧ ended = false
  | .streamWait _ => sent = p.before ++ p.chunk.take p.offset ∧ ended = false
  | .sending grant => sent = p.before ++ p.chunk.take (p.offset + grant) ∧ ended = false
  | .ending => sent = p.given ∧ p.exhausted = true
  | .finished => sent <+: p.given ∧ (ended = true → sent = p.given ∧ p.exhausted = true)

/-- The DATA frames of a stream, and how far its pump is. -/
structure Wire (id : Nat) (datas : List DataFrame) (p : Pump) (slices : List Bytes) (ended : Bool) :
    Prop where
  frames : datas = slices.map (slice id) ++ if ended then [last id] else []
  filled : ∀ bytes ∈ slices, bytes ≠ []
  spells : Spells p slices.flatten ended

theorem Wire.resolve {id : Nat} {datas : List DataFrame} {p : Pump} {slices : List Bytes}
    {ended : Bool} (wire : Wire id datas p slices ended) : Wire id datas p.resolve slices ended := by
  refine ⟨wire.frames, wire.filled, ?_⟩
  have spells := wire.spells
  obtain ⟨point, chunk, offset, before, exhausted⟩ := p
  cases point <;> exact spells

theorem resolve_upload (p : Pump) : p.resolve.point.upload = p.point.upload := by
  obtain ⟨point, chunk, offset, before, exhausted⟩ := p
  cases point <;> rfl

structure Sound (w : Windows) (u : Pumps H) : Prop where
  reached : (sessionMachine H w).Reaches Machine.always u.conn
  uploads : ∀ id, u.conn.uploadOf id = (u.pump id).point.upload
  waits : Waits u
  wire : ∀ id, ∃ slices ended, Wire id (u.conn.datas id) (u.pump id) slices ended

theorem start_sound (H : Hpack) (w : Windows) : Sound w (pumpMachine H w).init where
  reached := .refl
  uploads := fun _ => rfl
  waits := by
    refine ⟨fun waiting => absurd rfl waiting, (fun _ _ none => nomatch none), ?_, ?_, ?_,
      fun _ _ => rfl⟩
    · exact fun _ => ⟨(fun inside => nomatch inside), (fun parked => nomatch parked)⟩
    · exact fun _ => ⟨(fun inside => nomatch inside), (fun parked => nomatch parked)⟩
    · exact fun _ _ inside => nomatch inside
  wire := by
    intro id
    refine ⟨[], false, ?_, (fun _ inside => nomatch inside), List.nil_prefix,
      (fun ended => nomatch ended)⟩
    change (Conn.start H w).datas id = []
    unfold Conn.datas Conn.start
    by_cases grown : specInitialWindow < w.connRecvWindow <;> simp [grown, Conn.asData]

/-- A pump that has not started has sent nothing. -/
theorem Sound.fresh_wire (sound : Sound w u) {id : Nat} (new : u.conn.stream id = none) :
    u.conn.datas id = [] := by
  obtain ⟨slices, ended, wire⟩ := sound.wire id
  have spells := wire.spells
  rw [sound.waits.fresh id new] at spells
  obtain ⟨nothing, final⟩ := spells
  have empty : slices = [] := by
    cases slices with
    | nil => rfl
    | cons b rest =>
        have filled := wire.filled b List.mem_cons_self
        rw [List.flatten_cons] at nothing
        exact absurd (List.append_eq_nil_iff.1 (List.prefix_nil.1 nothing)).1 filled
  cases ended with
  | true => exact absurd (final rfl).2 (by simp)
  | false =>
      rw [wire.frames, empty]
      rfl

/-! ## Events of the session -/

/-- One pump while the session moves. -/
theorem Sound.follow_pump (sound : Sound w u) {conn : Conn H} (keeps : Conn.Keeps u.conn conn)
    {id : Nat} (old : u.conn.stream id ≠ none → conn.uploadOf id = u.conn.uploadOf id)
    (new : u.conn.stream id = none → conn.uploadOf id ≠ .ending)
    (datas : conn.datas id = u.conn.datas id) :
    conn.uploadOf id = ((u.follow conn).pump id).point.upload ∧
      ∃ slices ended, Wire id (conn.datas id) ((u.follow conn).pump id) slices ended := by
  by_cases fresh : u.conn.stream id = none
  · have starts := new fresh
    unfold Conn.uploadOf at starts ⊢
    rw [datas, sound.fresh_wire fresh]
    obtain ⟨idle, same⟩ | ⟨s, found, pumping, same⟩ := follow_pump_of_new sound.waits conn fresh
    · rw [same]
      refine ⟨?_, [], false, rfl, (fun _ inside => nomatch inside), List.nil_prefix,
        fun ended => nomatch ended⟩
      cases found : conn.stream id with
      | none => rfl
      | some s =>
          rw [found] at starts
          cases chosen : s.upload with
          | idle => exact chosen
          | pumping => exact absurd chosen (idle s found)
          | ending => exact absurd chosen starts
    · rw [same, found]
      exact ⟨pumping, [], false, rfl, (fun _ inside => nomatch inside), rfl, rfl⟩
  · obtain ⟨slices, ended, wire⟩ := sound.wire id
    rw [old fresh, sound.uploads, datas]
    obtain same | same := Pumps.follow_pump conn (keeps id) fresh
    · rw [same]
      exact ⟨rfl, slices, ended, wire⟩
    · rw [same, resolve_upload]
      exact ⟨rfl, slices, ended, wire.resolve⟩

theorem Sound.follow (sound : Sound w u) {conn : Conn H}
    (reached : (sessionMachine H w).Reaches Machine.always conn) (keeps : Conn.Keeps u.conn conn)
    (old : ∀ id, u.conn.stream id ≠ none → conn.uploadOf id = u.conn.uploadOf id)
    (new : ∀ id, u.conn.stream id = none → conn.uploadOf id ≠ .ending)
    (datas : ∀ id, conn.datas id = u.conn.datas id) : Sound w (u.follow conn) where
  reached := reached
  waits := sound.waits.follow keeps
  uploads := fun id => (sound.follow_pump keeps (old id) (new id) (datas id)).1
  wire := fun id => (sound.follow_pump keeps (old id) (new id) (datas id)).2

theorem Sound.after (sound : Sound w u) {e : Event} {conn : Conn H}
    (stepped : u.conn.step w e = some conn) : (sessionMachine H w).Reaches Machine.always conn :=
  .tail sound.reached trivial stepped

theorem idle_ne_pumping : Upload.idle ≠ .pumping := by decide

theorem idle_ne_ending : Upload.idle ≠ .ending := by decide

theorem pumping_ne_ending : Upload.pumping ≠ .ending := by decide

/-- The session goes on without the pumps. -/
theorem Sound.session (sound : Sound w u) {e : Event} (other : e.ofPump = false) {conn : Conn H}
    (stepped : u.conn.step w e = some conn) : Sound w (u.follow conn) := by
  have reached := sound.after stepped
  rcases Conn.step_rest other stepped with rest | ⟨q, opens, datas⟩
  · refine sound.follow reached rest.keeps.1 (fun id _ => Conn.uploadOf_congr (rest.stream id)) ?_
      rest.datas_eq
    intro id fresh
    rw [Conn.uploadOf, rest.keeps.2 id fresh]
    exact idle_ne_ending
  · have found : ∀ id, conn.stream id =
        (u.conn.stream id).or (if u.conn.nextStreamId = id then some (u.conn.newStream w q) else none) := by
      intro id
      rw [Conn.stream, opens, List.find?_append, ← Conn.stream]
      congr 1
      rw [List.find?_singleton]
      simp only [Conn.newStream, beq_iff_eq]
    refine sound.follow reached ?_ ?_ ?_ ?_
    · intro id gone
      rw [found, Option.or_eq_none_iff] at gone
      exact gone.1
    · intro id old
      obtain ⟨s, here⟩ := Option.ne_none_iff_exists'.1 old
      rw [Conn.uploadOf, found, Conn.uploadOf, here]
      rfl
    · intro id fresh
      rw [Conn.uploadOf, found, fresh, Option.none_or]
      split
      · rename_i s here
        split at here
        · cases here
          simp only [Conn.newStream]
          split
          · exact pumping_ne_ending
          · exact idle_ne_ending
        · cases here
      · exact idle_ne_ending
    · intro id
      rw [Conn.datas, datas, Conn.datas]

/-! ## Steps of a pump -/

/-- One pump acts on its stream and goes elsewhere. -/
theorem Sound.become (sound : Sound w u) {id : Nat} {s : Stream}
    (found : u.conn.stream id = some s) {conn : Conn H}
    (reached : (sessionMachine H w).Reaches Machine.always conn)
    (keeps : Conn.Keeps u.conn conn ∧ Conn.Keeps conn u.conn) {p : Pump}
    (uploads : ∀ j, conn.uploadOf j = if j = id then p.point.upload else u.conn.uploadOf j)
    (datas : ∀ j, j ≠ id → conn.datas j = u.conn.datas j)
    (wire : ∃ slices ended, Wire id (conn.datas id) p slices ended)
    (before : ¬ (u.pump id).point.Parked) (after : ¬ p.point.Parked) :
    Sound w ((u.follow conn).set id p) := by
  obtain ⟨s', found'⟩ := Option.ne_none_iff_exists'.1 fun gone => by
    rw [keeps.1 id gone] at found
    cases found
  have others : ∀ j, j ≠ id → conn.uploadOf j = ((u.follow conn).pump j).point.upload ∧
      ∃ slices ended, Wire j (conn.datas j) ((u.follow conn).pump j) slices ended := by
    intro j other
    refine sound.follow_pump keeps.1 (fun _ => ?_) (fun fresh => ?_) (datas j other)
    · rw [uploads, if_neg other]
    · rw [Conn.uploadOf, keeps.2 j fresh]
      exact fun other => nomatch other
  refine ⟨reached, ?_, (sound.waits.follow keeps.1).set found' ?_ after, ?_⟩
  · intro j
    by_cases own : j = id
    · subst own
      rw [set_pump_self, set_conn]
      exact (uploads j).trans (if_pos rfl)
    · rw [set_pump_of_ne _ own]
      exact (others j own).1
  · rw [PumpPoint.Parked, follow_connWait sound.waits keeps.1, follow_streamWait sound.waits found found']
    rw [PumpPoint.Parked, not_or] at before
    simp only [before.1, before.2, false_and, or_self, not_false_eq_true]
  · intro j
    by_cases own : j = id
    · subst own
      rw [set_pump_self]
      exact wire
    · rw [set_pump_of_ne _ own]
      exact (others j own).2

theorem Sound.upload (sound : Sound w u) {id : Nat} {s : Stream}
    (found : u.conn.stream id = some s) : s.upload = (u.pump id).point.upload := by
  have uploads := sound.uploads id
  rwa [Conn.uploadOf, found] at uploads

/-- The frames of a pump that has not ended its body. -/
def Spelling (id : Nat) (datas : List DataFrame) (sent : Bytes) : Prop :=
  ∃ slices : List Bytes, datas = slices.map (slice id) ∧ (∀ bytes ∈ slices, bytes ≠ []) ∧
    slices.flatten = sent

theorem Wire.spelling {id : Nat} {datas : List DataFrame} {p : Pump} {slices : List Bytes}
    (wire : Wire id datas p slices false) {sent : Bytes} (same : slices.flatten = sent) :
    Spelling id datas sent := by
  refine ⟨slices, ?_, wire.filled, same⟩
  rw [wire.frames]
  exact List.append_nil _

theorem Spelling.wire {id : Nat} {datas : List DataFrame} {sent : Bytes} {p : Pump}
    (spelling : Spelling id datas sent) (spells : Spells p sent false) :
    ∃ slices ended, Wire id datas p slices ended := by
  obtain ⟨slices, frames, filled, rfl⟩ := spelling
  exact ⟨slices, false, by rw [frames]; exact (List.append_nil _).symm, filled, spells⟩

theorem step_uploadEnds {c : Conn H} {s : Stream} (found : c.stream s.id = some s)
    (pumping : s.upload = .pumping) : c.step w (.uploadEnds s.id) = some (c.uploadEnds s) := by
  simp only [Conn.step, Conn.onStream, found, pumping, decide_true, if_true]

/-- A pump that leaves its loop has sent a beginning of its body. -/
theorem Sound.stop (sound : Sound w u) {s : Stream} (found : u.conn.stream s.id = some s)
    (active : (u.pump s.id).point.upload = .pumping) (before : ¬ (u.pump s.id).point.Parked)
    (down : (u.conn.closed || s.sendClosed) = true) {p : Pump} {sent : Bytes}
    (spelling : Spelling s.id (u.conn.datas s.id) sent) (part : sent <+: p.given) :
    Sound w (u.stop s p) := by
  have pumping := (sound.upload found).trans active
  have ends : u.conn.uploadEnds s = u.conn.modify s.id fun s => { s with upload := .idle } := by
    rw [Conn.uploadEnds, down, Bool.true_or, if_pos rfl]
  have stepped : u.conn.step w (.uploadEnds s.id) =
      some (u.conn.modify s.id fun s => { s with upload := .idle }) := by
    rw [step_uploadEnds found pumping, ends]
  have keeps : ∀ t : Stream, { t with upload := Upload.idle }.id = t.id := fun _ => rfl
  refine sound.become found (sound.after stepped) (Conn.keeps_of_update keeps rfl)
    (Conn.uploadOf_of_update keeps found rfl) (fun _ _ => rfl) ?_ before
    (by simp [PumpPoint.Parked])
  exact spelling.wire ⟨part, fun ended => nomatch ended⟩

/-- **The loop.**  It goes on to the next chunk, to the windows, or out. -/
theorem Sound.loop (sound : Sound w u) {s : Stream} (found : u.conn.stream s.id = some s)
    (active : (u.pump s.id).point.upload = .pumping) (before : ¬ (u.pump s.id).point.Parked)
    {p : Pump}
    (spelling : Spelling s.id (u.conn.datas s.id) (p.before ++ p.chunk.take p.offset)) :
    Sound w (u.loop s p) := by
  have part : p.before ++ p.chunk.take p.offset <+: p.given :=
    List.prefix_append_right_inj _ |>.2 (List.take_prefix _ _)
  unfold Pumps.loop
  split
  · split
    · rename_i down
      exact sound.stop found active before down spelling part
    · refine ⟨sound.reached, ?_, sound.waits.parkConn found before p, ?_⟩
      · intro j
        by_cases own : j = s.id
        · subst own
          rw [set_pump_self]
          exact (sound.uploads _).trans active
        · rw [set_pump_of_ne _ own]
          exact sound.uploads j
      · intro j
        by_cases own : j = s.id
        · subst own
          rw [set_pump_self]
          exact spelling.wire ⟨rfl, rfl⟩
        · rw [set_pump_of_ne _ own]
          exact sound.wire j
  · rename_i done
    refine ⟨sound.reached, ?_, sound.waits.set found before (by simp [PumpPoint.Parked]), ?_⟩
    · intro j
      by_cases own : j = s.id
      · subst own
        rw [set_pump_self]
        exact (sound.uploads _).trans active
      · rw [set_pump_of_ne _ own]
        exact sound.uploads j
    · intro j
      by_cases own : j = s.id
      · subst own
        rw [set_pump_self]
        rw [List.take_of_length_le (Nat.not_lt.1 done)] at spelling
        exact spelling.wire ⟨rfl, rfl⟩
      · rw [set_pump_of_ne _ own]
        exact sound.wire j

theorem datas_send {c : Conn H} (opened : c.closed = false) (f : DataFrame) (id : Nat) :
    (c.send (.data f)).datas id = c.datas id ++ if f.streamId = id then [f] else [] := by
  simp only [Conn.send, opened, Bool.false_eq_true, if_false, Conn.datas, List.filterMap_append,
    List.filter_append, List.filterMap_cons, Conn.asData, List.filterMap_nil, List.filter_cons,
    List.filter_nil, beq_iff_eq]

theorem datas_uploadSlice {c : Conn H} (opened : c.closed = false) (s : Stream) (bytes : Bytes)
    (id : Nat) : (c.uploadSlice s bytes).datas id =
      c.datas id ++ if s.id = id then [slice s.id bytes] else [] := by
  have up : ({ c with connSendWindow := c.connSendWindow - bytes.length }.modify s.id
      fun s => { s with sendWindow := s.sendWindow - bytes.length }).closed = false := opened
  exact datas_send up (slice s.id bytes) id

theorem stream_uploadSlice (c : Conn H) (s : Stream) (bytes : Bytes) (id : Nat) :
    (c.uploadSlice s bytes).stream id = (c.stream id).map fun t =>
      if id = s.id then { t with sendWindow := t.sendWindow - bytes.length } else t := by
  rw [Conn.uploadSlice, Conn.stream, Conn.send_streams]
  exact Conn.find_update (f := fun t => { t with sendWindow := t.sendWindow - bytes.length })
    (fun _ => rfl) s.id id c.streams

theorem uploadSlice_fields (c : Conn H) (s : Stream) (bytes : Bytes) :
    (c.uploadSlice s bytes).connSendWindow = c.connSendWindow - bytes.length ∧
      (c.uploadSlice s bytes).closed = c.closed := by
  unfold Conn.uploadSlice Conn.send
  split <;> exact ⟨rfl, rfl⟩

/-- What two positive windows let through fits them both. -/
theorem canUpload_grant {s : Stream} {p : Pump} (up : (u.conn.closed || s.sendClosed) = false)
    (positive : 0 < u.grant s p) :
    let bytes := (p.chunk.drop p.offset).take (u.grant s p).toNat
    (bytes.length : Int) = u.grant s p ∧ u.conn.canUpload s bytes = true := by
  rw [Bool.or_eq_false_iff] at up
  have bounds : u.grant s p ≤ ((p.chunk.length - p.offset : Nat) : Int) ∧
      u.grant s p ≤ u.conn.connSendWindow ∧ u.grant s p ≤ s.sendWindow ∧
      u.grant s p ≤ u.conn.remote.maxFrameSize := by
    unfold grant
    omega
  have length : (((p.chunk.drop p.offset).take (u.grant s p).toNat).length : Int) = u.grant s p := by
    rw [List.length_take, List.length_drop]
    omega
  refine ⟨length, Conn.canUpload_iff.2 ⟨up.1, up.2, by omega, by omega, by omega, by omega⟩⟩

theorem Spelling.snoc {id : Nat} {datas : List DataFrame} {sent bytes : Bytes}
    (spelling : Spelling id datas sent) (filled : bytes ≠ []) :
    Spelling id (datas ++ [slice id bytes]) (sent ++ bytes) := by
  obtain ⟨slices, rfl, all, rfl⟩ := spelling
  refine ⟨slices ++ [bytes], by rw [List.map_append]; rfl, ?_, ?_⟩
  · intro b inside
    rcases List.mem_append.1 inside with old | new
    · exact all b old
    · rw [List.mem_singleton.1 new]
      exact filled
  · rw [List.flatten_append, List.flatten_singleton]

/-- A slice is paid from windows that nobody waits for in vain. -/
theorem Waits.spend (waits : Waits u) (s : Stream) (bytes : Bytes) :
    Waits { u with conn := u.conn.uploadSlice s bytes } := by
  obtain ⟨window, closed⟩ := uploadSlice_fields u.conn s bytes
  have streams := stream_uploadSlice u.conn s bytes
  refine ⟨?_, ?_, waits.conn, waits.stream, waits.own, ?_⟩
  · rw [connWindow, window, closed]
    exact waits.connSettled.consume (Int.natCast_nonneg _)
  · intro j t found'
    rw [streams, Option.map_eq_some_iff] at found'
    obtain ⟨t, here, rfl⟩ := found'
    have settled := waits.streamSettled j t here
    split
    · exact settled.consume (Int.natCast_nonneg _)
    · exact settled
  · intro j gone
    rw [streams, Option.map_eq_none_iff] at gone
    exact waits.fresh j gone

/-- A slice is the next piece of the chunk. -/
theorem Sound.spend (sound : Sound w u) {s : Stream} (found : u.conn.stream s.id = some s)
    (active : (u.pump s.id).point.upload = .pumping) (before : ¬ (u.pump s.id).point.Parked)
    (spelling : Spelling s.id (u.conn.datas s.id)
      ((u.pump s.id).before ++ (u.pump s.id).chunk.take (u.pump s.id).offset))
    (up : (u.conn.closed || s.sendClosed) = false) (positive : 0 < u.grant s (u.pump s.id)) :
    Sound w ({ u with
      conn := u.conn.uploadSlice s
        (((u.pump s.id).chunk.drop (u.pump s.id).offset).take (u.grant s (u.pump s.id)).toNat) }.set
      s.id { u.pump s.id with point := .sending (u.grant s (u.pump s.id)).toNat }) := by
  obtain ⟨length, able⟩ := canUpload_grant up positive
  obtain ⟨opened, -, nonempty, -⟩ := Conn.canUpload_iff.1 able
  generalize cut : ((u.pump s.id).chunk.drop (u.pump s.id).offset).take
    (u.grant s (u.pump s.id)).toNat = bytes at length able nonempty
  have filled : bytes ≠ [] := List.length_pos_iff.1 nonempty
  have pumping := (sound.upload found).trans active
  have stepped : u.conn.step w (.upload s.id bytes) = some (u.conn.uploadSlice s bytes) := by
    simp only [Conn.step, Conn.onStream, found, pumping, decide_true, Bool.true_and, able, if_true]
  have rest : ∀ j, (u.conn.uploadSlice s bytes).uploadOf j = u.conn.uploadOf j := by
    intro j
    refine Conn.uploadOf_congr ?_
    rw [Conn.map_pump_stream, Conn.uploadSlice_pumps, Conn.map_pump_stream]
  have found' : (u.conn.uploadSlice s bytes).stream s.id =
      some { s with sendWindow := s.sendWindow - bytes.length } := by
    rw [stream_uploadSlice, found, Option.map_some, if_pos rfl]
  refine ⟨sound.after stepped, ?_,
    (sound.waits.spend s bytes).set found' before (by simp [PumpPoint.Parked]), ?_⟩
  · intro j
    refine (rest j).trans ?_
    by_cases own : j = s.id
    · subst own
      rw [set_pump_self]
      exact (sound.uploads _).trans active
    · rw [set_pump_of_ne _ own]
      exact sound.uploads j
  · intro j
    change ∃ slices ended, Wire j ((u.conn.uploadSlice s bytes).datas j) _ slices ended
    rw [datas_uploadSlice opened]
    by_cases own : j = s.id
    · subst own
      rw [set_pump_self, if_pos rfl]
      refine (spelling.snoc filled).wire ⟨?_, rfl⟩
      rw [List.append_assoc, ← cut, ← List.take_add]
    · rw [set_pump_of_ne _ own, if_neg (Ne.symm own), List.append_nil]
      exact sound.wire j

theorem Sound.sendSlice (sound : Sound w u) {s : Stream} (found : u.conn.stream s.id = some s)
    (waited : (u.pump s.id).point = .streamWait true) :
    Sound w (u.sendSlice s (u.pump s.id)) := by
  have active : (u.pump s.id).point.upload = .pumping := by rw [waited]; rfl
  have before : ¬ (u.pump s.id).point.Parked := by simp [waited, PumpPoint.Parked]
  obtain ⟨slices, ended, wire⟩ := sound.wire s.id
  have spells := wire.spells
  rw [Spells, waited] at spells
  obtain ⟨sent, rfl⟩ := spells
  have spelling := wire.spelling sent
  unfold Pumps.sendSlice
  split
  · rename_i down
    exact sound.stop found active before down spelling
      (List.prefix_append_right_inj _ |>.2 (List.take_prefix _ _))
  · rename_i up
    rw [Bool.not_eq_true] at up
    simp only
    split
    · exact sound.loop found active before spelling
    · rename_i positive
      exact sound.spend found active before spelling up (Int.not_le.1 positive)

theorem datas_modify (c : Conn H) (k : Nat) (f : Stream → Stream) (id : Nat) :
    (c.modify k f).datas id = c.datas id := rfl

theorem Sound.awaitStream (sound : Sound w u) {s : Stream} (found : u.conn.stream s.id = some s)
    (waited : (u.pump s.id).point = .connWait true) :
    Sound w (u.awaitStream s (u.pump s.id)) := by
  have before : ¬ (u.pump s.id).point.Parked := by simp [waited, PumpPoint.Parked]
  refine ⟨sound.reached, ?_, sound.waits.parkStream found before (u.pump s.id), ?_⟩
  · intro j
    have uploads := sound.uploads j
    by_cases own : j = s.id
    · subst own
      rw [waited] at uploads
      rw [Pumps.awaitStream, set_pump_self]
      exact uploads
    · rw [Pumps.awaitStream, set_pump_of_ne _ own]
      exact uploads
  · intro j
    obtain ⟨slices, ended, wire⟩ := sound.wire j
    by_cases own : j = s.id
    · subst own
      have spells := wire.spells
      rw [Spells, waited] at spells
      refine ⟨slices, ended, wire.frames, wire.filled, ?_⟩
      rw [Pumps.awaitStream, set_pump_self]
      exact spells
    · refine ⟨slices, ended, wire.frames, wire.filled, ?_⟩
      rw [Pumps.awaitStream, set_pump_of_ne _ own]
      exact wire.spells

/-- The end of the body: END_STREAM goes out, or nothing more. -/
theorem Sound.finish (sound : Sound w u) {s : Stream} (found : u.conn.stream s.id = some s)
    (reading : (u.pump s.id).point = .reading) : Sound w (u.finish s (u.pump s.id)) := by
  have active : (u.pump s.id).point.upload = .pumping := by rw [reading]; rfl
  have before : ¬ (u.pump s.id).point.Parked := by simp [reading, PumpPoint.Parked]
  have stepped := step_uploadEnds (w := w) found ((sound.upload found).trans active)
  obtain ⟨slices, ended, wire⟩ := sound.wire s.id
  have spells := wire.spells
  rw [Spells, reading] at spells
  obtain ⟨sent, rfl⟩ := spells
  have spelling := wire.spelling sent
  have moved := u.conn.uploadEnds_pumps s
  have keeps := Conn.keeps_of_update (fun _ => by rfl) moved
  have uploads := Conn.uploadOf_of_update (fun _ => by rfl) found moved
  unfold Pumps.finish
  by_cases down : (u.conn.closed || s.sendClosed || !u.conn.has s.id) = true
  · have dead : (!u.conn.closed && !s.sendClosed && u.conn.has s.id) = false := by
      revert down
      cases u.conn.closed <;> cases s.sendClosed <;> cases u.conn.has s.id <;> simp
    have same : ∀ j, (u.conn.uploadEnds s).datas j = u.conn.datas j := by
      intro j
      rw [Conn.uploadEnds, if_pos down, datas_modify]
    simp only [dead, Bool.false_eq_true, if_false]
    refine sound.become found (sound.after stepped) keeps ?_ (fun j _ => same j) ?_ before
      (by simp [PumpPoint.Parked])
    · intro j
      rw [uploads, if_pos down]
      rfl
    · rw [same]
      exact spelling.wire ⟨List.prefix_rfl, fun ended => nomatch ended⟩
  · have opened : u.conn.closed = false := by
      revert down
      cases u.conn.closed <;> simp
    have live : (!u.conn.closed && !s.sendClosed && u.conn.has s.id) = true := by
      revert down
      cases u.conn.closed <;> cases s.sendClosed <;> cases u.conn.has s.id <;> simp
    have ends : ∀ j, (u.conn.uploadEnds s).datas j =
        u.conn.datas j ++ if s.id = j then [last s.id] else [] := by
      intro j
      have up : (u.conn.modify s.id fun s => { s with upload := .ending }).closed = false := opened
      rw [Conn.uploadEnds, if_neg down]
      exact datas_send up (last s.id) j
    simp only [live, if_true]
    refine sound.become found (sound.after stepped) keeps ?_ ?_ ?_ before
      (by simp [PumpPoint.Parked])
    · intro j
      rw [uploads, if_neg down]
      rfl
    · intro j other
      rw [ends, if_neg (Ne.symm other), List.append_nil]
    · obtain ⟨slices, frames, filled, same⟩ := spelling
      rw [ends, if_pos rfl, frames]
      exact ⟨slices, true, rfl, filled, same, rfl⟩

/-- The pump is over; what it sent is a beginning of its body. -/
theorem Sound.leave (sound : Sound w u) {s : Stream} (found : u.conn.stream s.id = some s)
    {e : Event} {conn : Conn H} (stepped : u.conn.step w e = some conn) {f : Stream → Stream}
    (idle : ∀ t, (f t).id = t.id ∧ (f t).upload = .idle)
    (moved : conn.streams.map Conn.pump = (Keyed.update Stream.id s.id f u.conn.streams).map Conn.pump)
    (datas : ∀ j, conn.datas j = u.conn.datas j)
    (writes : (u.pump s.id).point = .reading ∨ (∃ n, (u.pump s.id).point = .sending n) ∨
      (u.pump s.id).point = .ending) :
    Sound w ((u.follow conn).set s.id { u.pump s.id with point := .finished }) := by
  have before : ¬ (u.pump s.id).point.Parked := by
    rcases writes with point | ⟨n, point⟩ | point <;> simp [point, PumpPoint.Parked]
  obtain ⟨slices, ended, wire⟩ := sound.wire s.id
  have spells := wire.spells
  rw [Spells] at spells
  refine sound.become found (sound.after stepped)
    (Conn.keeps_of_update (fun t => (idle t).1) moved) ?_ (fun j _ => datas j) ?_ before
    (by simp [PumpPoint.Parked])
  · intro j
    rw [Conn.uploadOf_of_update (fun t => (idle t).1) found moved, (idle s).2]
    rfl
  · rw [datas]
    refine ⟨slices, ended, wire.frames, wire.filled, ?_⟩
    rcases writes with point | ⟨n, point⟩ | point
    · rw [point] at spells
      refine ⟨spells.1 ▸ List.prefix_rfl, fun ended => ?_⟩
      rw [spells.2] at ended
      cases ended
    · rw [point] at spells
      refine ⟨?_, fun ended => ?_⟩
      · rw [spells.1]
        exact List.prefix_append_right_inj _ |>.2 (List.take_prefix _ _)
      · rw [spells.2] at ended
        cases ended
    · rw [point] at spells
      exact ⟨spells.1 ▸ List.prefix_rfl, fun _ => spells⟩

theorem chunk_looping {id : Nat} {datas : List DataFrame} {p : Pump} (bytes : Bytes)
    (spelling : Spelling id datas p.given) :
    Spelling id datas (p.given ++ bytes.take 0) := by
  rw [List.take_zero, List.append_nil]
  exact spelling

/-- **One event.**  It leaves every pump where its frames say it is. -/
theorem step_sound (sound : Sound w u) {e : PumpEvent} {u' : Pumps H}
    (stepped : u.step w e = some u') : Sound w u' := by
  cases e with
  | session e =>
      simp only [step] at stepped
      split at stepped
      · cases stepped
      · rename_i other
        obtain ⟨conn, moved, rfl⟩ := Option.map_eq_some_iff.1 stepped
        exact sound.session (by simpa using other) moved
  | chunk id bytes =>
      obtain ⟨s, found, stepped⟩ := Option.bind_eq_some_iff.1 stepped
      obtain rfl := Conn.stream_id found
      simp only at stepped
      split at stepped
      · rename_i reading
        obtain rfl := Option.some.inj stepped
        obtain ⟨slices, ended, wire⟩ := sound.wire s.id
        have spells := wire.spells
        rw [Spells, reading] at spells
        obtain ⟨sent, rfl⟩ := spells
        refine sound.loop found (by rw [reading]; rfl) (by simp [reading, PumpPoint.Parked]) ?_
        exact chunk_looping bytes (wire.spelling sent)
      · cases stepped
  | exhausted id =>
      obtain ⟨s, found, stepped⟩ := Option.bind_eq_some_iff.1 stepped
      obtain rfl := Conn.stream_id found
      split at stepped
      · rename_i reading
        obtain rfl := Option.some.inj stepped
        exact sound.finish found reading
      · cases stepped
  | resume id =>
      obtain ⟨s, found, stepped⟩ := Option.bind_eq_some_iff.1 stepped
      obtain rfl := Conn.stream_id found
      split at stepped
      · rename_i waited
        obtain rfl := Option.some.inj stepped
        exact sound.awaitStream found waited
      · rename_i waited
        obtain rfl := Option.some.inj stepped
        exact sound.sendSlice found waited
      · cases stepped
  | written id =>
      obtain ⟨s, found, stepped⟩ := Option.bind_eq_some_iff.1 stepped
      obtain rfl := Conn.stream_id found
      simp only at stepped
      split at stepped
      · rename_i grant sending
        obtain rfl := Option.some.inj stepped
        obtain ⟨slices, ended, wire⟩ := sound.wire s.id
        have spells := wire.spells
        rw [Spells, sending] at spells
        obtain ⟨sent, rfl⟩ := spells
        exact sound.loop found (by rw [sending]; rfl) (by simp [sending, PumpPoint.Parked])
          (wire.spelling sent)
      · rename_i ending
        obtain rfl := Option.some.inj stepped
        have enabled : s.upload = .ending := by
          rw [sound.upload found, ending]
          rfl
        have flushed : u.conn.step w (.uploadFlushed s.id) = some (u.conn.uploadFlushed s) := by
          simp only [Conn.step, Conn.onStream, found, enabled, decide_true, if_true]
        refine sound.leave found flushed ?_ (u.conn.uploadFlushed_pumps s) ?_ (.inr (.inr ending))
        · exact fun _ => ⟨rfl, rfl⟩
        intro j
        have still := (Conn.retireIfFullyClosed_still
          (u.conn.modify s.id fun s => { s with upload := .idle, localClosed := true }) s.id).toRest
        exact (still.datas_eq j).trans (datas_modify _ _ _ _)
      · cases stepped
  | throws id cause =>
      obtain ⟨s, found, stepped⟩ := Option.bind_eq_some_iff.1 stepped
      obtain rfl := Conn.stream_id found
      simp only at stepped
      have leaves : (u.pump s.id).point = .reading ∨ (∃ n, (u.pump s.id).point = .sending n) ∨
          (u.pump s.id).point = .ending →
          Sound w ((u.follow (u.conn.uploadFails s cause)).set s.id
            { u.pump s.id with point := .finished }) := by
        intro writes
        have enabled : s.upload ≠ .idle := by
          rw [sound.upload found]
          rcases writes with point | ⟨n, point⟩ | point
          · rw [point]
            exact idle_ne_pumping.symm
          · rw [point]
            exact idle_ne_pumping.symm
          · rw [point]
            exact idle_ne_ending.symm
        have failed : u.conn.step w (.uploadFails s.id cause) = some (u.conn.uploadFails s cause) := by
          simp only [Conn.step, Conn.onStream, found, ne_eq, enabled, not_false_eq_true, decide_true,
            if_true]
        refine sound.leave found failed ?_ (u.conn.uploadFails_pumps s cause) ?_ writes
        · exact fun _ => ⟨rfl, rfl⟩
        intro j
        unfold Conn.uploadFails
        simp only
        split
        · exact (Conn.resetStream_still _ _ _).toRest.datas_eq j
        · rfl
      split at stepped
      · obtain rfl := Option.some.inj stepped
        exact leaves (.inl ‹_›)
      · obtain rfl := Option.some.inj stepped
        exact leaves (.inr (.inl ⟨_, ‹_›⟩))
      · obtain rfl := Option.some.inj stepped
        exact leaves (.inr (.inr ‹_›))
      · cases stepped

/-! ## Runs -/

theorem sound_of_steps {u' : Pumps H} (sound : Sound w u)
    (steps : (pumpMachine H w).Steps Machine.always u u') : Sound w u' :=
  Machine.Steps.invariant (Sound w) (fun _ _ _ sound _ stepped => step_sound sound stepped) steps sound

theorem keeps_of_step {c c' : Conn H} {e : Event} (numbered : Conn.Numbered c)
    (stepped : c.step w e = some c') : Conn.Keeps c c' := by
  intro id gone
  rcases Conn.step_streams numbered.1 stepped with ⟨⟨g, streams, effect⟩, -⟩ | ⟨-, -, q, streams, -⟩
  · refine List.find?_eq_none.2 fun s member => ?_
    have same := (effect s member).id
    have other := List.find?_eq_none.1 gone (g s) (by rw [streams]; exact List.mem_map_of_mem member)
    rwa [same] at other
  · rw [Conn.stream, streams, List.find?_append, Option.or_eq_none_iff] at gone
    exact gone.1

/-- What the body of a pump has been so far. -/
def record (p : Pump) : Bytes × Bool := (p.given, p.exhausted)

theorem set_record (u : Pumps H) (k id : Nat) (p : Pump) :
    record ((u.set k p).pump id) = if id = k then record p else record (u.pump id) := by
  split
  · rename_i own
    rw [own, set_pump_self]
  · rename_i other
    rw [set_pump_of_ne _ other]

theorem follow_record (waits : Waits u) {conn : Conn H} (keeps : Conn.Keeps u.conn conn) (id : Nat) :
    record ((u.follow conn).pump id) = record (u.pump id) := by
  by_cases fresh : u.conn.stream id = none
  · rw [waits.fresh id fresh]
    obtain ⟨-, same⟩ | ⟨s, -, -, same⟩ := follow_pump_of_new waits conn fresh
    · rw [same]
    · rw [same]
      rfl
  · obtain same | same := follow_pump conn (keeps id) fresh
    · rw [same]
    · rw [same]
      generalize u.pump id = p
      obtain ⟨point, chunk, offset, before, exhausted⟩ := p
      cases point <;> rfl

theorem stop_record (waits : Waits u) (s : Stream) (p : Pump) (id : Nat) :
    record ((u.stop s p).pump id) = if id = s.id then record p else record (u.pump id) := by
  have stopped : Conn.Keeps u.conn (u.conn.modify s.id fun s => { s with upload := .idle }) :=
    (Conn.keeps_of_update (f := fun s => { s with upload := .idle }) (fun _ => rfl) rfl).1
  rw [stop, set_record, follow_record waits stopped]
  rfl

theorem loop_record (waits : Waits u) (s : Stream) (p : Pump) (id : Nat) :
    record ((u.loop s p).pump id) = if id = s.id then record p else record (u.pump id) := by
  unfold loop
  split
  · split
    · exact stop_record waits s p id
    · exact set_record _ s.id id _
  · exact set_record u s.id id _

end Pumps

/-- What an event adds to the body of stream `id`. -/
def PumpEvent.gives (id : Nat) : PumpEvent → Bytes
  | .chunk j bytes => if id = j then bytes else []
  | _ => []

/-- The body of stream `id` ends. -/
def PumpEvent.ends (id : Nat) : PumpEvent → Bool
  | .exhausted j => decide (id = j)
  | _ => false

namespace Pumps

variable {u : Pumps H} {w : Windows}

theorem record_own {k id : Nat} {p : Pump} (same : record p = record (u.pump k)) :
    (if id = k then record p else record (u.pump id)) = record (u.pump id) := by
  split
  · rename_i own
    rw [same, own]
  · rfl

theorem step_record (sound : Sound w u) {e : PumpEvent} {u' : Pumps H}
    (stepped : u.step w e = some u') (id : Nat) :
    record (u'.pump id) = ((u.pump id).given ++ e.gives id, (u.pump id).exhausted || e.ends id) := by
  have numbered := (Conn.uploads_of_reaches sound.reached).numbered
  have same : record (u.pump id) = ((u.pump id).given ++ [], (u.pump id).exhausted || false) := by
    rw [List.append_nil, Bool.or_false]
    rfl
  cases e with
  | session e =>
      simp only [step] at stepped
      split at stepped
      · cases stepped
      · obtain ⟨conn, moved, rfl⟩ := Option.map_eq_some_iff.1 stepped
        exact (follow_record sound.waits (keeps_of_step numbered moved) id).trans same
  | chunk j bytes =>
      obtain ⟨s, found, stepped⟩ := Option.bind_eq_some_iff.1 stepped
      obtain rfl := Conn.stream_id found
      simp only at stepped
      split at stepped
      · obtain rfl := Option.some.inj stepped
        rw [loop_record sound.waits]
        split
        · rename_i own
          subst own
          simp only [record, Pump.given, PumpEvent.gives, PumpEvent.ends, if_true, Bool.or_false]
        · rename_i other
          simp only [PumpEvent.gives, PumpEvent.ends, other, if_false]
          exact same
      · cases stepped
  | exhausted j =>
      obtain ⟨s, found, stepped⟩ := Option.bind_eq_some_iff.1 stepped
      obtain rfl := Conn.stream_id found
      split at stepped
      · rename_i reading
        obtain rfl := Option.some.inj stepped
        have pumping : s.upload = .pumping := by
          rw [sound.upload found, reading]
          rfl
        rw [finish, set_record,
          follow_record sound.waits (keeps_of_step numbered (step_uploadEnds (w := w) found pumping))]
        split
        · rename_i own
          subst own
          simp only [record, Pump.given, PumpEvent.gives, PumpEvent.ends, decide_true, Bool.or_true,
            List.append_nil]
        · rename_i other
          simp only [PumpEvent.gives, PumpEvent.ends, other, decide_false]
          exact same
      · cases stepped
  | resume j =>
      obtain ⟨s, found, stepped⟩ := Option.bind_eq_some_iff.1 stepped
      obtain rfl := Conn.stream_id found
      refine Eq.trans ?_ same
      split at stepped
      · obtain rfl := Option.some.inj stepped
        exact (set_record _ s.id id _).trans (record_own rfl)
      · obtain rfl := Option.some.inj stepped
        unfold sendSlice
        split
        · exact (stop_record sound.waits s _ id).trans (record_own rfl)
        · simp only
          split
          · exact (loop_record sound.waits s _ id).trans (record_own rfl)
          · exact (set_record _ s.id id _).trans (record_own rfl)
      · cases stepped
  | written j =>
      obtain ⟨s, found, stepped⟩ := Option.bind_eq_some_iff.1 stepped
      obtain rfl := Conn.stream_id found
      refine Eq.trans ?_ same
      simp only at stepped
      split at stepped
      · obtain rfl := Option.some.inj stepped
        exact (loop_record sound.waits s _ id).trans (record_own rfl)
      · obtain rfl := Option.some.inj stepped
        have kept : Conn.Keeps u.conn (u.conn.uploadFlushed s) :=
          (Conn.keeps_of_update (fun _ => by rfl) (u.conn.uploadFlushed_pumps s)).1
        rw [set_record, follow_record sound.waits kept]
        exact record_own rfl
      · cases stepped
  | throws j cause =>
      obtain ⟨s, found, stepped⟩ := Option.bind_eq_some_iff.1 stepped
      obtain rfl := Conn.stream_id found
      have kept : Conn.Keeps u.conn (u.conn.uploadFails s cause) :=
        (Conn.keeps_of_update (fun _ => by rfl) (u.conn.uploadFails_pumps s cause)).1
      have left : record (((u.follow (u.conn.uploadFails s cause)).set s.id
          { u.pump s.id with point := .finished }).pump id) = record (u.pump id) := by
        rw [set_record, follow_record sound.waits kept]
        exact record_own rfl
      refine Eq.trans ?_ same
      simp only at stepped
      split at stepped
      · obtain rfl := Option.some.inj stepped
        exact left
      · obtain rfl := Option.some.inj stepped
        exact left
      · obtain rfl := Option.some.inj stepped
        exact left
      · cases stepped

theorem spells_part {p : Pump} {sent : Bytes} {ended : Bool} (spells : Spells p sent ended) :
    sent <+: p.given ∧ (ended = true → sent = p.given ∧ p.exhausted = true) := by
  obtain ⟨point, chunk, offset, before, exhausted⟩ := p
  have part : ∀ n, before ++ chunk.take n <+: before ++ chunk := fun n =>
    List.prefix_append_right_inj _ |>.2 (List.take_prefix _ _)
  cases point with
  | reading =>
      obtain ⟨rfl, rfl⟩ := spells
      exact ⟨List.prefix_rfl, fun ended => nomatch ended⟩
  | connWait resolved =>
      obtain ⟨rfl, rfl⟩ := spells
      exact ⟨part _, fun ended => nomatch ended⟩
  | streamWait resolved =>
      obtain ⟨rfl, rfl⟩ := spells
      exact ⟨part _, fun ended => nomatch ended⟩
  | sending grant =>
      obtain ⟨rfl, rfl⟩ := spells
      exact ⟨part _, fun ended => nomatch ended⟩
  | ending =>
      obtain ⟨rfl, all⟩ := spells
      exact ⟨List.prefix_rfl, fun _ => ⟨rfl, all⟩⟩
  | finished => exact spells

theorem run_record (sound : Sound w u) (es : List PumpEvent) {u' : Pumps H}
    (ran : (pumpMachine H w).run Machine.always u es = some u') (id : Nat) :
    record (u'.pump id) = ((u.pump id).given ++ (es.map (PumpEvent.gives id)).flatten,
      (u.pump id).exhausted || es.any (PumpEvent.ends id)) := by
  induction es generalizing u with
  | nil =>
      cases ran
      simp only [record, List.map_nil, List.flatten_nil, List.append_nil, List.any_nil, Bool.or_false]
  | cons e es ih =>
      simp only [Machine.run, show Machine.always u e from trivial, if_true] at ran
      obtain ⟨middle, stepped, rest⟩ := Option.bind_eq_some_iff.1 ran
      have first := step_record sound stepped id
      have later := ih (step_sound sound stepped) rest
      simp only [record, Prod.mk.injEq] at first later ⊢
      rw [later.1, later.2, first.1, first.2, List.map_cons, List.flatten_cons, List.any_cons,
        List.append_assoc, Bool.or_assoc]
      exact ⟨rfl, rfl⟩

end Pumps

/-- A body in one chunk whose stream has a window of four bytes: its pump parks, is woken
and ends. -/
def slicedUpload : List PumpEvent :=
  [.session (.request [0x88] true), .session (.ready 0),
    .session (.recv (.settings false { initialWindowSize := some 4 })),
    .chunk 1 [1, 2, 3, 4, 5, 6], .resume 1, .resume 1, .written 1, .resume 1,
    .session (.recv (.windowUpdate 1 10)), .resume 1, .written 1, .exhausted 1, .written 1]

open Pumps in
/-- **The pumps refine the session.**  However many pumps run and whatever they await,
their session takes steps of `sessionMachine` only. -/
theorem session_of_pumps {w : Windows} {u : Pumps H}
    (reached : (pumpMachine H w).Reaches Machine.always u) :
    (sessionMachine H w).Reaches Machine.always u.conn :=
  (sound_of_steps (start_sound H w) reached).reached

theorem session_of_pumps_upload : ∃ u : Pumps statusOnly,
    (pumpMachine statusOnly smallWindows).run Machine.always
      (pumpMachine statusOnly smallWindows).init slicedUpload = some u ∧
    (sessionMachine statusOnly smallWindows).Reaches Machine.always u.conn :=
  ⟨_, rfl, session_of_pumps (Machine.steps_of_run slicedUpload rfl)⟩

open Pumps in
/-- **No wake-up is lost.**  In every run a pump that is parked at a window finds it
exhausted and open, and one whose promise is resolved can go on. -/
theorem parked_of_reaches {w : Windows} {u : Pumps H}
    (reached : (pumpMachine H w).Reaches Machine.always u) (id : Nat) :
    match (u.pump id).point with
    | .connWait false => u.conn.connSendWindow ≤ 0 ∧ u.conn.closed = false
    | .streamWait false => ∃ s, u.conn.stream id = some s ∧ s.sendWindow ≤ 0 ∧ s.sendClosed = false
    | .connWait true | .streamWait true => (u.step w (.resume id)).isSome
    | _ => True := by
  have sound := sound_of_steps (start_sound H w) reached
  have live : (u.pump id).point ≠ .finished → ∃ s, u.conn.stream id = some s := by
    intro running
    refine Option.ne_none_iff_exists'.1 fun gone => running ?_
    rw [sound.waits.fresh id gone]
  split
  · rename_i parked
    have inside := (sound.waits.conn id).2 parked
    exact sound.waits.connSettled (List.ne_nil_of_mem inside)
  · rename_i parked
    obtain ⟨s, found⟩ := live (by rw [parked]; exact fun ended => nomatch ended)
    have inside := (sound.waits.stream id).2 parked
    rw [← Conn.stream_id found] at inside
    exact ⟨s, found, sound.waits.streamSettled id s found (List.ne_nil_of_mem inside)⟩
  · rename_i resolved
    obtain ⟨s, found⟩ := live (by rw [resolved]; exact fun ended => nomatch ended)
    simp [Pumps.step, found, resolved]
  · rename_i resolved
    obtain ⟨s, found⟩ := live (by rw [resolved]; exact fun ended => nomatch ended)
    simp [Pumps.step, found, resolved]
  · trivial

/-- After the first slice of four bytes, before the WINDOW_UPDATE. -/
def parkedUpload : Pumps statusOnly :=
  ((pumpMachine statusOnly smallWindows).run Machine.always
    (pumpMachine statusOnly smallWindows).init (slicedUpload.take 8)).get rfl

theorem parkedUpload_reached :
    (pumpMachine statusOnly smallWindows).Reaches Machine.always parkedUpload :=
  Machine.steps_of_run (slicedUpload.take 8) rfl

theorem parkedUpload_point : (parkedUpload.pump 1).point = .streamWait false := rfl

theorem parked_of_reaches_upload :
    ∃ s, parkedUpload.conn.stream 1 = some s ∧ s.sendWindow ≤ 0 ∧ s.sendClosed = false := by
  have parked := parked_of_reaches parkedUpload_reached 1
  rwa [parkedUpload_point] at parked

open Pumps in
/-- **Bodies.**  In every run the DATA frames of a stream are non-empty slices that spell a
beginning of what its body has given, and END_STREAM follows only after all of it, once
the body has ended; nothing comes after. -/
theorem body_of_run {w : Windows} {u : Pumps H} {es : List PumpEvent}
    (ran : (pumpMachine H w).run Machine.always (pumpMachine H w).init es = some u) (id : Nat) :
    ∃ (slices : List Bytes) (ended : Bool),
      u.conn.datas id = slices.map (slice id) ++ (if ended then [last id] else []) ∧
        (∀ bytes ∈ slices, bytes ≠ []) ∧ slices.flatten <+: (es.map (PumpEvent.gives id)).flatten ∧
        (ended = true → slices.flatten = (es.map (PumpEvent.gives id)).flatten ∧
          es.any (PumpEvent.ends id) = true) := by
  have start := start_sound H w
  obtain ⟨slices, ended, wire⟩ := (sound_of_steps start (Machine.steps_of_run es ran)).wire id
  have body := run_record start es ran id
  simp only [record, Prod.mk.injEq] at body
  obtain ⟨part, all⟩ := spells_part wire.spells
  rw [body.1, body.2] at all
  rw [body.1] at part
  exact ⟨slices, ended, wire.frames, wire.filled, part, all⟩

/-- After the whole upload. -/
def wholeUpload : Pumps statusOnly :=
  ((pumpMachine statusOnly smallWindows).run Machine.always
    (pumpMachine statusOnly smallWindows).init slicedUpload).get rfl

theorem wholeUpload_ran : (pumpMachine statusOnly smallWindows).run Machine.always
    (pumpMachine statusOnly smallWindows).init slicedUpload = some wholeUpload := rfl

open Pumps in
theorem body_of_run_upload :
    wholeUpload.conn.datas 1 = [slice 1 [1, 2, 3, 4], slice 1 [5, 6], last 1] ∧
    ∃ (slices : List Bytes) (ended : Bool),
      wholeUpload.conn.datas 1 = slices.map (slice 1) ++ (if ended then [last 1] else []) ∧
        (∀ bytes ∈ slices, bytes ≠ []) ∧
        slices.flatten <+: (slicedUpload.map (PumpEvent.gives 1)).flatten ∧
        (ended = true → slices.flatten = (slicedUpload.map (PumpEvent.gives 1)).flatten ∧
          slicedUpload.any (PumpEvent.ends 1) = true) :=
  ⟨rfl, body_of_run wholeUpload_ran 1⟩

end GrpcBridge.H2
