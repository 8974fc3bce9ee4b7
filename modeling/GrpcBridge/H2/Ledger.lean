/-
# H2.Ledger -- accounts of the receive windows

A receive window is an account between this side and the peer: WINDOW_UPDATE frames
put credit on it and DATA frames spend it.  `balance` reads both off the frames alone.

`Ledger` is what an operation does to the connection's account and to one stream's;
ledgers of consecutive operations add up.  `Credit` is the invariant of the accounts.
An operation either moves bytes between the connection's account and one stream
(`Credit.exchange`) or leaves every account as it is (`Credit.inert`).
-/
import GrpcBridge.H2.Effects

namespace GrpcBridge.H2

open GrpcBridge.Theory

set_option autoImplicit false

/-- Credit a sent frame grants on stream `id`; the connection is stream `0`. -/
def Frame.grants (id : Nat) : Frame → Int
  | .windowUpdate streamId increment => if streamId = id then increment else 0
  | _ => 0

/-- Credit a received frame spends on stream `id`.  DATA on any stream spends from
the connection. -/
def Frame.spends (id : Nat) : Frame → Int
  | .data f => if id = 0 ∨ f.streamId = id then f.flowControlledLength else 0
  | _ => 0

variable {H : Hpack}

namespace Conn

/-- Credit the peer was granted past the initial window, less what it has spent. -/
def balance (c : Conn H) (id : Nat) : Int :=
  (c.sent.map (Frame.grants id)).sum - (c.received.map (Frame.spends id)).sum

/-! ## Ledgers -/

/-- What an operation does to the account of the connection and of stream `id`. -/
structure Ledger (c c' : Conn H) (n : Int) (id : Nat) (m : Int) : Prop where
  closed : c'.closed = c.closed
  nextStreamId : c'.nextStreamId = c.nextStreamId
  available : c'.connRecvAvailable = c.connRecvAvailable + n
  connection : c'.balance 0 = c.balance 0 + n
  stream : id ≠ 0 → c'.balance id = c.balance id + m
  others : ∀ k, k ≠ 0 → k ≠ id → c'.balance k = c.balance k

theorem Ledger.trans {a b d : Conn H} {n n' m m' : Int} {id : Nat} (first : Ledger a b n id m)
    (second : Ledger b d n' id m') : Ledger a d (n + n') id (m + m') where
  closed := second.closed.trans first.closed
  nextStreamId := second.nextStreamId.trans first.nextStreamId
  available := by rw [second.available, first.available, Int.add_assoc]
  connection := by rw [second.connection, first.connection, Int.add_assoc]
  stream := by
    intro proper
    rw [second.stream proper, first.stream proper, Int.add_assoc]
  others := by
    intro k proper other
    rw [second.others k proper other, first.others k proper other]

/-- Operations after an exchange that move nothing. -/
theorem Ledger.then {a b d : Conn H} {n m : Int} {id : Nat} (first : Ledger a b n id m)
    (second : Ledger b d 0 id 0) : Ledger a d n id m := by
  have both := first.trans second
  rwa [Int.add_zero, Int.add_zero] at both

/-- Nothing the accounts read changes. -/
theorem Ledger.of_same {c c' : Conn H} (same : SameStreams c c')
    (sent : ∀ id, c'.balance id = c.balance id) (id : Nat) : Ledger c c' 0 id 0 where
  closed := same.closed
  nextStreamId := same.nextStreamId
  available := by rw [same.connRecvAvailable, Int.add_zero]
  connection := by rw [sent, Int.add_zero]
  stream := by
    intro _
    rw [sent, Int.add_zero]
  others := fun k _ _ => sent k

/-- A state that differs only in fields no account reads. -/
theorem Ledger.of_fields {c c' : Conn H} {id : Nat} (closed : c'.closed = c.closed)
    (next : c'.nextStreamId = c.nextStreamId)
    (available : c'.connRecvAvailable = c.connRecvAvailable) (sent : c'.sent = c.sent)
    (received : c'.received = c.received) : Ledger c c' 0 id 0 := by
  have same : ∀ k, c'.balance k = c.balance k := by
    intro k
    rw [balance, balance, sent, received]
  refine ⟨closed, next, by rw [available, Int.add_zero], by rw [same, Int.add_zero], ?_, ?_⟩
  · intro _
    rw [same, Int.add_zero]
  · intro k _ _
    exact same k

theorem balance_of_receive {c c' : Conn H} {f : Frame} {id : Nat} (sent : c'.sent = c.sent)
    (received : c'.received = c.received ++ [f]) :
    c'.balance id = c.balance id - f.spends id := by
  simp only [balance, sent, received, List.map_append, List.sum_append, List.map_cons, List.map_nil,
    List.sum_cons, List.sum_nil]
  omega

/-- A DATA frame is charged to the connection and to its stream. -/
theorem charge_ledger {c c' : Conn H} {f : DataFrame} (closed : c'.closed = c.closed)
    (next : c'.nextStreamId = c.nextStreamId)
    (available : c'.connRecvAvailable = c.connRecvAvailable - f.flowControlledLength)
    (sent : c'.sent = c.sent) (received : c'.received = c.received ++ [.data f]) :
    Ledger c c' (-f.flowControlledLength) f.streamId (-f.flowControlledLength) where
  closed := closed
  nextStreamId := next
  available := available
  connection := by
    rw [balance_of_receive sent received]
    simp [Frame.spends, Int.sub_eq_add_neg]
  stream := by
    intro _
    rw [balance_of_receive sent received]
    simp [Frame.spends, Int.sub_eq_add_neg]
  others := by
    intro k proper other
    rw [balance_of_receive sent received]
    simp [Frame.spends, proper, other.symm]

theorem Ledger.modify (c : Conn H) (k : Nat) (f : Stream → Stream) (id : Nat) :
    Ledger c (c.modify k f) 0 id 0 where
  closed := rfl
  nextStreamId := rfl
  available := (Int.add_zero _).symm
  connection := (Int.add_zero _).symm
  stream := fun _ => (Int.add_zero _).symm
  others := fun _ _ _ => rfl

variable (c : Conn H)

theorem send_balance (opened : c.closed = false) (f : Frame) (id : Nat) :
    (c.send f).balance id = c.balance id + f.grants id := by
  simp only [send, opened, balance, Bool.false_eq_true, if_false, List.map_append, List.sum_append,
    List.map_cons, List.map_nil, List.sum_cons, List.sum_nil]
  omega

/-- A frame that grants no credit. -/
def Silent (f : Frame) : Prop := ∀ id, f.grants id = 0

theorem send_silent {f : Frame} (silent : Silent f) (id : Nat) :
    (c.send f).balance id = c.balance id := by
  by_cases opened : c.closed = false
  · rw [c.send_balance opened, silent, Int.add_zero]
  · simp [send, opened]

theorem Ledger.send {f : Frame} (silent : Silent f) (id : Nat) : Ledger c (c.send f) 0 id 0 :=
  .of_same (c.send_same f) (c.send_silent silent) id

theorem foldl_send_balance {frames : List Frame} (silent : ∀ f ∈ frames, Silent f) (id : Nat) :
    (frames.foldl Conn.send c).balance id = c.balance id := by
  induction frames generalizing c with
  | nil => rfl
  | cons f frames ih =>
      have rest := ih (c.send f) fun g member => silent g (List.mem_cons_of_mem f member)
      rw [List.foldl_cons, rest, c.send_silent (silent f List.mem_cons_self)]

theorem close_balance (id : Nat) : c.close.balance id = c.balance id := by
  unfold close
  split
  · rfl
  · exact c.send_silent (fun _ => rfl) id

theorem wakeStreamSlots_balance (id : Nat) : c.wakeStreamSlots.balance id = c.balance id := by
  unfold wakeStreamSlots
  simp only
  split
  · exact c.close_balance id
  · rfl

theorem Ledger.wake (id : Nat) : Ledger c c.wakeStreamSlots 0 id 0 :=
  .of_same c.wakeStreamSlots_same c.wakeStreamSlots_balance id

theorem replenishConnection_ledger (opened : c.closed = false) {n : Int} (counts : 0 ≤ n)
    (id : Nat) : Ledger c (c.replenishConnectionWindow n) n id 0 := by
  unfold replenishConnectionWindow
  by_cases none : n ≤ 0
  · obtain rfl : n = 0 := by omega
    simp only [opened, Bool.false_or, decide_eq_true_eq, le_refl, if_true]
    exact .of_same ⟨rfl, rfl, rfl, rfl, rfl⟩ (fun _ => rfl) id
  · rw [if_neg (by simp [opened, none])]
    let credit : Conn H := { c with connRecvAvailable := c.connRecvAvailable + n }
    let frame := Frame.windowUpdate 0 n.toNat
    change Ledger c (credit.send frame) n id 0
    have moved := credit.send_same frame
    have told : ∀ k, (credit.send frame).balance k = c.balance k + frame.grants k :=
      fun k => credit.send_balance opened frame k
    refine ⟨moved.closed, moved.nextStreamId, moved.connRecvAvailable, ?_, ?_, ?_⟩
    · rw [told]
      simp only [frame, Frame.grants, if_true]
      omega
    · intro proper
      rw [told]
      simp [frame, Frame.grants, proper.symm]
    · intro k proper _
      rw [told]
      simp [frame, Frame.grants, proper.symm]

/-- The window of a stream itself grows only while its peer may still send. -/
theorem replenishRecv_ledger (opened : c.closed = false) {n : Int} (counts : 0 ≤ n) {s : Stream}
    (distinct : (c.streams.map Stream.id).Nodup) (member : s ∈ c.streams) (proper : s.id ≠ 0) :
    Ledger c (c.replenishRecvWindow s.id n) n s.id
      (if s.inMap && !s.remoteClosed then n else 0) := by
  by_cases live : (s.inMap && !s.remoteClosed) = true
  · obtain ⟨inMap, started⟩ : s.inMap = true ∧ s.remoteClosed = false := by simpa using live
    rw [if_pos live]
    by_cases nothing : n = 0
    · subst nothing
      rw [c.replenishRecvWindow_of_le (Int.le_refl 0)]
      exact .of_same ⟨rfl, rfl, rfl, rfl, rfl⟩ (fun _ => rfl) s.id
    · rw [c.replenishRecvWindow_of_live opened (by omega) (c.get_of_mem distinct member inMap)
        started]
      let credit := c.modify s.id fun s => { s with recvWindow := s.recvWindow + n }
      let frame := Frame.windowUpdate s.id n.toNat
      have moved := credit.send_same frame
      have told : ∀ k, (credit.send frame).balance k = c.balance k + frame.grants k :=
        fun k => credit.send_balance opened frame k
      have granted : Ledger c (credit.send frame) 0 s.id n := by
        refine ⟨moved.closed, moved.nextStreamId, ?_, ?_, ?_, ?_⟩
        · rw [moved.connRecvAvailable, Int.add_zero]
          rfl
        · rw [told]
          simp [frame, Frame.grants, proper]
        · intro _
          rw [told]
          simp only [frame, Frame.grants, if_true]
          omega
        · intro k _ other
          rw [told]
          simp [frame, Frame.grants, other.symm]
      have both := granted.trans
        ((credit.send frame).replenishConnection_ledger (moved.closed.trans opened) counts s.id)
      rwa [Int.zero_add, Int.add_zero] at both
  · rw [if_neg live, c.replenishRecvWindow_of_idle distinct member (by simpa using live)]
    exact c.replenishConnection_ledger opened counts s.id

theorem discard_ledger (opened : c.closed = false) {s : Stream} (counts : 0 ≤ s.recvBuffered)
    (id : Nat) : Ledger c (c.discard s) s.recvBuffered id 0 := by
  have both := (Ledger.modify c s.id Stream.discardBuffered id).trans
    ((c.modify s.id Stream.discardBuffered).replenishConnection_ledger opened counts id)
  rwa [Int.zero_add, Int.add_zero] at both

/-- A reset returns the credit of the unread bytes to the connection. -/
theorem resetStream_ledger (opened : c.closed = false) {id : Nat} {s : Stream} (code : ErrorCode)
    (found : c.get id = some s) (counts : 0 ≤ s.recvBuffered) :
    Ledger c (c.resetStream id code) s.recvBuffered id 0 := by
  unfold resetStream
  simp only [found]
  let sent := c.send (.rstStream id (errorCodeValue code))
  have told : Ledger c sent 0 id 0 := .send c (fun _ => rfl) id
  have returned := told.trans (sent.discard_ledger (told.closed.trans opened) counts id)
  rw [Int.zero_add, Int.zero_add] at returned
  exact ((returned.then (.modify _ _ _ _)).then (.wake _ _)).then (.modify _ _ _ _)

theorem retireIfFullyClosed_ledger (k id : Nat) : Ledger c (c.retireIfFullyClosed k) 0 id 0 := by
  unfold retireIfFullyClosed
  split
  · split
    · exact (Ledger.modify c k _ id).then (.wake _ _)
    · exact .of_same ⟨rfl, rfl, rfl, rfl, rfl⟩ (fun _ => rfl) id
  · exact .of_same ⟨rfl, rfl, rfl, rfl, rfl⟩ (fun _ => rfl) id

theorem peerEnds_ledger (k : Nat) (endStream : Bool) (id : Nat) :
    Ledger c (c.peerEnds k endStream) 0 id 0 := by
  unfold peerEnds
  split
  · exact (Ledger.modify c k _ id).then (retireIfFullyClosed_ledger _ _ _)
  · exact .of_same ⟨rfl, rfl, rfl, rfl, rfl⟩ (fun _ => rfl) id

/-! ## The invariant -/

/-- The account of one stream. -/
structure Sound (w : Windows) (c : Conn H) (s : Stream) : Prop where
  odd : s.id % 2 = 1
  old : s.id < c.nextStreamId
  unread : (s.recvQueue.flatten.length : Int) = s.recvBuffered
  window : 0 ≤ s.recvWindow
  bound : s.recvWindow + s.recvBuffered ≤ w.localInitialWindow
  told : s.inMap = true → s.recvWindow = w.localInitialWindow + c.balance s.id
  live : s.inMap = true → s.remoteClosed = false →
    s.recvWindow + s.recvBuffered = w.localInitialWindow ∧ s.recvEnded = false ∧
      s.recvError = none ∧ s.bodyDone = false

theorem Sound.buffered {w : Windows} {c : Conn H} {s : Stream} (sound : Sound w c s) :
    0 ≤ s.recvBuffered := by
  rw [← sound.unread]
  exact Int.natCast_nonneg _

theorem Sound.proper {w : Windows} {c : Conn H} {s : Stream} (sound : Sound w c s) :
    s.id ≠ 0 := by
  have := sound.odd
  omega

def buffered (c : Conn H) : Int := (c.streams.map Stream.recvBuffered).sum

structure Credit (w : Windows) (c : Conn H) : Prop where
  distinct : (c.streams.map Stream.id).Nodup
  parity : c.nextStreamId % 2 = 1
  total : c.connRecvAvailable + c.buffered = w.connRecvWindow
  told : c.connRecvAvailable = specInitialWindow + c.balance 0
  available : 0 ≤ c.connRecvAvailable
  fresh : ∀ id, c.nextStreamId ≤ id → id % 2 = 1 → c.balance id = 0
  sound : ∀ s ∈ c.streams, Sound w c s

/-- A change of a stream that keeps its account, or takes it off the books. -/
structure Inert (s s' : Stream) : Prop where
  id : s'.id = s.id
  recvWindow : s'.recvWindow = s.recvWindow
  recvBuffered : s'.recvBuffered = s.recvBuffered
  recvQueue : s'.recvQueue = s.recvQueue
  stays : s'.inMap = true → s.inMap = true
  live : s'.inMap = true → s'.remoteClosed = false →
    s.remoteClosed = false ∧ s'.recvEnded = s.recvEnded ∧ s'.recvError = s.recvError ∧
      s'.bodyDone = s.bodyDone

theorem Inert.refl (s : Stream) : Inert s s :=
  ⟨rfl, rfl, rfl, rfl, fun h => h, fun _ h => ⟨h, rfl, rfl, rfl⟩⟩

theorem Inert.sound {w : Windows} {c c' : Conn H} {s s' : Stream} (inert : Inert s s')
    (sound : Sound w c s) (next : c'.nextStreamId = c.nextStreamId)
    (same : s.inMap = true → c'.balance s.id = c.balance s.id) : Sound w c' s' where
  odd := inert.id ▸ sound.odd
  old := by rw [inert.id, next]; exact sound.old
  unread := by rw [inert.recvQueue, inert.recvBuffered]; exact sound.unread
  window := inert.recvWindow ▸ sound.window
  bound := by rw [inert.recvWindow, inert.recvBuffered]; exact sound.bound
  told := by
    intro inMap
    have before := inert.stays inMap
    rw [inert.recvWindow, inert.id, same before]
    exact sound.told before
  live := by
    intro inMap started
    obtain ⟨wasStarted, recvEnded, recvError, bodyDone⟩ := inert.live inMap started
    rw [inert.recvWindow, inert.recvBuffered, recvEnded, recvError, bodyDone]
    exact sound.live (inert.stays inMap) wasStarted

section Rules

variable {w : Windows} {c} {c' : Conn H}

/-- Every stream changes inertly and only streams that are off the books are charged. -/
theorem Credit.inert (credit : Credit w c) {g : Stream → Stream}
    (streams : c'.streams = c.streams.map g) (inert : ∀ s ∈ c.streams, Inert s (g s))
    (available : c'.connRecvAvailable = c.connRecvAvailable)
    (next : c'.nextStreamId = c.nextStreamId) (connection : c'.balance 0 = c.balance 0)
    (mapped : ∀ s ∈ c.streams, s.inMap = true → c'.balance s.id = c.balance s.id)
    (fresh : ∀ id, c.nextStreamId ≤ id → id % 2 = 1 → c'.balance id = c.balance id) :
    Credit w c' where
  distinct := by
    have ids : c.streams.map (Stream.id ∘ g) = c.streams.map Stream.id :=
      List.map_congr_left fun s member => (inert s member).id
    rw [streams, List.map_map, ids]
    exact credit.distinct
  parity := next ▸ credit.parity
  total := by
    have sums : c.streams.map (Stream.recvBuffered ∘ g) = c.streams.map Stream.recvBuffered :=
      List.map_congr_left fun s member => (inert s member).recvBuffered
    rw [buffered, streams, List.map_map, sums, available]
    exact credit.total
  told := by
    rw [available, connection]
    exact credit.told
  available := available ▸ credit.available
  fresh := by
    intro id later odd
    rw [fresh id (next ▸ later) odd]
    exact credit.fresh id (next ▸ later) odd
  sound := by
    intro s' member
    rw [streams] at member
    obtain ⟨s, before, rfl⟩ := List.mem_map.1 member
    exact (inert s before).sound (credit.sound s before) next (mapped s before)

/-- Inert changes beside a ledger that moves nothing. -/
theorem Credit.inert_of_ledger (credit : Credit w c) {g : Stream → Stream}
    (streams : c'.streams = c.streams.map g) (inert : ∀ s ∈ c.streams, Inert s (g s))
    (ledger : Ledger c c' 0 0 0) : Credit w c' := by
  have same : ∀ id, c'.balance id = c.balance id := by
    intro id
    by_cases connection : id = 0
    · rw [connection, ledger.connection, Int.add_zero]
    · exact ledger.others id connection connection
  exact credit.inert streams inert (by rw [ledger.available, Int.add_zero]) ledger.nextStreamId
    (same 0) (fun s _ _ => same s.id) fun id _ _ => same id

theorem Credit.same (credit : Credit w c) (streams : c'.streams = c.streams)
    (ledger : Ledger c c' 0 0 0) : Credit w c' :=
  credit.inert_of_ledger (g := id) (by rw [streams, List.map_id]) (fun s _ => .refl s) ledger

theorem Credit.of_fields (credit : Credit w c) (streams : c'.streams = c.streams)
    (closed : c'.closed = c.closed) (next : c'.nextStreamId = c.nextStreamId)
    (available : c'.connRecvAvailable = c.connRecvAvailable) (sent : c'.sent = c.sent)
    (received : c'.received = c.received) : Credit w c' :=
  credit.same streams (.of_fields closed next available sent received)

/-- Bytes move between the connection's account and one stream. -/
theorem Credit.exchange (credit : Credit w c) {s : Stream} (member : s ∈ c.streams)
    {f : Stream → Stream} (streams : c'.streams = Keyed.update Stream.id s.id f c.streams)
    (keeps : ∀ s, (f s).id = s.id) {n m : Int} (ledger : Ledger c c' n s.id m)
    (moved : n = s.recvBuffered - (f s).recvBuffered) (available : 0 ≤ c.connRecvAvailable + n)
    (sound : Sound w c' (f s)) : Credit w c' where
  distinct := by
    rw [streams, Keyed.map_key_update _ keeps]
    exact credit.distinct
  parity := ledger.nextStreamId ▸ credit.parity
  total := by
    have total := credit.total
    rw [buffered] at total ⊢
    rw [streams, Keyed.sum_update credit.distinct member, ledger.available, moved]
    omega
  told := by
    rw [ledger.available, ledger.connection, credit.told]
    omega
  available := ledger.available ▸ available
  fresh := by
    intro id later odd
    rw [ledger.nextStreamId] at later
    have old := (credit.sound s member).old
    rw [ledger.others id (by omega) (by omega)]
    exact credit.fresh id later odd
  sound := by
    rw [streams]
    intro t inside
    obtain ⟨t, before, rfl⟩ := Keyed.mem_update.1 inside
    have was := credit.sound t before
    split
    · rename_i same
      rw [List.inj_on_of_nodup_map credit.distinct before member same]
      exact sound
    · rename_i other
      exact (Inert.refl t).sound was ledger.nextStreamId fun _ =>
        ledger.others t.id was.proper other

/-- A stream that left the map, with no more on its account than it had. -/
theorem Sound.off {s s' : Stream} (sound : Sound w c s) (next : c'.nextStreamId = c.nextStreamId)
    (id : s'.id = s.id) (window : 0 ≤ s'.recvWindow)
    (fewer : s'.recvWindow + s'.recvBuffered ≤ s.recvWindow + s.recvBuffered)
    (unread : (s'.recvQueue.flatten.length : Int) = s'.recvBuffered) (gone : s'.inMap = false) :
    Sound w c' s' where
  odd := id ▸ sound.odd
  old := by rw [id, next]; exact sound.old
  unread := unread
  window := window
  bound := fewer.trans sound.bound
  told := by simp [gone]
  live := by simp [gone]

/-- A stream that left the map with nothing unread. -/
theorem Sound.emptied {s s' : Stream} (sound : Sound w c s)
    (next : c'.nextStreamId = c.nextStreamId) (id : s'.id = s.id)
    (recvWindow : s'.recvWindow = s.recvWindow) (recvBuffered : s'.recvBuffered = 0)
    (recvQueue : s'.recvQueue = []) (gone : s'.inMap = false) : Sound w c' s' := by
  have counts := sound.buffered
  refine sound.off next id (recvWindow ▸ sound.window) ?_ ?_ gone
  · rw [recvWindow, recvBuffered]
    omega
  · rw [recvQueue, recvBuffered]
    rfl

end Rules

end Conn

end GrpcBridge.H2
