/-
# H2.StreamSlots -- who may open a stream, and who waits for one

The admission loop of `request` (web/src/h2/connection.ts).  A request that finds no
free slot parks in `streamSlotWaiters`; whatever frees a slot, moves the limit or tears
the connection down resolves every parked waiter, and each of them checks again before
it reserves a stream id, with no await in between.

`Admission` is the invariant of the waiters and `Ordered` that of the stream ids; both
are a case analysis over `step_requests`.
-/
import GrpcBridge.H2.Requests
import GrpcBridge.H2.ReceiveCredit

namespace GrpcBridge.H2

open GrpcBridge.Theory

set_option autoImplicit false

variable {H : Hpack}

namespace Conn

/-! ## Admission -/

/-- Who is parked, and that there is no reason to go on. -/
structure Admission (c : Conn H) : Prop where
  parked : ∀ r, r ∈ c.streamSlotWaiters ↔ c.phaseOf r = some .parked
  distinct : c.streamSlotWaiters.Nodup
  full : c.streamSlotWaiters ≠ [] →
    c.closed = false ∧ c.goawayReceived = false ∧ c.canOpenStream = false

variable {c c' : Conn H}

theorem canOpenStream_eq_false (full : c.canOpenStream = false)
    (limit : c'.remote.maxConcurrentStreams = c.remote.maxConcurrentStreams)
    (active : c.activeStreams ≤ c'.activeStreams) : c'.canOpenStream = false := by
  unfold canOpenStream at full ⊢
  rw [limit]
  split
  · rename_i unlimited
    rw [unlimited] at full
    cases full
  · rename_i n limited
    rw [limited] at full
    simp only [decide_eq_false_iff_not] at full ⊢
    omega

/-- Nothing that a parked request waits for has come. -/
theorem Admission.of_same (admission : Admission c)
    (waiters : c'.streamSlotWaiters = c.streamSlotWaiters)
    (phases : ∀ r, c'.phaseOf r = some .parked ↔ c.phaseOf r = some .parked)
    (closed : c'.closed = c.closed) (goaway : c'.goawayReceived = c.goawayReceived)
    (limit : c'.remote.maxConcurrentStreams = c.remote.maxConcurrentStreams)
    (active : c.activeStreams ≤ c'.activeStreams) : Admission c' := by
  refine ⟨fun r => ?_, waiters ▸ admission.distinct, fun some_ => ?_⟩
  · rw [waiters, phases]
    exact admission.parked r
  · obtain ⟨up, staying, full⟩ := admission.full (waiters ▸ some_)
    exact ⟨closed.trans up, goaway.trans staying, canOpenStream_eq_false full limit active⟩

theorem phaseOf_wakeWaiters (r : Nat) : c.wakeWaiters.phaseOf r =
    if r ∈ c.streamSlotWaiters then (c.phaseOf r).map fun _ => .woken else c.phaseOf r := by
  simp only [phaseOf, wakeWaiters, List.getElem?_mapIdx]
  cases c.requests[r]? with
  | none => simp
  | some q => split <;> simp_all

theorem Admission.stays (admission : Admission c) (stays : Stays c c') : Admission c' := by
  rcases stays with quiet | roused
  · exact admission.of_same quiet.waiters (fun r => by rw [phaseOf, quiet.requests]; rfl)
      quiet.closed quiet.goawayReceived quiet.limit quiet.active
  · refine ⟨fun r => ?_, by simp [roused.waiters], fun some_ => absurd roused.waiters some_⟩
    have woken : c'.phaseOf r = c.wakeWaiters.phaseOf r := by rw [phaseOf, roused.requests]; rfl
    rw [roused.waiters, woken, phaseOf_wakeWaiters]
    constructor
    · intro inside
      cases inside
    · intro parked
      split at parked
      · cases phase : c.phaseOf r <;> simp [phase] at parked
      · rename_i outside
        exact absurd ((admission.parked r).2 parked) outside

/-- A request that was not parked moves to a phase in which it is not. -/
theorem Admission.setPhase (admission : Admission c) {r : Nat} {phase : RequestPhase}
    (before : c.phaseOf r ≠ some .parked) (after : phase ≠ .parked) :
    Admission (c.setPhase r phase) := by
  refine admission.of_same rfl (fun k => ?_) rfl rfl rfl (Nat.le_refl _)
  rw [phaseOf_setPhase]
  split
  · rename_i same
    subst same
    constructor
    · intro parked
      cases phase : c.phaseOf r <;> simp [phase] at parked
      exact absurd parked after
    · intro parked
      exact absurd parked before
  · exact Iff.rfl

theorem Admission.admitRequest (admission : Admission c) {w : Windows} {r : Nat} {q : Request}
    (asked : c.requests[r]? = some q) (before : q.phase ≠ .parked) :
    Admission (c.admitRequest w r q) := by
  have phase : c.phaseOf r = some q.phase := by simp [phaseOf, asked]
  have outside : c.phaseOf r ≠ some .parked := by
    rw [phase]
    intro parked
    exact before (Option.some.inj parked)
  obtain ⟨cause, _, done⟩ | ⟨up, _, _, done⟩ | ⟨up, staying, full, done⟩ := c.admitRequest_cases w r q
  · rw [done]
    exact admission.setPhase outside (by rintro ⟨⟩)
  · rw [done]
    obtain ⟨waiters, phases, -, closed, goaway, limit, active⟩ := c.openStream_opens up w r q
    refine admission.of_same waiters (fun k => ?_) closed goaway limit (by omega)
    rw [phases]
    split
    · rename_i same
      subst same
      simp [phase, before]
    · exact Iff.rfl
  · rw [done]
    refine ⟨fun k => ?_, ?_, fun _ => ⟨up, staying, full⟩⟩
    · rw [phaseOf_setPhase]
      change k ∈ c.streamSlotWaiters ++ [r] ↔ (if r = k then (c.phaseOf k).map _ else c.phaseOf k) = _
      split
      · rename_i same
        subst same
        simp [phase]
      · rename_i other
        rw [List.mem_append, List.mem_singleton, admission.parked k]
        constructor
        · rintro (parked | same)
          · exact parked
          · exact absurd same.symm other
        · exact .inl
    · refine List.nodup_append.2 ⟨admission.distinct, List.nodup_singleton r, ?_⟩
      intro k inside k' new same
      subst same
      cases List.mem_singleton.1 new
      exact outside ((admission.parked r).1 inside)

/-- The connection once the signal of request `r` is aborted. -/
def marked (c : Conn H) (r : Nat) (reason : Cause) : Conn H :=
  { c with requests := c.requests.modify r fun q => { q with aborted := some reason } }

theorem phaseOf_marked (r k : Nat) (reason : Cause) : (c.marked r reason).phaseOf k = c.phaseOf k := by
  simp only [phaseOf, marked, List.getElem?_modify]
  cases c.requests[k]? with
  | none => rfl
  | some q => split <;> rfl

theorem abort_of_parked {r : Nat} {q : Request} (parked : q.phase = .parked) (reason : Cause) :
    c.abort r q reason =
      { c.marked r reason with streamSlotWaiters := c.streamSlotWaiters.erase r }.setPhase r
        .woken := by
  simp only [abort, parked]
  rfl

/-- The wake-up of an aborted waiter is its own. -/
theorem Admission.abort (admission : Admission c) (r : Nat) (q : Request) (reason : Cause) :
    Admission (c.abort r q reason) := by
  have noted : Admission (c.marked r reason) :=
    admission.of_same rfl (fun k => by rw [phaseOf_marked]) rfl rfl rfl (Nat.le_refl _)
  cases phase : q.phase with
  | parked =>
      rw [abort_of_parked phase]
      refine ⟨fun k => ?_, admission.distinct.erase r, fun some_ => ?_⟩
      · rw [phaseOf_setPhase]
        change k ∈ c.streamSlotWaiters.erase r ↔
          (if r = k then ((c.marked r reason).phaseOf k).map _
            else (c.marked r reason).phaseOf k) = _
        rw [admission.distinct.mem_erase_iff, phaseOf_marked, admission.parked k]
        split
        · rename_i same
          subst same
          cases c.phaseOf r <;> simp
        · rename_i other
          exact ⟨fun here => here.2, fun here => ⟨fun same => other same.symm, here⟩⟩
      · refine admission.full fun empty => some_ ?_
        change c.streamSlotWaiters.erase r = []
        rw [empty]
        rfl
  | opened id =>
      have done : c.abort r q reason = (c.marked r reason).abortStream id reason := by
        simp only [Conn.abort, phase]
        rfl
      rw [done]
      exact noted.stays (abortStream_stays _ id reason)
  | settingUp =>
      simp only [Conn.abort, phase]
      exact noted
  | woken =>
      simp only [Conn.abort, phase]
      exact noted
  | failed cause =>
      simp only [Conn.abort, phase]
      exact noted

/-- A new request is not parked. -/
theorem Admission.append (admission : Admission c) {q : Request} (phase : q.phase ≠ .parked) :
    Admission { c with requests := c.requests ++ [q] } := by
  refine admission.of_same rfl (fun r => ?_) rfl rfl rfl (Nat.le_refl _)
  simp only [phaseOf]
  by_cases old : r < c.requests.length
  · rw [List.getElem?_append_left old]
  · rw [List.getElem?_append_right (by omega), List.getElem?_eq_none (by omega : c.requests.length ≤ r)]
    constructor
    · intro parked
      obtain ⟨q', found, parked⟩ := Option.map_eq_some_iff.1 parked
      have new := List.mem_of_getElem? found
      cases List.mem_singleton.1 new
      exact absurd parked phase
    · intro parked
      cases parked

/-- **One event.** -/
theorem step_admission {w : Windows} {e : Event} (admission : Admission c)
    (stepped : c.step w e = some c') : Admission c' := by
  rcases step_requests stepped with stays | ⟨q, _, phase, rfl⟩ | ⟨r, q, asked, phase, rfl⟩ |
    ⟨r, q, asked, phase, rfl⟩ | ⟨r, q, reason, _, rfl⟩
  · exact admission.stays stays
  · refine admission.append ?_
    rcases phase with phase | ⟨cause, phase, -⟩
    · simp [phase]
    · simp [phase]
  · refine admission.admitRequest asked ?_
    rcases phase with phase | phase
    · simp [phase]
    · simp [phase]
  · exact admission.setPhase (by simp [phaseOf, asked, phase]) (by rintro ⟨⟩)
  · exact admission.abort r q reason

theorem abort_unopened (r : Nat) (q : Request) (reason : Cause) :
    (c.abort r q reason).headersSent = c.headersSent ∧
      (c.abort r q reason).nextStreamId = c.nextStreamId := by
  unfold abort
  simp only
  split
  · exact ⟨rfl, rfl⟩
  · exact (abortStream_stays _ _ reason).unopened
  · exact ⟨rfl, rfl⟩

/-! ## Stream ids -/

/-- Streams are opened with odd ids in increasing order, each by one HEADERS frame. -/
structure Ordered (c : Conn H) : Prop where
  next : c.nextStreamId % 2 = 1
  ids : (c.streams.map Stream.id).Pairwise (· < ·)
  below : ∀ s ∈ c.streams, s.id % 2 = 1 ∧ s.id < c.nextStreamId
  headers : c.headersSent = c.streams.map Stream.id

theorem Ordered.distinct (ordered : Ordered c) : (c.streams.map Stream.id).Nodup :=
  ordered.ids.imp fun less same => Nat.ne_of_lt less same

/-- An event that opens no stream. -/
theorem Ordered.of_ids (ordered : Ordered c) (ids : c'.streams.map Stream.id = c.streams.map Stream.id)
    (next : c'.nextStreamId = c.nextStreamId) (headers : c'.headersSent = c.headersSent) :
    Ordered c' := by
  refine ⟨next ▸ ordered.next, ids ▸ ordered.ids, fun s inside => ?_, ?_⟩
  · have known : s.id ∈ c.streams.map Stream.id := ids ▸ List.mem_map_of_mem inside
    obtain ⟨t, before, same⟩ := List.mem_map.1 known
    rw [← same, next]
    exact ordered.below t before
  · rw [headers, ids]
    exact ordered.headers

theorem Acts.ids {e : Event} (acts : Acts c e c') :
    c'.streams.map Stream.id = c.streams.map Stream.id := by
  obtain ⟨g, streams, effect⟩ := acts
  rw [streams, List.map_map]
  exact List.map_congr_left fun s member => (effect s member).id

theorem Ordered.openStream (ordered : Ordered c) (up : c.closed = false) (w : Windows) (r : Nat)
    (q : Request) : Ordered (c.openStream w r q) := by
  have opens := c.openStream_opens up w r q
  have streams := c.openStream_streams w r q
  have next : (c.openStream w r q).nextStreamId = c.nextStreamId + 2 :=
    (sendHeaders_same (c.withStream w q) _ _ _).nextStreamId
  refine ⟨?_, ?_, ?_, ?_⟩
  · rw [next]
    have := ordered.next
    omega
  · rw [streams, List.map_append]
    refine List.pairwise_append.2 ⟨ordered.ids, List.pairwise_singleton _ _, ?_⟩
    intro id old id' new
    obtain ⟨s, member, rfl⟩ := List.mem_map.1 old
    cases List.mem_singleton.1 new
    exact (ordered.below s member).2
  · intro s inside
    rw [next]
    rw [streams] at inside
    rcases List.mem_append.1 inside with old | new
    · obtain ⟨odd, below⟩ := ordered.below s old
      exact ⟨odd, by omega⟩
    · cases List.mem_singleton.1 new
      exact ⟨ordered.next, Nat.lt_add_of_pos_right (by decide)⟩
  · rw [opens.headersSent, streams, List.map_append, ordered.headers]
    rfl

theorem step_ordered {w : Windows} {e : Event} (ordered : Ordered c)
    (stepped : c.step w e = some c') : Ordered c' := by
  -- whatever leaves the next id alone has opened nothing
  have unopened : c'.nextStreamId = c.nextStreamId → c'.headersSent = c.headersSent →
      Ordered c' := by
    intro next headers
    rcases step_streams ordered.distinct stepped with ⟨acts, -⟩ | ⟨-, -, q, -, moved, -⟩
    · exact ordered.of_ids acts.ids next headers
    · omega
  rcases step_requests stepped with stays | ⟨q, _, phase, rfl⟩ | ⟨r, q, asked, phase, rfl⟩ |
    ⟨r, q, asked, phase, rfl⟩ | ⟨r, q, reason, _, rfl⟩
  · exact unopened stays.unopened.2 stays.unopened.1
  · exact unopened rfl rfl
  · obtain ⟨cause, _, done⟩ | ⟨up, _, _, done⟩ | ⟨up, _, _, done⟩ := c.admitRequest_cases w r q
    · rw [done] at unopened ⊢
      exact unopened rfl rfl
    · rw [done]
      exact ordered.openStream up w r q
    · rw [done] at unopened ⊢
      exact unopened rfl rfl
  · exact unopened rfl rfl
  · obtain ⟨headers, next⟩ := abort_unopened (c := c) r q reason
    exact unopened next headers

/-! ## Runs -/

theorem start_admission (H : Hpack) (w : Windows) : Admission (Conn.start H w) := by
  refine ⟨fun r => ?_, List.nodup_nil, fun some_ => absurd rfl some_⟩
  constructor
  · intro inside
    cases inside
  · intro parked
    cases parked

theorem start_ordered (H : Hpack) (w : Windows) : Ordered (Conn.start H w) := by
  refine ⟨rfl, List.Pairwise.nil, ?_, ?_⟩
  · intro s member
    cases member
  · simp only [headersSent, Conn.start]
    split
    · rfl
    · rfl

theorem slots_of_reaches {w : Windows} {c : Conn H}
    (reached : (sessionMachine H w).Reaches Machine.always c) : Admission c ∧ Ordered c := by
  refine Machine.Steps.invariant (fun c : Conn H => Admission c ∧ Ordered c) ?_ reached
    ⟨start_admission H w, start_ordered H w⟩
  rintro c e c' ⟨admission, ordered⟩ _ stepped
  exact ⟨step_admission admission stepped, step_ordered ordered stepped⟩

/-- Only a request that finds a free slot opens a stream, and takes it. -/
theorem activeStreams_of_opens {w : Windows} {e : Event} (ordered : Ordered c)
    (stepped : c.step w e = some c') (opens : c.streams.length < c'.streams.length) :
    c'.nextStreamId = c.nextStreamId + 2 ∧
      ∀ limit ∈ c'.remote.maxConcurrentStreams, c'.activeStreams ≤ limit := by
  rcases step_streams ordered.distinct stepped with ⟨acts, -⟩ | ⟨-, -, q, streams, moved, -⟩
  · have same := congrArg List.length acts.ids
    simp only [List.length_map] at same
    omega
  refine ⟨moved, ?_⟩
  rcases step_requests stepped with stays | ⟨q, _, phase, rfl⟩ | ⟨r, q, asked, phase, rfl⟩ |
    ⟨r, q, asked, phase, rfl⟩ | ⟨r, q, reason, _, rfl⟩
  · have := stays.unopened.2
    omega
  · have : c.nextStreamId = c.nextStreamId + 2 := moved
    omega
  · obtain ⟨cause, _, done⟩ | ⟨up, _, free, done⟩ | ⟨up, _, _, done⟩ := c.admitRequest_cases w r q
    · rw [done] at moved
      have : c.nextStreamId = c.nextStreamId + 2 := moved
      omega
    · rw [done]
      obtain ⟨-, -, -, -, -, limit, active⟩ := c.openStream_opens up w r q
      intro n limited
      rw [limit, Option.mem_def] at limited
      have room : c.activeStreams < n := by
        rw [canOpenStream, limited] at free
        simpa using free
      rw [active, if_pos ordered.next]
      omega
    · rw [done] at moved
      have : c.nextStreamId = c.nextStreamId + 2 := moved
      omega
  · have : c.nextStreamId = c.nextStreamId + 2 := moved
    omega
  · have := (abort_unopened (c := c) r q reason).2
    omega

/-- **Stream slots.**  In every run: streams are opened with odd ids in increasing order,
each announced by one HEADERS frame; the event that opens one leaves no more client
streams than the limit then in force; a parked request is parked because the connection
is up and full; and the abort of a parked request takes its own entry and no other. -/
theorem admission_of_reaches {w : Windows} {c : Conn H}
    (reached : (sessionMachine H w).Reaches Machine.always c) :
    (c.headersSent = c.streams.map Stream.id ∧ (c.streams.map Stream.id).Pairwise (· < ·) ∧
      ∀ s ∈ c.streams, s.id % 2 = 1) ∧
    (∀ e c', c.step w e = some c' → c.streams.length < c'.streams.length →
      ∀ limit ∈ c'.remote.maxConcurrentStreams, c'.activeStreams ≤ limit) ∧
    (∀ r, r ∈ c.streamSlotWaiters ↔ c.phaseOf r = some .parked) ∧
    (∀ r ∈ c.streamSlotWaiters,
      c.closed = false ∧ c.goawayReceived = false ∧ c.canOpenStream = false) ∧
    ∀ r reason c', r ∈ c.streamSlotWaiters → c.step w (.abort r reason) = some c' →
      c'.streamSlotWaiters = c.streamSlotWaiters.erase r ∧ r ∉ c'.streamSlotWaiters ∧
        ∀ k, k ≠ r → c'.requests[k]? = c.requests[k]? := by
  obtain ⟨admission, ordered⟩ := slots_of_reaches reached
  refine ⟨⟨ordered.headers, ordered.ids, fun s inside => (ordered.below s inside).1⟩, ?_,
    admission.parked, ?_, ?_⟩
  · intro e c' stepped opens
    exact (activeStreams_of_opens ordered stepped opens).2
  · intro r inside
    exact admission.full (List.ne_nil_of_mem inside)
  · intro r reason c' inside stepped
    obtain ⟨q, asked, parked⟩ := Option.map_eq_some_iff.1 ((admission.parked r).1 inside)
    have done : c' = c.abort r q reason := by
      simp only [step, asked] at stepped
      split at stepped
      · cases stepped
      · exact (Option.some.inj stepped).symm
    rw [done, abort_of_parked parked]
    refine ⟨rfl, admission.distinct.not_mem_erase, fun k other => ?_⟩
    simp [setPhase, marked, other.symm]

end Conn

/-! ## A full connection -/

/-- The peer allows one stream.  The second request parks, is woken when the first stream
is reset, and opens the next stream. -/
def oneSlot : List Event :=
  [.recv (.settings false { maxConcurrentStreams := some 1 }), .request [0x82] false, .ready 0,
    .request [0x82] false, .ready 1, .request [0x82] false, .ready 2, .abort 2 .aborted,
    .recv (.rstStream 1 8), .resume 1]

theorem admission_oneSlot :
    ∃ c : Conn statusOnly,
      (sessionMachine statusOnly smallWindows).run Machine.always
        (sessionMachine statusOnly smallWindows).init oneSlot = some c ∧
      c.headersSent = [1, 3] ∧ c.activeStreams = 1 ∧ c.streamSlotWaiters = [] ∧
      c.headersSent = c.streams.map Stream.id := by
  refine ⟨_, rfl, rfl, rfl, rfl, ?_⟩
  have slots := Conn.admission_of_reaches
    (Machine.steps_of_run (M := sessionMachine statusOnly smallWindows) oneSlot rfl)
  exact slots.1.1

end GrpcBridge.H2
