/-
# Retry.TransparentRetry -- an RPC without a policy is sent again only if it may be

Without a policy the loop goes from one attempt to the next in one way: the error of the
attempt has evidence in `failures` (`stepCall_follows`).  That entry was made by
`attemptError` for an `H2Error` of the attempt's own request, if no error came in from
outside with an entry of its own; and such an `H2Error` means what it says
(`H2.RetryEvidence`).  A `Try` of which this is known is `Excused`.
-/
import GrpcBridge.Retry.Attempts

namespace GrpcBridge.Retry

open GrpcBridge.Theory
open GrpcBridge.H2 (Hpack Windows Conn Cause Evidence)

set_option autoImplicit false

variable {H : Hpack} {M : Type} {w : Windows} {o : RetryOptions} {c : Codec M}

/-! ## From one attempt to the next -/

/-- What a step of its loop does to a call: it stays where it is or ends an attempt, or
starts one. -/
def Follows (e : CallEvent) (call call' : Call M) : Prop :=
  call'.policy = call.policy ∧
    ((call'.invoked = call.invoked ∧ (e = .selected → call'.phase ≠ .invoking) ∧
        (call'.betweenAttempts = true → call.betweenAttempts = true ∨
          ∃ error random, e = .fails error random ∧
            (error.evidence.isSome = true ∨ call.policy.isSome = true))) ∨
      (e = .selected ∧ call.betweenAttempts = true ∧ call'.phase = .invoking ∧
        call'.invoked.length = call.invoked.length + 1))

variable {t t' : Transport M} {i : Nat} {call : Call M}

/-- A step that leaves the phase alone, or leaves the window between two attempts. -/
theorem Follows.still {e : CallEvent} {call' : Call M} (policy : call'.policy = call.policy)
    (invoked : call'.invoked = call.invoked) (selected : e = .selected → call'.phase ≠ .invoking)
    (between : call'.betweenAttempts = true → call.betweenAttempts = true) :
    Follows e call call' :=
  ⟨policy, .inl ⟨invoked, selected, fun going => .inl (between going)⟩⟩

theorem Moved.follows {e : CallEvent} {t₀ : Transport M} {call' : Call M}
    (moved : Moved o c t call e t₀ call') : Follows e call call' := by
  cases moved with
  | replay other _ => exact .still rfl rfl (fun same => absurd same other) id
  | spills _ _ _ | saves _ _ _ _ _ | aborts | commits _ =>
      refine .still rfl rfl (fun same => ?_) id
      cases same
  | invokes selecting =>
      refine ⟨rfl, .inr ⟨rfl, ?_, rfl, by simp⟩⟩
      simp [Call.betweenAttempts, selecting]
  | throws _ | returns | streams | closes _ =>
      refine .still rfl rfl (fun _ invoking => ?_) fun between => ?_
      · cases invoking
      · cases between
  | reselects selecting _ pauses =>
      refine .still pauses.policy pauses.invoked (fun same => ?_) fun _ => ?_
      · cases same
      · simp [Call.betweenAttempts, selecting]
  | @retries error random _ _ _ pauses =>
      refine ⟨pauses.policy, .inl ⟨pauses.invoked, fun same => ?_, fun _ => ?_⟩⟩
      · cases same
      · exact .inr ⟨error, random, rfl, pauses.excuse⟩
  | resumes pausing =>
      refine .still rfl rfl (fun same => ?_) fun _ => ?_
      · cases same
      · simp [Call.betweenAttempts, pausing]

/-- **One step of a call.** -/
theorem stepCall_follows {e : CallEvent} (stepped : t.stepCall o c i call e = some t') :
    ∃ call', t'.calls = t.calls.set i call' ∧ Follows e call call' := by
  obtain ⟨t₀, call', rfl, moved⟩ := stepCall_moves stepped
  exact ⟨call', by rw [Transport.setCall, moved.calls], moved.follows⟩

/-! ## Excused attempts -/

/-- The peer never received the request of this attempt, or refused it. -/
def Excused (conns : List (Conn H)) (t : Try) : Prop :=
  ∃ k r conn, t.request = some (k, r) ∧ conns[k]? = some conn ∧
    ((∃ cause, conn.phaseOf r = some (.failed cause)) ∨
      ∃ id, conn.phaseOf r = some (.opened id) ∧ conn.Refused id)

/-- Connections are added, and what was settled and received on them stays. -/
def Later (conns conns' : List (Conn H)) : Prop :=
  ∀ (k : Nat) (conn : Conn H), conns[k]? = some conn → ∃ conn', conns'[k]? = some conn' ∧
    conn.received ⊆ conn'.received ∧
    ∀ r p, conn.phaseOf r = some p → p.settled = true → conn'.phaseOf r = some p

theorem later_append (conns : List (Conn H)) (conn : Conn H) : Later conns (conns ++ [conn]) := by
  intro k conn' found
  have bound := (List.getElem?_eq_some_iff.1 found).1
  refine ⟨conn', ?_, List.Subset.refl _, fun _ _ phase _ => phase⟩
  rw [List.getElem?_append_left bound]
  exact found

theorem later_set {conns : List (Conn H)} {k : Nat} {conn conn' : Conn H} {e : H2.Event}
    (found : conns[k]? = some conn) (attested : conn.Attested) (stepped : conn.step w e = some conn') :
    Later conns (conns.set k conn') := by
  intro k' other there
  by_cases same : k = k'
  · subst same
    cases found.symm.trans there
    have bound := (List.getElem?_eq_some_iff.1 found).1
    refine ⟨conn', List.getElem?_set_self bound, ?_, fun r p phase settled => ?_⟩
    · have kept := Conn.step_received attested.ordered.distinct stepped
      cases e with
      | recv f => exact List.Subset.trans (List.subset_append_left _ _) kept
      | _ => exact kept
    · exact Conn.step_settled attested stepped phase settled
  · refine ⟨other, ?_, List.Subset.refl _, fun _ _ phase _ => phase⟩
    rw [List.getElem?_set_ne same]
    exact there

theorem Excused.later {conns conns' : List (Conn H)} {t : Try} (excused : Excused conns t)
    (later : Later conns conns') : Excused conns' t := by
  obtain ⟨k, r, conn, request, found, known⟩ := excused
  obtain ⟨conn', found', received, settled⟩ := later k conn found
  refine ⟨k, r, conn', request, found', ?_⟩
  rcases known with ⟨cause, failed⟩ | ⟨id, opened, refused⟩
  · exact .inl ⟨cause, settled r _ failed rfl⟩
  · exact .inr ⟨id, settled r _ opened rfl, refused.mono received⟩

/-- **Evidence.**  An attempt whose request failed with evidence is excused. -/
theorem excused_of_evidence {conns : List (Conn H)} {t : Try} {k r : Nat} {conn : Conn H}
    {cause : Cause} (attested : conn.Attested) (request : t.request = some (k, r))
    (found : conns[k]? = some conn) (failed : cause ∈ failuresOf conn r)
    (evidence : cause.evidence.isSome = true) : Excused conns t := by
  refine ⟨k, r, conn, request, found, ?_⟩
  unfold failuresOf at failed
  split at failed
  · rename_i cause' phase
    exact .inl ⟨cause', phase⟩
  · rename_i id phase
    cases there : conn.stream id with
    | none =>
        rw [there] at failed
        cases failed
    | some s =>
        rw [there] at failed
        obtain ⟨member, rfl⟩ := conn.stream_eq_some there
        rcases attested.streams s member cause failed with bare | ⟨_, refused⟩
        · rw [bare] at evidence
          cases evidence
        · exact .inr ⟨s.id, phase, refused⟩
  · cases failed

/-! ## Calls -/

/-- What is known of the attempts of a call. -/
structure Accounted (conns : List (Conn H)) (call : Call M) (ts : Tries) : Prop where
  counted : ts.earlier.length + ts.last.toList.length = call.invoked.length
  plain : ∀ t ∈ ts.last, ∀ reason ∈ t.aborted, reason.evidence = none
  earlier : call.policy = none → ∀ t ∈ ts.earlier, Excused conns t
  between : call.policy = none → call.betweenAttempts = true → ∀ t ∈ ts.last, Excused conns t

theorem Accounted.later {conns conns' : List (Conn H)} {ts : Tries}
    (accounted : Accounted conns call ts) (later : Later conns conns') :
    Accounted conns' call ts :=
  ⟨accounted.counted, accounted.plain,
    fun free t inside => (accounted.earlier free t inside).later later,
    fun free going t inside => (accounted.between free going t inside).later later⟩

/-- A step that starts no attempt. -/
theorem Accounted.follows {conns : List (Conn H)} {ts : Tries} {call' : Call M}
    (accounted : Accounted conns call ts) (policy : call'.policy = call.policy)
    (invoked : call'.invoked = call.invoked)
    (between : call.policy = none → call'.betweenAttempts = true → ∀ t ∈ ts.last, Excused conns t) :
    Accounted conns call' ts :=
  ⟨invoked ▸ accounted.counted, accounted.plain, fun free => accounted.earlier (policy ▸ free),
    fun free => between (policy ▸ free)⟩

/-- An attempt is started: the last one is now an earlier one. -/
theorem Accounted.start {conns : List (Conn H)} {ts : Tries} {call' : Call M}
    (accounted : Accounted conns call ts) (policy : call'.policy = call.policy)
    (going : call.betweenAttempts = true) (invoking : call'.phase = .invoking)
    (invoked : call'.invoked.length = call.invoked.length + 1) :
    Accounted conns call' ts.start := by
  refine ⟨?_, ?_, fun free t inside => ?_, fun _ between => ?_⟩
  · have counted := accounted.counted
    simp only [Tries.start, List.length_append, Option.toList_some, List.length_singleton, invoked]
    omega
  · rintro t ⟨⟩
    exact nofun
  · rw [policy] at free
    rcases List.mem_append.1 inside with old | last
    · exact accounted.earlier free t old
    · exact accounted.between free going t (by simpa using last)
  · simp [Call.betweenAttempts, invoking] at between

/-- Something happens to the running attempt. -/
theorem Accounted.modify {conns : List (Conn H)} {ts : Tries} {f : Try → Try}
    (accounted : Accounted conns call ts) (invoking : call.phase = .invoking)
    (plain : ∀ t ∈ ts.last, ∀ reason ∈ (f t).aborted, reason.evidence = none) :
    Accounted conns call (ts.modify f) := by
  refine ⟨?_, ?_, accounted.earlier, fun _ between => ?_⟩
  · have counted := accounted.counted
    cases last : ts.last <;> simp_all [Tries.modify]
  · intro t inside
    obtain ⟨t₀, there, rfl⟩ := Option.map_eq_some_iff.1 inside
    exact plain t₀ there
  · simp [Call.betweenAttempts, invoking] at between

/-- Nothing that is known of the running attempt changes. -/
theorem Accounted.modify_same {conns : List (Conn H)} {ts : Tries} {f : Try → Try}
    (accounted : Accounted conns call ts) (request : ∀ t, (f t).request = t.request)
    (aborted : ∀ t, (f t).aborted = t.aborted) : Accounted conns call (ts.modify f) := by
  refine ⟨?_, ?_, accounted.earlier, fun free going t inside => ?_⟩
  · have counted := accounted.counted
    cases last : ts.last <;> simp_all [Tries.modify]
  · intro t inside
    obtain ⟨t₀, there, rfl⟩ := Option.map_eq_some_iff.1 inside
    rw [aborted]
    exact accounted.plain t₀ there
  · obtain ⟨t₀, there, rfl⟩ := Option.map_eq_some_iff.1 inside
    obtain ⟨k, r, conn, same, known⟩ := accounted.between free going t₀ there
    exact ⟨k, r, conn, (request t₀).trans same, known⟩

structure Sound (b : Bridge H M) : Prop where
  conns : ∀ conn ∈ b.conns, conn.Attested
  length : b.tries.length = b.transport.calls.length
  calls : ∀ (i : Nat) (call : Call M) (ts : Tries), b.transport.calls[i]? = some call →
    b.tries[i]? = some ts → Accounted b.conns call ts

namespace Sound

variable {b : Bridge H M} {call' : Call M} {ts : Tries}

/-- A call always has its attempts. -/
theorem tries_of_call (sound : Sound b) (found : b.transport.calls[i]? = some call) :
    ∃ ts, b.tries[i]? = some ts := by
  have bound := (List.getElem?_eq_some_iff.1 found).1
  rw [← sound.length] at bound
  exact ⟨_, List.getElem?_eq_getElem bound⟩

/-- One call and its attempts change. -/
theorem update (sound : Sound b) (found : b.transport.calls[i]? = some call)
    (there : b.tries[i]? = some ts) {f : Tries → Tries}
    (calls : t'.calls = b.transport.calls.set i call') (accounted : Accounted b.conns call' (f ts)) :
    Sound { b with transport := t', tries := b.tries.modify i f } := by
  have bound := (List.getElem?_eq_some_iff.1 found).1
  refine ⟨sound.conns, ?_, fun j other ts' atCall atTries => ?_⟩
  · simp only [calls, List.length_modify, List.length_set]
    exact sound.length
  · simp only [calls] at atCall
    by_cases same : i = j
    · subst same
      rw [List.getElem?_set_self bound] at atCall
      cases atCall
      rw [List.getElem?_modify_eq, there] at atTries
      cases atTries
      exact accounted
    · rw [List.getElem?_set_ne same] at atCall
      rw [List.getElem?_modify_ne f b.tries same] at atTries
      exact sound.calls j other ts' atCall atTries

/-- One call changes and its attempts do not. -/
theorem update_call (sound : Sound b) (found : b.transport.calls[i]? = some call)
    (there : b.tries[i]? = some ts) (calls : t'.calls = b.transport.calls.set i call')
    (accounted : Accounted b.conns call' ts) : Sound { b with transport := t' } := by
  have kept := sound.update (f := id) found there calls accounted
  rwa [List.modify_id] at kept

/-- The connections move on. -/
theorem update_conns (sound : Sound b) {conns : List (Conn H)}
    (attested : ∀ conn ∈ conns, conn.Attested) (later : Later b.conns conns) :
    Sound { b with conns } :=
  ⟨attested, sound.length, fun i call ts found there => (sound.calls i call ts found there).later later⟩

theorem attested_set (sound : Sound b) {k : Nat} {conn conn' : Conn H} {e : H2.Event}
    (found : b.conns[k]? = some conn) (plain : Conn.foreign e = none)
    (stepped : conn.step w e = some conn') : ∀ other ∈ b.conns.set k conn', other.Attested := by
  intro other inside
  rcases List.mem_or_eq_of_mem_set inside with old | rfl
  · exact sound.conns other old
  · exact Conn.step_attested (sound.conns conn (List.mem_of_getElem? found)) plain stepped

/-- The running attempt belongs to an invoking call. -/
theorem of_running {attempt : Try} (running : b.running i = some attempt) :
    ∃ call ts, b.transport.calls[i]? = some call ∧ call.phase = .invoking ∧
      b.tries[i]? = some ts ∧ ts.last = some attempt := by
  unfold Bridge.running at running
  split at running
  · rename_i ts invoking there
    obtain ⟨call, found, phase⟩ := Option.map_eq_some_iff.1 invoking
    exact ⟨call, ts, found, phase, there, running⟩
  · cases running

/-- The running attempt of call `i` is changed. -/
theorem modify_running (sound : Sound b) {attempt : Try} (running : b.running i = some attempt)
    {f : Try → Try} (plain : ∀ reason ∈ (f attempt).aborted, reason.evidence = none) :
    Sound { b with tries := b.tries.modify i (·.modify f) } := by
  obtain ⟨call, ts, found, invoking, there, last⟩ := of_running running
  have accounted := sound.calls i call ts found there
  have same : b.transport.calls = b.transport.calls.set i call := by
    obtain ⟨bound, here⟩ := List.getElem?_eq_some_iff.1 found
    rw [← here, List.set_getElem_self]
  refine sound.update found there same (accounted.modify invoking ?_)
  rw [last]
  rintro _ ⟨⟩
  exact plain

/-- An event of the transport that ends no attempt. -/
theorem transport (sound : Sound b) {e : TransportEvent M}
    (other : ∀ i error random, e ≠ .call i (.fails error random))
    (stepped : b.transport.step o c e = some t') :
    Sound { b with transport := t', tries := b.follow t' e } := by
  cases e with
  | «open» key kind source =>
      cases stepped
      refine ⟨sound.conns, ?_, fun i call ts found there => ?_⟩
      · simp only [Bridge.follow, List.length_append, List.length_singleton, sound.length]
      · simp only [Bridge.follow] at found there
        by_cases old : i < b.transport.calls.length
        · rw [List.getElem?_append_left old] at found
          rw [List.getElem?_append_left (sound.length ▸ old)] at there
          exact sound.calls i call ts found there
        · have new := (List.mem_singleton.1 (List.mem_of_getElem?
            (List.getElem?_append_right (Nat.le_of_not_lt old) ▸ found)))
          have empty := (List.mem_singleton.1 (List.mem_of_getElem?
            (List.getElem?_append_right (sound.length ▸ Nat.le_of_not_lt old) ▸ there)))
          subst new empty
          exact ⟨rfl, nofun, fun _ _ inside => (nomatch inside), fun _ _ => nofun⟩
  | call i e =>
      simp only [Transport.step] at stepped
      split at stepped
      · rename_i call found
        obtain ⟨ts, there⟩ := sound.tries_of_call found
        have accounted := sound.calls i call ts found there
        have bound := (List.getElem?_eq_some_iff.1 found).1
        obtain ⟨call', calls, policy, still | ⟨rfl, going, invoking, invoked⟩⟩ :=
          stepCall_follows stepped
        · obtain ⟨invoked, selected, between⟩ := still
          have accounted' : Accounted b.conns call' ts := by
            refine accounted.follows policy invoked fun free going => ?_
            rcases between going with before | ⟨error, random, rfl, _⟩
            · exact accounted.between free before
            · exact absurd rfl (other i error random)
          cases e with
          | selected =>
              have stays : ¬ t'.calls[i]?.map Call.phase = some .invoking := by
                rw [calls, List.getElem?_set_self bound]
                intro invoking
                exact selected rfl (Option.some.inj invoking)
              simp only [Bridge.follow, if_neg stays]
              exact sound.update_call found there calls accounted'
          | headers =>
              simp only [Bridge.follow]
              exact sound.update found there calls
                (accounted'.modify_same (fun _ => rfl) fun _ => rfl)
          | _ => exact sound.update_call found there calls accounted'
        · have starts : t'.calls[i]?.map Call.phase = some .invoking := by
            rw [calls, List.getElem?_set_self bound]
            exact congrArg some invoking
          simp only [Bridge.follow, if_pos starts]
          exact sound.update found there calls (accounted.start policy going invoking invoked)
      · cases stepped

/-- The failure of the running attempt of call `i`. -/
theorem fails (sound : Sound b) {attempt : Try} (running : b.running i = some attempt)
    {error : CallError} {random : ℚ}
    (excuse : error.evidence.isSome = true → Excused b.conns attempt)
    (stepped : b.transport.step o c (.call i (.fails error random)) = some t') :
    Sound { b with transport := t' } := by
  obtain ⟨call, ts, found, invoking, there, last⟩ := of_running running
  have accounted := sound.calls i call ts found there
  simp only [Transport.step, found] at stepped
  obtain ⟨call', calls, policy, ⟨invoked, _, between⟩ | ⟨selected, _⟩⟩ := stepCall_follows stepped
  · refine sound.update_call found there calls (accounted.follows policy invoked ?_)
    intro free going t inside
    rw [last] at inside
    cases inside
    rcases between going with before | ⟨_, _, same, evident | configured⟩
    · simp [Call.betweenAttempts, invoking] at before
    · cases same
      exact excuse evident
    · rw [free] at configured
      cases configured
  · cases selected

end Sound

/-- The error of an attempt has evidence only if its request has. -/
theorem translate_evidence {attempt : Try} (cause : Cause) (status : Status)
    (plain : ∀ reason ∈ attempt.aborted, reason.evidence = none) :
    (attempt.translate cause status).evidence = none ∨
      (attempt.translate cause status).evidence = cause.evidence := by
  unfold Try.translate
  split
  · rename_i reason aborted
    left
    split
    · exact plain reason aborted
    · rfl
  · exact .inr rfl

/-- **One event.** -/
theorem step_sound {b b' : Bridge H M} {e : BridgeEvent M} (sound : Sound b)
    (plain : e.tainted = false) (stepped : b.step w o c e = some b') : Sound b' := by
  -- the reason of a running attempt carries no evidence
  have reasons : ∀ {i : Nat} {attempt : Try}, b.running i = some attempt →
      ∀ reason ∈ attempt.aborted, reason.evidence = none := by
    intro i attempt running
    obtain ⟨call, ts, found, _, there, last⟩ := Sound.of_running running
    exact (sound.calls i call ts found there).plain attempt last
  cases e with
  | dial =>
      cases stepped
      refine sound.update_conns (fun conn inside => ?_) (later_append _ _)
      rcases List.mem_append.1 inside with old | new
      · exact sound.conns conn old
      · cases List.mem_singleton.1 new
        exact Conn.start_attested H w
  | conn k e =>
      simp only [Bridge.step] at stepped
      split at stepped
      · rename_i conn found
        obtain ⟨conn', moved, rfl⟩ := Option.map_eq_some_iff.1 stepped
        have bare : Conn.foreign e = none := by simpa [BridgeEvent.tainted] using plain
        exact sound.update_conns (sound.attested_set found bare moved)
          (later_set found (sound.conns conn (List.mem_of_getElem? found)) moved)
      · cases stepped
  | transport e =>
      have other : ∀ i error random, e ≠ .call i (.fails error random) := by
        rintro i error random rfl
        cases stepped
      have done : (b.transport.step o c e).map (fun t =>
          { b with transport := t, tries := b.follow t e }) = some b' := by
        rw [← stepped]
        cases e with
        | «open» => rfl
        | call i e =>
            cases e with
            | fails error random => exact absurd rfl (other i error random)
            | _ => rfl
      obtain ⟨t', moved, rfl⟩ := Option.map_eq_some_iff.1 done
      exact sound.transport other moved
  | request i k block hasBody =>
      simp only [Bridge.step] at stepped
      split at stepped
      · rename_i aborted committed conn running found
        obtain ⟨conn', moved, rfl⟩ := Option.map_eq_some_iff.1 stepped
        have later := later_set found (sound.conns conn (List.mem_of_getElem? found)) moved
        have conns := sound.update_conns (sound.attested_set found rfl moved) later
        have bare := reasons running
        exact conns.modify_running running bare
      · cases stepped
  | abort i reason =>
      simp only [Bridge.step] at stepped
      split at stepped
      · rename_i request committed running
        cases stepped
        refine sound.modify_running running ?_
        rintro _ ⟨⟩
        simpa [BridgeEvent.tainted] using plain
      · cases stepped
  | requestFails i cause status random =>
      simp only [Bridge.step] at stepped
      split at stepped
      · rename_i attempt running
        split at stepped
        · rename_i k r request
          split at stepped
          · rename_i conn found
            obtain ⟨failed, moved⟩ := Option.ite_none_right_eq_some.1 stepped
            obtain ⟨t', failing, rfl⟩ := Option.map_eq_some_iff.1 moved
            refine sound.fails running (fun evident => ?_) failing
            have attested := sound.conns conn (List.mem_of_getElem? found)
            rcases translate_evidence cause status (reasons running) with bare | same
            · rw [bare] at evident
              cases evident
            · exact excused_of_evidence attested request found failed (same ▸ evident)
          · cases stepped
        · cases stepped
      · cases stepped
  | fails i status random =>
      simp only [Bridge.step] at stepped
      split at stepped
      · rename_i attempt running
        obtain ⟨t', moved, rfl⟩ := Option.map_eq_some_iff.1 stepped
        refine sound.fails running (fun evident => ?_) moved
        rcases translate_evidence .transport status (reasons running) with bare | bare
        · rw [bare] at evident
          cases evident
        · rw [bare] at evident
          cases evident
      · cases stepped

/-! ## Runs -/

/-- What the failures on one connection prove. -/
structure Proves (w : Windows) (conn : Conn H) : Prop where
  /-- Every HEADERS frame that was sent is that of one request, which has its stream. -/
  headers : ∀ id ∈ conn.headersSent, ∃ r, conn.phaseOf r = some (.opened id) ∧
    ∀ r', conn.phaseOf r' = some (.opened id) → r' = r
  /-- Only a stream reads a request body, and every stream has sent its HEADERS. -/
  streams : conn.streams.map H2.Stream.id = conn.headersSent
  /-- A request that fails without a stream was unsent, or its failure says nothing. -/
  unsent : ∀ r cause, conn.phaseOf r = some (.failed cause) →
    cause.evidence = none ∨ cause.evidence = some .unsent
  /-- A request that fails with a stream, or its body, was refused, or it says nothing. -/
  refused : ∀ s ∈ conn.streams, ∀ cause ∈ s.causes,
    cause.evidence = none ∨ cause.evidence = some .refused ∧ conn.Refused s.id
  /-- A request that has failed or has its stream stays so. -/
  settled : ∀ e conn', conn.step w e = some conn' → ∀ r p, conn.phaseOf r = some p →
    p.settled = true → conn'.phaseOf r = some p
  /-- Nothing is sent after a GOAWAY or on a closed connection. -/
  quiet : (conn.closed = true ∨ ∃ lastStreamId errorCode debugData,
      .goaway lastStreamId errorCode debugData ∈ conn.received) →
    ∀ e conn', conn.step w e = some conn' → conn'.headersSent = conn.headersSent

theorem proves_of_attested {conn : Conn H} (attested : conn.Attested) : Proves w conn := by
  refine ⟨fun id inside => ?_, attested.ordered.headers.symm, attested.failed, attested.streams,
    fun e conn' stepped r p => Conn.step_settled attested stepped, fun quieted e conn' stepped => ?_⟩
  · obtain ⟨r, opened⟩ := attested.owners id inside
    exact ⟨r, opened, fun r' other => attested.unique r' r id other opened⟩
  · rcases Conn.step_moves attested.admission attested.untainted stepped with
      ⟨headers, _⟩ | ⟨up, staying, _⟩
    · exact headers
    · have ended : conn.goawayReceived = true ∨ conn.closed = true := by
        rcases quieted with closed | ⟨last, code, debug, logged⟩
        · exact .inr closed
        · exact attested.heard last code debug logged
      rcases ended with going | closed
      · rw [staying] at going
        cases going
      · rw [up] at closed
        cases closed

theorem sound_of_reaches {b : Bridge H M}
    (reached : (bridgeMachine w o c H).Reaches (fun _ e => e.tainted = false) b) : Sound b := by
  refine Machine.Steps.invariant Sound (fun _ _ _ sound plain stepped =>
    step_sound sound plain stepped) reached ⟨?_, rfl, ?_⟩
  · intro conn inside
    cases inside
  · intro i call ts found
    cases found

/-- **Retry evidence.**  In every run in which no error comes in with evidence of its own:
the failures on every connection prove what they say, nothing is sent after a GOAWAY or
on a closed connection, and a call without a policy is sent again only after attempts
that the peer never received or refused. -/
theorem evidence_of_reaches {b : Bridge H M}
    (reached : (bridgeMachine w o c H).Reaches (fun _ e => e.tainted = false) b) :
    (∀ conn ∈ b.conns, Proves w conn) ∧
      ∀ (i : Nat) (call : Call M), b.transport.calls[i]? = some call → call.policy = none →
        ∃ ts, b.tries[i]? = some ts ∧
          ts.earlier.length + ts.last.toList.length = call.invoked.length ∧
          ∀ t ∈ ts.earlier, Excused b.conns t := by
  have sound := sound_of_reaches reached
  refine ⟨fun conn inside => proves_of_attested (sound.conns conn inside), ?_⟩
  intro i call found free
  obtain ⟨ts, there⟩ := sound.tries_of_call found
  have accounted := sound.calls i call ts found there
  exact ⟨ts, there, accounted.counted, accounted.earlier free⟩

/-! ## Refused, and handed on -/

/-- A streaming call whose request is on its way on stream 1. -/
def sentOnce : List (BridgeEvent (List UInt8)) :=
  [.dial, .transport (.open "/demo.Service/Collect" .stream fun _ => none),
    .transport (.call 0 .selected), .request 0 0 [0x82] true, .conn 0 (.ready 0)]

/-- What a GOAWAY that excludes stream 1 fails it with. -/
def excludedFirst : Cause :=
  .h2 { code := .noError, message := "GOAWAY excludes this stream", streamId := some 1
        retry := some .refused }

/-- The peer goes away without having taken the stream, and the call is sent again. -/
def refusedOnce : List (BridgeEvent (List UInt8)) :=
  sentOnce ++ [.conn 0 (.recv (.goaway 0 0 [])), .requestFails 0 excludedFirst unavailable 0,
    .transport (.call 0 .pauseEnds), .transport (.call 0 .selected)]

/-- The input of the call throws the error of another RPC, which was refused. -/
def refusedElsewhere : List (BridgeEvent (List UInt8)) :=
  sentOnce ++ [.abort 0 refusedStream, .conn 0 (.abort 0 .aborted),
    .requestFails 0 .aborted unavailable 0, .transport (.call 0 .pauseEnds),
    .transport (.call 0 .selected)]

theorem evidence_refusedOnce :
    ∃ b, (bridgeMachine H2.smallWindows {} rawCodec H2.statusOnly).run
        (fun _ e => e.tainted = false)
        (bridgeMachine H2.smallWindows {} rawCodec H2.statusOnly).init refusedOnce = some b ∧
      b.transport.calls.map (·.invoked.length) = [2] ∧
      ∀ conn ∈ b.conns, Proves H2.smallWindows conn := by
  refine ⟨_, rfl, rfl, ?_⟩
  have evidence := evidence_of_reaches
    (Machine.steps_of_run (M := bridgeMachine H2.smallWindows {} rawCodec H2.statusOnly)
      refusedOnce rfl)
  exact evidence.1

/-- The peer has received the first attempt and refused nothing, and the call is sent
again. -/
theorem refusedElsewhere_resends :
    ¬ ∀ b : Bridge H2.statusOnly (List UInt8),
      (bridgeMachine H2.smallWindows {} rawCodec H2.statusOnly).Reaches Machine.always b →
      (∀ conn ∈ b.conns, Proves H2.smallWindows conn) ∧
        ∀ (i : Nat) (call : Call (List UInt8)), b.transport.calls[i]? = some call →
          call.policy = none → ∃ ts, b.tries[i]? = some ts ∧
            ts.earlier.length + ts.last.toList.length = call.invoked.length ∧
            ∀ t ∈ ts.earlier, Excused b.conns t := by
  intro never
  obtain ⟨ts, there, _, excused⟩ := (never _ (Machine.steps_of_run
    (M := bridgeMachine H2.smallWindows {} rawCodec H2.statusOnly) refusedElsewhere rfl)).2 0 _ rfl
    rfl
  cases there
  obtain ⟨k, r, conn, request, found, known⟩ := excused _ (.head _)
  cases request
  cases found
  rcases known with ⟨cause, failed⟩ | ⟨id, _, reset | ⟨_, _, _, goaway, _⟩⟩
  · cases failed
  · cases reset
  · cases goaway

end GrpcBridge.Retry
