/-
# Retry.Commitment -- no attempt is started for a committed RPC

The loop reads `replay.committed` in its catch block and then awaits a pause and a
connection.  In that window the running attempt is gone, so no response headers can
commit the RPC; what still can is the source read an earlier attempt left pending,
when the message it brings does not fit a budget (`Call.overflows`).

`quietBetweenAttempts` excludes exactly that step.  Along every run that meets it a
call between two attempts is uncommitted, and hence so is every call at the moment
it invokes an attempt.
-/
import GrpcBridge.Retry.Moves

namespace GrpcBridge.Retry

open GrpcBridge.Theory

set_option autoImplicit false

variable {M : Type}

/-- The loop is on its way from one attempt to the next. -/
def Call.betweenAttempts (call : Call M) : Bool :=
  match call.phase with
  | .selecting | .pausing _ _ => true
  | _ => false

/-- No source read brings a message over budget between two attempts of its call. -/
def quietBetweenAttempts (o : RetryOptions) (c : Codec M) (t : Transport M) :
    TransportEvent M → Bool
  | .call i .settle =>
      (t.calls[i]?).all fun call => !call.betweenAttempts || !call.overflows o c t.used
  | _ => true

/-! ## One step -/

/-- A call on its way to an attempt is uncommitted, and no attempt was invoked
for it after commitment. -/
structure CallOk (call : Call M) : Prop where
  uncommitted : call.betweenAttempts = true → call.replay.committed = false
  invoked : ∀ invocation ∈ call.invoked, invocation.committed = false

variable {o : RetryOptions} {c : Codec M}

/-- A call whose phase leaves the window keeps its record of invocations. -/
theorem CallOk.leave {call call' : Call M} (ok : CallOk call) (left : call'.betweenAttempts = false)
    (same : call'.invoked = call.invoked) : CallOk call' where
  uncommitted between := by simp [left] at between
  invoked := same ▸ ok.invoked

/-- The catch block enters the window only with an uncommitted replay. -/
theorem CallOk.pauses {call call' : Call M} {error : CallError} (ok : CallOk call)
    (pauses : Pauses call error call') : CallOk call' where
  uncommitted _ := by
    rw [pauses.replay]
    exact pauses.uncommitted
  invoked := by
    rw [pauses.invoked]
    exact ok.invoked

/-- **Every move of a call keeps it in order**, unless its source goes over budget. -/
theorem Moved.ok {t t₀ : Transport M} {call call' : Call M} {e : CallEvent}
    (moved : Moved o c t call e t₀ call') (ok : CallOk call)
    (quiet : e = .settle → call.betweenAttempts = true → call.overflows o c t.used = false) :
    CallOk call' := by
  cases moved with
  | replay _ store =>
      refine ⟨fun between => ?_, ok.invoked⟩
      exact (Replay.committed_of_store store).trans (ok.uncommitted between)
  | spills _ overflows _ =>
      refine ⟨fun between => ?_, ok.invoked⟩
      rw [quiet rfl between] at overflows
      cases overflows
  | saves bytes _ _ _ store => exact ⟨fun _ => congrArg (·.2.2) store, ok.invoked⟩
  | aborts => exact ⟨ok.uncommitted, ok.invoked⟩
  | invokes selecting =>
      refine ⟨fun between => ?_, fun invocation member => ?_⟩
      · cases between
      · rcases List.mem_append.1 member with earlier | now
        · exact ok.invoked _ earlier
        · rw [List.mem_singleton.1 now]
          exact ok.uncommitted (by simp [Call.betweenAttempts, selecting])
  | reselects _ _ pauses | retries _ pauses => exact ok.pauses pauses
  | resumes pausing =>
      refine ⟨fun _ => ok.uncommitted ?_, ok.invoked⟩
      simp [Call.betweenAttempts, pausing]
  | commits invoking => exact ok.leave (by simp [Call.betweenAttempts, invoking]) rfl
  | throws _ | returns | streams | closes _ => exact ok.leave rfl rfl

theorem step_ok {t t' : Transport M} {e : TransportEvent M}
    (ok : ∀ call ∈ t.calls, CallOk call) (quiet : quietBetweenAttempts o c t e = true)
    (stepped : t.step o c e = some t') : ∀ call ∈ t'.calls, CallOk call := by
  cases e with
  | «open» key kind source =>
      cases stepped
      intro call member
      rcases List.mem_append.1 member with earlier | now
      · exact ok call earlier
      · rw [List.mem_singleton.1 now]
        exact ⟨fun _ => rfl, fun _ none_ => by simp at none_⟩
  | call i e =>
      simp only [Transport.step] at stepped
      split at stepped
      · rename_i call found
        have window : e = .settle → call.betweenAttempts = true →
            call.overflows o c t.used = false := by
          rintro rfl between
          simpa [quietBetweenAttempts, found, between] using quiet
        obtain ⟨t₀, call', rfl, moved⟩ := stepCall_moves stepped
        intro other member
        rw [Transport.setCall, moved.calls] at member
        rcases List.mem_or_eq_of_mem_set member with old | rfl
        · exact ok other old
        · exact moved.ok (ok call (List.mem_of_getElem? found)) window
      · cases stepped

/-! ## Runs -/

/-- **No attempt after commitment.**  In every run in which no source read goes
over budget between two attempts of its call, no attempt of any call is invoked
once that call's replay is committed. -/
theorem invoked_uncommitted (o : RetryOptions) (c : Codec M) (t : Transport M)
    (reached : (transportMachine o c).Reaches (quietBetweenAttempts o c · · = true) t) :
    ∀ call ∈ t.calls, ∀ invocation ∈ call.invoked, invocation.committed = false := by
  have ok : ∀ call ∈ t.calls, CallOk call := by
    refine Machine.Steps.invariant (fun t : Transport M => ∀ call ∈ t.calls, CallOk call)
      (fun _ _ _ ok quiet stepped => step_ok ok quiet stepped) reached ?_
    intro call none_
    simp [transportMachine] at none_
  exact fun call member => (ok call member).invoked

/-! ## A refusal while a large message is on its way -/

def smallBuffer : RetryOptions := { perRpcBufferBytes := 10 }

/-- A one-byte message, then one that does not fit ten bytes. -/
def smallThenLarge (k : Nat) : Option (List UInt8) := [[1], List.replicate 20 2][k]?

def refusedStream : CallError :=
  { connect := some { code := 14 }, info := some { committed := false, evidence := some .refused } }

/-- The first attempt hands on the small message, waits for the next one and is
refused by the peer; the loop pauses. -/
def refusedWhileReading : List CallEvent :=
  [.selected, .next 0, .settle, .resume 0, .next 0, .stop 0, .fails refusedStream 0]

/-- The second attempt is running when the large message arrives. -/
def readDuringAttempt : List CallEvent :=
  refusedWhileReading ++ [.pauseEnds, .selected, .settle]

/-- The large message arrives during the pause. -/
def readDuringPause : List CallEvent :=
  refusedWhileReading ++ [.settle, .pauseEnds, .selected]

def oneCall (es : List CallEvent) : List (TransportEvent (List UInt8)) :=
  .open "/demo.Service/Collect" .stream smallThenLarge :: es.map (.call 0)

/-- The large message commits the running second attempt. -/
theorem invoked_uncommitted_readDuringAttempt :
    ∃ t call, (transportMachine smallBuffer rawCodec).run
        (quietBetweenAttempts smallBuffer rawCodec · · = true)
        (transportMachine smallBuffer rawCodec).init (oneCall readDuringAttempt) = some t ∧
      t.calls = [call] ∧ call.replay.committed = true ∧ call.invoked.length = 2 ∧
      ∀ invocation ∈ call.invoked, invocation.committed = false := by
  refine ⟨_, _, rfl, rfl, rfl, rfl, ?_⟩
  exact invoked_uncommitted smallBuffer rawCodec _
    (Machine.steps_of_run (oneCall readDuringAttempt) rfl) _ (List.mem_singleton_self _)

/-- The message commits the RPC during the pause, and the second attempt is
invoked all the same. -/
theorem readDuringPause_invokes :
    ¬ ∀ t, (transportMachine smallBuffer rawCodec).Reaches Machine.always t →
      ∀ call ∈ t.calls, ∀ invocation ∈ call.invoked, invocation.committed = false := by
  intro never
  have second := never _ (Machine.steps_of_run (oneCall readDuringPause) rfl) _
    (List.mem_singleton_self _) { previousAttempts := none, committed := true }
    (List.mem_cons_of_mem _ (List.mem_singleton_self _))
  cases second

end GrpcBridge.Retry
