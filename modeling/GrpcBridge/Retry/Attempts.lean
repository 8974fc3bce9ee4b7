/-
# Retry.Attempts -- the attempts of an RPC and the connections they run on

One `RetryingTransport` over any number of connections: the retry loop of
`Retry.Transport`, the sessions of `H2.Session`, and between them the `start` of
`createTunnelTransport` (web/src/transport.ts), which makes one call of
`connection.request` for an attempt and translates what that call fails with.

`start` has an abort controller of its own.  Its reason is the caller's cancellation, a
deadline, or whatever the input of the RPC threw, and it takes precedence over the
failure of the request: `translate` hands that very error on, with the entry it may
already have in `failures`.

A `Try` is one attempt.  `Tries.earlier` are those after which the RPC was sent again.
-/
import GrpcBridge.H2.RetryEvidence
import GrpcBridge.Retry.Commitment

namespace GrpcBridge.Retry

open GrpcBridge.Theory
open GrpcBridge.H2 (Hpack Windows Conn Cause Evidence)

set_option autoImplicit false

/-! ## Errors of an attempt -/

/-- `Code.Unavailable` and `Code.Unknown`. -/
def unavailable : Status := { code := 14 }
def unknown : Status := { code := 2 }

/-- `attemptError`: an error that is not a `ConnectError` becomes one, and the evidence of
an `H2Error` is entered in `failures`. -/
def attemptError (cause : Cause) (status : Status) (committed : Bool) : CallError :=
  { connect := some (match cause with
      | .h2 _ => unavailable
      | _ => status)
    info := some { committed, evidence := cause.evidence } }

/-- One attempt: the call of `request` it made, as a connection and an index there, the
reason of its abort controller, and `committed`. -/
structure Try where
  request : Option (Nat × Nat) := none
  aborted : Option CallError := none
  committed : Bool := false
deriving DecidableEq, Repr

/-- `translate`: `abort.signal.reason` itself when that is a `ConnectError`. -/
def Try.translate (t : Try) (cause : Cause) (status : Status) : CallError :=
  match t.aborted with
  | some reason =>
      if reason.connect.isSome then reason else { connect := some unknown }
  | none => attemptError cause status t.committed

/-- The attempts of one RPC. -/
structure Tries where
  earlier : List Try := []
  last : Option Try := none

namespace Tries

/-- An attempt is started. -/
def start (ts : Tries) : Tries := { earlier := ts.earlier ++ ts.last.toList, last := some {} }

def modify (ts : Tries) (f : Try → Try) : Tries := { ts with last := ts.last.map f }

end Tries

/-! ## Many connections, many calls -/

structure Bridge (H : Hpack) (M : Type) where
  conns : List (Conn H) := []
  transport : Transport M
  /-- The attempts of each call of the transport. -/
  tries : List Tries := []

inductive BridgeEvent (M : Type) where
  /-- A new connection. -/
  | dial
  /-- Anything that happens on connection `k`. -/
  | conn (k : Nat) (e : H2.Event)
  /-- Anything that happens to the calls but the failure of an attempt. -/
  | transport (e : TransportEvent M)
  /-- The running attempt of call `i` calls `request` on connection `k`. -/
  | request (i k : Nat) (block : H2.Bytes) (hasBody : Bool)
  /-- The abort controller of the running attempt of call `i`. -/
  | abort (i : Nat) (reason : CallError)
  /-- The request of the running attempt, or the body of its response, has failed. -/
  | requestFails (i : Nat) (cause : Cause) (status : Status) (random : ℚ)
  /-- The attempt fails by itself: no connection, a status, an invalid response. -/
  | fails (i : Nat) (status : Status) (random : ℚ)

/-- What call `r` of `request` can have failed with. -/
def failuresOf {H : Hpack} (conn : Conn H) (r : Nat) : List Cause :=
  match conn.phaseOf r with
  | some (.failed cause) => [cause]
  | some (.opened id) => ((conn.stream id).map (·.causes)).getD []
  | _ => []

section Steps

variable {H : Hpack} {M : Type} (w : Windows) (o : RetryOptions) (c : Codec M)

namespace Bridge

/-- The running attempt of call `i`. -/
def running (b : Bridge H M) (i : Nat) : Option Try :=
  match b.transport.calls[i]?.map Call.phase, b.tries[i]? with
  | some .invoking, some ts => ts.last
  | _, _ => none

/-- The attempts after an event of the transport. -/
def follow (b : Bridge H M) (after : Transport M) : TransportEvent M → List Tries
  | .open _ _ _ => b.tries ++ [{}]
  | .call i .selected =>
      if after.calls[i]?.map Call.phase = some .invoking then b.tries.modify i Tries.start
      else b.tries
  | .call i .headers => b.tries.modify i (·.modify ({ · with committed := true }))
  | _ => b.tries

def step (b : Bridge H M) : BridgeEvent M → Option (Bridge H M)
  | .dial => some { b with conns := b.conns ++ [Conn.start H w] }
  | .conn k e =>
      match b.conns[k]? with
      | some conn => (conn.step w e).map fun conn' => { b with conns := b.conns.set k conn' }
      | none => none
  | .transport (.call _ (.fails _ _)) => none
  | .transport e =>
      (b.transport.step o c e).map fun t => { b with transport := t, tries := b.follow t e }
  | .request i k block hasBody =>
      match b.running i, b.conns[k]? with
      | some { request := none, .. }, some conn =>
          (conn.step w (.request block hasBody)).map fun conn' =>
            { b with
              conns := b.conns.set k conn'
              tries := b.tries.modify i
                (·.modify ({ · with request := some (k, conn.requests.length) })) }
      | _, _ => none
  | .abort i reason =>
      match b.running i with
      | some { aborted := none, .. } =>
          some { b with tries := b.tries.modify i (·.modify ({ · with aborted := some reason })) }
      | _ => none
  | .requestFails i cause status random =>
      match b.running i with
      | some t =>
          match t.request with
          | some (k, r) =>
              match b.conns[k]? with
              | some conn =>
                  if cause ∈ failuresOf conn r then
                    (b.transport.step o c
                      (.call i (.fails (t.translate cause status) random))).map
                      fun transport => { b with transport }
                  else none
              | none => none
          | none => none
      | none => none
  | .fails i status random =>
      match b.running i with
      | some t =>
          (b.transport.step o c (.call i (.fails (t.translate .transport status) random))).map
            fun transport => { b with transport }
      | none => none

end Bridge

/-- Every interleaving of calls, attempts and what happens on their connections. -/
def bridgeMachine (H : Hpack) : Machine (Bridge H M) (BridgeEvent M) where
  init := { transport := (transportMachine o c).init }
  step := Bridge.step w o c

end Steps

/-- An error handed in from outside carries evidence: the reason of an abort, an error of a
request body or of the byte transport. -/
def BridgeEvent.tainted {M : Type} : BridgeEvent M → Bool
  | .conn _ e => (Conn.foreign e).isSome
  | .abort _ reason => reason.evidence.isSome
  | _ => false

end GrpcBridge.Retry
