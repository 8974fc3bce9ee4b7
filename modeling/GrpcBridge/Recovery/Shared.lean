/-
# Recovery.Shared -- one connection, many leases

`SharedBridgeConnection` (web/src/client.ts).  `acquire` opens a connection when there
is none, counts itself among its users and waits for the first connection attempt; a
lease is one use, and the last `release` closes the connection.  `dispose` closes it
whoever uses it.

`acquire` is cut at its await: `acquire` runs up to `await current.ready`, and `resume`
is the rest.  Of the connection an entry has, the events of `RecoveringConnection`
happen, except `close`: only `closeEntry` calls it.

`close` calls its listeners before it returns, and a listener may call `acquire`,
`release` or `dispose`.  A call of `closeEntry` is therefore a frame: it is pushed when
the listeners start to run and popped when they are done (`returns`), and what the caller
does with the promise it gets comes after that.  While a frame is on the stack only calls
can be made, and no continuation runs.
-/
import GrpcBridge.Recovery.Connection

namespace GrpcBridge.Recovery

set_option autoImplicit false

/-! ## close, around its listeners -/

namespace Connection

/-- `close` up to the return of its listeners, on a connection that is not stopped. -/
def beginClose (c : Connection) : Connection :=
  { c with toLife := c.toLife.stop }.emitClosed

/-- `close` from there to its await, with the channels it found. -/
def endClose (c : Connection) (channels : List Nat) : Connection :=
  { c with toLife := c.toLife.closeChannels channels }

theorem close_eq_endClose {c : Connection} (running : c.stopped = false) :
    c.close = c.beginClose.endClose c.channels := by
  rw [close, if_neg (by rw [running]; exact Bool.false_ne_true)]
  rfl

end Connection

/-- An event of a connection whose listeners cannot call its `close`; nor can anyone
else. -/
def Event.unowned : Event → Option Event
  | .close => none
  | .start _ => some (.start fun _ => false)
  | .dialed returned closeThrows _ => some (.dialed returned closeThrows fun _ => false)
  | .dialFailed _ random => some (.dialFailed (fun _ => false) random)
  | .timer _ => some (.timer fun _ => false)
  | .lost s _ random => some (.lost s (fun _ => false) random)
  | .drained s _ => some (.drained s fun _ => false)
  | .subscribe l _ => some (.subscribe l false)
  | e => some e

/-- What can happen while listeners run: the calls that they can make, and time. -/
def Event.call : Event → Bool
  | .advance .. | .subscribe .. | .unsubscribe .. | .select .. | .cancel .. => true
  | _ => false

/-! ## Entries, acquisitions and leases -/

structure SharedEntry where
  references : Int := 0
  connection : Connection

/-- A call of `acquire` that has an entry: it awaits `current.ready`, has returned a
lease, or is in its catch block and will throw. -/
inductive Phase where
  | pending
  | leased
  | failed
deriving DecidableEq, Repr

structure Acquirer where
  /-- `current` -/
  entry : Nat
  phase : Phase
deriving DecidableEq, Repr

structure Lease where
  /-- `current` -/
  entry : Nat
  /-- The variable `release` holds a promise. -/
  release : Bool := false
  /-- History: `release()` has been called. -/
  released : Bool := false
deriving DecidableEq, Repr

/-- Who called `closeEntry`. -/
inductive Caller where
  | acquire
  | release (l : Nat)
  | dispose
deriving DecidableEq, Repr

/-- A call of `closeEntry` whose listeners are running. -/
structure Frame where
  caller : Caller
  entry : Nat
  /-- The channels that `close` will close. -/
  channels : List Nat
deriving DecidableEq, Repr

structure Shared where
  entry : Option Nat := none
  disposed : Bool := false
  /-- What `disposal` waits for. -/
  disposal : Option (List Nat) := none
  /-- The entries of the promises in `closing`. -/
  closing : List Nat := []
  /-- Every entry there has been, and every acquisition and lease. -/
  entries : List SharedEntry := []
  acquirers : List Acquirer := []
  leases : List Lease := []
  /-- The calls of `closeEntry` on the stack, innermost first. -/
  frames : List Frame := []

namespace Shared

def modifyEntry (s : Shared) (k : Nat) (f : SharedEntry → SharedEntry) : Shared :=
  { s with entries := s.entries.modify k f }

def count (s : Shared) (k : Nat) (change : Int) : Shared :=
  s.modifyEntry k fun entry => { entry with references := entry.references + change }

/-- `if (this.entry === current) this.entry = undefined` -/
def forget (s : Shared) (k : Nat) : Shared :=
  if s.entry = some k then { s with entry := none } else s

/-! ## closeEntry -/

/-- `closeEntry` from the return of `close`, and what its caller does next. -/
def closeReturns (s : Shared) (k : Nat) (caller : Caller) : Shared :=
  let s := { s with closing := s.closing ++ [k] }
  match caller with
  | .acquire => s
  | .release l => { s with leases := s.leases.modify l fun lease => { lease with release := true } }
  | .dispose => { s with disposal := some s.closing }

/-- A connection that is already stopped calls no listener. -/
def closeEntry (s : Shared) (k : Nat) (caller : Caller) : Shared :=
  match s.entries[k]? with
  | none => s
  | some entry =>
      if entry.connection.stopped then s.closeReturns k caller
      else
        { s.modifyEntry k fun entry => { entry with connection := entry.connection.beginClose } with
          frames := ⟨caller, k, entry.connection.channels⟩ :: s.frames }

/-- The listeners of the innermost `close` are done. -/
def returns (s : Shared) : Option Shared :=
  match s.frames with
  | [] => none
  | frame :: rest =>
      let s := s.modifyEntry frame.entry fun entry =>
        { entry with connection := entry.connection.endClose frame.channels }
      some ({ s with frames := rest }.closeReturns frame.entry frame.caller)

/-! ## acquire, release and dispose -/

/-- `current.references++`, and the await of `current.ready`. -/
def join (s : Shared) (k : Nat) : Shared :=
  { s.count k 1 with acquirers := s.acquirers ++ [⟨k, .pending⟩] }

/-- `acquire` up to its await; `constructs` when `createBridgeConnection` does not throw. -/
def acquire (listener : Option Nat) (s : Shared) (constructs : Bool) : Shared :=
  if s.disposed then s
  else
    match s.entry with
    | some k => s.join k
    | none =>
        if constructs then
          let k := s.entries.length
          join { s with
            entries := s.entries ++ [{ connection := (recoveryMachine listener).init }]
            entry := some k } k
        else s

/-- `acquire` after its await: `ready` when the promise resolved. -/
def resume (s : Shared) (a k : Nat) (ready : Bool) : Shared :=
  if ready && !s.disposed then
    { s with
      acquirers := s.acquirers.set a ⟨k, .leased⟩
      leases := s.leases ++ [{ entry := k }] }
  else
    let s := { s with acquirers := s.acquirers.set a ⟨k, .failed⟩ }.count k (-1)
    (s.forget k).closeEntry k .acquire

/-- `release` of lease `l`. -/
def release (s : Shared) (l : Nat) (lease : Lease) : Shared :=
  if lease.release then s
  else
    let k := lease.entry
    let s := { s with leases := s.leases.set l { lease with released := true } }.count k (-1)
    if s.entries[k]?.any fun entry => decide (entry.references = 0) then
      (s.forget k).closeEntry k (.release l)
    else { s with leases := s.leases.set l { lease with release := true, released := true } }

def dispose (s : Shared) : Shared :=
  if s.disposal.isSome then s
  else
    let s' := { s with disposed := true, entry := none }
    match s.entry with
    | some k => s'.closeEntry k .dispose
    | none => { s' with disposal := some s'.closing }

end Shared

/-! ## Events -/

inductive SharedEvent where
  | acquire (constructs : Bool)
  /-- Acquisition `a` continues after its await. -/
  | resume (a : Nat)
  | release (l : Nat)
  | dispose
  /-- The listeners of the innermost `close` are done. -/
  | returns
  /-- A promise in `closing` settles, for entry `k`. -/
  | closingSettles (k : Nat)
  /-- Something happens to the connection of entry `k`. -/
  | connection (k : Nat) (event : Event)

namespace Shared

def step (listener : Option Nat) (s : Shared) : SharedEvent → Option Shared
  | .acquire constructs => some (s.acquire listener constructs)
  | .resume a =>
      if s.frames = [] then
        match s.acquirers[a]? with
        | some ⟨k, .pending⟩ =>
            match (s.entries[k]?.map (·.connection.initial) : Option Initial) with
            | some .ready => some (s.resume a k true)
            | some .failed => some (s.resume a k false)
            | _ => none
        | _ => none
      else none
  | .release l =>
      match s.leases[l]? with
      | some lease => some (s.release l lease)
      | none => none
  | .dispose => some s.dispose
  | .returns => s.returns
  | .closingSettles k =>
      if s.frames = [] ∧ k ∈ s.closing ∧ s.entries[k]?.any (·.connection.finished) then
        some { s with closing := s.closing.erase k }
      else none
  | .connection k event =>
      if event.call ∨ s.frames = [] then
        match s.entries[k]?, event.unowned with
        | some entry, some event =>
            (entry.connection.step event).map fun c => s.modifyEntry k fun entry =>
              { entry with connection := c }
        | _, _ => none
      else none

end Shared

/-- Every interleaving of acquisitions, releases, `dispose`, what happens to the
connections, and the calls that listeners make; `listener` is `options.onStateChange`. -/
def sharedMachine (listener : Option Nat) : Theory.Machine Shared SharedEvent where
  init := {}
  step := Shared.step listener

end GrpcBridge.Recovery
