/-
# Gateway.State -- the shared state of the gateway and its critical sections

`gateway` of cmd/bridge/main.go: the admission slots, the principal counts, the
two tracking sets and the `changed` channel, with each critical section of `g.mu`
as one function under the source's name.  There are `n` calls of `ServeHTTP`, for
an arbitrary `n`; call `i` makes at most one `pendingHandshake` and one
`activeTunnel`, so both sets hold indices of calls.

The channel is replaced each time it is closed.  It is modelled by its
generation: a generation below the current one is a closed channel.
-/
import GrpcBridge.Theory.Machine
import GrpcBridge.Theory.Tally

namespace GrpcBridge.Gateway

set_option autoImplicit false
set_option linter.dupNamespace false

structure Config where
  maxConnections : Nat
  maxPerPrincipal : Nat
deriving DecidableEq, Repr

/-! ## Metrics -/

def failureReasons : List String :=
  ["handshake", "origin", "auth", "profile", "capacity", "destination", "destination_denied",
    "policy", "admission", "dial", "upgrade", "shutdown"]

structure Metrics where
  attempts : Nat := 0
  opened : Nat := 0
  closed : Nat := 0
  established : Int := 0
  forcedClosures : Nat := 0
  draining : Bool := false
  failures : String → Nat := fun _ => 0

/-- A reason that is not in the table is dropped. -/
def Metrics.fail (m : Metrics) (reason : String) : Metrics :=
  if reason ∈ failureReasons then
    { m with failures := Function.update m.failures reason (m.failures reason + 1) }
  else m

/-! ## Sockets and tunnels -/

/-- A network connection of a handler. -/
inductive Link where
  | absent
  | live
  | closed
deriving DecidableEq, Repr

/-- `closeTransportConn`: nothing to do for nil, and closing twice is harmless. -/
def Link.close : Link → Link
  | .absent => .absent
  | .live | .closed => .closed

/-- The goroutines that call `tunnel.close`. -/
inductive Closer where
  | handler
  | pump
  | ticker
  | timer
  | forcer
deriving DecidableEq, Repr

/-- `Close` calls that the goroutine which set `closed` has still to make: the client's,
unless it found none or has made it, and then the upstream's. -/
structure Debt where
  who : Closer
  client : Bool
deriving DecidableEq, Repr

/-- `activeTunnel` -/
structure Tunnel where
  /-- `t.client` is set. -/
  attached : Bool := false
  closed : Bool := false
  forced : Bool := false
  /-- `forceCloseActive` has taken this tunnel and not called its `close` yet. -/
  taken : Bool := false
  owed : Option Debt := none
deriving DecidableEq, Repr

/-- The critical section of `activeTunnel.close`; the `Close` calls come after it. -/
def Tunnel.close (t : Tunnel) (who : Closer) : Tunnel :=
  if t.closed then t else { t with closed := true, owed := some ⟨who, t.attached⟩ }

/-- `setClient` -/
def Tunnel.setClient (t : Tunnel) : Option Tunnel :=
  if t.closed then none else some { t with attached := true }

/-! ## The gateway -/

structure Gateway (n : Nat) where
  slots : Nat := 0
  active : Finset (Fin n) := ∅
  handshakes : Finset (Fin n) := ∅
  principals : String → Option Nat := fun _ => none
  draining : Bool := false
  changed : Nat := 0
  metrics : Metrics := {}

namespace Gateway

variable {n : Nat}

/-- `signalStateLocked` -/
def signal (g : Gateway n) : Gateway n := { g with changed := g.changed + 1 }

def beginHandshake (g : Gateway n) (i : Fin n) : Option (Gateway n) :=
  if g.draining then none else some { g with handshakes := insert i g.handshakes }.signal

def finishHandshake (g : Gateway n) (i : Fin n) : Gateway n :=
  { g with handshakes := g.handshakes.erase i }.signal

def completeHandshake (g : Gateway n) (i : Fin n) : Option (Gateway n) :=
  if g.draining then none else some { g with handshakes := g.handshakes.erase i }.signal

def registerTunnel (g : Gateway n) (i : Fin n) : Option (Gateway n) :=
  if g.draining then none else some { g with active := insert i g.active }.signal

def unregisterTunnel (g : Gateway n) (i : Fin n) : Gateway n :=
  { g with active := g.active.erase i }.signal

/-- The non-blocking send on `g.slots`. -/
def takeSlot (cfg : Config) (g : Gateway n) : Option (Gateway n) :=
  if g.slots < cfg.maxConnections then some { g with slots := g.slots + 1 } else none

/-- The receive from `g.slots`. -/
def freeSlot (g : Gateway n) : Gateway n := { g with slots := g.slots - 1 }

/-- `g.principals[subject]`, which is 0 without an entry. -/
def reserved (g : Gateway n) (subject : String) : Nat := (g.principals subject).getD 0

def acquirePrincipal (cfg : Config) (g : Gateway n) (subject : String) : Option (Gateway n) :=
  if g.draining ∨ g.reserved subject ≥ cfg.maxPerPrincipal then none
  else some { g with
    principals := Function.update g.principals subject (some (g.reserved subject + 1)) }

def releasePrincipal (g : Gateway n) (subject : String) : Gateway n :=
  if g.reserved subject ≤ 1 then
    { g with principals := Function.update g.principals subject none }
  else
    { g with principals := Function.update g.principals subject (some (g.reserved subject - 1)) }

/-- `beginDrain`; the contexts it cancels only decide how a handshake's calls end. -/
def beginDrain (g : Gateway n) : Gateway n :=
  if g.draining then g
  else { g with draining := true, metrics := { g.metrics with draining := true } }.signal

/-- Nothing is tracked: what `waitForDrain` waits for. -/
def idle (g : Gateway n) : Bool := g.active = ∅ ∧ g.handshakes = ∅

def count (g : Gateway n) (f : Metrics → Metrics) : Gateway n :=
  { g with metrics := f g.metrics }

end Gateway

end GrpcBridge.Gateway
