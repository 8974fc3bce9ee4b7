/-
# Gateway.Shutdown -- the forced shutdown, and the server's connections

`shutdownOnSignal` of cmd/bridge/main.go in its forced branch: `beginDrain`, then
`forceCloseActive`, then `closeHTTPConnections(false)`, one after the other, while
handlers, timers and peers go on.

A connection belongs to the HTTP server until a handler hijacks it, and the server
reports its states to `httpConnState`.  The map `httpConns` and the flag `httpClosing`
are under `g.mu`; `Close` is called after the lock is released, by the callback or by the
loop of `closeHTTPConnections`, so each is a step of its own.

There are `n` calls of `ServeHTTP` and `m` connections, for arbitrary `n` and `m`; call
`i` is served on connection `conn i`, whose `Hijack` reports `StateHijacked` before it
returns.  The connection of a handler is the `client` of Gateway.Serve from then on.
-/
import GrpcBridge.Gateway.Serve

namespace GrpcBridge.Gateway

set_option autoImplicit false
set_option linter.dupNamespace false

/-! ## The server's connections -/

/-- `http.ConnState` -/
inductive ConnState where
  | new
  | active
  | idle
  | hijacked
  | closed
deriving DecidableEq, Repr

/-- The states in which the connection is the server's. -/
def ConnState.served : ConnState → Bool
  | .new | .active | .idle => true
  | .hijacked | .closed => false

structure HttpConn where
  link : Link := .live
  /-- History: the state that was reported last. -/
  reported : Option ConnState := none
  /-- The callback of that report has still to close the connection. -/
  closeNow : Bool := false
deriving DecidableEq, Repr

/-- The connection is the server's, as far as it has reported. -/
def HttpConn.served (c : HttpConn) : Bool := c.reported.any ConnState.served

structure Http (m : Nat) where
  conns : Fin m → HttpConn := fun _ => {}
  httpConns : Fin m → Option ConnState := fun _ => none
  httpClosing : Bool := false

namespace Http

variable {m : Nat}

/-- The critical section of `httpConnState`. -/
def httpConnState (http : Http m) (c : Fin m) (state : ConnState) : Http m :=
  let conn := { http.conns c with reported := some state }
  if state.served then
    if http.httpClosing then
      { http with conns := Function.update http.conns c { conn with closeNow := true } }
    else
      { http with
        conns := Function.update http.conns c conn
        httpConns := Function.update http.httpConns c (some state) }
  else
    { http with
      conns := Function.update http.conns c conn
      httpConns := Function.update http.httpConns c none }

/-- `closeTransportConn(conn)` -/
def close (http : Http m) (c : Fin m) : Http m :=
  { http with
    conns := Function.update http.conns c
      { http.conns c with link := (http.conns c).link.close } }

/-- `httpConnState` after its critical section, when `closeNow` is set. -/
def closeReported (http : Http m) (c : Fin m) : Http m :=
  { http with
    conns := Function.update http.conns c
      { http.conns c with link := (http.conns c).link.close, closeNow := false } }

/-- The connections that `closeHTTPConnections` is going to close. -/
def connections (http : Http m) (idleOnly : Bool) : Finset (Fin m) :=
  Finset.univ.filter fun c => (http.httpConns c).any fun state => !idleOnly || state = .idle

/-- The critical section of `closeHTTPConnections`. -/
def closeHTTPConnections (http : Http m) (idleOnly : Bool) : Http m × Finset (Fin m) :=
  ({ http with httpClosing := http.httpClosing || !idleOnly }, http.connections idleOnly)

end Http

/-! ## The process -/

/-- Where the forced shutdown is. -/
inductive Stage (m : Nat) where
  /-- No signal has been received. -/
  | serving
  /-- `beginDrain` has returned. -/
  | draining
  /-- `forceCloseActive` has taken the tunnels and not counted them. -/
  | counting
  /-- In the loop of `forceCloseActive`. -/
  | forcing
  /-- `forceCloseActive` has returned. -/
  | forced
  /-- In the loop of `closeHTTPConnections(false)`, with these connections to close. -/
  | closing (rest : Finset (Fin m))
deriving DecidableEq

/-- `forceCloseActive` has taken what it is going to close. -/
def Stage.swept {m : Nat} : Stage m → Bool
  | .serving | .draining => false
  | _ => true

/-- `forceCloseActive` has returned. -/
def Stage.past {m : Nat} : Stage m → Bool
  | .serving | .draining | .counting | .forcing => false
  | _ => true

structure Process (n m : Nat) where
  serve : State n := {}
  http : Http m := {}
  stage : Stage m := .serving

inductive ProcessEvent (n m : Nat) where
  /-- A handler, a goroutine it started, or a call of `waitForDrain`. -/
  | serve (e : Event n)
  /-- The server reports a state. -/
  | report (c : Fin m) (state : ConnState)
  /-- The callback closes the connection. -/
  | reportCloses (c : Fin m)
  /-- The next statement of the shutdown. -/
  | shutdown
  /-- `closeHTTPConnections` closes the next connection. -/
  | closes (c : Fin m)

namespace Process

variable {n m : Nat}

/-- What an event of the gateway does to the server's connections. -/
def hijacks (conn : Fin n → Fin m) (http : Http m) : Event n → Http m
  | .handler i (.hijack .ok) => http.httpConnState (conn i) .hijacked
  | _ => http

/-- What only the shutdown does: `beginDrain` and `forceCloseActive`, which closes nothing
before it has counted. -/
def own (stage : Stage m) : Event n → Bool
  | .beginDrain | .force | .count _ => true
  | .handler _ .forcerCloses => stage = .counting
  | _ => false

/-- No tunnel that `forceCloseActive` took is still to be closed by it. -/
def forceReturns (s : State n) : Prop :=
  ∀ i, (s.handlers i).owes .forcer = false ∧
    (s.handlers i).tunnel.all (fun t => !t.taken) = true

instance (s : State n) : Decidable (forceReturns s) := by
  unfold forceReturns
  infer_instance

def shutdown (cfg : Config) (p : Process n m) : Option (Process n m) :=
  match p.stage with
  | .serving => (p.serve.step cfg .beginDrain).map fun s => { p with serve := s, stage := .draining }
  | .draining => (p.serve.step cfg .force).map fun s => { p with serve := s, stage := .counting }
  | .counting => (p.serve.step cfg (.count 0)).map fun s => { p with serve := s, stage := .forcing }
  | .forcing => if forceReturns p.serve then some { p with stage := .forced } else none
  | .forced =>
      let (http, rest) := p.http.closeHTTPConnections false
      some { p with http, stage := .closing rest }
  | .closing _ => none

def step (cfg : Config) (conn : Fin n → Fin m) (p : Process n m) :
    ProcessEvent n m → Option (Process n m)
  | .serve e =>
      if own p.stage e then none
      else (p.serve.step cfg e).map fun s => { p with serve := s, http := hijacks conn p.http e }
  | .report c state =>
      if (p.http.conns c).closeNow then none
      else some { p with http := p.http.httpConnState c state }
  | .reportCloses c =>
      if (p.http.conns c).closeNow then some { p with http := p.http.closeReported c } else none
  | .shutdown => p.shutdown cfg
  | .closes c =>
      match p.stage with
      | .closing rest =>
          if c ∈ rest then some { p with http := p.http.close c, stage := .closing (rest.erase c) }
          else none
      | _ => none

/-- Every interleaving of `n` handlers and `m` connections with one forced shutdown. -/
def machine (cfg : Config) (conn : Fin n → Fin m) :
    Theory.Machine (Process n m) (ProcessEvent n m) where
  init := {}
  step := step cfg conn

end Process

end GrpcBridge.Gateway
