/-
# Gateway.Serve -- every path of ServeHTTP, and the goroutines it starts

`gateway.ServeHTTP` of cmd/bridge/main.go as a program counter over its
statements: `Pc` has one constructor for each critical section, each call whose
outcome is not the handler's to decide, and each deferred action.  What a request
contains, what the policy file, the admission service, the dialer, the hijacker
and the clock answer, is the choice of the event (`Act`); everything else is
computed.

An early return goes to `deferDone`, and the deferred functions run in the
reverse order of their `defer` statements.  The source's `heldSlot`,
`heldPrincipal`, `activeRegistered` and `handshakePending` are the `Flags` of a
handler.  Each is cleared when the deferred function has acted on it; the source
leaves it set, and never reads it again.

The upstream pump, the ping ticker, the lifetime timer and `forceCloseActive` act
on a handler's tunnel through `tunnel.close` alone.  What they send and receive
before that is in Tunnel.Writers.
-/
import GrpcBridge.Gateway.State

namespace GrpcBridge.Gateway

set_option autoImplicit false
set_option linter.dupNamespace false

/-! ## Answers -/

/-- The arguments of `reject`. -/
structure Refusal where
  message : String
  status : Nat
  reason : String
deriving DecidableEq, Repr

/-- The checks of a request before it takes a slot. -/
inductive BadRequest where
  | notUpgrade
  | handshake
  | origin
  | profile
  | credential
deriving DecidableEq, Repr

def BadRequest.refusal : BadRequest → Refusal
  | .notUpgrade => ⟨"WebSocket upgrade required", 400, "handshake"⟩
  | .handshake => ⟨"invalid WebSocket handshake", 400, "handshake"⟩
  | .origin => ⟨"origin denied", 403, "origin"⟩
  | .profile => ⟨"invalid tunnel credentials or profile", 400, "profile"⟩
  | .credential => ⟨"invalid tunnel credentials or profile", 401, "auth"⟩

/-- The failures of `gateway.destination`. -/
inductive BadDestination where
  | label
  | denied
  | policy
deriving DecidableEq, Repr

def BadDestination.status : BadDestination → Nat
  | .label => 400
  | .denied => 403
  | .policy => 503

def BadDestination.reason : BadDestination → String
  | .label => "destination"
  | .denied => "destination_denied"
  | .policy => "policy"

def BadDestination.refusal (e : BadDestination) : Refusal :=
  ⟨"destination unavailable or not allowed", e.status, e.reason⟩

/-- The statuses of `authorizeTarget` without a grant. -/
inductive Denied where
  | unauthorized
  | forbidden
  | unavailable
deriving DecidableEq, Repr

def Denied.status : Denied → Nat
  | .unauthorized => 401
  | .forbidden => 403
  | .unavailable => 503

def Denied.refusal (e : Denied) : Refusal :=
  ⟨"tunnel admission denied", e.status,
    if e.status = 401 ∨ e.status = 403 then "auth" else "admission"⟩

def shuttingDown : Refusal := ⟨"bridge is draining", 503, "shutdown"⟩

def noSlot : Refusal := ⟨"connection capacity reached", 503, "capacity"⟩

def noPrincipal : Refusal := ⟨"principal connection capacity reached", 429, "capacity"⟩

def noUpstream : Refusal := ⟨"upstream unavailable", 502, "dial"⟩

def expired : Refusal := ⟨"tunnel grant expired", 403, "auth"⟩

def noUpgrade : Refusal := ⟨"upgrade unavailable", 500, "upgrade"⟩

inductive Dialed where
  | failed
  /-- A TLS upstream that did not negotiate h2: closed at once. -/
  | notH2
  | ok
deriving DecidableEq, Repr

inductive Hijacked where
  | unsupported
  | failed
  | ok
deriving DecidableEq, Repr

/-! ## Handlers -/

inductive Pc where
  | route
  | beginHandshake
  | refused
  | checks
  | slot
  | destination
  | drainBeforeAdmission
  | admission
  | drainAfterAdmission
  | principal
  | dial
  | register
  | deadlineAfterDial
  | drainAfterDial
  | hijack
  | attach
  | deadlineAfterHijack
  | complete
  | arm
  | deadlineBeforeUpgrade
  | upgrade
  | deadlineAfterUpgrade
  | opened
  | establish
  | relay
  | close
  | finished
  | deferDone
  | deferGauge
  | deferClosed
  | deferTimer
  | deferFailure
  | deferClose
  | deferPrincipal
  | deferSlot
  | deferUnregister
  | deferFinish
  | returned
deriving DecidableEq, Repr

structure Flags where
  handshakePending : Bool := false
  heldSlot : Bool := false
  heldPrincipal : Bool := false
  activeRegistered : Bool := false
  /-- The `established` gauge counts this tunnel. -/
  gauge : Bool := false
deriving DecidableEq, Repr

/-- A goroutine that a handler starts: it runs, has called `tunnel.close`, has returned. -/
inductive Goroutine where
  | unstarted
  | running
  | closing
  | finished
deriving DecidableEq, Repr

inductive Timer where
  | unarmed
  | armed
  | fired
  | stopped
deriving DecidableEq, Repr

structure Handler where
  pc : Pc := .route
  flags : Flags := {}
  principal : String := ""
  failure : String := ""
  tunnel : Option Tunnel := none
  client : Link := .absent
  upstream : Link := .absent
  timer : Timer := .unarmed
  pump : Goroutine := .unstarted
  ticker : Goroutine := .unstarted
  done : Bool := false
  /-- Status and text that the peer has been sent. -/
  answer : Option (Nat × String) := none
  /-- History: `completeHandshake` has returned true. -/
  completed : Bool := false
deriving DecidableEq, Repr

namespace Handler

/-- `reject(message, status, reason); return` -/
def reject (h : Handler) (r : Refusal) : Handler :=
  { h with failure := r.reason, answer := some (r.status, r.message), pc := .deferDone }

/-- A `return` that leaves the failure as it is. -/
def leave (h : Handler) : Handler := { h with pc := .deferDone }

/-- A call of `tunnel.close`, up to its `Close` calls. -/
def closeTunnel (h : Handler) (who : Closer) : Handler :=
  { h with tunnel := h.tunnel.map fun t => t.close who }

/-- This goroutine is still inside `tunnel.close`. -/
def owes (h : Handler) (who : Closer) : Bool :=
  h.tunnel.any fun t => t.owed.any fun debt => debt.who = who

/-- The next `Close` call of the goroutine that has set `closed`. -/
def settle (h : Handler) : Option Handler :=
  match h.tunnel with
  | none => none
  | some t =>
      match t.owed with
      | none => none
      | some ⟨who, true⟩ =>
          some { h with client := h.client.close, tunnel := some { t with owed := some ⟨who, false⟩ } }
      | some ⟨_, false⟩ =>
          some { h with upstream := h.upstream.close, tunnel := some { t with owed := none } }

end Handler

/-- What the environment answers to a handler, and what the other goroutines do to its tunnel. -/
inductive Act where
  /-- The request's path, which is `/tunnel` or not. -/
  | route (tunnel : Bool)
  | checks (bad : Option BadRequest)
  | destination (bad : Option BadDestination)
  /-- The subject to charge, or why there is no grant. -/
  | admission (grant : Except Denied String)
  | dial (outcome : Dialed)
  /-- A comparison with `tunnelDeadline`. -/
  | clock (late : Bool)
  | hijack (outcome : Hijacked)
  | upgrade (flushed : Bool)
  /-- `relay` returns. -/
  | relayed
  /-- The next statement of the handler, when nothing outside decides it. -/
  | proceed
  | pumpCloses
  | pumpReturns
  | tickerCloses
  | tickerReturns
  | timerFires
  | forcerCloses
  | settle
deriving Repr

namespace Handler

variable {n : Nat}

/-- The handler's statements whose outcome the shared state decides. -/
def proceed (cfg : Config) (i : Fin n) (g : Gateway n) (h : Handler) : Option (Gateway n × Handler) :=
  match h.pc with
  | .beginHandshake =>
      match g.beginHandshake i with
      | none => some (g, { h with pc := .refused })
      | some g => some (g, { h with
          flags := { h.flags with handshakePending := true }
          failure := "upgrade"
          pc := .checks })
  | .refused =>
      some (g.count (·.fail "shutdown"), { h with
        answer := some (503, "bridge is draining")
        pc := .returned })
  | .slot =>
      match g.takeSlot cfg with
      | none => some (g, h.reject noSlot)
      | some g => some (g, { h with flags := { h.flags with heldSlot := true }, pc := .destination })
  | .drainBeforeAdmission =>
      some (g, if g.draining then h.reject shuttingDown else { h with pc := .admission })
  | .drainAfterAdmission =>
      some (g, if g.draining then h.reject shuttingDown else { h with pc := .principal })
  | .principal =>
      match g.acquirePrincipal cfg h.principal with
      | none => some (g, h.reject noPrincipal)
      | some g => some (g, { h with flags := { h.flags with heldPrincipal := true }, pc := .dial })
  | .register =>
      match g.registerTunnel i with
      | none => some (g, h.reject shuttingDown)
      | some g => some (g, { h with
          flags := { h.flags with activeRegistered := true }
          pc := .deadlineAfterDial })
  | .drainAfterDial =>
      some (g, if g.draining then h.reject shuttingDown else { h with pc := .hijack })
  | .attach =>
      match h.tunnel.bind Tunnel.setClient with
      | none => some (g, { h with client := h.client.close, failure := "shutdown" }.leave)
      | some t => some (g, { h with tunnel := some t, pc := .deadlineAfterHijack })
  | .complete =>
      match g.completeHandshake i with
      | none => some (g, { h with failure := "shutdown" }.leave)
      | some g => some (g, { h with
          flags := { h.flags with handshakePending := false }
          completed := true
          pc := .arm })
  | .arm => some (g, { h with timer := .armed, pc := .deadlineBeforeUpgrade })
  | .opened =>
      some (g.count fun m => { m with opened := m.opened + 1 },
        { h with failure := "", pc := .establish })
  | .establish =>
      some (g.count fun m => { m with established := m.established + 1 }, { h with
        flags := { h.flags with gauge := true }
        pump := .running
        ticker := .running
        pc := .relay })
  | .close => some (g, { h.closeTunnel .handler with pc := .finished })
  | .finished =>
      if h.owes .handler = false ∧ h.pump = .finished then some (g, h.leave) else none
  | .deferDone => some (g, { h with done := h.flags.gauge, pc := .deferGauge })
  | .deferGauge =>
      if h.flags.gauge then
        some (g.count fun m => { m with established := m.established - 1 },
          { h with flags := { h.flags with gauge := false }, pc := .deferClosed })
      else some (g, { h with pc := .deferTimer })
  | .deferClosed =>
      some (g.count fun m => { m with closed := m.closed + 1 }, { h with pc := .deferTimer })
  | .deferTimer =>
      some (g, { h with
        timer := if h.timer = .armed then .stopped else h.timer
        pc := .deferFailure })
  | .deferFailure =>
      some (if h.failure ≠ "" then g.count (·.fail h.failure) else g, { h with pc := .deferClose })
  | .deferClose =>
      match h.tunnel with
      | some _ => some (g, { h.closeTunnel .handler with pc := .deferPrincipal })
      | none => some (g, { h with
          client := h.client.close
          upstream := h.upstream.close
          pc := .deferPrincipal })
  | .deferPrincipal =>
      if h.owes .handler then none
      else if h.flags.heldPrincipal then
        some (g.releasePrincipal h.principal,
          { h with flags := { h.flags with heldPrincipal := false }, pc := .deferSlot })
      else some (g, { h with pc := .deferSlot })
  | .deferSlot =>
      if h.flags.heldSlot then
        some (g.freeSlot, { h with flags := { h.flags with heldSlot := false }, pc := .deferUnregister })
      else some (g, { h with pc := .deferUnregister })
  | .deferUnregister =>
      if h.flags.activeRegistered then
        some (g.unregisterTunnel i,
          { h with flags := { h.flags with activeRegistered := false }, pc := .deferFinish })
      else some (g, { h with pc := .deferFinish })
  | .deferFinish =>
      if h.flags.handshakePending then
        some (g.finishHandshake i,
          { h with flags := { h.flags with handshakePending := false }, pc := .returned })
      else some (g, { h with pc := .returned })
  | _ => none

/-- The statements where a comparison with the deadline decides. -/
def clock (late : Bool) (h : Handler) : Option Handler :=
  match h.pc with
  | .deadlineAfterDial => some (if late then h.reject expired else { h with pc := .drainAfterDial })
  | .deadlineAfterHijack => some (if late then h.leave else { h with pc := .complete })
  | .deadlineBeforeUpgrade => some (if late then h.leave else { h with pc := .upgrade })
  | .deadlineAfterUpgrade => some (if late then h.leave else { h with pc := .opened })
  | _ => none

/-- The calls whose outcome something outside the gateway decides. -/
def answered (h : Handler) : Act → Option Handler
  | .checks bad =>
      if h.pc = .checks then
        some (match bad with
          | none => { h with pc := .slot }
          | some bad => h.reject bad.refusal)
      else none
  | .destination bad =>
      if h.pc = .destination then
        some (match bad with
          | none => { h with pc := .drainBeforeAdmission }
          | some bad => h.reject bad.refusal)
      else none
  | .admission grant =>
      if h.pc = .admission then
        some (match grant with
          | .ok subject => { h with principal := subject, pc := .drainAfterAdmission }
          | .error denied => h.reject denied.refusal)
      else none
  | .dial outcome =>
      if h.pc = .dial then
        some (match outcome with
          | .failed => h.reject noUpstream
          | .notH2 => { h with upstream := .closed }.reject noUpstream
          | .ok => { h with upstream := .live, tunnel := some {}, pc := .register })
      else none
  | .clock late => h.clock late
  | .hijack outcome =>
      if h.pc = .hijack then
        some (match outcome with
          | .unsupported => h.reject noUpgrade
          | .failed => h.leave
          | .ok => { h with client := .live, pc := .attach })
      else none
  | .upgrade flushed =>
      if h.pc = .upgrade then
        let h := { h with answer := some (101, "Switching Protocols") }
        some (if flushed then { h with pc := .deadlineAfterUpgrade } else h.leave)
      else none
  | .relayed => if h.pc = .relay then some { h with pc := .close } else none
  | _ => none

/-- The other goroutines that know the tunnel. -/
def others (h : Handler) : Act → Option Handler
  | .pumpCloses =>
      if h.pump = .running then some { h.closeTunnel .pump with pump := .closing } else none
  | .pumpReturns =>
      if h.pump = .closing ∧ h.owes .pump = false then some { h with pump := .finished } else none
  | .tickerCloses =>
      if h.ticker = .running then some { h.closeTunnel .ticker with ticker := .finished } else none
  | .tickerReturns =>
      if h.ticker = .running ∧ h.done = true then some { h with ticker := .finished } else none
  | .timerFires =>
      if h.timer = .armed then some { h.closeTunnel .timer with timer := .fired } else none
  | .forcerCloses =>
      match h.tunnel with
      | some t =>
          if t.taken then some { h with tunnel := some ({ t with taken := false }.close .forcer) }
          else none
      | none => none
  | .settle => h.settle
  | _ => none

def step (cfg : Config) (i : Fin n) (g : Gateway n) (h : Handler) (a : Act) :
    Option (Gateway n × Handler) :=
  match a with
  | .route tunnel =>
      if h.pc = .route then
        some (if tunnel then
          (g.count fun m => { m with attempts := m.attempts + 1 }, { h with pc := .beginHandshake })
        else (g, { h with answer := some (404, "404 page not found"), pc := .returned }))
      else none
  | .proceed => h.proceed cfg i g
  | .checks _ | .destination _ | .admission _ | .dial _ | .clock _ | .hijack _ | .upgrade _
  | .relayed => (h.answered a).map fun h => (g, h)
  | _ => (h.others a).map fun h => (g, h)

end Handler

/-! ## The process -/

/-- A call of `waitForDrain`. -/
inductive Waiter where
  | checking
  /-- In `select` with the channel of this generation. -/
  | waiting (changed : Nat)
  /-- It has returned `ok`; `draining` is the flag at its last look. -/
  | returned (ok draining : Bool)
deriving DecidableEq, Repr

/-- One look at the two sets, under the lock. -/
def Waiter.look {n : Nat} (g : Gateway n) : Waiter :=
  if g.idle then .returned true g.draining else .waiting g.changed

structure State (n : Nat) where
  gateway : Gateway n := {}
  handlers : Fin n → Handler := fun _ => {}
  waiters : List Waiter := []
  /-- What each call of `forceCloseActive` that has left its critical section is about to add
  to `forcedClosures`. -/
  uncounted : List Nat := []

inductive Event (n : Nat) where
  | handler (i : Fin n) (a : Act)
  | beginDrain
  /-- The critical section of `forceCloseActive`. -/
  | force
  /-- The statement after it, of a call that has still to count. -/
  | count (k : Nat)
  /-- A call of `waitForDrain`. -/
  | wait
  | look (k : Nat)
  | wake (k : Nat)
  | cancel (k : Nat)

namespace State

variable {n : Nat}

/-- `forceCloseActive` takes a registered tunnel that nobody has forced. -/
def take (h : Handler) : Handler :=
  { h with tunnel := h.tunnel.map fun t =>
      if t.forced then t else { t with forced := true, taken := true } }

/-- How many tunnels a critical section of `forceCloseActive` takes. -/
def takes (s : State n) : Nat :=
  (s.gateway.active.filter fun i => (s.handlers i).tunnel.any fun t => !t.forced).card

def step (cfg : Config) (s : State n) : Event n → Option (State n)
  | .handler i a =>
      ((s.handlers i).step cfg i s.gateway a).map fun (g, h) =>
        { s with gateway := g, handlers := Function.update s.handlers i h }
  | .beginDrain => some { s with gateway := s.gateway.beginDrain }
  | .force => some { s with
      handlers := fun i => if i ∈ s.gateway.active then take (s.handlers i) else s.handlers i
      uncounted := s.uncounted ++ [s.takes] }
  | .count k =>
      match s.uncounted[k]? with
      | some taken => some { s with
          gateway := s.gateway.count fun m => { m with forcedClosures := m.forcedClosures + taken }
          uncounted := s.uncounted.eraseIdx k }
      | none => none
  | .wait => some { s with waiters := s.waiters ++ [.checking] }
  | .look k =>
      if s.waiters[k]? = some .checking then
        some { s with waiters := s.waiters.set k (.look s.gateway) }
      else none
  | .wake k =>
      match s.waiters[k]? with
      | some (.waiting changed) =>
          if changed < s.gateway.changed then some { s with waiters := s.waiters.set k .checking }
          else none
      | _ => none
  | .cancel k =>
      match s.waiters[k]? with
      | some (.waiting _) =>
          some { s with waiters := s.waiters.set k (.returned false s.gateway.draining) }
      | _ => none

def machine (cfg : Config) (n : Nat) : Theory.Machine (State n) (Event n) where
  init := {}
  step := step cfg

end State

end GrpcBridge.Gateway
