/-
# Admission.Site -- ServeHTTP with its requests, the targets file and a clock

Gateway.Serve leaves to the event what a request contains and what the targets
file, the admission service and the clock say.  Here the first, second and last
are part of the state, and only the service's reply, the dialer and the hijacker
are left open: `Visit.next` computes the act that a statement of `ServeHTTP` makes
of them, by the functions of Admission.Request.

The targets file may be edited between any two statements, and the clock may
advance; it never goes back.  `gateway_of_steps` says that nothing was added: a
run of the site is a run of the gateway.
-/
import GrpcBridge.Admission.Request
import GrpcBridge.Gateway.Gates
import GrpcBridge.Gateway.Accounting

namespace GrpcBridge.Admission

set_option autoImplicit false

open GrpcBridge.Gateway (Act Dialed Handler Pc State)
open GrpcBridge.Theory
open GrpcBridge.Theory.Text (Bytes literal)

/-! ## One call -/

/-- An exchange with the admission service. -/
structure Consultation where
  credential : Bytes
  target : Bytes
  reply : Reply
  checkedAt : Int
deriving DecidableEq, Repr

/-- The local variables of `ServeHTTP` that the gateway's accounting does not need. -/
structure Visit where
  credential : Bytes := []
  destination : ResolvedTarget := {}
  /-- The zero time without a grant. -/
  grantExpiry : Int := 0
  authorizedAt : Int := 0
  tunnelDeadline : Int := 0
  /-- The address that the dialer was called with, and whether it was the TLS dialer. -/
  dialed : Option (Bytes × Bool) := none
  /-- When `lifetimeTimer` is due. -/
  timerAt : Option Int := none
  /-- History: what `authorizeTarget` asked and was answered. -/
  consulted : Option Consultation := none
deriving DecidableEq, Repr

/-- A statement of `ServeHTTP`, or an act of another goroutine on its tunnel. -/
inductive Call where
  | route
  | checks
  | destination
  /-- The reply is to the request that `authorizeTarget` makes, if it is called. -/
  | admission (reply : Reply)
  /-- `authorizedAt := time.Now()` and on to the call of the dialer. -/
  | authorize
  /-- The dialer returns. -/
  | dial (outcome : Dialed)
  | clock
  | proceed
  | timerFires
  | other (a : Act)
deriving Repr

/-- The acts that are computed here. -/
def computed : Act → Bool
  | .route _ | .checks _ | .destination _ | .admission _ | .dial _ | .clock _ | .proceed
  | .timerFires => true
  | .hijack _ | .upgrade _ | .relayed | .pumpCloses | .pumpReturns | .tickerCloses | .tickerReturns
  | .forcerCloses | .settle => false

/-- Whom a call without an admission service is charged to. -/
def localPrincipal (c : Settings) : String := if c.token ≠ [] then "static" else "anonymous"

def deadlineOf (c : Settings) (authorizedAt grantExpiry : Int) : Int :=
  if grantExpiry ≠ 0 ∧ grantExpiry < authorizedAt + c.maxTunnelLifetime then grantExpiry
  else authorizedAt + c.maxTunnelLifetime

namespace Visit

def authorize (c : Settings) (now : Int) (v : Visit) : Visit :=
  { v with
    authorizedAt := now
    tunnelDeadline := deadlineOf c now v.grantExpiry
    dialed := some (v.destination.address, v.destination.tls) }

/-- `time.AfterFunc(time.Until(tunnelDeadline), ...)` -/
def arm (now : Int) (v : Visit) : Visit :=
  { v with timerAt := some (now + untilTime v.tunnelDeadline now) }

def consult (reply : Reply) (now : Int) (v : Visit) : Visit :=
  { v with consulted := some ⟨v.credential, v.destination.label, reply, now⟩ }

/-- The act that a statement makes of what it reads, and the variables after it. -/
def next (c : Settings) (r : Request) (now : Int) (file : Option Bytes) (pc : Pc) (v : Visit) :
    Call → Option (Act × Visit)
  | .route => some (.route (r.path = literal "/tunnel"), v)
  | .checks =>
      match checkRequest c r with
      | .error bad => some (.checks (some bad), v)
      | .ok credential => some (.checks none, { v with credential })
  | .destination =>
      match resolveDestination c r file with
      | .error bad => some (.destination (some bad), v)
      | .ok destination => some (.destination none, { v with destination })
  | .admission reply =>
      if c.admissionURL ≠ [] then
        match authorizeTarget c v.credential v.destination.label reply now with
        | .error denied => some (.admission (.error denied), v.consult reply now)
        | .ok grant => some (.admission (.ok (String.ofList grant.subject)),
            { v.consult reply now with grantExpiry := grant.expires })
      else some (.admission (.ok (localPrincipal c)), v)
  | .authorize => none
  | .dial outcome => if v.dialed.isSome then some (.dial outcome, v) else none
  | .clock => some (.clock (¬ now < v.tunnelDeadline), v)
  | .proceed => some (.proceed, if pc = .arm then v.arm now else v)
  | .timerFires => if v.timerAt.any (· ≤ now) then some (.timerFires, v) else none
  | .other a => if computed a then none else some (a, v)

end Visit

/-! ## The process and what surrounds it -/

structure Site (n : Nat) where
  gateway : State n := {}
  visits : Fin n → Visit := fun _ => {}
  now : Int
  /-- What the targets file contains; `none` if it cannot be read. -/
  file : Option Bytes
  /-- History: what it contained before, the latest first. -/
  earlier : List (Option Bytes) := []

inductive Happening (n : Nat) where
  | call (i : Fin n) (call : Call)
  /-- An event of the gateway that is no call's. -/
  | process (e : Gateway.Event n)
  | tick (later : Int)
  | edit (file : Option Bytes)

namespace Site

variable {n : Nat}

/-- What the targets file has contained so far. -/
def contents (s : Site n) : List (Option Bytes) := s.file :: s.earlier

def step (c : Settings) (requests : Fin n → Request) (s : Site n) : Happening n → Option (Site n)
  | .call i .authorize =>
      if (s.gateway.handlers i).pc = .dial ∧ (s.visits i).dialed = none then
        some { s with visits := Function.update s.visits i ((s.visits i).authorize c s.now) }
      else none
  | .call i call =>
      match (s.visits i).next c (requests i) s.now s.file (s.gateway.handlers i).pc call with
      | none => none
      | some (a, v) =>
          (s.gateway.step c.limits (.handler i a)).map fun gateway =>
            { s with gateway, visits := Function.update s.visits i v }
  | .process (.handler _ _) => none
  | .process e => (s.gateway.step c.limits e).map fun gateway => { s with gateway }
  | .tick later => if s.now ≤ later then some { s with now := later } else none
  | .edit file => some { s with file, earlier := s.file :: s.earlier }

/-- `newGateway` and everything that can happen to it. -/
def machine (config : Settings) (requests : Fin n → Request) (start : Int) (file : Option Bytes) :
    Machine (Site n) (Happening n) where
  init := { now := start, file }
  step := step config.normalize requests

/-! ## A run of the gateway -/

variable {c : Settings} {requests : Fin n → Request} {s t : Site n}

/-- A statement of a call, taken apart. -/
theorem call_cases {i : Fin n} {call : Call} (other : call ≠ .authorize)
    (stepped : s.step c requests (.call i call) = some t) :
    ∃ a v g h, (s.visits i).next c (requests i) s.now s.file (s.gateway.handlers i).pc call =
        some (a, v) ∧
      (s.gateway.handlers i).step c.limits i s.gateway.gateway a = some (g, h) ∧
      t = { s with
        gateway := { s.gateway with
          gateway := g, handlers := Function.update s.gateway.handlers i h }
        visits := Function.update s.visits i v } := by
  have unfolded : s.step c requests (.call i call) =
      match (s.visits i).next c (requests i) s.now s.file (s.gateway.handlers i).pc call with
      | none => none
      | some (a, v) =>
          (s.gateway.step c.limits (.handler i a)).map fun gateway =>
            { s with gateway, visits := Function.update s.visits i v } := by
    cases call with
    | authorize => exact absurd rfl other
    | _ => rfl
  rw [unfolded] at stepped
  split at stepped
  · cases stepped
  · next a v made =>
    obtain ⟨_, ran, rfl⟩ := Option.map_eq_some_iff.mp stepped
    obtain ⟨⟨g, h⟩, moved, rfl⟩ := Option.map_eq_some_iff.mp ran
    exact ⟨a, v, g, h, made, moved, rfl⟩

theorem process_cases {e : Gateway.Event n} (stepped : s.step c requests (.process e) = some t) :
    (∀ i a, e ≠ .handler i a) ∧ ∃ gateway, s.gateway.step c.limits e = some gateway ∧
      t = { s with gateway } := by
  cases e with
  | handler i a => cases stepped
  | beginDrain | force | count k | wait | look k | wake k | cancel k =>
      simp only [step, Option.map_eq_some_iff] at stepped
      obtain ⟨gateway, ran, rfl⟩ := stepped
      refine ⟨fun i a same => ?_, gateway, ran, rfl⟩
      cases same

/-- A step of the site is a step of the gateway, or leaves it alone. -/
theorem step_gateway {e : Happening n} (stepped : s.step c requests e = some t) :
    t.gateway = s.gateway ∨ ∃ e, s.gateway.step c.limits e = some t.gateway := by
  cases e with
  | call i call =>
      by_cases own : call = .authorize
      · subst own
        obtain ⟨-, rfl⟩ := Gateway.of_when stepped
        exact .inl rfl
      · obtain ⟨a, v, g, h, -, moved, rfl⟩ := call_cases own stepped
        refine .inr ⟨.handler i a, ?_⟩
        rw [State.step, moved]
        rfl
  | process e =>
      obtain ⟨-, gateway, ran, rfl⟩ := process_cases stepped
      exact .inr ⟨e, ran⟩
  | tick later =>
      obtain ⟨-, rfl⟩ := Gateway.of_when stepped
      exact .inl rfl
  | edit file =>
      cases stepped
      exact .inl rfl

/-- **The gateway under the site.** -/
theorem gateway_of_steps {config : Settings} {start : Int} {file : Option Bytes}
    (reached : (machine config requests start file).Reaches Machine.always s) :
    (State.machine config.normalize.limits n).Reaches Machine.always s.gateway := by
  apply reached.invariant fun s : Site n =>
    (State.machine config.normalize.limits n).Reaches Machine.always s.gateway
  · intro s e t before _ stepped
    rcases step_gateway stepped with same | ⟨e, moved⟩
    · rw [same]
      exact before
    · exact .tail before trivial moved
  · exact .refl

end Site

end GrpcBridge.Admission
