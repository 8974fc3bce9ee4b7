/-
# Gateway.Statements -- what each statement of ServeHTTP can do, said once

`Proceeded` is the inversion of `Handler.proceed`: one constructor for each way a
statement can end, with the guard under which the source takes it.  `Answered` is that of
the calls whose outcome something outside decides, and `Stepped` of a whole step.
`State.step_watches` and `State.step_count` are those of the steps outside a handler.

The invariants of the following modules are case analyses of these, and none of them
unfolds a statement of the handler.
-/
import GrpcBridge.Gateway.Serve

namespace GrpcBridge.Gateway

set_option autoImplicit false
set_option linter.dupNamespace false

/-- The critical sections that drain refuses. -/
theorem of_unless {α : Type} {refused : Prop} [Decidable refused] {x y : α}
    (ran : (if refused then none else some x) = some y) : ¬ refused ∧ y = x := by
  split at ran
  · cases ran
  · rename_i accepted
    exact ⟨accepted, (Option.some.inj ran).symm⟩

/-- The statements that are at one place only. -/
theorem of_when {α : Type} {here : Prop} [Decidable here] {x y : α}
    (ran : (if here then some x else none) = some y) : here ∧ y = x := by
  split at ran
  · rename_i there
    exact ⟨there, (Option.some.inj ran).symm⟩
  · cases ran

namespace Handler

variable {n : Nat}

inductive Proceeded (cfg : Config) (i : Fin n) (g : Gateway n) (h : Handler) :
    Gateway n → Handler → Prop
  | handshakeRefused (pc : h.pc = .beginHandshake) (draining : g.draining = true) :
      Proceeded cfg i g h g { h with pc := .refused }
  | handshakeBegun (pc : h.pc = .beginHandshake) (accepting : g.draining = false) :
      Proceeded cfg i g h { g with handshakes := insert i g.handshakes }.signal { h with
        flags := { h.flags with handshakePending := true }
        failure := "upgrade"
        pc := .checks }
  | refused (pc : h.pc = .refused) :
      Proceeded cfg i g h (g.count (·.fail "shutdown")) { h with
        answer := some (503, "bridge is draining")
        pc := .returned }
  | slotRefused (pc : h.pc = .slot) (full : cfg.maxConnections ≤ g.slots) :
      Proceeded cfg i g h g (h.reject noSlot)
  | slotTaken (pc : h.pc = .slot) (room : g.slots < cfg.maxConnections) :
      Proceeded cfg i g h { g with slots := g.slots + 1 }
        { h with flags := { h.flags with heldSlot := true }, pc := .destination }
  | drainedBeforeAdmission (pc : h.pc = .drainBeforeAdmission) (draining : g.draining = true) :
      Proceeded cfg i g h g (h.reject shuttingDown)
  | beforeAdmission (pc : h.pc = .drainBeforeAdmission) (accepting : g.draining = false) :
      Proceeded cfg i g h g { h with pc := .admission }
  | drainedAfterAdmission (pc : h.pc = .drainAfterAdmission) (draining : g.draining = true) :
      Proceeded cfg i g h g (h.reject shuttingDown)
  | afterAdmission (pc : h.pc = .drainAfterAdmission) (accepting : g.draining = false) :
      Proceeded cfg i g h g { h with pc := .principal }
  | principalRefused (pc : h.pc = .principal)
      (refuses : g.draining = true ∨ cfg.maxPerPrincipal ≤ g.reserved h.principal) :
      Proceeded cfg i g h g (h.reject noPrincipal)
  | principalReserved (pc : h.pc = .principal) (accepting : g.draining = false)
      (room : g.reserved h.principal < cfg.maxPerPrincipal) :
      Proceeded cfg i g h
        { g with principals :=
            Function.update g.principals h.principal (some (g.reserved h.principal + 1)) }
        { h with flags := { h.flags with heldPrincipal := true }, pc := .dial }
  | tunnelRefused (pc : h.pc = .register) (draining : g.draining = true) :
      Proceeded cfg i g h g (h.reject shuttingDown)
  | tunnelRegistered (pc : h.pc = .register) (accepting : g.draining = false) :
      Proceeded cfg i g h { g with active := insert i g.active }.signal { h with
        flags := { h.flags with activeRegistered := true }
        pc := .deadlineAfterDial }
  | drainedAfterDial (pc : h.pc = .drainAfterDial) (draining : g.draining = true) :
      Proceeded cfg i g h g (h.reject shuttingDown)
  | afterDial (pc : h.pc = .drainAfterDial) (accepting : g.draining = false) :
      Proceeded cfg i g h g { h with pc := .hijack }
  | clientRefused (pc : h.pc = .attach) (refused : h.tunnel.bind Tunnel.setClient = none) :
      Proceeded cfg i g h g { h with client := h.client.close, failure := "shutdown" }.leave
  | clientSet {t : Tunnel} (pc : h.pc = .attach) (tunnel : h.tunnel = some t)
      (opened : ¬ t.closed = true) :
      Proceeded cfg i g h g
        { h with tunnel := some { t with attached := true }, pc := .deadlineAfterHijack }
  | completionRefused (pc : h.pc = .complete) (draining : g.draining = true) :
      Proceeded cfg i g h g { h with failure := "shutdown" }.leave
  | handshakeCompleted (pc : h.pc = .complete) (accepting : g.draining = false) :
      Proceeded cfg i g h { g with handshakes := g.handshakes.erase i }.signal { h with
        flags := { h.flags with handshakePending := false }
        completed := true
        pc := .arm }
  | armed (pc : h.pc = .arm) :
      Proceeded cfg i g h g { h with timer := .armed, pc := .deadlineBeforeUpgrade }
  | opened (pc : h.pc = .opened) :
      Proceeded cfg i g h (g.count fun m => { m with opened := m.opened + 1 })
        { h with failure := "", pc := .establish }
  | established (pc : h.pc = .establish) :
      Proceeded cfg i g h (g.count fun m => { m with established := m.established + 1 }) { h with
        flags := { h.flags with gauge := true }
        pump := .running
        ticker := .running
        pc := .relay }
  | closed (pc : h.pc = .close) :
      Proceeded cfg i g h g { h.closeTunnel .handler with pc := .finished }
  | finished (pc : h.pc = .finished) (settled : h.owes .handler = false)
      (pumped : h.pump = .finished) : Proceeded cfg i g h g h.leave
  | deferDone (pc : h.pc = .deferDone) :
      Proceeded cfg i g h g { h with done := h.flags.gauge, pc := .deferGauge }
  | deferGauge (pc : h.pc = .deferGauge) (gauge : h.flags.gauge = true) :
      Proceeded cfg i g h (g.count fun m => { m with established := m.established - 1 })
        { h with flags := { h.flags with gauge := false }, pc := .deferClosed }
  | noGauge (pc : h.pc = .deferGauge) (gauge : h.flags.gauge = false) :
      Proceeded cfg i g h g { h with pc := .deferTimer }
  | deferClosed (pc : h.pc = .deferClosed) :
      Proceeded cfg i g h (g.count fun m => { m with closed := m.closed + 1 })
        { h with pc := .deferTimer }
  | deferTimer (pc : h.pc = .deferTimer) :
      Proceeded cfg i g h g { h with
        timer := if h.timer = .armed then .stopped else h.timer
        pc := .deferFailure }
  | deferFailure (pc : h.pc = .deferFailure) (failed : h.failure ≠ "") :
      Proceeded cfg i g h (g.count (·.fail h.failure)) { h with pc := .deferClose }
  | noFailure (pc : h.pc = .deferFailure) (silent : h.failure = "") :
      Proceeded cfg i g h g { h with pc := .deferClose }
  | deferClose {t : Tunnel} (pc : h.pc = .deferClose) (tunnel : h.tunnel = some t) :
      Proceeded cfg i g h g { h.closeTunnel .handler with pc := .deferPrincipal }
  | noTunnel (pc : h.pc = .deferClose) (tunnel : h.tunnel = none) :
      Proceeded cfg i g h g { h with
        client := h.client.close
        upstream := h.upstream.close
        pc := .deferPrincipal }
  | deferPrincipal (pc : h.pc = .deferPrincipal) (settled : h.owes .handler = false)
      (held : h.flags.heldPrincipal = true) :
      Proceeded cfg i g h (g.releasePrincipal h.principal)
        { h with flags := { h.flags with heldPrincipal := false }, pc := .deferSlot }
  | noReservation (pc : h.pc = .deferPrincipal) (settled : h.owes .handler = false)
      (held : h.flags.heldPrincipal = false) : Proceeded cfg i g h g { h with pc := .deferSlot }
  | deferSlot (pc : h.pc = .deferSlot) (held : h.flags.heldSlot = true) :
      Proceeded cfg i g h g.freeSlot
        { h with flags := { h.flags with heldSlot := false }, pc := .deferUnregister }
  | noTakenSlot (pc : h.pc = .deferSlot) (held : h.flags.heldSlot = false) :
      Proceeded cfg i g h g { h with pc := .deferUnregister }
  | deferUnregister (pc : h.pc = .deferUnregister) (held : h.flags.activeRegistered = true) :
      Proceeded cfg i g h (g.unregisterTunnel i)
        { h with flags := { h.flags with activeRegistered := false }, pc := .deferFinish }
  | noRegistration (pc : h.pc = .deferUnregister) (held : h.flags.activeRegistered = false) :
      Proceeded cfg i g h g { h with pc := .deferFinish }
  | deferFinish (pc : h.pc = .deferFinish) (held : h.flags.handshakePending = true) :
      Proceeded cfg i g h (g.finishHandshake i)
        { h with flags := { h.flags with handshakePending := false }, pc := .returned }
  | noHandshake (pc : h.pc = .deferFinish) (held : h.flags.handshakePending = false) :
      Proceeded cfg i g h g { h with pc := .returned }

inductive Answered (h : Handler) : Act → Handler → Prop
  | checkFailed (bad : BadRequest) (pc : h.pc = .checks) :
      Answered h (.checks (some bad)) (h.reject bad.refusal)
  | checked (pc : h.pc = .checks) : Answered h (.checks none) { h with pc := .slot }
  | unresolved (bad : BadDestination) (pc : h.pc = .destination) :
      Answered h (.destination (some bad)) (h.reject bad.refusal)
  | resolved (pc : h.pc = .destination) :
      Answered h (.destination none) { h with pc := .drainBeforeAdmission }
  | denied (denied : Denied) (pc : h.pc = .admission) :
      Answered h (.admission (.error denied)) (h.reject denied.refusal)
  | granted (subject : String) (pc : h.pc = .admission) :
      Answered h (.admission (.ok subject)) { h with principal := subject, pc := .drainAfterAdmission }
  | dialFailed (pc : h.pc = .dial) : Answered h (.dial .failed) (h.reject noUpstream)
  | dialedNotH2 (pc : h.pc = .dial) :
      Answered h (.dial .notH2) ({ h with upstream := .closed }.reject noUpstream)
  | dialed (pc : h.pc = .dial) :
      Answered h (.dial .ok) { h with upstream := .live, tunnel := some {}, pc := .register }
  | lateAfterDial (pc : h.pc = .deadlineAfterDial) : Answered h (.clock true) (h.reject expired)
  | inTimeAfterDial (pc : h.pc = .deadlineAfterDial) :
      Answered h (.clock false) { h with pc := .drainAfterDial }
  | lateAfterHijack (pc : h.pc = .deadlineAfterHijack) : Answered h (.clock true) h.leave
  | inTimeAfterHijack (pc : h.pc = .deadlineAfterHijack) :
      Answered h (.clock false) { h with pc := .complete }
  | lateBeforeUpgrade (pc : h.pc = .deadlineBeforeUpgrade) : Answered h (.clock true) h.leave
  | inTimeBeforeUpgrade (pc : h.pc = .deadlineBeforeUpgrade) :
      Answered h (.clock false) { h with pc := .upgrade }
  | lateAfterUpgrade (pc : h.pc = .deadlineAfterUpgrade) : Answered h (.clock true) h.leave
  | inTimeAfterUpgrade (pc : h.pc = .deadlineAfterUpgrade) :
      Answered h (.clock false) { h with pc := .opened }
  | unhijackable (pc : h.pc = .hijack) : Answered h (.hijack .unsupported) (h.reject noUpgrade)
  | hijackFailed (pc : h.pc = .hijack) : Answered h (.hijack .failed) h.leave
  | hijacked (pc : h.pc = .hijack) :
      Answered h (.hijack .ok) { h with client := .live, pc := .attach }
  | upgradeFailed (pc : h.pc = .upgrade) :
      Answered h (.upgrade false) { h with answer := some (101, "Switching Protocols") }.leave
  | upgraded (pc : h.pc = .upgrade) :
      Answered h (.upgrade true) { h with
        answer := some (101, "Switching Protocols")
        pc := .deadlineAfterUpgrade }
  | relayed (pc : h.pc = .relay) : Answered h .relayed { h with pc := .close }

inductive Stepped (cfg : Config) (i : Fin n) (g : Gateway n) (h : Handler) :
    Act → Gateway n → Handler → Prop
  | tunnel (pc : h.pc = .route) :
      Stepped cfg i g h (.route true) (g.count fun m => { m with attempts := m.attempts + 1 })
        { h with pc := .beginHandshake }
  | elsewhere (pc : h.pc = .route) :
      Stepped cfg i g h (.route false) g
        { h with answer := some (404, "404 page not found"), pc := .returned }
  | proceeds {g' : Gateway n} {h' : Handler} (ran : h.proceed cfg i g = some (g', h')) :
      Stepped cfg i g h .proceed g' h'
  | answers {a : Act} {h' : Handler} (ran : h.answered a = some h') : Stepped cfg i g h a g h'
  | others {a : Act} {h' : Handler} (ran : h.others a = some h') : Stepped cfg i g h a g h'

variable {cfg : Config} {i : Fin n} {g g' : Gateway n} {h h' : Handler}

/-- The inversion of `proceed`, statement by statement. -/
theorem proceed_cases (stepped : h.proceed cfg i g = some (g', h')) :
    Proceeded cfg i g h g' h' := by
  cases pc : h.pc with
  | route | checks | destination | admission | dial | deadlineAfterDial | hijack
  | deadlineAfterHijack | deadlineBeforeUpgrade | upgrade | deadlineAfterUpgrade | relay
  | returned =>
      simp only [proceed, pc, reduceCtorEq] at stepped
  | beginHandshake =>
      simp only [proceed, pc, Gateway.beginHandshake] at stepped
      cases draining : g.draining with
      | true =>
          rw [if_pos draining] at stepped
          cases stepped
          exact .handshakeRefused pc draining
      | false =>
          rw [if_neg (Bool.eq_false_iff.1 draining)] at stepped
          cases stepped
          exact .handshakeBegun pc draining
  | refused =>
      simp only [proceed, pc] at stepped
      cases stepped
      exact .refused pc
  | slot =>
      simp only [proceed, pc, Gateway.takeSlot] at stepped
      by_cases room : g.slots < cfg.maxConnections
      · rw [if_pos room] at stepped
        cases stepped
        exact .slotTaken pc room
      · rw [if_neg room] at stepped
        cases stepped
        exact .slotRefused pc (Nat.not_lt.1 room)
  | drainBeforeAdmission =>
      simp only [proceed, pc] at stepped
      cases stepped
      cases draining : g.draining with
      | true => exact .drainedBeforeAdmission pc draining
      | false => exact .beforeAdmission pc draining
  | drainAfterAdmission =>
      simp only [proceed, pc] at stepped
      cases stepped
      cases draining : g.draining with
      | true => exact .drainedAfterAdmission pc draining
      | false => exact .afterAdmission pc draining
  | principal =>
      simp only [proceed, pc, Gateway.acquirePrincipal] at stepped
      by_cases refuses : g.draining = true ∨ g.reserved h.principal ≥ cfg.maxPerPrincipal
      · rw [if_pos refuses] at stepped
        cases stepped
        exact .principalRefused pc refuses
      · rw [if_neg refuses] at stepped
        cases stepped
        obtain ⟨running, room⟩ := not_or.1 refuses
        exact .principalReserved pc (Bool.eq_false_of_not_eq_true running) (Nat.not_le.1 room)
  | register =>
      simp only [proceed, pc, Gateway.registerTunnel] at stepped
      cases draining : g.draining with
      | true =>
          rw [if_pos draining] at stepped
          cases stepped
          exact .tunnelRefused pc draining
      | false =>
          rw [if_neg (Bool.eq_false_iff.1 draining)] at stepped
          cases stepped
          exact .tunnelRegistered pc draining
  | drainAfterDial =>
      simp only [proceed, pc] at stepped
      cases stepped
      cases draining : g.draining with
      | true => exact .drainedAfterDial pc draining
      | false => exact .afterDial pc draining
  | attach =>
      simp only [proceed, pc] at stepped
      split at stepped
      · rename_i refused
        cases stepped
        exact .clientRefused pc refused
      · rename_i set
        cases stepped
        obtain ⟨t, tunnel, accepted⟩ := Option.bind_eq_some_iff.1 set
        obtain ⟨opened, rfl⟩ := of_unless accepted
        exact .clientSet pc tunnel opened
  | complete =>
      simp only [proceed, pc, Gateway.completeHandshake] at stepped
      cases draining : g.draining with
      | true =>
          rw [if_pos draining] at stepped
          cases stepped
          exact .completionRefused pc draining
      | false =>
          rw [if_neg (Bool.eq_false_iff.1 draining)] at stepped
          cases stepped
          exact .handshakeCompleted pc draining
  | arm =>
      simp only [proceed, pc] at stepped
      cases stepped
      exact .armed pc
  | opened =>
      simp only [proceed, pc] at stepped
      cases stepped
      exact .opened pc
  | establish =>
      simp only [proceed, pc] at stepped
      cases stepped
      exact .established pc
  | close =>
      simp only [proceed, pc] at stepped
      cases stepped
      exact .closed pc
  | finished =>
      simp only [proceed, pc] at stepped
      obtain ⟨⟨settled, pumped⟩, same⟩ := of_when stepped
      cases same
      exact .finished pc settled pumped
  | deferDone =>
      simp only [proceed, pc] at stepped
      cases stepped
      exact .deferDone pc
  | deferGauge =>
      simp only [proceed, pc] at stepped
      cases gauge : h.flags.gauge with
      | true =>
          rw [if_pos gauge] at stepped
          cases stepped
          exact .deferGauge pc gauge
      | false =>
          rw [if_neg (Bool.eq_false_iff.1 gauge)] at stepped
          cases stepped
          exact .noGauge pc gauge
  | deferClosed =>
      simp only [proceed, pc] at stepped
      cases stepped
      exact .deferClosed pc
  | deferTimer =>
      simp only [proceed, pc] at stepped
      cases stepped
      exact .deferTimer pc
  | deferFailure =>
      simp only [proceed, pc] at stepped
      cases stepped
      by_cases silent : h.failure = ""
      · rw [if_neg (not_not_intro silent)]
        exact .noFailure pc silent
      · rw [if_pos silent]
        exact .deferFailure pc silent
  | deferClose =>
      simp only [proceed, pc] at stepped
      split at stepped
      · rename_i t tunnel
        cases stepped
        exact .deferClose pc tunnel
      · rename_i tunnel
        cases stepped
        exact .noTunnel pc tunnel
  | deferPrincipal =>
      simp only [proceed, pc] at stepped
      split at stepped
      · cases stepped
      · rename_i owes
        have settled := Bool.eq_false_of_not_eq_true owes
        split at stepped
        · rename_i held
          cases stepped
          exact .deferPrincipal pc settled held
        · rename_i unheld
          cases stepped
          exact .noReservation pc settled (Bool.eq_false_of_not_eq_true unheld)
  | deferSlot =>
      simp only [proceed, pc] at stepped
      split at stepped
      · rename_i held
        cases stepped
        exact .deferSlot pc held
      · rename_i unheld
        cases stepped
        exact .noTakenSlot pc (Bool.eq_false_of_not_eq_true unheld)
  | deferUnregister =>
      simp only [proceed, pc] at stepped
      split at stepped
      · rename_i held
        cases stepped
        exact .deferUnregister pc held
      · rename_i unheld
        cases stepped
        exact .noRegistration pc (Bool.eq_false_of_not_eq_true unheld)
  | deferFinish =>
      simp only [proceed, pc] at stepped
      split at stepped
      · rename_i held
        cases stepped
        exact .deferFinish pc held
      · rename_i unheld
        cases stepped
        exact .noHandshake pc (Bool.eq_false_of_not_eq_true unheld)

/-- The inversion of `answered`, call by call. -/
theorem answered_cases {a : Act} (stepped : h.answered a = some h') : Answered h a h' := by
  cases a with
  | checks bad =>
      obtain ⟨pc, rfl⟩ := of_when stepped
      cases bad with
      | none => exact .checked pc
      | some bad => exact .checkFailed bad pc
  | destination bad =>
      obtain ⟨pc, rfl⟩ := of_when stepped
      cases bad with
      | none => exact .resolved pc
      | some bad => exact .unresolved bad pc
  | admission grant =>
      obtain ⟨pc, rfl⟩ := of_when stepped
      cases grant with
      | ok subject => exact .granted subject pc
      | error denied => exact .denied denied pc
  | dial outcome =>
      obtain ⟨pc, rfl⟩ := of_when stepped
      cases outcome with
      | failed => exact .dialFailed pc
      | notH2 => exact .dialedNotH2 pc
      | ok => exact .dialed pc
  | clock late =>
      simp only [answered, clock] at stepped
      split at stepped
      · rename_i pc
        cases stepped
        cases late with
        | true => exact .lateAfterDial pc
        | false => exact .inTimeAfterDial pc
      · rename_i pc
        cases stepped
        cases late with
        | true => exact .lateAfterHijack pc
        | false => exact .inTimeAfterHijack pc
      · rename_i pc
        cases stepped
        cases late with
        | true => exact .lateBeforeUpgrade pc
        | false => exact .inTimeBeforeUpgrade pc
      · rename_i pc
        cases stepped
        cases late with
        | true => exact .lateAfterUpgrade pc
        | false => exact .inTimeAfterUpgrade pc
      · cases stepped
  | hijack outcome =>
      obtain ⟨pc, rfl⟩ := of_when stepped
      cases outcome with
      | unsupported => exact .unhijackable pc
      | failed => exact .hijackFailed pc
      | ok => exact .hijacked pc
  | upgrade flushed =>
      obtain ⟨pc, rfl⟩ := of_when stepped
      cases flushed with
      | true => exact .upgraded pc
      | false => exact .upgradeFailed pc
  | relayed =>
      obtain ⟨pc, rfl⟩ := of_when stepped
      exact .relayed pc
  | _ => cases stepped

/-- The inversion of `step`. -/
theorem step_cases {a : Act} (stepped : h.step cfg i g a = some (g', h')) :
    Stepped cfg i g h a g' h' := by
  have outside : ∀ {a}, (h.answered a).map (fun h => (g, h)) = some (g', h') →
      Stepped cfg i g h a g' h' := by
    intro a mapped
    obtain ⟨_, ran, same⟩ := Option.map_eq_some_iff.1 mapped
    cases same
    exact .answers ran
  have aside : ∀ {a}, (h.others a).map (fun h => (g, h)) = some (g', h') →
      Stepped cfg i g h a g' h' := by
    intro a mapped
    obtain ⟨_, ran, same⟩ := Option.map_eq_some_iff.1 mapped
    cases same
    exact .others ran
  cases a with
  | route tunnel =>
      simp only [step] at stepped
      obtain ⟨pc, same⟩ := of_when stepped
      cases tunnel with
      | true =>
          cases same
          exact .tunnel pc
      | false =>
          cases same
          exact .elsewhere pc
  | proceed => exact .proceeds stepped
  | checks _ | destination _ | admission _ | dial _ | clock _ | hijack _ | upgrade _ | relayed =>
      exact outside stepped
  | pumpCloses | pumpReturns | tickerCloses | tickerReturns | timerFires | forcerCloses | settle =>
      exact aside stepped

end Handler

namespace State

variable {n : Nat} {cfg : Config} {s t : State n}

/-- The events of `waitForDrain`. -/
def watches : Event n → Bool
  | .wait | .look _ | .wake _ | .cancel _ => true
  | _ => false

/-- A waiter only looks. -/
theorem step_watches {e : Event n} (watching : watches e = true)
    (stepped : step cfg s e = some t) : ∃ waiters, t = { s with waiters } := by
  cases e with
  | handler i a | beginDrain | force | count k => cases watching
  | wait =>
      cases stepped
      exact ⟨_, rfl⟩
  | look k =>
      obtain ⟨-, rfl⟩ := of_when stepped
      exact ⟨_, rfl⟩
  | wake k =>
      simp only [step] at stepped
      split at stepped
      · obtain ⟨-, rfl⟩ := of_when stepped
        exact ⟨_, rfl⟩
      · cases stepped
  | cancel k =>
      simp only [step] at stepped
      split at stepped
      · cases stepped
        exact ⟨_, rfl⟩
      · cases stepped

/-- A call of `forceCloseActive` counts what it has taken. -/
theorem step_count {k : Nat} (stepped : step cfg s (.count k) = some t) :
    ∃ taken, s.uncounted[k]? = some taken ∧ t = { s with
      gateway := s.gateway.count fun m => { m with forcedClosures := m.forcedClosures + taken }
      uncounted := s.uncounted.eraseIdx k } := by
  simp only [step] at stepped
  split at stepped
  · rename_i taken found
    cases stepped
    exact ⟨taken, found, rfl⟩
  · cases stepped

end State

end GrpcBridge.Gateway
