/-
# Gateway.Moves -- what one step of a handler can do to the shared state

`Holding` is what a handler holds of the gateway.  `Pc.Allows` says which flags it
has at each statement of `ServeHTTP`; on the way in they are determined, on the
way out they are whatever the early return left, less what has been released.

`step_moves` is the only case analysis of a step that the accounting needs: every
step is one of the ten `Move`s, with the guards under which the source makes it.
-/
import GrpcBridge.Gateway.Statements

namespace GrpcBridge.Gateway

set_option autoImplicit false
set_option linter.dupNamespace false

variable {n : Nat}

/-! ## Flags at each statement -/

/-- The handler can still be found in one of the two sets. -/
def Flags.Tracked (f : Flags) : Prop := f.handshakePending = true ∨ f.activeRegistered = true

instance (f : Flags) : Decidable f.Tracked := inferInstanceAs (Decidable (_ ∨ _))

def Pc.Allows (pc : Pc) (f : Flags) : Prop :=
  match pc with
  | .route | .beginHandshake | .refused | .returned => f = {}
  | .checks | .slot => f = { handshakePending := true }
  | .destination | .drainBeforeAdmission | .admission | .drainAfterAdmission | .principal =>
      f = { handshakePending := true, heldSlot := true }
  | .dial | .register => f = { handshakePending := true, heldSlot := true, heldPrincipal := true }
  | .deadlineAfterDial | .drainAfterDial | .hijack | .attach | .deadlineAfterHijack | .complete =>
      f = { handshakePending := true, heldSlot := true, heldPrincipal := true,
            activeRegistered := true }
  | .arm | .deadlineBeforeUpgrade | .upgrade | .deadlineAfterUpgrade | .opened | .establish =>
      f = { heldSlot := true, heldPrincipal := true, activeRegistered := true }
  | .relay | .close | .finished =>
      f = { heldSlot := true, heldPrincipal := true, activeRegistered := true, gauge := true }
  | .deferDone | .deferGauge => f.Tracked
  | .deferClosed | .deferTimer | .deferFailure | .deferClose | .deferPrincipal =>
      f.gauge = false ∧ f.Tracked
  | .deferSlot => f.gauge = false ∧ f.heldPrincipal = false ∧ f.Tracked
  | .deferUnregister =>
      f.gauge = false ∧ f.heldPrincipal = false ∧ f.heldSlot = false ∧ f.Tracked
  | .deferFinish =>
      f.gauge = false ∧ f.heldPrincipal = false ∧ f.heldSlot = false ∧ f.activeRegistered = false

/-- The statements after `completeHandshake`. -/
def Pc.afterComplete : Pc → Bool
  | .arm | .deadlineBeforeUpgrade | .upgrade | .deadlineAfterUpgrade | .opened | .establish | .relay
  | .close | .finished => true
  | _ => false

structure Handler.Shape (h : Handler) : Prop where
  flags : h.pc.Allows h.flags
  completed : h.pc.afterComplete = true → h.completed = true
  /-- A 101 has gone out only for a completed handshake. -/
  upgraded : h.answer.map Prod.fst = some 101 → h.completed = true

/-! ## Moves -/

structure Holding where
  pending : Bool
  slot : Bool
  registered : Bool
  /-- Whom the handler's reservation is charged to. -/
  subject : Option String
  completed : Bool
deriving DecidableEq, Repr

def Handler.holding (h : Handler) : Holding where
  pending := h.flags.handshakePending
  slot := h.flags.heldSlot
  registered := h.flags.activeRegistered
  subject := if h.flags.heldPrincipal then some h.principal else none
  completed := h.completed

inductive Move (cfg : Config) (i : Fin n) (g : Gateway n) (x : Holding) :
    Gateway n → Holding → Prop
  | quiet (f : Metrics → Metrics) : Move cfg i g x (g.count f) x
  | begins : x.pending = false → g.draining = false →
      Move cfg i g x { g with handshakes := insert i g.handshakes }.signal { x with pending := true }
  | takes : x.slot = false → g.slots < cfg.maxConnections →
      Move cfg i g x { g with slots := g.slots + 1 } { x with slot := true }
  | reserves (s : String) : x.subject = none → g.draining = false →
      g.reserved s < cfg.maxPerPrincipal →
      Move cfg i g x
        { g with principals := Function.update g.principals s (some (g.reserved s + 1)) }
        { x with subject := some s }
  | registers : x.registered = false → g.draining = false →
      Move cfg i g x { g with active := insert i g.active }.signal { x with registered := true }
  | completes : x.registered = true → g.draining = false →
      Move cfg i g x { g with handshakes := g.handshakes.erase i }.signal
        { x with pending := false, completed := true }
  | releases (s : String) : x.subject = some s →
      Move cfg i g x (g.releasePrincipal s) { x with subject := none }
  | frees : x.slot = true → Move cfg i g x g.freeSlot { x with slot := false }
  | unregisters : x.registered = true →
      Move cfg i g x (g.unregisterTunnel i) { x with registered := false }
  | finishes : Move cfg i g x (g.finishHandshake i) { x with pending := false }

theorem Move.same {cfg : Config} {i : Fin n} {g : Gateway n} {x : Holding} : Move cfg i g x g x :=
  .quiet id

/-! ## Statements -/

theorem BadRequest.status_ne (bad : BadRequest) : bad.refusal.status ≠ 101 := by
  cases bad <;> decide

theorem BadDestination.status_ne (bad : BadDestination) : bad.refusal.status ≠ 101 := by
  cases bad <;> decide

theorem Denied.status_ne (denied : Denied) : denied.refusal.status ≠ 101 := by
  cases denied <;> decide

namespace Handler

variable {cfg : Config} {i : Fin n} {g g' : Gateway n} {h h' : Handler}

/-- What the accounting needs of a step. -/
def Moved (cfg : Config) (i : Fin n) (g : Gateway n) (h : Handler) (g' : Gateway n) (h' : Handler) :
    Prop :=
  h'.Shape ∧ Move cfg i g h.holding g' h'.holding

/-- A refusal, from a tracked handler. -/
theorem moved_reject {r : Refusal} (tracked : h.flags.Tracked) (status : r.status ≠ 101) :
    Moved cfg i g h g (h.reject r) :=
  ⟨⟨tracked, Bool.noConfusion, fun sent => absurd (Option.some.inj sent) status⟩, .same⟩

theorem moved_leave (shape : h.Shape) (tracked : h.flags.Tracked) : Moved cfg i g h g h.leave :=
  ⟨⟨tracked, Bool.noConfusion, shape.upgraded⟩, .same⟩

/-- A statement that only moves on, to one that allows the same flags. -/
theorem moved_on (shape : h.Shape) {pc : Pc} (allows : pc.Allows h.flags)
    (after : pc.afterComplete = true → h.completed = true) :
    Moved cfg i g h g { h with pc := pc } :=
  ⟨⟨allows, after, shape.upgraded⟩, .same⟩

theorem proceed_moves (shape : h.Shape) (stepped : h.proceed cfg i g = some (g', h')) :
    Moved cfg i g h g' h' := by
  have flags := shape.flags
  have after := shape.completed
  have upgraded := shape.upgraded
  cases proceed_cases stepped with
  | handshakeRefused pc =>
      rw [pc] at flags
      exact moved_on shape flags Bool.noConfusion
  | handshakeBegun pc accepting =>
      rw [pc] at flags
      refine ⟨⟨?_, Bool.noConfusion, upgraded⟩,
        .begins (congrArg Flags.handshakePending flags) accepting⟩
      show Flags.mk true _ _ _ _ = _
      rw [show h.flags = _ from flags]
  | refused pc =>
      rw [pc] at flags
      exact ⟨⟨flags, Bool.noConfusion, fun sent => absurd (Option.some.inj sent) (by decide)⟩,
        .quiet _⟩
  | slotTaken pc room =>
      rw [pc] at flags
      refine ⟨⟨?_, Bool.noConfusion, upgraded⟩, .takes (congrArg Flags.heldSlot flags) room⟩
      show Flags.mk _ true _ _ _ = _
      rw [show h.flags = _ from flags]
  | slotRefused pc | drainedBeforeAdmission pc | drainedAfterAdmission pc | principalRefused pc
  | tunnelRefused pc | drainedAfterDial pc =>
      rw [pc] at flags
      exact moved_reject (.inl (congrArg Flags.handshakePending flags)) (by decide)
  | beforeAdmission pc | afterAdmission pc | afterDial pc =>
      rw [pc] at flags
      exact moved_on shape flags Bool.noConfusion
  | principalReserved pc accepting room =>
      rw [pc] at flags
      have unheld : h.flags.heldPrincipal = false := congrArg Flags.heldPrincipal flags
      refine ⟨⟨?_, Bool.noConfusion, upgraded⟩, ?_⟩
      · show Flags.mk _ _ true _ _ = _
        rw [show h.flags = _ from flags]
      · exact .reserves h.principal (if_neg (Bool.eq_false_iff.1 unheld)) accepting room
  | tunnelRegistered pc accepting =>
      rw [pc] at flags
      refine ⟨⟨?_, Bool.noConfusion, upgraded⟩,
        .registers (congrArg Flags.activeRegistered flags) accepting⟩
      show Flags.mk _ _ _ true _ = _
      rw [show h.flags = _ from flags]
  | clientRefused pc | completionRefused pc =>
      rw [pc] at flags
      exact ⟨⟨.inl (congrArg Flags.handshakePending flags), Bool.noConfusion, upgraded⟩, .same⟩
  | clientSet pc =>
      rw [pc] at flags
      exact ⟨⟨flags, Bool.noConfusion, upgraded⟩, .same⟩
  | handshakeCompleted pc accepting =>
      rw [pc] at flags
      refine ⟨⟨?_, fun _ => rfl, fun _ => rfl⟩,
        .completes (congrArg Flags.activeRegistered flags) accepting⟩
      show Flags.mk false _ _ _ _ = _
      rw [show h.flags = _ from flags]
  | armed pc | closed pc =>
      rw [pc] at flags after
      exact ⟨⟨flags, fun _ => after rfl, upgraded⟩, .same⟩
  | opened pc =>
      rw [pc] at flags after
      exact ⟨⟨flags, fun _ => after rfl, upgraded⟩, .quiet _⟩
  | established pc =>
      rw [pc] at flags after
      refine ⟨⟨?_, fun _ => after rfl, upgraded⟩, .quiet _⟩
      show Flags.mk _ _ _ _ true = _
      rw [show h.flags = _ from flags]
  | finished pc =>
      rw [pc] at flags
      exact moved_leave shape (.inr (congrArg Flags.activeRegistered flags))
  | deferDone pc | deferTimer pc | deferClose pc | noTunnel pc =>
      rw [pc] at flags
      exact ⟨⟨flags, Bool.noConfusion, upgraded⟩, .same⟩
  | deferGauge pc =>
      rw [pc] at flags
      exact ⟨⟨⟨rfl, flags⟩, Bool.noConfusion, upgraded⟩, .quiet _⟩
  | noGauge pc gauge =>
      rw [pc] at flags
      exact moved_on shape ⟨gauge, flags⟩ Bool.noConfusion
  | deferClosed pc | deferFailure pc =>
      rw [pc] at flags
      exact ⟨⟨flags, Bool.noConfusion, upgraded⟩, .quiet _⟩
  | noFailure pc =>
      rw [pc] at flags
      exact moved_on shape flags Bool.noConfusion
  | deferPrincipal pc _ held =>
      rw [pc] at flags
      obtain ⟨gauge, tracked⟩ := flags
      exact ⟨⟨⟨gauge, rfl, tracked⟩, Bool.noConfusion, upgraded⟩,
        .releases h.principal (if_pos held)⟩
  | noReservation pc _ unheld =>
      rw [pc] at flags
      obtain ⟨gauge, tracked⟩ := flags
      exact moved_on shape ⟨gauge, unheld, tracked⟩ Bool.noConfusion
  | deferSlot pc held =>
      rw [pc] at flags
      obtain ⟨gauge, released, tracked⟩ := flags
      exact ⟨⟨⟨gauge, released, rfl, tracked⟩, Bool.noConfusion, upgraded⟩, .frees held⟩
  | noTakenSlot pc unheld =>
      rw [pc] at flags
      obtain ⟨gauge, released, tracked⟩ := flags
      exact moved_on shape ⟨gauge, released, unheld, tracked⟩ Bool.noConfusion
  | deferUnregister pc held =>
      rw [pc] at flags
      obtain ⟨gauge, released, freed, _⟩ := flags
      exact ⟨⟨⟨gauge, released, freed, rfl⟩, Bool.noConfusion, upgraded⟩, .unregisters held⟩
  | noRegistration pc unheld =>
      rw [pc] at flags
      obtain ⟨gauge, released, freed, _⟩ := flags
      exact moved_on shape ⟨gauge, released, freed, unheld⟩ Bool.noConfusion
  | deferFinish pc =>
      rw [pc] at flags
      obtain ⟨gauge, released, freed, unregistered⟩ := flags
      refine ⟨⟨?_, Bool.noConfusion, upgraded⟩, .finishes⟩
      show Flags.mk false _ _ _ _ = _
      rw [gauge, released, freed, unregistered]
  | noHandshake pc unheld =>
      rw [pc] at flags
      obtain ⟨gauge, released, freed, unregistered⟩ := flags
      refine moved_on shape ?_ Bool.noConfusion
      show Flags.mk h.flags.handshakePending _ _ _ _ = _
      rw [unheld, gauge, released, freed, unregistered]

theorem answered_moves {a : Act} (shape : h.Shape) (stepped : h.answered a = some h') :
    Moved cfg i g h g h' := by
  have flags := shape.flags
  have after := shape.completed
  have upgraded := shape.upgraded
  cases answered_cases stepped with
  | checkFailed bad pc =>
      rw [pc] at flags
      exact moved_reject (.inl (congrArg Flags.handshakePending flags)) bad.status_ne
  | unresolved bad pc =>
      rw [pc] at flags
      exact moved_reject (.inl (congrArg Flags.handshakePending flags)) bad.status_ne
  | denied denied pc =>
      rw [pc] at flags
      exact moved_reject (.inl (congrArg Flags.handshakePending flags)) denied.status_ne
  | dialFailed pc | lateAfterDial pc | unhijackable pc =>
      rw [pc] at flags
      exact moved_reject (.inl (congrArg Flags.handshakePending flags)) (by decide)
  | dialedNotH2 pc =>
      rw [pc] at flags
      exact ⟨⟨.inl (congrArg Flags.handshakePending flags), Bool.noConfusion,
        fun sent => absurd (Option.some.inj sent) (by decide)⟩, .same⟩
  | checked pc | resolved pc | inTimeAfterDial pc | inTimeAfterHijack pc =>
      rw [pc] at flags
      exact moved_on shape flags Bool.noConfusion
  | granted subject pc =>
      -- the principal changes while nothing is reserved for it
      rw [pc] at flags
      have unheld : h.flags.heldPrincipal = false := congrArg Flags.heldPrincipal flags
      refine ⟨⟨flags, Bool.noConfusion, upgraded⟩, ?_⟩
      have same : { h with principal := subject, pc := .drainAfterAdmission }.holding =
          h.holding := by
        simp only [holding, unheld, Bool.false_eq_true, if_false]
      rw [same]
      exact .same
  | dialed pc | hijacked pc =>
      rw [pc] at flags
      exact ⟨⟨flags, Bool.noConfusion, upgraded⟩, .same⟩
  | lateAfterHijack pc | hijackFailed pc =>
      rw [pc] at flags
      exact moved_leave shape (.inl (congrArg Flags.handshakePending flags))
  | lateBeforeUpgrade pc | lateAfterUpgrade pc =>
      rw [pc] at flags
      exact moved_leave shape (.inr (congrArg Flags.activeRegistered flags))
  | inTimeBeforeUpgrade pc | inTimeAfterUpgrade pc | relayed pc =>
      rw [pc] at flags after
      exact moved_on shape flags fun _ => after rfl
  | upgraded pc =>
      rw [pc] at flags after
      exact ⟨⟨flags, fun _ => after rfl, fun _ => after rfl⟩, .same⟩
  | upgradeFailed pc =>
      rw [pc] at flags after
      exact ⟨⟨.inr (congrArg Flags.activeRegistered flags), Bool.noConfusion, fun _ => after rfl⟩,
        .same⟩

theorem releasePrincipal_metrics (g : Gateway n) (subject : String) :
    (g.releasePrincipal subject).metrics = g.metrics := by
  unfold Gateway.releasePrincipal
  split <;> rfl

/-- The other goroutines touch the tunnel, its sockets and themselves. -/
theorem others_frame {a : Act} (stepped : h.others a = some h') :
    h'.pc = h.pc ∧ h'.flags = h.flags ∧ h'.principal = h.principal ∧ h'.answer = h.answer ∧
      h'.completed = h.completed := by
  cases a with
  | pumpCloses | pumpReturns | tickerCloses | tickerReturns | timerFires =>
      simp only [others] at stepped
      obtain ⟨_, rfl⟩ := of_when stepped
      exact ⟨rfl, rfl, rfl, rfl, rfl⟩
  | forcerCloses =>
      simp only [others] at stepped
      split at stepped
      · obtain ⟨_, rfl⟩ := of_when stepped
        exact ⟨rfl, rfl, rfl, rfl, rfl⟩
      · cases stepped
  | settle =>
      simp only [others, settle] at stepped
      split at stepped
      · cases stepped
      · split at stepped <;> cases stepped <;> exact ⟨rfl, rfl, rfl, rfl, rfl⟩
  | _ => cases stepped

theorem settle_failure (stepped : h.settle = some h') : h'.failure = h.failure := by
  simp only [settle] at stepped
  split at stepped
  · cases stepped
  · split at stepped <;> cases stepped <;> rfl

theorem others_failure {a : Act} (stepped : h.others a = some h') : h'.failure = h.failure := by
  cases a with
  | pumpCloses | pumpReturns | tickerCloses | tickerReturns | timerFires =>
      obtain ⟨-, rfl⟩ := of_when stepped
      rfl
  | forcerCloses =>
      simp only [others] at stepped
      split at stepped
      · obtain ⟨-, rfl⟩ := of_when stepped
        rfl
      · cases stepped
  | settle => exact settle_failure stepped
  | _ => cases stepped

theorem others_moves {a : Act} (shape : h.Shape) (stepped : h.others a = some h') :
    Moved cfg i g h g h' := by
  obtain ⟨pc, flags, principal, answer, completed⟩ := others_frame stepped
  have same : h'.holding = h.holding := by
    rw [holding, flags, principal, completed]
    rfl
  refine ⟨⟨?_, ?_, ?_⟩, ?_⟩
  · rw [pc, flags]
    exact shape.flags
  · rw [pc, completed]
    exact shape.completed
  · rw [answer, completed]
    exact shape.upgraded
  · rw [same]
    exact .same

/-- **Every step of a handler is one of the ten moves.** -/
theorem step_moves {a : Act} (shape : h.Shape) (stepped : h.step cfg i g a = some (g', h')) :
    Moved cfg i g h g' h' := by
  have flags := shape.flags
  cases step_cases stepped with
  | tunnel pc =>
      rw [pc] at flags
      exact ⟨⟨flags, Bool.noConfusion, shape.upgraded⟩, .quiet _⟩
  | elsewhere pc =>
      rw [pc] at flags
      exact ⟨⟨flags, Bool.noConfusion, fun sent => absurd (Option.some.inj sent) (by decide)⟩,
        .same⟩
  | proceeds ran => exact proceed_moves shape ran
  | answers ran => exact answered_moves shape ran
  | others ran => exact others_moves shape ran

end Handler

end GrpcBridge.Gateway
