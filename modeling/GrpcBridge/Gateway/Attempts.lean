/-
# Gateway.Attempts -- every attempt is counted once

A `Record` is the history of one call of `ServeHTTP`: whether it was counted as an
attempt, opened and closed a tunnel, and which reasons it gave to `metrics.fail`.  `note`
adds to it what one statement does, and the `Ledger` carries the records of all calls
beside the gateway.

`Agrees` says, for each statement, what the record of a call must be there; the failure
variable has a reason of the table in it until the tunnel is open, and none afterwards.
The counters are the sums of the records (`Books`), and with `Agrees` they balance in
every state (`attempts_of_reaches`).
-/
import GrpcBridge.Gateway.Accounting
import Mathlib.Algebra.BigOperators.Group.Finset.Piecewise
import Mathlib.Algebra.BigOperators.Group.Finset.Sigma

namespace GrpcBridge.Gateway

set_option autoImplicit false
set_option linter.dupNamespace false

open GrpcBridge.Theory

/-! ## Records -/

structure Record where
  attempted : Nat := 0
  opened : Nat := 0
  closed : Nat := 0
  /-- The reasons that were given to `metrics.fail`, known or not. -/
  recorded : List String := []
deriving DecidableEq, Repr

/-- What a statement of the handler adds to its record. -/
def Record.note (r : Record) (h : Handler) : Act → Record
  | .route tunnel => if h.pc = .route ∧ tunnel then { r with attempted := r.attempted + 1 } else r
  | .proceed =>
      match h.pc with
      | .refused => { r with recorded := r.recorded ++ ["shutdown"] }
      | .opened => { r with opened := r.opened + 1 }
      | .deferClosed => { r with closed := r.closed + 1 }
      | .deferFailure =>
          if h.failure ≠ "" then { r with recorded := r.recorded ++ [h.failure] } else r
      | _ => r
  | _ => r

structure Ledger (n : Nat) where
  state : State n := {}
  records : Fin n → Record := fun _ => {}

namespace Ledger

variable {n : Nat}

def note (l : Ledger n) : Event n → Fin n → Record
  | .handler i a => Function.update l.records i ((l.records i).note (l.state.handlers i) a)
  | _ => l.records

def step (cfg : Config) (l : Ledger n) (e : Event n) : Option (Ledger n) :=
  (l.state.step cfg e).map fun t => ⟨t, l.note e⟩

/-- Every interleaving, with the history of each call. -/
def machine (cfg : Config) (n : Nat) : Machine (Ledger n) (Event n) where
  init := {}
  step := step cfg

end Ledger

/-! ## What the record says at each statement -/

/-- Counted, neither opened nor failed. -/
def undecided : Record := { attempted := 1 }

/-- The two ways to be through. -/
def Settled (r : Record) : Prop :=
  r = { attempted := 1, opened := 1, closed := 1 } ∨
    ∃ reason ∈ failureReasons, r = { attempted := 1, recorded := [reason] }

def Agrees (h : Handler) (r : Record) : Prop :=
  match h.pc with
  | .route => r = {} ∧ h.flags.gauge = false
  | .beginHandshake | .refused => r = undecided ∧ h.flags.gauge = false
  | .checks | .slot | .destination | .drainBeforeAdmission | .admission | .drainAfterAdmission
  | .principal | .dial | .register | .deadlineAfterDial | .drainAfterDial | .hijack | .attach
  | .deadlineAfterHijack | .complete | .arm | .deadlineBeforeUpgrade | .upgrade
  | .deadlineAfterUpgrade | .opened =>
      r = undecided ∧ h.failure ∈ failureReasons ∧ h.flags.gauge = false
  | .establish => r = { attempted := 1, opened := 1 } ∧ h.failure = "" ∧ h.flags.gauge = false
  | .relay | .close | .finished =>
      r = { attempted := 1, opened := 1 } ∧ h.failure = "" ∧ h.flags.gauge = true
  | .deferDone | .deferGauge =>
      (r = undecided ∧ h.failure ∈ failureReasons ∧ h.flags.gauge = false) ∨
        (r = { attempted := 1, opened := 1 } ∧ h.failure = "" ∧ h.flags.gauge = true)
  | .deferClosed => r = { attempted := 1, opened := 1 } ∧ h.failure = "" ∧ h.flags.gauge = false
  | .deferTimer | .deferFailure =>
      ((r = undecided ∧ h.failure ∈ failureReasons) ∨
        (r = { attempted := 1, opened := 1, closed := 1 } ∧ h.failure = "")) ∧
        h.flags.gauge = false
  | .deferClose | .deferPrincipal | .deferSlot | .deferUnregister | .deferFinish =>
      Settled r ∧ h.flags.gauge = false
  | .returned => (r = {} ∨ Settled r) ∧ h.flags.gauge = false

theorem BadRequest.reason_mem (bad : BadRequest) : bad.refusal.reason ∈ failureReasons := by
  cases bad <;> decide

theorem BadDestination.reason_mem (bad : BadDestination) : bad.refusal.reason ∈ failureReasons := by
  cases bad <;> decide

theorem Denied.reason_mem (denied : Denied) : denied.refusal.reason ∈ failureReasons := by
  cases denied <;> decide

theorem ne_empty_of_mem {reason : String} (known : reason ∈ failureReasons) : reason ≠ "" := by
  rintro rfl
  exact absurd known (by decide)

/-- The `established` gauge, as one call contributes to it. -/
def Handler.gauge (h : Handler) : Int := if h.flags.gauge then 1 else 0

namespace Handler

variable {n : Nat} {cfg : Config} {i : Fin n} {g g' : Gateway n} {h h' : Handler} {r r' : Record}

/-- The metrics move as the record does. -/
structure Posts (g : Gateway n) (h : Handler) (r : Record) (g' : Gateway n) (h' : Handler)
    (r' : Record) : Prop where
  agrees : Agrees h' r'
  attempts : g'.metrics.attempts + r.attempted = g.metrics.attempts + r'.attempted
  opened : g'.metrics.opened + r.opened = g.metrics.opened + r'.opened
  closed : g'.metrics.closed + r.closed = g.metrics.closed + r'.closed
  established : g'.metrics.established + h.gauge = g.metrics.established + h'.gauge
  failures : ∀ reason ∈ failureReasons, g'.metrics.failures reason + r.recorded.count reason =
    g.metrics.failures reason + r'.recorded.count reason

/-- A statement that counts nothing. -/
theorem posts_quiet (metrics : g'.metrics = g.metrics) (gauge : h'.flags.gauge = h.flags.gauge)
    (agrees : Agrees h' r) : Posts g h r g' h' r := by
  refine ⟨agrees, ?_, ?_, ?_, ?_, ?_⟩
  · rw [metrics]
  · rw [metrics]
  · rw [metrics]
  · rw [metrics, Handler.gauge, Handler.gauge, gauge]
  · intro reason _
    rw [metrics]

theorem fail_failures (m : Metrics) {reason : String} (known : reason ∈ failureReasons)
    (other : String) : (m.fail reason).failures other + ([] : List String).count other =
      m.failures other + [reason].count other := by
  rw [Metrics.fail, if_pos known]
  by_cases same : other = reason
  · subst same
    simp
  · rw [List.count_nil, List.count_singleton]
    dsimp only
    rw [Function.update_of_ne same, if_neg (by simpa using Ne.symm same)]

/-- `metrics.fail` of a reason that is in the table. -/
theorem posts_fail {reason : String} (known : reason ∈ failureReasons)
    (gauge : h'.flags.gauge = h.flags.gauge)
    (agrees : Agrees h' { attempted := 1, recorded := [reason] }) :
    Posts g h undecided (g.count (·.fail reason)) h' { attempted := 1, recorded := [reason] } := by
  have fields : (g.metrics.fail reason).attempts = g.metrics.attempts ∧
      (g.metrics.fail reason).opened = g.metrics.opened ∧
      (g.metrics.fail reason).closed = g.metrics.closed ∧
      (g.metrics.fail reason).established = g.metrics.established := by
    rw [Metrics.fail, if_pos known]
    exact ⟨rfl, rfl, rfl, rfl⟩
  obtain ⟨attempts, opened, closed, established⟩ := fields
  refine ⟨agrees, ?_, ?_, ?_, ?_, fun other _ => fail_failures g.metrics known other⟩
  · show (g.metrics.fail reason).attempts + 1 = _
    rw [attempts]
  · show (g.metrics.fail reason).opened + 0 = _
    rw [opened]
  · show (g.metrics.fail reason).closed + 0 = _
    rw [closed]
  · show (g.metrics.fail reason).established + _ = _
    rw [established, Handler.gauge, Handler.gauge, gauge]

/-- The deferred functions after the failure has been counted. -/
def deferred : Pc → Bool
  | .deferClose | .deferPrincipal | .deferSlot | .deferUnregister | .deferFinish | .returned => true
  | _ => false

theorem posts_settled (metrics : g'.metrics = g.metrics)
    (gauge : h'.flags.gauge = h.flags.gauge) (late : deferred h'.pc = true)
    (settled : Settled r) (closed : h.flags.gauge = false) : Posts g h r g' h' r := by
  refine posts_quiet metrics gauge ?_
  have down : h'.flags.gauge = false := gauge.trans closed
  cases pc : h'.pc with
  | deferClose | deferPrincipal | deferSlot | deferUnregister | deferFinish =>
      simp only [Agrees, pc]
      exact ⟨settled, down⟩
  | returned =>
      simp only [Agrees, pc]
      exact ⟨.inr settled, down⟩
  | _ =>
      rw [pc] at late
      cases late

/-- `reject` with a reason of the table. -/
theorem posts_reject {refusal : Refusal} (known : refusal.reason ∈ failureReasons)
    (gauge : h.flags.gauge = false) : Posts g h undecided g (h.reject refusal) undecided := by
  refine posts_quiet rfl rfl ?_
  show _ ∨ _
  exact .inl ⟨rfl, known, gauge⟩

/-- An early return with the failure that was set before. -/
theorem posts_leave (metrics : g'.metrics = g.metrics) (flags : h'.flags = h.flags)
    (known : h'.failure ∈ failureReasons) (gauge : h.flags.gauge = false) :
    Posts g h undecided g' h'.leave undecided := by
  refine posts_quiet metrics (congrArg Flags.gauge flags) ?_
  show _ ∨ _
  refine .inl ⟨rfl, known, ?_⟩
  rw [← gauge, ← flags]
  rfl

/-- The statements between `beginHandshake` and the count of an opened tunnel. -/
def pending : Pc → Bool
  | .checks | .slot | .destination | .drainBeforeAdmission | .admission | .drainAfterAdmission
  | .principal | .dial | .register | .deadlineAfterDial | .drainAfterDial | .hijack | .attach
  | .deadlineAfterHijack | .complete | .arm | .deadlineBeforeUpgrade | .upgrade
  | .deadlineAfterUpgrade | .opened => true
  | _ => false

theorem agrees_pending {pc : Pc} (now : h.pc = pc) (early : pending pc = true) :
    Agrees h r ↔ r = undecided ∧ h.failure ∈ failureReasons ∧ h.flags.gauge = false := by
  cases pc with
  | checks | slot | destination | drainBeforeAdmission | admission | drainAfterAdmission
  | principal | dial | register | deadlineAfterDial | drainAfterDial | hijack | attach
  | deadlineAfterHijack | complete | arm | deadlineBeforeUpgrade | upgrade
  | deadlineAfterUpgrade | opened =>
      simp only [Agrees, now]
  | _ => cases early

/-- The next check. -/
theorem posts_next (metrics : g'.metrics = g.metrics) (gauge : h'.flags.gauge = h.flags.gauge)
    (early : pending h'.pc = true) (known : h'.failure ∈ failureReasons)
    (unopened : h.flags.gauge = false) : Posts g h undecided g' h' undecided :=
  posts_quiet metrics gauge ((agrees_pending rfl early).2 ⟨rfl, known, gauge.trans unopened⟩)

theorem proceed_posts (agrees : Agrees h r) (stepped : h.proceed cfg i g = some (g', h')) :
    Posts g h r g' h' (r.note h .proceed) := by
  cases proceed_cases stepped with
  | handshakeRefused pc =>
      simp only [Agrees, pc] at agrees
      simp only [Record.note, pc]
      exact posts_quiet rfl rfl (show _ ∧ _ from agrees)
  | handshakeBegun pc =>
      simp only [Agrees, pc] at agrees
      obtain ⟨rfl, gauge⟩ := agrees
      simp only [Record.note, pc]
      exact posts_next rfl rfl rfl (show "upgrade" ∈ failureReasons by decide) gauge
  | refused pc =>
      simp only [Agrees, pc] at agrees
      obtain ⟨rfl, gauge⟩ := agrees
      simp only [Record.note, pc]
      have known : "shutdown" ∈ failureReasons := by decide
      exact posts_fail known rfl (show _ ∧ _ from ⟨.inr (.inr ⟨_, known, rfl⟩), gauge⟩)
  | slotRefused pc | drainedBeforeAdmission pc | drainedAfterAdmission pc | principalRefused pc
  | tunnelRefused pc | drainedAfterDial pc =>
      obtain ⟨rfl, -, gauge⟩ := (agrees_pending pc rfl).1 agrees
      simp only [Record.note, pc]
      exact posts_reject (by decide) gauge
  | clientRefused pc | completionRefused pc =>
      obtain ⟨rfl, -, gauge⟩ := (agrees_pending pc rfl).1 agrees
      simp only [Record.note, pc]
      exact posts_leave rfl rfl (show "shutdown" ∈ failureReasons by decide) gauge
  | slotTaken pc | beforeAdmission pc | afterAdmission pc | principalReserved pc
  | tunnelRegistered pc | afterDial pc | clientSet pc | handshakeCompleted pc | armed pc =>
      obtain ⟨rfl, known, gauge⟩ := (agrees_pending pc rfl).1 agrees
      simp only [Record.note, pc]
      exact posts_next rfl rfl rfl known gauge
  | opened pc =>
      obtain ⟨rfl, -, gauge⟩ := (agrees_pending pc rfl).1 agrees
      simp only [Record.note, pc]
      exact ⟨show _ ∧ _ from ⟨rfl, rfl, gauge⟩, rfl, rfl, rfl, rfl, fun _ _ => rfl⟩
  | established pc =>
      simp only [Agrees, pc] at agrees
      obtain ⟨rfl, cleared, gauge⟩ := agrees
      simp only [Record.note, pc]
      refine ⟨show _ ∧ _ from ⟨rfl, cleared, rfl⟩, rfl, rfl, rfl, ?_, fun _ _ => rfl⟩
      rw [Handler.gauge, gauge]
      show g.metrics.established + 1 + 0 = g.metrics.established + 1
      rw [add_zero]
  | closed pc | deferTimer pc =>
      simp only [Agrees, pc] at agrees
      simp only [Record.note, pc]
      exact posts_quiet rfl rfl (show _ ∧ _ from agrees)
  | finished pc =>
      simp only [Agrees, pc] at agrees
      simp only [Record.note, pc]
      exact posts_quiet rfl rfl (show _ ∨ _ from .inr agrees)
  | deferDone pc =>
      simp only [Agrees, pc] at agrees
      simp only [Record.note, pc]
      exact posts_quiet rfl rfl (show _ ∨ _ from agrees)
  | deferGauge pc gauge =>
      simp only [Agrees, pc] at agrees
      simp only [Record.note, pc]
      obtain ⟨-, -, unopened⟩ | ⟨rfl, cleared, -⟩ := agrees
      · rw [unopened] at gauge
        cases gauge
      · refine ⟨show _ ∧ _ from ⟨rfl, cleared, rfl⟩, rfl, rfl, rfl, ?_, fun _ _ => rfl⟩
        rw [Handler.gauge, gauge]
        show g.metrics.established - 1 + 1 = g.metrics.established + 0
        rw [Int.sub_add_cancel, add_zero]
  | noGauge pc gauge =>
      simp only [Agrees, pc] at agrees
      simp only [Record.note, pc]
      obtain ⟨rfl, known, unopened⟩ | ⟨-, -, opened⟩ := agrees
      · exact posts_quiet rfl rfl (show _ ∧ _ from ⟨.inl ⟨rfl, known⟩, unopened⟩)
      · rw [gauge] at opened
        cases opened
  | deferClosed pc =>
      simp only [Agrees, pc] at agrees
      obtain ⟨rfl, cleared, gauge⟩ := agrees
      simp only [Record.note, pc]
      exact ⟨show _ ∧ _ from ⟨.inr ⟨rfl, cleared⟩, gauge⟩, rfl, rfl, rfl, rfl, fun _ _ => rfl⟩
  | deferFailure pc failed =>
      simp only [Agrees, pc] at agrees
      simp only [Record.note, pc]
      rw [if_pos failed]
      obtain ⟨⟨rfl, known⟩ | ⟨-, cleared⟩, gauge⟩ := agrees
      · exact posts_fail known rfl (show _ ∧ _ from ⟨.inr ⟨_, known, rfl⟩, gauge⟩)
      · exact absurd cleared failed
  | noFailure pc silent =>
      simp only [Agrees, pc] at agrees
      simp only [Record.note, pc]
      rw [if_neg (not_not_intro silent)]
      obtain ⟨⟨-, known⟩ | ⟨rfl, -⟩, gauge⟩ := agrees
      · exact absurd silent (ne_empty_of_mem known)
      · exact posts_settled rfl rfl rfl (.inl rfl) gauge
  | deferPrincipal pc =>
      simp only [Agrees, pc] at agrees
      simp only [Record.note, pc]
      exact posts_settled (releasePrincipal_metrics _ _) rfl rfl agrees.1 agrees.2
  | deferClose pc | noTunnel pc | noReservation pc | deferSlot pc | noTakenSlot pc
  | deferUnregister pc | noRegistration pc | deferFinish pc | noHandshake pc =>
      simp only [Agrees, pc] at agrees
      simp only [Record.note, pc]
      exact posts_settled rfl rfl rfl agrees.1 agrees.2

theorem answered_posts {a : Act} (agrees : Agrees h r) (stepped : h.answered a = some h') :
    Posts g h r g h' r := by
  cases answered_cases stepped with
  | checkFailed bad pc =>
      obtain ⟨rfl, -, gauge⟩ := (agrees_pending pc rfl).1 agrees
      exact posts_reject bad.reason_mem gauge
  | unresolved bad pc =>
      obtain ⟨rfl, -, gauge⟩ := (agrees_pending pc rfl).1 agrees
      exact posts_reject bad.reason_mem gauge
  | denied denied pc =>
      obtain ⟨rfl, -, gauge⟩ := (agrees_pending pc rfl).1 agrees
      exact posts_reject denied.reason_mem gauge
  | dialFailed pc | lateAfterDial pc | unhijackable pc =>
      obtain ⟨rfl, -, gauge⟩ := (agrees_pending pc rfl).1 agrees
      exact posts_reject (by decide) gauge
  | dialedNotH2 pc =>
      obtain ⟨rfl, -, gauge⟩ := (agrees_pending pc rfl).1 agrees
      refine posts_quiet rfl rfl (show _ ∨ _ from .inl ⟨rfl, ?_, gauge⟩)
      show "dial" ∈ failureReasons
      decide
  | lateAfterHijack pc | lateBeforeUpgrade pc | lateAfterUpgrade pc | hijackFailed pc
  | upgradeFailed pc =>
      obtain ⟨rfl, known, gauge⟩ := (agrees_pending pc rfl).1 agrees
      exact posts_leave rfl rfl known gauge
  | checked pc | resolved pc | granted _ pc | dialed pc | inTimeAfterDial pc | inTimeAfterHijack pc
  | inTimeBeforeUpgrade pc | inTimeAfterUpgrade pc | hijacked pc | upgraded pc =>
      obtain ⟨rfl, known, gauge⟩ := (agrees_pending pc rfl).1 agrees
      exact posts_next rfl rfl rfl known gauge
  | relayed pc =>
      simp only [Agrees, pc] at agrees
      exact posts_quiet rfl rfl (show _ ∧ _ from agrees)

theorem others_posts {a : Act} (agrees : Agrees h r) (stepped : h.others a = some h') :
    Posts g h r g h' r := by
  obtain ⟨pc, flags, -, -, -⟩ := others_frame stepped
  have failure := others_failure stepped
  refine posts_quiet rfl (congrArg Flags.gauge flags) ?_
  simp only [Agrees, pc, flags, failure]
  exact agrees

theorem note_answered {a : Act} (ran : h.answered a = some h') : r.note h a = r := by
  cases a with
  | route | proceed => cases ran
  | _ => rfl

theorem note_others {a : Act} (ran : h.others a = some h') : r.note h a = r := by
  cases a with
  | route | proceed => cases ran
  | _ => rfl

/-- **One step of a handler, or of a goroutine that knows its tunnel.** -/
theorem step_posts {a : Act} (agrees : Agrees h r) (stepped : h.step cfg i g a = some (g', h')) :
    Posts g h r g' h' (r.note h a) := by
  cases step_cases stepped with
  | tunnel pc =>
      simp only [Agrees, pc] at agrees
      obtain ⟨rfl, gauge⟩ := agrees
      simp only [Record.note, pc, true_and, if_true]
      exact ⟨show _ ∧ _ from ⟨rfl, gauge⟩, rfl, rfl, rfl, rfl, fun _ _ => rfl⟩
  | elsewhere pc =>
      simp only [Agrees, pc] at agrees
      obtain ⟨rfl, gauge⟩ := agrees
      simp only [Record.note, Bool.false_eq_true, and_false, if_false]
      exact posts_quiet rfl rfl (show _ ∧ _ from ⟨.inl rfl, gauge⟩)
  | proceeds ran => exact proceed_posts agrees ran
  | answers ran =>
      rw [note_answered ran]
      exact answered_posts agrees ran
  | others ran =>
      rw [note_others ran]
      exact others_posts agrees ran

end Handler

/-! ## The books -/

/-- Counted, and neither opened nor failed yet. -/
def Record.Waiting (r : Record) : Prop :=
  0 < r.attempted ∧ r.opened = 0 ∧ r.recorded = []

instance : DecidablePred Record.Waiting := fun _ => inferInstanceAs (Decidable (_ ∧ _ ∧ _))

/-- What one record adds to the balance. -/
structure Record.Sound (r : Record) : Prop where
  balanced : r.attempted = r.opened + r.recorded.length + if r.Waiting then 1 else 0
  once : r.opened + r.recorded.length ≤ 1
  known : ∀ reason ∈ r.recorded, reason ∈ failureReasons

theorem undecided_sound : undecided.Sound :=
  ⟨by decide, by decide, by decide⟩

theorem opened_sound (closed : Nat) : ({ attempted := 1, opened := 1, closed } : Record).Sound := by
  refine ⟨?_, le_refl 1, ?_⟩
  · have decided : ¬ ({ attempted := 1, opened := 1, closed } : Record).Waiting := by
      rintro ⟨-, unopened, -⟩
      cases unopened
    rw [if_neg decided]
    rfl
  · intro reason member
    cases member

theorem failed_sound {reason : String} (known : reason ∈ failureReasons) :
    ({ attempted := 1, recorded := [reason] } : Record).Sound := by
  refine ⟨?_, le_refl 1, ?_⟩
  · have decided : ¬ ({ attempted := 1, recorded := [reason] } : Record).Waiting := by
      rintro ⟨-, -, silent⟩
      cases silent
    rw [if_neg decided]
    rfl
  · intro other member
    rw [List.mem_singleton.1 member]
    exact known

theorem Settled.sound {r : Record} (settled : Settled r) : r.Sound := by
  obtain rfl | ⟨reason, known, rfl⟩ := settled
  · exact opened_sound 1
  · exact failed_sound known

theorem Agrees.sound {h : Handler} {r : Record} (agrees : Agrees h r) : r.Sound := by
  have empty : ({} : Record).Sound := ⟨by decide, by decide, by decide⟩
  cases pc : h.pc with
  | route =>
      simp only [Agrees, pc] at agrees
      rw [agrees.1]
      exact empty
  | beginHandshake | refused =>
      simp only [Agrees, pc] at agrees
      rw [agrees.1]
      exact undecided_sound
  | checks | slot | destination | drainBeforeAdmission | admission | drainAfterAdmission
  | principal | dial | register | deadlineAfterDial | drainAfterDial | hijack | attach
  | deadlineAfterHijack | complete | arm | deadlineBeforeUpgrade | upgrade
  | deadlineAfterUpgrade | opened =>
      obtain ⟨rfl, -, -⟩ := (Handler.agrees_pending pc rfl).1 agrees
      exact undecided_sound
  | establish | relay | close | finished | deferClosed =>
      simp only [Agrees, pc] at agrees
      rw [agrees.1]
      exact opened_sound 0
  | deferDone | deferGauge =>
      simp only [Agrees, pc] at agrees
      obtain ⟨rfl, -⟩ | ⟨rfl, -⟩ := agrees
      · exact undecided_sound
      · exact opened_sound 0
  | deferTimer | deferFailure =>
      simp only [Agrees, pc] at agrees
      obtain ⟨⟨rfl, -⟩ | ⟨rfl, -⟩, -⟩ := agrees
      · exact undecided_sound
      · exact opened_sound 1
  | deferClose | deferPrincipal | deferSlot | deferUnregister | deferFinish =>
      simp only [Agrees, pc] at agrees
      exact agrees.1.sound
  | returned =>
      simp only [Agrees, pc] at agrees
      obtain ⟨rfl | settled, -⟩ := agrees
      · exact empty
      · exact settled.sound

namespace Ledger

variable {n : Nat} {cfg : Config} {l l' : Ledger n}

/-- The metrics are the sums of the records. -/
structure Books (l : Ledger n) : Prop where
  agrees : ∀ i, Agrees (l.state.handlers i) (l.records i)
  attempts : l.state.gateway.metrics.attempts = ∑ i, (l.records i).attempted
  opened : l.state.gateway.metrics.opened = ∑ i, (l.records i).opened
  closed : l.state.gateway.metrics.closed = ∑ i, (l.records i).closed
  established : l.state.gateway.metrics.established = ∑ i, (l.state.handlers i).gauge
  failures : ∀ reason ∈ failureReasons,
    l.state.gateway.metrics.failures reason = ∑ i, (l.records i).recorded.count reason

theorem books_init : ({} : Ledger n).Books := by
  refine ⟨fun i => ⟨rfl, rfl⟩, ?_, ?_, ?_, ?_, ?_⟩
  · exact (Finset.sum_eq_zero fun _ _ => rfl).symm
  · exact (Finset.sum_eq_zero fun _ _ => rfl).symm
  · exact (Finset.sum_eq_zero fun _ _ => rfl).symm
  · exact (Finset.sum_eq_zero fun _ _ => rfl).symm
  · intro reason _
    exact (Finset.sum_eq_zero fun _ _ => rfl).symm

/-- An event that neither counts anything nor touches a variable of a handler. -/
theorem books_same {t : State n} (books : l.Books)
    (handlers : ∀ i, (t.handlers i).pc = (l.state.handlers i).pc ∧
      (t.handlers i).failure = (l.state.handlers i).failure ∧
      (t.handlers i).flags = (l.state.handlers i).flags)
    (attempts : t.gateway.metrics.attempts = l.state.gateway.metrics.attempts)
    (opened : t.gateway.metrics.opened = l.state.gateway.metrics.opened)
    (closed : t.gateway.metrics.closed = l.state.gateway.metrics.closed)
    (established : t.gateway.metrics.established = l.state.gateway.metrics.established)
    (failures : t.gateway.metrics.failures = l.state.gateway.metrics.failures) :
    Books ⟨t, l.records⟩ := by
  refine ⟨?_, attempts.trans books.attempts, opened.trans books.opened,
    closed.trans books.closed, ?_, ?_⟩
  · intro i
    obtain ⟨pc, failure, flags⟩ := handlers i
    simp only [Agrees, pc, failure, flags]
    exact books.agrees i
  · refine established.trans (books.established.trans (Finset.sum_congr rfl ?_))
    intro i _
    rw [Handler.gauge, Handler.gauge, (handlers i).2.2]
  · intro reason known
    exact (congrFun failures reason).trans (books.failures reason known)

theorem books_handler {i : Fin n} {a : Act} {t : State n} (books : l.Books)
    (stepped : l.state.step cfg (.handler i a) = some t) :
    Books ⟨t, l.note (.handler i a)⟩ := by
  obtain ⟨⟨g', h'⟩, moved, rfl⟩ := Option.map_eq_some_iff.1 stepped
  have posts := Handler.step_posts (books.agrees i) moved
  have sums (value : Record → Nat) := sum_update_add (f := l.records) value i
    ((l.records i).note (l.state.handlers i) a)
  refine ⟨?_, ?_, ?_, ?_, ?_, ?_⟩
  · intro j
    by_cases own : j = i
    · subst own
      simp only [note, Function.update_self]
      exact posts.agrees
    · simp only [note, Function.update_of_ne own]
      exact books.agrees j
  · have moves := posts.attempts
    have held := books.attempts
    have sum := sums Record.attempted
    simp only [note]
    omega
  · have moves := posts.opened
    have held := books.opened
    have sum := sums Record.opened
    simp only [note]
    omega
  · have moves := posts.closed
    have held := books.closed
    have sum := sums Record.closed
    simp only [note]
    omega
  · have moves := posts.established
    have held := books.established
    have sum := sum_update_add (f := l.state.handlers) Handler.gauge i h'
    simp only
    omega
  · intro reason known
    have moves := posts.failures reason known
    have held := books.failures reason known
    have sum := sums fun r => r.recorded.count reason
    simp only [note]
    omega

theorem books_step {e : Event n} (books : l.Books) (stepped : l.step cfg e = some l') :
    l'.Books := by
  obtain ⟨t, moved, rfl⟩ := Option.map_eq_some_iff.1 stepped
  cases e with
  | handler i a => exact books_handler books moved
  | beginDrain =>
      cases moved
      have kept : ∀ g : Gateway n, g.beginDrain.metrics = { g.metrics with
          draining := g.beginDrain.metrics.draining } := by
        intro g
        unfold Gateway.beginDrain
        split <;> rfl
      have metrics := kept l.state.gateway
      refine books_same books (fun i => ⟨rfl, rfl, rfl⟩) ?_ ?_ ?_ ?_ ?_ <;>
        exact (congrArg _ metrics).trans rfl
  | force =>
      cases moved
      refine books_same books ?_ rfl rfl rfl rfl rfl
      intro i
      dsimp only
      split
      · exact ⟨rfl, rfl, rfl⟩
      · exact ⟨rfl, rfl, rfl⟩
  | count k =>
      obtain ⟨_, _, rfl⟩ := State.step_count moved
      exact books_same books (fun i => ⟨rfl, rfl, rfl⟩) rfl rfl rfl rfl rfl
  | wait | look k | wake k | cancel k =>
      obtain ⟨_, rfl⟩ := State.step_watches rfl moved
      exact books_same books (fun i => ⟨rfl, rfl, rfl⟩) rfl rfl rfl rfl rfl

theorem books_of_reaches (reached : (machine cfg n).Reaches Machine.always l) : l.Books :=
  reached.invariant Books (fun _ _ _ books _ stepped => books_step books stepped) books_init

/-- All failure counters together are the recorded failures. -/
theorem Books.sum_failures (books : l.Books) :
    ∑ reason ∈ failureReasons.toFinset, l.state.gateway.metrics.failures reason =
      ∑ i, (l.records i).recorded.length := by
  calc ∑ reason ∈ failureReasons.toFinset, l.state.gateway.metrics.failures reason
      = ∑ reason ∈ failureReasons.toFinset, ∑ i, (l.records i).recorded.count reason :=
        Finset.sum_congr rfl fun reason member =>
          books.failures reason (List.mem_toFinset.1 member)
    _ = ∑ i, ∑ reason ∈ failureReasons.toFinset, (l.records i).recorded.count reason :=
        Finset.sum_comm
    _ = ∑ i, (l.records i).recorded.length := by
        apply Finset.sum_congr rfl
        intro i _
        have known := (books.agrees i).sound.known
        have counted := Multiset.sum_count_eq_card (s := failureReasons.toFinset)
          (m := ((l.records i).recorded : Multiset String))
          fun reason member => List.mem_toFinset.2 (known reason member)
        simp only [Multiset.coe_count, Multiset.coe_card] at counted
        exact counted

theorem Books.balanced (books : l.Books) :
    l.state.gateway.metrics.attempts = l.state.gateway.metrics.opened +
      ∑ reason ∈ failureReasons.toFinset, l.state.gateway.metrics.failures reason +
      (tally Record.Waiting l.records).card := by
  rw [books.attempts, books.opened, books.sum_failures, tally, Finset.card_filter,
    ← Finset.sum_add_distrib, ← Finset.sum_add_distrib]
  exact Finset.sum_congr rfl fun i _ => (books.agrees i).sound.balanced

/-- No call is inside `ServeHTTP`: each has returned or has not been made. -/
def Quiet (l : Ledger n) : Prop :=
  ∀ i, (l.state.handlers i).pc = .route ∨ (l.state.handlers i).pc = .returned

theorem Books.quiet (books : l.Books) (quiet : l.Quiet) (i : Fin n) :
    ¬ (l.records i).Waiting ∧ (l.records i).opened = (l.records i).closed ∧
      (l.state.handlers i).gauge = 0 := by
  have agrees := books.agrees i
  have blank : ¬ ({} : Record).Waiting := by decide
  obtain pc | pc := quiet i
  · simp only [Agrees, pc] at agrees
    rw [agrees.1, Handler.gauge, agrees.2]
    exact ⟨blank, rfl, rfl⟩
  · simp only [Agrees, pc] at agrees
    obtain ⟨rest, gauge⟩ := agrees
    rw [Handler.gauge, gauge]
    obtain empty | settled | ⟨reason, known, failed⟩ := rest
    · rw [empty]
      exact ⟨blank, rfl, rfl⟩
    · rw [settled]
      exact ⟨by decide, rfl, rfl⟩
    · rw [failed]
      refine ⟨?_, rfl, rfl⟩
      rintro ⟨-, -, silent⟩
      cases silent

/-- **Every attempt is counted once.**  In every state that any interleaving reaches, an
attempt has opened a tunnel, has been recorded under one reason of the table, or is still
undecided.  When no call is inside `ServeHTTP`, the counters agree without the last term,
every opened tunnel is closed and the gauge is zero. -/
theorem attempts_of_reaches (reached : (machine cfg n).Reaches Machine.always l) :
    l.state.gateway.metrics.attempts = l.state.gateway.metrics.opened +
        ∑ reason ∈ failureReasons.toFinset, l.state.gateway.metrics.failures reason +
        (tally Record.Waiting l.records).card ∧
      (∀ i, (∀ reason ∈ (l.records i).recorded, reason ∈ failureReasons) ∧
        (l.records i).opened + (l.records i).recorded.length ≤ 1) ∧
      (l.Quiet → l.state.gateway.metrics.attempts = l.state.gateway.metrics.opened +
          ∑ reason ∈ failureReasons.toFinset, l.state.gateway.metrics.failures reason ∧
        l.state.gateway.metrics.opened = l.state.gateway.metrics.closed ∧
        l.state.gateway.metrics.established = 0) := by
  have books := books_of_reaches reached
  refine ⟨books.balanced, ?_, ?_⟩
  · intro i
    have sound := (books.agrees i).sound
    exact ⟨sound.known, sound.once⟩
  · intro quiet
    refine ⟨?_, ?_, ?_⟩
    · have nobody : tally Record.Waiting l.records = ∅ :=
        tally_eq_empty fun i => (books.quiet quiet i).1
      rw [books.balanced, nobody, Finset.card_empty, add_zero]
    · rw [books.opened, books.closed]
      exact Finset.sum_congr rfl fun i _ => (books.quiet quiet i).2.1
    · rw [books.established]
      exact Finset.sum_eq_zero fun i _ => (books.quiet quiet i).2.2

/-- What the only call has left in the metrics. -/
def booked (events : List (Event 1)) : Option (Pc × Nat × Nat) :=
  ((machine ⟨1, 1⟩ 1).run Machine.always {} events).map fun l =>
    ((l.state.handlers (Fin.last 0)).pc, l.state.gateway.metrics.attempts,
      l.state.gateway.metrics.failures "shutdown")

theorem undisturbed_booked : booked undisturbed = some (.returned, 1, 1) := by
  decide +kernel

theorem attempts_undisturbed : ∃ l : Ledger 1, (machine ⟨1, 1⟩ 1).Reaches Machine.always l ∧
    l.state.gateway.metrics.attempts = 1 ∧ l.state.gateway.metrics.failures "shutdown" = 1 ∧
    l.state.gateway.metrics.attempts = l.state.gateway.metrics.opened +
      ∑ reason ∈ failureReasons.toFinset, l.state.gateway.metrics.failures reason := by
  obtain ⟨l, ran, seen⟩ := Option.map_eq_some_iff.1 undisturbed_booked
  simp only [Prod.mk.injEq] at seen
  obtain ⟨pc, attempts, shutdown⟩ := seen
  have reached := Machine.steps_of_run undisturbed ran
  have quiet : l.Quiet := by
    intro i
    rw [Subsingleton.elim i (Fin.last 0)]
    exact .inr pc
  exact ⟨l, reached, attempts, shutdown, ((attempts_of_reaches reached).2.2 quiet).1⟩

end Ledger

end GrpcBridge.Gateway
