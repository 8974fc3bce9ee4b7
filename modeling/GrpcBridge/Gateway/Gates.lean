/-
# Gateway.Gates -- how far a call of ServeHTTP has come

`Pc.progress` groups the statements by the gates that lie behind them.  A step
makes no progress, leaves for the deferred functions, or passes one gate, and
`step_passes` says which: there is no way to a statement but through the gates
before it.

`Timed` follows the closing timer along.  It is armed once, before the upgrade;
from there on it is armed, or it has fired and the tunnel is closed, until the
deferred `Stop`.
-/
import GrpcBridge.Gateway.Sockets

namespace GrpcBridge.Gateway

set_option autoImplicit false
set_option linter.dupNamespace false

/-! ## Progress -/

inductive Progress where
  | arriving
  | checked
  | resolved
  | granted
  | dialing
  | dialed
  | armed
  | inTime
  | leaving
deriving DecidableEq, Repr

def Pc.progress : Pc → Progress
  | .route | .beginHandshake | .refused | .checks => .arriving
  | .slot | .destination => .checked
  | .drainBeforeAdmission | .admission => .resolved
  | .drainAfterAdmission | .principal => .granted
  | .dial => .dialing
  | .register | .deadlineAfterDial | .drainAfterDial | .hijack | .attach | .deadlineAfterHijack
  | .complete | .arm => .dialed
  | .deadlineBeforeUpgrade => .armed
  | .upgrade | .deadlineAfterUpgrade | .opened | .establish | .relay | .close | .finished => .inTime
  | .deferDone | .deferGauge | .deferClosed | .deferTimer | .deferFailure | .deferClose
  | .deferPrincipal | .deferSlot | .deferUnregister | .deferFinish | .returned => .leaving

/-- The peer has been sent a 101. -/
def Handler.Upgraded (h : Handler) : Prop := h.answer.map Prod.fst = some 101

/-- A tunnel stays, and stays closed once it is. -/
def Handler.Carries (h h' : Handler) : Prop :=
  ∀ t, h.tunnel = some t → ∃ t', h'.tunnel = some t' ∧ (t.closed = true → t'.closed = true)

/-- A step that passes no gate. -/
structure Handler.Stays (h h' : Handler) : Prop where
  progress : h'.pc.progress = h.pc.progress ∨ h'.pc.progress = .leaving
  principal : h'.principal = h.principal
  upgraded : h'.Upgraded → h.Upgraded ∨ h.pc.progress = .inTime
  carries : h.Carries h'

/-- What a step does about the gates and the timer. -/
inductive Passage (h : Handler) : Act → Handler → Prop
  | stays {a : Act} {h' : Handler} : h.Stays h' → h'.timer = h.timer → Passage h a h'
  | checked : h.pc = .checks → Passage h (.checks none) { h with pc := .slot }
  | resolved : h.pc = .destination →
      Passage h (.destination none) { h with pc := .drainBeforeAdmission }
  | granted (subject : String) : h.pc = .admission →
      Passage h (.admission (.ok subject)) { h with principal := subject, pc := .drainAfterAdmission }
  | reserved (flags : Flags) : h.pc = .principal →
      Passage h .proceed { h with flags := flags, pc := .dial }
  | dialed : h.pc = .dial →
      Passage h (.dial .ok) { h with upstream := .live, tunnel := some {}, pc := .register }
  | armed : h.pc = .arm → Passage h .proceed { h with timer := .armed, pc := .deadlineBeforeUpgrade }
  | inTime : h.pc = .deadlineBeforeUpgrade → Passage h (.clock false) { h with pc := .upgrade }
  | fires : h.timer = .armed → Passage h .timerFires { h.closeTunnel .timer with timer := .fired }
  | stops : h.pc = .deferTimer → Passage h .proceed
      { h with timer := if h.timer = .armed then .stopped else h.timer, pc := .deferFailure }

/-! ## Steps -/

theorem Handler.carries_same {h h' : Handler} (same : h'.tunnel = h.tunnel) : h.Carries h' := by
  intro t there
  exact ⟨t, same.trans there, id⟩

theorem Tunnel.close_keeps (t : Tunnel) (who : Closer) :
    t.closed = true → (t.close who).closed = true := by
  intro closed
  rw [Tunnel.close, if_pos closed]
  exact closed

theorem Handler.carries_close (h : Handler) (who : Closer) : h.Carries (h.closeTunnel who) := by
  intro t there
  exact ⟨t.close who, by rw [Handler.closeTunnel, there]; rfl, t.close_keeps who⟩

namespace Handler

variable {n : Nat} {cfg : Config} {i : Fin n} {g g' : Gateway n} {h h' : Handler}

theorem passes_reject {a : Act} {r : Refusal} (status : r.status ≠ 101) : Passage h a (h.reject r) :=
  .stays ⟨.inr rfl, rfl, fun sent => absurd (Option.some.inj sent) status, carries_same rfl⟩ rfl

theorem passes_leave {a : Act} : Passage h a h.leave :=
  .stays ⟨.inr rfl, rfl, .inl, carries_same rfl⟩ rfl

/-- A statement that leads to one behind the same gates, or to the deferred functions. -/
theorem passes_on {a : Act} (progress : h'.pc.progress = h.pc.progress ∨ h'.pc.progress = .leaving)
    (principal : h'.principal = h.principal) (answer : h'.answer = h.answer)
    (tunnel : h'.tunnel = h.tunnel) (timer : h'.timer = h.timer) : Passage h a h' :=
  .stays ⟨progress, principal, fun sent => .inl (by rw [Upgraded, ← answer]; exact sent),
    carries_same tunnel⟩ timer

theorem proceed_passes (stepped : h.proceed cfg i g = some (g', h')) : Passage h .proceed h' := by
  have on : ∀ {pc : Pc} {now : Handler}, h.pc = pc →
      (now.pc.progress = pc.progress ∨ now.pc.progress = .leaving) →
      now.principal = h.principal → now.answer = h.answer → now.tunnel = h.tunnel →
      now.timer = h.timer → Passage h .proceed now := by
    intro pc now here progress
    rw [← here] at progress
    exact passes_on progress
  cases proceed_cases stepped with
  | refused =>
      exact .stays ⟨.inr rfl, rfl, fun sent => absurd (Option.some.inj sent) (by decide),
        carries_same rfl⟩ rfl
  | slotRefused | drainedBeforeAdmission | drainedAfterAdmission | principalRefused
  | tunnelRefused | drainedAfterDial => exact passes_reject (by decide)
  | handshakeRefused pc | handshakeBegun pc | slotTaken pc | beforeAdmission pc
  | afterAdmission pc | tunnelRegistered pc | afterDial pc | handshakeCompleted pc | opened pc
  | established pc => exact on pc (.inl rfl) rfl rfl rfl rfl
  | principalReserved pc => exact .reserved _ pc
  | clientSet pc present =>
      refine .stays ⟨.inl (by rw [pc]; rfl), rfl, .inl, fun t there => ?_⟩ rfl
      cases present.symm.trans there
      exact ⟨_, rfl, id⟩
  | armed pc => exact .armed pc
  | closed pc =>
      exact .stays ⟨.inl (by rw [pc]; rfl), rfl, .inl, h.carries_close .handler⟩ rfl
  | deferTimer pc => exact .stops pc
  | deferClose => exact .stays ⟨.inr rfl, rfl, .inl, h.carries_close .handler⟩ rfl
  | clientRefused pc | completionRefused pc | finished pc | deferDone pc | deferGauge pc | noGauge pc
  | deferClosed pc | deferFailure pc | noFailure pc | noTunnel pc | deferPrincipal pc
  | noReservation pc | deferSlot pc | noTakenSlot pc | deferUnregister pc | noRegistration pc
  | deferFinish pc | noHandshake pc => exact on pc (.inr rfl) rfl rfl rfl rfl

theorem answered_passes {a : Act} (stepped : h.answered a = some h') : Passage h a h' := by
  cases answered_cases stepped with
  | checkFailed bad => exact passes_reject bad.status_ne
  | unresolved bad => exact passes_reject bad.status_ne
  | denied denied => exact passes_reject denied.status_ne
  | dialFailed | lateAfterDial | unhijackable => exact passes_reject (by decide)
  | dialedNotH2 =>
      exact .stays ⟨.inr rfl, rfl, fun sent => absurd (Option.some.inj sent) (by decide),
        carries_same rfl⟩ rfl
  | lateAfterHijack | lateBeforeUpgrade | lateAfterUpgrade | hijackFailed => exact passes_leave
  | checked pc => exact .checked pc
  | resolved pc => exact .resolved pc
  | granted subject pc => exact .granted subject pc
  | dialed pc => exact .dialed pc
  | inTimeBeforeUpgrade pc => exact .inTime pc
  | inTimeAfterDial pc | inTimeAfterHijack pc | inTimeAfterUpgrade pc | hijacked pc | relayed pc =>
      exact passes_on (.inl (by rw [pc]; rfl)) rfl rfl rfl rfl
  | upgraded pc =>
      have sent : h.pc.progress = .inTime := by rw [pc]; rfl
      exact .stays ⟨.inl (by rw [pc]; rfl), rfl, fun _ => .inr sent, carries_same rfl⟩ rfl
  | upgradeFailed pc =>
      have sent : h.pc.progress = .inTime := by rw [pc]; rfl
      exact .stays ⟨.inr rfl, rfl, fun _ => .inr sent, carries_same rfl⟩ rfl

/-- The next `Close` call leaves the marks on the tunnel. -/
theorem settle_passes (stepped : h.settle = some h') : Passage h .settle h' := by
  unfold settle at stepped
  split at stepped
  · cases stepped
  · next t there =>
    split at stepped
    · cases stepped
    · cases stepped
      refine .stays ⟨.inl rfl, rfl, .inl, fun t' there' => ?_⟩ rfl
      rw [there] at there'
      cases there'
      exact ⟨_, rfl, id⟩
    · cases stepped
      refine .stays ⟨.inl rfl, rfl, .inl, fun t' there' => ?_⟩ rfl
      rw [there] at there'
      cases there'
      exact ⟨_, rfl, id⟩

theorem others_passes {a : Act} (stepped : h.others a = some h') : Passage h a h' := by
  cases a with
  | pumpCloses =>
      obtain ⟨-, rfl⟩ := of_when stepped
      exact .stays ⟨.inl rfl, rfl, .inl, h.carries_close .pump⟩ rfl
  | pumpReturns =>
      obtain ⟨-, rfl⟩ := of_when stepped
      exact passes_on (.inl rfl) rfl rfl rfl rfl
  | tickerCloses =>
      obtain ⟨-, rfl⟩ := of_when stepped
      exact .stays ⟨.inl rfl, rfl, .inl, h.carries_close .ticker⟩ rfl
  | tickerReturns =>
      obtain ⟨-, rfl⟩ := of_when stepped
      exact passes_on (.inl rfl) rfl rfl rfl rfl
  | timerFires =>
      obtain ⟨armed, rfl⟩ := of_when stepped
      exact .fires armed
  | forcerCloses =>
      simp only [others] at stepped
      split at stepped
      · next t there =>
        obtain ⟨-, rfl⟩ := of_when stepped
        refine .stays ⟨.inl rfl, rfl, .inl, fun t' there' => ?_⟩ rfl
        rw [there] at there'
        cases there'
        exact ⟨_, rfl, { t with taken := false }.close_keeps .forcer⟩
      · cases stepped
  | settle => exact settle_passes stepped
  | _ => cases stepped

/-- **One gate at a time.** -/
theorem step_passes {a : Act} (stepped : h.step cfg i g a = some (g', h')) : Passage h a h' := by
  cases step_cases stepped with
  | tunnel pc => exact passes_on (.inl (by rw [pc]; rfl)) rfl rfl rfl rfl
  | elsewhere =>
      exact .stays ⟨.inr rfl, rfl, fun sent => absurd (Option.some.inj sent) (by decide),
        carries_same rfl⟩ rfl
  | proceeds ran => exact proceed_passes ran
  | answers ran => exact answered_passes ran
  | others ran => exact others_passes ran

/-! ## The closing timer -/

/-- What the closing timer is, behind the gates that have been passed. -/
def Times : Progress → Timer → Prop
  | .arriving, t | .checked, t | .resolved, t | .granted, t | .dialing, t | .dialed, t => t = .unarmed
  | .armed, t | .inTime, t => t = .armed ∨ t = .fired
  | .leaving, _ => True

/-- The dialer has returned a connection, and the call is not over. -/
def Connected : Progress → Prop
  | .dialed | .armed | .inTime => True
  | _ => False

structure Timed (h : Handler) : Prop where
  times : Times h.pc.progress h.timer
  tunnel : Connected h.pc.progress ∨ h.timer ≠ .unarmed → ∃ t, h.tunnel = some t
  fired : h.timer = .fired → ∀ t, h.tunnel = some t → t.closed = true
  late : h.Upgraded → h.pc.progress = .inTime ∨ h.pc.progress = .leaving
  upgraded : h.Upgraded → h.timer ≠ .unarmed

theorem Times.leaves {progress progress' : Progress} {t : Timer} (times : Times progress t)
    (still : progress' = progress ∨ progress' = .leaving) : Times progress' t := by
  rcases still with rfl | rfl
  · exact times
  · trivial

theorem Times.ne_unarmed {t : Timer} (times : Times .inTime t) : t ≠ .unarmed := by
  rintro rfl
  rcases times with armed | fired
  · cases armed
  · cases fired

/-- A gate passed with the timer as it is. -/
theorem Timed.passed (timed : h.Timed) {pc : Pc} (here : h.pc = pc)
    (times : Times pc.progress h.timer → Times h'.pc.progress h.timer)
    (connected : Connected h'.pc.progress → Connected pc.progress)
    (early : pc.progress ≠ .inTime ∧ pc.progress ≠ .leaving) (timer : h'.timer = h.timer)
    (tunnel : h'.tunnel = h.tunnel) (answer : h'.answer = h.answer) : h'.Timed := by
  subst here
  have unsent : ¬ h'.Upgraded := by
    rw [Upgraded, answer]
    exact fun sent => (timed.late sent).elim early.1 early.2
  refine ⟨?_, ?_, ?_, fun sent => absurd sent unsent, fun sent => absurd sent unsent⟩
  · rw [timer]
    exact times timed.times
  · rw [timer, tunnel]
    rintro (there | armed)
    · exact timed.tunnel (.inl (connected there))
    · exact timed.tunnel (.inr armed)
  · rw [timer, tunnel]
    exact timed.fired

theorem step_timed {a : Act} (timed : h.Timed) (passage : Passage h a h') : h'.Timed := by
  cases passage with
  | stays stays same =>
      refine ⟨?_, ?_, ?_, ?_, ?_⟩
      · rw [same]
        exact timed.times.leaves stays.progress
      · intro needed
        rw [same] at needed
        have before : Connected h.pc.progress ∨ h.timer ≠ .unarmed := by
          rcases needed with connected | armed
          · rcases stays.progress with still | left
            · exact .inl (still ▸ connected)
            · rw [left] at connected
              exact connected.elim
          · exact .inr armed
        obtain ⟨t, there⟩ := timed.tunnel before
        obtain ⟨t', there', -⟩ := stays.carries t there
        exact ⟨t', there'⟩
      · intro fired t' there'
        rw [same] at fired
        obtain ⟨t, there⟩ := timed.tunnel (.inr (by rw [fired]; decide))
        obtain ⟨t'', there'', closed⟩ := stays.carries t there
        rw [there'] at there''
        cases there''
        exact closed (timed.fired fired t there)
      · intro sent
        have late : h.pc.progress = .inTime ∨ h.pc.progress = .leaving := by
          rcases stays.upgraded sent with before | inTime
          · exact timed.late before
          · exact .inl inTime
        rcases stays.progress with still | left
        · rw [still]
          exact late
        · exact .inr left
      · intro sent
        rw [same]
        rcases stays.upgraded sent with before | inTime
        · exact timed.upgraded before
        · have times := timed.times
          rw [inTime] at times
          exact times.ne_unarmed
  | checked pc => exact timed.passed pc id id (by decide) rfl rfl rfl
  | resolved pc => exact timed.passed pc id id (by decide) rfl rfl rfl
  | granted subject pc => exact timed.passed pc id id (by decide) rfl rfl rfl
  | reserved flags pc => exact timed.passed pc id id (by decide) rfl rfl rfl
  | inTime pc => exact timed.passed pc id id (by decide) rfl rfl rfl
  | dialed pc =>
      have before := timed.times
      rw [pc] at before
      have unarmed : h.timer = .unarmed := before
      refine ⟨unarmed, fun _ => ⟨{}, rfl⟩, fun fired => ?_, fun sent => ?_, timed.upgraded⟩
      · exact absurd (unarmed.symm.trans fired) (by decide)
      · exact absurd unarmed (timed.upgraded sent)
  | armed pc =>
      obtain ⟨t, there⟩ := timed.tunnel (.inl (by rw [pc]; trivial))
      refine ⟨.inl rfl, fun _ => ⟨t, there⟩, ?_, ?_, fun _ => (by decide : Timer.armed ≠ .unarmed)⟩
      · intro fired
        cases fired
      · intro sent
        have late := timed.late sent
        rw [pc] at late
        rcases late with late | late
        · cases late
        · cases late
  | fires armed =>
      obtain ⟨t, there⟩ := timed.tunnel (.inr (by rw [armed]; decide))
      have closes : (h.closeTunnel .timer).tunnel = some (t.close .timer) := by
        rw [closeTunnel, there]
        rfl
      refine ⟨?_, fun _ => ⟨_, closes⟩, fun _ t' there' => ?_, timed.late,
        fun _ => (by decide : Timer.fired ≠ .unarmed)⟩
      · have times := timed.times
        rw [armed] at times
        show Times h.pc.progress .fired
        cases progress : h.pc.progress with
        | armed | inTime => exact .inr rfl
        | leaving => trivial
        | _ =>
            rw [progress] at times
            cases times
      · have same : t' = t.close .timer := Option.some.inj (there'.symm.trans closes)
        rw [same]
        exact t.close_closed .timer
  | stops pc =>
      refine ⟨trivial, ?_, ?_, fun _ => .inr rfl, ?_⟩
      · rintro (connected | armed)
        · exact connected.elim
        · apply timed.tunnel
          right
          intro never
          exact armed (by rw [never]; rfl)
      · intro fired
        apply timed.fired
        dsimp only at fired
        split at fired
        · cases fired
        · exact fired
      · intro sent
        have armed := timed.upgraded sent
        dsimp only
        split
        · decide
        · exact armed

/-- Being taken by `forceCloseActive` changes nothing about the timer. -/
theorem take_timed (timed : h.Timed) : (State.take h).Timed where
  times := timed.times
  tunnel needed := by
    obtain ⟨t, there⟩ := timed.tunnel needed
    exact ⟨_, by rw [State.take, there]; rfl⟩
  fired fired t' there' := by
    obtain ⟨t, there, rfl⟩ := Option.map_eq_some_iff.1 there'
    have closed := timed.fired fired t there
    split
    · exact closed
    · exact closed
  late := timed.late
  upgraded := timed.upgraded

theorem timed_init : ({} : Handler).Timed where
  times := rfl
  tunnel needed := by
    rcases needed with connected | armed
    · exact connected.elim
    · exact absurd rfl armed
  fired fired := by cases fired
  late sent := by cases sent
  upgraded sent := by cases sent

end Handler

/-! ## Reservations -/

/-- From the call of the dialer to the first deferred function a call holds its slot and its
principal's unit. -/
theorem Pc.Allows.held {pc : Pc} {f : Flags} (allows : pc.Allows f)
    (serving : pc.progress = .dialing ∨ Handler.Connected pc.progress) :
    f.heldSlot = true ∧ f.heldPrincipal = true := by
  cases pc with
  | dial | register | deadlineAfterDial | drainAfterDial | hijack | attach | deadlineAfterHijack
  | complete | arm | deadlineBeforeUpgrade | upgrade | deadlineAfterUpgrade | opened | establish
  | relay | close | finished =>
      obtain rfl := allows
      exact ⟨rfl, rfl⟩
  | _ =>
      rcases serving with dialing | connected
      · cases dialing
      · exact connected.elim

end GrpcBridge.Gateway
