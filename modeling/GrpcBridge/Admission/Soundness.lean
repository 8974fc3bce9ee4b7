/-
# Admission.Soundness -- no dial past a gate, no tunnel past its deadline

`Admitted` is everything that the gates of `ServeHTTP` have established about a
call that has reached the dialer: its headers, one reading of the targets file, in
admission mode the reply that grants that very label, and the deadline computed
from both.  `Cleared` says how much of it is known behind which gate, and `Gated` that
a call which has dialed keeps it, whatever happens to the file and the clock after.

`admission_sound` reads off the states of every run what this means for the dial
and for a tunnel whose peer was sent a 101.
-/
import GrpcBridge.Admission.Checks
import GrpcBridge.Admission.Site

namespace GrpcBridge.Admission

set_option autoImplicit false

open GrpcBridge.Gateway (Act Dialed Handler Passage Pc Progress State Timer)
open GrpcBridge.Theory
open GrpcBridge.Theory.Text (Bytes utf8 literal)

variable {c : Settings} {r : Request} {contents more : List (Option Bytes)} {now later : Int}
  {h h' : Handler} {v : Visit} {principal : String}

/-! ## What is known behind a gate -/

/-- The service's grant to this call, checked no later than `now`. -/
def Granted (c : Settings) (v : Visit) (principal : String) (now : Int) : Prop :=
  c.admissionURL ≠ [] → ∃ reply checkedAt grant,
    v.consulted = some ⟨v.credential, v.destination.label, reply, checkedAt⟩ ∧ checkedAt ≤ now ∧
      Grants c v.destination.label reply checkedAt grant ∧
      principal = String.ofList grant.subject ∧ v.grantExpiry = grant.expires

/-- The target is as one content of the targets file has it. -/
def Resolved (c : Settings) (r : Request) (contents : List (Option Bytes)) (v : Visit) : Prop :=
  ∃ file ∈ contents, Listed c r file v.destination

/-- What the gates have established about a call that has dialed `d`. -/
structure Admitted (c : Settings) (r : Request) (contents : List (Option Bytes)) (v : Visit)
    (principal : String) (d : Bytes × Bool) : Prop where
  presented : Presented c r v.credential
  resolved : Resolved c r contents v
  granted : Granted c v principal v.authorizedAt
  target : d = (v.destination.address, v.destination.tls)
  deadline : v.tunnelDeadline = deadlineOf c v.authorizedAt v.grantExpiry

/-- The closing timer is due by the tunnel's deadline. -/
def Visit.ClosesInTime (v : Visit) : Prop := ∃ due, v.timerAt = some due ∧ due ≤ v.tunnelDeadline

def Cleared (c : Settings) (r : Request) (contents : List (Option Bytes)) (now : Int) (v : Visit)
    (principal : String) : Progress → Prop
  | .arriving => v.dialed = none
  | .checked => v.dialed = none ∧ Presented c r v.credential
  | .resolved => v.dialed = none ∧ Presented c r v.credential ∧ Resolved c r contents v
  | .granted => v.dialed = none ∧ Presented c r v.credential ∧ Resolved c r contents v ∧
      Granted c v principal now
  | .dialing => Presented c r v.credential ∧ Resolved c r contents v ∧ Granted c v principal now
  | .dialed => v.dialed ≠ none
  | .armed => v.dialed ≠ none ∧ ∃ armedAt, armedAt ≤ now ∧
      v.timerAt = some (armedAt + untilTime v.tunnelDeadline armedAt)
  | .inTime => v.dialed ≠ none ∧ v.ClosesInTime
  | .leaving => True

/-- A call and its variables, in every state. -/
structure Gated (c : Settings) (r : Request) (contents : List (Option Bytes)) (now : Int)
    (h : Handler) (v : Visit) : Prop where
  cleared : Cleared c r contents now v h.principal h.pc.progress
  admitted : ∀ d, v.dialed = some d → Admitted c r contents v h.principal d
  timed : h.Timed
  upgraded : h.Upgraded → v.dialed ≠ none ∧ v.ClosesInTime

/-! ## The file and the clock move on -/

theorem Granted.mono (granted : Granted c v principal now) (on : now ≤ later) :
    Granted c v principal later := by
  intro service
  obtain ⟨reply, checkedAt, grant, asked, before, rest⟩ := granted service
  exact ⟨reply, checkedAt, grant, asked, Int.le_trans before on, rest⟩

theorem Resolved.mono (resolved : Resolved c r contents v) (grows : contents ⊆ more) :
    Resolved c r more v := by
  obtain ⟨file, inside, listed⟩ := resolved
  exact ⟨file, grows inside, listed⟩

theorem Admitted.mono {d : Bytes × Bool} (admitted : Admitted c r contents v principal d)
    (grows : contents ⊆ more) : Admitted c r more v principal d :=
  { admitted with resolved := admitted.resolved.mono grows }

theorem Cleared.mono {progress : Progress} (cleared : Cleared c r contents now v principal progress)
    (grows : contents ⊆ more) (on : now ≤ later) : Cleared c r more later v principal progress := by
  cases progress with
  | arriving | checked | dialed | inTime | leaving => exact cleared
  | resolved =>
      obtain ⟨fresh, presented, resolved⟩ := cleared
      exact ⟨fresh, presented, resolved.mono grows⟩
  | granted =>
      obtain ⟨fresh, presented, resolved, granted⟩ := cleared
      exact ⟨fresh, presented, resolved.mono grows, granted.mono on⟩
  | dialing =>
      obtain ⟨presented, resolved, granted⟩ := cleared
      exact ⟨presented, resolved.mono grows, granted.mono on⟩
  | armed =>
      obtain ⟨dialed, armedAt, before, due⟩ := cleared
      exact ⟨dialed, armedAt, Int.le_trans before on, due⟩

theorem Gated.mono (gated : Gated c r contents now h v) (grows : contents ⊆ more) (on : now ≤ later) :
    Gated c r more later h v where
  cleared := gated.cleared.mono grows on
  admitted d dialed := (gated.admitted d dialed).mono grows
  timed := gated.timed
  upgraded := gated.upgraded

/-! ## Statements that leave the variables alone -/

theorem untilTime_le {deadline armedAt : Int} (early : armedAt < deadline) :
    armedAt + untilTime deadline armedAt ≤ deadline := by
  unfold untilTime
  omega

/-- The acts that go with a change of the variables. -/
def Settles (h : Handler) : Act → Prop
  | .checks bad => bad = none
  | .destination bad => bad = none
  | .admission _ => True
  | .proceed => h.pc = .arm
  | _ => False

theorem gated_passage {a : Act} (gated : Gated c r contents now h v) (passage : Passage h a h')
    (keeps : ¬ Settles h a) (dials : a = .dial .ok → v.dialed ≠ none)
    (clocks : a = .clock false → now < v.tunnelDeadline) : Gated c r contents now h' v := by
  have timed := Handler.step_timed gated.timed passage
  have cleared := gated.cleared
  cases passage with
  | stays stays _ =>
      refine ⟨?_, ?_, timed, ?_⟩
      · rw [stays.principal]
        rcases stays.progress with still | left
        · rw [still]
          exact cleared
        · rw [left]
          trivial
      · rw [stays.principal]
        exact gated.admitted
      · intro sent
        rcases stays.upgraded sent with before | inTime
        · exact gated.upgraded before
        · rw [inTime] at cleared
          exact cleared
  | checked pc => exact absurd rfl keeps
  | resolved pc => exact absurd rfl keeps
  | granted subject pc => exact absurd trivial keeps
  | armed pc => exact absurd pc keeps
  | reserved flags pc =>
      rw [pc] at cleared
      obtain ⟨-, presented, resolved, granted⟩ := cleared
      exact ⟨⟨presented, resolved, granted⟩, gated.admitted, timed, gated.upgraded⟩
  | dialed pc => exact ⟨dials rfl, gated.admitted, timed, gated.upgraded⟩
  | inTime pc =>
      rw [pc] at cleared
      obtain ⟨dialed, armedAt, before, due⟩ := cleared
      have early := Int.lt_of_le_of_lt before (clocks rfl)
      exact ⟨⟨dialed, _, due, untilTime_le early⟩, gated.admitted, timed, gated.upgraded⟩
  | fires _ => exact ⟨cleared, gated.admitted, timed, gated.upgraded⟩
  | stops pc => exact ⟨trivial, gated.admitted, timed, gated.upgraded⟩

/-! ## Statements that settle a variable -/

section

variable {n : Nat} {cfg : Gateway.Config} {i : Fin n} {g g' : Gateway.Gateway n}

theorem checks_gated {credential : Bytes} (gated : Gated c r contents now h v)
    (passed : checkRequest c r = .ok credential)
    (moved : h.step cfg i g (.checks none) = some (g', h')) :
    Gated c r contents now h' { v with credential } := by
  have timed := Handler.step_timed gated.timed (Handler.step_passes moved)
  have ran : (h.answered (.checks none)).map (fun h => (g, h)) = some (g', h') := moved
  obtain ⟨_, answered, same⟩ := Option.map_eq_some_iff.mp ran
  cases same
  obtain ⟨pc, rfl⟩ := Gateway.of_when answered
  have cleared := gated.cleared
  rw [pc] at cleared
  have fresh : v.dialed = none := cleared
  refine ⟨⟨fresh, checkRequest_ok passed⟩, fun d dialed => ?_, timed, gated.upgraded⟩
  exact absurd (fresh.symm.trans dialed) (by simp)

theorem destination_gated {destination : ResolvedTarget} {file : Option Bytes}
    (gated : Gated c r contents now h v) (current : file ∈ contents)
    (resolved : resolveDestination c r file = .ok destination)
    (moved : h.step cfg i g (.destination none) = some (g', h')) :
    Gated c r contents now h' { v with destination } := by
  have timed := Handler.step_timed gated.timed (Handler.step_passes moved)
  have ran : (h.answered (.destination none)).map (fun h => (g, h)) = some (g', h') := moved
  obtain ⟨_, answered, same⟩ := Option.map_eq_some_iff.mp ran
  cases same
  obtain ⟨pc, rfl⟩ := Gateway.of_when answered
  have cleared := gated.cleared
  rw [pc] at cleared
  obtain ⟨fresh, presented⟩ := cleared
  refine ⟨⟨fresh, presented, file, current, resolveDestination_ok resolved⟩, fun d dialed => ?_,
    timed, gated.upgraded⟩
  exact absurd (fresh.symm.trans dialed) (by simp)

/-- `authorizeTarget` returns, or is not called. -/
theorem admission_gated {grant : Except Gateway.Denied String} {v' : Visit}
    (gated : Gated c r contents now h v) (keeps : v'.dialed = v.dialed)
    (credential : v'.credential = v.credential) (destination : v'.destination = v.destination)
    (granted : ∀ subject, grant = .ok subject → Granted c v' subject now)
    (moved : h.step cfg i g (.admission grant) = some (g', h')) :
    Gated c r contents now h' v' := by
  have timed := Handler.step_timed gated.timed (Handler.step_passes moved)
  have ran : (h.answered (.admission grant)).map (fun h => (g, h)) = some (g', h') := moved
  obtain ⟨_, answered, same⟩ := Option.map_eq_some_iff.mp ran
  cases same
  obtain ⟨pc, rfl⟩ := Gateway.of_when answered
  have cleared := gated.cleared
  rw [pc] at cleared
  obtain ⟨fresh, presented, file, inside, listed⟩ := cleared
  have undialed : ∀ d, v'.dialed = some d → False := by
    intro d dialed
    rw [keeps, fresh] at dialed
    cases dialed
  have unsent : ¬ h.Upgraded := fun sent => (gated.upgraded sent).1 fresh
  cases grant with
  | error denied =>
      refine ⟨trivial, fun d dialed => (undialed d dialed).elim, timed, fun sent => ?_⟩
      exact absurd (Option.some.inj sent) denied.status_ne
  | ok subject =>
      refine ⟨⟨keeps.trans fresh, ?_, ⟨file, inside, ?_⟩, granted subject rfl⟩,
        fun d dialed => (undialed d dialed).elim, timed, fun sent => absurd sent unsent⟩
      · rw [credential]
        exact presented
      · rw [destination]
        exact listed

theorem arm_gated (gated : Gated c r contents now h v) (pc : h.pc = .arm)
    (moved : h.step cfg i g .proceed = some (g', h')) :
    Gated c r contents now h' (v.arm now) := by
  have timed := Handler.step_timed gated.timed (Handler.step_passes moved)
  have ran : h.proceed cfg i g = some (g', h') := moved
  simp only [Handler.proceed, pc] at ran
  cases ran
  have cleared := gated.cleared
  rw [pc] at cleared
  refine ⟨⟨cleared, now, Int.le_refl now, rfl⟩, fun d dialed => ?_, timed, fun sent => ?_⟩
  · exact { gated.admitted d dialed with }
  · have late := gated.timed.late sent
    rw [pc] at late
    rcases late with late | late
    · cases late
    · cases late

theorem next_gated {file : Option Bytes} {call : Call} {a : Act} {v' : Visit}
    (gated : Gated c r contents now h v) (current : file ∈ contents)
    (made : v.next c r now file h.pc call = some (a, v'))
    (moved : h.step cfg i g a = some (g', h')) : Gated c r contents now h' v' := by
  have passage := Handler.step_passes moved
  cases call with
  | route =>
      cases made
      exact gated_passage gated passage id (by simp) (by simp)
  | checks =>
      simp only [Visit.next] at made
      split at made
      · cases made
        exact gated_passage gated passage (by simp [Settles]) (by simp) (by simp)
      · next credential passed =>
        cases made
        exact checks_gated gated passed moved
  | destination =>
      simp only [Visit.next] at made
      split at made
      · cases made
        exact gated_passage gated passage (by simp [Settles]) (by simp) (by simp)
      · next destination resolved =>
        cases made
        exact destination_gated gated current resolved moved
  | admission reply =>
      simp only [Visit.next] at made
      split at made
      · next service =>
        split at made
        · cases made
          exact admission_gated gated rfl rfl rfl (by simp) moved
        · next grant answered =>
          cases made
          refine admission_gated gated rfl rfl rfl (fun subject same _ => ?_) moved
          refine ⟨reply, now, grant, rfl, Int.le_refl now, authorizeTarget_ok answered, ?_, rfl⟩
          exact (Except.ok.inj same).symm
      · next none_ =>
        cases made
        exact admission_gated gated rfl rfl rfl
          (fun _ _ service => absurd service none_) moved
  | authorize => cases made
  | dial outcome =>
      obtain ⟨dialed, same⟩ := Gateway.of_when made
      cases same
      refine gated_passage gated passage id (fun _ => ?_) (by simp)
      exact Option.isSome_iff_ne_none.mp dialed
  | clock =>
      cases made
      refine gated_passage gated passage id (by simp) (fun early => ?_)
      simpa using early
  | proceed =>
      cases made
      split
      · next pc => exact arm_gated gated pc moved
      · next elsewhere => exact gated_passage gated passage elsewhere (by simp) (by simp)
  | timerFires =>
      obtain ⟨-, same⟩ := Gateway.of_when made
      cases same
      exact gated_passage gated passage id (by simp) (by simp)
  | other a =>
      obtain ⟨other, same⟩ := Gateway.of_unless made
      cases same
      cases a with
      | hijack _ | upgrade _ | relayed | pumpCloses | pumpReturns | tickerCloses | tickerReturns
      | forcerCloses | settle => exact gated_passage gated passage id (by simp) (by simp)
      | route _ | checks _ | destination _ | admission _ | dial _ | clock _ | proceed | timerFires =>
          exact absurd rfl other

/-- The dialer is called with the target as it was resolved. -/
theorem authorize_gated (gated : Gated c r contents now h v) (pc : h.pc = .dial) :
    Gated c r contents now h (v.authorize c now) := by
  have cleared := gated.cleared
  rw [pc] at cleared
  obtain ⟨presented, resolved, granted⟩ := cleared
  refine ⟨?_, ?_, gated.timed, fun sent => ?_⟩
  · rw [pc]
    exact ⟨presented, resolved, granted⟩
  · intro d dialed
    exact ⟨presented, resolved, granted, (Option.some.inj dialed).symm, rfl⟩
  · have late := gated.timed.late sent
    rw [pc] at late
    rcases late with late | late
    · cases late
    · cases late

end

/-! ## Every state -/

section

variable {n : Nat} {requests : Fin n → Request} {s t : Site n}

def AllGated (c : Settings) (requests : Fin n → Request) (s : Site n) : Prop :=
  ∀ i, Gated c (requests i) s.contents s.now (s.gateway.handlers i) (s.visits i)

theorem take_gated (gated : Gated c r contents now h v) :
    Gated c r contents now (State.take h) v where
  cleared := gated.cleared
  admitted := gated.admitted
  timed := Handler.take_timed gated.timed
  upgraded := gated.upgraded

/-- A step of one call leaves the others where they are. -/
theorem gated_update {i : Fin n} {g : Gateway.Gateway n} (gated : AllGated c requests s)
    (new : Gated c (requests i) s.contents s.now h v) :
    AllGated c requests { s with
      gateway := { s.gateway with
        gateway := g, handlers := Function.update s.gateway.handlers i h }
      visits := Function.update s.visits i v } := by
  intro j
  by_cases own : j = i
  · subst own
    dsimp only
    rw [Function.update_self, Function.update_self]
    exact new
  · dsimp only
    rw [Function.update_of_ne own, Function.update_of_ne own]
    exact gated j

theorem step_gated {e : Happening n} (gated : AllGated c requests s)
    (stepped : s.step c requests e = some t) : AllGated c requests t := by
  cases e with
  | call i call =>
      by_cases own : call = .authorize
      · subst own
        obtain ⟨⟨pc, -⟩, rfl⟩ := Gateway.of_when stepped
        have new := authorize_gated (gated i) pc
        have same : Function.update s.gateway.handlers i (s.gateway.handlers i) =
          s.gateway.handlers := Function.update_eq_self i s.gateway.handlers
        have updated := gated_update (g := s.gateway.gateway) gated new
        rw [same] at updated
        exact updated
      · obtain ⟨a, v, g, h, made, moved, rfl⟩ := Site.call_cases own stepped
        exact gated_update gated (next_gated (gated i) List.mem_cons_self made moved)
  | process e =>
      obtain ⟨calm, gateway, ran, rfl⟩ := Site.process_cases stepped
      intro i
      cases e with
      | handler j a => exact absurd rfl (calm j a)
      | force =>
          cases ran
          show Gated _ _ _ _ (if i ∈ s.gateway.gateway.active then _ else _) _
          split
          · exact take_gated (gated i)
          · exact gated i
      | beginDrain =>
          cases ran
          exact gated i
      | count k =>
          obtain ⟨_, _, rfl⟩ := Gateway.State.step_count ran
          exact gated i
      | wait | look k | wake k | cancel k =>
          obtain ⟨_, rfl⟩ := Gateway.State.step_watches rfl ran
          exact gated i
  | tick later =>
      obtain ⟨on, rfl⟩ := Gateway.of_when stepped
      intro i
      exact (gated i).mono (List.Subset.refl _) on
  | edit file =>
      cases stepped
      intro i
      exact (gated i).mono (List.subset_cons_self _ _) (Int.le_refl _)

theorem gated_init (c : Settings) (requests : Fin n → Request) (start : Int) (file : Option Bytes) :
    AllGated c requests { now := start, file } := by
  intro i
  refine ⟨rfl, fun d dialed => ?_, Handler.timed_init, fun sent => ?_⟩
  · cases dialed
  · cases sent

theorem gated_of_reaches {config : Settings} {start : Int} {file : Option Bytes}
    (reached : (Site.machine config requests start file).Reaches Machine.always s) :
    AllGated config.normalize requests s :=
  reached.invariant (AllGated config.normalize requests)
    (fun _ _ _ gated _ stepped => step_gated gated stepped)
    (gated_init config.normalize requests start file)

/-! ## The dial and the tunnel -/

theorem deadlineOf_le (c : Settings) (authorizedAt grantExpiry : Int) :
    deadlineOf c authorizedAt grantExpiry ≤ authorizedAt + c.maxTunnelLifetime ∧
      (grantExpiry ≠ 0 → deadlineOf c authorizedAt grantExpiry ≤ grantExpiry) := by
  unfold deadlineOf
  split
  · next sooner => exact ⟨Int.le_of_lt sooner.2, fun _ => Int.le_refl _⟩
  · next longer =>
    refine ⟨Int.le_refl _, fun granted => ?_⟩
    by_contra past
    exact longer ⟨granted, Int.not_le.mp past⟩

/-- The closing timer of a tunnel: when it is due, and that it is armed, has fired and closed
the tunnel, or was stopped by the call that is over. -/
structure Closing (c : Settings) (h : Handler) (v : Visit) : Prop where
  due : ∃ due, v.timerAt = some due ∧ due ≤ v.authorizedAt + c.maxTunnelLifetime ∧
    (c.admissionURL ≠ [] → due ≤ v.grantExpiry)
  timer : ∃ tunnel, h.tunnel = some tunnel ∧
    (h.timer = .armed ∨ (h.timer = .fired ∧ tunnel.closed = true) ∨
      (h.timer = .stopped ∧ h.pc.progress = .leaving))

theorem Gated.closing (gated : Gated c r contents now h v) (sent : h.Upgraded) : Closing c h v := by
  obtain ⟨dialed, due, at_, early⟩ := gated.upgraded sent
  obtain ⟨d, target⟩ := Option.ne_none_iff_exists'.mp dialed
  have admitted := gated.admitted d target
  have unarmed := gated.timed.upgraded sent
  rw [admitted.deadline] at early
  obtain ⟨lifetime, expiry⟩ := deadlineOf_le c v.authorizedAt v.grantExpiry
  refine ⟨⟨due, at_, Int.le_trans early lifetime, fun service => ?_⟩, ?_⟩
  · obtain ⟨_, _, grant, -, -, grants, -, same⟩ := admitted.granted service
    rw [same] at expiry
    rw [same]
    exact Int.le_trans (same ▸ early) (expiry grants.expires_ne_zero)
  · obtain ⟨tunnel, there⟩ := gated.timed.tunnel (.inr unarmed)
    refine ⟨tunnel, there, ?_⟩
    cases timer : h.timer with
    | unarmed => exact absurd timer unarmed
    | armed => exact .inl rfl
    | fired => exact .inr (.inl ⟨rfl, gated.timed.fired timer tunnel there⟩)
    | stopped =>
        refine .inr (.inr ⟨rfl, ?_⟩)
        rcases gated.timed.late sent with inTime | leaving
        · have times := gated.timed.times
          rw [inTime, timer] at times
          rcases times with armed | fired
          · cases armed
          · cases fired
        · exact leaving

/-- How far a call has come that has dialed. -/
theorem Gated.serving (gated : Gated c r contents now h v) (dialed : v.dialed ≠ none)
    (stays : h.pc.progress ≠ .leaving) : h.pc.progress = .dialing ∨ Handler.Connected h.pc.progress := by
  have cleared := gated.cleared
  cases progress : h.pc.progress with
  | arriving =>
      rw [progress] at cleared
      exact absurd cleared dialed
  | checked | resolved | granted =>
      rw [progress] at cleared
      exact absurd cleared.1 dialed
  | dialing => exact .inl rfl
  | dialed | armed | inTime => exact .inr trivial
  | leaving => exact absurd progress stays

/-- **Admission is sound.** Whatever the requests, the configuration, the replies and the
contents of the targets file: a call that has dialed was admitted by every gate, with the
address and the TLS flag of one reading of the file; it holds a slot and a unit of its
principal until it unwinds; and a tunnel whose peer was sent a 101 has a closing timer due by
the end of its lifetime and of its grant. -/
theorem admission_sound (config : Settings) (requests : Fin n → Request) (start : Int)
    (file : Option Bytes) (s : Site n)
    (reached : (Site.machine config requests start file).Reaches Machine.always s) (i : Fin n) :
    (∀ address tls, (s.visits i).dialed = some (address, tls) →
      Admitted config.normalize (requests i) s.contents (s.visits i)
        (s.gateway.handlers i).principal (address, tls)) ∧
    ((s.visits i).dialed ≠ none → (s.gateway.handlers i).pc.progress ≠ .leaving →
      (s.gateway.handlers i).flags.heldSlot = true ∧
      (s.gateway.handlers i).flags.heldPrincipal = true ∧ 0 < s.gateway.gateway.slots ∧
      0 < s.gateway.gateway.reserved (s.gateway.handlers i).principal) ∧
    ((s.gateway.handlers i).Upgraded →
      (s.visits i).dialed ≠ none ∧
      Closing config.normalize (s.gateway.handlers i) (s.visits i)) := by
  have gated := gated_of_reaches reached i
  have accounts := State.accounts_of_reaches (Site.gateway_of_steps reached)
  refine ⟨fun address tls dialed => gated.admitted _ dialed, fun dialed stays => ?_,
    fun sent => ⟨(gated.upgraded sent).1, gated.closing sent⟩⟩
  obtain ⟨slot, unit⟩ := (accounts.shape i).flags.held (gated.serving dialed stays)
  refine ⟨slot, unit, ?_, ?_⟩
  · rw [accounts.books.slots]
    exact Finset.card_pos.mpr ⟨i, Gateway.mem_having.mpr slot⟩
  · rw [accounts.books.reserved, State.charged_holdings]
    exact Finset.card_pos.mpr ⟨i, Finset.mem_filter.mpr ⟨Finset.mem_univ i, unit, rfl⟩⟩

end

/-! ## A call that is served -/

def served : Settings where
  defaultTarget := literal "db"
  admissionURL := literal "https://admission"
  maxConnections := 1

def asking : Request where
  path := literal "/tunnel"
  method := literal "GET"
  connection := [literal "Upgrade"]
  upgrade := [literal "websocket"]
  key := [literal "AAAAAAAAAAAAAAAAAAAAAA=="]
  version := [literal "13"]
  protocols := [literal "grpc-tunnel.v1, auth.jwt"]

def policyFile (address : String) : Option Bytes :=
  some (literal
    ("\x7b\"targets\":\x7b\"db\":\x7b\"address\":\"" ++ address ++ "\",\"tls\":true\x7d\x7d\x7d"))

def grantingReply : Reply :=
  .response 200 (some (literal
    "\x7b\"version\":1,\"subject\":\"alice\",\"target\":\"db\",\"expires_at\":60\x7d"))

/-- Statements of the only call. -/
def calls (statements : List Call) : List (Happening 1) := statements.map (.call (Fin.last 0))

/-- The targets file is edited while the admission service is asked. -/
def admittedRun : List (Happening 1) :=
  calls [.route, .proceed, .checks, .proceed, .destination, .proceed] ++
    [.edit (policyFile "b:2")] ++ calls [.admission grantingReply] ++ [.tick (unixTime 1)] ++
    calls [.proceed, .proceed, .authorize, .dial .ok, .proceed, .clock, .proceed,
      .other (.hijack .ok), .proceed, .clock, .proceed, .proceed, .clock, .other (.upgrade true)]

theorem admittedRun_outcome :
    ((Site.machine served (fun _ => asking) (unixTime 0) (policyFile "a:1")).run Machine.always
      { now := unixTime 0, file := policyFile "a:1" } admittedRun).map (fun s =>
        ((s.visits (Fin.last 0)).dialed, (s.gateway.handlers (Fin.last 0)).answer.map Prod.fst)) =
      some (some (literal "a:1", true), some 101) := by
  decide +kernel

/-- The dialer was called with the address that was read before the edit. -/
theorem admission_sound_admittedRun : ∃ s : Site 1,
    (Site.machine served (fun _ => asking) (unixTime 0) (policyFile "a:1")).Reaches
        Machine.always s ∧
      Admitted served.normalize asking s.contents (s.visits (Fin.last 0))
        (s.gateway.handlers (Fin.last 0)).principal (literal "a:1", true) ∧
      Closing served.normalize (s.gateway.handlers (Fin.last 0)) (s.visits (Fin.last 0)) := by
  obtain ⟨s, ran, seen⟩ := Option.map_eq_some_iff.mp admittedRun_outcome
  obtain ⟨dialed, sent⟩ := Prod.mk.inj seen
  have reached := Machine.steps_of_run admittedRun ran
  obtain ⟨admitted, -, closing⟩ := admission_sound served (fun _ => asking) (unixTime 0)
    (policyFile "a:1") s reached (Fin.last 0)
  exact ⟨s, reached, admitted _ _ dialed, (closing sent).2⟩

end GrpcBridge.Admission
