/-
# Gateway.Sockets -- who closes a handler's connections

A live connection of a handler is the tunnel's, or it is the client connection
that the handler is about to attach.  Once a tunnel is marked closed, the
goroutine that marked it owes the `Close` calls of what it found attached, so a
live connection of a closed tunnel is always in somebody's debt (`Covered`).  The
handler marks its tunnel closed before it releases anything, and waits for its
own debt and for the pump's, but not for anybody else's (`Handler.Safe`).
-/
import GrpcBridge.Gateway.Moves

namespace GrpcBridge.Gateway

set_option autoImplicit false
set_option linter.dupNamespace false

/-! ## Debts -/

/-- Every live connection has an owner that will close it. -/
def Covered (attaching : Prop) : Option Tunnel → Link → Link → Prop
  | none, client, upstream => client = .absent ∧ upstream ≠ .live
  | some t, client, upstream =>
      (t.closed = false → t.owed = none) ∧
        (t.closed = true → upstream = .live → t.owed ≠ none) ∧
        (t.closed = true → t.attached = true → client = .live → ∃ who, t.owed = some ⟨who, true⟩) ∧
        (t.attached = false → client = .live → attaching)

theorem Covered.mono {p q : Prop} (weaken : p → q) {t : Option Tunnel} {client upstream : Link}
    (covered : Covered p t client upstream) : Covered q t client upstream := by
  cases t with
  | none => exact covered
  | some t => exact ⟨covered.1, covered.2.1, covered.2.2.1,
      fun loose live => weaken (covered.2.2.2 loose live)⟩

theorem Link.close_ne_live (l : Link) : l.close ≠ .live := by
  cases l <;> decide

theorem Covered.close {attaching : Prop} {t : Option Tunnel} {client upstream : Link}
    (covered : Covered attaching t client upstream) (who : Closer) :
    Covered attaching (t.map fun t => t.close who) client upstream := by
  cases t with
  | none => exact covered
  | some t =>
      simp only [Option.map_some, Tunnel.close]
      split
      · exact covered
      · refine ⟨Bool.noConfusion, fun _ _ => Option.some_ne_none _, ?_, covered.2.2.2⟩
        intro _ attached _
        exact ⟨who, congrArg (fun b => some (Debt.mk who b)) attached⟩

theorem Covered.setClient {t after : Tunnel} {client upstream : Link}
    (covered : Covered True (some t) client upstream) (attached : t.setClient = some after) :
    Covered False (some after) client upstream := by
  obtain ⟨unclosed, rfl⟩ := of_unless attached
  refine ⟨covered.1, fun closed => absurd closed unclosed, fun closed => absurd closed unclosed,
    Bool.noConfusion⟩

/-- What a tunnel says about its connections, without the marks of `forceCloseActive`. -/
theorem Covered.congr {attaching : Prop} {t after : Tunnel} {client upstream : Link}
    (covered : Covered attaching (some t) client upstream) (closed : after.closed = t.closed)
    (attached : after.attached = t.attached) (owed : after.owed = t.owed) :
    Covered attaching (some after) client upstream := by
  obtain ⟨a, b, c, d, e⟩ := after
  cases closed
  cases attached
  cases owed
  exact covered

namespace Handler

variable {n : Nat} {cfg : Config} {i : Fin n} {g g' : Gateway n} {h h' : Handler}

theorem settle_covered {attaching : Prop}
    (covered : Covered attaching h.tunnel h.client h.upstream) (settled : h.settle = some h') :
    Covered attaching h'.tunnel h'.client h'.upstream := by
  simp only [settle] at settled
  split at settled
  · cases settled
  · rename_i t tunnel
    rw [tunnel] at covered
    obtain ⟨unowed, upstream, client, loose⟩ := covered
    split at settled
    · cases settled
    · rename_i who owed
      cases settled
      refine ⟨?_, fun _ _ => Option.some_ne_none _, ?_, ?_⟩
      · intro unclosed
        exact absurd (owed.symm.trans (unowed unclosed)) (Option.some_ne_none _)
      · intro _ _ live
        exact absurd live (Link.close_ne_live _)
      · intro _ live
        exact absurd live (Link.close_ne_live _)
    · rename_i who owed
      cases settled
      refine ⟨fun _ => rfl, ?_, ?_, loose⟩
      · intro _ live
        exact absurd live (Link.close_ne_live _)
      · intro closed attached live
        obtain ⟨_, other⟩ := client closed attached live
        rw [owed] at other
        cases other

/-! ## Who owes -/

theorem owes_close {who other : Closer} (owes : (h.closeTunnel who).owes other = true) :
    h.owes other = true ∨ other = who := by
  simp only [closeTunnel, Handler.owes] at owes ⊢
  cases tunnel : h.tunnel with
  | none =>
      rw [tunnel] at owes
      cases owes
  | some t =>
      rw [tunnel] at owes
      simp only [Option.map_some, Option.any_some, Tunnel.close] at owes ⊢
      split at owes
      · exact .inl owes
      · exact .inr (of_decide_eq_true owes).symm

theorem owes_settle {who : Closer} (settled : h.settle = some h') (owes : h'.owes who = true) :
    h.owes who = true := by
  simp only [settle] at settled
  split at settled
  · cases settled
  · rename_i t tunnel
    split at settled
    · cases settled
    · rename_i debtor owed
      cases settled
      simp only [Handler.owes, tunnel, Option.any_some, owed]
      exact owes
    · cases settled
      cases owes

end Handler

/-! ## The tunnel at each statement -/

/-- Whether there is a tunnel, and whether it owns the client connection. -/
def Pc.Stages (pc : Pc) (t : Option Tunnel) : Prop :=
  match pc with
  | .route | .beginHandshake | .refused | .checks | .slot | .destination | .drainBeforeAdmission
  | .admission | .drainAfterAdmission | .principal | .dial => t = none
  | .register | .deadlineAfterDial | .drainAfterDial | .hijack | .attach =>
      ∃ x, t = some x ∧ x.attached = false
  | .deadlineAfterHijack | .complete | .arm | .deadlineBeforeUpgrade | .upgrade
  | .deadlineAfterUpgrade | .opened | .establish | .relay | .close | .finished => t ≠ none
  | .deferDone | .deferGauge | .deferClosed | .deferTimer | .deferFailure | .deferClose => True
  | .deferPrincipal | .deferSlot | .deferUnregister | .deferFinish | .returned =>
      ∀ x, t = some x → x.closed = true

theorem Pc.Stages.map {pc : Pc} {t : Option Tunnel} {f : Tunnel → Tunnel} (staged : pc.Stages t)
    (attached : ∀ x, (f x).attached = x.attached)
    (closed : ∀ x, x.closed = true → (f x).closed = true) : pc.Stages (t.map f) := by
  have some_map : ∀ {y}, t.map f = some y → ∃ x, t = some x ∧ y = f x := by
    intro y mapped
    obtain ⟨x, present, same⟩ := Option.map_eq_some_iff.1 mapped
    exact ⟨x, present, same.symm⟩
  cases pc with
  | route | beginHandshake | refused | checks | slot | destination | drainBeforeAdmission
  | admission | drainAfterAdmission | principal | dial =>
      exact congrArg (Option.map f) staged
  | register | deadlineAfterDial | drainAfterDial | hijack | attach =>
      obtain ⟨x, present, loose⟩ := staged
      exact ⟨f x, congrArg (Option.map f) present, (attached x).trans loose⟩
  | deadlineAfterHijack | complete | arm | deadlineBeforeUpgrade | upgrade | deadlineAfterUpgrade
  | opened | establish | relay | close | finished =>
      intro gone
      exact staged (Option.map_eq_none_iff.1 gone)
  | deferDone | deferGauge | deferClosed | deferTimer | deferFailure | deferClose => trivial
  | deferPrincipal | deferSlot | deferUnregister | deferFinish | returned =>
      intro y mapped
      obtain ⟨x, present, rfl⟩ := some_map mapped
      exact closed x (staged x present)

theorem Tunnel.close_attached (t : Tunnel) (who : Closer) : (t.close who).attached = t.attached := by
  rw [Tunnel.close]
  split <;> rfl

theorem Tunnel.close_closed (t : Tunnel) (who : Closer) : (t.close who).closed = true := by
  rw [Tunnel.close]
  split
  · assumption
  · rfl

/-- The statements at which a `tunnel.close` of the handler may still be running. -/
def Pc.settling : Pc → Bool
  | .finished | .deferPrincipal => true
  | _ => false

/-- The statements between the start of the pump and the wait for it. -/
def Pc.relaying : Pc → Bool
  | .relay | .close | .finished => true
  | _ => false

/-- The other statements, where no connection is in the handler's own hands. -/
def Pc.plain (pc : Pc) : Bool := pc != .attach && !pc.settling && !pc.relaying

theorem Pc.of_plain {pc : Pc} (plain : pc.plain = true) :
    pc ≠ .attach ∧ pc.settling = false ∧ pc.relaying = false := by
  simp only [Pc.plain, Bool.and_eq_true, bne_iff_ne, Bool.not_eq_true'] at plain
  exact ⟨plain.1.1, plain.1.2, plain.2⟩

structure Handler.Safe (h : Handler) : Prop where
  covered : Covered (h.pc = .attach) h.tunnel h.client h.upstream
  staged : h.pc.Stages h.tunnel
  own : h.owes .handler = true → h.pc.settling = true
  pump : h.owes .pump = true → h.pump = .closing
  pumping : h.pump = .running ∨ h.pump = .closing → h.pc.relaying = true

namespace Handler

variable {n : Nat} {cfg : Config} {i : Fin n} {g g' : Gateway n} {h h' : Handler}

/-- What a statement that leaves the sockets alone has to show. -/
theorem Safe.on (safe : h.Safe) (tunnel : h'.tunnel = h.tunnel) (client : h'.client = h.client)
    (upstream : h'.upstream = h.upstream) (pump : h'.pump = h.pump) (notAttach : h.pc ≠ .attach)
    (staged : h'.pc.Stages h.tunnel) (own : h.pc.settling = false ∨ h.owes .handler = false)
    (pumping : h.pc.relaying = false ∨ h'.pc.relaying = true ∨ h.pump = .finished) : h'.Safe where
  covered := by
    rw [tunnel, client, upstream]
    exact safe.covered.mono fun attach => absurd attach notAttach
  staged := by
    rw [tunnel]
    exact staged
  own owes := by
    have owes : h.owes .handler = true := by rwa [Handler.owes, tunnel] at owes
    rcases own with elsewhere | settled
    · rw [safe.own owes] at elsewhere
      cases elsewhere
    · rw [settled] at owes
      cases owes
  pump owes := by
    rw [Handler.owes, tunnel] at owes
    rw [pump]
    exact safe.pump owes
  pumping running := by
    rw [pump] at running
    rcases pumping with elsewhere | there | finished
    · rw [safe.pumping running] at elsewhere
      cases elsewhere
    · exact there
    · rw [finished] at running
      rcases running with running | closing
      · cases running
      · cases closing

/-- A plain statement that moves on without touching the sockets. -/
theorem Safe.next (safe : h.Safe) (plain : h.pc.plain = true) (tunnel : h'.tunnel = h.tunnel)
    (client : h'.client = h.client) (upstream : h'.upstream = h.upstream) (pump : h'.pump = h.pump)
    (staged : h'.pc.Stages h.tunnel) : h'.Safe := by
  obtain ⟨notAttach, own, pumping⟩ := Pc.of_plain plain
  exact safe.on tunnel client upstream pump notAttach staged (.inl own) (.inl pumping)

theorem Safe.reject {r : Refusal} (safe : h.Safe) (plain : h.pc.plain = true) : (h.reject r).Safe :=
  safe.next plain rfl rfl rfl rfl trivial

theorem Safe.leave (safe : h.Safe) (plain : h.pc.plain = true) : h.leave.Safe :=
  safe.next plain rfl rfl rfl rfl trivial

/-- A `tunnel.close` of a goroutine that is not the handler. -/
theorem Safe.closedBy {who : Closer} (safe : h.Safe) (other : who ≠ .handler)
    (tunnel : h'.tunnel = (h.closeTunnel who).tunnel) (client : h'.client = h.client)
    (upstream : h'.upstream = h.upstream) (pc : h'.pc = h.pc)
    (pump : (h'.pump = h.pump ∧ who ≠ .pump) ∨ (h'.pump = .closing ∧ h.pump = .running)) :
    h'.Safe where
  covered := by
    rw [pc, tunnel, client, upstream]
    exact safe.covered.close who
  staged := by
    rw [pc, tunnel]
    exact safe.staged.map (fun t => t.close_attached who)
      fun t _ => t.close_closed who
  own owes := by
    rw [Handler.owes, tunnel] at owes
    rcases owes_close (show (h.closeTunnel who).owes .handler = true from owes) with before | new
    · rw [pc]
      exact safe.own before
    · exact absurd new.symm other
  pump owes := by
    rw [Handler.owes, tunnel] at owes
    rcases pump with ⟨same, notPump⟩ | ⟨closing, _⟩
    · rcases owes_close (show (h.closeTunnel who).owes .pump = true from owes) with before | new
      · rw [same]
        exact safe.pump before
      · exact absurd new.symm notPump
    · exact closing
  pumping running := by
    rw [pc]
    rcases pump with ⟨same, _⟩ | ⟨_, before⟩
    · rw [same] at running
      exact safe.pumping running
    · exact safe.pumping (.inl before)

theorem settle_safe (safe : h.Safe) (settled : h.settle = some h') : h'.Safe := by
  have covered := settle_covered safe.covered settled
  have owes : ∀ {who}, h'.owes who = true → h.owes who = true := owes_settle settled
  have frame : h'.pc = h.pc ∧ h'.pump = h.pump ∧
      ∃ debt : Tunnel → Option Debt, h'.tunnel = h.tunnel.map fun t => { t with owed := debt t } := by
    simp only [settle] at settled
    split at settled
    · cases settled
    · rename_i tunnel
      split at settled
      · cases settled
      · cases settled
        exact ⟨rfl, rfl, fun _ => some ⟨_, false⟩, by rw [tunnel]; rfl⟩
      · cases settled
        exact ⟨rfl, rfl, fun _ => none, by rw [tunnel]; rfl⟩
  obtain ⟨pc, pump, debt, tunnel⟩ := frame
  refine ⟨?_, ?_, ?_, ?_, ?_⟩
  · rw [pc]
    exact covered
  · rw [pc, tunnel]
    exact safe.staged.map (fun _ => rfl) fun _ closed => closed
  · intro own
    rw [pc]
    exact safe.own (owes own)
  · intro own
    rw [pump]
    exact safe.pump (owes own)
  · rw [pc, pump]
    exact safe.pumping

theorem forcer_safe {t : Tunnel} (safe : h.Safe) (tunnel : h.tunnel = some t) :
    { h with tunnel := some ({ t with taken := false }.close .forcer) }.Safe := by
  -- forgetting the mark first changes nothing that `Safe` reads
  have unmarked : { h with tunnel := some { t with taken := false } }.Safe := by
    refine ⟨?_, ?_, ?_, ?_, safe.pumping⟩
    · have covered := safe.covered
      rw [tunnel] at covered
      exact covered.congr rfl rfl rfl
    · have staged := safe.staged.map (f := fun t => { t with taken := false }) (fun _ => rfl)
        fun _ closed => closed
      rw [tunnel] at staged
      exact staged
    · intro owes
      exact safe.own (by rw [Handler.owes, tunnel]; exact owes)
    · intro owes
      exact safe.pump (by rw [Handler.owes, tunnel]; exact owes)
  exact unmarked.closedBy (by decide) rfl rfl rfl rfl (.inl ⟨rfl, by decide⟩)

theorem others_safe {a : Act} (safe : h.Safe) (stepped : h.others a = some h') : h'.Safe := by
  cases a with
  | pumpCloses =>
      obtain ⟨running, rfl⟩ := of_when stepped
      exact safe.closedBy (by decide) rfl rfl rfl rfl (.inr ⟨rfl, running⟩)
  | pumpReturns =>
      obtain ⟨⟨_, settled⟩, rfl⟩ := of_when stepped
      refine ⟨safe.covered, safe.staged, safe.own, ?_, ?_⟩
      · intro owes
        exact absurd (settled.symm.trans owes) Bool.false_ne_true
      · rintro (running | closing)
        · cases running
        · cases closing
  | tickerCloses =>
      obtain ⟨_, rfl⟩ := of_when stepped
      exact safe.closedBy (by decide) rfl rfl rfl rfl (.inl ⟨rfl, by decide⟩)
  | tickerReturns =>
      obtain ⟨_, rfl⟩ := of_when stepped
      exact ⟨safe.covered, safe.staged, safe.own, safe.pump, safe.pumping⟩
  | timerFires =>
      obtain ⟨_, rfl⟩ := of_when stepped
      exact safe.closedBy (by decide) rfl rfl rfl rfl (.inl ⟨rfl, by decide⟩)
  | forcerCloses =>
      simp only [others] at stepped
      split at stepped
      · rename_i tunnel
        obtain ⟨_, rfl⟩ := of_when stepped
        exact forcer_safe safe tunnel
      · cases stepped
  | settle => exact settle_safe safe stepped
  | _ => cases stepped

/-- A handler without a tunnel owes nothing. -/
theorem owes_none {who : Closer} (tunnel : h.tunnel = none) : h.owes who = false := by
  rw [Handler.owes, tunnel]
  rfl

/-- An upstream that did not negotiate h2 was closed before there was a tunnel. -/
theorem dialedNotH2_safe (safe : h.Safe) (pc : h.pc = .dial) :
    ({ h with upstream := .closed }.reject noUpstream).Safe := by
  have staged := safe.staged
  have covered := safe.covered
  rw [pc] at staged
  have tunnel : h.tunnel = none := staged
  rw [tunnel] at covered
  have plain : h.pc.plain = true := by rw [pc]; rfl
  obtain ⟨-, -, pumping⟩ := Pc.of_plain plain
  refine ⟨?_, trivial, ?_, ?_, ?_⟩
  · show Covered _ h.tunnel _ _
    rw [tunnel]
    exact ⟨covered.1, (by decide : Link.closed ≠ .live)⟩
  · intro owes
    exact absurd ((owes_none (h := h) tunnel).symm.trans owes) Bool.false_ne_true
  · intro owes
    exact absurd ((owes_none (h := h) tunnel).symm.trans owes) Bool.false_ne_true
  · intro running
    exact absurd (pumping.symm.trans (safe.pumping running)) Bool.false_ne_true

/-- A fresh tunnel holds the upstream connection, and there is no client connection yet. -/
theorem dialed_safe (safe : h.Safe) (pc : h.pc = .dial) :
    { h with upstream := .live, tunnel := some {}, pc := .register }.Safe := by
  have staged := safe.staged
  have covered := safe.covered
  rw [pc] at staged
  have tunnel : h.tunnel = none := staged
  rw [tunnel] at covered
  have plain : h.pc.plain = true := by rw [pc]; rfl
  obtain ⟨-, -, pumping⟩ := Pc.of_plain plain
  refine ⟨⟨fun _ => rfl, Bool.noConfusion, Bool.noConfusion, ?_⟩, ⟨_, rfl, rfl⟩,
    Bool.noConfusion, Bool.noConfusion, ?_⟩
  · intro _ live
    rw [show h.client = .absent from covered.1] at live
    cases live
  · intro running
    exact absurd (pumping.symm.trans (safe.pumping running)) Bool.false_ne_true

/-- The hijacked client connection is in the handler's own hands until it is attached. -/
theorem hijacked_safe (safe : h.Safe) (pc : h.pc = .hijack) :
    { h with client := .live, pc := .attach }.Safe := by
  have staged := safe.staged
  have covered := safe.covered
  rw [pc] at staged
  obtain ⟨t, tunnel, loose⟩ := staged
  rw [tunnel] at covered
  have plain : h.pc.plain = true := by rw [pc]; rfl
  obtain ⟨-, own, pumping⟩ := Pc.of_plain plain
  refine ⟨?_, ⟨t, tunnel, loose⟩, ?_, safe.pump, ?_⟩
  · show Covered _ h.tunnel _ _
    rw [tunnel]
    refine ⟨covered.1, covered.2.1, ?_, fun _ _ => rfl⟩
    intro _ attached
    exact Bool.noConfusion (loose.symm.trans attached)
  · intro owes
    exact absurd (own.symm.trans (safe.own owes)) Bool.false_ne_true
  · intro running
    exact absurd (pumping.symm.trans (safe.pumping running)) Bool.false_ne_true

theorem answered_safe {a : Act} (safe : h.Safe) (stepped : h.answered a = some h') : h'.Safe := by
  have staged := safe.staged
  cases answered_cases stepped with
  | dialedNotH2 pc => exact dialedNotH2_safe safe pc
  | dialed pc => exact dialed_safe safe pc
  | hijacked pc => exact hijacked_safe safe pc
  | checkFailed _ pc | unresolved _ pc | denied _ pc | dialFailed pc | lateAfterDial pc
  | unhijackable pc => exact safe.reject (by rw [pc]; rfl)
  | lateAfterHijack pc | lateBeforeUpgrade pc | lateAfterUpgrade pc | hijackFailed pc =>
      exact safe.leave (by rw [pc]; rfl)
  | checked pc | resolved pc | granted _ pc | inTimeAfterDial pc | inTimeAfterHijack pc
  | inTimeBeforeUpgrade pc | inTimeAfterUpgrade pc | upgraded pc =>
      rw [pc] at staged
      exact safe.next (by rw [pc]; rfl) rfl rfl rfl rfl staged
  | upgradeFailed pc => exact safe.next (by rw [pc]; rfl) rfl rfl rfl rfl trivial
  | relayed pc =>
      rw [pc] at staged
      exact safe.on rfl rfl rfl rfl (by rw [pc]; decide) staged (.inl (by rw [pc]; rfl))
        (.inr (.inl rfl))

/-- Before the client is attached the handler owes nothing, and the pump has not started. -/
theorem Safe.unstarted (safe : h.Safe) (pc : h.pc = .attach) :
    ¬ h.owes .handler = true ∧ ¬ (h.pump = .running ∨ h.pump = .closing) := by
  refine ⟨?_, ?_⟩
  · intro owes
    have settling := safe.own owes
    rw [pc] at settling
    cases settling
  · intro running
    have relaying := safe.pumping running
    rw [pc] at relaying
    cases relaying

/-- `setClient` has refused, and the handler closes the client connection itself. -/
theorem clientRefused_safe (safe : h.Safe) (pc : h.pc = .attach) :
    { h with client := h.client.close, failure := "shutdown" }.leave.Safe := by
  obtain ⟨own, idle⟩ := safe.unstarted pc
  have covered := safe.covered.mono (fun _ => trivial)
  have staged := safe.staged
  rw [pc] at staged
  obtain ⟨t, tunnel, loose⟩ := staged
  rw [tunnel] at covered
  refine ⟨?_, trivial, fun owes => absurd owes own, safe.pump, fun running => absurd running idle⟩
  show Covered _ h.tunnel _ _
  rw [tunnel]
  refine ⟨covered.1, covered.2.1, ?_, ?_⟩
  · intro _ attached
    exact Bool.noConfusion (loose.symm.trans attached)
  · intro _ live
    exact absurd live (Link.close_ne_live _)

/-- `setClient` has handed the client connection to the tunnel. -/
theorem clientSet_safe {t : Tunnel} (safe : h.Safe) (pc : h.pc = .attach)
    (tunnel : h.tunnel = some t) (opened : ¬ t.closed = true) :
    { h with tunnel := some { t with attached := true }, pc := .deadlineAfterHijack }.Safe := by
  obtain ⟨own, idle⟩ := safe.unstarted pc
  have covered := safe.covered.mono (fun _ => trivial)
  rw [tunnel] at covered
  have same : ∀ who, Handler.owes { h with tunnel := some { t with attached := true } } who =
      h.owes who := by
    intro who
    rw [Handler.owes, Handler.owes, tunnel]
    rfl
  refine ⟨?_, Option.some_ne_none _, ?_, ?_, fun running => absurd running idle⟩
  · exact (covered.setClient (if_neg opened)).mono False.elim
  · intro owes
    exact absurd ((same .handler).symm.trans owes) own
  · intro owes
    exact safe.pump ((same .pump).symm.trans owes)

/-- The handler's own `tunnel.close`. -/
theorem closeTunnel_safe {pc : Pc} (safe : h.Safe) (notAttach : h.pc ≠ .attach)
    (staged : pc.Stages (h.closeTunnel .handler).tunnel) (settling : pc.settling = true)
    (pumping : h.pc.relaying = false ∨ pc.relaying = true) :
    { h.closeTunnel .handler with pc := pc }.Safe where
  covered := (safe.covered.close .handler).mono fun attach => absurd attach notAttach
  staged := staged
  own _ := settling
  pump owes := by
    rcases owes_close owes with before | new
    · exact safe.pump before
    · cases new
  pumping running := by
    rcases pumping with elsewhere | there
    · exact absurd (elsewhere.symm.trans (safe.pumping running)) Bool.false_ne_true
    · exact there

/-- The deferred close of a tunnel that exists. -/
theorem deferClose_safe (safe : h.Safe) (pc : h.pc = .deferClose) :
    { h.closeTunnel .handler with pc := .deferPrincipal }.Safe := by
  have plain : h.pc.plain = true := by rw [pc]; rfl
  obtain ⟨notAttach, -, pumping⟩ := Pc.of_plain plain
  refine closeTunnel_safe safe notAttach ?_ rfl (.inl pumping)
  intro x closed
  obtain ⟨t, _, rfl⟩ := Option.map_eq_some_iff.1 closed
  exact t.close_closed .handler

/-- Without a tunnel the deferred function closes what there is. -/
theorem noTunnel_safe (safe : h.Safe) (pc : h.pc = .deferClose) (tunnel : h.tunnel = none) :
    { h with client := h.client.close, upstream := h.upstream.close, pc := .deferPrincipal }.Safe := by
  have plain : h.pc.plain = true := by rw [pc]; rfl
  obtain ⟨-, -, pumping⟩ := Pc.of_plain plain
  have covered := safe.covered
  rw [tunnel] at covered
  refine ⟨?_, ?_, fun _ => rfl, ?_, ?_⟩
  · show Covered _ h.tunnel _ _
    rw [tunnel]
    exact ⟨congrArg Link.close covered.1, Link.close_ne_live _⟩
  · intro x present
    exact absurd (tunnel.symm.trans present) (Option.some_ne_none x).symm
  · intro owes
    exact absurd ((owes_none (h := h) tunnel).symm.trans owes) Bool.false_ne_true
  · intro running
    exact absurd (pumping.symm.trans (safe.pumping running)) Bool.false_ne_true

/-- The pump and the ticker start with nothing owed. -/
theorem established_safe (safe : h.Safe) (pc : h.pc = .establish) :
    { h with
      flags := { h.flags with gauge := true }
      pump := .running
      ticker := .running
      pc := .relay }.Safe := by
  have staged := safe.staged
  rw [pc] at staged
  refine ⟨?_, staged, ?_, ?_, fun _ => rfl⟩
  · exact safe.covered.mono fun attach => by rw [pc] at attach; cases attach
  · intro owes
    have settling := safe.own owes
    rw [pc] at settling
    cases settling
  · intro owes
    have closing := safe.pumping (.inr (safe.pump owes))
    rw [pc] at closing
    cases closing

theorem proceed_safe (safe : h.Safe) (stepped : h.proceed cfg i g = some (g', h')) : h'.Safe := by
  have staged := safe.staged
  cases proceed_cases stepped with
  | clientRefused pc => exact clientRefused_safe safe pc
  | clientSet pc tunnel opened => exact clientSet_safe safe pc tunnel opened
  | deferClose pc => exact deferClose_safe safe pc
  | noTunnel pc tunnel => exact noTunnel_safe safe pc tunnel
  | established pc => exact established_safe safe pc
  | refused pc =>
      rw [pc] at staged
      refine safe.next (by rw [pc]; rfl) rfl rfl rfl rfl ?_
      intro x present
      exact absurd (staged.symm.trans present) (Option.some_ne_none x).symm
  | slotRefused pc | drainedBeforeAdmission pc | drainedAfterAdmission pc | principalRefused pc
  | tunnelRefused pc | drainedAfterDial pc => exact safe.reject (by rw [pc]; rfl)
  | completionRefused pc => exact safe.next (by rw [pc]; rfl) rfl rfl rfl rfl trivial
  | handshakeRefused pc | handshakeBegun pc | slotTaken pc | beforeAdmission pc | afterAdmission pc
  | principalReserved pc | tunnelRegistered pc | afterDial pc | handshakeCompleted pc | armed pc
  | opened pc | deferDone pc | deferGauge pc | noGauge pc | deferClosed pc | deferTimer pc
  | deferFailure pc | noFailure pc | deferSlot pc | noTakenSlot pc | deferUnregister pc
  | noRegistration pc | deferFinish pc | noHandshake pc =>
      rw [pc] at staged
      exact safe.next (by rw [pc]; rfl) rfl rfl rfl rfl staged
  | closed pc =>
      rw [pc] at staged
      refine closeTunnel_safe safe (by rw [pc]; decide) ?_ rfl (.inr rfl)
      exact fun gone => staged (Option.map_eq_none_iff.1 gone)
  | finished pc settled finished =>
      exact safe.on rfl rfl rfl rfl (by rw [pc]; decide) trivial (.inr settled)
        (.inr (.inr finished))
  | deferPrincipal pc settled | noReservation pc settled =>
      rw [pc] at staged
      exact safe.on rfl rfl rfl rfl (by rw [pc]; decide) staged (.inr settled)
        (.inl (by rw [pc]; rfl))

/-- **Every step keeps a handler's connections owned.** -/
theorem step_safe {a : Act} (safe : h.Safe) (stepped : h.step cfg i g a = some (g', h')) :
    h'.Safe := by
  have staged := safe.staged
  cases step_cases stepped with
  | tunnel pc =>
      rw [pc] at staged
      exact safe.next (by rw [pc]; rfl) rfl rfl rfl rfl staged
  | elsewhere pc =>
      rw [pc] at staged
      refine safe.next (by rw [pc]; rfl) rfl rfl rfl rfl ?_
      intro x present
      exact absurd (staged.symm.trans present) (Option.some_ne_none x).symm
  | proceeds ran => exact proceed_safe safe ran
  | answers ran => exact answered_safe safe ran
  | others ran => exact others_safe safe ran

end Handler

end GrpcBridge.Gateway
