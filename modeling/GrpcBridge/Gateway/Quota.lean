/-
# Gateway.Quota -- what the answer 429 tells

`acquirePrincipal` refuses a call when its subject has no reservation left, and also when
the gateway drains; `ServeHTTP` cannot tell the two apart and answers 429 to both.  The
flag was read just before, with the lock released in between, so it takes a drain that
begins between the two reads.

`Watch` remembers what the critical section of each quota check saw.  The answer is
truthful exactly when the check did not see the drain (`truthful_iff_of_reaches`).
-/
import GrpcBridge.Gateway.Accounting

namespace GrpcBridge.Gateway

set_option autoImplicit false
set_option linter.dupNamespace false

open GrpcBridge.Theory

/-! ## Quota checks -/

/-- The gateway as the critical section of `acquirePrincipal` saw it. -/
structure QuotaCheck where
  draining : Bool
  reserved : Nat
deriving DecidableEq, Repr

/-- `acquirePrincipal` returns false. -/
def QuotaCheck.refuses (cfg : Config) (c : QuotaCheck) : Prop :=
  c.draining = true ∨ c.reserved ≥ cfg.maxPerPrincipal

structure Watch (n : Nat) where
  state : State n := {}
  checks : Fin n → Option QuotaCheck := fun _ => none

namespace Watch

variable {n : Nat}

def note (w : Watch n) : Event n → Fin n → Option QuotaCheck
  | .handler i .proceed =>
      if (w.state.handlers i).pc = .principal then
        Function.update w.checks i (some ⟨w.state.gateway.draining,
          w.state.gateway.reserved (w.state.handlers i).principal⟩)
      else w.checks
  | _ => w.checks

def step (cfg : Config) (w : Watch n) (e : Event n) : Option (Watch n) :=
  (w.state.step cfg e).map fun t => ⟨t, w.note e⟩

/-- Every interleaving, with what the quota checks saw. -/
def machine (cfg : Config) (n : Nat) : Machine (Watch n) (Event n) where
  init := {}
  step := step cfg

/-- A call that is answered 429 had no reservation left, and one that is refused because
the gateway drains is answered as at the other checks of the flag. -/
def Truthful (cfg : Config) (w : Watch n) (i : Fin n) : Prop :=
  (∀ text, (w.state.handlers i).answer = some (429, text) →
    ∃ c, w.checks i = some c ∧ c.reserved ≥ cfg.maxPerPrincipal) ∧
  (∀ c, w.checks i = some c → c.draining = true →
    (w.state.handlers i).answer = some (shuttingDown.status, shuttingDown.message) ∧
      (w.state.handlers i).failure = shuttingDown.reason)

/-- The quota check of this call came after the drain had begun. -/
def Drained (w : Watch n) (i : Fin n) : Prop :=
  ∃ c, w.checks i = some c ∧ c.draining = true

end Watch

/-! ## Who answers 429 -/

namespace Handler

variable {n : Nat} {cfg : Config} {i : Fin n} {g g' : Gateway n} {h h' : Handler}

/-- The deferred functions, which answer nothing. -/
def unwinding : Pc → Bool
  | .deferDone | .deferGauge | .deferClosed | .deferTimer | .deferFailure | .deferClose
  | .deferPrincipal | .deferSlot | .deferUnregister | .deferFinish | .returned => true
  | _ => false

/-- What a statement other than the quota check does to the answer. -/
structure Replies (h h' : Handler) : Prop where
  kept : unwinding h.pc = true →
    unwinding h'.pc = true ∧ h'.answer = h.answer ∧ h'.failure = h.failure
  other : h'.answer = h.answer ∨ ∀ text, h'.answer ≠ some (429, text)

/-- A statement before the deferred functions that answers nothing. -/
theorem replies_same {pc : Pc} (now : h.pc = pc) (before : unwinding pc = false)
    (answer : h'.answer = h.answer) : Replies h h' := by
  refine ⟨?_, .inl answer⟩
  intro late
  rw [now, before] at late
  cases late

theorem replies_with {pc : Pc} {status : Nat} {message : String} (now : h.pc = pc)
    (before : unwinding pc = false) (answer : h'.answer = some (status, message))
    (other : status ≠ 429) : Replies h h' := by
  refine ⟨?_, .inr ?_⟩
  · intro late
    rw [now, before] at late
    cases late
  · intro text same
    rw [answer] at same
    cases same
    exact other rfl

/-- A deferred function. -/
theorem replies_defer (late : unwinding h'.pc = true) (answer : h'.answer = h.answer)
    (failure : h'.failure = h.failure) : Replies h h' :=
  ⟨fun _ => ⟨late, answer, failure⟩, .inl answer⟩

theorem proceed_replies (elsewhere : h.pc ≠ .principal)
    (stepped : h.proceed cfg i g = some (g', h')) : Replies h h' := by
  cases proceed_cases stepped with
  | principalRefused pc | principalReserved pc => exact absurd pc elsewhere
  | refused pc | slotRefused pc | drainedBeforeAdmission pc | drainedAfterAdmission pc
  | tunnelRefused pc | drainedAfterDial pc => exact replies_with pc rfl rfl (by decide)
  | handshakeRefused pc | handshakeBegun pc | slotTaken pc | beforeAdmission pc | afterAdmission pc
  | tunnelRegistered pc | afterDial pc | clientRefused pc | clientSet pc | completionRefused pc
  | handshakeCompleted pc | armed pc | opened pc | established pc | closed pc | finished pc =>
      exact replies_same pc rfl rfl
  | _ => exact replies_defer rfl rfl rfl

theorem answered_replies {a : Act} (stepped : h.answered a = some h') : Replies h h' := by
  cases answered_cases stepped with
  | checkFailed bad pc => exact replies_with pc rfl rfl (by cases bad <;> decide)
  | unresolved bad pc => exact replies_with pc rfl rfl (by cases bad <;> decide)
  | denied denied pc => exact replies_with pc rfl rfl (by cases denied <;> decide)
  | dialFailed pc | dialedNotH2 pc | lateAfterDial pc | unhijackable pc | upgradeFailed pc
  | upgraded pc => exact replies_with pc rfl rfl (by decide)
  | checked pc | resolved pc | granted _ pc | dialed pc | inTimeAfterDial pc | lateAfterHijack pc
  | inTimeAfterHijack pc | lateBeforeUpgrade pc | inTimeBeforeUpgrade pc | lateAfterUpgrade pc
  | inTimeAfterUpgrade pc | hijackFailed pc | hijacked pc | relayed pc =>
      exact replies_same pc rfl rfl

theorem others_replies {a : Act} (stepped : h.others a = some h') : Replies h h' := by
  obtain ⟨pc, -, -, answer, -⟩ := others_frame stepped
  refine ⟨?_, .inl answer⟩
  intro late
  rw [pc]
  exact ⟨late, answer, others_failure stepped⟩

/-- **One step other than the quota check.** -/
theorem step_replies {a : Act} (elsewhere : ¬ (a = .proceed ∧ h.pc = .principal))
    (stepped : h.step cfg i g a = some (g', h')) : Replies h h' := by
  cases step_cases stepped with
  | tunnel pc => exact replies_same pc rfl rfl
  | elsewhere pc => exact replies_with pc rfl rfl (by decide)
  | proceeds ran => exact proceed_replies (fun pc => elsewhere ⟨rfl, pc⟩) ran
  | answers ran => exact answered_replies ran
  | others ran => exact others_replies ran

/-- The quota check: refused for either reason, it answers 429; else nothing. -/
theorem quota_step (pc : h.pc = .principal) (stepped : h.step cfg i g .proceed = some (g', h')) :
    ((⟨g.draining, g.reserved h.principal⟩ : QuotaCheck).refuses cfg ∧ h' = h.reject noPrincipal) ∨
      (¬ (⟨g.draining, g.reserved h.principal⟩ : QuotaCheck).refuses cfg ∧ h'.answer = h.answer) := by
  simp only [step, proceed, pc, Gateway.acquirePrincipal] at stepped
  by_cases refused : g.draining = true ∨ g.reserved h.principal ≥ cfg.maxPerPrincipal
  · rw [if_pos refused] at stepped
    cases stepped
    exact .inl ⟨refused, rfl⟩
  · rw [if_neg refused] at stepped
    cases stepped
    exact .inr ⟨refused, rfl⟩

end Handler

/-! ## Runs -/

/-- What the answer of a call says about its quota check. -/
structure Answers (cfg : Config) (h : Handler) (check : Option QuotaCheck) : Prop where
  refused : ∀ c, check = some c → c.refuses cfg → Handler.unwinding h.pc = true ∧
    h.answer = some (noPrincipal.status, noPrincipal.message) ∧ h.failure = noPrincipal.reason
  only : ∀ text, h.answer = some (429, text) → ∃ c, check = some c ∧ c.refuses cfg

namespace Watch

variable {n : Nat} {cfg : Config} {w w' : Watch n}

theorem answers_quota {i : Fin n} {g' : Gateway n} {h' : Handler}
    (answers : Answers cfg (w.state.handlers i) (w.checks i))
    (pc : (w.state.handlers i).pc = .principal)
    (stepped : (w.state.handlers i).step cfg i w.state.gateway .proceed = some (g', h')) :
    Answers cfg h' (w.note (.handler i .proceed) i) := by
  simp only [note, if_pos pc, Function.update_self]
  obtain ⟨refuses, rfl⟩ | ⟨grants, answer⟩ := Handler.quota_step pc stepped
  · exact ⟨fun c _ _ => ⟨rfl, rfl, rfl⟩, fun text _ => ⟨_, rfl, refuses⟩⟩
  · refine ⟨?_, ?_⟩
    · intro c same refuses
      cases same
      exact absurd refuses grants
    · -- an earlier check cannot have refused: the call would be unwinding
      intro text sent
      rw [answer] at sent
      obtain ⟨c, same, refuses⟩ := answers.only text sent
      obtain ⟨late, -, -⟩ := answers.refused c same refuses
      rw [pc] at late
      cases late

theorem answers_replies {h h' : Handler} {check : Option QuotaCheck} (answers : Answers cfg h check)
    (replies : Handler.Replies h h') : Answers cfg h' check := by
  refine ⟨?_, ?_⟩
  · intro c same refuses
    obtain ⟨late, answer, failure⟩ := answers.refused c same refuses
    obtain ⟨late', answer', failure'⟩ := replies.kept late
    exact ⟨late', answer'.trans answer, failure'.trans failure⟩
  · intro text sent
    obtain kept | other := replies.other
    · exact answers.only text (kept.symm.trans sent)
    · exact absurd sent (other text)

theorem answers_step {e : Event n} (answers : ∀ i, Answers cfg (w.state.handlers i) (w.checks i))
    (stepped : w.step cfg e = some w') : ∀ i, Answers cfg (w'.state.handlers i) (w'.checks i) := by
  obtain ⟨t, moved, rfl⟩ := Option.map_eq_some_iff.1 stepped
  cases e with
  | handler i a =>
      obtain ⟨⟨g', h'⟩, act, rfl⟩ := Option.map_eq_some_iff.1 moved
      intro j
      by_cases quota : a = .proceed ∧ (w.state.handlers i).pc = .principal
      · obtain ⟨rfl, pc⟩ := quota
        by_cases own : j = i
        · subst own
          simp only [Function.update_self]
          exact answers_quota (answers j) pc act
        · simp only [note, if_pos pc, Function.update_of_ne own]
          exact answers j
      · have unchecked : w.note (.handler i a) = w.checks := by
          cases a with
          | proceed => exact if_neg fun pc => quota ⟨rfl, pc⟩
          | _ => rfl
        simp only [unchecked]
        by_cases own : j = i
        · subst own
          simp only [Function.update_self]
          exact answers_replies (answers j) (Handler.step_replies quota act)
        · simp only [Function.update_of_ne own]
          exact answers j
  | beginDrain =>
      cases moved
      exact answers
  | force =>
      cases moved
      intro i
      dsimp only
      split
      · exact answers_replies (answers i) ⟨fun late => ⟨late, rfl, rfl⟩, .inl rfl⟩
      · exact answers i
  | count k =>
      obtain ⟨_, _, rfl⟩ := State.step_count moved
      exact answers
  | wait | look k | wake k | cancel k =>
      obtain ⟨_, rfl⟩ := State.step_watches rfl moved
      exact answers

theorem answers_of_reaches (reached : (machine cfg n).Reaches Machine.always w) (i : Fin n) :
    Answers cfg (w.state.handlers i) (w.checks i) := by
  refine reached.invariant (fun w => ∀ i, Answers cfg (w.state.handlers i) (w.checks i))
    (fun _ _ _ answers _ stepped => answers_step answers stepped) ?_ i
  intro i
  refine ⟨?_, ?_⟩
  · intro c same
    cases same
  · intro text sent
    cases sent

/-- **The answer is truthful exactly when the check did not see the drain.**  In every state
that any interleaving reaches, and for every call: if its quota check was made before the
drain began, or has not been made, a 429 means that the subject held every reservation; if
it was made during the drain, the call is refused and its answer blames the quota. -/
theorem truthful_iff_of_reaches (reached : (machine cfg n).Reaches Machine.always w) (i : Fin n) :
    w.Truthful cfg i ↔ ¬ w.Drained i := by
  have answers := answers_of_reaches reached i
  constructor
  · rintro ⟨-, shutdown⟩ ⟨c, same, draining⟩
    obtain ⟨-, answer, -⟩ := answers.refused c same (.inl draining)
    have said := (shutdown c same draining).1
    rw [answer] at said
    exact absurd said (by decide)
  · intro before
    refine ⟨?_, ?_⟩
    · intro text sent
      obtain ⟨c, same, refuses⟩ := answers.only text sent
      obtain draining | full := refuses
      · exact absurd ⟨c, same, draining⟩ before
      · exact ⟨c, same, full⟩
    · intro c same draining
      exact absurd ⟨c, same, draining⟩ before

/-- A call of alice's up to its quota check. -/
def toQuota (i : Fin n) : List (Event n) :=
  [.handler i (.route true), .handler i .proceed, .handler i (.checks none), .handler i .proceed,
    .handler i (.destination none), .handler i .proceed, .handler i (.admission (.ok "alice")),
    .handler i .proceed]

/-- The drain begins between the two reads of the flag. -/
def lateDrain : List (Event 1) :=
  toQuota (Fin.last 0) ++ [.beginDrain, .handler (Fin.last 0) .proceed]

/-- A second call of a subject that may have one. -/
def crowded : List (Event 2) :=
  toQuota (Fin.last 1) ++ [.handler (Fin.last 1) .proceed] ++ toQuota (Fin.last 1).rev ++
    [.handler (Fin.last 1).rev .proceed]

/-- The answer to a call and what its check saw. -/
def answered (cfg : Config) (i : Fin n) (events : List (Event n)) :
    Option (Option (Nat × String) × Option QuotaCheck) :=
  ((machine cfg n).run Machine.always {} events).map fun w =>
    ((w.state.handlers i).answer, w.checks i)

theorem lateDrain_answered : answered ⟨1, 1⟩ (Fin.last 0) lateDrain =
    some (some (429, "principal connection capacity reached"), some ⟨true, 0⟩) := by
  decide +kernel

theorem crowded_answered : answered ⟨2, 1⟩ (Fin.last 1).rev crowded =
    some (some (429, "principal connection capacity reached"), some ⟨false, 1⟩) := by
  decide +kernel

/-- **A call that the drain refuses is told that its quota is exhausted.** -/
theorem lateDrain_untruthful : ∃ w : Watch 1, (machine ⟨1, 1⟩ 1).Reaches Machine.always w ∧
    (w.state.handlers (Fin.last 0)).answer = some (429, "principal connection capacity reached") ∧
    w.checks (Fin.last 0) = some ⟨true, 0⟩ ∧ ¬ w.Truthful ⟨1, 1⟩ (Fin.last 0) := by
  obtain ⟨w, ran, seen⟩ := Option.map_eq_some_iff.1 lateDrain_answered
  obtain ⟨answer, check⟩ := Prod.mk.inj seen
  refine ⟨w, Machine.steps_of_run lateDrain ran, answer, check, ?_⟩
  rintro ⟨quota, -⟩
  obtain ⟨c, same, full⟩ := quota _ answer
  cases check.symm.trans same
  exact absurd full (by decide)

theorem truthful_crowded : ∃ w : Watch 2, (machine ⟨2, 1⟩ 2).Reaches Machine.always w ∧
    (w.state.handlers (Fin.last 1).rev).answer =
      some (429, "principal connection capacity reached") ∧
    w.Truthful ⟨2, 1⟩ (Fin.last 1).rev := by
  obtain ⟨w, ran, seen⟩ := Option.map_eq_some_iff.1 crowded_answered
  obtain ⟨answer, check⟩ := Prod.mk.inj seen
  have reached := Machine.steps_of_run crowded ran
  refine ⟨w, reached, answer, (truthful_iff_of_reaches reached _).2 ?_⟩
  rintro ⟨c, same, draining⟩
  cases check.symm.trans same
  cases draining

end Watch

end GrpcBridge.Gateway
