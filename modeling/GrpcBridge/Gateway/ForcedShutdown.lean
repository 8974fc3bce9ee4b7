/-
# Gateway.ForcedShutdown -- a forced shutdown leaves nothing open

`Marks` is what one step of a handler, or of a goroutine that knows its tunnel, can do to
the marks on the tunnel: `closed` stays set, `forced` is not touched, and a tunnel that
`forceCloseActive` has taken is closed before it is given back.  A handler leaves
`g.active` only with its tunnel closed.  So when `forceCloseActive` has returned, every
tunnel that was ever registered is closed: it was in the set and was taken, or it had
left the set.

The connections of a closed tunnel are closed by the goroutine that closed it first, after
it has released `connMu`.  `forceCloseActive` does not wait for it: when the lifetime timer
has marked a tunnel, the shutdown can be over before the timer's goroutine has closed
anything (`expiredShutdown`).
-/
import GrpcBridge.Gateway.Drain
import GrpcBridge.Gateway.Shutdown
import Mathlib.Algebra.GroupWithZero.Nat

namespace GrpcBridge.Gateway

set_option autoImplicit false
set_option linter.dupNamespace false

open GrpcBridge.Theory

/-! ## Marks on a tunnel -/

/-- What can happen to a tunnel, other than that `forceCloseActive` takes it. -/
structure Tunnel.Onward (t t' : Tunnel) : Prop where
  closed : t.closed = true → t'.closed = true
  forced : t'.forced = t.forced
  taken : t'.taken = true → t.taken = true
  given : t.taken = true → t'.taken = true ∨ t'.closed = true
  forcer : t'.owed.any (·.who = .forcer) = true → t.owed.any (·.who = .forcer) = true ∨ t.taken = true

theorem Tunnel.onward_refl (t : Tunnel) : t.Onward t :=
  ⟨id, rfl, id, .inl, .inl⟩

theorem Tunnel.onward_close (t : Tunnel) {who : Closer} (other : who ≠ .forcer) :
    t.Onward (t.close who) := by
  unfold Tunnel.close
  split
  · exact t.onward_refl
  · refine ⟨fun _ => rfl, rfl, id, .inl, ?_⟩
    intro owes
    exact absurd (of_decide_eq_true owes) other

namespace Handler

variable {n : Nat} {cfg : Config} {i : Fin n} {g g' : Gateway n} {h h' : Handler}

/-- What a step does to the marks and to the registration. -/
structure Marks (g : Gateway n) (h : Handler) (g' : Gateway n) (h' : Handler) : Prop where
  counted : g'.metrics.forcedClosures = g.metrics.forcedClosures
  fresh : h.tunnel = none → h'.tunnel = none ∨ h'.tunnel = some {}
  tunnel : ∀ t, h.tunnel = some t → ∃ t', h'.tunnel = some t' ∧ t.Onward t'
  registers : h'.flags.activeRegistered = true → h.flags.activeRegistered = true ∨
    (g.draining = false ∧ h.tunnel ≠ none)
  unregisters : h.flags.activeRegistered = true → h'.flags.activeRegistered = true ∨
    ∀ t, h.tunnel = some t → t.closed = true

/-- A statement that leaves both alone. -/
theorem marks_same (counted : g'.metrics.forcedClosures = g.metrics.forcedClosures)
    (tunnel : h'.tunnel = h.tunnel)
    (registered : h'.flags.activeRegistered = h.flags.activeRegistered) : Marks g h g' h' where
  counted := counted
  fresh none := .inl (tunnel.trans none)
  tunnel t present := ⟨t, tunnel.trans present, t.onward_refl⟩
  registers now := .inl (registered.symm.trans now)
  unregisters was := .inl (registered.trans was)

/-- Somebody other than `forceCloseActive` calls `tunnel.close`. -/
theorem marks_close (who : Closer) (other : who ≠ .forcer)
    (tunnel : h'.tunnel = (h.closeTunnel who).tunnel)
    (registered : h'.flags.activeRegistered = h.flags.activeRegistered) : Marks g h g h' where
  counted := rfl
  fresh none := .inl (by rw [tunnel, closeTunnel, none]; rfl)
  tunnel t present := by
    refine ⟨t.close who, ?_, t.onward_close other⟩
    rw [tunnel, closeTunnel, present]
    rfl
  registers now := .inl (registered.symm.trans now)
  unregisters was := .inl (registered.trans was)

theorem fail_counted (m : Metrics) (reason : String) :
    (m.fail reason).forcedClosures = m.forcedClosures := by
  unfold Metrics.fail
  split <;> rfl

theorem proceed_marks (safe : h.Safe) (stepped : h.proceed cfg i g = some (g', h')) :
    Marks g h g' h' := by
  have staged := safe.staged
  cases proceed_cases stepped with
  | refused | deferFailure => exact marks_same (fail_counted _ _) rfl rfl
  | tunnelRegistered pc accepting =>
      rw [pc] at staged
      obtain ⟨t, present, -⟩ := staged
      refine ⟨rfl, .inl, fun t present => ⟨t, present, t.onward_refl⟩, ?_, fun _ => .inl rfl⟩
      intro _
      refine .inr ⟨accepting, ?_⟩
      rw [present]
      exact Option.some_ne_none t
  | clientSet _ present =>
      refine ⟨rfl, ?_, ?_, .inl, .inl⟩
      · intro none
        rw [present] at none
        cases none
      · intro t' present'
        cases present.symm.trans present'
        exact ⟨_, rfl, id, rfl, id, .inl, .inl⟩
  | closed | deferClose => exact marks_close .handler (by decide) rfl rfl
  | deferPrincipal =>
      exact marks_same (congrArg Metrics.forcedClosures (releasePrincipal_metrics _ _)) rfl rfl
  | deferUnregister pc =>
      -- the deferred close of the tunnel came before
      rw [pc] at staged
      exact ⟨rfl, .inl, fun t present => ⟨t, present, t.onward_refl⟩, Bool.noConfusion,
        fun _ => .inr staged⟩
  | _ => exact marks_same rfl rfl rfl

theorem answered_marks {a : Act} (safe : h.Safe) (stepped : h.answered a = some h') :
    Marks g h g h' := by
  have staged := safe.staged
  cases answered_cases stepped with
  | dialed pc =>
      rw [pc] at staged
      have none : h.tunnel = none := staged
      refine ⟨rfl, fun _ => .inr rfl, ?_, .inl, .inl⟩
      intro t present
      rw [none] at present
      cases present
  | _ => exact marks_same rfl rfl rfl

theorem settle_marks (stepped : h.settle = some h') : Marks g h g h' := by
  simp only [settle] at stepped
  split at stepped
  · cases stepped
  · rename_i t present
    have only {t' : Tunnel} (onward : t.Onward t') :
        ∀ x, h.tunnel = some x → ∃ t'', some t' = some t'' ∧ x.Onward t'' := by
      intro x present'
      cases present.symm.trans present'
      exact ⟨t', rfl, onward⟩
    have absent : h.tunnel ≠ none := by
      rw [present]
      exact Option.some_ne_none t
    split at stepped
    · cases stepped
    · rename_i who owed
      cases stepped
      refine ⟨rfl, fun none => absurd none absent, only ?_, .inl, .inl⟩
      refine ⟨id, rfl, id, .inl, ?_⟩
      intro owes
      rw [owed]
      exact .inl owes
    · cases stepped
      refine ⟨rfl, fun none => absurd none absent, only ?_, .inl, .inl⟩
      exact ⟨id, rfl, id, .inl, Bool.noConfusion⟩

theorem others_marks {a : Act} (stepped : h.others a = some h') : Marks g h g h' := by
  cases a with
  | pumpCloses =>
      obtain ⟨-, rfl⟩ := of_when stepped
      exact marks_close .pump (by decide) rfl rfl
  | pumpReturns | tickerReturns =>
      obtain ⟨-, rfl⟩ := of_when stepped
      exact marks_same rfl rfl rfl
  | tickerCloses =>
      obtain ⟨-, rfl⟩ := of_when stepped
      exact marks_close .ticker (by decide) rfl rfl
  | timerFires =>
      obtain ⟨-, rfl⟩ := of_when stepped
      exact marks_close .timer (by decide) rfl rfl
  | forcerCloses =>
      simp only [others] at stepped
      split at stepped
      · rename_i t present
        obtain ⟨taken, rfl⟩ := of_when stepped
        refine ⟨rfl, ?_, ?_, .inl, .inl⟩
        · intro none
          rw [present] at none
          cases none
        · intro x present'
          cases present.symm.trans present'
          refine ⟨_, rfl, fun _ => Tunnel.close_closed _ _, ?_, ?_,
            fun _ => .inr (Tunnel.close_closed _ _), fun _ => .inr taken⟩
          · unfold Tunnel.close
            split <;> rfl
          · unfold Tunnel.close
            split <;> exact Bool.noConfusion
      · cases stepped
  | settle => exact settle_marks stepped
  | _ => cases stepped

/-- **One step of a handler, or of a goroutine that knows its tunnel.** -/
theorem step_marks {a : Act} (safe : h.Safe) (stepped : h.step cfg i g a = some (g', h')) :
    Marks g h g' h' := by
  cases step_cases stepped with
  | tunnel | elsewhere => exact marks_same rfl rfl rfl
  | proceeds ran => exact proceed_marks safe ran
  | answers ran => exact answered_marks safe ran
  | others ran => exact others_marks ran

/-- `forceCloseActive` has taken the tunnel, and counts it. -/
def forced (h : Handler) : Bool := h.tunnel.any (·.forced)

theorem Marks.forced (marks : Marks g h g' h') : h'.forced = h.forced := by
  cases present : h.tunnel with
  | none =>
      obtain absent | fresh := marks.fresh present
      · rw [Handler.forced, Handler.forced, present, absent]
      · rw [Handler.forced, Handler.forced, present, fresh]
        rfl
  | some t =>
      obtain ⟨t', present', onward⟩ := marks.tunnel t present
      rw [Handler.forced, Handler.forced, present, present']
      exact onward.forced

theorem take_forced (h : Handler) :
    (State.take h).forced = (h.forced || h.tunnel.any fun t => !t.forced) := by
  rw [Handler.forced, Handler.forced, State.take]
  cases h.tunnel with
  | none => rfl
  | some t => cases forced : t.forced <;> simp [forced]

end Handler

/-! ## forcedClosures -/

namespace State

variable {n : Nat} {cfg : Config} {s t : State n}

/-- `forcedClosures`, with what is still to be added to it, is the number of tunnels that have
been forced. -/
def Counts (s : State n) : Prop :=
  s.gateway.metrics.forcedClosures + s.uncounted.sum =
    (tally (fun h : Handler => h.forced = true) s.handlers).card

theorem force_counts (counts : s.Counts) (stepped : s.step cfg .force = some t) : t.Counts := by
  cases stepped
  have split : tally (fun h : Handler => h.forced = true)
      (fun i => if i ∈ s.gateway.active then take (s.handlers i) else s.handlers i) =
        tally (fun h : Handler => h.forced = true) s.handlers ∪
          s.gateway.active.filter fun i => (s.handlers i).tunnel.any fun t => !t.forced := by
    ext i
    rw [mem_tally, Finset.mem_union, mem_tally, Finset.mem_filter]
    split
    · rename_i registered
      rw [Handler.take_forced, Bool.or_eq_true, and_iff_right registered]
    · rename_i elsewhere
      exact ⟨.inl, fun either => either.resolve_right fun both => elsewhere both.1⟩
  have apart : Disjoint (tally (fun h : Handler => h.forced = true) s.handlers)
      (s.gateway.active.filter fun i => (s.handlers i).tunnel.any fun t => !t.forced) := by
    rw [Finset.disjoint_left]
    intro i before new
    rw [mem_tally, Handler.forced] at before
    have unforced := (Finset.mem_filter.1 new).2
    cases present : (s.handlers i).tunnel with
    | none =>
        rw [present] at before
        cases before
    | some t =>
        rw [present] at before unforced
        simp only [Option.any_some, Bool.not_eq_true'] at before unforced
        exact absurd (unforced.symm.trans before) Bool.false_ne_true
  show s.gateway.metrics.forcedClosures + (s.uncounted ++ [s.takes]).sum = _
  rw [split, Finset.card_union_of_disjoint apart, ← show _ = _ from counts, List.sum_append,
    List.sum_singleton, ← Nat.add_assoc]
  rfl

theorem count_counts {k : Nat} (counts : s.Counts) (stepped : s.step cfg (.count k) = some t) :
    t.Counts := by
  obtain ⟨_, found, rfl⟩ := step_count stepped
  obtain ⟨below, rfl⟩ := List.getElem?_eq_some_iff.1 found
  show s.gateway.metrics.forcedClosures + s.uncounted[k] + (s.uncounted.eraseIdx k).sum = _
  rw [Nat.add_assoc, List.add_sum_eraseIdx below fun _ _ => AddCommute.all _ _]
  exact counts

/-- **Each tunnel is counted once.** -/
theorem step_counts (e : Event n) (accounts : Accounts cfg s) (counts : s.Counts)
    (stepped : s.step cfg e = some t) : t.Counts := by
  cases e with
  | handler i a =>
      obtain ⟨⟨g, h⟩, ran, rfl⟩ := Option.map_eq_some_iff.1 stepped
      have marks := Handler.step_marks (accounts.safe i) ran
      show g.metrics.forcedClosures + s.uncounted.sum = _
      rw [marks.counted, tally_update_keep (by rw [marks.forced])]
      exact counts
  | beginDrain =>
      cases stepped
      show (s.gateway.beginDrain).metrics.forcedClosures + s.uncounted.sum = _
      have same : (s.gateway.beginDrain).metrics.forcedClosures =
          s.gateway.metrics.forcedClosures := by
        unfold Gateway.beginDrain
        split <;> rfl
      rw [same]
      exact counts
  | force => exact force_counts counts stepped
  | count k => exact count_counts counts stepped
  | wait | look k | wake k | cancel k =>
      obtain ⟨_, rfl⟩ := step_watches rfl stepped
      exact counts

/-- Whatever the shutdown does not do itself. -/
theorem serve_marks {m : Nat} {stage : Stage m} {e : Event n} (accounts : Accounts cfg s)
    (other : Process.own stage e = false) (stepped : s.step cfg e = some t) (j : Fin n) :
    Handler.Marks s.gateway (s.handlers j) t.gateway (t.handlers j) := by
  cases e with
  | handler i a =>
      obtain ⟨⟨g, h⟩, ran, rfl⟩ := Option.map_eq_some_iff.1 stepped
      have marks := Handler.step_marks (accounts.safe i) ran
      by_cases own : j = i
      · subst own
        dsimp only
        rw [Function.update_self]
        exact marks
      · dsimp only
        rw [Function.update_of_ne own]
        exact Handler.marks_same marks.counted rfl rfl
  | beginDrain | force | count => cases other
  | wait | look k | wake k | cancel k =>
      obtain ⟨_, rfl⟩ := step_watches rfl stepped
      exact Handler.marks_same rfl rfl rfl

theorem serve_uncounted {m : Nat} {stage : Stage m} {e : Event n}
    (other : Process.own stage e = false) (stepped : s.step cfg e = some t) :
    t.uncounted = s.uncounted := by
  cases e with
  | handler i a =>
      obtain ⟨_, _, rfl⟩ := Option.map_eq_some_iff.1 stepped
      rfl
  | beginDrain | force | count => cases other
  | wait | look k | wake k | cancel k =>
      obtain ⟨_, rfl⟩ := step_watches rfl stepped
      rfl

end State

/-! ## The tunnels -/

namespace Process

variable {n m : Nat} {cfg : Config} {conn : Fin n → Fin m} {p q : Process n m}

/-- What the shutdown knows of the tunnels at each stage. -/
structure Sweeps (cfg : Config) (stage : Stage m) (s : State n) : Prop where
  accounts : State.Accounts cfg s
  counts : s.Counts
  uncounted : s.uncounted.length = if stage = .counting then 1 else 0
  draining : stage ≠ .serving → s.gateway.draining = true
  rooted : ∀ i, (s.handlers i).flags.activeRegistered = true → (s.handlers i).tunnel ≠ none
  untaken : stage.swept = false → ∀ i t, (s.handlers i).tunnel = some t →
    t.forced = false ∧ t.taken = false
  swept : stage.swept = true → ∀ i t, (s.handlers i).tunnel = some t →
    (s.handlers i).flags.activeRegistered = true → t.closed = true ∨ t.taken = true
  past : stage.past = true → ∀ i t, (s.handlers i).tunnel = some t →
    t.taken = false ∧ t.owed.any (·.who = .forcer) = false

theorem Sweeps.serve {stage : Stage m} {s t : State n} {e : Event n} (sweeps : Sweeps cfg stage s)
    (other : own stage e = false) (stepped : s.step cfg e = some t) : Sweeps cfg stage t := by
  have marks := State.serve_marks sweeps.accounts other stepped
  have onward := State.step_onward e sweeps.accounts stepped
  -- a tunnel that is there now was there before, or is a new one
  have before {i : Fin n} {x : Tunnel} (present : (t.handlers i).tunnel = some x) :
      (∃ y, (s.handlers i).tunnel = some y ∧ y.Onward x) ∨
        ((s.handlers i).tunnel = none ∧ x = {}) := by
    cases was : (s.handlers i).tunnel with
    | none =>
        obtain absent | fresh := (marks i).fresh was
        · rw [present] at absent
          cases absent
        · rw [present] at fresh
          exact .inr ⟨rfl, Option.some.inj fresh⟩
    | some y =>
        obtain ⟨x', present', onward⟩ := (marks i).tunnel y was
        cases present.symm.trans present'
        exact .inl ⟨y, rfl, onward⟩
  refine ⟨State.step_accounts e sweeps.accounts stepped,
    State.step_counts e sweeps.accounts sweeps.counts stepped,
    (congrArg List.length (State.serve_uncounted other stepped)).trans sweeps.uncounted,
    fun late => onward.tracks.draining (sweeps.draining late), ?_, ?_, ?_, ?_⟩
  · intro i registered absent
    have rooted : (s.handlers i).tunnel ≠ none := by
      obtain earlier | ⟨-, present⟩ := (marks i).registers registered
      · exact sweeps.rooted i earlier
      · exact present
    obtain ⟨y, was⟩ := Option.ne_none_iff_exists'.1 rooted
    obtain ⟨x, present, -⟩ := (marks i).tunnel y was
    rw [present] at absent
    cases absent
  · intro early i x present
    obtain ⟨y, was, moved⟩ | ⟨-, rfl⟩ := before present
    · obtain ⟨unforced, untaken⟩ := sweeps.untaken early i y was
      refine ⟨moved.forced.trans unforced, ?_⟩
      apply Bool.eq_false_of_not_eq_true
      intro taken
      exact absurd (untaken.symm.trans (moved.taken taken)) Bool.false_ne_true
    · exact ⟨rfl, rfl⟩
  · intro late i x present registered
    have drains := sweeps.draining (by rintro rfl; cases late)
    have earlier : (s.handlers i).flags.activeRegistered = true := by
      obtain earlier | ⟨accepting, -⟩ := (marks i).registers registered
      · exact earlier
      · exact absurd (accepting.symm.trans drains) Bool.false_ne_true
    obtain ⟨y, was, moved⟩ | ⟨absent, -⟩ := before present
    · obtain closed | taken := sweeps.swept late i y was earlier
      · exact .inl (moved.closed closed)
      · exact (moved.given taken).symm
    · exact absurd absent (sweeps.rooted i earlier)
  · intro returned i x present
    obtain ⟨y, was, moved⟩ | ⟨-, rfl⟩ := before present
    · obtain ⟨untaken, settled⟩ := sweeps.past returned i y was
      constructor
      · apply Bool.eq_false_of_not_eq_true
        intro taken
        exact absurd (untaken.symm.trans (moved.taken taken)) Bool.false_ne_true
      · apply Bool.eq_false_of_not_eq_true
        intro owes
        obtain owed | taken := moved.forcer owes
        · exact absurd (settled.symm.trans owed) Bool.false_ne_true
        · exact absurd (untaken.symm.trans taken) Bool.false_ne_true
    · exact ⟨rfl, rfl⟩

theorem beginDrain_draining (g : Gateway n) : g.beginDrain.draining = true := by
  unfold Gateway.beginDrain
  split
  · assumption
  · rfl

/-- **`forceCloseActive` takes every tunnel that is registered.** -/
theorem Sweeps.force {s t : State n} (sweeps : Sweeps cfg (.draining : Stage m) s)
    (stepped : s.step cfg .force = some t) : Sweeps cfg (.counting : Stage m) t := by
  have accounts := State.step_accounts .force sweeps.accounts stepped
  have counts := State.step_counts .force sweeps.accounts sweeps.counts stepped
  cases stepped
  refine ⟨accounts, counts, ?_, fun _ => sweeps.draining (by rintro ⟨⟩), ?_, Bool.noConfusion, ?_,
    Bool.noConfusion⟩
  · show (s.uncounted ++ [s.takes]).length = 1
    rw [List.length_append, sweeps.uncounted]
    rfl
  · intro i
    dsimp only
    split
    · intro registered absent
      exact sweeps.rooted i registered (Option.map_eq_none_iff.1 absent)
    · exact sweeps.rooted i
  · intro _ i x
    dsimp only
    split
    · intro present _
      obtain ⟨y, was, rfl⟩ := Option.map_eq_some_iff.1 present
      right
      rw [if_neg (by rw [(sweeps.untaken rfl i y was).1]; exact Bool.false_ne_true)]
    · rename_i elsewhere
      intro present registered
      have inside : i ∈ s.gateway.active := by
        rw [sweeps.accounts.books.active]
        exact mem_having.2 registered
      exact absurd inside elsewhere

/-- `forceCloseActive` adds what it has taken. -/
theorem Sweeps.count {s t : State n} (sweeps : Sweeps cfg (.counting : Stage m) s)
    (stepped : s.step cfg (.count 0) = some t) : Sweeps cfg (.forcing : Stage m) t := by
  have accounts := State.step_accounts (.count 0) sweeps.accounts stepped
  have counts := State.step_counts (.count 0) sweeps.accounts sweeps.counts stepped
  obtain ⟨_, found, rfl⟩ := State.step_count stepped
  refine ⟨accounts, counts, ?_, fun _ => sweeps.draining (by rintro ⟨⟩), sweeps.rooted,
    Bool.noConfusion, fun _ => sweeps.swept rfl, Bool.noConfusion⟩
  show (s.uncounted.eraseIdx 0).length = 0
  rw [List.length_eraseIdx_of_lt (List.getElem?_eq_some_iff.1 found).1, sweeps.uncounted]
  rfl

theorem Sweeps.shutdown (sweeps : Sweeps cfg p.stage p.serve) (stepped : p.shutdown cfg = some q) :
    Sweeps cfg q.stage q.serve := by
  unfold Process.shutdown at stepped
  split at stepped
  · rename_i stage
    rw [stage] at sweeps
    obtain ⟨s, ran, rfl⟩ := Option.map_eq_some_iff.1 stepped
    have accounts := State.step_accounts .beginDrain sweeps.accounts ran
    have counts := State.step_counts .beginDrain sweeps.accounts sweeps.counts ran
    cases ran
    exact ⟨accounts, counts, sweeps.uncounted, fun _ => beginDrain_draining _, sweeps.rooted,
      fun _ => sweeps.untaken rfl, Bool.noConfusion, Bool.noConfusion⟩
  · rename_i stage
    rw [stage] at sweeps
    obtain ⟨s, ran, rfl⟩ := Option.map_eq_some_iff.1 stepped
    exact sweeps.force ran
  · rename_i stage
    rw [stage] at sweeps
    obtain ⟨s, ran, rfl⟩ := Option.map_eq_some_iff.1 stepped
    exact sweeps.count ran
  · rename_i stage
    rw [stage] at sweeps
    obtain ⟨returned, rfl⟩ := of_when stepped
    refine ⟨sweeps.accounts, sweeps.counts, sweeps.uncounted, fun _ => sweeps.draining (by rintro ⟨⟩),
      sweeps.rooted, Bool.noConfusion, fun _ => sweeps.swept rfl, ?_⟩
    intro _ i t present
    obtain ⟨settled, given⟩ := returned i
    rw [Handler.owes, present] at settled
    rw [present] at given
    exact ⟨by simpa using given, settled⟩
  · rename_i stage
    rw [stage] at sweeps
    cases stepped
    exact ⟨sweeps.accounts, sweeps.counts, sweeps.uncounted, fun _ => sweeps.draining (by rintro ⟨⟩),
      sweeps.rooted, Bool.noConfusion, fun _ => sweeps.swept rfl, fun _ => sweeps.past rfl⟩
  · cases stepped

end Process

/-! ## The server's connections -/

/-- The connections that `closeHTTPConnections` has still to close. -/
def Stage.rest {m : Nat} : Stage m → Finset (Fin m)
  | .closing rest => rest
  | _ => ∅

/-- `closeHTTPConnections` has set `httpClosing`. -/
def Stage.closes {m : Nat} : Stage m → Bool
  | .closing _ => true
  | _ => false

namespace Http

variable {m : Nat} {http : Http m} {stage : Stage m}

/-- What the server has reported is in the map, and is closed once `httpClosing` is set. -/
structure Tracks (stage : Stage m) (http : Http m) : Prop where
  flag : http.httpClosing = stage.closes
  known : http.httpClosing = false → ∀ c, (http.conns c).served = true → http.httpConns c ≠ none
  closing : http.httpClosing = true → ∀ c, (http.conns c).served = true →
    (http.conns c).link ≠ .live ∨ (http.conns c).closeNow = true ∨ c ∈ stage.rest

/-- A connection changes; the others do not. -/
theorem Tracks.update {stage' : Stage m} {c : Fin m} {conn : HttpConn}
    {httpConns : Fin m → Option ConnState} (tracks : Tracks stage http)
    (flag : stage'.closes = stage.closes)
    (rest : ∀ d, d ≠ c → d ∈ stage.rest → d ∈ stage'.rest)
    (others : ∀ d, d ≠ c → httpConns d = http.httpConns d)
    (known : http.httpClosing = false → conn.served = true → httpConns c ≠ none)
    (closing : http.httpClosing = true → conn.served = true →
      conn.link ≠ .live ∨ conn.closeNow = true ∨ c ∈ stage'.rest) :
    Tracks stage' { http with conns := Function.update http.conns c conn, httpConns } where
  flag := tracks.flag.trans flag.symm
  known unset d := by
    by_cases own : d = c
    · subst own
      dsimp only
      rw [Function.update_self]
      exact known unset
    · dsimp only
      rw [Function.update_of_ne own, others d own]
      exact tracks.known unset d
  closing set d := by
    by_cases own : d = c
    · subst own
      dsimp only
      rw [Function.update_self]
      exact closing set
    · dsimp only
      rw [Function.update_of_ne own]
      intro served
      exact (tracks.closing set d served).imp_right (Or.imp_right (rest d own))

theorem Tracks.httpConnState (tracks : Tracks stage http) (c : Fin m) (state : ConnState) :
    Tracks stage (http.httpConnState c state) := by
  unfold Http.httpConnState
  dsimp only
  split
  · split
    · rename_i closing
      apply tracks.update rfl (fun _ _ => id) (fun _ _ => rfl)
      · intro unset
        rw [closing] at unset
        cases unset
      · exact fun _ _ => .inr (.inl rfl)
    · rename_i accepting
      apply tracks.update rfl (fun _ _ => id) (fun d own => Function.update_of_ne own _ _)
      · intro _ _
        rw [Function.update_self]
        exact Option.some_ne_none state
      · exact fun closing => absurd closing accepting
  · rename_i unserved
    apply tracks.update rfl (fun _ _ => id) (fun d own => Function.update_of_ne own _ _)
    · exact fun _ served => absurd served unserved
    · exact fun _ served => absurd served unserved

theorem Tracks.close {rest : Finset (Fin m)} (tracks : Tracks (.closing rest) http) (c : Fin m) :
    Tracks (.closing (rest.erase c)) (http.close c) := by
  refine tracks.update ?_ ?_ ?_ ?_ ?_
  · rfl
  · exact fun d other inside => Finset.mem_erase.2 ⟨other, inside⟩
  · exact fun _ _ => rfl
  · exact fun unset served => tracks.known unset c served
  · exact fun _ _ => .inl (Link.close_ne_live _)

theorem Tracks.closeReported (tracks : Tracks stage http) (c : Fin m) :
    Tracks stage (http.closeReported c) := by
  apply tracks.update rfl (fun _ _ => id) (fun _ _ => rfl)
  · exact fun unset served => tracks.known unset c served
  · exact fun _ _ => .inl (Link.close_ne_live _)

/-- **`closeHTTPConnections(false)` takes every connection that was reported.** -/
theorem Tracks.closeHTTPConnections (tracks : Tracks stage http) (early : stage.closes = false) :
    Tracks (.closing (http.closeHTTPConnections false).2) (http.closeHTTPConnections false).1 where
  flag := Bool.or_true _
  known unset := by
    rw [Http.closeHTTPConnections] at unset
    exact absurd unset (by rw [Bool.not_false, Bool.or_true]; exact Bool.noConfusion)
  closing _ c served := by
    refine .inr (.inr ?_)
    obtain ⟨state, inside⟩ := Option.ne_none_iff_exists'.1
      (tracks.known (tracks.flag.trans early) c served)
    refine Finset.mem_filter.2 ⟨Finset.mem_univ c, ?_⟩
    rw [inside]
    rfl

end Http

namespace Process

variable {n m : Nat} {cfg : Config} {conn : Fin n → Fin m} {p q : Process n m}

theorem hijacks_tracks {stage : Stage m} {http : Http m} (tracks : http.Tracks stage) (e : Event n) :
    (hijacks conn http e).Tracks stage := by
  unfold hijacks
  split
  · exact tracks.httpConnState _ _
  · exact tracks

/-! ## Every state -/

structure Shuts (cfg : Config) (p : Process n m) : Prop where
  sweeps : Sweeps cfg p.stage p.serve
  tracks : p.http.Tracks p.stage

theorem shutdown_tracks (tracks : p.http.Tracks p.stage) (stepped : p.shutdown cfg = some q) :
    q.http.Tracks q.stage := by
  unfold Process.shutdown at stepped
  split at stepped
  · rename_i stage
    rw [stage] at tracks
    obtain ⟨s, -, rfl⟩ := Option.map_eq_some_iff.1 stepped
    exact ⟨tracks.flag, tracks.known, tracks.closing⟩
  · rename_i stage
    rw [stage] at tracks
    obtain ⟨s, -, rfl⟩ := Option.map_eq_some_iff.1 stepped
    exact ⟨tracks.flag, tracks.known, tracks.closing⟩
  · rename_i stage
    rw [stage] at tracks
    obtain ⟨s, -, rfl⟩ := Option.map_eq_some_iff.1 stepped
    exact ⟨tracks.flag, tracks.known, tracks.closing⟩
  · rename_i stage
    rw [stage] at tracks
    obtain ⟨-, rfl⟩ := of_when stepped
    exact ⟨tracks.flag, tracks.known, tracks.closing⟩
  · rename_i stage
    cases stepped
    exact tracks.closeHTTPConnections (by rw [stage]; rfl)
  · cases stepped

theorem step_shuts {e : ProcessEvent n m} (shuts : Shuts cfg p)
    (stepped : p.step cfg conn e = some q) : Shuts cfg q := by
  cases e with
  | serve e =>
      simp only [step] at stepped
      split at stepped
      · cases stepped
      · rename_i other
        obtain ⟨s, ran, rfl⟩ := Option.map_eq_some_iff.1 stepped
        exact ⟨shuts.sweeps.serve (Bool.eq_false_of_not_eq_true other) ran,
          hijacks_tracks shuts.tracks e⟩
  | report c state =>
      obtain ⟨-, rfl⟩ := of_unless stepped
      exact ⟨shuts.sweeps, shuts.tracks.httpConnState c state⟩
  | reportCloses c =>
      obtain ⟨-, rfl⟩ := of_when stepped
      exact ⟨shuts.sweeps, shuts.tracks.closeReported c⟩
  | shutdown => exact ⟨shuts.sweeps.shutdown stepped, shutdown_tracks shuts.tracks stepped⟩
  | closes c =>
      simp only [step] at stepped
      split at stepped
      · rename_i rest stage
        obtain ⟨-, rfl⟩ := of_when stepped
        have sweeps := shuts.sweeps
        have tracks := shuts.tracks
        rw [stage] at sweeps tracks
        exact ⟨⟨sweeps.accounts, sweeps.counts, sweeps.uncounted, fun _ => sweeps.draining (by rintro ⟨⟩),
          sweeps.rooted, Bool.noConfusion, fun _ => sweeps.swept rfl, fun _ => sweeps.past rfl⟩,
          tracks.close c⟩
      · cases stepped

theorem init_shuts : Shuts cfg ({} : Process n m) where
  sweeps := by
    refine ⟨State.init_accounts cfg n, ?_, rfl, fun late => absurd rfl late, fun _ => Bool.noConfusion,
      ?_, Bool.noConfusion, Bool.noConfusion⟩
    · exact (congrArg Finset.card (tally_eq_empty fun _ => Bool.false_ne_true)).symm
    · intro _ i t present
      cases present
  tracks := ⟨rfl, fun _ _ => Bool.noConfusion, Bool.noConfusion⟩

theorem shuts_of_steps (shuts : Shuts cfg p) (steps : (machine cfg conn).Steps Machine.always p q) :
    Shuts cfg q :=
  steps.invariant (Shuts cfg) (fun _ _ _ shuts _ stepped => step_shuts shuts stepped) shuts

/-! ## Tunnels that were registered -/

/-- A registered tunnel is still registered, or closed. -/
def Enrolled (s : State n) (i : Fin n) : Prop :=
  ∃ t, (s.handlers i).tunnel = some t ∧
    (t.closed = true ∨ (s.handlers i).flags.activeRegistered = true)

theorem take_enrolled {s t : State n} {i : Fin n} (enrolled : Enrolled s i)
    (stepped : s.step cfg .force = some t) : Enrolled t i := by
  cases stepped
  obtain ⟨x, present, either⟩ := enrolled
  unfold Enrolled
  dsimp only
  split
  · refine ⟨_, congrArg (Option.map _) present, ?_⟩
    dsimp only
    split
    · exact either
    · exact either
  · exact ⟨x, present, either⟩

theorem count_enrolled {s t : State n} {i : Fin n} {k : Nat} (enrolled : Enrolled s i)
    (stepped : s.step cfg (.count k) = some t) : Enrolled t i := by
  obtain ⟨_, _, rfl⟩ := State.step_count stepped
  exact enrolled

theorem step_enrolled {e : ProcessEvent n m} {i : Fin n} (shuts : Shuts cfg p)
    (enrolled : Enrolled p.serve i) (stepped : p.step cfg conn e = some q) :
    Enrolled q.serve i := by
  cases e with
  | serve e =>
      simp only [step] at stepped
      split at stepped
      · cases stepped
      · rename_i other
        obtain ⟨s, ran, rfl⟩ := Option.map_eq_some_iff.1 stepped
        have marks := State.serve_marks shuts.sweeps.accounts
          (Bool.eq_false_of_not_eq_true other) ran i
        obtain ⟨t, present, either⟩ := enrolled
        obtain ⟨t', present', onward⟩ := marks.tunnel t present
        refine ⟨t', present', ?_⟩
        obtain closed | registered := either
        · exact .inl (onward.closed closed)
        · obtain still | closed := marks.unregisters registered
          · exact .inr still
          · exact .inl (onward.closed (closed t present))
  | report c state =>
      obtain ⟨-, rfl⟩ := of_unless stepped
      exact enrolled
  | reportCloses c =>
      obtain ⟨-, rfl⟩ := of_when stepped
      exact enrolled
  | shutdown =>
      simp only [step, Process.shutdown] at stepped
      split at stepped
      · obtain ⟨s, ran, rfl⟩ := Option.map_eq_some_iff.1 stepped
        cases ran
        exact enrolled
      · obtain ⟨s, ran, rfl⟩ := Option.map_eq_some_iff.1 stepped
        exact take_enrolled enrolled ran
      · obtain ⟨s, ran, rfl⟩ := Option.map_eq_some_iff.1 stepped
        exact count_enrolled enrolled ran
      · obtain ⟨-, rfl⟩ := of_when stepped
        exact enrolled
      · cases stepped
        exact enrolled
      · cases stepped
  | closes c =>
      simp only [step] at stepped
      split at stepped
      · obtain ⟨-, rfl⟩ := of_when stepped
        exact enrolled
      · cases stepped

theorem enrolled_of_steps {i : Fin n} (shuts : Shuts cfg p) (registered : i ∈ p.serve.gateway.active)
    (steps : (machine cfg conn).Steps Machine.always p q) : Enrolled q.serve i := by
  have start : Enrolled p.serve i := by
    have flag : (p.serve.handlers i).flags.activeRegistered = true := by
      rw [shuts.sweeps.accounts.books.active] at registered
      exact mem_having.1 registered
    obtain ⟨t, present⟩ := Option.ne_none_iff_exists'.1 (shuts.sweeps.rooted i flag)
    exact ⟨t, present, .inr flag⟩
  have both := steps.invariant (fun p => Shuts cfg p ∧ Enrolled p.serve i) ?_ ⟨shuts, start⟩
  · exact both.2
  · rintro u e v ⟨shuts, enrolled⟩ - stepped
    exact ⟨step_shuts shuts stepped, step_enrolled shuts enrolled stepped⟩

theorem Sweeps.closed {stage : Stage m} {s : State n} {i : Fin n} (sweeps : Sweeps cfg stage s)
    (past : stage.past = true) (enrolled : Enrolled s i) :
    ∃ t, (s.handlers i).tunnel = some t ∧ t.closed = true := by
  obtain ⟨t, present, closed | registered⟩ := enrolled
  · exact ⟨t, present, closed⟩
  · have swept : stage.swept = true := by
      cases stage <;> first | rfl | cases past
    obtain closed | taken := sweeps.swept swept i t present registered
    · exact ⟨t, present, closed⟩
    · exact absurd ((sweeps.past past i t present).1.symm.trans taken) Bool.false_ne_true

end Process

/-- A goroutine other than `forceCloseActive` has marked the tunnel closed, and has still
to make its `Close` calls, the client's included if `client`. -/
def Handler.LeftToOther (h : Handler) (client : Bool) : Prop :=
  ∃ t debt, h.tunnel = some t ∧ t.owed = some debt ∧ (client = true → debt.client = true) ∧
    debt.who ≠ .forcer

/-- The client connection has been hijacked, and `setClient` will refuse it. -/
def Handler.Refuses {n : Nat} (cfg : Config) (i : Fin n) (g : Gateway n) (h : Handler) : Prop :=
  h.pc = .attach ∧
    h.proceed cfg i g = some (g, { h with client := .closed, failure := "shutdown" }.leave)

namespace Process

variable {n m : Nat} {cfg : Config} {conn : Fin n → Fin m} {p q : Process n m}

theorem Sweeps.debtor {stage : Stage m} {s : State n} {i : Fin n} {t : Tunnel} {debt : Debt}
    (sweeps : Sweeps cfg stage s) (past : stage.past = true)
    (present : (s.handlers i).tunnel = some t) (owed : t.owed = some debt) : debt.who ≠ .forcer := by
  intro forcer
  have settled := (sweeps.past past i t present).2
  rw [owed, Option.any_some, forcer] at settled
  cases settled

theorem Sweeps.upstream {stage : Stage m} {s : State n} {i : Fin n} {t : Tunnel}
    (sweeps : Sweeps cfg stage s) (past : stage.past = true)
    (present : (s.handlers i).tunnel = some t) (closed : t.closed = true) :
    (s.handlers i).upstream ≠ .live ∨ (s.handlers i).LeftToOther false := by
  by_cases live : (s.handlers i).upstream = .live
  · have covered := (sweeps.accounts.safe i).covered
    rw [present] at covered
    obtain ⟨debt, owed⟩ := Option.ne_none_iff_exists'.1 (covered.2.1 closed live)
    exact .inr ⟨t, debt, present, owed, Bool.noConfusion, sweeps.debtor past present owed⟩
  · exact .inl live

theorem Sweeps.client {stage : Stage m} {s : State n} {i : Fin n} {t : Tunnel}
    (sweeps : Sweeps cfg stage s) (past : stage.past = true)
    (present : (s.handlers i).tunnel = some t) (closed : t.closed = true) :
    (s.handlers i).client ≠ .live ∨ (s.handlers i).LeftToOther true ∨
      (s.handlers i).Refuses cfg i s.gateway := by
  by_cases live : (s.handlers i).client = .live
  · right
    have covered := (sweeps.accounts.safe i).covered
    rw [present] at covered
    cases attached : t.attached with
    | true =>
        obtain ⟨who, owed⟩ := covered.2.2.1 closed attached live
        exact .inl ⟨t, _, present, owed, fun _ => rfl, sweeps.debtor past present owed⟩
    | false =>
        have pc := covered.2.2.2 attached live
        refine .inr ⟨pc, ?_⟩
        have refused : (s.handlers i).tunnel.bind Tunnel.setClient = none := by
          rw [present]
          exact if_pos closed
        simp only [Handler.proceed, pc, refused, live, Link.close]
  · exact .inl live

end Process

/-- **Forced shutdown.**  In every interleaving of handlers, timers, server reports and
peers with `beginDrain`, `forceCloseActive` and `closeHTTPConnections(false)`:
`forcedClosures` counts each forced tunnel once, as soon as `forceCloseActive` has added
what it took; when `forceCloseActive` has returned, every tunnel that was ever registered
is closed, and each of its connections is closed unless another goroutine closed the tunnel
first and has still to close the connection, or the client has just been hijacked and
`setClient` will refuse it; and when the shutdown is over, every connection that is still
the server's has been closed, or is by the callback of its report. -/
theorem forcedShutdown_of_reaches {n m : Nat} (cfg : Config) (conn : Fin n → Fin m)
    (p : Process n m) (reached : (Process.machine cfg conn).Reaches Machine.always p) :
    p.serve.gateway.metrics.forcedClosures + p.serve.uncounted.sum =
        (Finset.univ.filter fun i => (p.serve.handlers i).forced = true).card ∧
      (p.stage ≠ .counting → p.serve.gateway.metrics.forcedClosures =
        (Finset.univ.filter fun i => (p.serve.handlers i).forced = true).card) ∧
      (p.stage.past = true → ∀ r i, (Process.machine cfg conn).Reaches Machine.always r →
        (Process.machine cfg conn).Steps Machine.always r p → i ∈ r.serve.gateway.active →
        (∃ t, (p.serve.handlers i).tunnel = some t ∧ t.closed = true) ∧
          ((p.serve.handlers i).upstream ≠ .live ∨ (p.serve.handlers i).LeftToOther false) ∧
          ((p.serve.handlers i).client ≠ .live ∨ (p.serve.handlers i).LeftToOther true ∨
            (p.serve.handlers i).Refuses cfg i p.serve.gateway)) ∧
      (p.stage = .closing ∅ → ∀ c,
        ((p.http.conns c).served = true →
          (p.http.conns c).link ≠ .live ∨ (p.http.conns c).closeNow = true) ∧
        ∀ state q, state.served = true → p.step cfg conn (.report c state) = some q →
          (q.http.conns c).closeNow = true) := by
  have shuts := Process.shuts_of_steps Process.init_shuts reached
  refine ⟨shuts.sweeps.counts, ?_, ?_, ?_⟩
  · intro counted
    have nothing := shuts.sweeps.uncounted
    rw [if_neg counted, List.length_eq_zero_iff] at nothing
    have counts := shuts.sweeps.counts
    rw [State.Counts, nothing] at counts
    exact counts
  · intro past r i early steps registered
    have enrolled := Process.enrolled_of_steps
      (Process.shuts_of_steps Process.init_shuts early) registered steps
    obtain ⟨t, present, closed⟩ := shuts.sweeps.closed past enrolled
    exact ⟨⟨t, present, closed⟩, shuts.sweeps.upstream past present closed,
      shuts.sweeps.client past present closed⟩
  · intro done c
    have closing : p.http.httpClosing = true := by
      rw [shuts.tracks.flag, done]
      rfl
    refine ⟨?_, ?_⟩
    · intro served
      have closed := shuts.tracks.closing closing c served
      rw [done] at closed
      exact closed.imp_right fun either => either.resolve_right (Finset.notMem_empty c)
    · intro state q served stepped
      obtain ⟨-, rfl⟩ := of_unless stepped
      simp only [Http.httpConnState, served, closing, if_true, Function.update_self]

/-! ## Two runs of one call -/

/-- A call on the only connection, up to its armed timer. -/
def onConnection : List (ProcessEvent 1 1) :=
  [.report (Fin.last 0) .new, .report (Fin.last 0) .active] ++ armed.map .serve

/-- The timer marks the tunnel closed; the shutdown finds it closed and is over before the
timer's goroutine has closed anything. -/
def expiredShutdown : List (ProcessEvent 1 1) :=
  [.shutdown, .serve (.handler (Fin.last 0) .timerFires), .shutdown, .shutdown,
    .serve (.handler (Fin.last 0) .forcerCloses), .shutdown, .shutdown]

/-- `forceCloseActive` closes the tunnel. -/
def plainShutdown : List (ProcessEvent 1 1) :=
  [.shutdown, .shutdown, .shutdown, .serve (.handler (Fin.last 0) .forcerCloses),
    .serve (.handler (Fin.last 0) .settle), .serve (.handler (Fin.last 0) .settle), .shutdown,
    .shutdown]

/-- One call, on one connection. -/
def single : Machine (Process 1 1) (ProcessEvent 1 1) := Process.machine ⟨1, 1⟩ id

/-- What a shutdown leaves of the call that it found. -/
def leaves (events : List (ProcessEvent 1 1)) : Option (Finset (Fin 1) × Bool × Link × Link × Pc) :=
  (single.run Machine.always {} onConnection).bind fun r =>
    (single.run Machine.always r events).map fun p =>
      (r.serve.gateway.active, decide (p.stage = .closing ∅),
        (p.serve.handlers (Fin.last 0)).client, (p.serve.handlers (Fin.last 0)).upstream,
        (p.serve.handlers (Fin.last 0)).pc)

theorem leaves_run {events : List (ProcessEvent 1 1)} {done : Bool} {client upstream : Link} {pc : Pc}
    (left : leaves events = some (Finset.univ, done, client, upstream, pc)) :
    ∃ r p, single.Reaches Machine.always r ∧ single.Steps Machine.always r p ∧
      (0 : Fin 1) ∈ r.serve.gateway.active ∧ decide (p.stage = .closing ∅) = done ∧
      (p.serve.handlers 0).client = client ∧ (p.serve.handlers 0).upstream = upstream ∧
      (p.serve.handlers 0).pc = pc := by
  obtain ⟨r, begun, rest⟩ := Option.bind_eq_some_iff.1 left
  obtain ⟨p, ended, seen⟩ := Option.map_eq_some_iff.1 rest
  simp only [Prod.mk.injEq] at seen
  obtain ⟨active, stage, client, upstream, pc⟩ := seen
  refine ⟨r, p, Machine.steps_of_run onConnection begun, Machine.steps_of_run events ended, ?_,
    stage, client, upstream, pc⟩
  rw [active]
  exact Finset.mem_univ 0

theorem expiredShutdown_leaves :
    leaves expiredShutdown = some (Finset.univ, true, .live, .live, .deadlineBeforeUpgrade) := by
  decide +kernel

theorem plainShutdown_leaves :
    leaves plainShutdown = some (Finset.univ, true, .closed, .closed, .deadlineBeforeUpgrade) := by
  decide +kernel

/-- **A forced shutdown can be over with both connections of a tunnel open.** -/
theorem expiredShutdown_open : ∃ r p, single.Reaches Machine.always r ∧
    (0 : Fin 1) ∈ r.serve.gateway.active ∧ single.Steps Machine.always r p ∧
    p.stage = .closing ∅ ∧ (p.serve.handlers 0).client = .live ∧
    (p.serve.handlers 0).upstream = .live ∧ (p.serve.handlers 0).pc ≠ .attach := by
  obtain ⟨r, p, reached, steps, registered, done, client, upstream, pc⟩ :=
    leaves_run expiredShutdown_leaves
  refine ⟨r, p, reached, registered, steps, of_decide_eq_true done, client, upstream, ?_⟩
  rw [pc]
  decide

theorem forcedShutdown_plain : ∃ p, single.Reaches Machine.always p ∧ p.stage = .closing ∅ ∧
    (∃ t, (p.serve.handlers 0).tunnel = some t ∧ t.closed = true) ∧
    (p.serve.handlers 0).client = .closed ∧ (p.serve.handlers 0).upstream = .closed := by
  obtain ⟨r, p, reached, steps, registered, done, client, upstream, pc⟩ :=
    leaves_run plainShutdown_leaves
  have stage := of_decide_eq_true done
  have shutdown := forcedShutdown_of_reaches ⟨1, 1⟩ id p (reached.trans steps)
  obtain ⟨closed, -, -⟩ := shutdown.2.2.1 (by rw [stage]; rfl) r 0 reached steps registered
  exact ⟨p, reached.trans steps, stage, closed, client, upstream⟩

end GrpcBridge.Gateway
