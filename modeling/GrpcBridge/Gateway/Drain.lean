/-
# Gateway.Drain -- shutdown waits for every handler and loses no wake-up

`Onward` is what the tracking sets, the `changed` channel and the drain flag can
do in one step of any goroutine: a set that changes signals, and once draining
nothing is added to either set and no handshake completes.  It composes along
runs, and the state of a waiting `waitForDrain` is sound against it.

`drained_of_reaches` collects what shutdown relies on.  As in Gateway.Accounting,
the connections of a handler that has left both sets are closed unless the ticker,
the lifetime timer or `forceCloseActive` has marked its tunnel closed and has
still to close them (`expiring_untracked`).
-/
import GrpcBridge.Gateway.Accounting

namespace GrpcBridge.Gateway

set_option autoImplicit false
set_option linter.dupNamespace false

open GrpcBridge.Theory

variable {n : Nat} {cfg : Config}

theorem Gateway.idle_iff {g : Gateway n} : g.idle = true ↔ g.active = ∅ ∧ g.handshakes = ∅ :=
  decide_eq_true_iff

/-! ## The sets, the channel and the flag -/

/-- What the drain relies on, between two states of the gateway. -/
structure Tracks (g g' : Gateway n) : Prop where
  changed : g.changed ≤ g'.changed
  silent : g'.changed = g.changed → g'.active = g.active ∧ g'.handshakes = g.handshakes
  draining : g.draining = true → g'.draining = true
  active : g.draining = true → g'.active ⊆ g.active
  handshakes : g.draining = true → g'.handshakes ⊆ g.handshakes

theorem Tracks.trans {g₁ g₂ g₃ : Gateway n} (first : Tracks g₁ g₂) (second : Tracks g₂ g₃) :
    Tracks g₁ g₃ where
  changed := Nat.le_trans first.changed second.changed
  silent same := by
    have early := first.changed
    have late := second.changed
    obtain ⟨active, handshakes⟩ := first.silent (by omega)
    obtain ⟨active', handshakes'⟩ := second.silent (by omega)
    exact ⟨active'.trans active, handshakes'.trans handshakes⟩
  draining draining := second.draining (first.draining draining)
  active draining := (second.active (first.draining draining)).trans (first.active draining)
  handshakes draining :=
    (second.handshakes (first.draining draining)).trans (first.handshakes draining)

/-- The sets are left alone. -/
theorem Tracks.same {g g' : Gateway n} (active : g'.active = g.active)
    (handshakes : g'.handshakes = g.handshakes) (changed : g.changed ≤ g'.changed)
    (draining : g.draining = true → g'.draining = true) : Tracks g g' where
  changed := changed
  silent _ := ⟨active, handshakes⟩
  draining := draining
  active _ := by rw [active]
  handshakes _ := by rw [handshakes]

theorem Tracks.refl (g : Gateway n) : Tracks g g := .same rfl rfl (Nat.le_refl _) id

/-- A critical section that drain refuses, and that signals. -/
theorem Tracks.refused {g g' : Gateway n} (accepting : g.draining = false)
    (signalled : g'.changed = g.changed + 1) : Tracks g g' where
  changed := by omega
  silent same := by omega
  draining draining := absurd (accepting.symm.trans draining) Bool.false_ne_true
  active draining := absurd (accepting.symm.trans draining) Bool.false_ne_true
  handshakes draining := absurd (accepting.symm.trans draining) Bool.false_ne_true

theorem Move.tracks {i : Fin n} {g g' : Gateway n} {x x' : Holding}
    (move : Move cfg i g x g' x') : Tracks g g' := by
  cases move with
  | quiet | takes | reserves | frees => exact .same rfl rfl (Nat.le_refl _) id
  | releases s =>
      rw [Gateway.releasePrincipal]
      split <;> exact .same rfl rfl (Nat.le_refl _) id
  | begins _ accepting => exact .refused accepting rfl
  | registers _ accepting => exact .refused accepting rfl
  | completes _ accepting => exact .refused accepting rfl
  | unregisters =>
      exact ⟨Nat.le_succ _, fun same => absurd same (Nat.succ_ne_self _), id,
        fun _ => Finset.erase_subset _ _, fun _ => Finset.Subset.refl _⟩
  | finishes =>
      exact ⟨Nat.le_succ _, fun same => absurd same (Nat.succ_ne_self _), id,
        fun _ => Finset.Subset.refl _, fun _ => Finset.erase_subset _ _⟩

/-- No handshake completes while the gateway drains. -/
theorem Move.completed {i : Fin n} {g g' : Gateway n} {x x' : Holding}
    (move : Move cfg i g x g' x') (draining : g.draining = true) : x'.completed = x.completed := by
  cases move with
  | completes _ accepting => exact absurd (accepting.symm.trans draining) Bool.false_ne_true
  | _ => rfl

/-! ## Waiting -/

/-- What a call of `waitForDrain` knows. -/
def Waiter.Sound (g : Gateway n) : Waiter → Prop
  | .checking => True
  | .waiting changed => changed ≤ g.changed ∧ (changed = g.changed → g.idle = false)
  | .returned ok draining => ok = true → draining = true → g.draining = true ∧ g.idle = true

theorem Waiter.look_sound (g : Gateway n) : (Waiter.look g).Sound g := by
  rw [Waiter.look]
  split
  · rename_i idle
    exact fun _ draining => ⟨draining, idle⟩
  · rename_i busy
    exact ⟨Nat.le_refl _, fun _ => Bool.eq_false_of_not_eq_true busy⟩

theorem Tracks.idle {g g' : Gateway n} (tracks : Tracks g g') (draining : g.draining = true)
    (idle : g.idle = true) : g'.idle = true := by
  obtain ⟨active, handshakes⟩ := Gateway.idle_iff.1 idle
  have fewer := tracks.active draining
  have fewer' := tracks.handshakes draining
  rw [active] at fewer
  rw [handshakes] at fewer'
  exact Gateway.idle_iff.2 ⟨Finset.subset_empty.1 fewer, Finset.subset_empty.1 fewer'⟩

/-- What a waiter knows stays true: an emptied set has signalled. -/
theorem Waiter.Sound.tracks {g g' : Gateway n} {w : Waiter} (sound : w.Sound g)
    (tracks : Tracks g g') : w.Sound g' := by
  cases w with
  | checking => trivial
  | waiting changed =>
      obtain ⟨old, busy⟩ := sound
      have grows := tracks.changed
      refine ⟨Nat.le_trans old grows, ?_⟩
      intro current
      obtain ⟨active, handshakes⟩ := tracks.silent (by omega)
      have before := busy (by omega)
      rw [Gateway.idle, active, handshakes]
      exact before
  | returned ok draining =>
      intro returned under
      obtain ⟨drains, idle⟩ := sound returned under
      exact ⟨tracks.draining drains, tracks.idle drains idle⟩

/-! ## Runs -/

namespace State

variable {s t : State n}

structure Drains (cfg : Config) (s : State n) : Prop where
  accounts : Accounts cfg s
  waiters : ∀ w ∈ s.waiters, w.Sound s.gateway

/-- What holds between two states of a run. -/
structure Onward (s t : State n) : Prop where
  tracks : Tracks s.gateway t.gateway
  completed : s.gateway.draining = true →
    ∀ i, (t.handlers i).completed = true → (s.handlers i).completed = true

theorem step_onward (e : Event n) (accounts : Accounts cfg s) (stepped : step cfg s e = some t) :
    Onward s t := by
  cases e with
  | handler i a =>
      obtain ⟨⟨g, h⟩, ran, rfl⟩ := Option.map_eq_some_iff.1 stepped
      obtain ⟨_, move⟩ := Handler.step_moves (accounts.shape i) ran
      refine ⟨move.tracks, ?_⟩
      intro draining j done
      dsimp only at done
      by_cases own : j = i
      · subst own
        rw [Function.update_self] at done
        exact (move.completed draining).symm.trans done
      · rwa [Function.update_of_ne own] at done
  | beginDrain =>
      cases stepped
      refine ⟨?_, fun _ _ => id⟩
      show Tracks s.gateway s.gateway.beginDrain
      rw [Gateway.beginDrain]
      split
      · exact .refl _
      · exact .same rfl rfl (Nat.le_succ _) fun _ => rfl
  | force =>
      cases stepped
      refine ⟨.same rfl rfl (Nat.le_refl _) id, ?_⟩
      intro _ i done
      dsimp only at done
      split at done <;> exact done
  | count k =>
      obtain ⟨_, _, rfl⟩ := step_count stepped
      exact ⟨.same rfl rfl (Nat.le_refl _) id, fun _ _ => id⟩
  | wait | look k | wake k | cancel k =>
      obtain ⟨_, rfl⟩ := step_watches rfl stepped
      exact ⟨.refl _, fun _ _ => id⟩

theorem set_sound {g : Gateway n} {waiters : List Waiter} {k : Nat} {new : Waiter}
    (all : ∀ w ∈ waiters, w.Sound g) (sound : new.Sound g) :
    ∀ w ∈ waiters.set k new, w.Sound g := by
  intro w inside
  rcases List.mem_or_eq_of_mem_set inside with old | rfl
  · exact all w old
  · exact sound

theorem step_drains (e : Event n) (drains : Drains cfg s) (stepped : step cfg s e = some t) :
    Drains cfg t := by
  have accounts := step_accounts e drains.accounts stepped
  have onward := step_onward e drains.accounts stepped
  have kept : ∀ w ∈ s.waiters, w.Sound t.gateway :=
    fun w inside => (drains.waiters w inside).tracks onward.tracks
  refine ⟨accounts, ?_⟩
  cases e with
  | handler i a =>
      obtain ⟨_, _, rfl⟩ := Option.map_eq_some_iff.1 stepped
      exact kept
  | beginDrain | force =>
      cases stepped
      exact kept
  | count k =>
      obtain ⟨_, _, rfl⟩ := step_count stepped
      exact kept
  | wait =>
      cases stepped
      intro w inside
      rcases List.mem_append.1 inside with old | new
      · exact kept w old
      · rw [List.mem_singleton.1 new]
        trivial
  | look k =>
      obtain ⟨_, rfl⟩ := of_when stepped
      exact set_sound kept (Waiter.look_sound _)
  | wake k =>
      simp only [step] at stepped
      split at stepped
      · obtain ⟨_, rfl⟩ := of_when stepped
        exact set_sound kept trivial
      · cases stepped
  | cancel k =>
      simp only [step] at stepped
      split at stepped
      · cases stepped
        exact set_sound kept Bool.noConfusion
      · cases stepped

theorem drains_of_reaches (reached : (machine cfg n).Reaches Machine.always s) : Drains cfg s :=
  reached.invariant (Drains cfg) (fun _ e _ drains _ stepped => step_drains e drains stepped)
    ⟨init_accounts cfg n, fun _ inside => (nomatch inside)⟩

theorem onward_of_steps (accounts : Accounts cfg s)
    (steps : (machine cfg n).Steps Machine.always s t) : Onward s t ∧ Accounts cfg t := by
  refine steps.invariant (fun t => Onward s t ∧ Accounts cfg t) ?_
    ⟨⟨.refl _, fun _ _ => id⟩, accounts⟩
  intro t e u held _ stepped
  obtain ⟨before, accounts⟩ := held
  have next := step_onward e accounts stepped
  refine ⟨⟨before.tracks.trans next.tracks, ?_⟩, step_accounts e accounts stepped⟩
  intro draining i done
  exact before.completed draining i (next.completed (before.tracks.draining draining) i done)

end State

/-! ## Handlers that are in neither set -/

/-- From `beginHandshake` to the end of the deferred cleanup. -/
def Pc.serving : Pc → Bool
  | .route | .beginHandshake | .refused | .returned => false
  | _ => true

/-- Before its last deferred action, a handler is tracked. -/
theorem Pc.Allows.tracked {pc : Pc} {f : Flags} (allows : pc.Allows f) (serving : pc.serving = true)
    (last : pc ≠ .deferFinish) : f.Tracked := by
  cases pc with
  | route | beginHandshake | refused | returned => cases serving
  | deferFinish => exact absurd rfl last
  | checks | slot | destination | drainBeforeAdmission | admission | drainAfterAdmission | principal
  | dial | register | deadlineAfterDial | drainAfterDial | hijack | attach | deadlineAfterHijack
  | complete =>
      exact .inl (congrArg Flags.handshakePending allows)
  | arm | deadlineBeforeUpgrade | upgrade | deadlineAfterUpgrade | opened | establish | relay | close
  | finished =>
      exact .inr (congrArg Flags.activeRegistered allows)
  | deferDone | deferGauge => exact allows
  | deferClosed | deferTimer | deferFailure | deferClose | deferPrincipal => exact allows.2
  | deferSlot => exact allows.2.2
  | deferUnregister => exact allows.2.2.2

/-- A handler that is not tracked holds nothing. -/
theorem Pc.Allows.untracked {pc : Pc} {f : Flags} (allows : pc.Allows f) (gone : ¬ f.Tracked) :
    f.heldSlot = false ∧ f.heldPrincipal = false ∧ f.gauge = false := by
  by_cases serving : pc.serving = true
  · by_cases last : pc = .deferFinish
    · subst last
      exact ⟨allows.2.2.1, allows.2.1, allows.1⟩
    · exact absurd (allows.tracked serving last) gone
  · have empty : f = {} := by
      cases pc with
      | route | beginHandshake | refused | returned => exact allows
      | _ => exact absurd rfl serving
    rw [empty]
    exact ⟨rfl, rfl, rfl⟩

/-- Everything a handler takes for a tunnel is given back. -/
structure Handler.Released (h : Handler) : Prop where
  slot : h.flags.heldSlot = false
  principal : h.flags.heldPrincipal = false
  gauge : h.flags.gauge = false
  client : h.client ≠ .live ∨ h.LeftTo true
  upstream : h.upstream ≠ .live ∨ h.LeftTo false

namespace State

variable {s : State n}

theorem Accounts.tracked_iff (accounts : Accounts cfg s) (i : Fin n) :
    (s.handlers i).flags.Tracked ↔ i ∈ s.gateway.handshakes ∨ i ∈ s.gateway.active := by
  rw [accounts.books.handshakes, accounts.books.active, mem_having, mem_having]
  rfl

theorem Accounts.serving (accounts : Accounts cfg s) (i : Fin n)
    (serving : (s.handlers i).pc.serving = true) :
    (i ∈ s.gateway.handshakes ∨ i ∈ s.gateway.active) ∨
      ((s.handlers i).pc = .deferFinish ∧ (s.handlers i).Released) := by
  have allows := (accounts.shape i).flags
  by_cases last : (s.handlers i).pc = .deferFinish
  · have safe := accounts.safe i
    have staged := safe.staged
    have plain : (s.handlers i).pc.plain = true := by
      rw [last]
      rfl
    rw [last] at allows staged
    refine .inr ⟨last, allows.2.2.1, allows.2.1, allows.1, ?_, ?_⟩
    · by_cases live : (s.handlers i).client = .live
      · exact .inr (safe.client_leftTo plain staged live)
      · exact .inl live
    · by_cases live : (s.handlers i).upstream = .live
      · exact .inr (safe.upstream_leftTo plain staged live)
      · exact .inl live
  · exact .inl ((accounts.tracked_iff i).1 (allows.tracked serving last))

theorem Accounts.idle (accounts : Accounts cfg s) (idle : s.gateway.idle = true) (i : Fin n) :
    (s.handlers i).flags.heldSlot = false ∧ (s.handlers i).flags.heldPrincipal = false := by
  obtain ⟨active, handshakes⟩ := Gateway.idle_iff.1 idle
  have gone : ¬ (s.handlers i).flags.Tracked := by
    rw [accounts.tracked_iff i, active, handshakes]
    rintro (inside | inside) <;> exact absurd inside (Finset.notMem_empty i)
  obtain ⟨slot, principal, _⟩ := (accounts.shape i).flags.untracked gone
  exact ⟨slot, principal⟩

end State

/-- **Drain safety.**  In every state of every interleaving of handlers, drain,
`waitForDrain` and `forceCloseActive`: a serving handler is in one of the two sets
until its last deferred action, by when it has released everything; once draining,
the sets only shrink, no handshake completes and no 101 goes out for one that had
not; emptied sets stay empty; a wait that succeeded under drain means that no slot
and no principal is held; and a wait never sleeps on an open channel while both
sets are empty. -/
theorem drained_of_reaches (cfg : Config) (n : Nat) (s : State n)
    (reached : (State.machine cfg n).Reaches Machine.always s) :
    (∀ i, (s.handlers i).pc.serving = true →
        (i ∈ s.gateway.handshakes ∨ i ∈ s.gateway.active) ∨
          ((s.handlers i).pc = .deferFinish ∧ (s.handlers i).Released)) ∧
      (s.gateway.draining = true → ∀ t, (State.machine cfg n).Steps Machine.always s t →
        t.gateway.handshakes ⊆ s.gateway.handshakes ∧ t.gateway.active ⊆ s.gateway.active ∧
          (∀ i, (t.handlers i).completed = true → (s.handlers i).completed = true) ∧
          (∀ i, (t.handlers i).answer.map Prod.fst = some 101 → (s.handlers i).completed = true) ∧
          (s.gateway.idle = true → t.gateway.idle = true)) ∧
      (∀ k : Nat, s.waiters[k]? = some (.returned true true) → ∀ i,
        (s.handlers i).flags.heldSlot = false ∧ (s.handlers i).flags.heldPrincipal = false) ∧
      (s.gateway.idle = true → ∀ (k changed : Nat), s.waiters[k]? = some (.waiting changed) →
        changed < s.gateway.changed) := by
  have drains := State.drains_of_reaches reached
  have accounts := drains.accounts
  refine ⟨accounts.serving, ?_, ?_, ?_⟩
  · intro draining t steps
    obtain ⟨onward, after⟩ := State.onward_of_steps accounts steps
    refine ⟨onward.tracks.handshakes draining, onward.tracks.active draining,
      onward.completed draining, ?_, onward.tracks.idle draining⟩
    intro i sent
    exact onward.completed draining i ((after.shape i).upgraded sent)
  · intro k returned i
    have sound := drains.waiters _ (List.mem_of_getElem? returned)
    exact accounts.idle (sound rfl rfl).2 i
  · intro idle k changed waiting
    obtain ⟨old, busy⟩ := drains.waiters _ (List.mem_of_getElem? waiting)
    refine Nat.lt_of_le_of_ne old fun current => ?_
    exact absurd (idle.symm.trans (busy current)) Bool.noConfusion

/-! ## Two runs -/

theorem expiring_outcome : ((State.machine ⟨1, 1⟩ 1).run Machine.always {} expiring).map
    (fun s => ((s.handlers 0).pc, (s.handlers 0).client, (s.handlers 0).upstream,
      decide (0 ∈ s.gateway.handshakes ∨ 0 ∈ s.gateway.active))) =
      some (.deferFinish, .live, .live, false) := by
  decide +kernel

theorem drained_outcome : ((State.machine ⟨1, 1⟩ 1).run Machine.always {} drained).map
    (fun s => (s.waiters, (s.handlers 0).upstream)) =
      some ([.returned true true], .closed) := by
  decide +kernel

/-- **A handler can leave both sets with both connections open.** -/
theorem expiring_untracked : ∃ s : State 1,
    (State.machine ⟨1, 1⟩ 1).Reaches Machine.always s ∧ (s.handlers 0).pc.serving = true ∧
      0 ∉ s.gateway.handshakes ∧ 0 ∉ s.gateway.active ∧
      (s.handlers 0).client = .live ∧ (s.handlers 0).upstream = .live := by
  obtain ⟨s, ran, seen⟩ := Option.map_eq_some_iff.1 expiring_outcome
  obtain ⟨pc, rest⟩ := Prod.mk.inj seen
  obtain ⟨client, rest⟩ := Prod.mk.inj rest
  obtain ⟨upstream, sets⟩ := Prod.mk.inj rest
  obtain ⟨handshakes, active⟩ := not_or.1 (of_decide_eq_false sets)
  refine ⟨s, Machine.steps_of_run expiring ran, ?_, handshakes, active, client, upstream⟩
  rw [pc]
  rfl

theorem drained_waits : ∃ s : State 1,
    (State.machine ⟨1, 1⟩ 1).Reaches Machine.always s ∧
      s.waiters[0]? = some (.returned true true) ∧ (s.handlers 0).flags.heldSlot = false := by
  obtain ⟨s, ran, seen⟩ := Option.map_eq_some_iff.1 drained_outcome
  have reached := Machine.steps_of_run drained ran
  have waited : s.waiters[0]? = some (.returned true true) := by
    rw [(Prod.mk.inj seen).1]
    rfl
  obtain ⟨_, _, returned, _⟩ := drained_of_reaches ⟨1, 1⟩ 1 s reached
  exact ⟨s, reached, waited, (returned 0 waited 0).1⟩

end GrpcBridge.Gateway
