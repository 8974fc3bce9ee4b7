/-
# Retry.ReplayFidelity -- what an attempt receives is a prefix of the source

An attempt replays the snapshots and then follows the source, so the messages it
hands on should be `m₁, m₂, …` with nothing skipped or repeated.  That rests on
one equality: the read a `next()` call joins is the one for the item after the
last message of its attempt (`Level`).

Before commitment it holds by itself.  The snapshots are all the messages read so
far (`ReplayInv.retained`), so an attempt that finds none for its index has
received every one of them.  `commit` breaks it: the snapshots are gone whether or
not the attempt had replayed them, and an attempt that was behind is answered with
the source's next item.  `keepsUp` is the exact guard: after commitment, a `next()`
comes only from an attempt that is level with the source.
-/
import GrpcBridge.Retry.Replay

namespace GrpcBridge.Retry

open GrpcBridge.Theory

set_option autoImplicit false

variable {M : Type}

/-- The messages of `t` are the first items of the source, and `t` was told
`done` only at the source's end. -/
def Faithful (source : Nat → Option M) (t : Attempt M) : Prop :=
  (∀ j < t.received.length, t.received[j]? = source j) ∧
    (t.sawDone = true → source t.received.length = none)

/-- The index of the source item a `next()` that finds no snapshot is answered with. -/
def Replay.frontier (r : Replay M) : Nat :=
  match r.pending with
  | some k => k
  | none => if r.ended then r.reads - 1 else r.reads

/-- After commitment only an attempt that is level with the source calls `next()`. -/
def keepsUp (r : Replay M) : ReplayEvent → Bool
  | .next a =>
      (r.attempts[a]?).all fun t => !r.committed || t.stopped || t.index == r.frontier
  | _ => true

/-! ## The invariant -/

/-- An attempt in step with the source: it was handed the values of the reads
below its index, and awaits the read at its index. -/
structure Level (source : Nat → Option M) (settled : List (ReadResult M)) (reads : Nat)
    (t : Attempt M) : Prop where
  length : t.received.length = t.index
  delivered : ∀ j < t.index, ∃ m, settled[j]? = some (.value m) ∧ t.received[j]? = some m
  done : t.sawDone = true → source t.index = none
  awaits : ∀ k, t.awaiting = some k → k = t.index ∧ k < reads
  seen : t.index ≤ t.seen

structure ReplayInv (c : Codec M) (source : Nat → Option M) (r : Replay M) : Prop where
  values : ∀ (k : Nat) (m : M), r.settled[k]? = some (.value m) → source k = some m
  finished : ∀ k : Nat, r.settled[k]? = some .done →
    source k = none ∧ k + 1 = r.reads ∧ r.ended = true
  failed : ∀ k : Nat, r.settled[k]? = some .thrown → r.pending = some k
  bounded : r.settled.length ≤ r.reads
  inFlight : r.settled.length < r.reads → r.pending = some r.settled.length
  newest : ∀ k, r.pending = some k → k + 1 = r.reads
  exhausted : r.ended = true → ∃ k : Nat, r.settled[k]? = some .done
  retained : r.committed = false → ∀ k : Nat,
    r.saved[k]? = match r.settled[k]? with
      | some (.value m) => some (c.toBinary m)
      | _ => none
  dropped : r.committed = true → r.saved = []
  level : ∀ (a : Nat) (t : Attempt M), r.attempts[a]? = some t → t.stopped = false →
    Level source r.settled r.reads t

theorem Level.faithful {source : Nat → Option M} {settled : List (ReadResult M)} {reads : Nat}
    {t : Attempt M} (level : Level source settled reads t)
    (values : ∀ (k : Nat) (m : M), settled[k]? = some (.value m) → source k = some m) :
    Faithful source t := by
  refine ⟨fun j below => ?_, fun told => ?_⟩
  · obtain ⟨m, read, handed⟩ := level.delivered j (level.length ▸ below)
    rw [handed, values j m read]
  · rw [level.length]
    exact level.done told

/-- Later reads do not disturb an attempt. -/
theorem Level.mono {source : Nat → Option M} {settled later : List (ReadResult M)}
    {reads reads' : Nat} {t : Attempt M} (level : Level source settled reads t)
    (keeps : ∀ (k : Nat) (x : ReadResult M), settled[k]? = some x → later[k]? = some x)
    (grows : reads ≤ reads') : Level source later reads' t where
  length := level.length
  delivered j below := by
    obtain ⟨m, read, handed⟩ := level.delivered j below
    exact ⟨m, keeps j _ read, handed⟩
  done := level.done
  awaits k waiting := ⟨(level.awaits k waiting).1, Nat.lt_of_lt_of_le (level.awaits k waiting).2 grows⟩
  seen := level.seen

theorem getElem?_snoc_of_some {α : Type} {l : List α} {k : Nat} {x : α} (y : α)
    (found : l[k]? = some x) : (l ++ [y])[k]? = some x := by
  rw [List.getElem?_append_left (List.getElem?_eq_some_iff.1 found).1]
  exact found

/-- A fresh attempt, having received nothing, is level. -/
theorem level_fresh (source : Nat → Option M) (settled : List (ReadResult M)) (reads : Nat) :
    Level source settled reads ({} : Attempt M) where
  length := rfl
  delivered j below := by simp at below
  done told := by simp at told
  awaits k waiting := by simp at waiting
  seen := Nat.le_refl _

/-- Handing the message of read `t.index` to `t` keeps it level. -/
theorem Level.deliver {source : Nat → Option M} {settled : List (ReadResult M)} {reads : Nat}
    {t : Attempt M} {m : M} (level : Level source settled reads t)
    (read : settled[t.index]? = some (.value m)) (notDone : source t.index = some m) :
    Level source settled reads
      { t with
        index := t.index + 1, awaiting := none, received := t.received ++ [m],
        seen := settled.length } where
  length := by simp [level.length]
  delivered j below := by
    rcases Nat.lt_succ_iff_lt_or_eq.1 below with earlier | rfl
    · obtain ⟨x, readJ, handed⟩ := level.delivered j earlier
      exact ⟨x, readJ, getElem?_snoc_of_some m handed⟩
    · refine ⟨m, read, ?_⟩
      rw [← level.length]
      simp
  done told := by
    have := level.done told
    rw [notDone] at this
    cases this
  awaits k waiting := by simp at waiting
  seen := by
    have := (List.getElem?_eq_some_iff.1 read).1
    exact this

/-- Telling `t` that the source has ended at its index keeps it level. -/
theorem Level.finish {source : Nat → Option M} {settled : List (ReadResult M)} {reads : Nat}
    {t : Attempt M} (level : Level source settled reads t) (ends : source t.index = none)
    (settledBelow : t.index ≤ settled.length) :
    Level source settled reads
      { t with awaiting := none, sawDone := true, seen := settled.length } where
  length := level.length
  delivered := level.delivered
  done _ := ends
  awaits k waiting := by simp at waiting
  seen := settledBelow

namespace ReplayInv

variable {c : Codec M} {source : Nat → Option M} {r : Replay M}

/-! ## One step -/

theorem setAttempt (inv : ReplayInv c source r) (a : Nat) {t : Attempt M}
    (level : t.stopped = false → Level source r.settled r.reads t) :
    ReplayInv c source (r.setAttempt a t) := by
  refine ⟨inv.values, inv.finished, inv.failed, inv.bounded, inv.inFlight, inv.newest,
    inv.exhausted, inv.retained, inv.dropped, fun b u found live => ?_⟩
  simp only [Replay.setAttempt, List.getElem?_set] at found
  split at found
  · split at found
    · cases found
      exact level live
    · cases found
  · exact inv.level b u found live

theorem commit (inv : ReplayInv c source r) : ReplayInv c source r.commit :=
  ⟨inv.values, inv.finished, inv.failed, inv.bounded, inv.inFlight, inv.newest, inv.exhausted,
    fun unset => by simp [Replay.commit] at unset, fun _ => rfl, inv.level⟩

theorem iterable (inv : ReplayInv c source r) : ReplayInv c source r.iterable := by
  refine ⟨inv.values, inv.finished, inv.failed, inv.bounded, inv.inFlight, inv.newest,
    inv.exhausted, inv.retained, inv.dropped, fun a t found live => ?_⟩
  simp only [Replay.iterable, List.getElem?_append] at found
  split at found
  · exact inv.level a t found live
  · rw [List.getElem?_singleton] at found
    split at found
    · cases found
      exact level_fresh _ _ _
    · cases found

/-- Clearing `pending` after its read settled with a value or the end. -/
theorem clear (inv : ReplayInv c source r) {k : Nat} {x : ReadResult M}
    (settled : r.settled[k]? = some x) (answered : x ≠ .thrown) :
    ReplayInv c source (if r.pending = some k then { r with pending := none } else r) := by
  split
  · rename_i awaited
    refine ⟨inv.values, inv.finished, fun j thrown => ?_, inv.bounded, fun below => ?_,
      fun j none_ => by simp at none_, inv.exhausted, inv.retained, inv.dropped, inv.level⟩
    · have := inv.failed j thrown
      rw [awaited] at this
      cases this
      rw [settled] at thrown
      exact absurd (Option.some.inj thrown) answered
    · have := inv.inFlight below
      rw [awaited] at this
      cases this
      have := (List.getElem?_eq_some_iff.1 settled).1
      omega
  · exact inv

theorem settled_isValue (inv : ReplayInv c source r) (flight : r.settled.length < r.reads)
    {k : Nat} {x : ReadResult M} (settled : r.settled[k]? = some x) :
    ∃ m, x = .value m := by
  have below := (List.getElem?_eq_some_iff.1 settled).1
  have last := inv.inFlight flight
  cases x with
  | value m => exact ⟨m, rfl⟩
  | done =>
      have := (inv.finished k settled).2.1
      have := inv.newest _ last
      omega
  | thrown =>
      have same := inv.failed k settled
      rw [last] at same
      cases same
      omega

/-- With a read in flight and no commitment, there is one snapshot for each
settled read. -/
theorem saved_length (inv : ReplayInv c source r) (flight : r.settled.length < r.reads)
    (kept : r.committed = false) : r.saved.length = r.settled.length := by
  apply Nat.le_antisymm
  · by_contra longer
    have outside := inv.retained kept r.settled.length
    rw [List.getElem?_eq_none (Nat.le_refl _), List.getElem?_eq_getElem (by omega)] at outside
    cases outside
  · by_contra shorter
    have index : r.saved.length < r.settled.length := by omega
    have inside := inv.retained kept r.saved.length
    obtain ⟨m, value⟩ := inv.settled_isValue flight (List.getElem?_eq_getElem index)
    rw [List.getElem?_eq_none (Nat.le_refl _), List.getElem?_eq_getElem index, value] at inside
    cases inside

/-- An attempt that finds no snapshot before commitment is level with the source. -/
theorem index_eq_frontier (inv : ReplayInv c source r) (kept : r.committed = false)
    {t : Attempt M} (level : Level source r.settled r.reads t) (turn : r.inTurn t = true)
    (missing : r.saved[t.index]? = none) : t.index = r.frontier := by
  have above : t.index ≤ r.settled.length := by
    by_contra beyond
    obtain ⟨m, read, -⟩ := level.delivered r.settled.length (by omega)
    rw [List.getElem?_eq_none (Nat.le_refl _)] at read
    cases read
  have snapshot := inv.retained kept t.index
  rw [missing] at snapshot
  unfold Replay.frontier
  cases here : r.settled[t.index]? with
  | some x =>
      cases x with
      | value m =>
          rw [here] at snapshot
          cases snapshot
      | done =>
          obtain ⟨-, last, ended⟩ := inv.finished _ here
          cases waiting : r.pending with
          | none => simp only [ended, if_true]; omega
          | some k =>
              have := inv.newest k waiting
              simp only
              omega
      | thrown => rw [inv.failed _ here]
  | none =>
      have atEnd : t.index = r.settled.length := by
        have := List.getElem?_eq_none_iff.1 here
        omega
      rcases Nat.lt_or_ge r.settled.length r.reads with flight | done
      · rw [inv.inFlight flight]
        exact atEnd
      · have all : r.reads = r.settled.length := by
          have := inv.bounded
          omega
        -- every settled read below the index was delivered to `t` as a value
        have value : ∀ k < r.settled.length, ∃ m, r.settled[k]? = some (.value m) := by
          intro k below
          obtain ⟨m, read, -⟩ := level.delivered k (by omega)
          exact ⟨m, read⟩
        cases waiting : r.pending with
        | some k =>
            have last := inv.newest k waiting
            obtain ⟨m, read⟩ := value k (by omega)
            have early : t.seen ≤ k := by
              simpa [Replay.inTurn, waiting, read] using turn
            have := level.seen
            omega
        | none =>
            have running : r.ended = false := by
              by_contra ended
              obtain ⟨k, doneAt⟩ := inv.exhausted (by simpa using ended)
              obtain ⟨m, read⟩ := value k (List.getElem?_eq_some_iff.1 doneAt).1
              rw [doneAt] at read
              cases read
            simp only [running, Bool.false_eq_true, if_false]
            omega

/-- Once the end was read, the frontier is the end of the source. -/
theorem frontier_of_ended (inv : ReplayInv c source r) (ended : r.ended = true) :
    source r.frontier = none ∧ r.frontier ≤ r.settled.length := by
  obtain ⟨k, doneAt⟩ := inv.exhausted ended
  obtain ⟨ends, last, -⟩ := inv.finished k doneAt
  have below := (List.getElem?_eq_some_iff.1 doneAt).1
  have same : r.frontier = k := by
    unfold Replay.frontier
    cases waiting : r.pending with
    | none => simp only [ended, if_true]; omega
    | some j =>
        have := inv.newest j waiting
        simp only
        omega
  rw [same]
  exact ⟨ends, by omega⟩

theorem join (inv : ReplayInv c source r) {a : Nat} {t : Attempt M}
    (level : Level source r.settled r.reads t) (running : r.ended = false)
    (atFrontier : t.index = r.frontier) : ReplayInv c source (r.join a t) := by
  unfold Replay.join
  unfold Replay.frontier at atFrontier
  cases waiting : r.pending with
  | some k =>
      simp only [waiting] at atFrontier
      have last := inv.newest k waiting
      refine inv.setAttempt a fun _ => ⟨level.length, level.delivered, level.done, ?_, level.seen⟩
      intro j same
      cases same
      exact ⟨atFrontier.symm, by omega⟩
  | none =>
      simp only [waiting, running, Bool.false_eq_true, if_false] at atFrontier
      have all : r.reads = r.settled.length := by
        have := inv.bounded
        by_contra fewer
        have := inv.inFlight (by omega)
        rw [waiting] at this
        cases this
      have started : ReplayInv c source { r with pending := some r.reads, reads := r.reads + 1 } := by
        refine ⟨inv.values, fun k doneAt => ?_, fun k thrown => ?_, by simp only; omega,
          fun _ => by rw [all], fun k same => by cases same; rfl, inv.exhausted, inv.retained,
          inv.dropped, fun b u found live => (inv.level b u found live).mono (fun _ _ h => h)
            (Nat.le_succ _)⟩
        · have := (inv.finished k doneAt).2.2
          rw [running] at this
          cases this
        · have := inv.failed k thrown
          rw [waiting] at this
          cases this
      refine started.setAttempt a fun _ =>
        ⟨level.length, level.delivered, level.done, ?_, level.seen⟩
      intro j same
      cases same
      exact ⟨atFrontier.symm, Nat.lt_succ_self _⟩

theorem next (inv : ReplayInv c source r) {a : Nat} {r' : Replay M}
    (keeps : keepsUp r (.next a) = true) (stepped : r.next c a = some r') :
    ReplayInv c source r' := by
  unfold Replay.next at stepped
  cases found : r.attempts[a]? with
  | none => simp [found] at stepped
  | some t =>
      simp only [found] at stepped
      split at stepped
      · cases stepped
      · rename_i ready
        simp only [Bool.or_eq_true, Bool.not_eq_true', not_or, Bool.not_eq_false] at ready
        split at stepped
        · cases stepped
          exact inv
        · rename_i live
          simp only [Bool.not_eq_true] at live
          have level := inv.level a t found live
          cases snapshot : r.saved[t.index]? with
          | some bytes =>
              simp only [snapshot, Option.some.injEq] at stepped
              subst stepped
              have kept : r.committed = false := by
                by_contra committed
                rw [inv.dropped (by simpa using committed)] at snapshot
                simp at snapshot
              have held := inv.retained kept t.index
              rw [snapshot] at held
              split at held
              · rename_i m read
                cases held
                rw [c.roundTrip]
                exact inv.setAttempt a fun _ => level.deliver read (inv.values _ _ read)
              · cases held
          | none =>
              simp only [snapshot] at stepped
              have atFrontier : t.index = r.frontier := by
                cases committed : r.committed with
                | false => exact inv.index_eq_frontier committed level ready.2 snapshot
                | true => simpa [keepsUp, found, committed, live] using keeps
              split at stepped
              · rename_i ended
                cases stepped
                obtain ⟨ends, below⟩ := inv.frontier_of_ended ended
                exact inv.setAttempt a fun _ =>
                  level.finish (atFrontier ▸ ends) (atFrontier ▸ below)
              · rename_i running
                cases stepped
                exact inv.join level (by simpa using running) atFrontier

/-- The read in flight settles with `x`; `retained` and `dropped` are left to the caller. -/
theorem settleWith (inv : ReplayInv c source r) (flight : r.settled.length < r.reads)
    (x : ReadResult M) (r' : Replay M) (settled : r'.settled = r.settled ++ [x])
    (pending : r'.pending = r.pending) (reads : r'.reads = r.reads)
    (attempts : r'.attempts = r.attempts)
    (value : ∀ m, x = .value m → source r.settled.length = some m)
    (done : x = .done → source r.settled.length = none)
    (ended : r'.ended = true ↔ r.ended = true ∨ x = .done)
    (retained : r'.committed = false → ∀ k : Nat,
      r'.saved[k]? = match r'.settled[k]? with
        | some (.value m) => some (c.toBinary m)
        | _ => none)
    (dropped : r'.committed = true → r'.saved = []) : ReplayInv c source r' := by
  have awaited := inv.inFlight flight
  have last := inv.newest _ awaited
  have split : ∀ {k : Nat} {y : ReadResult M}, r'.settled[k]? = some y →
      r.settled[k]? = some y ∨ k = r.settled.length ∧ x = y := by
    intro k y found
    rw [settled, List.getElem?_append] at found
    split at found
    · exact .inl found
    · rename_i beyond
      rw [List.getElem?_singleton] at found
      split at found
      · cases found
        exact .inr ⟨by omega, rfl⟩
      · cases found
  refine ⟨fun k m found => ?_, fun k found => ?_, fun k found => ?_, ?_, fun below => ?_, ?_,
    fun sealed => ?_, retained, dropped, fun a t found live => ?_⟩
  · rcases split found with old | ⟨rfl, rfl⟩
    · exact inv.values k m old
    · exact value m rfl
  · rcases split found with old | ⟨rfl, rfl⟩
    · obtain ⟨ends, newest, sealed⟩ := inv.finished k old
      exact ⟨ends, by rw [reads]; exact newest, ended.2 (.inl sealed)⟩
    · exact ⟨done rfl, by rw [reads]; exact last, ended.2 (.inr rfl)⟩
  · rw [pending]
    rcases split found with old | ⟨rfl, rfl⟩
    · exact inv.failed k old
    · exact awaited
  · simp only [settled, reads, List.length_append, List.length_singleton]
    omega
  · simp only [settled, reads, List.length_append, List.length_singleton] at below
    omega
  · intro k same
    rw [reads]
    exact inv.newest k (pending ▸ same)
  · rcases ended.1 sealed with before | now
    · obtain ⟨k, doneAt⟩ := inv.exhausted before
      exact ⟨k, settled ▸ getElem?_snoc_of_some x doneAt⟩
    · refine ⟨r.settled.length, ?_⟩
      rw [settled, now]
      simp
  · rw [attempts] at found
    rw [settled, reads]
    exact (inv.level a t found live).mono (fun _ _ h => getElem?_snoc_of_some x h) (Nat.le_refl _)

theorem settle (inv : ReplayInv c source r) {limit : Nat} {reserved : Bool} {r' : Replay M}
    (stepped : r.settle c limit source reserved = some r') : ReplayInv c source r' := by
  unfold Replay.settle at stepped
  split at stepped
  · rename_i flight
    cases item : source r.settled.length with
    | none =>
        simp only [item, Option.some.injEq] at stepped
        subst stepped
        refine inv.settleWith flight .done _ rfl rfl rfl rfl (fun _ h => by cases h)
          (fun _ => item) (by simp) (fun kept k => ?_) inv.dropped
        rw [inv.retained kept k]
        rcases Nat.lt_trichotomy k r.settled.length with below | rfl | above
        · simp [List.getElem?_append_left below]
        · simp
        · rw [List.getElem?_eq_none (by omega), List.getElem?_eq_none (by simp; omega)]
    | some m =>
        simp only [item, c.roundTrip] at stepped
        have value : ∀ x, ReadResult.value m = .value x → source r.settled.length = some x := by
          intro x same
          cases same
          exact item
        have notDone : ReadResult.value m = .done → source r.settled.length = none := by
          intro same
          cases same
        split at stepped
        · rename_i committed
          cases stepped
          refine inv.settleWith flight (.value m) _ rfl rfl rfl rfl value notDone (by simp)
            (fun kept => ?_) inv.dropped
          simp [committed] at kept
        · rename_i kept
          simp only [Bool.not_eq_true] at kept
          split at stepped
          · cases stepped
            refine inv.settleWith flight (.value m) _ rfl rfl rfl rfl value notDone
              (by simp [Replay.commit]) (fun unset => ?_) (fun _ => rfl)
            simp [Replay.commit] at unset
          · cases stepped
            refine inv.settleWith flight (.value m) _ rfl rfl rfl rfl value notDone (by simp)
              (fun _ k => ?_) (fun committed => ?_)
            · -- the new snapshot stands at the index of the read it came from
              have level := inv.saved_length flight kept
              rcases Nat.lt_trichotomy k r.settled.length with below | rfl | above
              · simp only [List.getElem?_append_left below,
                  List.getElem?_append_left (level ▸ below)]
                exact inv.retained kept k
              · simp [← level]
              · simp only
                rw [List.getElem?_eq_none (by simp; omega), List.getElem?_eq_none (by simp; omega)]
            · rw [kept] at committed
              cases committed
  · cases stepped

theorem reject (inv : ReplayInv c source r) {r' : Replay M} (stepped : r.reject = some r') :
    ReplayInv c source r' := by
  unfold Replay.reject at stepped
  split at stepped
  · rename_i flight
    cases stepped
    refine inv.settleWith flight .thrown _ rfl rfl rfl rfl (fun _ h => by cases h)
      (fun h => by cases h) (by simp) (fun kept k => ?_) inv.dropped
    rw [inv.retained kept k]
    rcases Nat.lt_trichotomy k r.settled.length with below | rfl | above
    · simp [List.getElem?_append_left below]
    · simp
    · rw [List.getElem?_eq_none (by omega), List.getElem?_eq_none (by simp; omega)]
  · cases stepped

theorem resume (inv : ReplayInv c source r) {a : Nat} {r' : Replay M}
    (stepped : r.resume a = some r') : ReplayInv c source r' := by
  unfold Replay.resume at stepped
  cases found : r.attempts[a]? with
  | none => simp [found] at stepped
  | some t =>
      cases waiting : t.awaiting with
      | none => simp [found, waiting] at stepped
      | some k =>
          simp only [found, waiting] at stepped
          have same : (if r.pending = some k then { r with pending := none } else r).settled =
              r.settled ∧
              (if r.pending = some k then { r with pending := none } else r).reads = r.reads := by
            split <;> exact ⟨rfl, rfl⟩
          cases result : r.settled[k]? with
          | none => simp [result] at stepped
          | some x =>
              cases x with
              | thrown =>
                  simp only [result, Option.some.injEq] at stepped
                  subst stepped
                  refine inv.setAttempt a fun live => ?_
                  have level := inv.level a t found live
                  exact ⟨level.length, level.delivered, level.done, fun _ h => by simp at h,
                    level.seen⟩
              | done =>
                  simp only [result, Option.some.injEq] at stepped
                  subst stepped
                  have cleared := inv.clear result (by simp)
                  split
                  · rename_i stopped
                    exact cleared.setAttempt a fun live => by simp [stopped] at live
                  · rename_i live
                    have level := inv.level a t found (by simpa using live)
                    obtain ⟨rfl, -⟩ := level.awaits k waiting
                    refine cleared.setAttempt a fun _ => ?_
                    rw [same.1, same.2]
                    exact level.finish (inv.finished _ result).1
                      (Nat.le_of_lt (List.getElem?_eq_some_iff.1 result).1)
              | value m =>
                  simp only [result, Option.some.injEq] at stepped
                  subst stepped
                  have cleared := inv.clear result (by simp)
                  split
                  · rename_i stopped
                    exact cleared.setAttempt a fun live => by simp [stopped] at live
                  · rename_i live
                    have level := inv.level a t found (by simpa using live)
                    obtain ⟨rfl, -⟩ := level.awaits k waiting
                    refine cleared.setAttempt a fun _ => ?_
                    rw [same.1, same.2]
                    exact level.deliver result (inv.values _ _ result)

end ReplayInv

theorem replayInv_init (c : Codec M) (source : Nat → Option M) :
    ReplayInv c source ({} : Replay M) := by
  constructor <;> simp

/-- Every step of an open `Replay` in which no attempt falls behind keeps the invariant. -/
theorem ReplayInv.step {c : Codec M} {limit : Nat} {source : Nat → Option M}
    {r r' : Replay M} {e : ReplayEvent} (inv : ReplayInv c source r) (keeps : keepsUp r e = true)
    (stepped : Replay.step c limit source r e = some r') (opened : r'.closed = false) :
    ReplayInv c source r' := by
  cases e with
  | iterable => cases stepped; exact inv.iterable
  | next a => exact inv.next keeps stepped
  | settle reserved => exact inv.settle stepped
  | reject => exact inv.reject stepped
  | resume a => exact inv.resume stepped
  | stop a =>
      simp only [Replay.step, Replay.stop] at stepped
      cases found : r.attempts[a]? with
      | none => simp [found] at stepped
      | some t =>
          simp only [found, Option.some.injEq] at stepped
          subst stepped
          exact inv.setAttempt a fun live => by simp at live
  | commit => cases stepped; exact inv.commit
  | close => cases stepped; simp [Replay.close] at opened

theorem Replay.step_closed {c : Codec M} {limit : Nat} {source : Nat → Option M}
    {r r' : Replay M} {e : ReplayEvent} (stepped : Replay.step c limit source r e = some r')
    (opened : r'.closed = false) : r.closed = false := by
  cases e <;>
    simp only [Replay.step, Replay.next, Replay.settle, Replay.reject, Replay.resume,
      Replay.stop] at stepped
  case close => cases stepped; simp [Replay.close] at opened
  all_goals
    (repeat' split at stepped) <;> cases stepped <;>
      first
      | exact opened
      | (revert opened; simp only [Replay.join]; split <;> exact id)

/-! ## Runs -/

theorem replayInv_of_keepsUp {c : Codec M} {limit : Nat} {source : Nat → Option M}
    {r : Replay M} (reached : (replayMachine c limit source).Reaches (keepsUp · · = true) r)
    (opened : r.closed = false) : ReplayInv c source r := by
  revert opened
  refine Machine.Steps.invariant (fun r => r.closed = false → ReplayInv c source r)
    ?_ reached (fun _ => replayInv_init c source)
  intro r e r' inv keeps stepped opened
  exact (inv (Replay.step_closed stepped opened)).step keeps stepped opened

/-- **Replay fidelity.**  In every run in which no attempt calls `next()` while it
is behind the source after commitment, every attempt that was not stopped has
received a prefix of the source, and was told `done` only at its end. -/
theorem received_prefix_of_keepsUp (c : Codec M) (limit : Nat) (source : Nat → Option M)
    (r : Replay M) (reached : (replayMachine c limit source).Reaches (keepsUp · · = true) r)
    (opened : r.closed = false) (a : Nat) (t : Attempt M) (found : r.attempts[a]? = some t)
    (live : t.stopped = false) : Faithful source t := by
  have inv := replayInv_of_keepsUp reached opened
  exact (inv.level a t found live).faithful inv.values

/-! ## A replay, and a commit that overtakes it -/

def threeMessages (k : Nat) : Option (List UInt8) := [[1], [2], [3]][k]?

/-- Attempt 0 reads two messages and is refused; attempt 1 is started. -/
def refusedAfterTwo : List ReplayEvent :=
  [.iterable, .next 0, .settle true, .resume 0, .next 0, .settle true, .resume 0, .stop 0,
    .iterable]

/-- Attempt 1 replays both snapshots, is committed by its response headers and
goes on with the source. -/
def commitAfterReplay : List ReplayEvent :=
  refusedAfterTwo ++ [.next 1, .next 1, .commit, .next 1, .settle true, .resume 1]

/-- Response headers commit the RPC when attempt 1 has replayed one of the two
snapshots. -/
def commitDuringReplay : List ReplayEvent :=
  refusedAfterTwo ++ [.next 1, .commit, .next 1, .settle true, .resume 1]

theorem received_prefix_commitAfterReplay :
    ∃ r t, (replayMachine rawCodec 100 threeMessages).run (keepsUp · · = true) {}
        commitAfterReplay = some r ∧
      r.attempts[1]? = some t ∧ t.received = [[1], [2], [3]] ∧ Faithful threeMessages t := by
  refine ⟨_, _, rfl, rfl, rfl, ?_⟩
  exact received_prefix_of_keepsUp rawCodec 100 threeMessages _
    (Machine.steps_of_run commitAfterReplay rfl) rfl 1 _ rfl rfl

/-- Attempt 1 is handed the first and the third message: the second was dropped
with the snapshots. -/
theorem commitDuringReplay_skips :
    ¬ ∀ r, (replayMachine rawCodec 100 threeMessages).Reaches Machine.always r →
      r.closed = false → ∀ (a : Nat) t, r.attempts[a]? = some t → t.stopped = false →
        Faithful threeMessages t := by
  intro faithful
  have skipped := faithful _ (Machine.steps_of_run commitDuringReplay rfl) rfl 1
    { index := 2, received := [[1], [3]], seen := 3 } rfl rfl
  have second := skipped.1 1 (by decide)
  simp [threeMessages] at second

end GrpcBridge.Retry
