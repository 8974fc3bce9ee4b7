/-
# Recovery.Leases -- the reference count of a shared connection

`references` of an entry is meant to be the number of its pending acquisitions and
unreleased leases.  It is, in every run in which no listener calls `release` of the lease
whose own `release` is closing the connection: the variable that makes `release`
idempotent is assigned when `closeEntry` returns, and the listeners run before that.

`Sound` is the invariant.  It is stated with a hole: between the count that ends the use
of an entry and the `closeEntry` that follows, that entry is `leaving`, and counts as
closed.  `closeEntry` fills the hole.
-/
import GrpcBridge.Recovery.Shared
import GrpcBridge.Recovery.Lifecycle
import GrpcBridge.Theory.Indexed

namespace GrpcBridge.Recovery

set_option autoImplicit false

open Theory

/-! ## What an entry sees of its connection -/

namespace Connection

/-- Nothing but `close` stops a connection, and the `initial` promise settles once. -/
structure Lasts (c c' : Connection) : Prop where
  stopped : c'.stopped = c.stopped
  settled : c.initial ≠ .pending → c'.initial = c.initial

theorem settle_settled {p : Initial} (outcome : Initial) (settled : p ≠ .pending) :
    p.settle outcome = p := by
  cases p with
  | pending => exact absurd rfl settled
  | ready => rfl
  | failed => rfl

theorem emit_quiet (c : Connection) (event : BridgeEvent) :
    (c.emit event fun _ => false).toLife = { c.toLife with state := event.state } := by
  rw [emit_life, List.any_eq_false.2 (fun _ _ => Bool.false_ne_true)]
  rfl

theorem connect_lasts (c : Connection) : c.Lasts (c.connect fun _ => false) := by
  have quiet := c.emit_quiet ⟨.connecting, none⟩
  have stopped := congrArg Life.stopped quiet
  have initial := congrArg Life.initial quiet
  unfold connect
  dsimp only
  split
  · exact ⟨stopped, fun settled => by
      rw [initial]
      exact settle_settled _ settled⟩
  · exact ⟨stopped, fun _ => initial⟩

theorem retry_lasts (c : Connection) (reason : Reason) (random : ℚ) :
    c.Lasts (c.retry reason (fun _ => false) random) := by
  have quiet := c.emit_quiet ⟨.transientFailure, some reason⟩
  have stopped := congrArg Life.stopped quiet
  have initial := congrArg Life.initial quiet
  unfold retry
  dsimp only
  split
  · exact ⟨stopped, fun _ => initial⟩
  · exact ⟨stopped, fun _ => initial⟩

theorem receive_lasts (c : Connection) (returned : Option Nat) (throws : Bool) :
    c.Lasts (c.receive returned throws).2 := by
  cases returned with
  | none => exact ⟨rfl, fun _ => rfl⟩
  | some s => exact ⟨rfl, fun _ => rfl⟩

theorem dialed_lasts (c : Connection) (returned : Option Nat) (throws : Bool) :
    c.Lasts (c.dialed returned throws fun _ => false) := by
  obtain ⟨stopped, settled⟩ := receive_lasts { c with dialing := c.dialing - 1 } returned throws
  unfold dialed
  dsimp only
  split
  · exact ⟨stopped, settled⟩
  · have quiet := emit_quiet ((receive { c with dialing := c.dialing - 1 } returned throws).2.install
      (receive { c with dialing := c.dialing - 1 } returned throws).1) ⟨.open, none⟩
    refine ⟨(congrArg Life.stopped quiet).trans stopped, ?_⟩
    intro ended
    have same := (congrArg Life.initial quiet).trans (settled ended)
    dsimp only
    rw [same]
    exact settle_settled _ ended

theorem dialFailed_lasts (c : Connection) (random : ℚ) :
    c.Lasts (c.dialFailed (fun _ => false) random) := by
  unfold dialFailed
  dsimp only
  split
  · exact ⟨rfl, settle_settled _⟩
  · obtain ⟨stopped, settled⟩ := retry_lasts
      { c with dialing := c.dialing - 1, initial := c.initial.settle .failed } .error random
    refine ⟨stopped, ?_⟩
    intro ended
    have same : c.initial.settle .failed = c.initial := settle_settled _ ended
    exact (settled (by rw [same]; exact ended)).trans same

theorem lost_lasts (c : Connection) (s : Nat) (reason : Reason) (random : ℚ) :
    c.Lasts (c.lost s reason (fun _ => false) random) := by
  unfold lost
  dsimp only
  split
  · exact ⟨rfl, fun _ => rfl⟩
  · obtain ⟨stopped, settled⟩ := retry_lasts
      { c with
        sessions := c.sessions.modify s fun session =>
          { session with onClosed := session.onClosed - 1 }
        session := none } reason random
    exact ⟨stopped, settled⟩

theorem drained_lasts (c : Connection) (s : Nat) : c.Lasts (c.drained s fun _ => false) := by
  unfold drained
  dsimp only
  split
  · exact ⟨rfl, fun _ => rfl⟩
  · have joined := connect_lasts
      { c with
        draining := if s ∈ c.draining then c.draining else c.draining ++ [s]
        sessions := (c.sessions.modify s fun session =>
            { session with onDraining := session.onDraining - 1 }).modify s fun session =>
              { session with onDrained := session.onDrained + 1 }
        session := none }
    exact ⟨joined.stopped, joined.settled⟩

/-- **No event but `close` stops a connection or changes a settled promise.** -/
theorem step_lasts {c c' : Connection} {event e : Event} (unowned : event.unowned = some e)
    (stepped : c.step e = some c') : c.Lasts c' := by
  cases event with
  | close => cases unowned
  | start closes =>
      cases unowned
      cases step_cases stepped
      split
      · exact ⟨rfl, fun _ => rfl⟩
      · have joined := connect_lasts { c with started := true }
        exact ⟨joined.stopped, joined.settled⟩
  | dialed returned throws closes =>
      cases unowned
      cases step_cases stepped
      exact c.dialed_lasts returned throws
  | dialFailed closes random =>
      cases unowned
      cases step_cases stepped
      exact c.dialFailed_lasts random
  | timer closes =>
      cases unowned
      cases step_cases stepped
      have joined := connect_lasts { c with timer := none }
      exact ⟨joined.stopped, joined.settled⟩
  | lost s closes random =>
      cases unowned
      cases step_cases stepped
      exact c.lost_lasts s _ random
  | drained s closes =>
      cases unowned
      cases step_cases stepped
      exact c.drained_lasts s
  | advance ms | channelCloses s ok | channelDrains s | removed s | closeSettles ok
  | subscribe l closes | unsubscribe l | select wait timeoutMs aborted spent | cancel k | expire k
  | resume k =>
      cases unowned
      cases step_cases stepped
      exact ⟨rfl, fun _ => rfl⟩

theorem endClose_lasts (c : Connection) (channels : List Nat) : c.Lasts (c.endClose channels) := by
  have initial : ∀ (l : Life), (l.closeChannels channels).initial = l.initial := by
    induction channels with
    | nil => exact fun _ => rfl
    | cons s rest ih =>
        intro l
        unfold Life.closeChannels
        split
        · rfl
        · exact ih _
  exact ⟨Life.closeChannels_stopped channels c.toLife, fun _ => initial c.toLife⟩

end Connection

/-! ## The invariant -/

namespace Shared

def pending (s : Shared) (k : Nat) : Nat :=
  s.acquirers.countP fun acquirer => decide (acquirer = ⟨k, .pending⟩)

def unreleased (s : Shared) (k : Nat) : Nat :=
  s.leases.countP fun lease => decide (lease.entry = k) && !lease.released

/-- The entry is closed, or about to be. -/
def Down (leaving : Option Nat) (k : Nat) (entry : SharedEntry) : Prop :=
  entry.connection.stopped = true ∨ leaving = some k

/-- The invariant, when entry `leaving` is about to be closed and the `release` of lease
`releasing` has still to keep its promise. -/
structure Sound (leaving releasing : Option Nat) (s : Shared) : Prop where
  counted : ∀ {k : Nat} {entry : SharedEntry}, s.entries[k]? = some entry →
    entry.references = s.pending k + s.unreleased k
  acquired : ∀ acquirer ∈ s.acquirers, acquirer.entry < s.entries.length
  leased : ∀ lease ∈ s.leases, lease.entry < s.entries.length
  known : ∀ {k}, s.entry = some k → k < s.entries.length
  current : ∀ {k entry}, s.entries[k]? = some entry → (s.entry = some k ↔ ¬ Down leaving k entry)
  ended : s.disposed = true → s.entry = none
  memo : ∀ {l lease}, s.leases[l]? = some lease → lease.released = true →
    lease.release = true ∨ releasing = some l ∨ .release l ∈ s.frames.map (·.caller)
  /-- Who waits for a closed entry will not get it. -/
  refused : ∀ {k entry}, s.entries[k]? = some entry → ⟨k, .pending⟩ ∈ s.acquirers →
    Down leaving k entry → s.disposed = true ∨ entry.connection.initial = .failed
  failed : ∀ {k entry}, s.entries[k]? = some entry → ⟨k, .failed⟩ ∈ s.acquirers →
    Down leaving k entry
  held : ∀ {k entry lease}, s.entries[k]? = some entry → lease ∈ s.leases → lease.entry = k →
    lease.released = false → Down leaving k entry → s.disposed = true
  readied : ∀ {k entry lease}, s.entries[k]? = some entry → lease ∈ s.leases → lease.entry = k →
    entry.connection.initial = .ready

/-- An entry that is not closed has a user, but perhaps entry `leaving`. -/
def Used (leaving : Option Nat) (s : Shared) : Prop :=
  ∀ k entry, s.entries[k]? = some entry → ¬ Down leaving k entry → 0 < entry.references

variable {s t : Shared} {leaving releasing : Option Nat}

theorem unreleased_eq_zero {k : Nat} (none : s.unreleased k = 0) {lease : Lease}
    (member : lease ∈ s.leases) (owner : lease.entry = k) : lease.released = true := by
  have all := List.countP_eq_zero.1 none lease member
  simpa [owner] using all

theorem pending_eq_zero {k : Nat} (none : s.pending k = 0) : ⟨k, .pending⟩ ∉ s.acquirers := by
  intro member
  have all := List.countP_eq_zero.1 none _ member
  exact all (decide_eq_true rfl)

/-! ### Changes of the entries -/

/-- What is found in the table afterwards stands for what was found there before. -/
structure Stands (leaving leaving' : Option Nat) (before after : List SharedEntry) : Prop where
  length : after.length = before.length
  entries : ∀ {k entry'}, after[k]? = some entry' → ∃ entry, before[k]? = some entry ∧
    entry'.references = entry.references ∧ (Down leaving' k entry' ↔ Down leaving k entry) ∧
    (entry.connection.initial ≠ .pending →
      entry'.connection.initial = entry.connection.initial)

theorem Sound.stands {leaving' : Option Nat} {entries : List SharedEntry}
    (sound : Sound leaving releasing s) (stands : Stands leaving leaving' s.entries entries) :
    Sound leaving' releasing { s with entries } where
  counted found := by
    obtain ⟨entry, was, references, -, -⟩ := stands.entries found
    rw [references]
    exact sound.counted was
  acquired acquirer member := by
    rw [stands.length]
    exact sound.acquired acquirer member
  leased lease member := by
    rw [stands.length]
    exact sound.leased lease member
  known current := by
    rw [stands.length]
    exact sound.known current
  current found := by
    obtain ⟨entry, was, -, down, -⟩ := stands.entries found
    rw [down]
    exact sound.current was
  ended := sound.ended
  memo := sound.memo
  refused found waits closed := by
    obtain ⟨entry, was, -, down, settled⟩ := stands.entries found
    obtain disposed | failure := sound.refused was waits (down.1 closed)
    · exact .inl disposed
    · refine .inr ((settled ?_).trans failure)
      rw [failure]
      rintro ⟨⟩
  failed found member := by
    obtain ⟨entry, was, -, down, -⟩ := stands.entries found
    exact down.2 (sound.failed was member)
  held found member owner open' closed := by
    obtain ⟨entry, was, -, down, -⟩ := stands.entries found
    exact sound.held was member owner open' (down.1 closed)
  readied found member owner := by
    obtain ⟨entry, was, -, -, settled⟩ := stands.entries found
    have ready := sound.readied was member owner
    refine (settled ?_).trans ready
    rw [ready]
    rintro ⟨⟩

theorem Used.stands {leaving' : Option Nat} {entries : List SharedEntry}
    (used : Used leaving s) (stands : Stands leaving leaving' s.entries entries) :
    Used leaving' { s with entries } := by
  intro k entry found running
  obtain ⟨was, before, references, down, -⟩ := stands.entries found
  rw [references]
  exact used k was before (fun closed => running (down.2 closed))

/-- The connection of one entry has moved on. -/
theorem stands_lasts (leaving : Option Nat) {entries : List SharedEntry} {k : Nat}
    {f : Connection → Connection}
    (lasts : ∀ entry, entries[k]? = some entry → entry.connection.Lasts (f entry.connection)) :
    Stands leaving leaving entries
      (entries.modify k fun entry => { entry with connection := f entry.connection }) where
  length := List.length_modify ..
  entries found := by
    obtain ⟨entry, was, same⟩ := Indexed.found_modify found
    refine ⟨entry, was, ?_⟩
    split at same
    · rename_i own
      obtain ⟨stopped, settled⟩ := lasts entry (own ▸ was)
      subst same
      exact ⟨rfl, by rw [Down, Down, stopped], settled⟩
    · subst same
      exact ⟨rfl, Iff.rfl, fun _ => rfl⟩

/-- The entry that was to leave is closed. -/
theorem stands_closed {entries : List SharedEntry} {k : Nat}
    (closed : ∀ entry, entries[k]? = some entry → entry.connection.stopped = true) :
    Stands (some k) none entries entries where
  length := rfl
  entries {j entry} found := by
    refine ⟨entry, found, rfl, ?_, fun _ => rfl⟩
    constructor
    · rintro (stopped | nobody)
      · exact .inl stopped
      · cases nobody
    · rintro (stopped | own)
      · exact .inl stopped
      · cases own
        exact .inl (closed entry found)

/-- `close` has been called for the entry that was to leave. -/
theorem stands_beginClose {entries : List SharedEntry} {k : Nat} :
    Stands (some k) none entries
      (entries.modify k fun entry => { entry with connection := entry.connection.beginClose }) where
  length := List.length_modify ..
  entries {j _} found := by
    obtain ⟨entry, was, same⟩ := Indexed.found_modify found
    refine ⟨entry, was, ?_⟩
    split at same
    · rename_i own
      subst own same
      refine ⟨rfl, ?_, Connection.settle_settled _⟩
      exact ⟨fun _ => .inr rfl, fun _ => .inl rfl⟩
    · rename_i other
      subst same
      refine ⟨rfl, ?_, fun _ => rfl⟩
      rw [Down, Down, or_iff_left (by rintro ⟨⟩), or_iff_left (by rintro ⟨⟩; exact other rfl)]

/-! ### closeEntry -/

/-- Only the lease whose `release` called may have no promise yet. -/
def Calls (releasing : Option Nat) (caller : Caller) : Prop :=
  ∀ l, releasing = some l → caller = .release l

theorem Sound.closeReturns {caller : Caller} (sound : Sound none releasing s)
    (calls : Calls releasing caller) (k : Nat) : Sound none none (s.closeReturns k caller) := by
  have quiet (other : ∀ l, caller ≠ .release l) : Sound none none s := by
    refine { sound with memo := ?_ }
    intro l lease found released
    obtain kept | own | pushed := sound.memo found released
    · exact .inl kept
    · exact absurd (calls l own) (other l)
    · exact .inr (.inr pushed)
  cases caller with
  | acquire => exact { quiet (by rintro l ⟨⟩) with }
  | dispose => exact { quiet (by rintro l ⟨⟩) with }
  | release l =>
      have leases {lease : Lease} (member : lease ∈ (s.closeReturns k (.release l)).leases) :
          ∃ was ∈ s.leases, lease.entry = was.entry ∧ lease.released = was.released := by
        obtain ⟨i, found⟩ := List.getElem?_of_mem member
        obtain ⟨was, before, same⟩ := Indexed.found_modify found
        refine ⟨was, List.mem_of_getElem? before, ?_⟩
        subst same
        split
        · exact ⟨rfl, rfl⟩
        · exact ⟨rfl, rfl⟩
      refine { sound with
        counted := ?_, leased := ?_, memo := ?_, held := ?_, readied := ?_ }
      · intro j entry found
        have same : (s.closeReturns k (.release l)).unreleased j = s.unreleased j := by
          apply Indexed.countP_modify
          intro lease
          rfl
        rw [same]
        exact sound.counted found
      · intro lease member
        obtain ⟨was, before, owner, -⟩ := leases member
        rw [owner]
        exact sound.leased was before
      · intro i lease found released
        obtain ⟨was, before, same⟩ := Indexed.found_modify found
        split at same
        · subst same
          exact .inl rfl
        · rename_i other
          subst same
          obtain kept | own | pushed := sound.memo before released
          · exact .inl kept
          · cases calls i own
            exact absurd rfl other
          · exact .inr (.inr pushed)
      · intro j entry lease found member owner open' closed
        obtain ⟨was, before, owner', released⟩ := leases member
        exact sound.held found before (owner'.symm.trans owner) (released.symm.trans open') closed
      · intro j entry lease found member owner
        obtain ⟨was, before, owner', -⟩ := leases member
        exact sound.readied found before (owner'.symm.trans owner)

/-- **`closeEntry` closes the entry that was to leave.** -/
theorem Sound.closeEntry {k : Nat} {caller : Caller} (sound : Sound (some k) releasing s)
    (calls : Calls releasing caller) (inside : k < s.entries.length) :
    Sound none none (s.closeEntry k caller) := by
  unfold Shared.closeEntry
  rw [List.getElem?_eq_getElem inside]
  dsimp only
  split
  · rename_i stopped
    have filled : Sound none releasing s := sound.stands <| stands_closed fun entry found => by
      cases (List.getElem?_eq_getElem inside).symm.trans found
      exact stopped
    exact filled.closeReturns calls k
  · have filled := sound.stands stands_beginClose
    refine { filled with memo := ?_ }
    intro l lease found released
    obtain kept | own | pushed := sound.memo found released
    · exact .inl kept
    · rw [calls l own]
      exact .inr (.inr (List.mem_cons_self ..))
    · exact .inr (.inr (List.mem_cons_of_mem _ pushed))

theorem Used.closeReturns {caller : Caller} (used : Used none s) (k : Nat) :
    Used none (s.closeReturns k caller) := by
  cases caller with
  | acquire => exact used
  | release l => exact used
  | dispose => exact used

theorem Used.closeEntry {k : Nat} {caller : Caller} (used : Used (some k) s)
    (inside : k < s.entries.length) : Used none (s.closeEntry k caller) := by
  unfold Shared.closeEntry
  rw [List.getElem?_eq_getElem inside]
  dsimp only
  split
  · rename_i stopped
    have filled : Used none s := used.stands <| stands_closed fun entry found => by
      cases (List.getElem?_eq_getElem inside).symm.trans found
      exact stopped
    exact filled.closeReturns k
  · exact used.stands stands_beginClose

/-! ### Counting -/

theorem found_count {k j : Nat} {change : Int} {entry : SharedEntry}
    (found : (s.count k change).entries[j]? = some entry) :
    ∃ was, s.entries[j]? = some was ∧ entry.connection = was.connection ∧
      entry.references = was.references + if k = j then change else 0 := by
  obtain ⟨was, before, same⟩ := Indexed.found_modify found
  refine ⟨was, before, ?_⟩
  subst same
  split
  · exact ⟨rfl, rfl⟩
  · exact ⟨rfl, (Int.add_zero _).symm⟩

theorem down_congr {k : Nat} {entry entry' : SharedEntry}
    (same : entry'.connection = entry.connection) :
    Down leaving k entry' ↔ Down leaving k entry := by
  rw [Down, Down, same]

theorem Used.count {k : Nat} (used : Used none s) (change : Int) :
    Used (some k) (s.count k change) := by
  intro j entry found running
  obtain ⟨was, before, same, references⟩ := found_count found
  have other : k ≠ j := by
    rintro rfl
    exact running (.inr rfl)
  rw [references, if_neg other, Int.add_zero]
  apply used j was before
  intro closed
  obtain stopped | nobody := closed
  · exact running (.inl (by rw [same]; exact stopped))
  · cases nobody

/-- `acquire` joins the current entry. -/
theorem Sound.join {k : Nat} (sound : Sound none none s) (current : s.entry = some k) :
    Sound none none (s.join k) := by
  have grown (j : Nat) : (s.join k).pending j = s.pending j + if k = j then 1 else 0 := by
    simp only [pending, Shared.join, List.countP_append, List.countP_singleton]
    by_cases own : k = j <;> simp [own]
  have acquirer {a : Acquirer} (member : a ∈ (s.join k).acquirers) :
      a ∈ s.acquirers ∨ a = ⟨k, .pending⟩ := by
    simpa [Shared.join] using member
  have length : (s.join k).entries.length = s.entries.length := List.length_modify ..
  refine ⟨?_, ?_, ?_, ?_, ?_, sound.ended, sound.memo, ?_, ?_, ?_, ?_⟩
  · intro j entry found
    obtain ⟨was, before, -, references⟩ := found_count found
    have total := sound.counted before
    rw [references, grown, total]
    have same : (s.join k).unreleased j = s.unreleased j := rfl
    rw [same]
    split <;> push_cast <;> omega
  · intro a member
    rw [length]
    obtain was | rfl := acquirer member
    · exact sound.acquired a was
    · exact sound.known current
  · intro lease member
    rw [length]
    exact sound.leased lease member
  · intro j named
    rw [length]
    exact sound.known named
  · intro j entry found
    obtain ⟨was, before, same, -⟩ := found_count found
    rw [down_congr same]
    exact sound.current before
  · intro j entry found member closed
    obtain ⟨was, before, same, -⟩ := found_count found
    rw [down_congr same] at closed
    rw [same]
    obtain earlier | own := acquirer member
    · exact sound.refused before earlier closed
    · obtain rfl : j = k := congrArg Acquirer.entry own
      exact absurd closed ((sound.current before).1 current)
  · intro j entry found member
    obtain ⟨was, before, same, -⟩ := found_count found
    rw [down_congr same]
    obtain earlier | now := acquirer member
    · exact sound.failed before earlier
    · cases now
  · intro j entry lease found member owner open' closed
    obtain ⟨was, before, same, -⟩ := found_count found
    rw [down_congr same] at closed
    exact sound.held before member owner open' closed
  · intro j entry lease found member owner
    obtain ⟨was, before, same, -⟩ := found_count found
    rw [same]
    exact sound.readied before member owner

theorem Used.join {k : Nat} (used : Used (some k) s) (sound : Sound none none s) :
    Used none (s.join k) := by
  intro j entry found running
  obtain ⟨was, before, same, references⟩ := found_count found
  rw [references]
  by_cases own : k = j
  · have total := sound.counted before
    rw [if_pos own]
    omega
  · rw [if_neg own, Int.add_zero]
    apply used j was before
    rintro (stopped | other)
    · exact running (.inl (by rw [same]; exact stopped))
    · cases other
      exact own rfl

/-- `acquire` makes a new entry. -/
theorem Sound.opened {c : Connection} (sound : Sound none none s) (free : s.entry = none)
    (undisposed : s.disposed = false) (running : c.stopped = false) :
    Sound none none { s with
      entries := s.entries ++ [{ connection := c }], entry := some s.entries.length } := by
  have longer {i : Nat} (below : i < s.entries.length) :
      i < (s.entries ++ [({ connection := c } : SharedEntry)]).length := by
    rw [List.length_append]
    omega
  have fresh : s.pending s.entries.length = 0 ∧ s.unreleased s.entries.length = 0 := by
    constructor
    · rw [pending, List.countP_eq_zero]
      intro acquirer member named
      have below := sound.acquired acquirer member
      rw [of_decide_eq_true named] at below
      exact absurd below (lt_irrefl _)
    · rw [unreleased, List.countP_eq_zero]
      intro lease member named
      have below := sound.leased lease member
      rw [Bool.and_eq_true, decide_eq_true_eq] at named
      exact absurd below (by rw [named.1]; exact lt_irrefl _)
  refine ⟨?_, ?_, ?_, ?_, ?_, ?_, sound.memo, ?_, ?_, ?_, ?_⟩
  · intro j entry found
    obtain before | ⟨rfl, rfl⟩ := Indexed.found_append found
    · exact sound.counted before
    · show (0 : Int) = s.pending s.entries.length + s.unreleased s.entries.length
      rw [fresh.1, fresh.2]
      rfl
  · exact fun acquirer member => longer (sound.acquired acquirer member)
  · exact fun lease member => longer (sound.leased lease member)
  · intro j named
    cases named
    rw [List.length_append]
    exact Nat.lt_succ_self _
  · intro j entry found
    obtain before | ⟨rfl, rfl⟩ := Indexed.found_append found
    · have closed := (sound.current before).not.1 (by rw [free]; rintro ⟨⟩)
      refine ⟨?_, fun open' => absurd open' closed⟩
      rintro ⟨⟩
      have below := (List.getElem?_eq_some_iff.1 before).1
      exact absurd below (lt_irrefl _)
    · refine ⟨?_, fun _ => rfl⟩
      rintro - (stopped | nobody)
      · rw [running] at stopped
        cases stopped
      · cases nobody
  · intro disposed
    rw [undisposed] at disposed
    cases disposed
  · intro j entry found member closed
    obtain before | ⟨rfl, rfl⟩ := Indexed.found_append found
    · exact sound.refused before member closed
    · exact absurd (sound.acquired _ member) (lt_irrefl _)
  · intro j entry found member
    obtain before | ⟨rfl, rfl⟩ := Indexed.found_append found
    · exact sound.failed before member
    · exact absurd (sound.acquired _ member) (lt_irrefl _)
  · intro j entry lease found member owner open' closed
    obtain before | ⟨rfl, rfl⟩ := Indexed.found_append found
    · exact sound.held before member owner open' closed
    · exact absurd (sound.leased lease member) (by rw [owner]; exact lt_irrefl _)
  · intro j entry lease found member owner
    obtain before | ⟨rfl, rfl⟩ := Indexed.found_append found
    · exact sound.readied before member owner
    · exact absurd (sound.leased lease member) (by rw [owner]; exact lt_irrefl _)

theorem Used.opened {c : Connection} (used : Used none s) :
    Used (some s.entries.length) { s with
      entries := s.entries ++ [{ connection := c }], entry := some s.entries.length } := by
  intro j entry found running
  obtain before | ⟨rfl, rfl⟩ := Indexed.found_append found
  · apply used j entry before
    rintro (stopped | nobody)
    · exact running (.inl stopped)
    · cases nobody
  · exact absurd (.inr rfl) running

/-- `acquire` returns a lease. -/
theorem Sound.lease {a k : Nat} {entry : SharedEntry} (sound : Sound none none s)
    (waits : s.acquirers[a]? = some ⟨k, .pending⟩) (found : s.entries[k]? = some entry)
    (ready : entry.connection.initial = .ready) (undisposed : s.disposed = false) :
    Sound none none { s with
      acquirers := s.acquirers.set a ⟨k, .leased⟩, leases := s.leases ++ [{ entry := k }] } := by
  have acquirer {b : Acquirer} (member : b ∈ s.acquirers.set a ⟨k, .leased⟩) :
      b ∈ s.acquirers ∨ b = ⟨k, .leased⟩ := List.mem_or_eq_of_mem_set member
  have lease {b : Lease} (member : b ∈ s.leases ++ [({ entry := k } : Lease)]) :
      b ∈ s.leases ∨ b = { entry := k } := by
    simpa using member
  have inside : k < s.entries.length := (List.getElem?_eq_some_iff.1 found).1
  -- the promise resolved, so the entry is not closed
  have open' : ¬ Down none k entry := by
    intro closed
    obtain disposed | failure := sound.refused found (List.mem_of_getElem? waits) closed
    · rw [undisposed] at disposed
      cases disposed
    · rw [ready] at failure
      cases failure
  refine ⟨?_, ?_, ?_, sound.known, sound.current, sound.ended, ?_, ?_, ?_, ?_, ?_⟩
  · intro j entry' before
    have total := sound.counted before
    have fewer := Indexed.countP_set_add
      (fun acquirer : Acquirer => decide (acquirer = ⟨j, .pending⟩)) waits ⟨k, .leased⟩
    simp only [pending, unreleased, List.countP_append, List.countP_singleton] at total ⊢
    by_cases own : k = j
    · simp [own] at fewer ⊢
      omega
    · simp [own] at fewer ⊢
      omega
  · intro b member
    obtain was | rfl := acquirer member
    · exact sound.acquired b was
    · exact inside
  · intro b member
    obtain was | rfl := lease member
    · exact sound.leased b was
    · exact inside
  · intro l b before released
    obtain was | ⟨-, rfl⟩ := Indexed.found_append before
    · exact sound.memo was released
    · cases released
  · intro j entry' before member closed
    obtain was | new := acquirer member
    · exact sound.refused before was closed
    · cases new
  · intro j entry' before member
    obtain was | new := acquirer member
    · exact sound.failed before was
    · cases new
  · intro j entry' b before member owner unreleased closed
    obtain was | rfl := lease member
    · exact sound.held before was owner unreleased closed
    · cases owner
      cases found.symm.trans before
      exact absurd closed open'
  · intro j entry' b before member owner
    obtain was | rfl := lease member
    · exact sound.readied before was owner
    · cases owner
      cases found.symm.trans before
      exact ready

/-- A lease is released, and its entry counts one user less. -/
theorem Sound.released {l : Nat} {lease : Lease} (sound : Sound none none s)
    (found : s.leases[l]? = some lease) (unreleased' : lease.released = false) (lease' : Lease)
    (owner : lease'.entry = lease.entry) (released : lease'.released = true) :
    Sound none (some l) ({ s with leases := s.leases.set l lease' }.count lease.entry (-1)) := by
  have leases {b : Lease} (member : b ∈ s.leases.set l lease') : ∃ was ∈ s.leases,
      b.entry = was.entry ∧ (b.released = false → was.released = false) := by
    obtain was | rfl := List.mem_or_eq_of_mem_set member
    · exact ⟨b, was, rfl, id⟩
    · exact ⟨lease, List.mem_of_getElem? found, owner, fun _ => unreleased'⟩
  have length (c : Int) : (count { s with leases := s.leases.set l lease' } lease.entry c).entries.length
      = s.entries.length := List.length_modify ..
  refine ⟨?_, ?_, ?_, ?_, ?_, sound.ended, ?_, ?_, ?_, ?_, ?_⟩
  · intro j entry counted
    obtain ⟨was, before, -, references⟩ := found_count counted
    have total := sound.counted before
    have fewer := Indexed.countP_set_add
      (fun b : Lease => decide (b.entry = j) && !b.released) found lease'
    have acquirers : (count { s with leases := s.leases.set l lease' } lease.entry (-1)).pending j =
        s.pending j := rfl
    have leases' : (count { s with leases := s.leases.set l lease' } lease.entry (-1)).unreleased j =
        (s.leases.set l lease').countP fun b => decide (b.entry = j) && !b.released := rfl
    rw [references, acquirers, leases', total]
    rw [owner, unreleased', released] at fewer
    rw [unreleased]
    by_cases own : lease.entry = j
    · simp [own] at fewer ⊢
      omega
    · simp [own] at fewer ⊢
      omega
  · intro a member
    rw [length]
    exact sound.acquired a member
  · intro b member
    rw [length]
    obtain ⟨was, before, same, -⟩ := leases member
    rw [same]
    exact sound.leased was before
  · intro j named
    rw [length]
    exact sound.known named
  · intro j entry counted
    obtain ⟨was, before, same, -⟩ := found_count counted
    rw [down_congr same]
    exact sound.current before
  · intro i b before freed
    obtain was | ⟨own, -⟩ := Indexed.found_set before
    · obtain kept | ⟨⟨⟩⟩ | pushed := sound.memo was freed
      · exact .inl kept
      · exact .inr (.inr pushed)
    · exact .inr (.inl (congrArg some own))
  · intro j entry counted member closed
    obtain ⟨was, before, same, -⟩ := found_count counted
    rw [down_congr same] at closed
    rw [same]
    exact sound.refused before member closed
  · intro j entry counted member
    obtain ⟨was, before, same, -⟩ := found_count counted
    rw [down_congr same]
    exact sound.failed before member
  · intro j entry b counted member named open' closed
    obtain ⟨was, before, same, -⟩ := found_count counted
    obtain ⟨b', member', owner', freed⟩ := leases member
    rw [down_congr same] at closed
    exact sound.held before member' (owner'.symm.trans named) (freed open') closed
  · intro j entry b counted member named
    obtain ⟨was, before, same, -⟩ := found_count counted
    obtain ⟨b', member', owner', -⟩ := leases member
    rw [same]
    exact sound.readied before member' (owner'.symm.trans named)

/-! ### Leaving -/

theorem forget_entry (k j : Nat) : (s.forget k).entry = some j ↔ s.entry = some j ∧ j ≠ k := by
  unfold forget
  split
  · rename_i current
    rw [current]
    constructor
    · rintro ⟨⟩
    · rintro ⟨⟨⟩, other⟩
      exact absurd rfl other
  · rename_i other
    refine ⟨fun named => ⟨named, ?_⟩, fun both => both.1⟩
    rintro rfl
    exact other named

theorem forget_fields (k : Nat) :
    ∃ entry, s.forget k = { s with entry } ∧ ∀ j, entry = some j ↔ s.entry = some j ∧ j ≠ k := by
  refine ⟨(s.forget k).entry, ?_, s.forget_entry k⟩
  unfold forget
  split <;> rfl

theorem Used.forget {k : Nat} (used : Used leaving s) : Used leaving (s.forget k) := by
  obtain ⟨entry, same, -⟩ := s.forget_fields k
  rw [same]
  exact used

theorem forget_count_length (k : Nat) (change : Int) :
    s.entries.length = ((s.count k change).forget k).entries.length := by
  obtain ⟨entry, same, -⟩ := (s.count k change).forget_fields k
  rw [same]
  exact (List.length_modify ..).symm

/-- Entry `k` is to be closed: nobody will lease it, and nobody has. -/
theorem Sound.leave {k : Nat} (sound : Sound none releasing s)
    (refused : ∀ {entry}, s.entries[k]? = some entry → ⟨k, .pending⟩ ∈ s.acquirers →
      s.disposed = true ∨ entry.connection.initial = .failed)
    (held : ∀ {lease}, lease ∈ s.leases → lease.entry = k → lease.released = false →
      s.disposed = true) :
    Sound (some k) releasing (s.forget k) := by
  obtain ⟨entry, same, named⟩ := s.forget_fields k
  have down {j : Nat} {entry : SharedEntry} :
      Down (some k) j entry ↔ Down none j entry ∨ j = k := by
    rw [Down, Down, or_iff_left (show none ≠ some j by rintro ⟨⟩)]
    exact or_congr Iff.rfl ⟨fun own => (Option.some.inj own).symm, congrArg some ∘ Eq.symm⟩
  rw [same]
  refine { sound with known := ?_, current := ?_, ended := ?_, refused := ?_, failed := ?_, held := ?_ }
  · exact fun current => sound.known ((named _).1 current).1
  · intro j entry' found
    show entry = some j ↔ _
    rw [named, down, not_or, sound.current found]
  · intro disposed
    apply Option.eq_none_iff_forall_ne_some.2
    intro j current
    have nobody := sound.ended disposed
    rw [((named j).1 current).1] at nobody
    cases nobody
  · intro j entry' found waits closed
    obtain closed | rfl := down.1 closed
    · exact sound.refused found waits closed
    · exact refused found waits
  · exact fun found member => down.2 (.inl (sound.failed found member))
  · intro j entry' lease found member owner open' closed
    obtain closed | rfl := down.1 closed
    · exact sound.held found member owner open' closed
    · exact held member owner open'

/-- `acquire` has been refused its entry. -/
theorem Sound.refuse {a k : Nat} {entry : SharedEntry} (sound : Sound none none s)
    (waits : s.acquirers[a]? = some ⟨k, .pending⟩) (found : s.entries[k]? = some entry)
    (refused : s.disposed = true ∨ entry.connection.initial = .failed) :
    Sound (some k) none
      (({ s with acquirers := s.acquirers.set a ⟨k, .failed⟩ }.count k (-1)).forget k) := by
  have left : Sound (some k) none (s.forget k) := by
    apply sound.leave
    · intro entry' found' _
      cases found.symm.trans found'
      exact refused
    · intro lease member owner _
      obtain disposed | failure := refused
      · exact disposed
      · rw [sound.readied found member owner] at failure
        cases failure
  obtain ⟨current, same, -⟩ := s.forget_fields k
  have moved : ({ s with acquirers := s.acquirers.set a ⟨k, .failed⟩ }.count k (-1)).forget k =
      { s.forget k with
        acquirers := s.acquirers.set a ⟨k, .failed⟩ }.count k (-1) := by
    unfold forget
    split <;> split <;> trivial
  have acquirer {b : Acquirer} (member : b ∈ s.acquirers.set a ⟨k, .failed⟩) :
      b ∈ s.acquirers ∨ b = ⟨k, .failed⟩ := List.mem_or_eq_of_mem_set member
  rw [moved]
  rw [same] at left ⊢
  have length (c : Int) : (count { s with
      entry := current, acquirers := s.acquirers.set a ⟨k, .failed⟩ } k c).entries.length =
        s.entries.length := List.length_modify ..
  refine ⟨?_, ?_, ?_, ?_, ?_, left.ended, left.memo, ?_, ?_, ?_, ?_⟩
  · intro j entry' counted
    obtain ⟨was, before, -, references⟩ := found_count counted
    have total := left.counted before
    have fewer := Indexed.countP_set_add
      (fun acquirer : Acquirer => decide (acquirer = ⟨j, .pending⟩)) waits ⟨k, .failed⟩
    rw [references, total]
    simp only [pending, unreleased, count, modifyEntry] at total ⊢
    by_cases own : k = j
    · simp [own] at fewer ⊢
      omega
    · simp [own] at fewer ⊢
      omega
  · intro b member
    rw [length]
    obtain was | rfl := acquirer member
    · exact left.acquired b was
    · exact (List.getElem?_eq_some_iff.1 found).1
  · intro b member
    rw [length]
    exact left.leased b member
  · intro j named
    rw [length]
    exact left.known named
  · intro j entry' counted
    obtain ⟨was, before, same, -⟩ := found_count counted
    rw [down_congr same]
    exact left.current before
  · intro j entry' counted member closed
    obtain ⟨was, before, same, -⟩ := found_count counted
    rw [down_congr same] at closed
    rw [same]
    obtain earlier | new := acquirer member
    · exact left.refused before earlier closed
    · cases new
  · intro j entry' counted member
    obtain ⟨was, before, same, -⟩ := found_count counted
    rw [down_congr same]
    obtain earlier | new := acquirer member
    · exact left.failed before earlier
    · cases new
      exact .inr rfl
  · intro j entry' b counted member named open' closed
    obtain ⟨was, before, same, -⟩ := found_count counted
    rw [down_congr same] at closed
    exact left.held before member named open' closed
  · intro j entry' b counted member named
    obtain ⟨was, before, same, -⟩ := found_count counted
    rw [same]
    exact left.readied before member named

/-- `dispose` takes the current entry away. -/
theorem Sound.disposed {k : Nat} (sound : Sound none none s) (current : s.entry = some k) :
    Sound (some k) none { s with disposed := true, entry := none } := by
  refine { sound with
    known := ?_, current := ?_, ended := fun _ => rfl, refused := fun _ _ _ => .inl rfl
    failed := ?_, held := fun _ _ _ _ _ => rfl }
  · rintro j ⟨⟩
  · intro j entry found
    refine ⟨by rintro ⟨⟩, ?_⟩
    intro open'
    have named := (sound.current found).2 (fun closed => open' (.inl (closed.resolve_right (by rintro ⟨⟩))))
    rw [current] at named
    exact absurd (.inr named) open'
  · exact fun found member => .inl ((sound.failed found member).resolve_right (by rintro ⟨⟩))

/-- `dispose` when there is no current entry. -/
theorem Sound.idle (sound : Sound none none s) (free : s.entry = none) (disposal : Option (List Nat)) :
    Sound none none { s with disposed := true, entry := none, disposal } := by
  refine { sound with
    known := ?_, current := ?_, ended := fun _ => rfl, refused := fun _ _ _ => .inl rfl
    held := fun _ _ _ _ _ => rfl }
  · rintro j ⟨⟩
  · intro j entry found
    have named := sound.current found
    rw [free] at named
    exact named

/-! ## Steps -/

/-- No listener calls `release` of a lease whose own `release` is closing the connection. -/
def unlessReleasing (s : Shared) : SharedEvent → Prop
  | .release l => .release l ∉ s.frames.map (·.caller)
  | _ => True

instance (s : Shared) (e : SharedEvent) : Decidable (unlessReleasing s e) := by
  cases e <;> unfold unlessReleasing <;> infer_instance

def Kept (s : Shared) : Prop := Sound none none s ∧ Used none s

variable {listener : Option Nat}

theorem kept_init : Kept (sharedMachine listener).init := by
  refine ⟨⟨?_, ?_, ?_, ?_, ?_, ?_, ?_, ?_, ?_, ?_, ?_⟩, ?_⟩
  · rintro k entry ⟨⟩
  · rintro acquirer ⟨⟩
  · rintro lease ⟨⟩
  · rintro k ⟨⟩
  · rintro k entry ⟨⟩
  · rintro ⟨⟩
  · rintro l lease ⟨⟩
  · rintro k entry ⟨⟩
  · rintro k entry ⟨⟩
  · rintro k entry lease ⟨⟩
  · rintro k entry lease ⟨⟩
  · rintro k entry ⟨⟩

theorem Kept.acquire (kept : Kept s) (constructs : Bool) : Kept (s.acquire listener constructs) := by
  unfold Shared.acquire
  split
  · exact kept
  · rename_i live
    split
    · rename_i k current
      have weaker : Used (some k) s := by
        intro j entry found running
        exact kept.2 j entry found fun closed => running (closed.imp_right (by rintro ⟨⟩))
      exact ⟨kept.1.join current, weaker.join kept.1⟩
    · rename_i free
      split
      · have opened := kept.1.opened (c := (recoveryMachine listener).init) free
          (Bool.eq_false_of_not_eq_true live) rfl
        exact ⟨opened.join rfl, kept.2.opened.join opened⟩
      · exact kept

theorem Kept.resume {a k : Nat} {entry : SharedEntry} {ready : Bool} (kept : Kept s)
    (waits : s.acquirers[a]? = some ⟨k, .pending⟩) (found : s.entries[k]? = some entry)
    (settled : entry.connection.initial = if ready then .ready else .failed) :
    Kept (s.resume a k ready) := by
  have inside := (List.getElem?_eq_some_iff.1 found).1
  unfold Shared.resume
  split
  · rename_i both
    rw [Bool.and_eq_true, Bool.not_eq_true'] at both
    rw [both.1, if_pos rfl] at settled
    exact ⟨kept.1.lease waits found settled both.2, kept.2⟩
  · rename_i refused
    have reason : s.disposed = true ∨ entry.connection.initial = .failed := by
      cases ready with
      | false => exact .inr settled
      | true =>
          refine .inl (Bool.eq_true_of_not_eq_false ?_)
          intro live
          exact refused (by rw [live]; rfl)
    have used := Used.count (s := { s with acquirers := s.acquirers.set a ⟨k, .failed⟩ })
      (k := k) kept.2 (-1)
    have inside' := forget_count_length
      (s := { s with acquirers := s.acquirers.set a ⟨k, .failed⟩ }) k (-1) ▸ inside
    exact ⟨(kept.1.refuse waits found reason).closeEntry (by rintro l ⟨⟩) inside',
      used.forget.closeEntry inside'⟩

theorem Kept.release {l : Nat} {lease : Lease} (kept : Kept s) (found : s.leases[l]? = some lease)
    (unnested : .release l ∉ s.frames.map (·.caller)) : Kept (s.release l lease) := by
  unfold Shared.release
  split
  · exact kept
  · rename_i unkept
    have first : lease.released = false := by
      apply Bool.eq_false_of_not_eq_true
      intro again
      obtain memo | ⟨⟨⟩⟩ | pushed := kept.1.memo found again
      · exact unkept memo
      · exact unnested pushed
    have inside := kept.1.leased lease (List.mem_of_getElem? found)
    dsimp only
    split
    · rename_i last
      have freed := kept.1.released found first { lease with released := true } rfl rfl
      have used := Used.count (s := { s with leases := s.leases.set l { lease with released := true } })
        (k := lease.entry) kept.2 (-1)
      have inside' := forget_count_length
        (s := { s with leases := s.leases.set l { lease with released := true } })
        lease.entry (-1) ▸ inside
      -- nobody is left, neither waiting nor holding
      obtain ⟨entry, found', zero⟩ := (Option.any_eq_true _ _).1 last
      have total := (freed.counted found').symm.trans (of_decide_eq_true zero)
      have left := freed.leave (k := lease.entry)
        (fun _ waits => absurd waits (pending_eq_zero (by omega)))
        (fun member owner open' => by
          rw [unreleased_eq_zero (by omega) member owner] at open'
          cases open')
      exact ⟨left.closeEntry (by rintro i ⟨⟩; rfl) inside', used.forget.closeEntry inside'⟩
    · rename_i others
      have freed := kept.1.released found first { lease with release := true, released := true } rfl rfl
      have same : (s.leases.set l { lease with released := true }).set l
          { lease with release := true, released := true } =
            s.leases.set l { lease with release := true, released := true } := List.set_set ..
      simp only [count, modifyEntry, same] at others ⊢
      refine ⟨{ freed with memo := ?_ }, ?_⟩
      · intro i b before released
        obtain memo | own | pushed := freed.memo before released
        · exact .inl memo
        · cases own
          rw [List.getElem?_set_self (List.getElem?_eq_some_iff.1 found).1] at before
          cases before
          exact .inl rfl
        · exact .inr (.inr pushed)
      · intro j entry found' running
        by_cases own : lease.entry = j
        · subst own
          have total := freed.counted found'
          have nonzero : entry.references ≠ 0 := by
            intro zero
            exact others ((Option.any_eq_true _ _).2 ⟨entry, found', decide_eq_true zero⟩)
          omega
        · have used := Used.count (s := s) (k := lease.entry) kept.2 (-1)
          apply used j entry found'
          rintro (stopped | leaving)
          · exact running (.inl stopped)
          · exact own (Option.some.inj leaving)

theorem Kept.dispose (kept : Kept s) : Kept s.dispose := by
  unfold Shared.dispose
  split
  · exact kept
  · dsimp only
    split
    · rename_i k current
      have used : Used (some k) { s with disposed := true, entry := none } := by
        intro j entry found running
        exact kept.2 j entry found fun closed => running (closed.imp_right (by rintro ⟨⟩))
      exact ⟨(kept.1.disposed current).closeEntry (by rintro l ⟨⟩) (kept.1.known current),
        used.closeEntry (kept.1.known current)⟩
    · rename_i free
      exact ⟨kept.1.idle free _, kept.2⟩

theorem Kept.returns (kept : Kept s) (stepped : s.returns = some t) : Kept t := by
  unfold Shared.returns at stepped
  split at stepped
  · cases stepped
  · rename_i frame rest stack
    cases stepped
    have lasts := stands_lasts none (k := frame.entry) (f := fun c => c.endClose frame.channels)
      fun entry (_ : s.entries[frame.entry]? = some entry) => entry.connection.endClose_lasts _
    have sound := kept.1.stands lasts
    have used := kept.2.stands lasts
    -- the frame that returns was the one that knew of its lease
    obtain ⟨releasing, calls, named⟩ : ∃ releasing, Calls releasing frame.caller ∧
        ∀ l, frame.caller = .release l → releasing = some l := by
      cases frame.caller with
      | acquire => exact ⟨none, by rintro l ⟨⟩, by rintro l ⟨⟩⟩
      | dispose => exact ⟨none, by rintro l ⟨⟩, by rintro l ⟨⟩⟩
      | release l => exact ⟨some l, by rintro l ⟨⟩; rfl, by rintro l ⟨⟩; rfl⟩
    have popped : Sound none releasing { s with
        entries := s.entries.modify frame.entry fun entry =>
          { entry with connection := entry.connection.endClose frame.channels }
        frames := rest } := by
      refine { sound with memo := ?_ }
      intro l lease found released
      obtain memo | ⟨⟨⟩⟩ | pushed := sound.memo found released
      · exact .inl memo
      · have pushed : Caller.release l ∈ s.frames.map (·.caller) := pushed
        rw [stack, List.map_cons] at pushed
        obtain own | deeper := List.mem_cons.1 pushed
        · exact .inr (.inl (named l own.symm))
        · exact .inr (.inr deeper)
    refine ⟨popped.closeReturns calls _, ?_⟩
    apply Used.closeReturns
    exact used

theorem Kept.connection {k : Nat} {entry : SharedEntry} {c : Connection} (kept : Kept s)
    (found : s.entries[k]? = some entry) (lasts : entry.connection.Lasts c) :
    Kept (s.modifyEntry k fun entry => { entry with connection := c }) := by
  have stands := stands_lasts none (k := k) (f := fun _ => c) fun entry' found' => by
    cases found.symm.trans found'
    exact lasts
  exact ⟨kept.1.stands stands, kept.2.stands stands⟩

/-- What the continuation of `acquire` finds. -/
theorem step_resume {a : Nat} (stepped : s.step listener (.resume a) = some t) :
    ∃ k entry ready, s.acquirers[a]? = some ⟨k, .pending⟩ ∧ s.entries[k]? = some entry ∧
      entry.connection.initial = (if ready then .ready else .failed) ∧ t = s.resume a k ready := by
  simp only [step] at stepped
  obtain ⟨-, stepped⟩ := Option.ite_none_right_eq_some.1 stepped
  split at stepped
  · rename_i k waits
    split at stepped
    · rename_i settled
      cases stepped
      obtain ⟨entry, found, initial⟩ := Option.map_eq_some_iff.1 settled
      exact ⟨k, entry, true, waits, found, initial, rfl⟩
    · rename_i settled
      cases stepped
      obtain ⟨entry, found, initial⟩ := Option.map_eq_some_iff.1 settled
      exact ⟨k, entry, false, waits, found, initial, rfl⟩
    · cases stepped
  · cases stepped

theorem step_connection {k : Nat} {event : Event}
    (stepped : s.step listener (.connection k event) = some t) :
    ∃ entry c, s.entries[k]? = some entry ∧ entry.connection.Lasts c ∧
      t = s.modifyEntry k fun entry => { entry with connection := c } := by
  simp only [step] at stepped
  obtain ⟨-, stepped⟩ := Option.ite_none_right_eq_some.1 stepped
  split at stepped
  · rename_i entry e found unowned
    obtain ⟨c, moved, same⟩ := Option.map_eq_some_iff.1 stepped
    exact ⟨entry, c, found, Connection.step_lasts unowned moved, same.symm⟩
  · cases stepped

/-- **One step keeps the books.** -/
theorem step_kept {e : SharedEvent} (kept : Kept s) (permitted : unlessReleasing s e)
    (stepped : s.step listener e = some t) : Kept t := by
  cases e with
  | acquire constructs =>
      cases stepped
      exact kept.acquire constructs
  | resume a =>
      obtain ⟨k, entry, ready, waits, found, settled, rfl⟩ := step_resume stepped
      exact kept.resume waits found settled
  | release l =>
      simp only [step] at stepped
      split at stepped
      · rename_i lease found
        cases stepped
        exact kept.release found permitted
      · cases stepped
  | dispose =>
      cases stepped
      exact kept.dispose
  | returns => exact kept.returns stepped
  | closingSettles k =>
      obtain ⟨-, ⟨⟩⟩ := Option.ite_none_right_eq_some.1 stepped
      exact ⟨{ kept.1 with }, kept.2⟩
  | connection k event =>
      obtain ⟨entry, c, found, lasts, rfl⟩ := step_connection stepped
      exact kept.connection found lasts

/-! ## What stays closed -/

/-- `close` of the entry's connection has been called. -/
def Closed (s : Shared) (k : Nat) : Prop :=
  ∃ entry, s.entries[k]? = some entry ∧ entry.connection.stopped = true

/-- Closed entries stay so, and no lease is handed out. -/
structure Rests (s t : Shared) : Prop where
  closed : ∀ k, s.Closed k → t.Closed k
  leases : t.leases.map (·.entry) = s.leases.map (·.entry)

theorem rests_refl (s : Shared) : Rests s s :=
  ⟨fun _ => id, rfl⟩

theorem Rests.trans {u : Shared} (first : Rests s t) (second : Rests t u) : Rests s u :=
  ⟨fun k closed => second.closed k (first.closed k closed), second.leases.trans first.leases⟩

theorem modifyEntry_rests (s : Shared) (k : Nat) {f : SharedEntry → SharedEntry}
    (stays : ∀ entry, s.entries[k]? = some entry → entry.connection.stopped = true →
      (f entry).connection.stopped = true) :
    Rests s (s.modifyEntry k f) := by
  refine ⟨?_, rfl⟩
  rintro j ⟨entry, found, stopped⟩
  by_cases own : k = j
  · subst own
    exact ⟨f entry, Indexed.found_modify_self found, stays entry found stopped⟩
  · refine ⟨entry, ?_, stopped⟩
    rw [modifyEntry, List.getElem?_modify, found]
    exact congrArg some (if_neg own)

theorem count_rests (s : Shared) (k : Nat) (change : Int) : Rests s (s.count k change) :=
  s.modifyEntry_rests k fun _ _ stopped => stopped

theorem forget_rests (s : Shared) (k : Nat) : Rests s (s.forget k) := by
  obtain ⟨entry, same, -⟩ := s.forget_fields k
  rw [same]
  exact ⟨fun _ => id, rfl⟩

theorem closeReturns_rests (s : Shared) (k : Nat) (caller : Caller) :
    Rests s (s.closeReturns k caller) := by
  cases caller with
  | acquire => exact ⟨fun _ => id, rfl⟩
  | dispose => exact ⟨fun _ => id, rfl⟩
  | release l =>
      refine ⟨fun _ => id, ?_⟩
      apply Indexed.map_modify
      intro lease
      rfl

theorem closeEntry_rests (s : Shared) (k : Nat) (caller : Caller) :
    Rests s (s.closeEntry k caller) := by
  unfold closeEntry
  split
  · exact s.rests_refl
  · dsimp only
    split
    · exact s.closeReturns_rests k caller
    · have moved := s.modifyEntry_rests k
        (f := fun entry => { entry with connection := entry.connection.beginClose })
        fun _ _ _ => rfl
      exact ⟨moved.closed, moved.leases⟩

/-- A lease is handed out on an entry that is not closed, and not after `dispose`. -/
structure Hands (s t : Shared) (k : Nat) : Prop where
  live : s.disposed = false
  open' : ¬ s.Closed k
  entries : t.entries = s.entries
  leases : t.leases = s.leases ++ [{ entry := k }]

theorem acquire_rests (s : Shared) (constructs : Bool) :
    Rests s (s.acquire listener constructs) := by
  unfold acquire
  split
  · exact s.rests_refl
  · split
    · rename_i k _
      have counted := s.count_rests k 1
      exact ⟨counted.closed, counted.leases⟩
    · split
      · have opened : Rests s { s with
            entries := s.entries ++ [{ connection := (recoveryMachine listener).init }]
            entry := some s.entries.length } := by
          refine ⟨?_, rfl⟩
          rintro k ⟨entry, found, stopped⟩
          refine ⟨entry, ?_, stopped⟩
          rw [List.getElem?_append_left (List.getElem?_eq_some_iff.1 found).1]
          exact found
        have counted := opened.trans (count_rests _ s.entries.length 1)
        exact ⟨counted.closed, counted.leases⟩
      · exact s.rests_refl

theorem resume_rests {a k : Nat} {entry : SharedEntry} {ready : Bool} (kept : Kept s)
    (waits : s.acquirers[a]? = some ⟨k, .pending⟩) (found : s.entries[k]? = some entry)
    (settled : entry.connection.initial = if ready then .ready else .failed) :
    Rests s (s.resume a k ready) ∨ Hands s (s.resume a k ready) k := by
  unfold resume
  split
  · rename_i both
    rw [Bool.and_eq_true, Bool.not_eq_true'] at both
    rw [both.1, if_pos rfl] at settled
    refine .inr ⟨both.2, ?_, rfl, rfl⟩
    rintro ⟨entry', found', stopped⟩
    cases found.symm.trans found'
    obtain disposed | failure :=
      kept.1.refused found (List.mem_of_getElem? waits) (.inl stopped)
    · rw [both.2] at disposed
      cases disposed
    · rw [settled] at failure
      cases failure
  · have counted := count_rests { s with acquirers := s.acquirers.set a ⟨k, .failed⟩ } k (-1)
    have closed := (counted.trans (forget_rests _ k)).trans (closeEntry_rests _ k .acquire)
    exact .inl ⟨closed.closed, closed.leases⟩

theorem release_rests {l : Nat} {lease : Lease} (found : s.leases[l]? = some lease) :
    Rests s (s.release l lease) := by
  have freed (lease' : Lease) (owner : lease'.entry = lease.entry) :
      Rests s ({ s with leases := s.leases.set l lease' }.count lease.entry (-1)) := by
    have counted := count_rests { s with leases := s.leases.set l lease' } lease.entry (-1)
    exact ⟨counted.closed, Indexed.map_set found owner⟩
  unfold release
  split
  · exact s.rests_refl
  · dsimp only
    split
    · exact ((freed { lease with released := true } rfl).trans (forget_rests _ _)).trans
        (closeEntry_rests _ _ _)
    · have kept := freed { lease with release := true, released := true } rfl
      refine ⟨kept.closed, ?_⟩
      simp only [count, modifyEntry, List.set_set]
      exact kept.leases

theorem dispose_rests (s : Shared) : Rests s s.dispose := by
  unfold dispose
  split
  · exact s.rests_refl
  · dsimp only
    split
    · rename_i k _
      have closed := closeEntry_rests { s with disposed := true, entry := none } k .dispose
      exact ⟨closed.closed, closed.leases⟩
    · exact ⟨fun _ => id, rfl⟩

theorem returns_rests (stepped : s.returns = some t) : Rests s t := by
  unfold returns at stepped
  split at stepped
  · cases stepped
  · rename_i frame rest stack
    cases stepped
    have ended := s.modifyEntry_rests frame.entry
      (f := fun entry => { entry with connection := entry.connection.endClose frame.channels })
      fun entry _ stopped => (entry.connection.endClose_lasts _).stopped.trans stopped
    have returned := closeReturns_rests { s with
      entries := s.entries.modify frame.entry fun entry =>
        { entry with connection := entry.connection.endClose frame.channels }
      frames := rest } frame.entry frame.caller
    exact ⟨fun k closed => returned.closed k (ended.closed k closed), returned.leases⟩

/-- **A step closes entries for good, and hands out open entries only.** -/
theorem step_rests {e : SharedEvent} (kept : Kept s) (stepped : s.step listener e = some t) :
    Rests s t ∨ ∃ k, Hands s t k := by
  cases e with
  | acquire constructs =>
      cases stepped
      exact .inl (s.acquire_rests constructs)
  | resume a =>
      obtain ⟨k, entry, ready, waits, found, settled, rfl⟩ := step_resume stepped
      exact (resume_rests kept waits found settled).imp_right fun hands => ⟨k, hands⟩
  | release l =>
      simp only [step] at stepped
      split at stepped
      · rename_i lease found
        cases stepped
        exact .inl (release_rests found)
      · cases stepped
  | dispose =>
      cases stepped
      exact .inl s.dispose_rests
  | returns => exact .inl (returns_rests stepped)
  | closingSettles k =>
      obtain ⟨-, ⟨⟩⟩ := Option.ite_none_right_eq_some.1 stepped
      exact .inl ⟨fun _ => id, rfl⟩
  | connection k event =>
      obtain ⟨entry, c, found, lasts, rfl⟩ := step_connection stepped
      refine .inl (s.modifyEntry_rests k ?_)
      intro entry' found' stopped
      cases found.symm.trans found'
      exact lasts.stopped.trans stopped

/-! ## dispose -/

@[simp] theorem count_disposed (s : Shared) (k : Nat) (change : Int) :
    (s.count k change).disposed = s.disposed := rfl

@[simp] theorem forget_disposed (s : Shared) (k : Nat) : (s.forget k).disposed = s.disposed := by
  unfold forget
  split <;> rfl

@[simp] theorem closeReturns_disposed (s : Shared) (k : Nat) (caller : Caller) :
    (s.closeReturns k caller).disposed = s.disposed := by
  cases caller <;> rfl

@[simp] theorem closeEntry_disposed (s : Shared) (k : Nat) (caller : Caller) :
    (s.closeEntry k caller).disposed = s.disposed := by
  unfold closeEntry
  split
  · rfl
  · dsimp only
    split
    · exact s.closeReturns_disposed k caller
    · rfl

/-- Only `dispose` disposes. -/
theorem step_disposed {e : SharedEvent} (stepped : s.step listener e = some t) :
    t.disposed = s.disposed ∨ e = .dispose := by
  cases e with
  | acquire constructs =>
      cases stepped
      left
      unfold acquire
      split
      · rfl
      · split
        · rfl
        · split
          · rfl
          · rfl
  | resume a =>
      obtain ⟨k, entry, ready, -, -, -, rfl⟩ := step_resume stepped
      left
      unfold resume
      split
      · rfl
      · simp
  | release l =>
      simp only [step] at stepped
      split at stepped
      · cases stepped
        left
        unfold release
        split
        · rfl
        · dsimp only
          split
          · simp
          · simp
      · cases stepped
  | dispose => exact .inr rfl
  | returns =>
      left
      simp only [step, returns] at stepped
      split at stepped
      · cases stepped
      · cases stepped
        simp [modifyEntry]
  | closingSettles k =>
      obtain ⟨-, ⟨⟩⟩ := Option.ite_none_right_eq_some.1 stepped
      exact .inl rfl
  | connection k event =>
      obtain ⟨entry, c, -, -, rfl⟩ := step_connection stepped
      exact .inl rfl

theorem dispose_disposed (s : Shared) (was : s.disposed = true) : s.dispose.disposed = true := by
  unfold dispose
  split
  · exact was
  · dsimp only
    split
    · simp
    · rfl

theorem step_stays_disposed {e : SharedEvent} (was : s.disposed = true)
    (stepped : s.step listener e = some t) : t.disposed = true := by
  obtain same | rfl := step_disposed stepped
  · exact same.trans was
  · cases stepped
    exact s.dispose_disposed was

/-! ## Runs -/

theorem kept_of_steps (kept : Kept s) (steps : (sharedMachine listener).Steps unlessReleasing s t) :
    Kept t :=
  steps.invariant Kept (fun _ _ _ kept permitted stepped => step_kept kept permitted stepped) kept

/-- The leases there have been of entry `k`. -/
def leasesOf (s : Shared) (k : Nat) : Nat := (s.leases.map (·.entry)).count k

theorem closed_of_steps {k : Nat} (kept : Kept s) (closed : s.Closed k)
    (steps : (sharedMachine listener).Steps unlessReleasing s t) :
    t.Closed k ∧ t.leasesOf k = s.leasesOf k := by
  have all := steps.invariant (fun t => Kept t ∧ t.Closed k ∧ t.leasesOf k = s.leasesOf k) ?_
    ⟨kept, closed, rfl⟩
  · exact all.2
  · rintro u e v ⟨kept, closed, leases⟩ permitted stepped
    refine ⟨step_kept kept permitted stepped, ?_⟩
    obtain rests | ⟨j, hands⟩ := step_rests kept stepped
    · refine ⟨rests.closed k closed, ?_⟩
      rw [leasesOf, rests.leases]
      exact leases
    · have other : j ≠ k := by
        rintro rfl
        exact hands.open' closed
      obtain ⟨entry, found, stopped⟩ := closed
      refine ⟨⟨entry, by rw [hands.entries]; exact found, stopped⟩, ?_⟩
      rw [leasesOf, hands.leases, List.map_append, List.count_append, ← leasesOf, leases]
      simp [other]

theorem disposed_of_steps (kept : Kept s) (disposed : s.disposed = true)
    (steps : (sharedMachine listener).Steps unlessReleasing s t) :
    t.disposed = true ∧ t.leases.length = s.leases.length := by
  have all := steps.invariant
    (fun t => Kept t ∧ t.disposed = true ∧ t.leases.length = s.leases.length) ?_
    ⟨kept, disposed, rfl⟩
  · exact all.2
  · rintro u e v ⟨kept, disposed, length⟩ permitted stepped
    refine ⟨step_kept kept permitted stepped, step_stays_disposed disposed stepped, ?_⟩
    obtain rests | ⟨j, hands⟩ := step_rests kept stepped
    · have same := congrArg List.length rests.leases
      rw [List.length_map, List.length_map] at same
      exact same.trans length
    · have live := hands.live
      rw [disposed] at live
      cases live

/-- An entry that must not be used again: its last user has gone, it was there at
`dispose`, or an acquisition has seen its first attempt fail. -/
def Retired (s : Shared) (k : Nat) : Prop :=
  ∃ entry, s.entries[k]? = some entry ∧
    (entry.references = 0 ∨ s.disposed = true ∨ ⟨k, .failed⟩ ∈ s.acquirers)

theorem Kept.closed {k : Nat} (kept : Kept s) (retired : s.Retired k) : s.Closed k := by
  obtain ⟨entry, found, why⟩ := retired
  refine ⟨entry, found, ?_⟩
  apply Bool.eq_true_of_not_eq_false
  intro running
  have open' : ¬ Down none k entry := by
    rintro (stopped | nobody)
    · rw [running] at stopped
      cases stopped
    · cases nobody
  obtain zero | disposed | failed := why
  · have used := kept.2 k entry found open'
    omega
  · have current := (kept.1.current found).2 open'
    rw [kept.1.ended disposed] at current
    cases current
  · exact open' (kept.1.failed found failed)

theorem Kept.current {k : Nat} {entry : SharedEntry} (kept : Kept s)
    (found : s.entries[k]? = some entry) : s.entry = some k ↔ ¬ s.Closed k := by
  rw [kept.1.current found, not_iff_not]
  constructor
  · rintro (stopped | nobody)
    · exact ⟨entry, found, stopped⟩
    · cases nobody
  · rintro ⟨entry', found', stopped⟩
    cases found.symm.trans found'
    exact .inl stopped

/-- Whoever closes an entry that is on lease is `dispose`. -/
theorem step_closes {e : SharedEvent} {k : Nat} (kept : Kept s) (permitted : unlessReleasing s e)
    (stepped : s.step listener e = some t) (open' : ¬ s.Closed k) (closed : t.Closed k)
    (onLease : 0 < t.unreleased k) : e = .dispose := by
  have kept' := step_kept kept permitted stepped
  obtain ⟨lease, member, unreleased'⟩ := List.countP_pos_iff.1 onLease
  rw [Bool.and_eq_true, decide_eq_true_eq, Bool.not_eq_true'] at unreleased'
  obtain ⟨entry, found, stopped⟩ := closed
  have disposed := kept'.1.held found member unreleased'.1 unreleased'.2 (.inl stopped)
  obtain same | rfl := step_disposed stepped
  · -- everything was closed before this step
    have disposed' : s.disposed = true := same.symm.trans disposed
    exfalso
    obtain rests | ⟨j, hands⟩ := step_rests kept stepped
    · have earlier : lease.entry ∈ s.leases.map (·.entry) := by
        rw [← rests.leases]
        exact List.mem_map_of_mem member
      obtain ⟨was, before, owner⟩ := List.mem_map.1 earlier
      have inside := kept.1.leased was before
      rw [owner, unreleased'.1] at inside
      apply open'
      exact kept.closed ⟨_, List.getElem?_eq_getElem inside, .inr (.inl disposed')⟩
    · have live := hands.live
      rw [disposed'] at live
      cases live
  · rfl

/-- **Reference counting.**  In every run in which no listener releases the lease whose
`release` is closing the connection: `references` is the number of pending acquisitions
and unreleased leases, and never negative; the current entry is the one that is not
closed; only `dispose` closes an entry that is on lease; an entry that nobody uses, that
was disposed of, or whose failure an acquisition has seen is closed for good and never
handed out again; and after `dispose` there is no new lease. -/
theorem leases_of_reaches (reached : (sharedMachine listener).Reaches unlessReleasing s) :
    (∀ (k : Nat) (entry : SharedEntry), s.entries[k]? = some entry →
      entry.references = s.pending k + s.unreleased k ∧ 0 ≤ entry.references ∧
        (s.entry = some k ↔ ¬ s.Closed k)) ∧
      (∀ e t k, unlessReleasing s e → s.step listener e = some t → ¬ s.Closed k → t.Closed k →
        0 < t.unreleased k → e = .dispose) ∧
      (∀ k, s.Retired k → ∀ t, (sharedMachine listener).Steps unlessReleasing s t →
        t.Closed k ∧ t.entry ≠ some k ∧ t.leasesOf k = s.leasesOf k) ∧
      (s.disposed = true → ∀ t, (sharedMachine listener).Steps unlessReleasing s t →
        t.leases.length = s.leases.length) := by
  have kept : Kept s := kept_of_steps kept_init reached
  refine ⟨?_, ?_, ?_, ?_⟩
  · intro k entry found
    have total := kept.1.counted found
    exact ⟨total, by omega, kept.current found⟩
  · exact fun e t k permitted stepped => step_closes kept permitted stepped
  · intro k retired t steps
    obtain ⟨closed, leases⟩ := closed_of_steps kept (kept.closed retired) steps
    refine ⟨closed, ?_, leases⟩
    obtain ⟨entry, found, -⟩ := id closed
    exact fun current => ((kept_of_steps kept steps).current found).1 current closed
  · exact fun disposed t steps => (disposed_of_steps kept disposed steps).2

/-- Two acquisitions of one connection; the first lease is released while the second
acquisition waits, and `dispose` comes before the second lease is built. -/
def disposedInBetween : List SharedEvent :=
  [.acquire true, .acquire true, .connection 0 (.start fun _ => false),
    .connection 0 (.dialed none false fun _ => false), .resume 0, .release 0, .release 0,
    .dispose, .returns, .resume 1, .acquire true]

/-- What an observer sees of a state: the counts and the acquisitions. -/
def seen (s : Shared) : List Int × List Phase × List Caller :=
  (s.entries.map (·.references), s.acquirers.map (·.phase), s.frames.map (·.caller))

theorem seen_first {references : Int} {rest : List Int} {others : List Phase × List Caller}
    (observed : seen s = (references :: rest, others)) :
    ∃ entry, s.entries[0]? = some entry ∧ entry.references = references := by
  have first := congrArg (·[0]?) (congrArg Prod.fst observed)
  exact Option.map_eq_some_iff.1 (List.getElem?_map.symm.trans first)

theorem disposedInBetween_seen :
    ((sharedMachine (some 0)).run unlessReleasing (sharedMachine (some 0)).init
      disposedInBetween).map seen = some ([0], [.leased, .failed], []) := by
  decide

theorem leases_disposedInBetween :
    ∃ s, (sharedMachine (some 0)).run unlessReleasing (sharedMachine (some 0)).init
        disposedInBetween = some s ∧
      seen s = ([0], [.leased, .failed], []) ∧ s.Closed 0 ∧ s.entry ≠ some 0 := by
  obtain ⟨s, ran, observed⟩ := Option.map_eq_some_iff.1 disposedInBetween_seen
  obtain ⟨entry, found, unused⟩ := seen_first observed
  have leases := leases_of_reaches (Machine.steps_of_run disposedInBetween ran)
  obtain ⟨closed, gone, -⟩ := leases.2.2.1 0 ⟨entry, found, .inl unused⟩ s .refl
  exact ⟨s, ran, observed, closed, gone⟩

/-- A listener that releases its lease when it hears that the connection is closed. -/
def releasedTwice : List SharedEvent :=
  [.acquire true, .connection 0 (.start fun _ => false),
    .connection 0 (.dialed none false fun _ => false), .resume 0, .release 0, .release 0]

theorem releasedTwice_seen :
    ((sharedMachine (some 0)).run Machine.always (sharedMachine (some 0)).init
      releasedTwice).map seen = some ([-1], [.leased], [.release 0]) := by
  decide

/-- **`release` counts twice when a listener calls it again**, and the count is negative. -/
theorem releasedTwice_negative :
    ∃ (s : Shared) (entry : SharedEntry),
      (sharedMachine (some 0)).Reaches Machine.always s ∧ s.entries[0]? = some entry ∧
      entry.references < 0 ∧ entry.references ≠ s.pending 0 + s.unreleased 0 := by
  obtain ⟨s, ran, observed⟩ := Option.map_eq_some_iff.1 releasedTwice_seen
  obtain ⟨entry, found, negative⟩ := seen_first observed
  exact ⟨s, entry, Machine.steps_of_run releasedTwice ran, found, by omega, by omega⟩

end Shared

end GrpcBridge.Recovery
