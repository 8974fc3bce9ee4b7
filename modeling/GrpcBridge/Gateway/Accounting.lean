/-
# Gateway.Accounting -- slots, principals, tracking sets and sockets in every state

`Books` relates the shared counters and sets to what the handlers hold; each of
the ten moves keeps it, whatever the other handlers hold (`Books.move`).  With
`Handler.step_moves` and `Handler.step_safe` it is an invariant of every
interleaving of any number of calls, and `accounted_of_reaches` reads it off.

A handler waits for the `Close` calls of its own `tunnel.close` and of the
pump's.  It does not wait for those of the ticker, the lifetime timer or
`forceCloseActive`: when one of them has marked the tunnel closed first, the
handler may release everything and return before the connections are closed
(`overtaken_leaves_upstream`).
-/
import GrpcBridge.Gateway.Sockets

namespace GrpcBridge.Gateway

set_option autoImplicit false
set_option linter.dupNamespace false

open GrpcBridge.Theory

variable {n : Nat} {cfg : Config} {i : Fin n} {g g' : Gateway n}

/-! ## Books -/

/-- The map entry for a count: there is none for zero. -/
def entry (count : Nat) : Option Nat := if count = 0 then none else some count

theorem entry_getD (count : Nat) : (entry count).getD 0 = count := by
  rw [entry]
  split
  · rename_i zero
    exact zero.symm
  · rfl

theorem entry_isSome (count : Nat) : (entry count).isSome ↔ 0 < count := by
  rw [entry]
  split
  · rename_i zero
    rw [zero]
    exact ⟨Bool.noConfusion, fun none => absurd none (Nat.lt_irrefl 0)⟩
  · rename_i positive
    exact ⟨fun _ => Nat.pos_of_ne_zero positive, fun _ => rfl⟩

/-- Who holds what a flag stands for. -/
def having (field : Holding → Bool) (f : Fin n → Holding) : Finset (Fin n) :=
  tally (fun x => field x = true) f

/-- Who holds a reservation for a subject. -/
def charged (f : Fin n → Holding) (subject : String) : Finset (Fin n) :=
  tally (fun x : Holding => x.subject = some subject) f

structure Books (cfg : Config) (g : Gateway n) (f : Fin n → Holding) : Prop where
  slots : g.slots = (having Holding.slot f).card
  room : g.slots ≤ cfg.maxConnections
  principals : ∀ subject, g.principals subject = entry (charged f subject).card
  quota : ∀ subject, (charged f subject).card ≤ cfg.maxPerPrincipal
  handshakes : g.handshakes = having Holding.pending f
  active : g.active = having Holding.registered f

variable {f : Fin n → Holding} {x : Holding}

theorem mem_having {field : Holding → Bool} : i ∈ having field f ↔ field (f i) = true := mem_tally

theorem having_keep (field : Holding → Bool) (same : field x = field (f i)) :
    having field (Function.update f i x) = having field f :=
  tally_update_keep (by rw [same])

theorem having_gain (field : Holding → Bool) (gained : field x = true) :
    having field (Function.update f i x) = insert i (having field f) :=
  tally_update_gain gained

theorem having_lose (field : Holding → Bool) (lost : field x = false) :
    having field (Function.update f i x) = (having field f).erase i :=
  tally_update_lose (by rw [lost]; exact Bool.false_ne_true)

theorem Books.reserved (books : Books cfg g f) (subject : String) :
    g.reserved subject = (charged f subject).card := by
  rw [Gateway.reserved, books.principals, entry_getD]

theorem charged_keep {subject : String} (same : x.subject = (f i).subject) :
    charged (Function.update f i x) subject = charged f subject :=
  tally_update_keep (by rw [same])

theorem charged_other {s subject : String} (other : subject ≠ s)
    (one : x.subject = some s ∧ (f i).subject = none ∨
      x.subject = none ∧ (f i).subject = some s) :
    charged (Function.update f i x) subject = charged f subject := by
  apply tally_update_keep
  rcases one with ⟨after, before⟩ | ⟨after, before⟩
  · rw [after, before]
    exact ⟨fun same => absurd (Option.some.inj same).symm other, fun none => (nomatch none)⟩
  · rw [after, before]
    exact ⟨fun none => (nomatch none), fun same => absurd (Option.some.inj same).symm other⟩

theorem Books.reserve {s : String} (books : Books cfg g f) (unheld : (f i).subject = none)
    (room : g.reserved s < cfg.maxPerPrincipal) (subject : String) :
    Function.update g.principals s (some (g.reserved s + 1)) subject =
        entry (charged (Function.update f i { f i with subject := some s }) subject).card ∧
      (charged (Function.update f i { f i with subject := some s }) subject).card ≤
        cfg.maxPerPrincipal := by
  rw [books.reserved] at room ⊢
  by_cases own : subject = s
  · subst own
    have gained : (charged (Function.update f i { f i with subject := some subject }) subject).card =
        (charged f subject).card + 1 :=
      card_tally_gain (by rw [unheld]; exact Option.some_ne_none _ ∘ Eq.symm) rfl
    rw [Function.update_self, gained]
    exact ⟨(if_neg (Nat.succ_ne_zero _)).symm, room⟩
  · rw [Function.update_of_ne own, charged_other own (.inl ⟨rfl, unheld⟩)]
    exact ⟨books.principals subject, books.quota subject⟩

theorem Books.release {s : String} (books : Books cfg g f) (held : (f i).subject = some s)
    (subject : String) :
    (g.releasePrincipal s).principals subject =
        entry (charged (Function.update f i { f i with subject := none }) subject).card ∧
      (charged (Function.update f i { f i with subject := none }) subject).card ≤
        cfg.maxPerPrincipal := by
  by_cases own : subject = s
  · subst own
    have lost : (charged (Function.update f i { f i with subject := none }) subject).card + 1 =
        (charged f subject).card :=
      card_tally_lose held (by exact Option.some_ne_none _ ∘ Eq.symm)
    have quota := books.quota subject
    refine ⟨?_, by omega⟩
    rw [Gateway.releasePrincipal, books.reserved]
    split
    · rw [entry, if_pos (by omega)]
      exact Function.update_self ..
    · rw [entry, if_neg (by omega)]
      exact (Function.update_self ..).trans (congrArg some (by omega))
  · rw [charged_other own (.inr ⟨rfl, held⟩)]
    refine ⟨?_, books.quota subject⟩
    rw [← books.principals subject, Gateway.releasePrincipal]
    split <;> exact Function.update_of_ne own ..

theorem Books.slots_keep (books : Books cfg g f) (same : x.slot = (f i).slot) :
    g.slots = (having Holding.slot (Function.update f i x)).card := by
  rw [having_keep Holding.slot same]
  exact books.slots

theorem Books.handshakes_keep (books : Books cfg g f) (same : x.pending = (f i).pending) :
    g.handshakes = having Holding.pending (Function.update f i x) := by
  rw [having_keep Holding.pending same]
  exact books.handshakes

theorem Books.active_keep (books : Books cfg g f) (same : x.registered = (f i).registered) :
    g.active = having Holding.registered (Function.update f i x) := by
  rw [having_keep Holding.registered same]
  exact books.active

/-- The parts of the books that a move of one handler leaves alone. -/
theorem Books.of_parts (books : Books cfg g f) (subject : x.subject = (f i).subject)
    (principals : g'.principals = g.principals)
    (slots : g'.slots = (having Holding.slot (Function.update f i x)).card)
    (room : g'.slots ≤ cfg.maxConnections)
    (handshakes : g'.handshakes = having Holding.pending (Function.update f i x))
    (active : g'.active = having Holding.registered (Function.update f i x)) :
    Books cfg g' (Function.update f i x) where
  slots := slots
  room := room
  principals s := by
    rw [charged_keep subject, principals]
    exact books.principals s
  quota s := by
    rw [charged_keep subject]
    exact books.quota s
  handshakes := handshakes
  active := active

/-- **Every move keeps the books.** -/
theorem Books.move (books : Books cfg g f) (move : Move cfg i g (f i) g' x) :
    Books cfg g' (Function.update f i x) := by
  cases move with
  | quiet metrics =>
      rw [Function.update_eq_self]
      exact ⟨books.slots, books.room, books.principals, books.quota, books.handshakes, books.active⟩
  | begins =>
      refine books.of_parts rfl rfl (books.slots_keep rfl) books.room ?_ (books.active_keep rfl)
      rw [having_gain Holding.pending rfl, ← books.handshakes]
      rfl
  | takes empty room =>
      have gained : (having Holding.slot (Function.update f i { f i with slot := true })).card =
          (having Holding.slot f).card + 1 :=
        card_tally_gain (by rw [empty]; exact Bool.false_ne_true) rfl
      refine books.of_parts rfl rfl ?_ room (books.handshakes_keep rfl) (books.active_keep rfl)
      rw [gained, ← books.slots]
  | reserves s unheld _ room =>
      exact ⟨books.slots_keep rfl, books.room, fun subject => (books.reserve unheld room subject).1,
        fun subject => (books.reserve unheld room subject).2, books.handshakes_keep rfl,
        books.active_keep rfl⟩
  | registers =>
      refine books.of_parts rfl rfl (books.slots_keep rfl) books.room (books.handshakes_keep rfl) ?_
      rw [having_gain Holding.registered rfl, ← books.active]
      rfl
  | completes =>
      refine books.of_parts rfl rfl (books.slots_keep rfl) books.room ?_ (books.active_keep rfl)
      rw [having_lose Holding.pending rfl, ← books.handshakes]
      rfl
  | releases s held =>
      have frame : (g.releasePrincipal s).slots = g.slots ∧
          (g.releasePrincipal s).handshakes = g.handshakes ∧
          (g.releasePrincipal s).active = g.active := by
        rw [Gateway.releasePrincipal]
        split <;> exact ⟨rfl, rfl, rfl⟩
      obtain ⟨slots, handshakes, active⟩ := frame
      exact ⟨slots.trans (books.slots_keep rfl), slots.trans_le books.room,
        fun subject => (books.release held subject).1,
        fun subject => (books.release held subject).2,
        handshakes.trans (books.handshakes_keep rfl), active.trans (books.active_keep rfl)⟩
  | frees held =>
      have lost : (having Holding.slot (Function.update f i { f i with slot := false })).card + 1 =
          (having Holding.slot f).card :=
        card_tally_lose held Bool.false_ne_true
      refine books.of_parts rfl rfl ?_ ?_ (books.handshakes_keep rfl) (books.active_keep rfl)
      · show g.slots - 1 = _
        rw [books.slots, ← lost]
        exact Nat.add_sub_cancel ..
      · exact Nat.le_trans (Nat.sub_le ..) books.room
  | unregisters =>
      refine books.of_parts rfl rfl (books.slots_keep rfl) books.room (books.handshakes_keep rfl) ?_
      rw [having_lose Holding.registered rfl, ← books.active]
      rfl
  | finishes =>
      refine books.of_parts rfl rfl (books.slots_keep rfl) books.room ?_ (books.active_keep rfl)
      rw [having_lose Holding.pending rfl, ← books.handshakes]
      rfl

/-! ## Every state -/

namespace State

variable {s t : State n}

def holdings (s : State n) : Fin n → Holding := fun i => (s.handlers i).holding

structure Accounts (cfg : Config) (s : State n) : Prop where
  shape : ∀ i, (s.handlers i).Shape
  safe : ∀ i, (s.handlers i).Safe
  books : Books cfg s.gateway s.holdings

theorem holdings_update (s : State n) (g : Gateway n) (i : Fin n) (h : Handler) :
    State.holdings { s with gateway := g, handlers := Function.update s.handlers i h } =
      Function.update s.holdings i h.holding := by
  funext j
  by_cases own : j = i
  · subst own
    simp only [holdings, Function.update_self]
  · simp only [holdings, Function.update_of_ne own]

theorem forall_update {p : Handler → Prop} {handlers : Fin n → Handler} {i : Fin n} {h : Handler}
    (all : ∀ j, p (handlers j)) (new : p h) (j : Fin n) : p (Function.update handlers i h j) := by
  by_cases own : j = i
  · subst own
    rw [Function.update_self]
    exact new
  · rw [Function.update_of_ne own]
    exact all j

/-- Being charged is having a reservation under the subject's name. -/
theorem charged_holdings (s : State n) (subject : String) :
    charged s.holdings subject = Finset.univ.filter fun i =>
      (s.handlers i).flags.heldPrincipal = true ∧ (s.handlers i).principal = subject := by
  refine Finset.filter_congr fun i _ => ?_
  simp only [holdings, Handler.holding]
  split
  · rename_i held
    rw [Option.some.injEq, and_iff_right held]
  · rename_i unheld
    constructor
    · intro none
      cases none
    · intro both
      exact absurd both.1 unheld

theorem take_frame (h : Handler) : (take h).pc = h.pc ∧ (take h).flags = h.flags ∧
    (take h).holding = h.holding ∧ (h.Shape → (take h).Shape) :=
  ⟨rfl, rfl, rfl, fun shape => ⟨shape.flags, shape.completed, shape.upgraded⟩⟩

/-- Being marked by `forceCloseActive` changes nothing about the connections. -/
theorem take_safe {h : Handler} (safe : h.Safe) : (take h).Safe := by
  have owes : ∀ who, (take h).owes who = h.owes who := by
    intro who
    simp only [Handler.owes, take]
    cases h.tunnel with
    | none => rfl
    | some t =>
        simp only [Option.map_some, Option.any_some]
        split <;> rfl
  refine ⟨?_, ?_, ?_, ?_, safe.pumping⟩
  · have covered := safe.covered
    simp only [take]
    cases tunnel : h.tunnel with
    | none =>
        rw [tunnel] at covered
        exact covered
    | some t =>
        rw [tunnel] at covered
        simp only [Option.map_some]
        split
        · exact covered
        · exact covered.congr rfl rfl rfl
  · refine safe.staged.map ?_ ?_
    · intro t
      split <;> rfl
    · intro t closed
      split <;> exact closed
  · intro own
    exact safe.own ((owes .handler).symm.trans own)
  · intro own
    exact safe.pump ((owes .pump).symm.trans own)

theorem forced_handler (s : State n) {p : Handler → Prop} (all : ∀ i, p (s.handlers i))
    (taken : ∀ h, p h → p (take h)) (i : Fin n) :
    p (if i ∈ s.gateway.active then take (s.handlers i) else s.handlers i) := by
  split
  · exact taken _ (all i)
  · exact all i

theorem step_accounts (e : Event n) (accounts : Accounts cfg s) (stepped : step cfg s e = some t) :
    Accounts cfg t := by
  cases e with
  | handler i a =>
      obtain ⟨⟨g, h⟩, ran, rfl⟩ := Option.map_eq_some_iff.1 stepped
      obtain ⟨shape, move⟩ := Handler.step_moves (accounts.shape i) ran
      refine ⟨forall_update accounts.shape shape,
        forall_update accounts.safe (Handler.step_safe (accounts.safe i) ran), ?_⟩
      rw [holdings_update]
      exact accounts.books.move move
  | beginDrain =>
      cases stepped
      refine ⟨accounts.shape, accounts.safe, ?_⟩
      have books := accounts.books
      show Books cfg s.gateway.beginDrain s.holdings
      rw [Gateway.beginDrain]
      split
      · exact books
      · exact ⟨books.slots, books.room, books.principals, books.quota, books.handshakes,
          books.active⟩
  | force =>
      cases stepped
      refine ⟨forced_handler s accounts.shape fun h => (take_frame h).2.2.2,
        forced_handler s accounts.safe fun _ => take_safe, ?_⟩
      have same : (fun i => (if i ∈ s.gateway.active then take (s.handlers i)
          else s.handlers i).holding) = s.holdings := by
        funext i
        split <;> rfl
      have books := accounts.books
      show Books cfg _ fun i => (if i ∈ s.gateway.active then take (s.handlers i)
        else s.handlers i).holding
      rw [same]
      exact ⟨books.slots, books.room, books.principals, books.quota, books.handshakes, books.active⟩
  | count k =>
      obtain ⟨_, _, rfl⟩ := step_count stepped
      have books := accounts.books
      exact ⟨accounts.shape, accounts.safe, books.slots, books.room, books.principals, books.quota,
        books.handshakes, books.active⟩
  | wait | look k | wake k | cancel k =>
      obtain ⟨_, rfl⟩ := step_watches rfl stepped
      exact ⟨accounts.shape, accounts.safe, accounts.books⟩

theorem init_accounts (cfg : Config) (n : Nat) : Accounts cfg ({} : State n) where
  shape _ := ⟨rfl, Bool.noConfusion, fun sent => (nomatch sent)⟩
  safe _ := ⟨⟨rfl, (by decide : Link.absent ≠ .live)⟩, rfl, Bool.noConfusion, Bool.noConfusion, by
    rintro (running | closing)
    · cases running
    · cases closing⟩
  books := by
    have nobody : ∀ subject, charged (State.holdings ({} : State n)) subject = ∅ := fun subject =>
      tally_eq_empty fun _ held => (nomatch held)
    refine ⟨?_, Nat.zero_le _, ?_, ?_, ?_, ?_⟩
    · exact (congrArg Finset.card (tally_eq_empty fun _ => Bool.false_ne_true)).symm
    · intro subject
      rw [nobody]
      rfl
    · intro subject
      rw [nobody]
      exact Nat.zero_le _
    · exact (tally_eq_empty fun _ => Bool.false_ne_true).symm
    · exact (tally_eq_empty fun _ => Bool.false_ne_true).symm

theorem accounts_of_reaches (reached : (machine cfg n).Reaches Machine.always s) : Accounts cfg s :=
  reached.invariant (Accounts cfg) (fun _ e _ accounts _ stepped => step_accounts e accounts stepped)
    (init_accounts cfg n)

end State

/-! ## What a returned handler leaves behind -/

/-- The ticker, the lifetime timer or `forceCloseActive` has marked the tunnel closed and has
still to make its `Close` calls, the client's included if `client`. -/
def Handler.LeftTo (h : Handler) (client : Bool) : Prop :=
  ∃ t debt, h.tunnel = some t ∧ t.closed = true ∧ t.owed = some debt ∧
    (client = true → debt.client = true) ∧
    (debt.who = .ticker ∨ debt.who = .timer ∨ debt.who = .forcer)

namespace Handler

variable {h : Handler}

/-- Nobody but these three still owes a handler that is past its own close and the pump's. -/
theorem Safe.debtor {t : Tunnel} {debt : Debt} (safe : h.Safe) (settling : h.pc.settling = false)
    (relaying : h.pc.relaying = false) (tunnel : h.tunnel = some t) (owed : t.owed = some debt) :
    debt.who = .ticker ∨ debt.who = .timer ∨ debt.who = .forcer := by
  have owes : ∀ who, debt.who = who → h.owes who = true := by
    intro who same
    simp only [Handler.owes, tunnel, owed, Option.any_some, same, decide_true]
  cases who : debt.who with
  | handler =>
      exact absurd (settling.symm.trans (safe.own (owes _ who))) Bool.false_ne_true
  | pump =>
      have closing := safe.pump (owes _ who)
      exact absurd (relaying.symm.trans (safe.pumping (.inr closing))) Bool.false_ne_true
  | ticker => exact .inl rfl
  | timer => exact .inr (.inl rfl)
  | forcer => exact .inr (.inr rfl)

theorem Safe.client_leftTo (safe : h.Safe) (plain : h.pc.plain = true)
    (closed : ∀ t, h.tunnel = some t → t.closed = true) (live : h.client = .live) :
    h.LeftTo true := by
  obtain ⟨notAttach, settling, relaying⟩ := Pc.of_plain plain
  have covered := safe.covered
  cases tunnel : h.tunnel with
  | none =>
      rw [tunnel] at covered
      exact absurd (covered.1.symm.trans live) (by decide)
  | some t =>
      rw [tunnel] at covered
      cases attached : t.attached with
      | false => exact absurd (covered.2.2.2 attached live) notAttach
      | true =>
          obtain ⟨who, owed⟩ := covered.2.2.1 (closed t tunnel) attached live
          exact ⟨t, _, tunnel, closed t tunnel, owed, fun _ => rfl,
            safe.debtor settling relaying tunnel owed⟩

theorem Safe.upstream_leftTo (safe : h.Safe) (plain : h.pc.plain = true)
    (closed : ∀ t, h.tunnel = some t → t.closed = true) (live : h.upstream = .live) :
    h.LeftTo false := by
  obtain ⟨_, settling, relaying⟩ := Pc.of_plain plain
  have covered := safe.covered
  cases tunnel : h.tunnel with
  | none =>
      rw [tunnel] at covered
      exact absurd live covered.2
  | some t =>
      rw [tunnel] at covered
      obtain ⟨debt, owed⟩ := Option.ne_none_iff_exists'.1 (covered.2.1 (closed t tunnel) live)
      exact ⟨t, debt, tunnel, closed t tunnel, owed, Bool.noConfusion,
        safe.debtor settling relaying tunnel owed⟩

end Handler

/-- **Tunnel resource accounting.**  In every state of every interleaving of any
number of handlers: occupied slots and principal counts are exactly what the
handlers hold and within their limits, and a subject without reservations has no
entry; a handler that has returned holds and is registered nowhere, and each of
its connections is closed unless the goroutine that marked its tunnel closed has
still to close it. -/
theorem accounted_of_reaches (cfg : Config) (n : Nat) (s : State n)
    (reached : (State.machine cfg n).Reaches Machine.always s) :
    (s.gateway.slots = (Finset.univ.filter fun i => (s.handlers i).flags.heldSlot = true).card ∧
        s.gateway.slots ≤ cfg.maxConnections) ∧
      (∀ subject, s.gateway.reserved subject = (Finset.univ.filter fun i =>
            (s.handlers i).flags.heldPrincipal = true ∧ (s.handlers i).principal = subject).card ∧
          s.gateway.reserved subject ≤ cfg.maxPerPrincipal ∧
          ((s.gateway.principals subject).isSome ↔ 0 < s.gateway.reserved subject)) ∧
      ∀ i, (s.handlers i).pc = .returned →
        (s.handlers i).flags = {} ∧ i ∉ s.gateway.handshakes ∧ i ∉ s.gateway.active ∧
          ((s.handlers i).client ≠ .live ∨ (s.handlers i).LeftTo true) ∧
          ((s.handlers i).upstream ≠ .live ∨ (s.handlers i).LeftTo false) := by
  have accounts := State.accounts_of_reaches reached
  refine ⟨⟨accounts.books.slots, accounts.books.room⟩, ?_, ?_⟩
  · intro subject
    have reserved := accounts.books.reserved subject
    refine ⟨?_, reserved.trans_le (accounts.books.quota subject), ?_⟩
    · rw [reserved, State.charged_holdings]
    · rw [accounts.books.principals, reserved]
      exact entry_isSome _
  · intro i returned
    have allowed := (accounts.shape i).flags
    have safe := accounts.safe i
    have staged := safe.staged
    rw [returned] at allowed staged
    have flags : (s.handlers i).flags = {} := allowed
    have plain : (s.handlers i).pc.plain = true := by
      rw [returned]
      rfl
    refine ⟨flags, ?_, ?_, ?_, ?_⟩
    · rw [accounts.books.handshakes]
      intro inside
      have pending : (s.handlers i).flags.handshakePending = true := mem_having.1 inside
      rw [flags] at pending
      cases pending
    · rw [accounts.books.active]
      intro inside
      have registered : (s.handlers i).flags.activeRegistered = true := mem_having.1 inside
      rw [flags] at registered
      cases registered
    · by_cases live : (s.handlers i).client = .live
      · exact .inr (safe.client_leftTo plain staged live)
      · exact .inl live
    · by_cases live : (s.handlers i).upstream = .live
      · exact .inr (safe.upstream_leftTo plain staged live)
      · exact .inl live

/-! ## Runs of one call -/

/-- A call that has registered its tunnel. -/
def registered : List (Event 1) :=
  [.handler 0 (.route true), .handler 0 .proceed, .handler 0 (.checks none), .handler 0 .proceed,
    .handler 0 (.destination none), .handler 0 .proceed, .handler 0 (.admission (.ok "alice")),
    .handler 0 .proceed, .handler 0 .proceed, .handler 0 (.dial .ok), .handler 0 .proceed]

/-- The deferred functions of a call that is not established. -/
def unwinds : List (Event 1) := List.replicate 9 (.handler 0 .proceed)

/-- Forced shutdown marks the tunnel closed, and the handler overtakes its `Close` calls. -/
def overtaken : List (Event 1) :=
  registered ++ [.beginDrain, .force, .count 0, .handler 0 .forcerCloses, .handler 0 (.clock false),
    .handler 0 .proceed] ++ unwinds

/-- Forced shutdown closes the upstream before the handler gets on. -/
def undisturbed : List (Event 1) :=
  registered ++ [.beginDrain, .force, .count 0, .handler 0 .forcerCloses, .handler 0 .settle,
    .handler 0 (.clock false), .handler 0 .proceed] ++ unwinds

/-- A call whose handshake has completed and whose lifetime timer is armed. -/
def armed : List (Event 1) :=
  registered ++ [.handler 0 (.clock false), .handler 0 .proceed, .handler 0 (.hijack .ok),
    .handler 0 .proceed, .handler 0 (.clock false), .handler 0 .proceed, .handler 0 .proceed]

/-- The timer marks the tunnel closed; the handler finds the deadline passed and unwinds before
the timer's goroutine has closed anything. -/
def expiring : List (Event 1) :=
  armed ++ [.handler 0 .timerFires, .handler 0 (.clock true)] ++
    List.replicate 8 (.handler 0 .proceed)

/-- A drain that waits for a handshake, which gives up. -/
def drained : List (Event 1) :=
  registered ++ [.beginDrain, .wait, .look 0, .handler 0 (.clock false), .handler 0 .proceed] ++
    List.replicate 5 (.handler 0 .proceed) ++ [.handler 0 .settle] ++
    List.replicate 4 (.handler 0 .proceed) ++ [.wake 0, .look 0]

/-- What is left of the only call. -/
def outcome (events : List (Event 1)) : Option (Pc × Link × Nat × Option Nat) :=
  ((State.machine ⟨1, 1⟩ 1).run Machine.always {} events).map fun s =>
    ((s.handlers 0).pc, (s.handlers 0).upstream, s.gateway.slots, s.gateway.principals "alice")

theorem overtaken_outcome : outcome overtaken = some (.returned, .live, 0, none) := by
  decide +kernel

theorem undisturbed_outcome : outcome undisturbed = some (.returned, .closed, 0, none) := by
  decide +kernel

/-- **A returned handler's upstream need not be closed yet.** -/
theorem overtaken_leaves_upstream : ∃ s : State 1,
    (State.machine ⟨1, 1⟩ 1).Reaches Machine.always s ∧ (s.handlers 0).pc = .returned ∧
      (s.handlers 0).upstream = .live := by
  obtain ⟨s, ran, seen⟩ := Option.map_eq_some_iff.1 overtaken_outcome
  obtain ⟨pc, rest⟩ := Prod.mk.inj seen
  exact ⟨s, Machine.steps_of_run overtaken ran, pc, (Prod.mk.inj rest).1⟩

theorem accounted_undisturbed : ∃ s : State 1,
    (State.machine ⟨1, 1⟩ 1).Reaches Machine.always s ∧ (s.handlers 0).pc = .returned ∧
      (s.handlers 0).flags = {} ∧ s.gateway.reserved "alice" ≤ 1 := by
  obtain ⟨s, ran, seen⟩ := Option.map_eq_some_iff.1 undisturbed_outcome
  have reached := Machine.steps_of_run undisturbed ran
  have pc := (Prod.mk.inj seen).1
  obtain ⟨_, principals, returned⟩ := accounted_of_reaches ⟨1, 1⟩ 1 s reached
  exact ⟨s, reached, pc, (returned 0 pc).1, (principals "alice").2.1⟩

end GrpcBridge.Gateway
