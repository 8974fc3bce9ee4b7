/-
# Theory.Traversal -- depth-first traversal with early marking

A traversal takes the steps of a list in order.  A step goes to a node or does something.  A
node that is met for the first time is entered, and the steps of its body are taken before
what comes behind it.  A node that was entered is passed by, also while its body is still
being taken, so that cycles end.

`Ran` says what a traversal did, as the log of the steps that were taken.  `Walk.visit` is a
traversal with a state of its own, in which it recognises the nodes that it has entered; on a
finite graph it ends, and its state is what the log makes of it (`Walk.traverse_spec`).  A
traversal that begins with an empty log has entered exactly the nodes that can be reached,
and has done exactly what their bodies say (`Ran.node_iff`, `Ran.act_iff`).
-/
import Mathlib.Data.Set.Card
import Mathlib.Logic.Relation

namespace GrpcBridge.Theory.Traversal

set_option autoImplicit false

variable {ν α σ : Type}

inductive Step (ν α : Type) where
  | node (n : ν)
  | act (a : α)
deriving DecidableEq, Repr

/-- The nodes that were entered, in their order. -/
def nodes (log : List (Step ν α)) : List ν :=
  log.filterMap fun
    | .node n => some n
    | .act _ => none

theorem mem_nodes {log : List (Step ν α)} {n : ν} : n ∈ nodes log ↔ .node n ∈ log := by
  rw [nodes, List.mem_filterMap]
  constructor
  · rintro ⟨step, member, same⟩
    cases step with
    | node m =>
        cases same
        exact member
    | act a => cases same
  · intro member
    exact ⟨_, member, rfl⟩

/-- What was done, in its order. -/
def acts (log : List (Step ν α)) : List α :=
  log.filterMap fun
    | .node _ => none
    | .act a => some a

theorem mem_acts {log : List (Step ν α)} {a : α} : a ∈ acts log ↔ .act a ∈ log := by
  rw [acts, List.mem_filterMap]
  constructor
  · rintro ⟨step, member, same⟩
    cases step with
    | node n => cases same
    | act b =>
        cases same
        exact member
  · intro member
    exact ⟨_, member, rfl⟩

theorem nodes_node (log : List (Step ν α)) (n : ν) : nodes (log ++ [.node n]) = nodes log ++ [n] :=
  List.filterMap_append

theorem nodes_act (log : List (Step ν α)) (a : α) : nodes (log ++ [.act a]) = nodes log := by
  rw [nodes, List.filterMap_append]
  exact List.append_nil _

theorem acts_node (log : List (Step ν α)) (n : ν) : acts (log ++ [.node n]) = acts log := by
  rw [acts, List.filterMap_append]
  exact List.append_nil _

theorem acts_act (log : List (Step ν α)) (a : α) : acts (log ++ [.act a]) = acts log ++ [a] :=
  List.filterMap_append

section Runs

variable (body : ν → List (Step ν α))

def Child (n m : ν) : Prop := .node m ∈ body n

/-- A node that is reached from one of the steps. -/
def Reached (steps : List (Step ν α)) (n : ν) : Prop :=
  ∃ m, .node m ∈ steps ∧ Relation.ReflTransGen (Child body) m n

/-- Taking the steps, with the log before and after. -/
inductive Ran : List (Step ν α) → List (Step ν α) → List (Step ν α) → Prop
  | nil (log : List (Step ν α)) : Ran log [] log
  | again {log steps log' : List (Step ν α)} {n : ν} (entered : .node n ∈ log)
      (rest : Ran log steps log') : Ran log (.node n :: steps) log'
  | fresh {log inside steps log' : List (Step ν α)} {n : ν} (unmet : .node n ∉ log)
      (within : Ran (log ++ [.node n]) (body n) inside) (rest : Ran inside steps log') :
      Ran log (.node n :: steps) log'
  | act {log steps log' : List (Step ν α)} {a : α} (rest : Ran (log ++ [.act a]) steps log') :
      Ran log (.act a :: steps) log'

variable {body} {log steps log' : List (Step ν α)}

/-! ## What a traversal did -/

theorem Ran.append {more log'' : List (Step ν α)} (ran : Ran body log steps log')
    (then_ : Ran body log' more log'') : Ran body log (steps ++ more) log'' := by
  induction ran with
  | nil => exact then_
  | again entered _ ih => exact .again entered (ih then_)
  | fresh unmet within _ _ ih => exact .fresh unmet within (ih then_)
  | act _ ih => exact .act (ih then_)

theorem Ran.grows (ran : Ran body log steps log') : log ⊆ log' := by
  induction ran with
  | nil => exact List.Subset.refl _
  | again _ _ ih => exact ih
  | fresh _ _ _ within rest =>
      intro step old
      exact rest (within (List.mem_append_left _ old))
  | act _ ih =>
      intro step old
      exact ih (List.mem_append_left _ old)

theorem Ran.takes (ran : Ran body log steps log') : steps ⊆ log' := by
  induction ran with
  | nil => exact List.nil_subset _
  | again entered rest ih => exact List.cons_subset.2 ⟨rest.grows entered, ih⟩
  | fresh _ within rest _ ih =>
      have met := rest.grows (within.grows (List.mem_append_right _ List.mem_cons_self))
      exact List.cons_subset.2 ⟨met, ih⟩
  | act rest ih =>
      have done := rest.grows (List.mem_append_right _ List.mem_cons_self)
      exact List.cons_subset.2 ⟨done, ih⟩

/-- The steps determine the log. -/
theorem Ran.unique {log'' : List (Step ν α)} (ran : Ran body log steps log')
    (other : Ran body log steps log'') : log' = log'' := by
  induction ran generalizing log'' with
  | nil =>
      cases other
      rfl
  | again entered _ ih =>
      cases other with
      | again _ rest => exact ih rest
      | fresh unmet _ _ => exact absurd entered unmet
  | fresh unmet _ _ ihWithin ihRest =>
      cases other with
      | again entered _ => exact absurd entered unmet
      | fresh _ within rest =>
          obtain rfl := ihWithin within
          exact ihRest rest
  | act _ ih =>
      cases other with
      | act rest => exact ih rest

/-- The whole body of a node is taken once the node is entered. -/
theorem Ran.bodies (ran : Ran body log steps log') {n : ν} (entered : .node n ∈ log') :
    .node n ∈ log ∨ body n ⊆ log' := by
  induction ran with
  | nil => exact .inl entered
  | again _ _ ih => exact ih entered
  | @fresh log inside steps log' m unmet within rest ihWithin ihRest =>
      obtain before | taken := ihRest entered
      · obtain known | taken := ihWithin before
        · obtain old | new := List.mem_append.1 known
          · exact .inl old
          · cases List.mem_singleton.1 new
            exact .inr (List.Subset.trans within.takes rest.grows)
        · exact .inr (List.Subset.trans taken rest.grows)
      · exact .inr taken
  | @act log steps log' a _ ih =>
      obtain known | taken := ih entered
      · obtain old | new := List.mem_append.1 known
        · exact .inl old
        · cases List.mem_singleton.1 new
      · exact .inr taken

/-- Nothing is taken that was not asked for. -/
theorem Ran.origin (ran : Ran body log steps log') {step : Step ν α} (taken : step ∈ log') :
    step ∈ log ∨ step ∈ steps ∨ ∃ n, .node n ∈ log' ∧ .node n ∉ log ∧ step ∈ body n := by
  induction ran with
  | nil => exact .inl taken
  | again _ _ ih =>
      obtain old | asked | ⟨n, entered, unmet, member⟩ := ih taken
      · exact .inl old
      · exact .inr (.inl (List.mem_cons_of_mem _ asked))
      · exact .inr (.inr ⟨n, entered, unmet, member⟩)
  | @fresh log inside steps log' m unmet within rest ihWithin ihRest =>
      have entered : .node m ∈ log' :=
        rest.grows (within.grows (List.mem_append_right _ List.mem_cons_self))
      have later : ∀ n, .node n ∉ inside → .node n ∉ log := by
        intro n absent old
        exact absent (within.grows (List.mem_append_left _ old))
      obtain before | asked | ⟨n, met, unmet', member⟩ := ihRest taken
      · obtain known | inBody | ⟨n, met, unmet', member⟩ := ihWithin before
        · obtain old | new := List.mem_append.1 known
          · exact .inl old
          · cases List.mem_singleton.1 new
            exact .inr (.inl List.mem_cons_self)
        · exact .inr (.inr ⟨m, entered, unmet, inBody⟩)
        · refine .inr (.inr ⟨n, rest.grows met, ?_, member⟩)
          intro old
          exact unmet' (List.mem_append_left _ old)
      · exact .inr (.inl (List.mem_cons_of_mem _ asked))
      · exact .inr (.inr ⟨n, met, later n unmet', member⟩)
  | @act log steps log' a _ ih =>
      obtain known | asked | ⟨n, entered, unmet, member⟩ := ih taken
      · obtain old | new := List.mem_append.1 known
        · exact .inl old
        · cases List.mem_singleton.1 new
          exact .inr (.inl List.mem_cons_self)
      · exact .inr (.inl (List.mem_cons_of_mem _ asked))
      · refine .inr (.inr ⟨n, entered, ?_, member⟩)
        intro old
        exact unmet (List.mem_append_left _ old)

/-- A node that was entered is reached from the steps. -/
theorem Ran.reached (ran : Ran body log steps log') {n : ν} (entered : .node n ∈ log') :
    .node n ∈ log ∨ Reached body steps n := by
  induction ran with
  | nil => exact .inl entered
  | again _ _ ih =>
      obtain old | ⟨root, asked, path⟩ := ih entered
      · exact .inl old
      · exact .inr ⟨root, List.mem_cons_of_mem _ asked, path⟩
  | @fresh log inside steps log' m unmet within rest ihWithin ihRest =>
      obtain before | ⟨root, asked, path⟩ := ihRest entered
      · obtain known | ⟨root, inBody, path⟩ := ihWithin before
        · obtain old | new := List.mem_append.1 known
          · exact .inl old
          · cases List.mem_singleton.1 new
            exact .inr ⟨n, List.mem_cons_self, .refl⟩
        · exact .inr ⟨m, List.mem_cons_self, .head inBody path⟩
      · exact .inr ⟨root, List.mem_cons_of_mem _ asked, path⟩
  | @act log steps log' a _ ih =>
      obtain known | ⟨root, asked, path⟩ := ih entered
      · obtain old | new := List.mem_append.1 known
        · exact .inl old
        · cases List.mem_singleton.1 new
      · exact .inr ⟨root, List.mem_cons_of_mem _ asked, path⟩

/-! ## From an empty log -/

/-- The nodes that are reached are entered. -/
theorem Ran.node_iff (ran : Ran body [] steps log) (n : ν) :
    .node n ∈ log ↔ Reached body steps n := by
  constructor
  · intro entered
    obtain old | reached := ran.reached entered
    · cases old
    · exact reached
  · rintro ⟨root, asked, path⟩
    induction path with
    | refl => exact ran.takes asked
    | tail _ child ih =>
        obtain old | taken := ran.bodies ih
        · cases old
        · exact taken child

/-- What the steps and the bodies of the reached nodes say is done. -/
theorem Ran.act_iff (ran : Ran body [] steps log) (a : α) :
    .act a ∈ log ↔ .act a ∈ steps ∨ ∃ n, Reached body steps n ∧ .act a ∈ body n := by
  constructor
  · intro done
    obtain old | asked | ⟨n, entered, _, member⟩ := ran.origin done
    · cases old
    · exact .inl asked
    · exact .inr ⟨n, (ran.node_iff n).1 entered, member⟩
  · rintro (asked | ⟨n, reached, member⟩)
    · exact ran.takes asked
    · obtain old | taken := ran.bodies ((ran.node_iff n).2 reached)
      · cases old
      · exact taken member

end Runs

/-! ## Traversals with a state -/

/-- A traversal that keeps a state.  `take` is what entering a node, and doing something,
make of it. -/
structure Walk (ν α σ : Type) where
  body : ν → List (Step ν α)
  seen : σ → ν → Bool
  take : σ → Step ν α → σ

namespace Walk

variable (w : Walk ν α σ)

/-- A step, when `visit` goes to nodes. -/
def step (visit : σ → ν → Option σ) (s : σ) : Step ν α → Option σ
  | .node n => visit s n
  | .act a => some (w.take s (.act a))

/-- `none` when the fuel did not suffice. -/
def visit : Nat → σ → ν → Option σ
  | 0, _, _ => none
  | fuel + 1, s, n =>
      if w.seen s n then some s
      else (w.body n).foldlM (w.step (visit fuel)) (w.take s (.node n))

def traverse (fuel : Nat) (s : σ) (steps : List (Step ν α)) : Option σ :=
  steps.foldlM (w.step (w.visit fuel)) s

/-- Nested loops take the steps of the inner ones after each other. -/
theorem foldlM_flatMap {β γ δ : Type} (f : δ → γ → Option δ) (g : β → List γ) (xs : List β)
    (s : δ) : (xs.flatMap g).foldlM f s = xs.foldlM (fun s x => (g x).foldlM f s) s := by
  induction xs generalizing s with
  | nil => rfl
  | cons x xs ih =>
      rw [List.flatMap_cons, List.foldlM_append, List.foldlM_cons]
      exact congrArg _ (funext ih)

/-- The state after the steps of a log. -/
def replay (s : σ) (log : List (Step ν α)) : σ := log.foldl w.take s

/-- On the nodes of `R`, which no edge leaves, the state tells what was entered. -/
structure Recognises (s : σ) (R : ν → Prop) : Prop where
  closed : ∀ n m, R n → Child w.body n m → R m
  seen : ∀ log : List (Step ν α), (∀ n, .node n ∈ log → R n) → ∀ n, R n →
    (w.seen (w.replay s log) n = true ↔ .node n ∈ log)

variable {w} {s : σ} {R : ν → Prop}

theorem replay_append (log : List (Step ν α)) (step : Step ν α) :
    w.replay s (log ++ [step]) = w.take (w.replay s log) step := by
  rw [replay, List.foldl_append]
  rfl

/-- The number of nodes that are still to be entered. -/
noncomputable def unmet (log : List (Step ν α)) : Nat := Set.ncard {n : ν | .node n ∉ log}

theorem unmet_le [Finite ν] {log log' : List (Step ν α)} (grows : log ⊆ log') :
    unmet log' ≤ unmet log := by
  apply Set.ncard_le_ncard
  · intro n absent entered
    exact absent (grows entered)
  · exact Set.toFinite _

theorem unmet_enter [Finite ν] {log : List (Step ν α)} {n : ν} (fresh : .node n ∉ log) :
    unmet (log ++ [.node n]) < unmet log := by
  apply Set.ncard_lt_ncard
  · rw [Set.ssubset_iff_of_subset]
    · refine ⟨n, fresh, ?_⟩
      intro absent
      exact absent (List.mem_append_right _ List.mem_cons_self)
    · intro m absent entered
      exact absent (List.mem_append_left _ entered)
  · exact Set.toFinite _

theorem Recognises.path (recognises : w.Recognises s R) {n m : ν} (inside : R n)
    (path : Relation.ReflTransGen (Child w.body) n m) : R m := by
  induction path with
  | refl => exact inside
  | tail _ child ih => exact recognises.closed _ _ ih child

theorem Recognises.inside (recognises : w.Recognises s R) {log steps log' : List (Step ν α)}
    (before : ∀ n, .node n ∈ log → R n) (roots : ∀ n, .node n ∈ steps → R n)
    (ran : Ran w.body log steps log') : ∀ n, .node n ∈ log' → R n := by
  intro n entered
  obtain old | ⟨root, asked, path⟩ := ran.reached entered
  · exact before n old
  · exact recognises.path (roots root asked) path

/-- What is shown of one visit, for every log that leaves fewer nodes than there is fuel. -/
def Visits (w : Walk ν α σ) (s : σ) (R : ν → Prop) (fuel : Nat) : Prop :=
  ∀ log : List (Step ν α), (∀ n, .node n ∈ log → R n) → unmet log < fuel → ∀ n, R n →
    ∃ log', Ran w.body log [.node n] log' ∧
      w.visit fuel (w.replay s log) n = some (w.replay s log')

/-- The steps of a list, when each of them is a visit that is as it should be. -/
theorem steps_spec [Finite ν] (recognises : w.Recognises s R) {fuel : Nat}
    (visits : Visits w s R fuel) (steps : List (Step ν α)) {log : List (Step ν α)}
    (before : ∀ n, .node n ∈ log → R n) (roots : ∀ n, .node n ∈ steps → R n)
    (enough : unmet log < fuel) :
    ∃ log', Ran w.body log steps log' ∧
      steps.foldlM (w.step (w.visit fuel)) (w.replay s log) = some (w.replay s log') := by
  induction steps generalizing log with
  | nil => exact ⟨log, .nil log, rfl⟩
  | cons first steps ih =>
      have later : ∀ n, .node n ∈ steps → R n := fun n member =>
        roots n (List.mem_cons_of_mem _ member)
      cases first with
      | node n =>
          obtain ⟨mid, one, visited⟩ := visits log before enough n (roots n List.mem_cons_self)
          have inside := recognises.inside before
            (fun m member => roots m (List.mem_singleton.1 member ▸ List.mem_cons_self)) one
          have fewer := Nat.lt_of_le_of_lt (unmet_le one.grows) enough
          obtain ⟨log', more, taken⟩ := ih inside later fewer
          refine ⟨log', one.append more, ?_⟩
          rw [List.foldlM_cons, step, visited]
          exact taken
      | act a =>
          have inside : ∀ n, .node n ∈ log ++ [.act a] → R n := by
            intro n member
            obtain old | new := List.mem_append.1 member
            · exact before n old
            · cases List.mem_singleton.1 new
          have fewer := Nat.lt_of_le_of_lt (unmet_le (List.subset_append_left log [.act a])) enough
          obtain ⟨log', more, taken⟩ := ih inside later fewer
          refine ⟨log', .act more, ?_⟩
          rw [List.foldlM_cons, step, ← replay_append]
          exact taken

/-- Early marking spends one unit of fuel on each node that is met. -/
theorem visit_spec [Finite ν] (recognises : w.Recognises s R) (fuel : Nat) :
    Visits w s R fuel := by
  induction fuel with
  | zero =>
      intro log _ enough
      exact absurd enough (Nat.not_lt_zero _)
  | succ fuel ih =>
      intro log before enough n inside
      by_cases entered : .node n ∈ log
      · refine ⟨log, .again entered (.nil log), ?_⟩
        rw [visit, if_pos ((recognises.seen log before n inside).2 entered)]
      · have known : ∀ m, .node m ∈ log ++ [.node n] → R m := by
          intro m member
          obtain old | new := List.mem_append.1 member
          · exact before m old
          · cases List.mem_singleton.1 new
            exact inside
        have fewer : unmet (log ++ [.node n]) < fuel :=
          Nat.lt_of_lt_of_le (unmet_enter entered) (Nat.le_of_lt_succ enough)
        obtain ⟨log', ran, taken⟩ := steps_spec recognises ih (w.body n) known
          (fun m child => recognises.closed n m inside child) fewer
        refine ⟨log', .fresh entered ran (.nil log'), ?_⟩
        have unseen : ¬ w.seen (w.replay s log) n = true := fun seen =>
          entered ((recognises.seen log before n inside).1 seen)
        rw [visit, if_neg unseen, ← replay_append]
        exact taken

/-- **A traversal ends**, with more fuel than there are nodes, and its state is what its log
makes of it. -/
theorem traverse_spec [Finite ν] (recognises : w.Recognises s R) (steps : List (Step ν α))
    (roots : ∀ n, .node n ∈ steps → R n) :
    ∃ log, Ran w.body [] steps log ∧
      ∀ fuel, Nat.card ν < fuel → w.traverse fuel s steps = some (w.replay s log) := by
  have nothing : ∀ n, Step.node n ∈ ([] : List (Step ν α)) → R n := fun n member =>
    absurd member List.not_mem_nil
  have ends : ∀ fuel, Nat.card ν < fuel → ∃ log, Ran w.body [] steps log ∧
      w.traverse fuel s steps = some (w.replay s log) := by
    intro fuel enough
    apply steps_spec recognises (visit_spec recognises fuel) steps nothing roots
    exact Nat.lt_of_le_of_lt (Set.ncard_le_card _) enough
  obtain ⟨log, ran, _⟩ := ends (Nat.card ν + 1) (Nat.lt_succ_self _)
  refine ⟨log, ran, ?_⟩
  intro fuel enough
  obtain ⟨log', ran', taken⟩ := ends fuel enough
  rw [taken, ran.unique ran']

end Walk

end GrpcBridge.Theory.Traversal
