/-
# Theory.PrefixCode -- binary tries of a prefix-free code

A code gives bit strings to symbols.  `Trie.ofList` inserts its words one after the
other, as a decoder does that builds its tree once.  When no word is a prefix of another
one (`PrefixFree`), the symbol at a path is the symbol of that word and of no other
(`symbol_ofList`), and a path is present exactly when it is the beginning of a word
(`present_ofList`): a reader that walks the trie emits a symbol where a word ends and
nowhere else.
-/
import Mathlib.Data.List.Pairwise
import Mathlib.Tactic.Tauto

namespace GrpcBridge.Theory.PrefixCode

set_option autoImplicit false

universe u

/-- A node has its children and the symbol of the word that ends there. -/
inductive Trie (α : Type u) where
  | missing
  | node (zero one : Trie α) (symbol : Option α)
deriving DecidableEq, Repr

namespace Trie

variable {α : Type u}

def root : Trie α := .node .missing .missing none

def child : Trie α → Bool → Trie α
  | .missing, _ => .missing
  | .node zero _ _, false => zero
  | .node _ one _, true => one

def symbol : Trie α → Option α
  | .missing => none
  | .node _ _ symbol => symbol

/-- The node at the end of a path. -/
def find (t : Trie α) (path : List Bool) : Trie α := path.foldl child t

def present : Trie α → Bool
  | .missing => false
  | .node _ _ _ => true

/-- Give a word its symbol, with the nodes on the way. -/
def insert (a : α) : List Bool → Trie α → Trie α
  | [], .missing => .node .missing .missing (some a)
  | [], .node zero one _ => .node zero one (some a)
  | false :: word, .missing => .node (insert a word .missing) .missing none
  | true :: word, .missing => .node .missing (insert a word .missing) none
  | false :: word, .node zero one symbol => .node (insert a word zero) one symbol
  | true :: word, .node zero one symbol => .node zero (insert a word one) symbol

def ofList (entries : List (List Bool × α)) : Trie α :=
  entries.foldl (fun t e => t.insert e.2 e.1) root

/-! ## Walking -/

@[simp] theorem find_nil (t : Trie α) : t.find [] = t := rfl

@[simp] theorem find_cons (t : Trie α) (b : Bool) (path : List Bool) :
    t.find (b :: path) = (t.child b).find path := rfl

theorem find_append (t : Trie α) (path rest : List Bool) :
    t.find (path ++ rest) = (t.find path).find rest := List.foldl_append

theorem find_concat (t : Trie α) (path : List Bool) (b : Bool) :
    t.find (path ++ [b]) = (t.find path).child b := by
  rw [find_append, find_cons, find_nil]

@[simp] theorem find_missing (path : List Bool) : (missing : Trie α).find path = .missing := by
  induction path with
  | nil => rfl
  | cons b path ih => exact ih

/-- Below a node there is no copy of it. -/
theorem find_ne_self {t : Trie α} (there : t ≠ .missing) {path : List Bool} (down : path ≠ []) :
    t.find path ≠ t := by
  have size : ∀ (path : List Bool) (t : Trie α), sizeOf (t.find path) ≤ sizeOf t := by
    intro path
    induction path with
    | nil => exact fun t => Nat.le_refl _
    | cons b path ih =>
        intro t
        refine Nat.le_trans (ih _) ?_
        cases t with
        | missing => exact Nat.le_refl _
        | node zero one symbol => cases b <;> simp only [child, node.sizeOf_spec] <;> omega
  cases path with
  | nil => exact absurd rfl down
  | cons b path =>
      intro same
      have below := size path (t.child b)
      rw [find_cons] at same
      rw [same] at below
      cases t with
      | missing => exact there rfl
      | node zero one symbol => cases b <;> simp only [child, node.sizeOf_spec] at below <;> omega

/-! ## One word -/

theorem find_insert_cons (a : α) (b : Bool) (word : List Bool) (t : Trie α) (path : List Bool) :
    (t.insert a (b :: word)).find (b :: path) = ((t.child b).insert a word).find path := by
  cases t <;> cases b <;> rfl

theorem find_insert_other (a : α) {b c : Bool} (other : c ≠ b) (word : List Bool) (t : Trie α)
    (path : List Bool) : (t.insert a (b :: word)).find (c :: path) = t.find (c :: path) := by
  cases t <;> cases b <;> cases c <;> first | rfl | exact absurd rfl other

theorem symbol_insert (a : α) (word : List Bool) (t : Trie α) (path : List Bool) :
    ((t.insert a word).find path).symbol =
      if path = word then some a else (t.find path).symbol := by
  induction word generalizing t path with
  | nil =>
      cases path with
      | nil => cases t <;> rfl
      | cons c path => cases t <;> cases c <;> rfl
  | cons b word ih =>
      cases path with
      | nil => cases t <;> cases b <;> rfl
      | cons c path =>
          by_cases same : c = b
          · subst same
            rw [find_insert_cons, ih, find_cons]
            simp only [List.cons.injEq, true_and]
          · have apart : ¬ (c :: path = b :: word) := fun equal => same (List.cons.inj equal).1
            rw [find_insert_other a same, if_neg apart]

theorem present_insert (a : α) (word : List Bool) (t : Trie α) (path : List Bool) :
    ((t.insert a word).find path).present = true ↔
      path <+: word ∨ (t.find path).present = true := by
  induction word generalizing t path with
  | nil =>
      cases path with
      | nil => cases t <;> simp [insert, present]
      | cons c path => cases t <;> cases c <;> simp [insert, child, present]
  | cons b word ih =>
      cases path with
      | nil => cases t <;> cases b <;> simp [insert, present]
      | cons c path =>
          by_cases same : c = b
          · subst same
            rw [find_insert_cons, ih, find_cons, List.cons_prefix_cons]
            simp only [true_and]
          · rw [find_insert_other a same, List.cons_prefix_cons]
            simp only [same, false_and, false_or]

/-! ## A code -/

/-- No word is a prefix of a word elsewhere in the list. -/
def PrefixFree (entries : List (List Bool × α)) : Prop :=
  entries.Pairwise fun x y => ¬ x.1 <+: y.1 ∧ ¬ y.1 <+: x.1

variable {entries : List (List Bool × α)}

theorem present_ofList (path : List Bool) :
    ((ofList entries).find path).present = true ↔ path = [] ∨ ∃ e ∈ entries, path <+: e.1 := by
  have fold : ∀ (entries : List (List Bool × α)) (t : Trie α),
      ((entries.foldl (fun t e => t.insert e.2 e.1) t).find path).present = true ↔
        (t.find path).present = true ∨ ∃ e ∈ entries, path <+: e.1 := by
    intro entries
    induction entries with
    | nil => simp
    | cons e entries ih =>
        intro t
        rw [List.foldl_cons, ih, present_insert]
        simp only [List.mem_cons, exists_eq_or_imp]
        tauto
  rw [ofList, fold]
  refine or_congr_left ?_
  cases path with
  | nil => simp [root, present]
  | cons b path => cases b <;> simp [root, child, present]

theorem symbol_foldl (free : PrefixFree entries) (t : Trie α) (path : List Bool) (a : α) :
    ((entries.foldl (fun t e => t.insert e.2 e.1) t).find path).symbol = some a ↔
      (path, a) ∈ entries ∨ (∀ e ∈ entries, e.1 ≠ path) ∧ (t.find path).symbol = some a := by
  induction entries generalizing t with
  | nil => simp
  | cons e entries ih =>
      obtain ⟨apart, free⟩ := List.pairwise_cons.1 free
      rw [List.foldl_cons, ih free, symbol_insert]
      by_cases here : path = e.1
      · subst here
        have others : ∀ f ∈ entries, f.1 ≠ e.1 := by
          intro f member same
          exact (apart f member).1 (same ▸ List.prefix_rfl)
        have absent : (e.1, a) ∉ entries := fun member => others _ member rfl
        rw [if_pos rfl]
        constructor
        · rintro (member | ⟨_, equal⟩)
          · exact absurd member absent
          · cases Option.some.inj equal
            exact .inl List.mem_cons_self
        · rintro (member | ⟨none, _⟩)
          · cases List.mem_cons.1 member with
            | inl equal => exact .inr ⟨others, congrArg some (congrArg Prod.snd equal).symm⟩
            | inr member => exact absurd member absent
          · exact absurd rfl (none e List.mem_cons_self)
      · have other : (path, a) ≠ e := by
          rintro rfl
          exact here rfl
        rw [if_neg here, List.forall_mem_cons, List.mem_cons]
        simp only [other, false_or, ne_eq, Ne.symm here, not_false_eq_true, true_and]

/-- **Where a symbol is.**  A prefix-free code has its symbols at the ends of its words. -/
theorem symbol_ofList (free : PrefixFree entries) (path : List Bool) (a : α) :
    ((ofList entries).find path).symbol = some a ↔ (path, a) ∈ entries := by
  have bare : ((root : Trie α).find path).symbol = none := by
    cases path with
    | nil => rfl
    | cons b path =>
        cases b <;> simp [root, child, symbol]
  rw [ofList, symbol_foldl free, bare]
  simp

/-- On the way to the end of a word no other word ends. -/
theorem symbol_inside (free : PrefixFree entries) {path rest : List Bool} {a : α}
    (word : (path ++ rest, a) ∈ entries) (more : rest ≠ []) :
    ((ofList entries).find path).symbol = none := by
  rw [Option.eq_none_iff_forall_ne_some]
  intro b ends
  rw [symbol_ofList free] at ends
  have apart : (path, b) ≠ (path ++ rest, a) := by
    intro same
    have length := congrArg (fun e => e.1.length) same
    simp only [List.length_append] at length
    exact more (List.eq_nil_of_length_eq_zero (by omega))
  have symm : Std.Symm fun x y : List Bool × α => ¬ x.1 <+: y.1 ∧ ¬ y.1 <+: x.1 :=
    ⟨fun _ _ both => both.symm⟩
  exact (List.Pairwise.forall free ends word apart).1 (List.prefix_append _ _)

end Trie

end GrpcBridge.Theory.PrefixCode
