/-
# Theory.Incremental -- decoding a stream that arrives in pieces

A `Taker` takes one item off the front of a buffer.  It may have to wait for more bytes, or
refuse what it sees; an item it took and a refusal stay what they are when more bytes
follow.  `drain` takes items from a whole string while it can, and `push` is the
incremental decoder made of it: it appends a chunk to what is left of the ones before and
drains the buffer.

A decoder that throws hands none of the items out that it took from the same chunk.  So
where the chunks are cut does not matter to a stream that is never refused
(`pushAll_eq`), and on one that is, the items handed out are the first ones of the stream
and the refusal is the same (`pushAll_prefix`).
-/
import Mathlib.Data.List.Basic

namespace GrpcBridge.Theory.Incremental

set_option autoImplicit false

universe u v

structure Taker (ε : Type u) (α : Type v) where
  take : List UInt8 → Except ε (Option (α × List UInt8))
  shorter : ∀ {b rest : List UInt8} {a : α}, take b = .ok (some (a, rest)) →
    rest.length < b.length
  stable : ∀ {b rest : List UInt8} {a : α} (more : List UInt8), take b = .ok (some (a, rest)) →
    take (b ++ more) = .ok (some (a, rest ++ more))
  refuses : ∀ {b : List UInt8} {e : ε} (more : List UInt8), take b = .error e →
    take (b ++ more) = .error e

namespace Taker

variable {ε : Type u} {α : Type v} (T : Taker ε α)

/-- The items of a string, and what is left of it unless it is refused. -/
def drain (b : List UInt8) : List α × Except ε (List UInt8) :=
  match _taken : T.take b with
  | .error e => ([], .error e)
  | .ok none => ([], .ok b)
  | .ok (some (a, rest)) => (a :: (drain rest).1, (drain rest).2)
termination_by b.length
decreasing_by all_goals exact T.shorter _taken

/-- One chunk: the items it completes and the buffer behind them. -/
def push (pending chunk : List UInt8) : Except ε (List α × List UInt8) :=
  (T.drain (pending ++ chunk)).2.map fun left => ((T.drain (pending ++ chunk)).1, left)

/-- Chunk after chunk, until one is refused. -/
def pushAll (pending : List UInt8) : List (List UInt8) → List α × Except ε (List UInt8)
  | [] => ([], .ok pending)
  | chunk :: chunks =>
      match T.push pending chunk with
      | .error e => ([], .error e)
      | .ok (items, left) => (items ++ (pushAll left chunks).1, (pushAll left chunks).2)

variable {T}

theorem drain_error {b : List UInt8} {e : ε} (refused : T.take b = .error e) :
    T.drain b = ([], .error e) := by
  rw [drain]
  split <;> rename_i taken <;> rw [refused] at taken <;> cases taken
  rfl

theorem drain_none {b : List UInt8} (waits : T.take b = .ok none) : T.drain b = ([], .ok b) := by
  rw [drain]
  split <;> rename_i taken <;> rw [waits] at taken <;> cases taken

theorem drain_some {b rest : List UInt8} {a : α} (took : T.take b = .ok (some (a, rest))) :
    T.drain b = (a :: (T.drain rest).1, (T.drain rest).2) := by
  rw [drain]
  split <;> rename_i taken <;> rw [took] at taken <;> cases taken
  rfl

/-- Induction along the items of a string. -/
theorem drain_induction {motive : List UInt8 → Prop}
    (error : ∀ b e, T.take b = .error e → motive b)
    (waits : ∀ b, T.take b = .ok none → motive b)
    (took : ∀ b a rest, T.take b = .ok (some (a, rest)) → motive rest → motive b)
    (b : List UInt8) : motive b := by
  have bounded : ∀ n, ∀ b : List UInt8, b.length ≤ n → motive b := by
    intro n
    induction n with
    | zero =>
        intro b short
        cases taken : T.take b with
        | error e => exact error b e taken
        | ok next =>
            cases next with
            | none => exact waits b taken
            | some item =>
                have less := T.shorter taken
                omega
    | succ n ih =>
        intro b short
        cases taken : T.take b with
        | error e => exact error b e taken
        | ok next =>
            cases next with
            | none => exact waits b taken
            | some item =>
                have less := T.shorter taken
                exact took b item.1 item.2 taken (ih item.2 (by omega))
  exact bounded b.length b (Nat.le_refl _)

/-- What is left holds no item yet. -/
theorem take_left {b left : List UInt8} (drained : (T.drain b).2 = .ok left) :
    T.take left = .ok none := by
  induction b using drain_induction (T := T) with
  | error b e refused =>
      rw [drain_error refused] at drained
      cases drained
  | waits b waits =>
      rw [drain_none waits] at drained
      cases drained
      exact waits
  | took b a rest took ih =>
      rw [drain_some took] at drained
      exact ih drained

/-- More bytes are read from where the first ones were left. -/
theorem drain_append_ok {b left : List UInt8} (more : List UInt8)
    (drained : (T.drain b).2 = .ok left) :
    T.drain (b ++ more) =
      ((T.drain b).1 ++ (T.drain (left ++ more)).1, (T.drain (left ++ more)).2) := by
  induction b using drain_induction (T := T) with
  | error b e refused =>
      rw [drain_error refused] at drained
      cases drained
  | waits b waits =>
      rw [drain_none waits] at drained ⊢
      cases drained
      rfl
  | took b a rest took ih =>
      rw [drain_some took] at drained ⊢
      rw [drain_some (T.stable more took), ih drained]
      rfl

/-- A string that is refused is refused whatever follows it. -/
theorem drain_append_error {b : List UInt8} {e : ε} (more : List UInt8)
    (drained : (T.drain b).2 = .error e) : T.drain (b ++ more) = T.drain b := by
  induction b using drain_induction (T := T) with
  | error b e refused => rw [drain_error refused, drain_error (T.refuses more refused)]
  | waits b waits =>
      rw [drain_none waits] at drained
      cases drained
  | took b a rest took ih =>
      rw [drain_some took] at drained ⊢
      rw [drain_some (T.stable more took), ih drained]

/-- **Chunks.**  They end as the whole string does, and what they hand out begins what is in
it. -/
theorem pushAll_prefix {pending : List UInt8} (waits : T.take pending = .ok none)
    (chunks : List (List UInt8)) :
    (T.pushAll pending chunks).1 <+: (T.drain (pending ++ chunks.flatten)).1 ∧
      (T.pushAll pending chunks).2 = (T.drain (pending ++ chunks.flatten)).2 := by
  induction chunks generalizing pending with
  | nil =>
      rw [List.flatten_nil, List.append_nil, drain_none waits]
      exact ⟨List.prefix_rfl, rfl⟩
  | cons chunk chunks ih =>
      rw [List.flatten_cons, ← List.append_assoc, pushAll, push]
      cases drained : (T.drain (pending ++ chunk)).2 with
      | error e =>
          rw [drain_append_error _ drained, drained]
          exact ⟨List.nil_prefix, rfl⟩
      | ok left =>
          obtain ⟨items, ending⟩ := ih (take_left drained)
          rw [drain_append_ok _ drained]
          exact ⟨(List.prefix_append_right_inj _).2 items, ending⟩

/-- Where the chunks are cut does not matter to a string that is not refused. -/
theorem pushAll_eq {pending left : List UInt8} (waits : T.take pending = .ok none)
    {chunks : List (List UInt8)} (fine : (T.drain (pending ++ chunks.flatten)).2 = .ok left) :
    T.pushAll pending chunks = T.drain (pending ++ chunks.flatten) := by
  induction chunks generalizing pending with
  | nil => rw [List.flatten_nil, List.append_nil, drain_none waits, pushAll]
  | cons chunk chunks ih =>
      rw [List.flatten_cons, ← List.append_assoc] at fine ⊢
      rw [pushAll, push]
      cases drained : (T.drain (pending ++ chunk)).2 with
      | error e =>
          rw [drain_append_error _ drained, drained] at fine
          cases fine
      | ok rest =>
          rw [drain_append_ok _ drained] at fine ⊢
          simp only [Except.map, ih (take_left drained) fine]

end Taker

end GrpcBridge.Theory.Incremental
