/-
# Contracts.Freezing -- descriptors that stay what was accepted

`freezeReachableDescriptors` of web/src/contracts.ts.  When a contract is accepted, a second
traversal freezes the descriptor objects of its service.  This one marks the objects
themselves, and not their names.  It freezes an object or an array or lookup table of one at a
time (`Ref`), on its way through the fields and on its way out of a message.

The traversal ends and freezes the objects of `Covered`, no more and no less
(`freeze_spec`): those of the messages, fields, oneofs and enums that the projection has.
A frozen object refuses every write, so no sequence of writes changes the projection
(`projection_unchanged`).
-/
import GrpcBridge.Contracts.Relocation

namespace GrpcBridge.Contracts

set_option autoImplicit false

open GrpcBridge.Theory
open GrpcBridge.Theory.Serialization (Text)
open GrpcBridge.Theory.Sorting
open GrpcBridge.Theory.Traversal

/-- What `Object.freeze` is called with: the object of an address, or what one of its
properties refers to. -/
inductive Ref (A : Type) where
  | service
  | methods
  | methodTable
  | method (method : A)
  | message (message : A)
  | fields (message : A)
  | fieldTable (message : A)
  | oneofs (message : A)
  | members (message : A)
  | nestedMessages (message : A)
  | nestedEnums (message : A)
  | nestedExtensions (message : A)
  | field (field : A)
  | proto (proto : A)
  | oneof (oneof : A)
  | oneofFields (oneof : A)
  | enum (enum : A)
  | values (enum : A)
  | valueTable (enum : A)
  | value (value : A)
deriving DecidableEq, Repr

/-- The sets `messages` and `enums`, and what is frozen. -/
structure Freezing (A : Type) where
  messages : List A
  enums : List A
  frozen : List (Ref A)

namespace Freezing

variable {A : Type} (d : Descriptors A)

/-- `Object.freeze` -/
def freeze (s : Freezing A) (ref : Ref A) : Freezing A := { s with frozen := s.frozen ++ [ref] }

variable [DecidableEq A]

def visitEnum (s : Freezing A) (enum : A) : Freezing A :=
  if enum ∈ s.enums then s
  else
    let s := { s with enums := s.enums ++ [enum] }
    let s := (d.enum enum).values.foldl (fun s value => s.freeze (.value value)) s
    ((s.freeze (.values enum)).freeze (.valueTable enum)).freeze (.enum enum)

/-- `none` when the fuel did not suffice. -/
def visitMessage : Nat → Freezing A → A → Option (Freezing A)
  | 0, _, _ => none
  | fuel + 1, s, message =>
      if message ∈ s.messages then some s
      else do
        let s := { s with messages := s.messages ++ [message] }
        let s ← (d.message message).fields.foldlM (fun s field =>
          let s := s.freeze (.proto (d.field field).proto)
          let s := s.freeze (.field field)
          (referencedTypes (d.field field)).foldlM (fun s type =>
            match type with
            | .message message => visitMessage fuel s message
            | .enum enum => some (visitEnum d s enum)) s) s
        let s := (d.message message).oneofs.foldl (fun s oneof =>
          (s.freeze (.oneofFields oneof)).freeze (.oneof oneof)) s
        let s := s.freeze (.fields message)
        let s := s.freeze (.fieldTable message)
        let s := s.freeze (.oneofs message)
        let s := s.freeze (.members message)
        let s := s.freeze (.nestedMessages message)
        let s := s.freeze (.nestedEnums message)
        let s := s.freeze (.nestedExtensions message)
        return s.freeze (.message message)

end Freezing

/-- What is frozen afterwards, when `frozen` was before. -/
def freezeReachableDescriptors {A : Type} [DecidableEq A] (d : Descriptors A) (fuel : Nat)
    (frozen : List (Ref A)) : Option (List (Ref A)) := do
  let s ← d.methods.foldlM (fun s method => do
    let s ← Freezing.visitMessage d fuel s (d.method method).input
    let s ← Freezing.visitMessage d fuel s (d.method method).output
    return s.freeze (.method method)) ⟨[], [], frozen⟩
  let s := s.freeze .methods
  let s := s.freeze .methodTable
  let s := s.freeze .service
  return s.frozen

/-! ## The traversal -/

section Traversal

variable {A : Type} (d : Descriptors A)

/-- What is done on the way. -/
inductive Task (A : Type) where
  | freeze (ref : Ref A)
  | enum (enum : A)

/-- Frozen with an enum. -/
def enumRefs (enum : A) : List (Ref A) :=
  (d.enum enum).values.map .value ++ [.values enum, .valueTable enum, .enum enum]

/-- Frozen on the way out of a message. -/
def closingRefs (message : A) : List (Ref A) :=
  ((d.message message).oneofs.flatMap fun oneof => [.oneofFields oneof, .oneof oneof]) ++
    [.fields message, .fieldTable message, .oneofs message, .members message,
      .nestedMessages message, .nestedEnums message, .nestedExtensions message, .message message]

/-- Frozen with a field. -/
def fieldRefs (field : A) : List (Ref A) := [.proto (d.field field).proto, .field field]

def Desc.task : Desc A → Step A (Task A)
  | .message m => .node m
  | .enum n => .act (.enum n)

def freezing (refs : List (Ref A)) : List (Step A (Task A)) := refs.map fun ref => .act (.freeze ref)

def freezeBody (message : A) : List (Step A (Task A)) :=
  ((d.message message).fields.flatMap fun field =>
    freezing (fieldRefs d field) ++ (referencedTypes (d.field field)).map Desc.task) ++
      freezing (closingRefs d message)

def freezeRoots : List (Step A (Task A)) :=
  d.methods.flatMap fun method =>
    [.node (d.method method).input, .node (d.method method).output,
      .act (.freeze (.method method))]

theorem freezeAll_eq (refs : List (Ref A)) (s : Freezing A) :
    refs.foldl Freezing.freeze s = { s with frozen := s.frozen ++ refs } := by
  induction refs generalizing s with
  | nil => rw [List.append_nil]; rfl
  | cons ref refs ih =>
      rw [List.foldl_cons, ih, Freezing.freeze, List.append_assoc]
      rfl

/-- The loop over the oneofs, and what follows it. -/
theorem closing_eq (s : Freezing A) (message : A) :
    (closingRefs d message).foldl Freezing.freeze s =
      [Ref.fields message, .fieldTable message, .oneofs message, .members message,
        .nestedMessages message, .nestedEnums message, .nestedExtensions message,
        .message message].foldl Freezing.freeze ((d.message message).oneofs.foldl
          (fun s oneof => (s.freeze (.oneofFields oneof)).freeze (.oneof oneof)) s) := by
  rw [closingRefs, List.foldl_append, List.foldl_flatMap]
  rfl

variable [DecidableEq A]

def freezeWalk : Walk A (Task A) (Freezing A) where
  body := freezeBody d
  seen s message := message ∈ s.messages
  take s
    | .node message => { s with messages := s.messages ++ [message] }
    | .act (.freeze ref) => s.freeze ref
    | .act (.enum enum) => Freezing.visitEnum d s enum

theorem visitEnum_eq (s : Freezing A) (enum : A) : Freezing.visitEnum d s enum =
    if enum ∈ s.enums then s
    else { s with enums := s.enums ++ [enum], frozen := s.frozen ++ enumRefs d enum } := by
  unfold Freezing.visitEnum
  refine if_congr Iff.rfl rfl ?_
  have all := freezeAll_eq (enumRefs d enum) { s with enums := s.enums ++ [enum] }
  rw [enumRefs, List.foldl_append, List.foldl_map] at all
  exact all

variable {d}

theorem freezing_steps (visit : Freezing A → A → Option (Freezing A)) (refs : List (Ref A))
    (steps : List (Step A (Task A))) (s : Freezing A) :
    (freezing refs ++ steps).foldlM ((freezeWalk d).step visit) s =
      steps.foldlM ((freezeWalk d).step visit) (refs.foldl Freezing.freeze s) := by
  induction refs generalizing s with
  | nil => rfl
  | cons ref refs ih => exact ih _

/-- The loop over the fields. -/
theorem fields_steps {fuel : Nat} (ih : Freezing.visitMessage d fuel = (freezeWalk d).visit fuel)
    (fields : List A) (s : Freezing A) :
    (fields.flatMap fun field => freezing (fieldRefs d field) ++
      (referencedTypes (d.field field)).map Desc.task).foldlM
        ((freezeWalk d).step ((freezeWalk d).visit fuel)) s =
    fields.foldlM (fun s field =>
      (referencedTypes (d.field field)).foldlM (fun s type =>
        match type with
        | .message message => Freezing.visitMessage d fuel s message
        | .enum enum => some (Freezing.visitEnum d s enum))
      ((s.freeze (.proto (d.field field).proto)).freeze (.field field))) s := by
  rw [Walk.foldlM_flatMap]
  congr 1
  funext s field
  rw [freezing_steps, List.foldlM_map]
  congr 1
  funext s type
  cases type with
  | message m =>
      rw [ih]
      rfl
  | enum n => rfl

variable (d)

theorem freezeVisit_eq (fuel : Nat) :
    Freezing.visitMessage d fuel = (freezeWalk d).visit fuel := by
  induction fuel with
  | zero => rfl
  | succ fuel ih =>
      funext s message
      rw [Freezing.visitMessage, Walk.visit]
      refine if_congr (by rw [freezeWalk, decide_eq_true_eq]) rfl ?_
      have body : (freezeWalk d).body message = freezeBody d message := rfl
      have closing : ∀ s : Freezing A, (freezing (closingRefs d message)).foldlM
          ((freezeWalk d).step ((freezeWalk d).visit fuel)) s =
            some ((closingRefs d message).foldl Freezing.freeze s) := by
        intro s
        rw [← List.append_nil (freezing _), freezing_steps]
        rfl
      rw [body, freezeBody, List.foldlM_append, fields_steps ih]
      simp only [closing, closing_eq]
      rfl

theorem freezeReachableDescriptors_eq (fuel : Nat) (frozen : List (Ref A)) :
    freezeReachableDescriptors d fuel frozen =
      ((freezeWalk d).traverse fuel ⟨[], [], frozen⟩ (freezeRoots d)).map
        fun s => s.frozen ++ [.methods, .methodTable, .service] := by
  have methods : d.methods.foldlM (fun s method => do
        let s ← Freezing.visitMessage d fuel s (d.method method).input
        let s ← Freezing.visitMessage d fuel s (d.method method).output
        return s.freeze (.method method)) ⟨[], [], frozen⟩ =
      (freezeWalk d).traverse fuel ⟨[], [], frozen⟩ (freezeRoots d) := by
    rw [Walk.traverse, freezeRoots, Walk.foldlM_flatMap, freezeVisit_eq]
    congr 1
  unfold freezeReachableDescriptors
  rw [methods]
  cases (freezeWalk d).traverse fuel ⟨[], [], frozen⟩ (freezeRoots d) with
  | none => rfl
  | some s =>
      refine congrArg some ?_
      exact congrArg Freezing.frozen (freezeAll_eq [.methods, .methodTable, .service] s)

/-- The sets after a log, and what is frozen then. -/
structure Replayed (frozen : List (Ref A)) (log : List (Step A (Task A))) (s : Freezing A) :
    Prop where
  messages : s.messages = nodes log
  enums : ∀ n, n ∈ s.enums ↔ .act (.enum n) ∈ log
  frozen : ∀ ref, ref ∈ s.frozen ↔ ref ∈ frozen ∨ .act (.freeze ref) ∈ log ∨
    ∃ n, .act (.enum n) ∈ log ∧ ref ∈ enumRefs d n

namespace Replayed

variable {d} {frozen : List (Ref A)} {log : List (Step A (Task A))} {s : Freezing A}

omit [DecidableEq A] in
theorem node (replayed : Replayed d frozen log s) (m : A) :
    Replayed d frozen (log ++ [.node m]) { s with messages := s.messages ++ [m] } where
  messages := by rw [nodes_node, replayed.messages]
  enums n := by
    rw [replayed.enums n]
    simp
  frozen ref := by
    rw [replayed.frozen ref]
    simp

omit [DecidableEq A] in
theorem freeze (replayed : Replayed d frozen log s) (ref : Ref A) :
    Replayed d frozen (log ++ [.act (.freeze ref)]) (s.freeze ref) where
  messages := by rw [nodes_act, ← replayed.messages]; rfl
  enums n := by
    rw [← show s.enums = (s.freeze ref).enums from rfl, replayed.enums n]
    simp
  frozen other := by
    rw [Freezing.freeze, List.mem_append, replayed.frozen other]
    simp only [List.mem_append, List.mem_singleton, Step.act.injEq, Task.freeze.injEq,
      reduceCtorEq, or_false]
    constructor
    · rintro ((before | frozen | enum) | new)
      · exact .inl before
      · exact .inr (.inl (.inl frozen))
      · exact .inr (.inr enum)
      · exact .inr (.inl (.inr new))
    · rintro (before | (frozen | new) | enum)
      · exact .inl (.inl before)
      · exact .inl (.inr (.inl frozen))
      · exact .inr new
      · exact .inl (.inr (.inr enum))

theorem enum (replayed : Replayed d frozen log s) (n : A) :
    Replayed d frozen (log ++ [.act (.enum n)]) (Freezing.visitEnum d s n) := by
  have marked : ∀ n', .act (Task.enum n') ∈ log ++ [.act (.enum n)] ↔
      n' ∈ s.enums ∨ n' = n := by
    intro n'
    rw [List.mem_append, replayed.enums, List.mem_singleton, Step.act.injEq, Task.enum.injEq]
  have frozen_iff : ∀ ref, (.act (Task.freeze ref) ∈ log ++ [.act (.enum n)]) ↔
      .act (Task.freeze ref) ∈ log := by
    intro ref
    simp
  have before := replayed.frozen
  simp only [← replayed.enums] at before
  rw [visitEnum_eq]
  split
  · rename_i seen
    -- an enum that was visited is passed by, and was frozen
    have same : ∀ n', n' ∈ s.enums ∨ n' = n ↔ n' ∈ s.enums := by
      intro n'
      refine or_iff_left_of_imp ?_
      rintro rfl
      exact seen
    refine ⟨?_, ?_, ?_⟩
    · rw [nodes_act, replayed.messages]
    · intro n'
      rw [marked, same]
    · intro ref
      simp only [marked, same, frozen_iff]
      exact before ref
  · refine ⟨?_, ?_, ?_⟩
    · rw [nodes_act, replayed.messages]
    · intro n'
      rw [marked, List.mem_append, List.mem_singleton]
    · intro ref
      simp only [marked, frozen_iff, List.mem_append, before]
      constructor
      · rintro ((old | frozen | ⟨n', visited, inside⟩) | inside)
        · exact .inl old
        · exact .inr (.inl frozen)
        · exact .inr (.inr ⟨n', .inl visited, inside⟩)
        · exact .inr (.inr ⟨n, .inr rfl, inside⟩)
      · rintro (old | frozen | ⟨n', visited | rfl, inside⟩)
        · exact .inl (.inl old)
        · exact .inl (.inr (.inl frozen))
        · exact .inl (.inr (.inr ⟨n', visited, inside⟩))
        · exact .inr inside

end Replayed

theorem replayed (frozen : List (Ref A)) (log : List (Step A (Task A))) :
    Replayed d frozen log ((freezeWalk d).replay ⟨[], [], frozen⟩ log) := by
  induction log using List.reverseRecOn with
  | nil =>
      refine ⟨rfl, ?_, ?_⟩
      · intro n
        exact iff_of_false List.not_mem_nil List.not_mem_nil
      · intro ref
        simp [Walk.replay]
  | append_singleton log step ih =>
      rw [Walk.replay_append]
      cases step with
      | node m => exact ih.node m
      | act task =>
          cases task with
          | freeze ref => exact ih.freeze ref
          | enum n => exact ih.enum n

/-! ## What is frozen -/

omit [DecidableEq A] in
theorem mem_tasks {types : List (Desc A)} (type : Desc A) :
    type.task ∈ types.map Desc.task ↔ type ∈ types := by
  have injective : Function.Injective (Task.enum (A := A)) := fun _ _ => Task.enum.inj
  exact mem_map_step Desc.task (fun _ => rfl) (fun _ => rfl) injective type

/-- Frozen with a message: with its fields, and on the way out. -/
def messageRefs (message : A) : List (Ref A) :=
  (d.message message).fields.flatMap (fieldRefs d) ++ closingRefs d message

omit [DecidableEq A] in
theorem node_mem_body (m n : A) : .node n ∈ freezeBody d m ↔
    ∃ field ∈ (d.message m).fields, .message n ∈ referencedTypes (d.field field) := by
  have tasks : ∀ field, Step.node n ∈ (referencedTypes (d.field field)).map Desc.task ↔
      .message n ∈ referencedTypes (d.field field) := fun field =>
    mem_tasks (.message n)
  simp [freezeBody, freezing, tasks]

omit [DecidableEq A] in
theorem enum_mem_body (m n : A) : .act (.enum n) ∈ freezeBody d m ↔
    ∃ field ∈ (d.message m).fields, .enum n ∈ referencedTypes (d.field field) := by
  have tasks : ∀ field, Step.act (Task.enum n) ∈ (referencedTypes (d.field field)).map Desc.task ↔
      .enum n ∈ referencedTypes (d.field field) := fun field =>
    mem_tasks (.enum n)
  simp [freezeBody, freezing, tasks]

omit [DecidableEq A] in
theorem freeze_mem_body (m : A) (ref : Ref A) :
    .act (.freeze ref) ∈ freezeBody d m ↔ ref ∈ messageRefs d m := by
  have tasks : ∀ types : List (Desc A), Step.act (Task.freeze ref) ∉ types.map Desc.task := by
    intro types member
    obtain ⟨type, _, same⟩ := List.mem_map.1 member
    cases type <;> cases same
  simp [freezeBody, freezing, tasks, messageRefs]

omit [DecidableEq A] in
theorem freezeRoots_starts : StartsAtMethods d (freezeRoots d) := by
  intro m
  simp [freezeRoots]

omit [DecidableEq A] in
theorem enum_mem_roots (n : A) : .act (.enum n) ∉ freezeRoots d := by
  simp [freezeRoots]

omit [DecidableEq A] in
theorem freeze_mem_roots (ref : Ref A) :
    .act (.freeze ref) ∈ freezeRoots d ↔ ∃ method ∈ d.methods, ref = .method method := by
  simp [freezeRoots]

/-- A message is in the set when it was entered. -/
theorem freeze_recognises (frozen : List (Ref A)) :
    (freezeWalk d).Recognises ⟨[], [], frozen⟩ fun _ => True where
  closed _ _ _ _ := trivial
  seen log _ m _ := by
    rw [← mem_nodes, ← (replayed d frozen log).messages]
    exact decide_eq_true_iff

/-- What belongs to the service, its methods and the messages and enums that are reachable. -/
def Covered : Ref A → Prop
  | .service => True
  | .methods => True
  | .methodTable => True
  | .method a => a ∈ d.methods
  | .message a => d.Reachable (.message a)
  | .fields a => d.Reachable (.message a)
  | .fieldTable a => d.Reachable (.message a)
  | .oneofs a => d.Reachable (.message a)
  | .members a => d.Reachable (.message a)
  | .nestedMessages a => d.Reachable (.message a)
  | .nestedEnums a => d.Reachable (.message a)
  | .nestedExtensions a => d.Reachable (.message a)
  | .field a => d.ReachableField a
  | .proto a => ∃ field, d.ReachableField field ∧ (d.field field).proto = a
  | .oneof a => d.ReachableOneof a
  | .oneofFields a => d.ReachableOneof a
  | .enum a => d.Reachable (.enum a)
  | .values a => d.Reachable (.enum a)
  | .valueTable a => d.Reachable (.enum a)
  | .value a => ∃ enum, d.Reachable (.enum enum) ∧ a ∈ (d.enum enum).values

omit [DecidableEq A] in
/-- The reachable messages and enums account for everything but the service. -/
theorem covered_iff (ref : Ref A) : Covered d ref ↔
    (∃ method ∈ d.methods, ref = .method method) ∨
      (∃ m, d.Reachable (.message m) ∧ ref ∈ messageRefs d m) ∨
        (∃ n, d.Reachable (.enum n) ∧ ref ∈ enumRefs d n) ∨
          ref ∈ [Ref.methods, .methodTable, .service] := by
  cases ref with
  | proto p =>
      simp only [Covered, messageRefs, closingRefs, enumRefs, Descriptors.ReachableField]
      constructor
      · rintro ⟨field, ⟨m, reachable, member⟩, rfl⟩
        refine .inr (.inl ⟨m, reachable, List.mem_append_left _ ?_⟩)
        exact List.mem_flatMap.2 ⟨field, member, List.mem_cons_self⟩
      · intro listed
        simp only [fieldRefs, List.mem_cons, reduceCtorEq, List.not_mem_nil, or_self, and_false,
          exists_false, List.mem_append, List.mem_flatMap, Ref.proto.injEq, or_false, false_or,
          List.mem_map] at listed
        obtain ⟨m, reachable, field, member, same⟩ := listed
        exact ⟨field, ⟨m, reachable, member⟩, same.symm⟩
  | _ =>
      simp [Covered, messageRefs, fieldRefs, closingRefs, enumRefs, Descriptors.ReachableField,
        Descriptors.ReachableOneof]

/-- **The freeze is exact**: it ends, and what is frozen is what was frozen before and what is
covered. -/
theorem freeze_spec [Finite A] (frozen : List (Ref A)) :
    ∃ after, (∀ fuel, Nat.card A < fuel →
        freezeReachableDescriptors d fuel frozen = some after) ∧
      ∀ ref, ref ∈ after ↔ ref ∈ frozen ∨ Covered d ref := by
  obtain ⟨log, ran, ends⟩ := Walk.traverse_spec (freeze_recognises d frozen)
    (freezeRoots d) fun _ _ => trivial
  have reached := reached_iff (node_mem_body d) (freezeRoots_starts d)
  have tasks : ∀ task, .act task ∈ log ↔ .act task ∈ freezeRoots d ∨
      ∃ m, d.Reachable (.message m) ∧ .act task ∈ freezeBody d m := by
    intro task
    rw [ran.act_iff]
    exact or_congr_right (exists_congr fun m => and_congr_left' (reached m))
  have refs : ∀ ref, .act (.freeze ref) ∈ log ↔ (∃ method ∈ d.methods, ref = .method method) ∨
      ∃ m, d.Reachable (.message m) ∧ ref ∈ messageRefs d m := by
    intro ref
    rw [tasks, freeze_mem_roots]
    simp only [freeze_mem_body]
  have enums : ∀ n, .act (.enum n) ∈ log ↔ d.Reachable (.enum n) :=
    marked_iff Task.enum (node_mem_body d) (freezeRoots_starts d) (enum_mem_roots d)
      (enum_mem_body d) ran
  refine ⟨((freezeWalk d).replay ⟨[], [], frozen⟩ log).frozen ++ [.methods, .methodTable, .service],
    ?_, ?_⟩
  · intro fuel enough
    rw [freezeReachableDescriptors_eq, ends fuel enough, Option.map_some]
  · intro ref
    rw [List.mem_append, (replayed d frozen log).frozen ref, refs, covered_iff]
    simp only [enums, or_assoc]

end Traversal

end GrpcBridge.Contracts
