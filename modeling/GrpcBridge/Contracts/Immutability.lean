/-
# Contracts.Immutability -- an accepted projection does not change

After the freeze, a write to a frozen object is refused, and any other write may put
anything in the place of the properties that it writes (`attempt`).  Whatever is written in whatever
order, the objects that the projection reads are as they were (`Kept`), and so is the
projection (`projection_unchanged`).

`runtimeGraph_closure` puts the two traversals side by side: the projection contains, and the
freeze covers, one and the same closure.
-/
import GrpcBridge.Contracts.Freezing

namespace GrpcBridge.Contracts

set_option autoImplicit false

open GrpcBridge.Theory
open GrpcBridge.Theory.Serialization (Text literal)
open GrpcBridge.Theory.Sorting

/-- A write to the own properties of an object, or to the elements of an array. -/
inductive Write (A : Type) where
  | service (typeName : Text) (methods : List A)
  | methods (methods : List A)
  | method (method : A) (content : Method A)
  | message (message : A) (content : Message A)
  | fields (message : A) (fields : List A)
  | oneofs (message : A) (oneofs : List A)
  | field (field : A) (content : Field A)
  | proto (proto : A) (content : FieldProto)
  | oneof (oneof : A) (content : Oneof A)
  | oneofFields (oneof : A) (fields : List A)
  | enum (enum : A) (content : Enum A)
  | values (enum : A) (values : List A)
  | value (value : A) (content : EnumValue)

namespace Write

variable {A : Type}

/-- The object that is written to. -/
def target : Write A → Ref A
  | .service _ _ => .service
  | .methods _ => .methods
  | .method a _ => .method a
  | .message a _ => .message a
  | .fields a _ => .fields a
  | .oneofs a _ => .oneofs a
  | .field a _ => .field a
  | .proto a _ => .proto a
  | .oneof a _ => .oneof a
  | .oneofFields a _ => .oneofFields a
  | .enum a _ => .enum a
  | .values a _ => .values a
  | .value a _ => .value a

variable [DecidableEq A] (d : Descriptors A)

def perform : Write A → Descriptors A
  | .service typeName ms => { d with typeName, methods := ms }
  | .methods ms => { d with methods := ms }
  | .method a content => { d with method := Function.update d.method a content }
  | .message a content => { d with message := Function.update d.message a content }
  | .fields a fs =>
      { d with message := Function.update d.message a { d.message a with fields := fs } }
  | .oneofs a os =>
      { d with message := Function.update d.message a { d.message a with oneofs := os } }
  | .field a content => { d with field := Function.update d.field a content }
  | .proto a content => { d with proto := Function.update d.proto a content }
  | .oneof a content => { d with oneof := Function.update d.oneof a content }
  | .oneofFields a fs =>
      { d with oneof := Function.update d.oneof a { d.oneof a with fields := fs } }
  | .enum a content => { d with enum := Function.update d.enum a content }
  | .values a vs => { d with enum := Function.update d.enum a { d.enum a with values := vs } }
  | .value a content => { d with value := Function.update d.value a content }

/-- A frozen object is as it was; in strict mode there is a `TypeError`. -/
def attempt (frozen : List (Ref A)) (write : Write A) : Descriptors A :=
  if write.target ∈ frozen then d else write.perform d

/-- One write after the other. -/
def attempts (frozen : List (Ref A)) (writes : List (Write A)) : Descriptors A :=
  writes.foldl (fun d write => write.attempt d frozen) d

end Write

section Kept

variable {A : Type}

/-- What the projection reads is as it was. -/
structure Kept (d d' : Descriptors A) : Prop where
  typeName : d'.typeName = d.typeName
  methods : d'.methods = d.methods
  method : ∀ a ∈ d.methods, d'.method a = d.method a
  message : ∀ a, d.Reachable (.message a) → d'.message a = d.message a
  field : ∀ a, d.ReachableField a → d'.field a = d.field a
  proto : ∀ a, d.ReachableField a → d'.proto (d.field a).proto = d.proto (d.field a).proto
  oneof : ∀ a, d.ReachableOneof a → d'.oneof a = d.oneof a
  enum : ∀ a, d.Reachable (.enum a) → d'.enum a = d.enum a
  value : ∀ n, d.Reachable (.enum n) → ∀ a ∈ (d.enum n).values, d'.value a = d.value a

variable {d d' : Descriptors A}

theorem Kept.refl (d : Descriptors A) : Kept d d where
  typeName := rfl
  methods := rfl
  method _ _ := rfl
  message _ _ := rfl
  field _ _ := rfl
  proto _ _ := rfl
  oneof _ _ := rfl
  enum _ _ := rfl
  value _ _ _ _ := rfl

/-- A write elsewhere. -/
theorem update_kept [DecidableEq A] {α : Type} {P : A → Prop} {f g : A → α} {a : A}
    (kept : ∀ b, P b → f b = g b) (outside : ¬ P a) (x : α) :
    ∀ b, P b → Function.update f a x b = g b := by
  intro b inside
  have other : b ≠ a := by
    rintro rfl
    exact outside inside
  rw [Function.update_of_ne other, kept b inside]

theorem Kept.perform [DecidableEq A] (kept : Kept d d') {write : Write A}
    (outside : ¬ Covered d write.target) : Kept d (write.perform d') := by
  cases write with
  | service typeName methods => exact absurd trivial outside
  | methods methods => exact absurd trivial outside
  | method a content => exact { kept with method := update_kept kept.method outside content }
  | message a content => exact { kept with message := update_kept kept.message outside content }
  | fields a fields => exact { kept with message := update_kept kept.message outside _ }
  | oneofs a oneofs => exact { kept with message := update_kept kept.message outside _ }
  | field a content => exact { kept with field := update_kept kept.field outside content }
  | proto a content =>
      have elsewhere : ∀ field, d.ReachableField field → (d.field field).proto ≠ a := by
        rintro field reachable rfl
        exact outside ⟨field, reachable, rfl⟩
      refine { kept with proto := fun field reachable => ?_ }
      exact (Function.update_of_ne (elsewhere field reachable) _ _).trans
        (kept.proto field reachable)
  | oneof a content => exact { kept with oneof := update_kept kept.oneof outside content }
  | oneofFields a fields => exact { kept with oneof := update_kept kept.oneof outside _ }
  | enum a content => exact { kept with enum := update_kept kept.enum outside content }
  | values a values => exact { kept with enum := update_kept kept.enum outside _ }
  | value a content =>
      refine { kept with value := fun n reachable => ?_ }
      have elsewhere : a ∉ (d.enum n).values := fun member => outside ⟨n, reachable, member⟩
      exact update_kept (kept.value n reachable) elsewhere content

theorem Kept.attempt [DecidableEq A] {frozen : List (Ref A)}
    (covers : ∀ ref, Covered d ref → ref ∈ frozen) (kept : Kept d d') (write : Write A) :
    Kept d (write.attempt d' frozen) := by
  unfold Write.attempt
  split
  · exact kept
  · rename_i thawed
    exact kept.perform fun covered => thawed (covers _ covered)

/-- No sequence of writes changes what is read, when all of it is frozen. -/
theorem Kept.attempts [DecidableEq A] {frozen : List (Ref A)}
    (covers : ∀ ref, Covered d ref → ref ∈ frozen) (kept : Kept d d') (writes : List (Write A)) :
    Kept d (Write.attempts d' frozen writes) := by
  induction writes generalizing d' with
  | nil => exact kept
  | cons write writes ih => exact ih (kept.attempt covers write)

/-! ## The projection of what was kept -/

theorem Element.relocate_id (element : Element A) : element.relocate id = element := by
  cases element <;> rfl

theorem MapValue.relocate_id (value : MapValue A) : value.relocate id = value := by
  cases value <;> rfl

theorem Field.relocate_id (field : Field A) : field.relocate id = field := by
  obtain ⟨number, name, localName, jsonName, utf8Validation, presence, oneof, proto, type⟩ := field
  have types : type.relocate id = type := by
    cases type with
    | list element packed => rw [FieldType.relocate, element.relocate_id]
    | map key value => rw [FieldType.relocate, value.relocate_id]
    | _ => rfl
  simp only [Field.relocate, types, Option.map_id, id]

/-- Sorting again what was kept. -/
theorem sort_kept {κ : Type} {c : Comparator κ} {key key' : A → κ} {xs : List A}
    (kept : ∀ a ∈ xs, key' a = key a) : c.sort key' xs = c.sort key xs := by
  have same := Comparator.sort_map (c := c) (f := id) kept
  rwa [List.map_id, List.map_id] at same

theorem Kept.values (kept : Kept d d') {n : A} (reachable : d.Reachable (.enum n)) :
    d'.values n = d.values n := by
  unfold Descriptors.values
  rw [kept.enum n reachable]
  exact List.map_congr_left (kept.value n reachable)

theorem Kept.oneofGraph (kept : Kept d d') (linked : d.Linked) {m o : A}
    (reachable : d.Reachable (.message m)) (member : o ∈ (d.message m).oneofs) :
    oneofGraph d' o = Contracts.oneofGraph d o := by
  have numbers : ((d.oneof o).fields.map fun field => (d'.field field).number) =
      (d.oneof o).fields.map fun field => (d.field field).number := by
    apply List.map_congr_left
    intro field inside
    rw [kept.field field ⟨m, reachable, linked.fields m reachable o member field inside⟩]
  unfold Contracts.oneofGraph
  rw [kept.oneof o ⟨m, reachable, member⟩, numbers]

theorem Kept.relocated (kept : Kept d d') (linked : d.Linked) (runtime : Runtime) :
    Relocated runtime id d d' where
  typeName := kept.typeName
  methods := by
    rw [List.map_id, sortedMethods, kept.methods]
    exact sort_kept fun method member => by rw [kept.method method member]
  method method member := kept.method method member
  messageName m reachable := by rw [id, kept.message m reachable]
  fields m reachable := by
    rw [List.map_id, sortedFields, id, kept.message m reachable]
    exact sort_kept fun field member => by rw [kept.field field ⟨m, reachable, member⟩]
  field field reachable := (kept.field field reachable).trans (Field.relocate_id _).symm
  proto := kept.proto
  containing := by
    rintro field ⟨m, reachable, member⟩ oneof within
    have inside := linked.oneof m reachable field member oneof within
    rw [id, kept.oneof oneof ⟨m, reachable, inside⟩]
  oneofs m reachable := by
    have same : sortedOneofs d' m = sortedOneofs d m := by
      rw [sortedOneofs, kept.message m reachable]
      exact sort_kept fun oneof member => by rw [kept.oneof oneof ⟨m, reachable, member⟩]
    rw [id, same]
    exact List.map_congr_left fun oneof member =>
      kept.oneofGraph linked reachable (Comparator.mem_sort.1 member)
  enumName n reachable := by rw [id, kept.enum n reachable]
  enumOpen n reachable := by rw [id, kept.enum n reachable]
  default n reachable proto := by rw [id, kept.values reachable]

/-- **No write changes an accepted projection.** -/
theorem projection_unchanged [DecidableEq A] [Finite A] (runtime : Runtime) (one : d.OnePerName)
    (linked : d.Linked) {frozen : List (Ref A)} (covers : ∀ ref, Covered d ref → ref ∈ frozen)
    (writes : List (Write A)) {fuel : Nat} (enough : Nat.card A < fuel) :
    runtimeGraph runtime (Write.attempts d frozen writes) fuel = runtimeGraph runtime d fuel := by
  have kept := (Kept.refl d).attempts covers writes
  exact runtimeGraph_same one (kept.relocated linked runtime)
    (fun n reachable => kept.values reachable) enough enough

end Kept

/-! ## The two traversals -/

/-- **The runtime graph is exactly the reachable closure, and so is the freeze.**
`runtimeGraph` ends; it throws when the projection of a reachable field does, and otherwise its
messages and enums are the reachable ones, each once, by ascending type names.
`freezeReachableDescriptors` ends and freezes what belongs to them, and from then on no
sequence of writes changes what `runtimeGraph` makes of the service. -/
theorem runtimeGraph_closure {A : Type} [DecidableEq A] [Finite A] (runtime : Runtime)
    (d : Descriptors A) (one : d.OnePerName) (frozen : List (Ref A)) :
    (∃ outcome, (∀ fuel, Nat.card A < fuel → runtimeGraph runtime d fuel = some outcome) ∧
      ((∃ graph, outcome = .ok graph) ↔
        ∀ field, d.ReachableField field → Supported runtime d field) ∧
      ∀ graph, outcome = .ok graph → Exact runtime d graph) ∧
    ∃ after, (∀ fuel, Nat.card A < fuel →
        freezeReachableDescriptors d fuel frozen = some after) ∧
      (∀ ref, ref ∈ after ↔ ref ∈ frozen ∨ Covered d ref) ∧
      (d.Linked → ∀ (writes : List (Write A)) (fuel : Nat), Nat.card A < fuel →
        runtimeGraph runtime (Write.attempts d after writes) fuel =
          runtimeGraph runtime d fuel) := by
  obtain ⟨after, ends, exact_⟩ := freeze_spec d frozen
  refine ⟨runtimeGraph_spec one, after, ends, exact_, ?_⟩
  intro linked writes fuel enough
  have covers : ∀ ref, Covered d ref → ref ∈ after := fun ref covered =>
    (exact_ ref).2 (.inr covered)
  exact projection_unchanged runtime one linked covers writes enough

/-- Default values that are never declared. -/
def noDefaults : Runtime where
  scalarDefault _ _ := .ok none
  enumDefault _ _ := .ok none

/-- A tree: a node has a list of nodes and a colour. -/
def treeService : Descriptors (Fin 3) where
  typeName := literal "TreeService"
  methods := [Fin.last 2]
  method _ := ⟨literal "Grow", literal "grow", .unary, Fin.last 2, Fin.last 2, 0⟩
  message _ := ⟨literal "Node", [⟨0, by decide⟩, ⟨1, by decide⟩], []⟩
  field a := ⟨a.val + 1, literal "f", literal "f", literal "f", false, 2, none, a,
    if a.val = 0 then .list (.message (Fin.last 2) false) false else .enum (Fin.last 2)⟩
  proto _ := ⟨none⟩
  oneof _ := ⟨[], [], []⟩
  enum _ := ⟨literal "Colour", true, [Fin.last 2]⟩
  value _ := ⟨literal "RED", literal "RED", 0⟩

/-- What is reachable in a tree, whatever its enum is. -/
theorem tree_reachable {d : Descriptors (Fin 3)} (methods : d.method = treeService.method)
    (fields : d.field = treeService.field) {type : Desc (Fin 3)} (reachable : d.Reachable type) :
    type = .message (Fin.last 2) ∨ type = .enum (Fin.last 2) := by
  have references : ∀ field, referencedTypes (treeService.field field) =
      if field.val = 0 then [Desc.message (Fin.last 2)] else [.enum (Fin.last 2)] := by decide
  cases reachable with
  | input _ =>
      rw [methods]
      exact .inl rfl
  | output _ =>
      rw [methods]
      exact .inl rfl
  | reference _ _ referenced =>
      rw [fields, references] at referenced
      split at referenced
      · exact .inl (List.mem_singleton.1 referenced)
      · exact .inr (List.mem_singleton.1 referenced)

theorem tree_one {d : Descriptors (Fin 3)} (methods : d.method = treeService.method)
    (fields : d.field = treeService.field) : d.OnePerName where
  message m n reachable reachable' _ := by
    obtain first | first := tree_reachable methods fields reachable
    · obtain second | second := tree_reachable methods fields reachable'
      · rw [Desc.message.inj first, Desc.message.inj second]
      · cases second
    · cases first
  enum m n reachable reachable' _ := by
    obtain first | first := tree_reachable methods fields reachable
    · cases first
    · obtain second | second := tree_reachable methods fields reachable'
      · cases second
      · rw [Desc.enum.inj first, Desc.enum.inj second]

theorem treeService_linked : treeService.Linked where
  oneof message _ field _ oneof within := by cases within
  fields message _ oneof member := absurd member List.not_mem_nil

def treeNode : RuntimeMessage :=
  ⟨literal "Node",
    [⟨1, literal "f", literal "f", literal "f", false, literal "IMPLICIT", none, none,
        .list (.message (literal "Node") false) false⟩,
      ⟨2, literal "f", literal "f", literal "f", false, literal "IMPLICIT", none, none,
        .single (.enum (literal "Colour"))⟩], []⟩

def treeColour : RuntimeEnum :=
  ⟨literal "Colour", true, literal "RED", 0, [(0, [⟨literal "RED", literal "RED"⟩])]⟩

def treeGraph : RuntimeGraph where
  typeName := literal "TreeService"
  methods := [⟨literal "Grow", literal "grow", .unary, literal "Node", literal "Node", 0⟩]
  messages := [treeNode]
  enums := [treeColour]

theorem treeService_graph : runtimeGraph noDefaults treeService 4 = some (.ok treeGraph) := by
  have methods : sortedMethods treeService = [Fin.last 2] :=
    Comparator.sort_of_sorted (List.pairwise_singleton _ _)
  have fields : sortedFields treeService (Fin.last 2) = [⟨0, by decide⟩, ⟨1, by decide⟩] :=
    Comparator.sort_of_sorted (by decide)
  have oneofs : sortedOneofs treeService (Fin.last 2) = [] :=
    Comparator.sort_of_sorted List.Pairwise.nil
  have message : messageGraph noDefaults treeService (Fin.last 2) = .ok treeNode := by
    rw [messageGraph, fields, oneofs]
    rfl
  have values : byNumber.sort Prod.fst (grouped (treeService.values (Fin.last 2))).entries =
      treeColour.values := Comparator.sort_of_sorted (List.pairwise_singleton _ _)
  have colour : [Fin.last 2].map (enumGraph treeService) = [treeColour] := by
    rw [List.map_singleton, enumGraph, values]
    rfl
  obtain ⟨found, discovered, messages, enums⟩ : ∃ found, discover treeService 4 = some found ∧
      sortedMessages treeService found = [Fin.last 2] ∧
      sortedEnums treeService found = [Fin.last 2] :=
    ⟨_, rfl, Comparator.sort_of_sorted (List.pairwise_singleton _ _),
      Comparator.sort_of_sorted (List.pairwise_singleton _ _)⟩
  rw [runtimeGraph, discovered, Option.map_some, assemble, methods, messages, enums,
    List.mapM_cons, message, colour]
  rfl

/-- Nodes lead to nodes, and the graph has one message and one enum. -/
theorem runtimeGraph_closure_treeService :
    (∀ fuel, 3 < fuel → runtimeGraph noDefaults treeService fuel = some (.ok treeGraph)) ∧
      ∃ after, (∀ fuel, 3 < fuel →
          freezeReachableDescriptors treeService fuel [] = some after) ∧
        ∀ (writes : List (Write (Fin 3))) (fuel : Nat), 3 < fuel →
          runtimeGraph noDefaults (Write.attempts treeService after writes) fuel =
            some (.ok treeGraph) := by
  obtain ⟨⟨outcome, ends, _, _⟩, after, frozen, _, unchanged⟩ :=
    runtimeGraph_closure noDefaults treeService (tree_one rfl rfl) []
  rw [Nat.card_fin] at ends frozen unchanged
  have result := treeService_graph
  have same : outcome = .ok treeGraph := by
    rw [ends 4 (by decide)] at result
    exact Option.some.inj result
  subst same
  refine ⟨ends, after, frozen, ?_⟩
  intro writes fuel enough
  rw [unchanged treeService_linked writes fuel enough, ends fuel enough]

end GrpcBridge.Contracts
