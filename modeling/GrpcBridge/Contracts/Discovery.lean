/-
# Contracts.Discovery -- what the projection of a service contains

`discover` is a depth-first traversal that marks a message by its type name.  With one
descriptor object for each name that is as good as marking the object (`recognises`), so
the traversal ends, also on descriptors that lead back to themselves, and finds the messages
and enums that are reachable (`discover_spec`).

The graph of what was found has each of them once, in ascending order of type names, or the
projection of a field of one of them has thrown (`runtimeGraph_spec`).
-/
import GrpcBridge.Contracts.RuntimeGraph

namespace GrpcBridge.Contracts

set_option autoImplicit false

open GrpcBridge.Theory
open GrpcBridge.Theory.Fallible
open GrpcBridge.Theory.Serialization (Text)
open GrpcBridge.Theory.Sorting
open GrpcBridge.Theory.Traversal

section Discovery

variable {A α : Type} {d : Descriptors A}

/-! ## Traversals of the messages -/

/-- The traversal goes where the fields lead. -/
def FollowsFields (d : Descriptors A) (body : A → List (Step A α)) : Prop :=
  ∀ m n, .node n ∈ body m ↔
    ∃ field ∈ (d.message m).fields, .message n ∈ referencedTypes (d.field field)

/-- The traversal begins with the messages of the methods. -/
def StartsAtMethods (d : Descriptors A) (steps : List (Step A α)) : Prop :=
  ∀ m, .node m ∈ steps ↔
    ∃ method ∈ d.methods, m = (d.method method).input ∨ m = (d.method method).output

theorem reached_iff {body : A → List (Step A α)} {steps : List (Step A α)}
    (follows : FollowsFields d body) (starts : StartsAtMethods d steps) (m : A) :
    Reached body steps m ↔ d.Reachable (.message m) := by
  constructor
  · rintro ⟨root, asked, path⟩
    induction path with
    | refl =>
        obtain ⟨method, member, rfl | rfl⟩ := (starts root).1 asked
        · exact .input member
        · exact .output member
    | tail _ child ih =>
        obtain ⟨field, member, referenced⟩ := (follows _ _).1 child
        exact .reference ih member referenced
  · intro reachable
    have all : ∀ type, d.Reachable type → ∀ m, type = .message m → Reached body steps m := by
      intro type reachable
      induction reachable with
      | input member =>
          rintro m ⟨⟩
          exact ⟨_, (starts _).2 ⟨_, member, .inl rfl⟩, .refl⟩
      | output member =>
          rintro m ⟨⟩
          exact ⟨_, (starts _).2 ⟨_, member, .inr rfl⟩, .refl⟩
      | reference _ member referenced ih =>
          rintro m rfl
          obtain ⟨root, asked, path⟩ := ih _ rfl
          exact ⟨root, asked, path.tail ((follows _ _).2 ⟨_, member, referenced⟩)⟩
    exact all _ reachable m rfl

/-- An enum is reached from a field of a reachable message. -/
theorem reachable_enum_iff (enum : A) : d.Reachable (.enum enum) ↔
    ∃ field, d.ReachableField field ∧ .enum enum ∈ referencedTypes (d.field field) := by
  constructor
  · intro reachable
    cases reachable with
    | reference reached member referenced => exact ⟨_, ⟨_, reached, member⟩, referenced⟩
  · rintro ⟨field, ⟨message, reached, member⟩, referenced⟩
    exact .reference reached member referenced

/-- A traversal that marks the enums of fields has marked the reachable ones. -/
theorem marked_iff {body : A → List (Step A α)} {steps log : List (Step A α)} (mark : A → α)
    (follows : FollowsFields d body) (starts : StartsAtMethods d steps)
    (outside : ∀ n, .act (mark n) ∉ steps)
    (marks : ∀ m n, .act (mark n) ∈ body m ↔
      ∃ field ∈ (d.message m).fields, .enum n ∈ referencedTypes (d.field field))
    (ran : Ran body [] steps log) (n : A) : .act (mark n) ∈ log ↔ d.Reachable (.enum n) := by
  rw [ran.act_iff, or_iff_right (outside n), reachable_enum_iff]
  constructor
  · rintro ⟨m, reached, member⟩
    obtain ⟨field, inside, referenced⟩ := (marks m n).1 member
    have reachable := (reached_iff follows starts m).1 reached
    exact ⟨field, ⟨m, reachable, inside⟩, referenced⟩
  · rintro ⟨field, ⟨m, reachable, inside⟩, referenced⟩
    have reached := (reached_iff follows starts m).2 reachable
    exact ⟨m, reached, (marks m n).2 ⟨field, inside, referenced⟩⟩

/-- The steps to what a field references say what that is. -/
theorem mem_map_step (step : Desc A → Step A α) {mark : A → α}
    (node : ∀ m, step (.message m) = .node m) (act : ∀ n, step (.enum n) = .act (mark n))
    (injective : Function.Injective mark) {types : List (Desc A)} (type : Desc A) :
    step type ∈ types.map step ↔ type ∈ types := by
  apply List.mem_map_of_injective
  intro first second same
  cases first with
  | message m =>
      cases second with
      | message n =>
          rw [node, node] at same
          exact congrArg Desc.message (Step.node.inj same)
      | enum n =>
          rw [node, act] at same
          cases same
  | enum m =>
      cases second with
      | message n =>
          rw [node, act] at same
          cases same
      | enum n =>
          rw [act, act] at same
          exact congrArg Desc.enum (injective (Step.act.inj same))

/-! ## The traversal of the projection -/

def Desc.step : Desc A → Step A A
  | .message m => .node m
  | .enum e => .act e

theorem mem_steps {types : List (Desc A)} (type : Desc A) :
    type.step ∈ types.map Desc.step ↔ type ∈ types :=
  mem_map_step Desc.step (fun _ => rfl) (fun _ => rfl) Function.injective_id type

variable (d)

def graphWalk : Walk A A (Found A) where
  body message := (d.message message).fields.flatMap fun field =>
    (referencedTypes (d.field field)).map Desc.step
  seen found message := found.messages.has (d.message message).typeName
  take found
    | .node message =>
        { found with messages := found.messages.set (d.message message).typeName message }
    | .act enum => { found with enums := found.enums.set (d.enum enum).typeName enum }

def graphRoots : List (Step A A) :=
  d.methods.flatMap fun method =>
    [.node (d.method method).input, .node (d.method method).output]

theorem graphWalk_follows : FollowsFields d (graphWalk d).body := by
  intro m n
  rw [graphWalk, List.mem_flatMap]
  exact exists_congr fun field => and_congr_right fun _ => mem_steps (.message n)

theorem graphRoots_starts : StartsAtMethods d (graphRoots d) := by
  intro m
  simp only [graphRoots, List.mem_flatMap, List.mem_cons, List.not_mem_nil, or_false,
    Step.node.injEq]

/-- The loops over the fields and over the types that they reference. -/
theorem visitMessage_eq (fuel : Nat) : visitMessage d fuel = (graphWalk d).visit fuel := by
  induction fuel with
  | zero => rfl
  | succ fuel ih =>
      funext found message
      rw [visitMessage, Walk.visit]
      refine if_congr Iff.rfl rfl ?_
      have body : (graphWalk d).body message = (d.message message).fields.flatMap fun field =>
          (referencedTypes (d.field field)).map Desc.step := rfl
      rw [body, Walk.foldlM_flatMap]
      dsimp only
      congr 1
      funext found field
      rw [List.foldlM_map]
      congr 1
      funext found type
      cases type with
      | message m =>
          rw [ih]
          rfl
      | enum e => rfl

theorem discover_eq (fuel : Nat) :
    discover d fuel = (graphWalk d).traverse fuel ⟨.empty, .empty⟩ (graphRoots d) := by
  rw [discover, Walk.traverse, graphRoots, Walk.foldlM_flatMap, visitMessage_eq]
  congr 1
  funext found method
  simp only [List.foldlM_cons, List.foldlM_nil, bind_pure]
  rfl

/-- The maps after a log: the messages that were entered, and the enums, each by name. -/
theorem replay_found (log : List (Step A A)) : (graphWalk d).replay ⟨.empty, .empty⟩ log =
    ⟨.index (fun message => (d.message message).typeName) (nodes log),
      .index (fun enum => (d.enum enum).typeName) (acts log)⟩ := by
  induction log using List.reverseRecOn with
  | nil => rfl
  | append_singleton log step ih =>
      rw [Walk.replay_append, ih]
      cases step with
      | node message =>
          rw [nodes_node, acts_node, InsertionMap.index_append]
          rfl
      | act enum =>
          rw [nodes_act, acts_act, InsertionMap.index_append]
          rfl

/-- Marking the name of a message is as good as marking the message. -/
theorem recognises {d : Descriptors A} (one : d.OnePerName) :
    (graphWalk d).Recognises ⟨.empty, .empty⟩ fun m => d.Reachable (.message m) where
  closed m n reachable child := by
    obtain ⟨field, member, referenced⟩ := (graphWalk_follows d m n).1 child
    exact .reference reachable member referenced
  seen log inside n reachable := by
    rw [replay_found]
    refine InsertionMap.has_iff.trans ?_
    constructor
    · rintro ⟨m, member⟩
      obtain ⟨entered, same⟩ := InsertionMap.mem_index member
      have reached := inside m (mem_nodes.1 entered)
      obtain rfl := one.message m n reached reachable same
      exact mem_nodes.1 entered
    · intro entered
      exact InsertionMap.key_index (mem_nodes.2 entered)

/-- What is found is what is reachable, each under a name of its own. -/
structure Discovered (found : Found A) : Prop where
  messages : ∀ m, m ∈ found.messages.values ↔ d.Reachable (.message m)
  messageNames : (found.messages.values.map fun m => (d.message m).typeName).Nodup
  enums : ∀ e, e ∈ found.enums.values ↔ d.Reachable (.enum e)
  enumNames : (found.enums.values.map fun e => (d.enum e).typeName).Nodup

variable {d}

/-- The log of the traversal has the reachable enums as what was done. -/
theorem act_mem_iff {log : List (Step A A)} (ran : Ran (graphWalk d).body [] (graphRoots d) log)
    (enum : A) : .act enum ∈ log ↔ d.Reachable (.enum enum) := by
  refine marked_iff id (graphWalk_follows d) (graphRoots_starts d) ?_ ?_ ran enum
  · intro n
    simp [graphRoots]
  · intro m n
    rw [graphWalk, List.mem_flatMap]
    exact exists_congr fun field => and_congr_right fun _ => mem_steps (.enum n)

/-- **The traversal ends and finds the reachable messages and enums.** -/
theorem discover_spec [Finite A] (one : d.OnePerName) :
    ∃ found, (∀ fuel, Nat.card A < fuel → discover d fuel = some found) ∧ Discovered d found := by
  obtain ⟨log, ran, ends⟩ := Walk.traverse_spec (recognises one) (graphRoots d) (by
    intro m asked
    obtain ⟨method, member, rfl | rfl⟩ := (graphRoots_starts d m).1 asked
    · exact .input member
    · exact .output member)
  have entered : ∀ m, m ∈ nodes log ↔ d.Reachable (.message m) := by
    intro m
    rw [mem_nodes, ran.node_iff, reached_iff (graphWalk_follows d) (graphRoots_starts d)]
  have acted : ∀ e, e ∈ acts log ↔ d.Reachable (.enum e) := by
    intro e
    rw [mem_acts, act_mem_iff ran]
  refine ⟨_, fun fuel enough => (discover_eq d fuel).trans (ends fuel enough), ?_⟩
  rw [replay_found]
  exact {
    messages := fun m => (InsertionMap.mem_values_index fun x member y member' same =>
      one.message x y ((entered x).1 member) ((entered y).1 member') same).trans (entered m)
    messageNames := InsertionMap.names_index
    enums := fun e => (InsertionMap.mem_values_index fun x member y member' same =>
      one.enum x y ((acted x).1 member) ((acted y).1 member') same).trans (acted e)
    enumNames := InsertionMap.names_index }

end Discovery

section Projection

variable {A : Type} (runtime : Runtime) (d : Descriptors A)

/-! ## What is projected -/

/-- A member of the enum `ScalarType`. -/
def ScalarType.Named (scalar : ScalarType) : Prop := ∀ n, scalar ≠ .other n

/-- The scalar types that the shape of a field names. -/
def FieldType.scalars : FieldType A → List ScalarType
  | .scalar s _ => [s]
  | .list (.scalar s _) _ => [s]
  | .map key (.scalar s) => [key, s]
  | .map key _ => [key]
  | _ => []

/-- A field as Protobuf-ES makes it. -/
structure Supported (field : A) : Prop where
  scalars : ∀ scalar ∈ (d.field field).type.scalars, scalar.Named
  presence : (d.field field).presence < 4
  defaultValue : ∃ value, fieldDefault runtime d (d.field field) = .ok value

/-- The graph has the reachable messages and enums, each once, by ascending type names. -/
structure Exact (graph : RuntimeGraph) : Prop where
  messages : ∃ ms : List A, (∀ m, m ∈ ms ↔ d.Reachable (.message m)) ∧ ms.Nodup ∧
    List.Forall₂ (fun m message => messageGraph runtime d m = .ok message) ms graph.messages
  messageOrder : (graph.messages.map RuntimeMessage.typeName).Pairwise (· < ·)
  enums : ∃ es : List A, (∀ e, e ∈ es ↔ d.Reachable (.enum e)) ∧ es.Nodup ∧
    graph.enums = es.map (enumGraph d)
  enumOrder : (graph.enums.map RuntimeEnum.typeName).Pairwise (· < ·)

variable {runtime d}

theorem scalarName_ok_iff {scalar : ScalarType} :
    (∃ name, scalarName scalar = .ok name) ↔ scalar.Named := by
  cases scalar with
  | other n =>
      refine iff_of_false ?_ fun named => named n rfl
      rintro ⟨_, ⟨⟩⟩
  | _ =>
      refine iff_of_true ⟨_, rfl⟩ ?_
      rintro n ⟨⟩

theorem scalarShape_ok_iff {scalar : ScalarType} {longAsString : Bool} :
    (∃ shape, scalarShape scalar longAsString = .ok shape) ↔ scalar.Named :=
  succeeds_map.trans scalarName_ok_iff

theorem fieldShape_ok_iff (type : FieldType A) :
    (∃ shape, fieldShape d type = .ok shape) ↔ ∀ scalar ∈ type.scalars, scalar.Named := by
  cases type with
  | scalar s longAsString =>
      exact succeeds_map.trans (scalarShape_ok_iff.trans List.forall_mem_singleton.symm)
  | message m delimitedEncoding =>
      exact iff_of_true ⟨_, rfl⟩ fun _ member => absurd member List.not_mem_nil
  | enum e => exact iff_of_true ⟨_, rfl⟩ fun _ member => absurd member List.not_mem_nil
  | list element packed =>
      refine succeeds_map.trans ?_
      cases element with
      | scalar s longAsString =>
          exact scalarShape_ok_iff.trans List.forall_mem_singleton.symm
      | message m delimitedEncoding =>
          exact iff_of_true ⟨_, rfl⟩ fun _ member => absurd member List.not_mem_nil
      | enum e => exact iff_of_true ⟨_, rfl⟩ fun _ member => absurd member List.not_mem_nil
  | map key value =>
      have shape : (∃ shape, mapValueShape d value = .ok shape) ↔
          ∀ scalar ∈ (FieldType.map key value).scalars.tail, scalar.Named := by
        cases value with
        | scalar s => exact scalarShape_ok_iff.trans List.forall_mem_singleton.symm
        | message m => exact iff_of_true ⟨_, rfl⟩ fun _ member => absurd member List.not_mem_nil
        | enum e => exact iff_of_true ⟨_, rfl⟩ fun _ member => absurd member List.not_mem_nil
      have split : (FieldType.map key value).scalars =
          key :: (FieldType.map key value).scalars.tail := by
        cases value <;> rfl
      rw [split, List.forall_mem_cons, ← shape, ← scalarName_ok_iff]
      refine succeeds_bind.trans ?_
      constructor
      · rintro ⟨name, named, rest⟩
        exact ⟨⟨name, named⟩, succeeds_map.1 rest⟩
      · rintro ⟨⟨name, named⟩, rest⟩
        exact ⟨name, named, succeeds_map.2 rest⟩

theorem presenceName_ok_iff (n : Nat) : (∃ name, presenceName n = .ok name) ↔ n < 4 := by
  match n with
  | 0 | 1 | 2 | 3 => exact iff_of_true ⟨_, rfl⟩ (by decide)
  | n + 4 =>
      refine iff_of_false ?_ (by omega)
      rintro ⟨_, ⟨⟩⟩

/-- The projection of a field throws for no other reason. -/
theorem fieldGraph_ok_iff (field : A) :
    (∃ projected, fieldGraph runtime d field = .ok projected) ↔ Supported runtime d field := by
  have shape := fieldShape_ok_iff (d := d) (d.field field).type
  have presence := presenceName_ok_iff (d.field field).presence
  constructor
  · intro succeeds
    obtain ⟨first, shaped, rest⟩ := succeeds_bind.1 succeeds
    obtain ⟨second, named, rest⟩ := succeeds_bind.1 rest
    obtain ⟨third, default, rest⟩ := succeeds_bind.1 rest
    exact ⟨shape.1 ⟨first, shaped⟩, presence.1 ⟨second, named⟩, third, default⟩
  · rintro ⟨scalars, small, default⟩
    obtain ⟨first, shaped⟩ := shape.2 scalars
    obtain ⟨second, named⟩ := presence.2 small
    obtain ⟨third, default⟩ := default
    refine succeeds_bind.2 ⟨first, shaped, succeeds_bind.2 ⟨second, named, ?_⟩⟩
    exact succeeds_bind.2 ⟨third, default, _, rfl⟩

theorem messageGraph_ok_iff (message : A) :
    (∃ projected, messageGraph runtime d message = .ok projected) ↔
      ∀ field ∈ (d.message message).fields, Supported runtime d field := by
  have fields : (∃ projected, messageGraph runtime d message = .ok projected) ↔
      ∃ fields, (sortedFields d message).mapM (fieldGraph runtime d) = .ok fields := succeeds_map
  rw [fields, mapM_ok_iff]
  exact forall_congr' fun field =>
    imp_congr Comparator.mem_sort (fieldGraph_ok_iff field)

theorem messageGraph_typeName {message : A} {projected : RuntimeMessage}
    (ok : messageGraph runtime d message = .ok projected) :
    projected.typeName = (d.message message).typeName := by
  obtain ⟨_, _, same⟩ := bind_eq_ok.1 ok
  cases same
  rfl

theorem messageGraphs_typeNames {ms : List A} {messages : List RuntimeMessage}
    (each : List.Forall₂ (fun m message => messageGraph runtime d m = .ok message) ms messages) :
    messages.map RuntimeMessage.typeName = ms.map fun m => (d.message m).typeName := by
  induction each with
  | nil => rfl
  | cons first _ ih => rw [List.map_cons, List.map_cons, ih, messageGraph_typeName first]

theorem mem_sortedMessages {found : Found A} (discovered : Discovered d found) (m : A) :
    m ∈ sortedMessages d found ↔ d.Reachable (.message m) :=
  Comparator.mem_sort.trans (discovered.messages m)

theorem mem_sortedEnums {found : Found A} (discovered : Discovered d found) (e : A) :
    e ∈ sortedEnums d found ↔ d.Reachable (.enum e) :=
  Comparator.mem_sort.trans (discovered.enums e)

theorem lt_of_compare {a b : Text} (after : ¬ byText.compare b a ≤ 0) : a < b := by
  by_contra notBefore
  exact after ((compare_le b a).2 (List.not_lt.1 notBefore))

/-- The order of what was sorted by a name. -/
theorem names_ascend {α : Type} (name : α → Text) {xs : List α} (distinct : (xs.map name).Nodup) :
    ((byText.sort name xs).map name).Pairwise (· < ·) :=
  List.pairwise_map.2 ((Comparator.sort_strict distinct).imp lt_of_compare)

theorem assemble_ok_iff {found : Found A} (discovered : Discovered d found) :
    (∃ graph, assemble runtime d found = .ok graph) ↔
      ∀ field, d.ReachableField field → Supported runtime d field := by
  have messages : (∃ graph, assemble runtime d found = .ok graph) ↔
      ∃ messages, (sortedMessages d found).mapM (messageGraph runtime d) = .ok messages :=
    succeeds_map
  rw [messages, mapM_ok_iff]
  constructor
  · rintro all field ⟨message, reachable, member⟩
    have ok := all message ((mem_sortedMessages discovered message).2 reachable)
    exact (messageGraph_ok_iff message).1 ok field member
  · intro all message member
    have reachable := (mem_sortedMessages discovered message).1 member
    exact (messageGraph_ok_iff message).2 fun field inside => all field ⟨message, reachable, inside⟩

/-- The graph is the reachable closure. -/
theorem assemble_exact {found : Found A} (discovered : Discovered d found) {graph : RuntimeGraph}
    (ok : assemble runtime d found = .ok graph) : Exact runtime d graph := by
  obtain ⟨messages, projected, same⟩ := bind_eq_ok.1 ok
  cases same
  have each := mapM_eq_ok.1 projected
  have names := messageGraphs_typeNames each
  have enumNames : ((sortedEnums d found).map (enumGraph d)).map RuntimeEnum.typeName =
      (sortedEnums d found).map fun e => (d.enum e).typeName := by
    rw [List.map_map]
    rfl
  exact {
    messages := ⟨_, mem_sortedMessages discovered,
      (Comparator.sort_perm _).nodup_iff.2 discovered.messageNames.of_map, each⟩
    messageOrder := names ▸ names_ascend _ discovered.messageNames
    enums := ⟨_, mem_sortedEnums discovered,
      (Comparator.sort_perm _).nodup_iff.2 discovered.enumNames.of_map, rfl⟩
    enumOrder := enumNames ▸ names_ascend _ discovered.enumNames }

/-- **The runtime graph is the reachable closure.**  `runtimeGraph` ends, with a graph when
every reachable field is supported, and the graph is exact. -/
theorem runtimeGraph_spec [Finite A] (one : d.OnePerName) :
    ∃ outcome, (∀ fuel, Nat.card A < fuel → runtimeGraph runtime d fuel = some outcome) ∧
      ((∃ graph, outcome = .ok graph) ↔
        ∀ field, d.ReachableField field → Supported runtime d field) ∧
      ∀ graph, outcome = .ok graph → Exact runtime d graph := by
  obtain ⟨found, ends, discovered⟩ := discover_spec one
  refine ⟨assemble runtime d found, ?_, assemble_ok_iff discovered, ?_⟩
  · intro fuel enough
    rw [runtimeGraph, ends fuel enough, Option.map_some]
  · intro graph ok
    exact assemble_exact discovered ok

end Projection

end GrpcBridge.Contracts
