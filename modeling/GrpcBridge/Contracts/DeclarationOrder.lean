/-
# Contracts.DeclarationOrder -- what the order of declarations means

Descriptors that differ in the order of methods, fields, oneofs and the members of oneofs have
one graph: the projection sorts by keys that are unique, whatever order the traversal
came upon the types in (`Rearranged.relocated`).

The values of an enum are another matter.  The first one is its default, and an alias
that is declared later is the one that names a number, so the projection keeps the
order of the aliases of a number.  It is the same for a permutation of the values exactly when
`KeepsOrder` holds (`enumGraph_eq_iff`).
-/
import GrpcBridge.Contracts.GraphText
import GrpcBridge.Contracts.Immutability

namespace GrpcBridge.Contracts

set_option autoImplicit false

open GrpcBridge.Theory
open GrpcBridge.Theory.Fallible
open GrpcBridge.Theory.InsertionMap
open GrpcBridge.Theory.Serialization (Text literal)
open GrpcBridge.Theory.Sorting

/-! ## Other orders -/

/-- The names and numbers that Protobuf requires to be unique in their service or message. -/
structure Descriptors.UniqueKeys {A : Type} (d : Descriptors A) : Prop where
  methods : Unique (fun method => (d.method method).name) d.methods
  fields : ∀ m, d.Reachable (.message m) →
    Unique (fun field => (d.field field).number) (d.message m).fields
  oneofs : ∀ m, d.Reachable (.message m) →
    Unique (fun oneof => (d.oneof oneof).name) (d.message m).oneofs

/-- The objects of `d`, at the addresses that `e` says, with the methods of the service, the
fields and oneofs of messages and the members of oneofs in any order. -/
structure Rearranged {A B : Type} (e : A → B) (d : Descriptors A) (d' : Descriptors B) :
    Prop where
  typeName : d'.typeName = d.typeName
  methods : d'.methods.Perm (d.methods.map e)
  method : ∀ method ∈ d.methods, d'.method (e method) = (d.method method).relocate e
  messageName : ∀ m, d.Reachable (.message m) →
    (d'.message (e m)).typeName = (d.message m).typeName
  fields : ∀ m, d.Reachable (.message m) →
    (d'.message (e m)).fields.Perm ((d.message m).fields.map e)
  oneofs : ∀ m, d.Reachable (.message m) →
    (d'.message (e m)).oneofs.Perm ((d.message m).oneofs.map e)
  field : ∀ field, d.ReachableField field → d'.field (e field) = (d.field field).relocate e
  proto : ∀ field, d.ReachableField field →
    d'.proto (e (d.field field).proto) = d.proto (d.field field).proto
  containing : ∀ field, d.ReachableField field → ∀ oneof, (d.field field).oneof = some oneof →
    (d'.oneof (e oneof)).name = (d.oneof oneof).name
  oneofName : ∀ oneof, d.ReachableOneof oneof → (d'.oneof (e oneof)).name = (d.oneof oneof).name
  oneofLocalName : ∀ oneof, d.ReachableOneof oneof →
    (d'.oneof (e oneof)).localName = (d.oneof oneof).localName
  members : ∀ oneof, d.ReachableOneof oneof →
    (d'.oneof (e oneof)).fields.Perm ((d.oneof oneof).fields.map e)
  memberNumber : ∀ oneof, d.ReachableOneof oneof → ∀ field ∈ (d.oneof oneof).fields,
    (d'.field (e field)).number = (d.field field).number
  enumName : ∀ n, d.Reachable (.enum n) → (d'.enum (e n)).typeName = (d.enum n).typeName
  enumOpen : ∀ n, d.Reachable (.enum n) → (d'.enum (e n)).isOpen = (d.enum n).isOpen
  values : ∀ n, d.Reachable (.enum n) → d'.values (e n) = d.values n

namespace Rearranged

variable {A B : Type} {e : A → B} {d : Descriptors A} {d' : Descriptors B}

theorem oneofGraph_eq (rearranged : Rearranged e d d') {oneof : A}
    (reachable : d.ReachableOneof oneof) : oneofGraph d' (e oneof) = oneofGraph d oneof := by
  have numbers : ((d.oneof oneof).fields.map e).map (fun field => (d'.field field).number) =
      (d.oneof oneof).fields.map fun field => (d.field field).number := by
    rw [List.map_map]
    exact List.map_congr_left (rearranged.memberNumber oneof reachable)
  have perm := (rearranged.members oneof reachable).map fun field => (d'.field field).number
  rw [numbers] at perm
  have sorted : byNumber.sort id
      ((d'.oneof (e oneof)).fields.map fun field => (d'.field field).number) =
        byNumber.sort id ((d.oneof oneof).fields.map fun field => (d.field field).number) :=
    Comparator.sort_congr perm fun _ _ _ _ same => same
  unfold oneofGraph
  rw [rearranged.oneofName oneof reachable, rearranged.oneofLocalName oneof reachable, sorted]

/-- Sorting undoes the rearrangement. -/
theorem relocated (rearranged : Rearranged e d d') (unique : d.UniqueKeys) (runtime : Runtime) :
    Relocated runtime e d d' where
  typeName := rearranged.typeName
  methods := by
    apply Comparator.sort_rearranged rearranged.methods unique.methods
    intro method member
    rw [rearranged.method method member]
    rfl
  method := rearranged.method
  messageName := rearranged.messageName
  fields m reachable := by
    apply Comparator.sort_rearranged (rearranged.fields m reachable) (unique.fields m reachable)
    intro field member
    rw [rearranged.field field ⟨m, reachable, member⟩]
    rfl
  field := rearranged.field
  proto := rearranged.proto
  containing := rearranged.containing
  oneofs m reachable := by
    have sorted : sortedOneofs d' (e m) = (sortedOneofs d m).map e := by
      apply Comparator.sort_rearranged (rearranged.oneofs m reachable) (unique.oneofs m reachable)
      intro oneof member
      exact rearranged.oneofName oneof ⟨m, reachable, member⟩
    rw [sorted, List.map_map]
    apply List.map_congr_left
    intro oneof member
    exact rearranged.oneofGraph_eq ⟨m, reachable, Comparator.mem_sort.1 member⟩
  enumName := rearranged.enumName
  enumOpen := rearranged.enumOpen
  default n reachable proto := by rw [rearranged.values n reachable]

end Rearranged

/-! ## The order of the values of an enum -/

/-- The first value is the same, and so is the order of the aliases of each number. -/
def KeepsOrder (values values' : List EnumValue) : Prop :=
  values'.head? = values.head? ∧
    ∀ number, values'.filter (·.number = number) = values.filter (·.number = number)

/-- A value as an alias of its number. -/
def aliasOf (value : EnumValue) : Alias := ⟨value.name, value.localName⟩

/-- The aliases of a number say which its values are. -/
theorem aliases_iff (values values' : List EnumValue) (number : Int) :
    group EnumValue.number aliasOf number values' = group EnumValue.number aliasOf number values ↔
      values'.filter (·.number = number) = values.filter (·.number = number) := by
  have back (xs : List EnumValue) : (group EnumValue.number aliasOf number xs).map
      (fun a => (⟨a.name, a.localName, number⟩ : EnumValue)) =
        xs.filter (·.number = number) := by
    rw [group, List.map_map]
    refine (List.map_congr_left ?_).trans (List.map_id _)
    intro value member
    have same : value.number = number := by simpa using List.of_mem_filter member
    subst same
    rfl
  constructor
  · intro same
    rw [← back values', ← back values, same]
  · exact congrArg (List.map aliasOf)

theorem groups_iff (values values' : List EnumValue) :
    byNumber.sort Prod.fst (grouped values').entries =
        byNumber.sort Prod.fst (grouped values).entries ↔
      ∀ number, values'.filter (·.number = number) = values.filter (·.number = number) := by
  have perm : (grouped values').entries.Perm (grouped values).entries ↔
      ∀ number, group EnumValue.number aliasOf number values' =
        group EnumValue.number aliasOf number values := collect_perm_iff
  rw [Comparator.sort_eq_iff (unique_of_nodup (grouped values').distinct), perm]
  exact forall_congr' fun number => aliases_iff values values' number

/-- The first value is the first of those of its number. -/
theorem first_of_number {values values' : List EnumValue} (perm : values'.Perm values)
    (number : (values'.head?.map EnumValue.number).getD 0 =
      (values.head?.map EnumValue.number).getD 0)
    (groups : ∀ number, values'.filter (·.number = number) =
      values.filter (·.number = number)) : values'.head? = values.head? := by
  cases values with
  | nil => rw [List.perm_nil.1 perm]
  | cons value rest =>
      cases values' with
      | nil => exact absurd perm.symm.eq_nil (List.cons_ne_nil _ _)
      | cons value' rest' =>
          have same : value'.number = value.number := number
          have firsts := groups value.number
          simp only [List.filter_cons, same, decide_true, if_true] at firsts
          exact congrArg some (List.cons.inj firsts).1

/-- **The order of values matters exactly as far as `KeepsOrder` says.** -/
theorem enumGraph_eq_iff {A B : Type} {d : Descriptors A} {d' : Descriptors B} {n : A} {n' : B}
    (typeName : (d'.enum n').typeName = (d.enum n).typeName)
    (isOpen : (d'.enum n').isOpen = (d.enum n).isOpen)
    (perm : (d'.values n').Perm (d.values n)) :
    enumGraph d' n' = enumGraph d n ↔ KeepsOrder (d.values n) (d'.values n') := by
  constructor
  · intro same
    have groups := (groups_iff _ _).1 (congrArg RuntimeEnum.values same)
    exact ⟨first_of_number perm (congrArg RuntimeEnum.defaultNumber same) groups, groups⟩
  · rintro ⟨first, groups⟩
    unfold enumGraph
    rw [typeName, isOpen, first, (groups_iff _ _).2 groups]

section WithValues

variable {A : Type} [DecidableEq A] (d : Descriptors A) (n : A) (values' : List A)

/-- The descriptors with another array of values for one enum. -/
def Descriptors.withValues : Descriptors A :=
  { d with enum := Function.update d.enum n { d.enum n with values := values' } }

variable {d n values'}

theorem withValues_enum :
    (d.withValues n values').enum n = { d.enum n with values := values' } :=
  Function.update_self _ _ _

theorem withValues_self : (d.withValues n values').values n = values'.map d.value := by
  rw [Descriptors.values, withValues_enum]
  rfl

theorem withValues_other {m : A} (other : m ≠ n) :
    (d.withValues n values').enum m = d.enum m := Function.update_of_ne other _ _

theorem withValues_typeName (m : A) :
    ((d.withValues n values').enum m).typeName = (d.enum m).typeName := by
  by_cases same : m = n
  · subst same
    rw [withValues_enum]
  · rw [withValues_other same]

theorem withValues_isOpen (m : A) :
    ((d.withValues n values').enum m).isOpen = (d.enum m).isOpen := by
  by_cases same : m = n
  · subst same
    rw [withValues_enum]
  · rw [withValues_other same]

/-- Nothing else differs, and defaults are looked up in the same values. -/
theorem withValues_relocated {runtime : Runtime} (lookup : runtime.LooksUpByName)
    (names : ((d.values n).map EnumValue.name).Nodup) (perm : values'.Perm (d.enum n).values) :
    Relocated runtime id d (d.withValues n values') where
  typeName := rfl
  methods := (List.map_id _).symm
  method _ _ := rfl
  messageName _ _ := rfl
  fields _ _ := (List.map_id _).symm
  field _ _ := (Field.relocate_id _).symm
  proto _ _ := rfl
  containing _ _ _ _ := rfl
  oneofs _ _ := rfl
  enumName m _ := withValues_typeName m
  enumOpen m _ := withValues_isOpen m
  default m _ proto := by
    by_cases same : m = n
    · subst same
      rw [id, withValues_self]
      exact (lookup proto _ _ (perm.symm.map d.value) names).symm
    · rw [id, Descriptors.values, withValues_other same]
      rfl

/-- Of all enums only the one with other values can differ. -/
theorem enums_eq_iff {found : Found A} (discovered : Discovered d found)
    (reachable : d.Reachable (.enum n)) (perm : values'.Perm (d.enum n).values) :
    (sortedEnums d found).map (enumGraph (d.withValues n values')) =
        (sortedEnums d found).map (enumGraph d) ↔
      KeepsOrder (d.values n) (values'.map d.value) := by
  have rearranged : ((d.withValues n values').values n).Perm (d.values n) := by
    rw [withValues_self]
    exact perm.map d.value
  rw [List.map_inj_left, ← withValues_self (d := d) (n := n),
    ← enumGraph_eq_iff (withValues_typeName n) (withValues_isOpen n) rearranged]
  constructor
  · intro same
    exact same n ((mem_sortedEnums discovered n).2 reachable)
  · intro same m _
    by_cases here : m = n
    · rw [here, same]
    · unfold enumGraph Descriptors.values
      rw [withValues_other here]
      rfl

end WithValues

/-! ## The graph -/

/-- The projection fails whatever the enums are, or puts them behind the messages. -/
theorem assembleWith_cases {A : Type} (runtime : Runtime) (d : Descriptors A) (found : Found A) :
    (∃ failure, ∀ enumOf, Relocated.assembleWith runtime d found enumOf = .error failure) ∨
      ∃ methods messages, ∀ enumOf, Relocated.assembleWith runtime d found enumOf =
        .ok ⟨d.typeName, methods, messages, (sortedEnums d found).map enumOf⟩ := by
  unfold Relocated.assembleWith
  cases (sortedMessages d found).mapM (messageGraph runtime d) with
  | error failure => exact .inl ⟨failure, fun _ => rfl⟩
  | ok messages => exact .inr ⟨_, messages, fun _ => rfl⟩

section Graph

variable {A : Type} [Finite A] {runtime : Runtime} {d : Descriptors A}

/-- Rearranged descriptors have one text, or fail with one error. -/
theorem graphText_rearranged (one : d.OnePerName) (unique : d.UniqueKeys) {B : Type} [Finite B]
    {d' : Descriptors B} {e : A → B} (rearranged : Rearranged e d d') :
    ∃ outcome, (∀ fuel, Nat.card A < fuel → graphText runtime d fuel = some outcome) ∧
      ∀ fuel, Nat.card B < fuel → graphText runtime d' fuel = some outcome := by
  have relocated := rearranged.relocated unique runtime
  obtain ⟨found, discovered, here, there⟩ := runtimeGraph_relocated one relocated
  have enums : Relocated.assembleWith runtime d found (fun n => enumGraph d' (e n)) =
      Relocated.assembleWith runtime d found (enumGraph d) :=
    Relocated.assembleWith_congr discovered fun n reachable =>
      relocated.enumGraph_eq reachable (rearranged.values n reachable)
  refine ⟨(Relocated.assembleWith runtime d found (enumGraph d)).map fun graph =>
    canonicalJson graph.toValue, ?_, ?_⟩
  · intro fuel enough
    rw [graphText, here fuel enough]
    rfl
  · intro fuel enough
    rw [graphText, there fuel enough, enums]
    rfl

variable [DecidableEq A] {n : A} {values' : List A}

/-- What a permutation of the values of an enum does to the graph. -/
theorem runtimeGraph_withValues (one : d.OnePerName) (lookup : runtime.LooksUpByName)
    (reachable : d.Reachable (.enum n)) (names : ((d.values n).map EnumValue.name).Nodup)
    (perm : values'.Perm (d.enum n).values) :
    ∃ before after, (∀ fuel, Nat.card A < fuel → runtimeGraph runtime d fuel = some before ∧
        runtimeGraph runtime (d.withValues n values') fuel = some after) ∧
      ((∃ failure, before = .error failure ∧ after = .error failure) ∨
        ∃ graph graph', before = .ok graph ∧ after = .ok graph' ∧
          (graph' = graph ↔ KeepsOrder (d.values n) (values'.map d.value)) ∧
          (canonicalJson graph'.toValue = canonicalJson graph.toValue ↔
            KeepsOrder (d.values n) (values'.map d.value))) := by
  have relocated := withValues_relocated lookup names perm
  obtain ⟨found, discovered, here, there⟩ := runtimeGraph_relocated one relocated
  have enums := enums_eq_iff discovered reachable perm
  refine ⟨_, _, fun fuel enough => ⟨here fuel enough, there fuel enough⟩, ?_⟩
  obtain ⟨failure, fails⟩ | ⟨methods, messages, succeeds⟩ := assembleWith_cases runtime d found
  · exact .inl ⟨failure, fails _, fails _⟩
  · refine .inr ⟨_, _, succeeds _, succeeds _, ?_, ?_⟩
    · rw [← enums]
      constructor
      · exact congrArg RuntimeGraph.enums
      · intro same
        exact congrArg (RuntimeGraph.mk d.typeName methods messages) same
    · rw [← enums]
      constructor
      · exact enums_of_text
      · intro same
        exact congrArg (fun enums =>
          canonicalJson (RuntimeGraph.toValue ⟨d.typeName, methods, messages, enums⟩)) same

end Graph

/-- **The runtime graph ignores the order of declarations, except in enums.**
Descriptors that differ in the order of methods, fields, oneofs and members of oneofs have
one canonical text.  A permutation of the values of an enum leaves the graph, and its
text, as they are exactly when the first value and the order of the aliases of each number
are kept. -/
theorem declaration_order {A : Type} [DecidableEq A] [Finite A] (runtime : Runtime)
    (d : Descriptors A) (one : d.OnePerName) (unique : d.UniqueKeys) :
    (∀ (B : Type) [Finite B] (d' : Descriptors B) (e : A → B), Rearranged e d d' →
      ∃ outcome, (∀ fuel, Nat.card A < fuel → graphText runtime d fuel = some outcome) ∧
        ∀ fuel, Nat.card B < fuel → graphText runtime d' fuel = some outcome) ∧
    (runtime.LooksUpByName → ∀ n, d.Reachable (.enum n) →
      ((d.values n).map EnumValue.name).Nodup → ∀ values', values'.Perm (d.enum n).values →
      ∃ before after, (∀ fuel, Nat.card A < fuel → runtimeGraph runtime d fuel = some before ∧
          runtimeGraph runtime (d.withValues n values') fuel = some after) ∧
        ((∃ failure, before = .error failure ∧ after = .error failure) ∨
          ∃ graph graph', before = .ok graph ∧ after = .ok graph' ∧
            (graph' = graph ↔ KeepsOrder (d.values n) (values'.map d.value)) ∧
            (canonicalJson graph'.toValue = canonicalJson graph.toValue ↔
              KeepsOrder (d.values n) (values'.map d.value)))) := by
  constructor
  · intro B _ d' e rearranged
    exact graphText_rearranged one unique rearranged
  · intro lookup n reachable names values' perm
    exact runtimeGraph_withValues one lookup reachable names perm

/-- A tree whose colours have an alias. -/
def aliasService : Descriptors (Fin 3) :=
  { treeService with
    enum := fun _ => ⟨literal "Colour", true,
      [(Fin.last 0).castSucc.castSucc, (Fin.last 1).castSucc, Fin.last 2]⟩
    value := fun a =>
      if a.val = 0 then ⟨literal "ZERO", literal "ZERO", 0⟩
      else if a.val = 1 then ⟨literal "FIRST", literal "FIRST", 1⟩
      else ⟨literal "SECOND", literal "SECOND", 1⟩ }

def swappedFields : Descriptors (Fin 3) :=
  { aliasService with
    message := fun _ => ⟨literal "Node",
      [(Fin.last 1).castSucc, (Fin.last 0).castSucc.castSucc], []⟩ }

def swappedAliases : List (Fin 3) :=
  [(Fin.last 0).castSucc.castSucc, Fin.last 2, (Fin.last 1).castSucc]

theorem aliasService_unique : aliasService.UniqueKeys where
  methods := by
    have names : ([Fin.last 2].map fun method => (aliasService.method method).name).Nodup :=
      List.nodup_singleton _
    exact unique_of_nodup names
  fields m _ := by
    have numbers : (([⟨0, by decide⟩, ⟨1, by decide⟩] : List (Fin 3)).map fun field =>
        (aliasService.field field).number).Nodup := by decide
    exact unique_of_nodup numbers
  oneofs m _ := by
    rintro oneof ⟨⟩

theorem swappedFields_rearranged : Rearranged id aliasService swappedFields where
  typeName := rfl
  methods := .refl _
  method _ _ := rfl
  messageName _ _ := rfl
  fields _ _ := .swap _ _ _
  oneofs _ _ := .refl _
  field _ _ := (Field.relocate_id _).symm
  proto _ _ := rfl
  containing _ _ _ _ := rfl
  oneofName _ _ := rfl
  oneofLocalName _ _ := rfl
  members _ _ := .refl _
  memberNumber _ _ _ _ := rfl
  enumName _ _ := rfl
  enumOpen _ _ := rfl
  values _ _ := rfl

theorem aliasService_supported (field : Fin 3) : Supported noDefaults aliasService field where
  scalars := by
    have none : ∀ field, (aliasService.field field).type.scalars = [] := by decide
    rw [none]
    rintro scalar ⟨⟩
  presence := (by decide : 2 < 4)
  defaultValue := by
    refine ⟨none, ?_⟩
    have kinds : (aliasService.field field).type =
        if field.val = 0 then .list (.message (Fin.last 2) false) false
        else .enum (Fin.last 2) := rfl
    rw [fieldDefault, kinds]
    by_cases first : field.val = 0
    · rw [if_pos first]
    · rw [if_neg first]
      rfl

theorem aliasService_colour : aliasService.Reachable (.enum (Fin.last 2)) := by
  have declared : Fin.last 2 ∈ aliasService.methods := List.mem_cons_self
  have node : aliasService.Reachable (.message (Fin.last 2)) := .input declared
  exact .reference node (List.mem_cons_of_mem _ List.mem_cons_self) List.mem_cons_self

theorem aliasService_projected {fuel : Nat} (enough : 3 < fuel) :
    ∃ graph, runtimeGraph noDefaults aliasService fuel = some (.ok graph) := by
  have one : aliasService.OnePerName := tree_one rfl rfl
  obtain ⟨outcome, ends, succeeds, _⟩ : ∃ outcome, _ ∧ _ ∧ _ := runtimeGraph_spec one
  obtain ⟨graph, ok⟩ := succeeds.2 fun field _ => aliasService_supported field
  rw [Nat.card_fin] at ends
  exact ⟨graph, (ends fuel enough).trans (congrArg some ok)⟩

/-- Swapped fields do not show, and swapped aliases do. -/
theorem declaration_order_aliasService :
    (∃ outcome, (∀ fuel, 3 < fuel → graphText noDefaults aliasService fuel = some outcome) ∧
      ∀ fuel, 3 < fuel → graphText noDefaults swappedFields fuel = some outcome) ∧
    ∀ fuel, 3 < fuel →
      runtimeGraph noDefaults (aliasService.withValues (Fin.last 2) swappedAliases) fuel ≠
        runtimeGraph noDefaults aliasService fuel := by
  obtain ⟨fields, values⟩ :=
    declaration_order noDefaults aliasService (tree_one rfl rfl) aliasService_unique
  have rearranged := fields _ swappedFields id swappedFields_rearranged
  obtain ⟨before, after, ends, outcomes⟩ := values (fun _ _ _ _ _ => rfl) (Fin.last 2)
    aliasService_colour (by decide) swappedAliases (.cons _ (.swap _ _ _))
  rw [Nat.card_fin] at rearranged ends
  refine ⟨rearranged, ?_⟩
  intro fuel enough same
  obtain ⟨here, there⟩ := ends fuel enough
  obtain ⟨failure, fails, _⟩ | ⟨graph, graph', rfl, rfl, unchanged, _⟩ := outcomes
  · obtain ⟨graph, ok⟩ := aliasService_projected enough
    rw [here, fails] at ok
    cases ok
  · rw [here, there] at same
    cases same
    exact absurd ((unchanged.1 rfl).2 1) (by decide)

end GrpcBridge.Contracts
