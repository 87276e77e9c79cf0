import EntityGraph.Proofs.Types.Layout
import EntityGraph.Proofs.Types.Store
/-!
# Finished types

A finished type is `Made` from its class's model: it is entered in the tables under its entity's name, and its fields
are the layout under the links that the tables give. As the tables only grow and every target of the model has its
link already, or can never get one, this stays so (`Made.of_grown`). `Adds` says that from one store to the next
nothing but finished types was added, each of a class to which foreign keys lead from some origin.
-/

namespace EntityGraph

namespace Compiler

variable {c : Compiler} {flavor : Flavor} {s t u : TypeStore}

theorem isSome_key? (c : Compiler) (className : String) :
    (c.key? className).isSome = true ↔ c.registry.IsEntity className := by
  unfold key? Registry.IsEntity
  rw [Option.isSome_map]

theorem key?_of_model {className entity : String} {m : Model} (hm : c.registry.model? className = some m)
    (he : m.entity = some entity) : c.key? className = some (Text.lowercase entity) := by
  unfold key? Registry.entityName?
  rw [hm, Option.bind_some, he, Option.map_some]

/-! ## Links -/

theorem link?_of_model {className entity : String} {m : Model} (hm : c.registry.model? className = some m)
    (he : m.entity = some entity) : c.link? s flavor className = (s.handles flavor).get? (Text.lowercase entity) := by
  unfold link?
  rw [key?_of_model hm he, Option.bind_some]

theorem link?_congr {a b : String} (h : c.key? a = c.key? b) : c.link? s flavor a = c.link? s flavor b := by
  unfold link?
  rw [h]

/-- Every target that is an entity has got its handle. -/
def Linked (c : Compiler) (s : TypeStore) (flavor : Flavor) (fs : List Field) : Prop :=
  ∀ f ∈ fs, ∀ target, f.kind.target? = some target → (c.link? s flavor target).isSome = (c.key? target).isSome

theorem link?_eq_some_of_grown (h : (s.handles flavor).entries <+: (t.handles flavor).entries) {className : String}
    {handle : Nat} (hl : c.link? s flavor className = some handle) : c.link? t flavor className = some handle := by
  unfold link? at hl ⊢
  obtain ⟨key, hk, hget⟩ := Option.bind_eq_some_iff.1 hl
  rw [hk, Option.bind_some]
  exact Dict.get?_of_isPrefix h hget

/-- A link that is there, or can never be, is final. -/
theorem link?_eq_of_grown (h : (s.handles flavor).entries <+: (t.handles flavor).entries) {className : String}
    (hs : (c.link? s flavor className).isSome = (c.key? className).isSome) :
    c.link? t flavor className = c.link? s flavor className := by
  cases hl : c.link? s flavor className with
  | some handle => exact link?_eq_some_of_grown h hl
  | none =>
    rw [hl] at hs
    have hk : c.key? className = none := Option.isSome_eq_false_iff.1 hs.symm |> Option.isNone_iff_eq_none.1
    unfold link?
    rw [hk]
    rfl

theorem Linked.of_grown {fs : List Field} (h : (s.handles flavor).entries <+: (t.handles flavor).entries)
    (hl : c.Linked s flavor fs) : c.Linked t flavor fs := by
  intro f hf target ht
  rw [link?_eq_of_grown h (hl f hf target ht)]
  exact hl f hf target ht

/-! ## Types as they are made -/

/-- The type is what compiling the model makes, entered and linked as the tables of `s` say. -/
structure MadeFrom (c : Compiler) (s : TypeStore) (m : Model) (entity : String) (type : CompiledType) : Prop where
  model : c.registry.model? type.className = some m
  isEntity : m.entity = some entity
  entry : (s.handles type.flavor).get? (Text.lowercase entity) = some type.handle
  name : type.name = c.typeName type.flavor entity
  linked : c.Linked s type.flavor m.fields
  fields : type.fields = c.layout type.flavor m (c.link? s type.flavor) m.fields []

def Made (c : Compiler) (s : TypeStore) (type : CompiledType) : Prop := ∃ m entity, c.MadeFrom s m entity type

theorem MadeFrom.of_grown {m : Model} {entity : String} {type : CompiledType}
    (h : (s.handles type.flavor).entries <+: (t.handles type.flavor).entries) (hm : c.MadeFrom s m entity type) :
    c.MadeFrom t m entity type where
  model := hm.model
  isEntity := hm.isEntity
  entry := Dict.get?_of_isPrefix h hm.entry
  name := hm.name
  linked := hm.linked.of_grown h
  fields := by
    rw [hm.fields]
    exact layout_congr m.fields [] fun f hf target ht => (link?_eq_of_grown h (hm.linked f hf target ht)).symm

theorem Made.of_grown {type : CompiledType} (h : (s.handles type.flavor).entries <+: (t.handles type.flavor).entries)
    (hm : c.Made s type) : c.Made t type := by
  obtain ⟨m, entity, hm⟩ := hm
  exact ⟨m, entity, hm.of_grown h⟩

/-- The slot holds a finished type that bears its number. -/
def Filled (c : Compiler) (s : TypeStore) (i : Nat) (type : CompiledType) : Prop :=
  s.get? i = some type ∧ type.handle = i ∧ c.Made s type

theorem Filled.grows {i : Nat} {type : CompiledType} (h : s.Grows t) (hf : c.Filled s i type) : c.Filled t i type :=
  ⟨h.get?_eq_some hf.1, hf.2.1, hf.2.2.of_grown (h.handles _)⟩

/-! ## Additions -/

/-- From `s` to `t`, finished types of one flavor were added, all of classes that an origin leads to. -/
structure Adds (c : Compiler) (flavor : Flavor) (origin : String → Prop) (s t : TypeStore) : Prop where
  grows : s.Grows t
  numbered : t.Numbered
  other : ∀ other, other ≠ flavor → t.handles other = s.handles other
  filled : ∀ i, s.size ≤ i → i < t.size → ∃ type, c.Filled t i type ∧ type.flavor = flavor ∧
    ∃ a, origin a ∧ c.registry.Reaches a type.className

theorem Adds.refl {origin : String → Prop} (h : s.Numbered) : c.Adds flavor origin s s where
  grows := .refl s
  numbered := h
  other _ _ := rfl
  filled _ h h' := absurd h' (Nat.not_lt.2 h)

theorem Adds.trans {origin : String → Prop} (h : c.Adds flavor origin s t) (h' : c.Adds flavor origin t u) :
    c.Adds flavor origin s u where
  grows := h.grows.trans h'.grows
  numbered := h'.numbered
  other o ho := (h'.other o ho).trans (h.other o ho)
  filled i hs hu := by
    by_cases hi : i < t.size
    · obtain ⟨type, hf, hrest⟩ := h.filled i hs hi
      exact ⟨type, hf.grows h'.grows, hrest⟩
    · exact h'.filled i (Nat.not_lt.1 hi) hu

theorem Adds.mono {origin origin' : String → Prop} (h : c.Adds flavor origin s t)
    (ho : ∀ a, origin a → origin' a) : c.Adds flavor origin' s t where
  grows := h.grows
  numbered := h.numbered
  other := h.other
  filled i hs ht := by
    obtain ⟨type, hf, hfl, a, ha, hr⟩ := h.filled i hs ht
    exact ⟨type, hf, hfl, a, ho a ha, hr⟩

/-- An entity that is the target of a foreign key among some fields. -/
def IsTarget (c : Compiler) (fs : List Field) (a : String) : Prop :=
  c.registry.IsEntity a ∧ ∃ f ∈ fs, f.kind.target? = some a

theorem IsTarget.cons {f : Field} {fs : List Field} {a : String} (h : c.IsTarget fs a) : c.IsTarget (f :: fs) a := by
  obtain ⟨he, g, hg, ht⟩ := h
  exact ⟨he, g, List.mem_cons_of_mem _ hg, ht⟩

theorem MadeFrom.entity {m : Model} {entity : String} {type : CompiledType} (hm : c.MadeFrom s m entity type) :
    c.registry.IsEntity type.className := by
  rw [← isSome_key?, key?_of_model hm.model hm.isEntity]
  rfl

theorem MadeFrom.refers {m : Model} {entity : String} {type : CompiledType} (hm : c.MadeFrom s m entity type)
    {a : String} (ha : c.IsTarget m.fields a) : c.registry.Refers type.className a :=
  ⟨ha.1, m, hm.model, by rw [Model.isEntity, hm.isEntity]; rfl, ha.2⟩

/-- **Opening a slot, adding what the model's targets lead to and filling the slot** adds what the model's class
leads to. -/
theorem Adds.enclose {m : Model} {entity : String} {type : CompiledType}
    (hget : (s.handles flavor).get? (Text.lowercase entity) = none)
    (h : c.Adds flavor (c.IsTarget m.fields) (s.reserve flavor (Text.lowercase entity)) t)
    (hm : c.MadeFrom t m entity type) (hh : type.handle = s.size) (hfl : type.flavor = flavor) :
    c.Adds flavor (fun a => a = type.className ∧ c.registry.IsEntity a) s (t.finish type) := by
  have hopen : s.Grows (s.reserve flavor (Text.lowercase entity)) := TypeStore.grows_reserve hget
  have hsize : type.handle < t.size := by
    have := h.grows.size_le
    rw [TypeStore.size_reserve] at this
    omega
  have hsame : ∀ fl, (t.handles fl).entries <+: ((t.finish type).handles fl).entries := fun fl =>
    ⟨[], by rw [TypeStore.handles_finish, List.append_nil]⟩
  refine ⟨(hopen.trans h.grows).finish (by omega), h.numbered.finish type, fun other ho => ?_, fun i hi hi' => ?_⟩
  · rw [TypeStore.handles_finish, h.other other ho, TypeStore.handles_reserve_of_ne _ _ ho]
  -- the slot that was opened first is filled last
  · by_cases heq : i = type.handle
    · subst heq
      exact ⟨type, ⟨TypeStore.get?_finish_self hsize, rfl, m, entity, hm.of_grown (hsame _)⟩, hfl, type.className,
        ⟨rfl, hm.entity⟩, .refl⟩
    · rw [TypeStore.size_finish] at hi'
      have hsince : (s.reserve flavor (Text.lowercase entity)).size ≤ i := by
        rw [TypeStore.size_reserve]
        omega
      obtain ⟨type', ⟨hat, hhandle, hmade⟩, hfl', a, ha, hreach⟩ := h.filled i hsince hi'
      refine ⟨type', ⟨?_, hhandle, hmade.of_grown (hsame _)⟩, hfl', type.className, ⟨rfl, hm.entity⟩, ?_⟩
      · rw [TypeStore.get?_finish_of_ne heq, hat]
      · exact .head (hm.refers ha) hreach

end Compiler

end EntityGraph
