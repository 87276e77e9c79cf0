import EntityGraph.Proofs.Types.Visit
import EntityGraph.Registry.Declaration
import Mathlib.Data.List.Nodup
/-!
# Requests for types

A compiler is asked for types one after the other, beginning with an empty store. Between two requests no slot is
empty (`Settled`): every visit fills what it opens. What a settled store links a class to is a finished type of that
entity (`Settled.type_of_link?`), and the answer to a request is that type (`request_value`).
-/

namespace EntityGraph

/-- A request for the type of a class. -/
structure TypeRequest where
  flavor : Flavor
  className : String
deriving DecidableEq

namespace Compiler

variable {c : Compiler} {s : TypeStore} {flavor : Flavor} {className : String}

/-- Answers a request. -/
def request (c : Compiler) : TypeRequest → StateT TypeStore Logged (Option CompiledType)
  | ⟨.output, className⟩ => c.compileOutput className
  | ⟨.input, className⟩ => c.compileInput className

/-- The store that a request leaves. -/
def storeOf (c : Compiler) (s : TypeStore) (q : TypeRequest) : TypeStore := ((c.request q).run s).value.2

/-- The store after some requests, made in order from an empty store. -/
def storeAfter (c : Compiler) (requests : List TypeRequest) : TypeStore := requests.foldl c.storeOf .empty

theorem storeAfter_concat (c : Compiler) (requests : List TypeRequest) (q : TypeRequest) :
    c.storeAfter (requests ++ [q]) = c.storeOf (c.storeAfter requests) q := by
  unfold storeAfter
  rw [List.foldl_append, List.foldl_cons, List.foldl_nil]

/-! ## One request -/

theorem storeOf_eq (c : Compiler) (s : TypeStore) (q : TypeRequest) :
    c.storeOf s q = (c.compile q.flavor q.className s).value.2 := by
  obtain ⟨flavor, className⟩ := q
  cases flavor <;> rfl

theorem log_request (c : Compiler) (s : TypeStore) (q : TypeRequest) :
    ((c.request q).run s).log = (c.compile q.flavor q.className s).log := by
  obtain ⟨flavor, className⟩ := q
  cases flavor <;> exact List.append_nil _

theorem storeOf_adds (c : Compiler) (hs : s.Numbered) (q : TypeRequest) :
    c.Adds q.flavor (fun a => a = q.className ∧ c.registry.IsEntity a) s (c.storeOf s q) := by
  rw [storeOf_eq]
  exact (compile_spec c q.flavor q.className hs).1

theorem isSome_link?_storeOf (c : Compiler) (hs : s.Numbered) (q : TypeRequest) :
    (c.link? (c.storeOf s q) q.flavor q.className).isSome = (c.key? q.className).isSome := by
  obtain ⟨_, hlink, hsome⟩ := compile_spec c q.flavor q.className hs
  rw [storeOf_eq, ← hlink, hsome]

theorem request_value (c : Compiler) (hs : s.Numbered) (q : TypeRequest) :
    ((c.request q).run s).value.1 = (c.link? (c.storeOf s q) q.flavor q.className).bind (c.storeOf s q).get? := by
  have hv : ((c.request q).run s).value.1 =
      (c.compile q.flavor q.className s).value.1.bind (c.compile q.flavor q.className s).value.2.get? := by
    obtain ⟨flavor, className⟩ := q
    cases flavor <;> rfl
  rw [hv, (compile_spec c q.flavor q.className hs).2.1, storeOf_eq]

/-! ## Settled stores -/

/-- The entries number the slots, and no slot is empty. -/
structure Settled (c : Compiler) (s : TypeStore) : Prop where
  numbered : s.Numbered
  filled : ∀ i, i < s.size → ∃ type, c.Filled s i type

theorem settled_empty (c : Compiler) : c.Settled .empty where
  numbered := TypeStore.numbered_empty
  filled i h := absurd h (Nat.not_lt_zero i)

/-- **A request leaves no empty slot.** -/
theorem Settled.storeOf (h : c.Settled s) (q : TypeRequest) : c.Settled (c.storeOf s q) := by
  have hadds := storeOf_adds c h.numbered q
  refine ⟨hadds.numbered, fun i hi => ?_⟩
  by_cases hold : i < s.size
  · obtain ⟨type, hf⟩ := h.filled i hold
    exact ⟨type, hf.grows hadds.grows⟩
  · obtain ⟨type, hf, _⟩ := hadds.filled i (Nat.not_lt.1 hold) hi
    exact ⟨type, hf⟩

theorem Settled.foldl : ∀ (requests : List TypeRequest) {s : TypeStore}, c.Settled s →
    c.Settled (requests.foldl c.storeOf s)
  | [], _, h => h
  | q :: requests, _, h => Settled.foldl requests (h.storeOf q)

theorem settled_storeAfter (c : Compiler) (requests : List TypeRequest) : c.Settled (c.storeAfter requests) :=
  Settled.foldl requests (settled_empty c)

/-- Every finished type sits in the slot that it bears the number of, and is made from its class. -/
theorem Settled.filled_of_get? (h : c.Settled s) {i : Nat} {type : CompiledType} (ht : s.get? i = some type) :
    type.handle = i ∧ c.Made s type := by
  obtain ⟨type', hget, hrest⟩ := h.filled i (TypeStore.lt_size_of_get? ht)
  rw [hget] at ht
  cases ht
  exact hrest

theorem Settled.link?_of_get? (h : c.Settled s) {i : Nat} {type : CompiledType} (ht : s.get? i = some type) :
    c.link? s type.flavor type.className = some i := by
  obtain ⟨rfl, m, entity, hm⟩ := h.filled_of_get? ht
  rw [link?_of_model hm.model hm.isEntity]
  exact hm.entry

/-- What an entry points to is a type of its flavor and name. -/
theorem Settled.type_of_entry (h : c.Settled s) {key : String} {i : Nat}
    (hk : (s.handles flavor).get? key = some i) :
    ∃ type, s.get? i = some type ∧ type.flavor = flavor ∧ c.key? type.className = some key := by
  obtain ⟨type, hget, rfl, m, entity, hm⟩ := h.filled i (h.numbered.lt_size flavor key i hk)
  obtain ⟨rfl, rfl⟩ := h.numbered.entry_unique hm.entry hk
  exact ⟨type, hget, rfl, key?_of_model hm.model hm.isEntity⟩

/-- **What a class is linked to is a finished type of its entity.** -/
theorem Settled.type_of_link? (h : c.Settled s) {i : Nat} (hl : c.link? s flavor className = some i) :
    ∃ type, s.get? i = some type ∧ type.flavor = flavor ∧ c.key? type.className = c.key? className := by
  obtain ⟨key, hk, hget⟩ := Option.bind_eq_some_iff.1 hl
  rw [hk]
  exact h.type_of_entry hget

theorem Settled.getElem?_types (h : c.Settled s) (i : Nat) : s.types[i]? = s.get? i := by
  have hslots : s.slots = s.types.map some := by
    have hfilled : ∀ slot ∈ s.slots, slot.isSome = true := by
      intro slot hslot
      obtain ⟨i, hi⟩ := List.mem_iff_getElem?.1 hslot
      obtain ⟨type, hget, _⟩ := h.filled i (List.getElem?_eq_some_iff.1 hi).1
      rw [TypeStore.get?_eq_some_iff, hi] at hget
      rw [Option.some.inj hget]
      rfl
    unfold TypeStore.types
    rw [List.map_filterMap, List.filterMap_congr (g := some) fun slot hslot => ?_, List.filterMap_some]
    obtain ⟨type, rfl⟩ := Option.isSome_iff_exists.1 (hfilled slot hslot)
    rfl
  unfold TypeStore.get?
  rw [hslots, List.getElem?_map]
  cases s.types[i]? <;> rfl

theorem Settled.nodup_types (h : c.Settled s) : s.types.Nodup := by
  rw [List.nodup_iff_getElem?_ne_getElem?]
  intro i j hij hj heq
  have hget : s.get? j = some s.types[j] := by rw [← h.getElem?_types, List.getElem?_eq_getElem hj]
  have hget' : s.get? i = some s.types[j] := by rw [← h.getElem?_types, heq, List.getElem?_eq_getElem hj]
  -- a type bears the number of its slot
  have hi : s.types[j].handle = i := (h.filled_of_get? hget').1
  have hj' : s.types[j].handle = j := (h.filled_of_get? hget).1
  omega

theorem mem_types_storeOf (h : c.Settled s) {q : TypeRequest} {type : CompiledType}
    (ht : type ∈ (c.storeOf s q).types) : type ∈ s.types ∨
      type.flavor = q.flavor ∧ c.registry.IsEntity q.className ∧ c.registry.Reaches q.className type.className := by
  have hadds := storeOf_adds c h.numbered q
  obtain ⟨i, hi⟩ := TypeStore.mem_types_iff.1 ht
  by_cases hold : i < s.size
  · rw [hadds.grows.get?_eq hold] at hi
    exact .inl (TypeStore.mem_types_iff.2 ⟨i, hi⟩)
  · obtain ⟨type', ⟨hget, _⟩, hfl, a, ⟨rfl, he⟩, hr⟩ :=
      hadds.filled i (Nat.not_lt.1 hold) (TypeStore.lt_size_of_get? hi)
    rw [hget] at hi
    cases hi
    exact .inr ⟨hfl, he, hr⟩

end Compiler

/-! ## Two models that refer to each other -/

/-- Persons and pets refer to each other, and pets to pets. -/
def petDeclarations : List Declaration := [
  .entity "Person" none,
  .field "Person" "id" (.primaryKey .float) none,
  .field "Person" "fullName" (.column .string) (some "name"),
  .field "Person" "pet" (.foreignKey "Pet" (some .conventional)) none,
  .entity "Pet" none,
  .field "Pet" "id" (.primaryKey .float) none,
  .field "Pet" "owner" (.foreignKey "Person" (some (.named "personId"))) none,
  .field "Pet" "parent" (.foreignKey "Pet" none) none]

def petCompiler : Compiler := ⟨Registry.ofDeclarations petDeclarations, "input"⟩

end EntityGraph
