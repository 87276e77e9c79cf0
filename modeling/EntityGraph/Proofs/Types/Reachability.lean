import EntityGraph.Proofs.Types.Requests
import Mathlib.Data.List.Induction
/-!
# Which types are compiled

After any requests the types of a flavor are those of the entities that foreign keys reach from the entities asked for
in that flavor, and no others (`compiled_iff_reaches`). That nothing else is compiled is read off what each request
adds. That nothing is missing needs no argument about the order of visits: no slot of the final store is empty, and
every finished type has all its targets entered, so that the compiled classes are closed under foreign keys.
-/

namespace EntityGraph

namespace TypeStore

/-- A class has a type of a flavor. -/
def HasType (s : TypeStore) (flavor : Flavor) (className : String) : Prop :=
  ∃ type ∈ s.types, type.flavor = flavor ∧ type.className = className

end TypeStore

namespace Compiler

variable {c : Compiler} {s : TypeStore} {flavor : Flavor}

theorem eq_of_key? (hd : c.registry.NamesDistinct) {a b key : String} (ha : c.key? a = some key)
    (hb : c.key? b = some key) : a = b := by
  obtain ⟨x, hx, hxk⟩ := Option.map_eq_some_iff.1 ha
  obtain ⟨y, hy, hyk⟩ := Option.map_eq_some_iff.1 hb
  exact hd a b x y hx hy (hxk.trans hyk.symm)

/-- With distinct names a class is linked to a type of its own. -/
theorem Settled.hasType_of_link? (h : c.Settled s) (hd : c.registry.NamesDistinct) {className : String}
    (hl : (c.link? s flavor className).isSome = true) : s.HasType flavor className := by
  obtain ⟨i, hi⟩ := Option.isSome_iff_exists.1 hl
  obtain ⟨type, hget, hfl, hkey⟩ := h.type_of_link? hi
  obtain ⟨key, hk, _⟩ := Option.bind_eq_some_iff.1 hi
  rw [hk] at hkey
  exact ⟨type, TypeStore.mem_types_iff.2 ⟨i, hget⟩, hfl, eq_of_key? hd hkey hk⟩

/-- **The compiled classes are closed under foreign keys.** -/
theorem Settled.hasType_of_refers (h : c.Settled s) (hd : c.registry.NamesDistinct) {a b : String}
    (ha : s.HasType flavor a) (hab : c.registry.Refers a b) : s.HasType flavor b := by
  obtain ⟨type, ht, rfl, rfl⟩ := ha
  obtain ⟨i, hi⟩ := TypeStore.mem_types_iff.1 ht
  obtain ⟨_, m, entity, hm⟩ := h.filled_of_get? hi
  obtain ⟨hb, m', hm', _, f, hf, htarget⟩ := hab
  rw [hm.model] at hm'
  cases hm'
  refine h.hasType_of_link? hd ?_
  rw [hm.linked f hf b htarget, isSome_key?]
  exact hb

theorem Settled.hasType_of_reaches (h : c.Settled s) (hd : c.registry.NamesDistinct) {a b : String}
    (ha : s.HasType flavor a) (hab : c.registry.Reaches a b) : s.HasType flavor b := by
  induction hab with
  | refl => exact ha
  | tail _ hbc ih => exact h.hasType_of_refers hd ih hbc

theorem isSome_link?_storeAfter (c : Compiler) (requests : List TypeRequest) : ∀ q ∈ requests,
    c.registry.IsEntity q.className → (c.link? (c.storeAfter requests) q.flavor q.className).isSome = true := by
  induction requests using List.reverseRecOn with
  | nil => exact fun q hq => absurd hq List.not_mem_nil
  | append_singleton requests q' ih =>
    intro q hq he
    have hs := settled_storeAfter c requests
    rw [storeAfter_concat]
    rcases List.mem_append.1 hq with hq | hq
    · obtain ⟨i, hi⟩ := Option.isSome_iff_exists.1 (ih q hq he)
      rw [link?_eq_some_of_grown ((storeOf_adds c hs.numbered q').grows.handles q.flavor) hi]
      rfl
    · rw [List.mem_singleton.1 hq] at he ⊢
      rw [isSome_link?_storeOf c hs.numbered q', isSome_key?]
      exact he

/-- Every type comes from a request of its flavor. -/
theorem reaches_of_mem_types (c : Compiler) (requests : List TypeRequest) :
    ∀ type ∈ (c.storeAfter requests).types, ∃ q ∈ requests, q.flavor = type.flavor ∧
      c.registry.IsEntity q.className ∧ c.registry.Reaches q.className type.className := by
  induction requests using List.reverseRecOn with
  | nil => exact fun type ht => absurd ht List.not_mem_nil
  | append_singleton requests q' ih =>
    intro type ht
    rw [storeAfter_concat] at ht
    rcases mem_types_storeOf (settled_storeAfter c requests) ht with hold | ⟨hfl, he, hr⟩
    · obtain ⟨q, hq, hrest⟩ := ih type hold
      exact ⟨q, List.mem_append_left _ hq, hrest⟩
    · exact ⟨q', List.mem_append_right _ List.mem_cons_self, hfl.symm, he, hr⟩

theorem hasType_iff_reaches (hd : c.registry.NamesDistinct) (requests : List TypeRequest) (flavor : Flavor)
    (className : String) : (c.storeAfter requests).HasType flavor className ↔
      ∃ q ∈ requests, q.flavor = flavor ∧ c.registry.IsEntity q.className ∧
        c.registry.Reaches q.className className := by
  constructor
  · rintro ⟨type, ht, rfl, rfl⟩
    exact reaches_of_mem_types c requests type ht
  · rintro ⟨q, hq, rfl, he, hr⟩
    have hs := settled_storeAfter c requests
    exact hs.hasType_of_reaches hd (hs.hasType_of_link? hd (isSome_link?_storeAfter c requests q hq he)) hr

/-- **The compiled classes of a flavor are those that foreign keys reach from the entities asked for in it**, and a
request adds types of its own flavor only. -/
theorem compiled_iff_reaches (c : Compiler) (hd : c.registry.NamesDistinct) (requests : List TypeRequest) :
    (∀ flavor className, (c.storeAfter requests).HasType flavor className ↔
      ∃ q ∈ requests, q.flavor = flavor ∧ c.registry.IsEntity q.className ∧
        c.registry.Reaches q.className className) ∧
    ∀ q, ∀ type ∈ (c.storeAfter (requests ++ [q])).types,
      type ∈ (c.storeAfter requests).types ∨ type.flavor = q.flavor := by
  refine ⟨hasType_iff_reaches hd requests, fun q type ht => ?_⟩
  rw [storeAfter_concat] at ht
  rcases mem_types_storeOf (settled_storeAfter c requests) ht with hold | ⟨hfl, _⟩
  · exact .inl hold
  · exact .inr hfl

/-- Asking for the input type of a person compiles that of a pet as well. -/
theorem pet_compiled_with_person : petCompiler.registry.NamesDistinct ∧
    (petCompiler.storeAfter [⟨.input, "Person"⟩]).HasType .input "Pet" :=
  have hd : petCompiler.registry.NamesDistinct := by decide
  have hr : petCompiler.registry.Refers "Person" "Pet" :=
    ⟨by decide, _, rfl, rfl, ⟨"pet", "pet", .foreignKey "Pet" (some .conventional)⟩, by decide, rfl⟩
  ⟨hd, ((compiled_iff_reaches petCompiler hd [⟨.input, "Person"⟩]).1 .input "Pet").2
    ⟨⟨.input, "Person"⟩, List.mem_cons_self, rfl, by decide, .single hr⟩⟩

end Compiler

end EntityGraph
