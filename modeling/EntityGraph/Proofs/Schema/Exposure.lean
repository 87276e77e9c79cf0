import EntityGraph.Proofs.Schema.Steps
import Mathlib.Data.List.Forall2
/-!
# The exposed methods of a builder

The exposed methods of the instances that wait for a build, and no others, have fields, and the fields of all of them
in their order are what the build prepares (`fields_prepared`).
-/

namespace EntityGraph

/-- Where something is found just for the items that meet `p`, what is found lines up with these. -/
theorem forall₂_filterMap {α β : Type} {g : α → Option β} {p : α → Bool} : ∀ (items : List α),
    (∀ a ∈ items, (g a).isSome = p a) → List.Forall₂ (fun a b => g a = some b) (items.filter p) (items.filterMap g)
  | [], _ => .nil
  | a :: items, h => by
    have hrest := forall₂_filterMap items fun a' ha' => h a' (List.mem_cons_of_mem _ ha')
    have hhead := h a List.mem_cons_self
    cases hg : g a with
    | none =>
      rw [hg] at hhead
      rw [List.filter_cons_of_neg (by rw [← hhead]; exact Bool.false_ne_true), List.filterMap_cons_none hg]
      exact hrest
    | some b =>
      rw [hg] at hhead
      rw [List.filter_cons_of_pos hhead.symm, List.filterMap_cons_some hg]
      exact .cons hg hrest

namespace Builder

variable {b : Builder}

/-- The exposed methods of the waiting instances, resolver by resolver, each in order of declaration. -/
def exposures (b : Builder) : List (ResolverInstance × Method) :=
  b.resolvers.flatMap fun i => ((b.registry.methods i.className).filter b.registry.exposes).map fun m => (i, m)

theorem isOf_fieldOf? {e : ResolverInstance × Method} {f : RootField} (h : b.fieldOf? e = some f) : f.IsOf e.1 e.2 :=
  (Blueprint.of_fieldIn? h).1

theorem mem_exposures {e : ResolverInstance × Method} : e ∈ b.exposures ↔
    e.1 ∈ b.resolvers ∧ e.2 ∈ b.registry.methods e.1.className ∧ b.registry.exposes e.2 = true := by
  obtain ⟨i, m⟩ := e
  simp [exposures]

/-- **An exposed method has a field**, and the fields of all exposed methods in their order are what is prepared. -/
theorem fields_prepared (hs : b.compiler.Settled b.store) :
    (∀ e ∈ b.exposures, ∃ f, b.fieldOf? e = some f) ∧ b.prepared.1.flatten = b.exposures.filterMap b.fieldOf? := by
  obtain ⟨hprepared, hserves⟩ := prepared_eq hs
  have hsome : ∀ i ∈ b.resolvers, ∀ m ∈ b.registry.methods i.className,
      (b.fieldOf? (i, m)).isSome = b.registry.exposes m := fun i hi m hm => (hserves i hi m hm).field
  refine ⟨fun e he => ?_, ?_⟩
  · obtain ⟨hi, hm, hexposed⟩ := mem_exposures.1 he
    rw [← hsome e.1 hi e.2 hm] at hexposed
    exact Option.isSome_iff_exists.1 hexposed
  · rw [hprepared]
    unfold exposures
    rw [List.filterMap_flatMap, ← List.flatMap_def]
    refine List.flatMap_congr fun i hi => ?_
    rw [List.filterMap_map, List.filterMap_filter]
    refine List.filterMap_congr fun m hm => ?_
    have hskipped := hsome i hi m hm
    split
    · rfl
    · rename_i hexposed
      rw [Bool.not_eq_true] at hexposed
      rw [hexposed, Option.isSome_eq_false_iff] at hskipped
      exact Option.isNone_iff_eq_none.1 hskipped

end Builder

end EntityGraph
