import EntityGraph.Types.Bound
import Mathlib.Logic.ExistsUnique
/-!
# Stores grow and number their slots

A compilation adds slots and entries at the end and leaves what was there (`Grows`). In any store that compilation
can leave, half-built ones included, the entries of the two flavors together number the slots: every slot has exactly
one entry and every entry a slot (`Numbered`). Opening a slot keeps both (`grows_reserve`, `Numbered.reserve`);
filling a slot changes no entry.
-/

namespace EntityGraph

namespace TypeStore

variable {s t u : TypeStore} {flavor : Flavor} {key : String} {i : Nat}

/-! ## Reading slots -/

theorem get?_eq_some_iff {type : CompiledType} : s.get? i = some type ↔ s.slots[i]? = some (some type) := by
  unfold get?
  cases s.slots[i]? <;> simp

theorem lt_size_of_get? {type : CompiledType} (h : s.get? i = some type) : i < s.size :=
  (List.getElem?_eq_some_iff.1 (get?_eq_some_iff.1 h)).1

theorem mem_types_iff {type : CompiledType} : type ∈ s.types ↔ ∃ i, s.get? i = some type := by
  simp only [get?_eq_some_iff, ← List.mem_iff_getElem?]
  simp [types]

@[simp] theorem slots_reserve (s : TypeStore) (flavor : Flavor) (key : String) :
    (s.reserve flavor key).slots = s.slots ++ [none] := by
  cases flavor <;> rfl

theorem handles_reserve_of_ne {other : Flavor} (s : TypeStore) (key : String) (h : other ≠ flavor) :
    (s.reserve flavor key).handles other = s.handles other := by
  cases flavor with
  | output =>
    cases other with
    | output => exact absurd rfl h
    | input => rfl
  | input =>
    cases other with
    | output => rfl
    | input => exact absurd rfl h

@[simp] theorem slots_finish (s : TypeStore) (type : CompiledType) :
    (s.finish type).slots = s.slots.set type.handle (some type) := rfl

@[simp] theorem size_reserve (s : TypeStore) (flavor : Flavor) (key : String) :
    (s.reserve flavor key).size = s.size + 1 := by
  simp [size]

@[simp] theorem size_finish (s : TypeStore) (type : CompiledType) : (s.finish type).size = s.size := by
  simp [size]

theorem get?_finish_self {type : CompiledType} (h : type.handle < s.size) :
    (s.finish type).get? type.handle = some type := by
  rw [get?_eq_some_iff, slots_finish, List.getElem?_set_self h]

theorem get?_finish_of_ne {type : CompiledType} (h : i ≠ type.handle) : (s.finish type).get? i = s.get? i := by
  unfold get?
  rw [slots_finish, List.getElem?_set_ne (Ne.symm h)]

/-! ## Growth -/

/-- Slots and entries are added at the end only. -/
structure Grows (s t : TypeStore) : Prop where
  slots : s.slots <+: t.slots
  handles : ∀ flavor, (s.handles flavor).entries <+: (t.handles flavor).entries

theorem Grows.refl (s : TypeStore) : Grows s s := ⟨List.prefix_rfl, fun _ => List.prefix_rfl⟩

theorem Grows.trans (h : Grows s t) (h' : Grows t u) : Grows s u :=
  ⟨h.slots.trans h'.slots, fun flavor => (h.handles flavor).trans (h'.handles flavor)⟩

theorem Grows.size_le (h : Grows s t) : s.size ≤ t.size := h.slots.length_le

theorem Grows.get?_handles (h : Grows s t) (hk : (s.handles flavor).get? key = some i) :
    (t.handles flavor).get? key = some i := Dict.get?_of_isPrefix (h.handles flavor) hk

theorem Grows.get?_eq (h : Grows s t) (hi : i < s.size) : t.get? i = s.get? i := by
  unfold get?
  obtain ⟨rest, hr⟩ := h.slots
  rw [← hr, List.getElem?_append_left hi]

theorem Grows.get?_eq_some {type : CompiledType} (h : Grows s t) (hi : s.get? i = some type) :
    t.get? i = some type := by rw [h.get?_eq (lt_size_of_get? hi), hi]

theorem grows_reserve (h : (s.handles flavor).get? key = none) : Grows s (s.reserve flavor key) where
  slots := by rw [slots_reserve]; exact List.prefix_append _ _
  handles other := by
    by_cases ho : other = flavor
    · subst ho
      rw [handles_reserve, Dict.entries_insert_of_get?_eq_none _ h]
      exact List.prefix_append _ _
    · exact ⟨[], by rw [handles_reserve_of_ne s key ho, List.append_nil]⟩

/-- Filling a slot that `s` did not have leaves what `s` had. -/
theorem Grows.finish {type : CompiledType} (h : Grows s t) (hi : s.size ≤ type.handle) :
    Grows s (t.finish type) where
  slots := by
    obtain ⟨rest, hr⟩ := h.slots
    rw [slots_finish, ← hr, List.set_append_right _ _ hi]
    exact List.prefix_append _ _
  handles flavor := by rw [handles_finish]; exact h.handles flavor

/-! ## Numbering -/

/-- The entries of both flavors number the slots. -/
structure Numbered (s : TypeStore) : Prop where
  lt_size : ∀ flavor key i, (s.handles flavor).get? key = some i → i < s.size
  entry : ∀ i, i < s.size → ∃! e : Flavor × String, (s.handles e.1).get? e.2 = some i
  size_eq : s.size = s.outputs.size + s.inputs.size

theorem numbered_empty : Numbered .empty where
  lt_size flavor key i h := by cases flavor <;> cases h
  entry i h := absurd h (Nat.not_lt_zero i)
  size_eq := rfl

theorem Numbered.entry_unique (h : Numbered s) {other : Flavor} {key' : String}
    (hk : (s.handles flavor).get? key = some i) (hk' : (s.handles other).get? key' = some i) :
    flavor = other ∧ key = key' := by
  have he : (flavor, key) = (other, key') := (h.entry i (h.lt_size flavor key i hk)).unique hk hk'
  exact ⟨congrArg Prod.fst he, congrArg Prod.snd he⟩

theorem get?_handles_reserve (s : TypeStore) (flavor other : Flavor) (key key' : String) :
    ((s.reserve flavor key).handles other).get? key' =
      if other = flavor ∧ key' = key then some s.size else (s.handles other).get? key' := by
  by_cases ho : other = flavor
  · subst ho
    rw [handles_reserve, Dict.get?_insert]
    by_cases hk : key = key'
    · simp [hk]
    · simp [hk, Ne.symm hk]
  · simp [handles_reserve_of_ne s key ho, ho]

theorem Numbered.reserve (h : Numbered s) (hn : (s.handles flavor).get? key = none) :
    Numbered (s.reserve flavor key) where
  lt_size other key' i hk := by
    rw [get?_handles_reserve] at hk
    rw [size_reserve]
    split at hk
    · cases hk; exact Nat.lt_succ_self _
    · exact Nat.lt_succ_of_lt (h.lt_size other key' i hk)
  entry i hi := by
    rw [size_reserve] at hi
    simp only [get?_handles_reserve]
    by_cases he : i = s.size
    · -- the new slot: no older entry has its number
      subst he
      refine ⟨(flavor, key), by simp, fun e hu => ?_⟩
      dsimp only at hu
      split at hu
      · rename_i hc
        exact Prod.ext hc.1 hc.2
      · exact absurd (h.lt_size e.1 e.2 _ hu) (Nat.lt_irrefl _)
    · obtain ⟨e, hget, hu⟩ := h.entry i (by omega)
      refine ⟨e, ?_, fun e' hget' => ?_⟩
      · dsimp only
        rw [if_neg, hget]
        rintro ⟨h1, h2⟩
        rw [h1, h2, hn] at hget
        cases hget
      · dsimp only at hget'
        split at hget'
        · exact absurd (Option.some.inj hget').symm he
        · exact hu e' hget'
  size_eq := by
    have hl := h.size_eq
    rw [size_reserve, hl]
    cases flavor with
    | output =>
      have ho : s.outputs.get? key = none := hn
      simp only [TypeStore.reserve, Dict.size_insert_of_get?_eq_none _ ho]
      omega
    | input =>
      have ho : s.inputs.get? key = none := hn
      simp only [TypeStore.reserve, Dict.size_insert_of_get?_eq_none _ ho]
      omega

theorem Numbered.finish (h : Numbered s) (type : CompiledType) : Numbered (s.finish type) where
  lt_size flavor key i hk := by
    rw [handles_finish] at hk
    rw [size_finish]
    exact h.lt_size flavor key i hk
  entry i hi := by
    simp only [handles_finish]
    exact h.entry i (by rwa [size_finish] at hi)
  size_eq := by rw [size_finish]; exact h.size_eq

end TypeStore

end EntityGraph
