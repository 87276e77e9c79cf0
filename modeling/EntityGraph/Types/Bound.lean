import EntityGraph.Types.Compile
/-!
# The bound on nested visits suffices

`pending` counts the entities whose names have no handle yet. A visit that opens a slot gives such a name its handle,
and no visit takes a handle away (`Extends`), so one more visit than `pending` is always enough
(`compileAt_of_pending_lt`). As there are no more entities than models, `compile` never runs out of visits
(`compileAt_bound`).
-/

namespace EntityGraph

/-- Every name that has a handle in `s` has one in `t`. -/
def TypeStore.Extends (flavor : Flavor) (s t : TypeStore) : Prop :=
  ∀ key, (s.handles flavor).contains key = true → (t.handles flavor).contains key = true

namespace TypeStore

theorem Extends.refl (flavor : Flavor) (s : TypeStore) : Extends flavor s s := fun _ h => h

theorem Extends.trans {flavor : Flavor} {s t u : TypeStore} (h : Extends flavor s t) (h' : Extends flavor t u) :
    Extends flavor s u := fun key hk => h' key (h key hk)

@[simp] theorem handles_reserve (s : TypeStore) (flavor : Flavor) (key : String) :
    (s.reserve flavor key).handles flavor = (s.handles flavor).insert key s.size := by
  cases flavor <;> rfl

@[simp] theorem handles_finish (s : TypeStore) (t : CompiledType) (flavor : Flavor) :
    (s.finish t).handles flavor = s.handles flavor := by
  cases flavor <;> rfl

theorem extends_reserve (s : TypeStore) (flavor : Flavor) (key : String) :
    Extends flavor s (s.reserve flavor key) := by
  intro key' h
  rw [handles_reserve, Dict.contains, Dict.get?_insert]
  split
  · rfl
  · exact h

end TypeStore

namespace Compiler

/-- The entities' names in lower case. -/
def keys (c : Compiler) : List String := c.registry.models.values.filterMap fun m => m.entity.map Text.lowercase

/-- How many entities have a name without a handle. -/
def pending (c : Compiler) (flavor : Flavor) (s : TypeStore) : Nat :=
  c.keys.countP fun key => !(s.handles flavor).contains key

theorem mem_keys {c : Compiler} {className entity : String} {m : Model} (hm : c.registry.model? className = some m)
    (he : m.entity = some entity) : Text.lowercase entity ∈ c.keys := by
  have hmem : m ∈ c.registry.models.values := Dict.mem_values_of_get? hm
  exact List.mem_filterMap.2 ⟨m, hmem, by rw [he]; rfl⟩

theorem pending_le_of_extends {c : Compiler} {flavor : Flavor} {s t : TypeStore}
    (h : TypeStore.Extends flavor s t) : c.pending flavor t ≤ c.pending flavor s := by
  refine List.countP_mono_left fun key _ hk => ?_
  cases hs : (s.handles flavor).contains key with
  | false => rfl
  | true => rw [h key hs] at hk; exact hk

theorem countP_lt_countP {p q : String → Bool} (hpq : ∀ x, p x = true → q x = true) {x : String}
    (hp : p x = false) (hq : q x = true) : ∀ (l : List String), x ∈ l → l.countP p < l.countP q
  | [], h => by cases h
  | y :: l, h => by
    have hle : l.countP p ≤ l.countP q := List.countP_mono_left fun z _ => hpq z
    rw [List.countP_cons, List.countP_cons]
    rcases List.mem_cons.1 h with rfl | hm
    · simp only [hp, hq, Bool.false_eq_true, ↓reduceIte]
      omega
    · have hlt := countP_lt_countP hpq hp hq l hm
      cases hpy : p y with
      | false => simp only [Bool.false_eq_true, ↓reduceIte]; omega
      | true => simp only [hpq y hpy, ↓reduceIte]; omega

theorem pending_reserve_lt {c : Compiler} {flavor : Flavor} {s : TypeStore} {key : String} (hk : key ∈ c.keys)
    (hs : (s.handles flavor).get? key = none) : c.pending flavor (s.reserve flavor key) < c.pending flavor s := by
  refine countP_lt_countP (fun key' h => ?_) (x := key) ?_ ?_ c.keys hk
  · cases hc : (s.handles flavor).contains key' with
    | false => rfl
    | true => rw [TypeStore.extends_reserve s flavor key key' hc] at h; exact h
  · simp [Dict.contains]
  · simp [Dict.contains, hs]

/-! ## Visits -/

/-- What is asked of a visit: below a number of pending entities it comes to an end and takes no handle away. -/
def Settles (c : Compiler) (flavor : Flavor) (n : Nat) (visit : String → Pass → Option (Option Nat × Pass)) : Prop :=
  ∀ className p, c.pending flavor p.store < n →
    ∃ h q, visit className p = some (h, q) ∧ TypeStore.Extends flavor p.store q.store

theorem compileFields_of_settles {c : Compiler} {flavor : Flavor} {n : Nat}
    {visit : String → Pass → Option (Option Nat × Pass)} (hv : c.Settles flavor n visit) (className : String)
    (m : Model) : ∀ (fs : List Field) (done : List CompiledField) (p : Pass), c.pending flavor p.store < n →
      ∃ fields q, c.compileFields flavor className m visit fs done p = some (fields, q)
        ∧ TypeStore.Extends flavor p.store q.store
  | [], done, p, _ => ⟨done, p, rfl, .refl _ _⟩
  | f :: fs, done, p, hp => by
    unfold compileFields
    split
    · exact compileFields_of_settles hv className m fs _ p hp
    · exact compileFields_of_settles hv className m fs _ p hp
    · rename_i target idColumn _
      obtain ⟨h, q, hvis, hext⟩ := hv target p hp
      have hq : c.pending flavor q.store < n := Nat.lt_of_le_of_lt (pending_le_of_extends hext) hp
      rw [hvis]
      cases h with
      | none =>
        obtain ⟨fields, q', hr, hext'⟩ := compileFields_of_settles hv className m fs done
          (q.note (.foreignKeyOmitted className f.name target)) hq
        exact ⟨fields, q', hr, hext.trans hext'⟩
      | some handle =>
        obtain ⟨fields, q', hr, hext'⟩ := compileFields_of_settles hv className m fs
          (done ++ c.relationFields flavor m done f target idColumn handle) q hq
        exact ⟨fields, q', hr, hext.trans hext'⟩

/-- A visit may be asked one pending entity more than those that are nested in it. -/
theorem settles_visitBy {c : Compiler} {flavor : Flavor} {n : Nat}
    {visit : String → Pass → Option (Option Nat × Pass)} (hv : c.Settles flavor n visit) :
    c.Settles flavor (n + 1) (c.visitBy flavor visit) := by
  intro className p hp
  unfold visitBy
  split
  · exact ⟨none, p, rfl, .refl _ _⟩
  · rename_i m hm
    split
    · exact ⟨none, p, rfl, .refl _ _⟩
    · rename_i entity he
      split
      · rename_i handle _
        exact ⟨some handle, p, rfl, .refl _ _⟩
      · rename_i hget
        -- the name is pending no longer when the nested visits begin
        have hlt := pending_reserve_lt (mem_keys hm he) hget
        obtain ⟨fields, q, hr, hext⟩ := compileFields_of_settles hv className m m.fields []
          { p with store := p.store.reserve flavor (Text.lowercase entity) }
          (show c.pending flavor (p.store.reserve flavor _) < n by omega)
        simp only [hr]
        refine ⟨_, _, rfl, fun key hk => ?_⟩
        rw [TypeStore.handles_finish]
        exact hext key (TypeStore.extends_reserve _ _ _ key hk)

/-- **One more visit than there are pending entities is enough.** -/
theorem compileAt_of_pending_lt (c : Compiler) (flavor : Flavor) : ∀ n, c.Settles flavor n (c.compileAt flavor n)
  | 0, _, _, h => absurd h (Nat.not_lt_zero _)
  | n + 1, className, p, hp => settles_visitBy (compileAt_of_pending_lt c flavor n) className p hp

theorem pending_lt_bound (c : Compiler) (flavor : Flavor) (s : TypeStore) : c.pending flavor s < c.bound := by
  have h1 : c.pending flavor s ≤ c.keys.length := List.countP_le_length
  have h2 : c.keys.length ≤ c.registry.models.values.length := List.length_filterMap_le _ _
  have h3 : c.registry.models.values.length = c.registry.models.size := List.length_map _
  unfold bound
  omega

/-- **A compilation never runs out of visits**, from whatever it starts. -/
theorem compileAt_bound (c : Compiler) (flavor : Flavor) (className : String) (p : Pass) :
    ∃ h q, c.compileAt flavor c.bound className p = some (h, q) :=
  have ⟨h, q, hr, _⟩ := compileAt_of_pending_lt c flavor c.bound className p (pending_lt_bound c flavor p.store)
  ⟨h, q, hr⟩

end Compiler

end EntityGraph
