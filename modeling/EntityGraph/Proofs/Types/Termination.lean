import EntityGraph.Proofs.Types.Requests
/-!
# Compilation comes to an end

`compileAt` is granted a number of nested visits, but the recursion itself knows of none: one level of it, `visitBy`,
makes its nested visits by whatever function it is handed. Which these are, and in which state each is made, says
`Nests`: a foreign key visits its target in the store that the fields before it have left. No other visit is ever
asked for (`visitBy_congr`).

Neither the classes nor the references between them get smaller on the way down. What does is the number of entities
whose names have no handle. A visit enters its own name before it makes a nested one, and that entry is still there
when the last nested visit begins, whatever those before it have added (`Nests.opened`). So nesting is well-founded
(`wellFounded_nests`), from any store and hence from every half-built one, and how many visits are granted does not
show in the result once they are enough (`compileAt_eq_of_pending_lt`).
-/

namespace EntityGraph

theorem TypeStore.Grows.extends {s t : TypeStore} (h : s.Grows t) (flavor : Flavor) : Extends flavor s t := by
  intro key hk
  obtain ⟨i, hi⟩ := Option.isSome_iff_exists.1 hk
  unfold Dict.contains
  rw [h.get?_handles hi]
  rfl

namespace Compiler

variable {c : Compiler} {flavor : Flavor} {className : String} {m : Model} {p : Pass}
  {visit visit' : String → Pass → Option (Option Nat × Pass)}

/-! ## One level of the recursion -/

theorem compileAt_succ (c : Compiler) (flavor : Flavor) (n : Nat) :
    c.compileAt flavor (n + 1) = c.visitBy flavor (c.compileAt flavor n) := rfl

/-- A field visits its target, if it has one, before the fields after it are compiled. -/
theorem compileFields_step (f : Field) (fs : List Field) (done : List CompiledField) (p : Pass) :
    c.compileFields flavor className m visit (f :: fs) done p =
      match f.kind.target? with
      | none => c.compileFields flavor className m visit fs
          (done ++ c.fieldLayout flavor m (fun _ => none) done f) p
      | some target => (visit target p).bind fun r => c.compileFields flavor className m visit fs
          (done ++ c.fieldLayout flavor m (fun _ => r.1) done f) (noteOmitted className f target r.1 r.2) := by
  rw [compileFields]
  unfold fieldLayout
  cases hk : f.kind with
  | primaryKey s => rfl
  | column s => rfl
  | foreignKey target idColumn =>
    dsimp only [FieldKind.target?]
    cases visit target p with
    | none => rfl
    | some r =>
      obtain ⟨handle, q⟩ := r
      cases handle with
      | none => rw [Option.bind_some, List.append_nil]; rfl
      | some handle => rfl

/-! ## The bound does not show -/

theorem compileFields_mono (hv : ∀ target p r, visit target p = some r → visit' target p = some r) :
    ∀ (fs : List Field) (done : List CompiledField) (p : Pass) {r : List CompiledField × Pass},
      c.compileFields flavor className m visit fs done p = some r →
        c.compileFields flavor className m visit' fs done p = some r
  | [], _, _, _, h => h
  | f :: fs, done, p, r, h => by
    rw [compileFields_step] at h ⊢
    cases ht : f.kind.target? with
    | none =>
      rw [ht] at h
      exact compileFields_mono hv fs _ p h
    | some target =>
      rw [ht] at h
      obtain ⟨answer, hvis, h⟩ := Option.bind_eq_some_iff.1 h
      dsimp only
      rw [hv target p answer hvis, Option.bind_some]
      exact compileFields_mono hv fs _ _ h

theorem visitBy_mono (hv : ∀ target p r, visit target p = some r → visit' target p = some r)
    {r : Option Nat × Pass} (h : c.visitBy flavor visit className p = some r) :
    c.visitBy flavor visit' className p = some r := by
  unfold visitBy at h ⊢
  split at h
  · exact h
  · rename_i m _
    split at h
    · exact h
    · split at h
      · exact h
      · dsimp only at h ⊢
        split at h
        · cases h
        · rename_i fields q hr
          rw [compileFields_mono hv m.fields [] _ hr]
          exact h

/-- More visits than are needed change nothing. -/
theorem compileAt_mono : ∀ {n k : Nat} {className : String} {p : Pass} {r : Option Nat × Pass}, n ≤ k →
    c.compileAt flavor n className p = some r → c.compileAt flavor k className p = some r
  | 0, _, _, _, _, _, h => by cases h
  | n + 1, 0, _, _, _, hle, _ => absurd hle (Nat.not_succ_le_zero n)
  | n + 1, k + 1, className, p, r, hle, h => by
    rw [compileAt_succ] at h ⊢
    exact visitBy_mono (fun target q r hr => compileAt_mono (Nat.le_of_succ_le_succ hle) hr) h

/-- **However many visits are granted beyond the pending entities, the result is the same.** -/
theorem compileAt_eq_of_pending_lt (c : Compiler) (flavor : Flavor) (className : String) (p : Pass) :
    ∃ answer, ∀ n, c.pending flavor p.store < n → c.compileAt flavor n className p = some answer := by
  obtain ⟨handle, q, hr, _⟩ :=
    compileAt_of_pending_lt c flavor (c.pending flavor p.store + 1) className p (Nat.lt_succ_self _)
  exact ⟨(handle, q), fun n hn => compileAt_mono hn hr⟩

/-! ## Growth -/

theorem grows_compileFields (hv : ∀ target p handle q, visit target p = some (handle, q) → p.store.Grows q.store)
    (className : String) (m : Model) : ∀ (fs : List Field) (done : List CompiledField) (p : Pass)
      (fields : List CompiledField) (q : Pass),
      c.compileFields flavor className m visit fs done p = some (fields, q) → p.store.Grows q.store
  | [], done, p, fields, q, h => by
    cases h
    exact .refl p.store
  | f :: fs, done, p, fields, q, h => by
    rcases compileFields_cons h with ⟨_, h⟩ | ⟨target, handle, p', _, hvis, h⟩
    · exact grows_compileFields hv className m fs _ p fields q h
    · have hvisit : p.store.Grows p'.store := hv target p handle p' hvis
      have hrest := grows_compileFields hv className m fs _ _ fields q h
      rw [store_noteOmitted] at hrest
      exact hvisit.trans hrest

/-- A visit takes nothing away, whatever it begins with. -/
theorem grows_compileAt (c : Compiler) (flavor : Flavor) : ∀ (n : Nat) (className : String) (p : Pass)
    (handle : Option Nat) (q : Pass), c.compileAt flavor n className p = some (handle, q) → p.store.Grows q.store
  | 0, _, _, _, _, h => by cases h
  | n + 1, className, p, handle, q, h => by
    rcases visitBy_cases h with ⟨_, _, rfl⟩ | ⟨_, _, _, rfl⟩ | ⟨m, entity, fields, p', _, _, hget, hr, _, rfl⟩
    · exact .refl _
    · exact .refl _
    · have hopen : p.store.Grows (p.store.reserve flavor (Text.lowercase entity)) := TypeStore.grows_reserve hget
      have hfields : (p.store.reserve flavor (Text.lowercase entity)).Grows p'.store :=
        grows_compileFields (grows_compileAt c flavor n) className m m.fields [] _ fields p' hr
      exact (hopen.trans hfields).finish (Nat.le_refl _)

/-! ## Nested visits -/

/-- A visit of the first class, begun in the first state, visits the second class in the second state: a foreign key
of the model leads there, and the fields before it have left that state. -/
inductive Nests (c : Compiler) (flavor : Flavor) : String × Pass → String × Pass → Prop
  | field {className target entity : String} {m : Model} {p q : Pass} {before after : List Field} {f : Field}
      {done : List CompiledField} (model : c.registry.model? className = some m) (isEntity : m.entity = some entity)
      (free : (p.store.handles flavor).get? (Text.lowercase entity) = none)
      (fields : m.fields = before ++ f :: after) (leads : f.kind.target? = some target)
      (earlier : c.compileFields flavor className m (c.compileAt flavor c.bound) before []
        { p with store := p.store.reserve flavor (Text.lowercase entity) } = some (done, q)) :
      Nests c flavor (className, p) (target, q)

/-- What is compiled of some fields depends on the visits of their targets only, each in the state that the fields
before it leave. -/
theorem compileFields_congr : ∀ (fs : List Field) (done : List CompiledField) (p : Pass),
    (∀ before f after target done' q, fs = before ++ f :: after → f.kind.target? = some target →
      c.compileFields flavor className m visit before done p = some (done', q) → visit' target q = visit target q) →
    c.compileFields flavor className m visit' fs done p = c.compileFields flavor className m visit fs done p
  | [], _, _, _ => rfl
  | f :: fs, done, p, h => by
    rw [compileFields_step, compileFields_step]
    cases ht : f.kind.target? with
    | none =>
      refine compileFields_congr fs _ p fun before g after target done' q hfs hg hr => ?_
      refine h (f :: before) g after target done' q (by rw [hfs]; rfl) hg ?_
      rw [compileFields_step, ht]
      exact hr
    | some target =>
      have hhead : visit' target p = visit target p := h [] f fs target done p rfl ht rfl
      dsimp only
      rw [hhead]
      cases hvis : visit target p with
      | none => rfl
      | some r =>
        rw [Option.bind_some, Option.bind_some]
        -- `f` is one of the fields before a later one
        refine compileFields_congr fs _ _ fun before g after target' done' q hfs hg hr => ?_
        refine h (f :: before) g after target' done' q (by rw [hfs]; rfl) hg ?_
        rw [compileFields_step, ht]
        dsimp only
        rw [hvis, Option.bind_some]
        exact hr

/-- **A visit asks for its nested visits and for no others**: two functions that agree on these give the same. -/
theorem visitBy_congr (h : ∀ target q, c.Nests flavor (className, p) (target, q) →
    visit target q = c.compileAt flavor c.bound target q) :
    c.visitBy flavor visit className p = c.visitBy flavor (c.compileAt flavor c.bound) className p := by
  unfold visitBy
  cases hm : c.registry.model? className with
  | none => rfl
  | some m =>
    dsimp only
    cases he : m.entity with
    | none => rfl
    | some entity =>
      dsimp only
      cases hget : (p.store.handles flavor).get? (Text.lowercase entity) with
      | some handle => rfl
      | none =>
        dsimp only
        rw [compileFields_congr m.fields [] _ fun before f after target done q hfs hf hr =>
          h target q (.field hm he hget hfs hf hr)]

/-- **Before its first nested visit a visit enters the name of its class**, which had no handle, and the entry stays. -/
theorem Nests.opened {target : String} {q : Pass} (h : c.Nests flavor (className, p) (target, q)) :
    ∃ key ∈ c.keys, c.key? className = some key ∧ (p.store.handles flavor).get? key = none ∧
      (p.store.reserve flavor key).Grows q.store := by
  cases h with
  | @field _ _ entity m _ _ before _ _ done hm he hget _ _ hr =>
    exact ⟨Text.lowercase entity, mem_keys hm he, key?_of_model hm he, hget,
      grows_compileFields (grows_compileAt c flavor c.bound) className m before [] _ done q hr⟩

theorem Nests.pending_lt {target : String} {q : Pass} (h : c.Nests flavor (className, p) (target, q)) :
    c.pending flavor q.store < c.pending flavor p.store := by
  obtain ⟨key, hk, _, hget, hgrows⟩ := h.opened
  have hopen : c.pending flavor (p.store.reserve flavor key) < c.pending flavor p.store := pending_reserve_lt hk hget
  have hsince : c.pending flavor q.store ≤ c.pending flavor (p.store.reserve flavor key) :=
    pending_le_of_extends (hgrows.extends flavor)
  omega

/-- **Visits do not nest for ever**, from whatever store they begin. -/
theorem wellFounded_nests (c : Compiler) (flavor : Flavor) :
    WellFounded fun inner outer => c.Nests flavor outer inner := by
  refine Subrelation.wf ?_ (InvImage.wf (fun v : String × Pass => c.pending flavor v.2.store) Nat.lt_wfRel.wf)
  rintro ⟨target, q⟩ ⟨className, p⟩ h
  exact h.pending_lt

/-! ## Visits that return at once -/

/-- The class is no entity, or its name has a handle, be its type finished or not. -/
def Known (c : Compiler) (flavor : Flavor) (s : TypeStore) (className : String) : Prop :=
  c.key? className = none ∨ (c.link? s flavor className).isSome = true

theorem Known.not_nests (h : c.Known flavor p.store className) (inner : String × Pass) :
    ¬ c.Nests flavor (className, p) inner := by
  intro hn
  obtain ⟨target, q⟩ := inner
  obtain ⟨key, _, hkey, hget, _⟩ := hn.opened
  rcases h with h | h
  · rw [hkey] at h
    cases h
  · unfold link? at h
    rw [hkey, Option.bind_some, hget] at h
    cases h

theorem Known.visitBy (h : c.Known flavor p.store className) (visit : String → Pass → Option (Option Nat × Pass)) :
    c.visitBy flavor visit className p = some (c.link? p.store flavor className, p) := by
  unfold Compiler.visitBy link? key? Registry.entityName?
  cases hm : c.registry.model? className with
  | none => rfl
  | some m =>
    dsimp only [Option.bind_some]
    cases he : m.entity with
    | none => rfl
    | some entity =>
      dsimp only [Option.map_some, Option.bind_some]
      rcases h with h | h
      · rw [key?_of_model hm he] at h
        cases h
      · rw [link?_of_model hm he] at h
        obtain ⟨handle, hget⟩ := Option.isSome_iff_exists.1 h
        rw [hget]

/-- A visit of any other class enters the class's name, which is one of the registry, before all its nested visits. -/
theorem enters_of_not_known (h : ¬ c.Known flavor p.store className) :
    ∃ key ∈ c.keys, c.key? className = some key ∧ (p.store.handles flavor).get? key = none ∧
      ∀ target q, c.Nests flavor (className, p) (target, q) →
        (p.store.handles flavor).entries ++ [(key, p.store.size)] <+: (q.store.handles flavor).entries := by
  obtain ⟨hkey, hlink⟩ := not_or.1 h
  obtain ⟨key, hkey⟩ := Option.ne_none_iff_exists'.1 hkey
  have hget : (p.store.handles flavor).get? key = none := by
    unfold link? at hlink
    rw [hkey, Option.bind_some, Option.not_isSome_iff_eq_none] at hlink
    exact hlink
  obtain ⟨m, hm, entity, he, rfl⟩ : ∃ m, c.registry.model? className = some m ∧
      ∃ entity, m.entity = some entity ∧ Text.lowercase entity = key := by
    obtain ⟨entity, hname, rfl⟩ := Option.map_eq_some_iff.1 hkey
    obtain ⟨m, hm, he⟩ := Option.bind_eq_some_iff.1 hname
    exact ⟨m, hm, entity, he, rfl⟩
  refine ⟨Text.lowercase entity, mem_keys hm he, hkey, hget, fun target q hn => ?_⟩
  obtain ⟨key, _, hkey', _, hgrows⟩ := hn.opened
  have hsame : Text.lowercase entity = key := Option.some.inj (hkey.symm.trans hkey')
  have hkept := hgrows.handles flavor
  rw [← hsame, TypeStore.handles_reserve, Dict.entries_insert_of_get?_eq_none _ hget] at hkept
  exact hkept

/-- **A compilation comes to an end**, whatever the registry and the store it begins with: nesting is well-founded, and
every visit has an answer, which is the same however many visits are granted beyond the pending entities and depends
on no visits but the nested ones. A visit of a known class returns at once and leaves all as it is. Any other enters
one more name of the registry before its nested visits, so that fewer entities are pending in each of them. -/
theorem compile_terminates (c : Compiler) (flavor : Flavor) :
    (WellFounded fun inner outer => c.Nests flavor outer inner) ∧ ∀ className p,
      (∃ answer, c.compileAt flavor c.bound className p = some answer ∧
        (∀ n, c.pending flavor p.store < n → c.compileAt flavor n className p = some answer) ∧
        ∀ visit, (∀ target q, c.Nests flavor (className, p) (target, q) →
          visit target q = c.compileAt flavor c.bound target q) → c.visitBy flavor visit className p = some answer) ∧
      (c.Known flavor p.store className ∧
          (∀ visit, c.visitBy flavor visit className p = some (c.link? p.store flavor className, p)) ∧
          (∀ inner, ¬ c.Nests flavor (className, p) inner) ∨
        ∃ key ∈ c.keys, c.key? className = some key ∧ (p.store.handles flavor).get? key = none ∧
          ∀ target q, c.Nests flavor (className, p) (target, q) →
            (p.store.handles flavor).entries ++ [(key, p.store.size)] <+: (q.store.handles flavor).entries ∧
              c.pending flavor q.store < c.pending flavor p.store) := by
  refine ⟨wellFounded_nests c flavor, fun className p => ⟨?_, ?_⟩⟩
  · obtain ⟨answer, hanswer⟩ := compileAt_eq_of_pending_lt c flavor className p
    have hlt : c.pending flavor p.store < c.bound := pending_lt_bound c flavor p.store
    refine ⟨answer, hanswer c.bound hlt, hanswer, fun visit hvisit => ?_⟩
    rw [visitBy_congr hvisit, ← compileAt_succ]
    exact hanswer (c.bound + 1) (Nat.lt_succ_of_lt hlt)
  · by_cases h : c.Known flavor p.store className
    · exact .inl ⟨h, h.visitBy, h.not_nests⟩
    · obtain ⟨key, hk, hkey, hget, hkept⟩ := enters_of_not_known h
      exact .inr ⟨key, hk, hkey, hget, fun target q hn => ⟨hkept target q hn, hn.pending_lt⟩⟩

/-- From a person's type, which is still without fields, the pet's is visited. -/
example : petCompiler.Nests .output ("Person", ⟨.empty, []⟩) ("Pet", ⟨⟨[none], .ofList [("person", 0)], .empty⟩, []⟩) :=
  @Nests.field _ _ _ _ "Person" _ _ _ [⟨"id", "id", .primaryKey .float⟩, ⟨"fullName", "name", .column .string⟩] []
    ⟨"pet", "pet", .foreignKey "Pet" (some .conventional)⟩ _ rfl rfl rfl rfl rfl rfl

end Compiler

end EntityGraph
