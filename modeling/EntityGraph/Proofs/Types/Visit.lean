import EntityGraph.Proofs.Types.Made
/-!
# What a visit does

A visit may be made in the middle of other compilations, when slots are still empty. It adds finished types only,
each of a class that the visited one leads to, and gives the handle that the class is linked to afterwards (`Visits`).
The slot that it opens itself is filled when it ends, so that it leaves no more empty slots than it found.
`visits_compileAt` proves this for any number of nested visits, and `compile_spec` for a whole compilation.

`compileFields_cons` and `visitBy_cases` say once what one step does; nothing below them unfolds the compiler.
-/

namespace EntityGraph

namespace Compiler

variable {c : Compiler} {flavor : Flavor}

/-! ## One step -/

/-- A note on a foreign key without a target type, and none on any other. -/
def noteOmitted (className : String) (f : Field) (target : String) (handle : Option Nat) (p : Pass) : Pass :=
  match handle with
  | none => p.note (.foreignKeyOmitted className f.name target)
  | some _ => p

@[simp] theorem store_noteOmitted (className : String) (f : Field) (target : String) (handle : Option Nat)
    (p : Pass) : (noteOmitted className f target handle p).store = p.store := by
  cases handle <;> rfl

/-- A field visits its target, if it has one, and adds its layout under the handle that this gives. -/
theorem compileFields_cons {visit : String → Pass → Option (Option Nat × Pass)} {className : String} {m : Model}
    {f : Field} {fs : List Field} {done fields : List CompiledField} {p q : Pass}
    (h : c.compileFields flavor className m visit (f :: fs) done p = some (fields, q)) :
    (f.kind.target? = none ∧
      c.compileFields flavor className m visit fs (done ++ c.fieldLayout flavor m (fun _ => none) done f) p =
        some (fields, q)) ∨
    ∃ target handle p', f.kind.target? = some target ∧ visit target p = some (handle, p') ∧
      c.compileFields flavor className m visit fs (done ++ c.fieldLayout flavor m (fun _ => handle) done f)
        (noteOmitted className f target handle p') = some (fields, q) := by
  unfold compileFields at h
  unfold fieldLayout
  cases hk : f.kind with
  | primaryKey s =>
    simp only [hk] at h
    exact .inl ⟨rfl, h⟩
  | column s =>
    simp only [hk] at h
    exact .inl ⟨rfl, h⟩
  | foreignKey target idColumn =>
    simp only [hk] at h
    cases hvis : visit target p with
    | none => simp only [hvis] at h; cases h
    | some answer =>
      obtain ⟨handle, p'⟩ := answer
      refine .inr ⟨target, handle, p', rfl, hvis, ?_⟩
      simp only [hvis] at h
      cases handle with
      | none => rw [List.append_nil]; exact h
      | some handle => exact h

/-- A visit finds no entity, or the entity's handle, or else makes the type. -/
theorem visitBy_cases {visit : String → Pass → Option (Option Nat × Pass)} {className : String} {p q : Pass}
    {handle : Option Nat} (h : c.visitBy flavor visit className p = some (handle, q)) :
    (c.key? className = none ∧ handle = none ∧ q = p) ∨
    (∃ known, c.link? p.store flavor className = some known ∧ handle = some known ∧ q = p) ∨
    ∃ m entity fields p', c.registry.model? className = some m ∧ m.entity = some entity ∧
      (p.store.handles flavor).get? (Text.lowercase entity) = none ∧
      c.compileFields flavor className m visit m.fields []
        { p with store := p.store.reserve flavor (Text.lowercase entity) } = some (fields, p') ∧
      handle = some p.store.size ∧
      q = { p' with store :=
        p'.store.finish ⟨p.store.size, c.typeName flavor entity, className, flavor, fields⟩ } := by
  unfold visitBy at h
  split at h
  · rename_i hm
    cases h
    exact .inl ⟨by unfold key? Registry.entityName?; rw [hm]; rfl, rfl, rfl⟩
  · rename_i m hm
    split at h
    · rename_i he
      cases h
      exact .inl ⟨by unfold key? Registry.entityName?; rw [hm, Option.bind_some, he]; rfl, rfl, rfl⟩
    · rename_i entity he
      split at h
      · rename_i known hget
        cases h
        exact .inr (.inl ⟨known, (link?_of_model hm he).trans hget, rfl, rfl⟩)
      · rename_i hget
        dsimp only at h
        split at h
        · cases h
        · rename_i fields p' hr
          cases h
          exact .inr (.inr ⟨m, entity, fields, p', hm, he, hget, hr, rfl, rfl⟩)

/-! ## Whole visits -/

/-- What is asked of a visit that comes to an end. -/
def Visits (c : Compiler) (flavor : Flavor) (visit : String → Pass → Option (Option Nat × Pass)) : Prop :=
  ∀ className p handle q, visit className p = some (handle, q) → p.store.Numbered →
    c.Adds flavor (fun a => a = className ∧ c.registry.IsEntity a) p.store q.store ∧
      handle = c.link? q.store flavor className ∧ handle.isSome = (c.key? className).isSome

/-- The fields of a model are its layout under the links that the visits leave. -/
theorem compileFields_spec {visit : String → Pass → Option (Option Nat × Pass)} (hv : c.Visits flavor visit)
    (className : String) (m : Model) : ∀ (fs : List Field) (done : List CompiledField) (p : Pass)
      (fields : List CompiledField) (q : Pass),
      c.compileFields flavor className m visit fs done p = some (fields, q) → p.store.Numbered →
        c.Adds flavor (c.IsTarget fs) p.store q.store ∧ c.Linked q.store flavor fs ∧
          fields = c.layout flavor m (c.link? q.store flavor) fs done
  | [], done, p, fields, q, h, hn => by
    cases h
    exact ⟨.refl hn, fun f hf => absurd hf List.not_mem_nil, rfl⟩
  | f :: fs, done, p, fields, q, h, hn => by
    rcases compileFields_cons h with ⟨ht, h⟩ | ⟨target, handle, p', ht, hvis, h⟩
    · obtain ⟨hadds, hlinked, hfields⟩ := compileFields_spec hv className m fs _ p fields q h hn
      refine ⟨hadds.mono fun a => IsTarget.cons, List.forall_mem_cons.2 ⟨fun target ht' => ?_, hlinked⟩, ?_⟩
      · rw [ht] at ht'
        cases ht'
      · rw [hfields, layout, fieldLayout_congr fun target ht' => ?_]
        rw [ht] at ht'
        cases ht'
    · obtain ⟨hadds, hhandle, hsome⟩ := hv target p handle p' hvis hn
      obtain ⟨hadds', hlinked, hfields⟩ :=
        compileFields_spec hv className m fs _ _ fields q h (by rw [store_noteOmitted]; exact hadds.numbered)
      rw [store_noteOmitted] at hadds'
      -- The rest of the fields leaves the target's link as the visit made it.
      have hlink : c.link? q.store flavor target = handle := by
        rw [hhandle] at hsome ⊢
        exact link?_eq_of_grown (hadds'.grows.handles flavor) hsome
      refine ⟨(hadds.mono fun a ha => ?_).trans (hadds'.mono fun a => IsTarget.cons),
        List.forall_mem_cons.2 ⟨fun target' ht' => ?_, hlinked⟩, ?_⟩
      · exact ⟨ha.2, f, List.mem_cons_self, by rw [ha.1, ht]⟩
      · rw [ht] at ht'
        cases ht'
        rw [hlink, hsome]
      · rw [hfields, layout, fieldLayout_congr fun target' ht' => ?_]
        rw [ht] at ht'
        cases ht'
        exact hlink.symm

/-- **Every visit, however deep it may nest, adds finished types only** and gives the link of its class. -/
theorem visits_compileAt (c : Compiler) (flavor : Flavor) : ∀ n, c.Visits flavor (c.compileAt flavor n)
  | 0, _, _, _, _, h, _ => by cases h
  | n + 1, className, p, handle, q, h, hn => by
    rcases visitBy_cases h with ⟨hk, rfl, rfl⟩ | ⟨known, hl, rfl, rfl⟩ |
      ⟨m, entity, fields, p', hm, he, hget, hr, rfl, rfl⟩
    · refine ⟨.refl hn, ?_, by rw [hk]; rfl⟩
      unfold link?
      rw [hk]
      rfl
    · refine ⟨.refl hn, hl.symm, ?_⟩
      obtain ⟨key, hk, _⟩ := Option.bind_eq_some_iff.1 hl
      rw [hk]
      rfl
    · obtain ⟨hadds, hlinked, hfields⟩ :=
        compileFields_spec (visits_compileAt c flavor n) className m m.fields [] _ fields p' hr (hn.reserve hget)
      dsimp only at hadds
      have hentry : (p'.store.handles flavor).get? (Text.lowercase entity) = some p.store.size :=
        hadds.grows.get?_handles (by rw [TypeStore.get?_handles_reserve, if_pos ⟨rfl, rfl⟩])
      have hmade : c.MadeFrom p'.store m entity ⟨p.store.size, c.typeName flavor entity, className, flavor, fields⟩ :=
        ⟨hm, he, hentry, rfl, hlinked, hfields⟩
      refine ⟨hadds.enclose hget hmade rfl rfl, ?_, by rw [key?_of_model hm he]; rfl⟩
      rw [link?_of_model hm he, TypeStore.handles_finish, hentry]

/-! ## Whole compilations -/

theorem compile_spec (c : Compiler) (flavor : Flavor) (className : String) {s : TypeStore} (hs : s.Numbered) :
    c.Adds flavor (fun a => a = className ∧ c.registry.IsEntity a) s (c.compile flavor className s).value.2 ∧
      (c.compile flavor className s).value.1 = c.link? (c.compile flavor className s).value.2 flavor className ∧
      (c.compile flavor className s).value.1.isSome = (c.key? className).isSome := by
  obtain ⟨handle, q, hr⟩ := c.compileAt_bound flavor className ⟨s, []⟩
  unfold compile
  rw [hr]
  exact visits_compileAt c flavor c.bound className _ handle q hr hs

end Compiler

end EntityGraph
