import EntityGraph.Proofs.Registry.References
import EntityGraph.Types.Compile
/-!
# Which fields a type gets

Compiling a model's fields visits the targets of its foreign keys, but the fields themselves depend only on the
handles that these targets have got. `layout` gives the fields when the handles are known. It reads the link of each
target and nothing else (`layout_congr`), and every relation in it leads where the link says
(`link_of_mem_layout`).
-/

namespace EntityGraph

theorem FieldKind.exists_scalar?_iff (k : FieldKind) :
    (∃ scalar, k.scalar? = some scalar) ↔ k.isForeignKey = false := by
  cases k <;> simp [scalar?, isForeignKey]

namespace Compiler

variable {c : Compiler} {flavor : Flavor} {m : Model} {link link' : String → Option Nat}

/-- The handle under which a class's type of a flavor is entered, be it finished or not. -/
def link? (c : Compiler) (s : TypeStore) (flavor : Flavor) (className : String) : Option Nat :=
  (c.key? className).bind (s.handles flavor).get?

/-- What a field adds to the compiled fields that are `done`, when each class is linked to a handle or to none. -/
def fieldLayout (c : Compiler) (flavor : Flavor) (m : Model) (link : String → Option Nat)
    (done : List CompiledField) (f : Field) : List CompiledField :=
  match f.kind with
  | .primaryKey s => [⟨f.wireName, f.name, .scalar s⟩]
  | .column s => [⟨f.wireName, f.name, .scalar s⟩]
  | .foreignKey target idColumn =>
    match link target with
    | none => []
    | some handle => c.relationFields flavor m done f target idColumn handle

def layout (c : Compiler) (flavor : Flavor) (m : Model) (link : String → Option Nat) :
    List Field → List CompiledField → List CompiledField
  | [], done => done
  | f :: fs, done => c.layout flavor m link fs (done ++ c.fieldLayout flavor m link done f)

/-! ## What a layout reads -/

theorem fieldLayout_congr {f : Field} (h : ∀ target, f.kind.target? = some target → link target = link' target)
    (done : List CompiledField) : c.fieldLayout flavor m link done f = c.fieldLayout flavor m link' done f := by
  unfold fieldLayout
  cases hk : f.kind with
  | primaryKey s => rfl
  | column s => rfl
  | foreignKey target idColumn => simp only [h target (by rw [hk]; rfl)]

theorem layout_congr : ∀ (fs : List Field) (done : List CompiledField),
    (∀ f ∈ fs, ∀ target, f.kind.target? = some target → link target = link' target) →
      c.layout flavor m link fs done = c.layout flavor m link' fs done
  | [], _, _ => rfl
  | f :: fs, done, h => by
    unfold layout
    rw [fieldLayout_congr (h f List.mem_cons_self), layout_congr fs _ fun g hg => h g (List.mem_cons_of_mem _ hg)]

/-! ## Where fields come from -/

/-- Beside its relation a foreign key adds the scalar of its flat key at most. -/
theorem mem_relationFields {done : List CompiledField} {f : Field} {target : String} {idColumn : Option IdColumn}
    {handle : Nat} {g : CompiledField} (h : g ∈ c.relationFields flavor m done f target idColumn handle) :
    g = ⟨f.wireName, f.name, .relation handle ⟨target, f.name, idColumn.bind (c.registry.flatIdKey? target)⟩⟩ ∨
      ∃ key s, idColumn.bind (c.registry.flatIdKey? target) = some key ∧
        (c.registry.primaryKey? target).bind (·.kind.scalar?) = some s ∧ g = ⟨key, key, .scalar s⟩ := by
  unfold relationFields at h
  dsimp only at h
  split at h
  · rename_i key hk
    rcases List.mem_cons.1 h with rfl | hflat
    · exact .inl rfl
    · unfold flatField? at hflat
      split at hflat
      · cases hflat
      · rw [Option.mem_toList, Option.map_eq_some_iff] at hflat
        obtain ⟨s, hs, rfl⟩ := hflat
        exact .inr ⟨key, s, hk, hs, rfl⟩
  · exact .inl (List.mem_singleton.1 h)

/-- A field of a layout was there before, or a field of the model added it. -/
theorem mem_layout {g : CompiledField} : ∀ (fs : List Field) (done : List CompiledField),
    g ∈ c.layout flavor m link fs done →
      g ∈ done ∨ ∃ f ∈ fs, ∃ done', g ∈ c.fieldLayout flavor m link done' f
  | [], _, h => .inl h
  | f :: fs, done, h => by
    rcases mem_layout fs _ h with hd | ⟨f', hf', done', hg⟩
    · rcases List.mem_append.1 hd with hd | hg
      · exact .inl hd
      · exact .inr ⟨f, List.mem_cons_self, done, hg⟩
    · exact .inr ⟨f', List.mem_cons_of_mem _ hf', done', hg⟩

theorem mem_layout_of_mem {g : CompiledField} : ∀ (fs : List Field) {done : List CompiledField}, g ∈ done →
    g ∈ c.layout flavor m link fs done
  | [], _, h => h
  | _ :: fs, _, h => mem_layout_of_mem fs (List.mem_append_left _ h)

/-- What a field of the model adds, it adds to something done before. -/
theorem mem_layout_of_mem_fieldLayout {f : Field} {p : CompiledField → Prop}
    (hp : ∀ done, ∃ g ∈ done ++ c.fieldLayout flavor m link done f, p g) :
    ∀ (fs : List Field) (done : List CompiledField), f ∈ fs → ∃ g ∈ c.layout flavor m link fs done, p g
  | f' :: fs, done, h => by
    unfold layout
    rcases List.mem_cons.1 h with rfl | h
    · obtain ⟨g, hg, hpg⟩ := hp done
      exact ⟨g, mem_layout_of_mem fs hg, hpg⟩
    · exact mem_layout_of_mem_fieldLayout hp fs _ h

/-- **A column is a field of every layout** of its model. -/
theorem column_mem_layout {f : Field} {scalar : Scalar} (hf : f ∈ m.fields) (hscalar : f.kind.scalar? = some scalar) :
    ⟨f.wireName, f.name, .scalar scalar⟩ ∈ c.layout flavor m link m.fields [] := by
  have hadded : ∀ done, ∃ g ∈ done ++ c.fieldLayout flavor m link done f,
      g = ⟨f.wireName, f.name, .scalar scalar⟩ := by
    intro done
    refine ⟨_, List.mem_append_right _ ?_, rfl⟩
    unfold fieldLayout
    cases hk : f.kind with
    | foreignKey target idColumn => rw [hk] at hscalar; cases hscalar
    | _ => rw [hk] at hscalar; cases hscalar; exact List.mem_cons_self
  obtain ⟨g, hg, rfl⟩ := mem_layout_of_mem_fieldLayout hadded m.fields [] hf
  exact hg

/-! ## Relations -/

/-- A relation leads to the handle of its target, and bears the names of its foreign key. -/
theorem relation_of_mem_fieldLayout {done : List CompiledField} {f : Field} {g : CompiledField} {handle : Nat}
    {r : Relation} (h : g ∈ c.fieldLayout flavor m link done f) (ht : g.type = .relation handle r) :
    link r.target = some handle ∧ g.name = f.wireName ∧ g.key = f.name ∧ r.fieldKey = f.name := by
  unfold fieldLayout at h
  cases hk : f.kind with
  | primaryKey s => rw [hk] at h; rw [List.mem_singleton.1 h] at ht; cases ht
  | column s => rw [hk] at h; rw [List.mem_singleton.1 h] at ht; cases ht
  | foreignKey target idColumn =>
    rw [hk] at h
    dsimp only at h
    split at h
    · cases h
    · rename_i handle' hl
      rcases mem_relationFields h with rfl | ⟨key, s, _, _, rfl⟩
      · cases ht
        exact ⟨hl, rfl, rfl, rfl⟩
      · cases ht

theorem relation_of_mem_layout {fs : List Field} {g : CompiledField} {handle : Nat} {r : Relation}
    (h : g ∈ c.layout flavor m link fs []) (ht : g.type = .relation handle r) :
    ∃ f ∈ fs, link r.target = some handle ∧ g.name = f.wireName ∧ g.key = f.name ∧ r.fieldKey = f.name := by
  rcases mem_layout fs [] h with hd | ⟨f, hf, done, hg⟩
  · cases hd
  · exact ⟨f, hf, relation_of_mem_fieldLayout hg ht⟩

/-- **Every relation leads to the handle that its target is linked to.** -/
theorem link_of_mem_layout {fs : List Field} {g : CompiledField} {handle : Nat} {r : Relation}
    (h : g ∈ c.layout flavor m link fs []) (ht : g.type = .relation handle r) : link r.target = some handle := by
  obtain ⟨_, _, hl, _⟩ := relation_of_mem_layout h ht
  exact hl

end Compiler

end EntityGraph
