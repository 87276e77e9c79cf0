import EntityGraph.Proofs.Types.Stability
import EntityGraph.Relation
/-!
# What scalar fields read

The scalar fields of an output type are the columns of its model, the primary keys among them
(`scalar_mem_layout_iff`). Such a field reads what its parent has under the name of the column, or else what it has
under the name outside. Handlers may answer with objects of either kind.

On an instance the second reading should find nothing, since what is set there is set under the names of fields. But a
column may be called outside like another field, and then its field gives what that one holds whenever the column
itself is not set. If no column is called so, every field reads its own column and nothing else (`readsOwn_iff`).
-/

namespace EntityGraph

/-- An instance of the model's class, with any of its fields set and nothing else. -/
structure Instance.Of (i : Instance) (m : Model) : Prop where
  className : i.className = m.className
  declared : ∀ name ∈ i.fieldNames, name ∈ m.fields.map (·.name)

/-- The field is called outside like another field of the model. -/
def Model.Crosses (m : Model) (f : Field) : Prop := f.wireName ≠ f.name ∧ f.wireName ∈ m.fields.map (·.name)

instance (m : Model) (f : Field) : Decidable (m.Crosses f) := inferInstanceAs (Decidable (_ ∧ _))

/-- Of every instance of the model each scalar field gives what is set under its own key, and otherwise nothing. -/
def CompiledType.ReadsOwn (type : CompiledType) (m : Model) : Prop :=
  ∀ g ∈ type.fields, ∀ scalar, g.type = .scalar scalar → ∀ i : Instance, i.Of m → g.read? i.toValue = i.get? g.key

/-! ## Reading an instance -/

theorem CompiledField.read?_toValue (g : CompiledField) (i : Instance) :
    g.read? i.toValue = (i.get? g.key).or (i.get? g.name) := by
  have hget : ∀ key, i.toValue.get? key = i.get? key := fun _ => rfl
  unfold read?
  rw [hget, hget]
  cases i.get? g.key <;> rfl

theorem Instance.Of.read?_column {i : Instance} {m : Model} (hi : i.Of m) (f : Field) (type : CompiledFieldType) :
    CompiledField.read? ⟨f.wireName, f.name, type⟩ i.toValue =
      (i.get? f.name).or (if m.Crosses f then i.get? f.wireName else none) := by
  rw [CompiledField.read?_toValue]
  split
  · rfl
  · rename_i hno
    cases hname : i.get? f.name with
    | some v => rfl
    | none =>
      by_cases hsame : f.wireName = f.name
      · rw [hsame, hname]
      · have hunset : i.get? f.wireName = none :=
          (Entries.get?_eq_none_iff _ _).2 fun hmem => hno ⟨hsame, hi.declared _ hmem⟩
        rw [hunset]

namespace Compiler

variable {c : Compiler} {m : Model} {link : String → Option Nat} {g : CompiledField} {scalar : Scalar}

/-! ## Scalar fields of output types -/

theorem scalar_mem_fieldLayout {done : List CompiledField} {f : Field} (h : g ∈ c.fieldLayout .output m link done f)
    (hg : g.type = .scalar scalar) : f.kind.scalar? = some scalar ∧ g = ⟨f.wireName, f.name, .scalar scalar⟩ := by
  unfold fieldLayout at h
  cases hk : f.kind with
  | primaryKey s =>
    rw [hk] at h
    obtain rfl := List.mem_singleton.1 h
    cases hg
    exact ⟨rfl, rfl⟩
  | column s =>
    rw [hk] at h
    obtain rfl := List.mem_singleton.1 h
    cases hg
    exact ⟨rfl, rfl⟩
  | foreignKey target idColumn =>
    -- an output type has the relation only
    rw [hk] at h
    dsimp only at h
    split at h
    · cases h
    · unfold relationFields at h
      rw [List.mem_singleton.1 h] at hg
      cases hg

/-- **The scalar fields of an output type are the columns** of its model. -/
theorem scalar_mem_layout_iff : (g ∈ c.layout .output m link m.fields [] ∧ g.type = .scalar scalar) ↔
    ∃ f ∈ m.fields, f.kind.scalar? = some scalar ∧ g = ⟨f.wireName, f.name, .scalar scalar⟩ := by
  constructor
  · rintro ⟨hg, htype⟩
    rcases mem_layout m.fields [] hg with hd | ⟨f, hf, done, hg⟩
    · cases hd
    · exact ⟨f, hf, scalar_mem_fieldLayout hg htype⟩
  · rintro ⟨f, hf, hscalar, rfl⟩
    exact ⟨column_mem_layout hf hscalar, rfl⟩

/-- The output type of a class is made from a model, perhaps that of another class with the same entity name. -/
theorem Settled.layout_of_lookup? {s : TypeStore} (h : c.Settled s) {className : String} {type : CompiledType}
    (hl : c.lookup? s className .output = some type) : ∃ own link, c.registry.model? type.className = some own ∧
      type.fields = c.layout .output own link own.fields [] := by
  obtain ⟨hmem, hflavor, _⟩ := (h.lookup?_eq_some_iff (q := ⟨.output, className⟩)).1 hl
  obtain ⟨i, hi⟩ := TypeStore.mem_types_iff.1 hmem
  obtain ⟨_, own, entity, hmade⟩ := h.filled_of_get? hi
  have hfields := hmade.fields
  rw [hflavor] at hfields
  exact ⟨own, _, hmade.model, hfields⟩

/-- **Each scalar field of a compiled type gives its own column and nothing else** just when no column of the type is
called outside like another field of the instances. Where one is, its field gives what that other field holds if the
column is not set. -/
theorem readsOwn_iff (c : Compiler) (requests : List TypeRequest) {className : String} {type : CompiledType}
    (hl : c.lookup? (c.storeAfter requests) className .output = some type) (m : Model) :
    ∃ own, c.registry.model? type.className = some own ∧
      (type.ReadsOwn m ↔ ∀ f ∈ own.fields, f.kind.isForeignKey = false → ¬ m.Crosses f) ∧
      ∀ g ∈ type.fields, ∀ scalar, g.type = .scalar scalar →
        ∃ f ∈ own.fields, f.kind.scalar? = some scalar ∧ g.name = f.wireName ∧ g.key = f.name ∧
          ∀ i : Instance, i.Of m →
            g.read? i.toValue = (i.get? f.name).or (if m.Crosses f then i.get? f.wireName else none) := by
  obtain ⟨own, link, hown, hfields⟩ := (settled_storeAfter c requests).layout_of_lookup? hl
  have hscalar : ∀ g scalar, (g ∈ type.fields ∧ g.type = .scalar scalar) ↔
      ∃ f ∈ own.fields, f.kind.scalar? = some scalar ∧ g = ⟨f.wireName, f.name, .scalar scalar⟩ := by
    intro g scalar
    rw [hfields]
    exact scalar_mem_layout_iff
  refine ⟨own, hown, ⟨fun hreads f hf hk hcross => ?_, fun hno g hg scalar htype i hi => ?_⟩,
    fun g hg scalar htype => ?_⟩
  · -- an instance with nothing set but the field that the column is called like
    let i : Instance := ⟨m.className, [(f.wireName, .boolean true)]⟩
    have hi : i.Of m := ⟨rfl, fun name hname => by rw [List.mem_singleton.1 hname]; exact hcross.2⟩
    obtain ⟨scalar, hs⟩ := f.kind.exists_scalar?_iff.2 hk
    obtain ⟨hg, htype⟩ := (hscalar ⟨f.wireName, f.name, .scalar scalar⟩ scalar).2 ⟨f, hf, hs, rfl⟩
    have hread := hreads _ hg scalar htype i hi
    have hunset : i.get? f.name = none := if_neg hcross.1
    have hset : i.get? f.wireName = some (.boolean true) := if_pos rfl
    rw [hi.read?_column, if_pos hcross, hunset, hset] at hread
    cases hread
  · obtain ⟨f, hf, hs, rfl⟩ := (hscalar g scalar).1 ⟨hg, htype⟩
    have hk : f.kind.isForeignKey = false := f.kind.exists_scalar?_iff.1 ⟨scalar, hs⟩
    rw [hi.read?_column, if_neg (hno f hf hk), Option.or_none]
  · obtain ⟨f, hf, hs, rfl⟩ := (hscalar g scalar).1 ⟨hg, htype⟩
    exact ⟨f, hf, hs, rfl, rfl, fun i hi => hi.read?_column f _⟩

/-- The full name of a person is called `name` outside. No field of persons has that name, so each scalar field gives
its own column. -/
theorem persons_read_own : ∃ m type, petCompiler.registry.model? "Person" = some m ∧
    petCompiler.lookup? (petCompiler.storeAfter [⟨.output, "Pet"⟩]) "Person" .output = some type ∧
    type.fieldNames = ["id", "name", "pet"] ∧ type.ReadsOwn m := by
  obtain ⟨m, hm⟩ : ∃ m, petCompiler.registry.model? "Person" = some m := ⟨_, rfl⟩
  have hl : (petCompiler.lookup? (petCompiler.storeAfter [⟨.output, "Pet"⟩]) "Person" .output).map
      (fun type => (type.className, type.fieldNames)) = some ("Person", ["id", "name", "pet"]) := by decide
  obtain ⟨type, htype, hshape⟩ := Option.map_eq_some_iff.1 hl
  obtain ⟨hclass, hnames⟩ := Prod.mk.inj hshape
  obtain ⟨own, hown, hreads, _⟩ := readsOwn_iff petCompiler [⟨.output, "Pet"⟩] htype m
  obtain rfl : own = m := Option.some.inj ((hclass ▸ hown).symm.trans hm)
  have hno : ∀ m' ∈ petCompiler.registry.model? "Person", ∀ f ∈ m'.fields,
      f.kind.isForeignKey = false → ¬ m'.Crosses f := by decide
  exact ⟨own, type, hm, htype, hnames, hreads.2 (hno own hm)⟩

/-! ## A column called like another -/

/-- A person's nickname is called `name` outside, and the name is called something else. -/
def nicknameDeclarations : List Declaration := [
  .entity "Person" none,
  .field "Person" "nickname" (.column .string) (some "name"),
  .field "Person" "name" (.column .string) (some "fullName")]

/-- A person without a nickname is given the name for it, although no two fields have one name outside. -/
theorem name_read_as_nickname :
    let c : Compiler := ⟨.ofDeclarations nicknameDeclarations, "input"⟩
    let i : Instance := ⟨"Person", [("name", .text "Ann")]⟩
    let g : CompiledField := ⟨"name", "nickname", .scalar .string⟩
    ∃ m type, c.registry.model? "Person" = some m ∧ (m.fields.map (·.wireName)).Nodup ∧ i.Of m ∧
      c.lookup? (c.storeAfter [⟨.output, "Person"⟩]) "Person" .output = some type ∧ g ∈ type.fields ∧
      i.get? g.key = none ∧ g.read? i.toValue = some (.text "Ann") := by
  intro c i g
  refine ⟨_, _, rfl, ?_, ⟨rfl, ?_⟩, rfl, ?_, rfl, rfl⟩
  · decide
  · decide
  · decide

end Compiler

end EntityGraph
