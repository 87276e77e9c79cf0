import EntityGraph.Proofs.Reading.ForeignIds
import EntityGraph.Proofs.Request.Walk
import EntityGraph.Proofs.Schema.Closed
/-!
# What the application is asked to complete

A relation asks the application for an instance at most once for each parent. What it hands over is a stub: an instance
of its target with the id alone, and the parent holds this id under the flat key or in the object under the key of the
relation (`Relation.IsStub`). A parent of any other form gives null and one error in the log, and nobody is asked.

A parent may be whatever a handler returned, or what the application itself completed one level higher. As nothing is
asked of the parent, what holds of one relation holds at every depth, so that in a whole request the application sees
stubs of compiled relations and nothing else (`stubs_handed_over`).
-/

namespace EntityGraph

namespace Relation

variable {r : Registry} {relation : Relation} {parent id : Value} {pk : Field}

/-- The places where a parent may hold an id for the relation. -/
inductive HoldsId (relation : Relation) (pk : Field) (parent id : Value) : Prop
  | flat {column : String} (hcolumn : relation.idColumn = some column) (hid : parent.get? column = some id)
  | nested {related : Value} (hrelated : parent.get? relation.fieldKey = some related)
    (hid : related.get? pk.name = some id ∨ related.get? pk.wireName = some id)

/-- An instance of the relation's target, with nothing set but the target's primary key, to an id of the parent. -/
structure IsStub (r : Registry) (relation : Relation) (parent : Value) (i : Instance) : Prop where
  className : i.className = relation.target
  id : ∃ pk id, r.primaryKey? relation.target = some pk ∧ i.fields = [(pk.name, id)] ∧ id.isNull = false ∧
    relation.HoldsId pk parent id

theorem HoldsId.of_foreignId? (h : Registry.foreignId? pk parent relation.fieldKey relation.idColumn = some id) :
    relation.HoldsId pk parent id ∧ id.isNull = false := by
  unfold Registry.foreignId? at h
  split at h
  · rename_i id' hflat
    cases h
    obtain ⟨column, hcolumn, hpresent⟩ := Option.bind_eq_some_iff.1 hflat
    obtain ⟨hget, hid⟩ := Value.present?_eq_some_iff.1 hpresent
    exact ⟨.flat hcolumn hget, hid⟩
  · obtain ⟨related, hrelated, hnested⟩ := Option.bind_eq_some_iff.1 h
    -- the nested id is present under the name or under the wire name
    rcases Option.or_eq_some_iff.1 (Registry.nestedId?_eq_some_iff.1 hnested).1 with hname | ⟨_, hwire⟩
    · obtain ⟨hget, hid⟩ := Value.present?_eq_some_iff.1 hname
      exact ⟨.nested hrelated (.inl hget), hid⟩
    · obtain ⟨hget, hid⟩ := Value.present?_eq_some_iff.1 hwire
      exact ⟨.nested hrelated (.inr hget), hid⟩

/-- **A relation hands over a stub, or it notes one error.** Which of the two, and which stub, is a matter of the parent
alone and not of the application. -/
theorem resolve_cases (r : Registry) (relation : Relation) (parent : Value) :
    (∃ stub, relation.IsStub r parent stub ∧
      ∀ foreign, relation.resolve r foreign parent = pure ⟨(foreign stub).map Instance.toValue, some stub⟩) ∨
    ∃ d : Diagnostic, d.level = .error ∧
      ∀ foreign, relation.resolve r foreign parent = .noting ⟨none, none⟩ d := by
  unfold resolve Registry.resolveForeignKey
  cases hpk : r.primaryKey? relation.target with
  | none => exact .inr ⟨.targetWithoutPrimaryKey relation.target relation.fieldKey, rfl, fun _ => rfl⟩
  | some pk =>
    dsimp only
    cases hid : Registry.foreignId? pk parent relation.fieldKey relation.idColumn with
    | none => exact .inr ⟨.idNotFound relation.target relation.fieldKey relation.idColumn, rfl, fun _ => rfl⟩
    | some id =>
      obtain ⟨hholds, hpresent⟩ := HoldsId.of_foreignId? hid
      exact .inl ⟨Registry.stub relation.target pk id, ⟨rfl, pk, id, hpk, rfl, hpresent, hholds⟩, fun _ => rfl⟩

/-! ## Within a request -/

/-- What becomes of the field of a relation on a parent. Either the application is asked once, to complete a stub, and
the field is what it answers or else null; or nothing but one error is noted, and the field is null. -/
def RunsOn (r : Registry) (relation : Relation) (field : OutputField) (parent : Value) : Prop :=
  (∃ stub, relation.IsStub r parent stub ∧ ∀ e : Environment, e.registry = r → ∀ complete f path p,
    let asked : Progress := { p with stubs := p.stubs ++ [stub] }
    e.runField complete field f path parent p =
      match e.foreign stub with
      | none => (some (f.responseKey, .null), asked)
      | some i =>
        let completed := complete (path ++ [.key f.responseKey]) i.toValue asked
        (some (f.responseKey, completed.1), completed.2)) ∨
  ∃ d : Diagnostic, d.level = .error ∧ ∀ e : Environment, e.registry = r → ∀ complete f path p,
    e.runField complete field f path parent p = (some (f.responseKey, .null), { p with log := p.log ++ [d] })

theorem runsOn (r : Registry) {field : OutputField} (hsource : field.source = .relation relation)
    (hlist : field.type.list = false) (parent : Value) : relation.RunsOn r field parent := by
  have hvalue : ∀ (e : Environment) supplied p, e.fieldValue field parent supplied p =
      (some (e.resolveRelation relation parent p).1, (e.resolveRelation relation parent p).2) := by
    intro e supplied p
    unfold Environment.fieldValue
    rw [hsource]
  rcases relation.resolve_cases r parent with ⟨stub, hstub, hresolve⟩ | ⟨d, hlevel, hresolve⟩
  · refine .inl ⟨stub, hstub, fun e he complete f path p => ?_⟩
    have hrelation : e.resolveRelation relation parent p =
        ((e.foreign stub).map Instance.toValue, { p with stubs := p.stubs ++ [stub] }) := by
      unfold Environment.resolveRelation Progress.note
      rw [he, hresolve]
      simp
    unfold Environment.runField
    rw [hvalue, hrelation]
    cases e.foreign stub with
    | none => rfl
    | some i =>
      dsimp only [Option.map_some]
      unfold Environment.completeValue
      rw [hlist]
      rfl
  · refine .inr ⟨d, hlevel, fun e he complete f path p => ?_⟩
    have hrelation : e.resolveRelation relation parent p = (none, { p with log := p.log ++ [d] }) := by
      unfold Environment.resolveRelation Progress.note
      rw [he, hresolve]
      simp [Logged.noting]
    unfold Environment.runField
    rw [hvalue, hrelation]
    rfl

end Relation

namespace Environment

variable {e : Environment} {field : OutputField} {p q : Progress}

/-! ## Whole requests -/

/-- A stub of some relation of the schema, for some parent. -/
def MayAsk (e : Environment) (i : Instance) : Prop :=
  ∃ t ∈ e.schema.table.outputs, ∃ field ∈ t.fields, ∃ relation, field.source = .relation relation ∧
    ∃ parent, relation.IsStub e.registry parent i

/-- From `p` to `q` the application was asked for such stubs only. -/
def Asks (e : Environment) (p q : Progress) : Prop :=
  ∃ asked, q.stubs = p.stubs ++ asked ∧ ∀ i ∈ asked, e.MayAsk i

theorem asks_of_stubs_eq (h : q.stubs = p.stubs) : e.Asks p q :=
  ⟨[], by rw [h, List.append_nil], fun _ hi => absurd hi List.not_mem_nil⟩

theorem Asks.refl (e : Environment) (p : Progress) : e.Asks p p := asks_of_stubs_eq rfl

theorem Asks.trans {q' : Progress} (h : e.Asks p q) (h' : e.Asks q q') : e.Asks p q' := by
  obtain ⟨asked, hq, hasked⟩ := h
  obtain ⟨more, hq', hmore⟩ := h'
  refine ⟨asked ++ more, by rw [hq', hq, List.append_assoc], fun i hi => ?_⟩
  rcases List.mem_append.1 hi with hi | hi
  · exact hasked i hi
  · exact hmore i hi

theorem asks_dispatch (e : Environment) (plan : RootPlan) (supplied : List (String × Value)) (p : Progress) :
    e.Asks p (e.dispatch plan supplied p).2 := by
  unfold dispatch
  dsimp only
  split <;> exact asks_of_stubs_eq rfl

/-- A field of a type of the schema asks for a stub only if it is a relation. -/
theorem asks_fieldValue {t : OutputType} (ht : t ∈ e.schema.table.outputs) (hfield : field ∈ t.fields) (parent : Value)
    (supplied : List (String × Value)) (p : Progress) : e.Asks p (e.fieldValue field parent supplied p).2 := by
  unfold fieldValue
  split
  · exact .refl e p
  · rename_i relation hsource
    unfold resolveRelation
    rcases relation.resolve_cases e.registry parent with ⟨stub, hstub, hresolve⟩ | ⟨d, _, hresolve⟩
    · rw [hresolve]
      refine ⟨[stub], rfl, fun i hi => ?_⟩
      rw [List.mem_singleton.1 hi]
      exact ⟨t, ht, field, hfield, relation, hsource, parent, hstub⟩
    · rw [hresolve]
      exact asks_of_stubs_eq (List.append_nil _)
  · exact asks_dispatch e _ supplied p
  · exact .refl e p

theorem keeps_asks (e : Environment) : e.Keeps e.Asks where
  refl := .refl e
  trans := Asks.trans
  fail _ _ := asks_of_stubs_eq rfl
  fieldValue _ ht _ hfield := asks_fieldValue ht hfield

end Environment

/-! ## Relations of a schema -/

namespace TypeStore

variable {s : TypeStore} {type : CompiledType} {g : CompiledField} {handle : Nat} {relation : Relation}

theorem outputField?_of_relation {target : CompiledType} (hg : g.type = .relation handle relation)
    (hget : s.get? handle = some target) :
    s.outputField? type g = pure (some ⟨g.name, .named target.name, .empty, .relation relation⟩) := by
  unfold outputField?
  simp only [hg, hget]

/-- The relations of a type of the schema are those of the compiled type. -/
theorem relation_of_schemaType {t : OutputType} (h : (s.schemaType type).value = .output t) {field : OutputField}
    (hfield : field ∈ t.fields) (hsource : field.source = .relation relation) :
    type.flavor = .output ∧ ∃ g ∈ type.fields, ∃ handle, g.type = .relation handle relation := by
  unfold schemaType at h
  split at h
  · rename_i hflavor
    cases h
    refine ⟨hflavor, ?_⟩
    rcases mem_outputType hfield with rfl | ⟨g, hg, hvalue⟩
    · cases hsource
    · refine ⟨g, hg, ?_⟩
      unfold outputField? at hvalue
      split at hvalue
      · cases hvalue
        cases hsource
      · rename_i handle relation' hg
        split at hvalue
        · cases hvalue
          cases hsource
          exact ⟨handle, hg⟩
        · cases hvalue
  · cases h

end TypeStore

theorem Roots.not_relation {r : Roots} {kind : RootKind} {field : OutputField}
    (hfield : field ∈ (r.outputType kind).fields) {relation : Relation} : field.source ≠ .relation relation := by
  intro hsource
  rcases mem_outputType hfield with rfl | ⟨f, _, rfl⟩
  · cases hsource
  · cases hsource

/-- **The relations of a schema are those of the compiled output types.** -/
theorem Builder.relation_of_build {b : Builder} {schema : Schema} (hschema : b.build.value.1 = .ok schema)
    {t : OutputType} (ht : t ∈ schema.table.outputs) {field : OutputField} (hfield : field ∈ t.fields)
    {relation : Relation} (hsource : field.source = .relation relation) :
    ∃ type ∈ b.build.value.2.store.types, type.flavor = .output ∧
      ∃ g ∈ type.fields, ∃ handle, g.type = .relation handle relation := by
  obtain ⟨htable, _⟩ := Assembly.table_of_toSchema (a := b.assembly) hschema
  rw [htable] at ht
  obtain ⟨t', ht', houtput⟩ := List.mem_filterMap.1 ht
  have heq : t' = .output t := by
    cases t' with
    | output t' => cases houtput; rfl
    | input t' => cases houtput
  rcases List.mem_append.1 (Assembly.mem_of_mem_table ht') with hmem | hmem
  · rw [types_assembly] at hmem
    obtain ⟨type, htype, hvalue⟩ := List.mem_map.1 hmem
    obtain ⟨hflavor, hrelation⟩ := TypeStore.relation_of_schemaType (hvalue.trans heq) hfield hsource
    exact ⟨type, htype, hflavor, hrelation⟩
  · obtain ⟨kind, hkind, _⟩ := Roots.mem_schemaTypes hmem
    cases heq.symm.trans hkind
    exact absurd hsource (Roots.not_relation hfield)

/-- **The application is asked for stubs only.** Every relation of a compiled output type has its field in the schema;
run on a parent of any form, it asks the application at most once, to complete a stub of its target, or else notes one
error and is null. And all that a request on a schema asks for, at any depth, is a stub of such a relation. -/
theorem stubs_handed_over (registry : Registry) :
    (∀ inputPrefix requests,
      let s := (Compiler.mk registry inputPrefix).storeAfter requests
      ∀ type ∈ s.types, type.flavor = .output → ∀ g ∈ type.fields, ∀ handle relation,
        g.type = .relation handle relation → ∃ target field, s.get? handle = some target ∧
          s.outputField? type g = pure (some field) ∧ field.name = g.name ∧ field.type = .named target.name ∧
          ∀ parent, relation.RunsOn registry field parent) ∧
    ∀ settings steps,
      let b := (Builder.new registry settings).run steps
      ∀ e : Environment, e.registry = registry → b.build.value.1 = .ok e.schema → ∀ root selections p,
        ∃ asked, (e.run root selections p).2.stubs = p.stubs ++ asked ∧
          ∀ i ∈ asked, ∃ type ∈ b.build.value.2.store.types, type.flavor = .output ∧
            ∃ g ∈ type.fields, ∃ handle relation, g.type = .relation handle relation ∧
              ∃ parent, relation.IsStub registry parent i := by
  constructor
  · intro inputPrefix requests s type htype _ g hg handle relation hrelation
    obtain ⟨target, htarget⟩ := (Compiler.settled_storeAfter _ requests).resolved htype g hg handle relation hrelation
    exact ⟨target, _, htarget, TypeStore.outputField?_of_relation hrelation htarget, rfl, rfl,
      fun parent => Relation.runsOn registry rfl rfl parent⟩
  · intro settings steps b e hregistry hschema root selections p
    obtain ⟨asked, hstubs, hasked⟩ := (Environment.keeps_asks e).run root selections p
    refine ⟨asked, hstubs, fun i hi => ?_⟩
    obtain ⟨t, ht, field, hfield, relation, hsource, parent, hstub⟩ := hasked i hi
    obtain ⟨type, htype, hflavor, g, hg, handle, hrelation⟩ := Builder.relation_of_build hschema ht hfield hsource
    rw [hregistry] at hstub
    exact ⟨type, htype, hflavor, g, hg, handle, relation, hrelation, parent, hstub⟩

/-! ## A pedigree -/

def pedigreeDeclarations : List Declaration := [
  .entity "Pet" none,
  .field "Pet" "id" (.primaryKey .float) none,
  .field "Pet" "parent" (.foreignKey "Pet" none) none,
  .method "Pets" "youngest" .query none (some (.named "Pet")),
  .handler "Pets" "youngest"
    ⟨none, fun _ response => (.ok (.object [("parent", .object [("id", .number (.int 2))])]), response)⟩]

def pedigreeBuilder : Builder :=
  (Builder.new (.ofDeclarations pedigreeDeclarations) {}).run [.registerResolvers [⟨"Pets", "Pets", ""⟩]]

/-- An application that does not know the parents of anyone. -/
def pedigreeOf (schema : Schema) : Environment :=
  ⟨.ofDeclarations pedigreeDeclarations, schema, fun stub => some (stub.set "parent" (.text "unknown")), none⟩

/-- The youngest pet's parent, and the parent of that one. -/
def grandparent : List Selection :=
  [.branch { name := "youngest" }
    [.branch { name := "parent" } [.branch { name := "parent" } [.leaf { name := "id" }]]]]

/-- The application is asked for the parent, of which there is an id, and not for the parent of that one, for which it
has put a text. -/
theorem parent_asked_for : ∃ schema, pedigreeBuilder.build.value.1 = .ok schema ∧
    let after := ((pedigreeOf schema).run .query grandparent {}).2
    after.stubs.map (fun i => (i.className, i.fieldNames)) = [("Pet", ["id"])] ∧
      after.errors.isEmpty = true ∧ after.log = [.idNotFound "Pet" "parent" none] ∧
      ∀ i ∈ after.stubs, ∃ (relation : Relation) (parent : Value),
        relation.IsStub (.ofDeclarations pedigreeDeclarations) parent i := by
  have hbuilds : pedigreeBuilder.build.value.1.isOk = true := by decide +kernel
  obtain ⟨schema, hschema⟩ : ∃ schema, pedigreeBuilder.build.value.1 = .ok schema := by
    cases hbuilt : pedigreeBuilder.build.value.1 with
    | ok schema => exact ⟨schema, rfl⟩
    | error failure =>
      rw [hbuilt] at hbuilds
      cases hbuilds
  have hrun : ∀ schema ∈ pedigreeBuilder.build.value.1.toOption,
      let after := ((pedigreeOf schema).run .query grandparent {}).2
      after.stubs.map (fun i => (i.className, i.fieldNames)) = [("Pet", ["id"])] ∧
        after.errors.isEmpty = true ∧ after.log = [.idNotFound "Pet" "parent" none] := by decide +kernel
  obtain ⟨hstubs, herrors, hlog⟩ := hrun schema (by rw [hschema]; rfl)
  refine ⟨schema, hschema, hstubs, herrors, hlog, fun i hi => ?_⟩
  obtain ⟨asked, happend, hasked⟩ := (stubs_handed_over (.ofDeclarations pedigreeDeclarations)).2 {}
    [.registerResolvers [⟨"Pets", "Pets", ""⟩]] (pedigreeOf schema) rfl hschema .query grandparent {}
  rw [happend] at hi
  obtain ⟨type, _, _, g, _, handle, relation, _, parent, hstub⟩ := hasked i hi
  exact ⟨relation, parent, hstub⟩

end EntityGraph
