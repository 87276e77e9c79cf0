import EntityGraph.Config
import EntityGraph.Proofs.KeyedLog
import EntityGraph.Proofs.Schema.Closed
/-!
# Whether a type's name is its own

A schema knows its types by name, and a second type of one name replaces the first. Types of one flavor never meet:
their entities have different names, even in lower case. An output type is called like its entity and an input type
gets the prefix in front, and nothing keeps an entity from having a name that begins with the prefix. So two types have
one name just when the prefix and the name of the one's entity make up the name of the other's (`Clash`), and only then
is a type lost (`name_eq_iff_clash`).
-/

namespace EntityGraph

/-! ## Entering types by name -/

theorem TypeTable.values_ofTypes_eq_iff (types : List SchemaType) :
    (TypeTable.ofTypes types).values = types ↔ (types.map (·.name)).Nodup := by
  unfold TypeTable.ofTypes
  have hfst : (types.map fun t => (t.name, t)).map Prod.fst = types.map (·.name) := by simp
  constructor
  · intro h
    -- every entry stands under the name of its type, so that the table's keys are the names
    have hkeys : (Dict.ofList (types.map fun t => (t.name, t))).keys = types.map (·.name) := by
      conv => rhs; rw [← h]
      unfold Dict.keys Entries.keys Dict.values
      rw [List.map_map]
      refine List.map_congr_left fun e he => ?_
      obtain ⟨t, _, rfl⟩ := List.mem_map.1 (Entries.mem_ofList he)
      rfl
    rw [← hkeys]
    exact (Dict.ofList _).distinct
  · intro h
    have hentries : (Dict.ofList (types.map fun t => (t.name, t))).entries = types.map fun t => (t.name, t) :=
      Entries.ofList_of_nodup _ (by rw [hfst]; exact h)
    unfold Dict.values
    rw [hentries, List.map_map]
    exact List.map_id' types

/-! ## Names of compiled types -/

namespace Compiler

variable {c : Compiler} {s : TypeStore} {i j : Nat} {a b : CompiledType}

/-- The input type `b` is called like the output type `a`: the prefix and the name of its entity make up the name of
the other's. -/
def Clash (c : Compiler) (a b : CompiledType) : Prop :=
  a.flavor = .output ∧ b.flavor = .input ∧ ∃ entity, c.registry.entityName? b.className = some entity ∧
    c.registry.entityName? a.className = some (c.inputPrefix ++ entity)

theorem MadeFrom.entityName? {m : Model} {entity : String} {type : CompiledType} (hm : c.MadeFrom s m entity type) :
    c.registry.entityName? type.className = some entity := by
  unfold Registry.entityName?
  rw [hm.model, Option.bind_some, hm.isEntity]

/-- A finished type is called after its entity, which has its entry. -/
theorem Settled.named (h : c.Settled s) (ha : s.get? i = some a) : ∃ entity,
    c.registry.entityName? a.className = some entity ∧ a.name = c.typeName a.flavor entity ∧
      (s.handles a.flavor).get? (Text.lowercase entity) = some i := by
  obtain ⟨rfl, m, entity, hm⟩ := h.filled_of_get? ha
  exact ⟨entity, hm.entityName?, hm.name, hm.entry⟩

theorem typeName_inj (c : Compiler) (flavor : Flavor) {x y : String}
    (h : c.typeName flavor x = c.typeName flavor y) : x = y := by
  cases flavor with
  | output => exact h
  | input => exact (String.append_right_inj _).1 h

/-- **Types of one flavor never have the same name.** -/
theorem Settled.eq_of_flavor_of_name (h : c.Settled s) (ha : s.get? i = some a) (hb : s.get? j = some b)
    (hflavor : a.flavor = b.flavor) (hname : a.name = b.name) : i = j := by
  obtain ⟨x, _, hax, hx⟩ := h.named ha
  obtain ⟨y, _, hby, hy⟩ := h.named hb
  have hxy : x = y := by
    refine typeName_inj c b.flavor ?_
    rw [← hby, ← hname, hax, hflavor]
  rw [hflavor, hxy, hy] at hx
  exact (Option.some.inj hx).symm

theorem Settled.name_eq_iff_clash_of_flavor (h : c.Settled s) (ha : s.get? i = some a) (hb : s.get? j = some b)
    (hout : a.flavor = .output) (hin : b.flavor = .input) : a.name = b.name ↔ c.Clash a b := by
  obtain ⟨x, hax, hxname, _⟩ := h.named ha
  obtain ⟨y, hby, hyname, _⟩ := h.named hb
  rw [hxname, hyname, hout, hin]
  constructor
  · intro hxy
    exact ⟨hout, hin, y, hby, by rw [hax]; exact congrArg some hxy⟩
  · rintro ⟨_, _, entity, hentity, hprefixed⟩
    rw [hby] at hentity
    cases hentity
    rw [hax] at hprefixed
    exact Option.some.inj hprefixed

/-- **Two types have one name just when they are the same type or clash.** -/
theorem Settled.name_eq_iff (h : c.Settled s) (ha : s.get? i = some a) (hb : s.get? j = some b) :
    a.name = b.name ↔ i = j ∨ c.Clash a b ∨ c.Clash b a := by
  constructor
  · intro hname
    by_cases hflavor : a.flavor = b.flavor
    · exact .inl (h.eq_of_flavor_of_name ha hb hflavor hname)
    · right
      cases hfa : a.flavor <;> cases hfb : b.flavor
      · exact absurd (hfa.trans hfb.symm) hflavor
      · exact .inl ((h.name_eq_iff_clash_of_flavor ha hb hfa hfb).1 hname)
      · exact .inr ((h.name_eq_iff_clash_of_flavor hb ha hfb hfa).1 hname.symm)
      · exact absurd (hfa.trans hfb.symm) hflavor
  · rintro (rfl | hc | hc)
    · rw [ha] at hb
      cases hb
      rfl
    · exact (h.name_eq_iff_clash_of_flavor ha hb hc.1 hc.2.1).2 hc
    · exact ((h.name_eq_iff_clash_of_flavor hb ha hc.1 hc.2.1).2 hc).symm

/-- With a prefix that is a name, no type clashes with one of its own entity. -/
theorem Clash.entityName?_ne (hc : c.Clash a b) (hvalid : Text.isGraphName c.inputPrefix = true) :
    c.registry.entityName? a.className ≠ c.registry.entityName? b.className := by
  obtain ⟨_, _, entity, hb, ha⟩ := hc
  rw [ha, hb]
  intro heq
  have hnil : c.inputPrefix = "" :=
    (String.append_left_inj entity).1 (by rw [Option.some.inj heq, String.empty_append])
  rw [hnil] at hvalid
  cases hvalid

/-! ## Keeping every type -/

theorem Settled.nodup_names_iff (h : c.Settled s) :
    (s.types.map (·.name)).Nodup ↔ ∀ a ∈ s.types, ∀ b ∈ s.types, ¬ c.Clash a b := by
  rw [List.nodup_map_iff_inj_on h.nodup_types]
  constructor
  · intro hinj a ha b hb hc
    obtain ⟨i, hi⟩ := TypeStore.mem_types_iff.1 ha
    obtain ⟨j, hj⟩ := TypeStore.mem_types_iff.1 hb
    have hab : a = b := hinj a ha b hb ((h.name_eq_iff hi hj).2 (.inr (.inl hc)))
    have hflavor : b.flavor = .output := by rw [← hab]; exact hc.1
    rw [hc.2.1] at hflavor
    cases hflavor
  · intro hno a ha b hb hname
    obtain ⟨i, hi⟩ := TypeStore.mem_types_iff.1 ha
    obtain ⟨j, hj⟩ := TypeStore.mem_types_iff.1 hb
    rcases (h.name_eq_iff hi hj).1 hname with rfl | hc | hc
    · exact Option.some.inj (hi.symm.trans hj)
    · exact absurd hc (hno a ha b hb)
    · exact absurd hc (hno b hb a ha)

/-- **Whether types have their names to themselves.** After any requests, two slots hold types of one name just when
an output type and an input type clash, which with a prefix that is a name takes two entities. The table of the
compiled types keeps every one of them just when no two clash. -/
theorem name_eq_iff_clash (c : Compiler) (requests : List TypeRequest) :
    let s := c.storeAfter requests
    (∀ i j a b, s.get? i = some a → s.get? j = some b →
      (a.name = b.name ↔ i = j ∨ c.Clash a b ∨ c.Clash b a)) ∧
    (Text.isGraphName c.inputPrefix = true → ∀ a b, c.Clash a b →
      c.registry.entityName? a.className ≠ c.registry.entityName? b.className) ∧
    ((TypeTable.ofTypes s.schemaTypes.value).values = s.schemaTypes.value ↔
      ∀ a ∈ s.types, ∀ b ∈ s.types, ¬ c.Clash a b) := by
  intro s
  have hs : c.Settled s := settled_storeAfter c requests
  refine ⟨fun i j a b ha hb => hs.name_eq_iff ha hb, fun hvalid a b hc => hc.entityName?_ne hvalid, ?_⟩
  have hnames : s.schemaTypes.value.map (·.name) = s.types.map (·.name) := by
    unfold TypeStore.schemaTypes Logged.each
    rw [List.map_map]
    exact List.map_congr_left fun t _ => s.name_schemaType t
  rw [TypeTable.values_ofTypes_eq_iff, hnames, hs.nodup_names_iff]

/-- A pet, and an entity that is called like the input type of a pet. -/
def prefixedDeclarations : List Declaration := [
  .entity "Pet" none,
  .field "Pet" "id" (.primaryKey .int) none,
  .entity "inputPet" none,
  .field "inputPet" "id" (.primaryKey .int) none,
  .field "inputPet" "note" (.column .string) none,
  .method "Pets" "noted" .query none (some (.named "inputPet")),
  .parameter "Pets" "noted" "pet" (.named "Pet"),
  .handler "Pets" "noted" ⟨none, fun _ response => (.ok .null, response)⟩]

/-- With the usual prefix, the input type of a pet takes the place of the output type that has its name, and a schema
that returns the latter is refused. -/
theorem input_type_replaces_output_type :
    let registry := Registry.ofDeclarations prefixedDeclarations
    let s := (Compiler.mk registry "input").storeAfter [⟨.output, "inputPet"⟩, ⟨.input, "Pet"⟩]
    ({} : Config).validate = .ok () ∧
      s.types.map (fun t => (t.name, t.flavor)) = [("inputPet", .output), ("inputPet", .input)] ∧
      (TypeTable.ofTypes s.schemaTypes.value).values.map SchemaType.flavor = [.input] ∧
      ((Builder.new registry {}).run [.registerResolvers [⟨"Pets", "A", ""⟩]]).build.value.1 =
        .error (.refused (.schemaBuildFailed "Field \"Query.noted\" must return a output type")) := by
  exact ⟨by rfl, by decide, by decide, by rfl⟩

end Compiler

end EntityGraph
