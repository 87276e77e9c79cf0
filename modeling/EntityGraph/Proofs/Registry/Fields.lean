import EntityGraph.Registry.Declaration
/-!
# Distinct fields

No declaration looks at what is there, so a registry has few invariants. One is that the names of a model's fields
are distinct (`fieldsDistinct_ofDeclarations`): a field that is declared again takes the place of the former one.
-/

namespace EntityGraph

/-! ## Putting a field -/

namespace Model

theorem names_putField : ∀ (fs : List Field) (f : Field), (putField fs f).map (·.name) =
    if f.name ∈ fs.map (·.name) then fs.map (·.name) else fs.map (·.name) ++ [f.name]
  | [], f => rfl
  | g :: fs, f => by
    unfold putField
    by_cases h : g.name = f.name
    · rw [if_pos h, List.map_cons, List.map_cons, h, if_pos List.mem_cons_self]
    · rw [if_neg h, List.map_cons, List.map_cons, names_putField fs f]
      by_cases hm : f.name ∈ fs.map (·.name)
      · rw [if_pos hm, if_pos (List.mem_cons_of_mem _ hm)]
      · have hm' : f.name ∉ g.name :: fs.map (·.name) := fun hc => (List.mem_cons.1 hc).elim (fun e => h e.symm) hm
        rw [if_neg hm, if_neg hm']
        rfl

theorem nodup_putField {fs : List Field} (h : (fs.map (·.name)).Nodup) (f : Field) :
    ((putField fs f).map (·.name)).Nodup := by
  rw [names_putField]
  split
  · exact h
  · rename_i hm
    rw [List.nodup_append]
    exact ⟨h, by simp, fun x hx y hy hxy => hm (by rw [← List.mem_singleton.1 hy, ← hxy]; exact hx)⟩

end Model

namespace Registry

variable {r : Registry} {className : String}

theorem model?_updateModel (r : Registry) (className : String) (f : Model → Model) (className' : String) :
    (r.updateModel className f).model? className' =
      if className = className' then some (f ((r.model? className).getD (Model.empty className)))
      else r.model? className' :=
  Dict.get?_insert r.models className _ className'

/-- No model has two fields of one name. -/
def FieldsDistinct (r : Registry) : Prop :=
  ∀ className m, r.model? className = some m → (m.fields.map (·.name)).Nodup

theorem FieldsDistinct.updateModel (h : r.FieldsDistinct) {f : Model → Model}
    (hf : ∀ m : Model, (m.fields.map (·.name)).Nodup → ((f m).fields.map (·.name)).Nodup) :
    (r.updateModel className f).FieldsDistinct := by
  intro className' m hm
  rw [model?_updateModel] at hm
  split at hm
  · cases hm
    refine hf _ ?_
    cases hr : r.model? className with
    | none => exact List.nodup_nil
    | some m => exact h className m hr
  · exact h className' m hm

/-- **A declaration keeps the fields distinct.** Those of resolver methods leave the models alone. -/
theorem FieldsDistinct.declare (h : r.FieldsDistinct) (d : Declaration) : (r.declare d).FieldsDistinct := by
  cases d with
  | entity className name => exact h.updateModel fun m hm => hm
  | field className field kind wireName => exact h.updateModel fun m hm => Model.nodup_putField hm _
  | method className method kind exposedAs returns => exact h
  | guard className method guard => exact h
  | parameterOverride className method position type => exact h
  | parameter className method name type => exact h
  | handler className method handler => exact h

theorem FieldsDistinct.declareAll : ∀ (declarations : List Declaration) {r : Registry}, r.FieldsDistinct →
    (r.declareAll declarations).FieldsDistinct
  | [], _, h => h
  | d :: declarations, _, h => FieldsDistinct.declareAll declarations (h.declare d)

theorem fieldsDistinct_ofDeclarations (declarations : List Declaration) :
    (ofDeclarations declarations).FieldsDistinct :=
  FieldsDistinct.declareAll declarations fun _ _ hm => nomatch hm

/-! ## Primary keys -/

theorem kind_of_primaryKey? {pk : Field} (h : r.primaryKey? className = some pk) : ∃ s, pk.kind = .primaryKey s := by
  obtain ⟨m, _, hm⟩ := Option.bind_eq_some_iff.1 h
  have hkind := List.find?_some hm
  unfold FieldKind.isPrimaryKey at hkind
  split at hkind
  · exact ⟨_, by assumption⟩
  · cases hkind

end Registry

end EntityGraph
