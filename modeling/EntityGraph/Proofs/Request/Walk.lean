import EntityGraph.Request.Execution
/-!
# What a whole request keeps

A request runs one field after the other, each with all that is below it before the next. So what holds from before to
after every single field, and of two stretches together if of each, holds from before to after the whole request
(`Keeps.run`). Only fields of the schema's types are run.
-/

namespace EntityGraph

theorem TypeTable.mem_outputs {table : TypeTable} {name : String} {t : OutputType} (h : table.output? name = some t) :
    t ∈ table.outputs := by
  obtain ⟨type, htype, houtput⟩ := Option.bind_eq_some_iff.1 h
  exact List.mem_filterMap.2 ⟨type, Dict.mem_values_of_get? htype, houtput⟩

namespace Environment

/-- Between what a request had done before and what it has done after, this holds of every step that it may take. -/
structure Keeps (e : Environment) (R : Progress → Progress → Prop) : Prop where
  refl : ∀ p, R p p
  trans : ∀ {p q q'}, R p q → R q q' → R p q'
  fail : ∀ p error, R p (p.fail error)
  fieldValue : ∀ t ∈ e.schema.table.outputs, ∀ field ∈ t.fields, ∀ parent supplied p,
    R p (e.fieldValue field parent supplied p).2

/-- It holds when a value is completed. -/
def Completes (R : Progress → Progress → Prop) (complete : Completion) : Prop :=
  ∀ path v p, R p (complete path v p).2

namespace Keeps

variable {e : Environment} {R : Progress → Progress → Prop} {complete : Completion}

theorem completeItems (h : e.Keeps R) (hc : Completes R complete) (path : List PathStep) :
    ∀ (vs : List Value) (position : Nat) (p : Progress), R p (completeItems complete path position vs p).2
  | [], _, p => h.refl p
  | v :: vs, position, p => h.trans (hc _ v p) (h.completeItems hc path vs (position + 1) _)

theorem completeValue (h : e.Keeps R) (hc : Completes R complete) (path : List PathStep) (type : TypeRef)
    (v : Option Value) (p : Progress) : R p (completeValue complete path type v p).2 := by
  unfold Environment.completeValue
  cases v with
  | none => exact h.refl p
  | some v =>
    dsimp only
    split
    · split
      · exact h.completeItems hc path _ 0 p
      · exact h.fail p _
    · exact hc path v p

theorem runField (h : e.Keeps R) (hc : Completes R complete) {t : OutputType} (ht : t ∈ e.schema.table.outputs)
    {field : OutputField} (hfield : field ∈ t.fields) (f : FieldRequest) (path : List PathStep) (parent : Value)
    (p : Progress) : R p (e.runField complete field f path parent p).2 := by
  have hvalue := h.fieldValue t ht field hfield parent f.arguments p
  unfold Environment.runField
  split
  · rename_i p' heq
    rw [heq] at hvalue
    exact hvalue
  · rename_i v p' heq
    rw [heq] at hvalue
    exact h.trans hvalue (h.completeValue hc _ field.type v p')

theorem runRequest (h : e.Keeps R) (type : String) (path : List PathStep) (parent : Value) (f : FieldRequest)
    (selections : List Selection) {below : String → Completion} (hbelow : ∀ name, Completes R (below name))
    (p : Progress) : R p (e.runRequest type path parent f selections below p).2 := by
  unfold Environment.runRequest
  split
  · exact h.refl p
  · split
    · exact h.refl p
    · split
      · exact h.refl p
      · rename_i field hfound
        obtain ⟨t, ht, hfind⟩ := Option.bind_eq_some_iff.1 hfound
        have hfield := List.mem_of_find?_eq_some hfind
        split
        · exact h.runField (hbelow _) (TypeTable.mem_outputs ht) hfield f path parent p
        · exact h.runField (fun _ _ p => h.refl p) (TypeTable.mem_outputs ht) hfield f path parent p

mutual

/-- By the form of the selection: what a branch completes, it completes by the selections below it. -/
theorem runSelection (h : e.Keeps R) : ∀ (s : Selection) (type : String) (path : List PathStep) (parent : Value)
    (p : Progress), R p (e.runSelection type path parent s p).2
  | .leaf f, type, path, parent, p => by
    unfold Environment.runSelection
    exact h.runRequest type path parent f [] (fun _ _ _ p => h.refl p) p
  | .branch f selections, type, path, parent, p => by
    unfold Environment.runSelection
    exact h.runRequest type path parent f selections
      (fun name path v p => h.runSelections selections name path v p) p

theorem runSelections (h : e.Keeps R) : ∀ (selections : List Selection) (type : String) (path : List PathStep)
    (parent : Value) (p : Progress), R p (e.runSelections type path parent selections p).2
  | [], _, _, _, p => by
    unfold Environment.runSelections
    exact h.refl p
  | s :: selections, type, path, parent, p => by
    unfold Environment.runSelections
    exact h.trans (h.runSelection s type path parent p) (h.runSelections selections type path parent _)

end

/-- **What every step keeps, a whole request keeps.** -/
theorem run (h : e.Keeps R) (root : RootKind) (selections : List Selection) (p : Progress) :
    R p (e.run root selections p).2 := h.runSelections selections root.typeName [] .null p

end Keeps

end Environment

end EntityGraph
