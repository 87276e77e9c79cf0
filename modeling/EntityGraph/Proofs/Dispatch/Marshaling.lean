import EntityGraph.Proofs.Dispatch.Arguments
import EntityGraph.Proofs.Fill.Settings
/-!
# How supplied values become arguments

Whatever was supplied, there is one argument for each plan, in the order of the plans, and each is made from what was
supplied under its plan's name alone. So neither the order of what is supplied matters nor anything under other names
(`marshalAll_congr`). A list of models is marshaled item by item, every item as a single model would be
(`marshal_list`), and a value that is no list as the list of itself (`marshal_single`). All this is stated with the
notes that are made on the way where these are the same too (`arguments_marshaled`).
-/

namespace EntityGraph

namespace Registry

variable {r : Registry} {plans : List ParameterPlan} {supplied supplied' : Dict Value} {v : Value}

/-! ## One argument -/

theorem marshal_absent (r : Registry) (form : ParameterForm) {v : Option Value} (h : v.all (·.isNull) = true) :
    r.marshal form v = pure .null := by
  match v, h with
  | none, _ => rfl
  | some .null, _ => rfl

/-- A single model, or an item of a list. Null is filled into nothing. -/
theorem marshal_item (r : Registry) (className : String) (v : Value) :
    r.marshal (.model className false) (some v) = r.marshalModel className v := by
  cases v <;> rfl

/-- **A list is marshaled item by item**, and so are its notes made. -/
theorem marshal_list (r : Registry) (className : String) (items : List Value) :
    (r.marshal (.model className true) (some (.list items))).value =
        .list (items.map fun v => (r.marshal (.model className false) (some v)).value) ∧
      (r.marshal (.model className true) (some (.list items))).log =
        items.flatMap fun v => (r.marshal (.model className false) (some v)).log := by
  simp only [marshal_item]
  exact ⟨rfl, List.append_nil _⟩

theorem marshal_single (r : Registry) (className : String) (hnull : v.isNull = false)
    (hlist : ∀ items, v ≠ .list items) :
    r.marshal (.model className true) (some v) = r.marshal (.model className true) (some (.list [v])) := by
  rw [marshal_some hnull, marshal_some (v := .list [v]) rfl]
  unfold marshalModels
  cases v with
  | list items => exact absurd rfl (hlist items)
  | _ => rfl

theorem marshal_model (r : Registry) (className : String) (hnull : v.isNull = false) :
    ∃ i, (r.fill (some v) (some className)).value = some i ∧
      (r.marshal (.model className false) (some v)).value = .model i := by
  obtain ⟨i, hi⟩ := Option.isSome_iff_exists.1 (isSome_fillValue r className hnull)
  have hfill : (r.fill (some v) (some className)).value = some i := hi
  refine ⟨i, hfill, ?_⟩
  rw [marshal_item, marshalModel_value, filled, hfill]

/-! ## All arguments -/

/-- **Nothing but what is supplied under the plans' names is read.** -/
theorem marshalAll_congr (h : ∀ plan ∈ plans, supplied'.get? plan.name = supplied.get? plan.name) :
    r.marshalAll plans supplied' = r.marshalAll plans supplied := by
  have hsame : ∀ plan ∈ plans, r.marshal plan.form (supplied'.get? plan.name) =
      r.marshal plan.form (supplied.get? plan.name) := fun plan hp => by rw [h plan hp]
  unfold marshalAll Logged.each
  rw [List.map_congr_left fun plan hp => congrArg Logged.value (hsame plan hp),
    List.flatMap_congr fun plan hp => congrArg Logged.log (hsame plan hp)]

theorem at?_marshalAll (r : Registry) (plans : List ParameterPlan) (supplied : Dict Value) (position : Nat) :
    Argument.at? (r.marshalAll plans supplied).value position =
      (plans[position]?.map fun plan => (r.marshal plan.form (supplied.get? plan.name)).value).getD .null := by
  unfold Argument.at? marshalAll Logged.each
  rw [List.getElem?_map]

/-- What the arguments made of supplied values have to do with the plans and with what was supplied. -/
structure MarshalsAll (r : Registry) (plans : List ParameterPlan) (supplied : Dict Value) : Prop where
  length : (r.marshalAll plans supplied).value.length = plans.length
  /-- The argument at a position is made from the value under its plan's name, and past the end it is null. -/
  position : ∀ position, Argument.at? (r.marshalAll plans supplied).value position =
    (plans[position]?.map fun plan => (r.marshal plan.form (supplied.get? plan.name)).value).getD .null
  congr : ∀ supplied', (∀ plan ∈ plans, supplied'.get? plan.name = supplied.get? plan.name) →
    r.marshalAll plans supplied' = r.marshalAll plans supplied
  reordered : ∀ supplied' : Dict Value, supplied.entries.Perm supplied'.entries →
    r.marshalAll plans supplied' = r.marshalAll plans supplied
  /-- What is put under other names, or removed from them, is not read. -/
  unread : ∀ name, (∀ plan ∈ plans, plan.name ≠ name) →
    (∀ v, r.marshalAll plans (supplied.insert name v) = r.marshalAll plans supplied) ∧
      r.marshalAll plans (supplied.remove name) = r.marshalAll plans supplied

/-- What one argument of each form is made of. -/
structure MarshalsForms (r : Registry) : Prop where
  absent : ∀ form, r.marshal form none = pure .null ∧ r.marshal form (some .null) = pure .null
  unknown : ∀ v, r.marshal .unknown v = pure .null
  scalar : ∀ v, v.isNull = false → r.marshal .scalar (some v) = pure (.scalar v)
  model : ∀ className v, v.isNull = false → ∃ i, (r.fill (some v) (some className)).value = some i ∧
    (r.marshal (.model className false) (some v)).value = .model i
  /-- A list of models is made item by item, and so are its notes. -/
  list : ∀ className items, (r.marshal (.model className true) (some (.list items))).value =
      .list (items.map fun v => (r.marshal (.model className false) (some v)).value) ∧
    (r.marshal (.model className true) (some (.list items))).log =
      items.flatMap fun v => (r.marshal (.model className false) (some v)).log
  /-- Another value stands for the list of it alone. -/
  single : ∀ className v, v.isNull = false → (∀ items, v ≠ .list items) →
    r.marshal (.model className true) (some v) = r.marshal (.model className true) (some (.list [v]))

theorem marshalAll_spec (r : Registry) (plans : List ParameterPlan) (supplied : Dict Value) :
    r.MarshalsAll plans supplied where
  length := List.length_map _
  position := at?_marshalAll r plans supplied
  congr _ := marshalAll_congr
  reordered _ h := marshalAll_congr fun plan _ => Dict.get?_of_perm h plan.name
  unread name hname := by
    refine ⟨fun v => ?_, ?_⟩
    · exact marshalAll_congr fun plan hp => Dict.get?_insert_of_ne supplied v (hname plan hp).symm
    · exact marshalAll_congr fun plan hp => Dict.get?_remove_of_ne supplied (hname plan hp)

theorem marshal_spec (r : Registry) : r.MarshalsForms where
  absent form := ⟨marshal_absent r form rfl, marshal_absent r form rfl⟩
  unknown v := by
    match v with
    | none => rfl
    | some v => cases v <;> rfl
  scalar _ h := marshal_some h .scalar
  model className _ := marshal_model r className
  list := marshal_list r
  single className _ := marshal_single r className

/-- **Supplied values and the arguments that are made of them.** There is one argument for each plan, made from the
value under the plan's name alone, whatever else was supplied and in whatever order. What is absent or null is null in
every form, and a parameter of unknown form always; a scalar is passed on; a model is filled; a list of models is made
of its items one by one, and of another value as of the list of it alone. -/
theorem arguments_marshaled (r : Registry) (plans : List ParameterPlan) (supplied : Dict Value) :
    r.MarshalsAll plans supplied ∧ r.MarshalsForms := ⟨marshalAll_spec r plans supplied, marshal_spec r⟩

end Registry

end EntityGraph
