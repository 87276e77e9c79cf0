import EntityGraph.Instance
import EntityGraph.Proofs.KeyedLog
/-!
# What an instance keeps

An instance is made empty or read from an object, and then fields are assigned. A field assigned again keeps its place,
so that under each name stands the last value (`get?_setAll`), while the names stand in the order in which they came up
(`fieldNames_setAll`).

Turning an instance into an object loses nothing but the class, which whoever reads it back has to know. So related
instances can be stored one inside the other and are found again at any depth (`nestedAt?_nest`).
-/

namespace EntityGraph

namespace Instance

variable {i : Instance}

/-! ## Assignments -/

/-- An instance before anything is assigned. An object names no key twice. -/
inductive Begins : Instance → Prop
  | empty (className : String) : Begins (Instance.empty className)
  | read {className : String} {fields : Entries Value} {i : Instance} (distinct : fields.keys.Nodup)
      (object : ofValue? className (.object fields) = some i) : Begins i

theorem Begins.nodup (h : i.Begins) : i.fieldNames.Nodup := by
  cases h with
  | empty className => exact List.nodup_nil
  | read distinct object => cases object; exact distinct

/-- Assigns fields in order. -/
def setAll (i : Instance) (assignments : List (String × Value)) : Instance :=
  assignments.foldl (fun i a => i.set a.1 a.2) i

theorem setAll_eq : ∀ (assignments : List (String × Value)) (i : Instance),
    i.setAll assignments = ⟨i.className, i.fields.insertAll assignments⟩
  | [], _ => rfl
  | a :: assignments, i => by
    change (i.set a.1 a.2).setAll assignments = _
    rw [setAll_eq assignments]
    rfl

theorem get?_setAll (i : Instance) (assignments : List (String × Value)) (field : String) :
    (i.setAll assignments).get? field =
      ((assignments.filter (·.1 == field)).getLast?.map Prod.snd).or (i.get? field) := by
  unfold get?
  rw [setAll_eq]
  exact Entries.get?_insertAll i.fields assignments field

/-- **Names are listed once each as they came up**, those that were there first. -/
theorem fieldNames_setAll (hn : i.fieldNames.Nodup) (assignments : List (String × Value)) :
    (i.setAll assignments).fieldNames = (i.fieldNames ++ assignments.map Prod.fst).eraseDups := by
  unfold fieldNames
  rw [setAll_eq, Entries.insertAll_of_nodup hn, Entries.keys_ofList, List.map_append]
  rfl

/-! ## Instances inside instances -/

theorem ofValue?_eq_none_iff {className : String} {v : Value} :
    ofValue? className v = none ↔ ∀ fields, v ≠ .object fields := by
  constructor
  · rintro h fields rfl
    cases h
  · intro h
    cases v with
    | object fields => exact absurd rfl (h fields)
    | _ => rfl

theorem nested?_set_self (i j : Instance) (field : String) :
    (i.set field j.toValue).nested? field j.className = some j := by
  unfold nested? get? set
  rw [Entries.get?_insert_self, Option.bind_some]
  rfl

/-- Stores instances one inside the other, each under its field of the one before. -/
def nest (i : Instance) : List (String × Instance) → Instance
  | [] => i
  | (field, j) :: path => i.set field (j.nest path).toValue

/-- The instance that is found by going down from field to field. -/
def nestedAt? (i : Instance) : List (String × String) → Option Instance
  | [] => some i
  | (field, className) :: path => (i.nested? field className).bind fun j => j.nestedAt? path

def innermost (i : Instance) : List (String × Instance) → Instance
  | [] => i
  | (_, j) :: path => j.innermost path

theorem className_nest (i : Instance) (path : List (String × Instance)) : (i.nest path).className = i.className := by
  cases path <;> rfl

/-- **An instance is found where it was stored**, with all that is stored in it. -/
theorem nestedAt?_nest : ∀ (path rest : List (String × Instance)) (i : Instance),
    (i.nest (path ++ rest)).nestedAt? (path.map fun e => (e.1, e.2.className)) = some ((i.innermost path).nest rest)
  | [], _, _ => rfl
  | (field, j) :: path, rest, i => by
    have hread : (i.nest ((field, j) :: path ++ rest)).nested? field j.className = some (j.nest (path ++ rest)) := by
      rw [← className_nest j (path ++ rest)]
      exact nested?_set_self i (j.nest (path ++ rest)) field
    rw [List.map_cons, nestedAt?, hread, Option.bind_some]
    exact nestedAt?_nest path rest j

/-! ## All together -/

/-- **An instance is an ordered map that survives its conversion.** Whatever is assigned to it after it was made, a
field reads the last value, names are listed once each as they came up, and reading the instance back from its object
gives the instance itself. Every object is read and kept as it is, nothing else is read, and instances that are stored
in others are found again however deep they lie. -/
theorem assignments_kept (h : i.Begins) (assignments : List (String × Value)) :
    let k := i.setAll assignments
    (∀ field, k.get? field = ((assignments.filter (·.1 == field)).getLast?.map Prod.snd).or (i.get? field)) ∧
    k.fieldNames = (i.fieldNames ++ assignments.map Prod.fst).eraseDups ∧ k.fieldNames.Nodup ∧
    k.size = k.fieldNames.length ∧ ofValue? k.className k.toValue = some k ∧
    (∀ className fields, (ofValue? className (.object fields)).map toValue = some (.object fields)) ∧
    (∀ className v, ofValue? className v = none ↔ ∀ fields, v ≠ .object fields) ∧
    (∀ field j, (k.set field j.toValue).nested? field j.className = some j) ∧
    ∀ path rest, (k.nest (path ++ rest)).nestedAt? (path.map fun e => (e.1, e.2.className)) =
      some ((k.innermost path).nest rest) := by
  intro k
  have hnames : k.fieldNames = (i.fieldNames ++ assignments.map Prod.fst).eraseDups := fieldNames_setAll h.nodup _
  refine ⟨get?_setAll i assignments, hnames, by rw [hnames]; exact nodup_eraseDups _,
    (List.length_map _).symm, rfl, fun _ _ => rfl, fun _ _ => ofValue?_eq_none_iff,
    fun field j => nested?_set_self k j field, fun path rest => nestedAt?_nest path rest k⟩

def rex : Instance := ⟨"Pet", [("id", .number (.int 7)), ("name", .text "Rex")]⟩

/-- A pet gets an age, another name and another age, and then an owner who has a pet. -/
theorem rex_renamed :
    let news : List (String × Value) := [("age", .number (.int 3)), ("name", .text "Max"), ("age", .null)]
    let owner : Instance := ⟨"Person", [("name", .text "Ann")]⟩
    rex.Begins ∧ (rex.setAll news).fieldNames = ["id", "name", "age"] ∧
      (rex.setAll news).get? "name" = some (.text "Max") ∧ (rex.setAll news).get? "age" = some .null ∧
      (rex.setAll news).get? "id" = some (.number (.int 7)) ∧
      ((rex.setAll news).nest [("owner", owner), ("pet", rex)]).nestedAt? [("owner", "Person"), ("pet", "Pet")] =
        some rex := by
  intro news owner
  have hbegins : rex.Begins := .read (by decide) rfl
  obtain ⟨hget, hnames, _, _, _, _, _, _, hnested⟩ := assignments_kept hbegins news
  exact ⟨hbegins, hnames.trans (by decide), (hget "name").trans rfl, (hget "age").trans rfl, (hget "id").trans rfl,
    hnested [("owner", owner), ("pet", rex)] []⟩

end Instance

end EntityGraph
