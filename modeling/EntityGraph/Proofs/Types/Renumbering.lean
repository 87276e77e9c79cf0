import EntityGraph.Proofs.Types.Reachability
import Mathlib.Data.Set.Function
/-!
# The order of requests

Two stores that have types of the same classes differ by a renumbering of handles. The renumbering sends the handle
of a type to the one that the other store links the same class to. It needs no comparison of the two runs: a finished
type's fields are the layout of its class's model under the links of its store, and a layout commutes with
renumbering (`layout_renumber`). Requests for the same types, in any order and however often, leave such stores
(`exists_renumbering`).
-/

namespace EntityGraph

/-! ## Renumbering types -/

def CompiledFieldType.renumber (σ : Nat → Nat) : CompiledFieldType → CompiledFieldType
  | .scalar s => .scalar s
  | .relation handle r => .relation (σ handle) r

def CompiledField.renumber (σ : Nat → Nat) (f : CompiledField) : CompiledField :=
  { f with type := f.type.renumber σ }

/-- The type with other handles, for itself and for the targets of its relations. -/
def CompiledType.renumber (σ : Nat → Nat) (t : CompiledType) : CompiledType :=
  { t with handle := σ t.handle, fields := t.fields.map (·.renumber σ) }

namespace Compiler

variable {c : Compiler} {s t : TypeStore} {flavor : Flavor} {m : Model}

theorem flatField?_renumber (σ : Nat → Nat) (done : List CompiledField) (target key : String) :
    c.flatField? m (done.map (·.renumber σ)) target key = c.flatField? m done target key := by
  unfold flatField?
  rw [List.any_map]
  rfl

theorem renumber_of_mem_flatField? (σ : Nat → Nat) {done : List CompiledField} {target key : String}
    {f : CompiledField} (h : f ∈ (c.flatField? m done target key).toList) : f.renumber σ = f := by
  rw [Option.mem_toList] at h
  unfold flatField? at h
  split at h
  · cases h
  · obtain ⟨s, _, rfl⟩ := Option.map_eq_some_iff.1 h
    rfl

theorem relationFields_renumber (σ : Nat → Nat) (done : List CompiledField) (f : Field) (target : String)
    (idColumn : Option IdColumn) (handle : Nat) :
    (c.relationFields flavor m done f target idColumn handle).map (·.renumber σ) =
      c.relationFields flavor m (done.map (·.renumber σ)) f target idColumn (σ handle) := by
  unfold relationFields
  dsimp only
  split
  · rename_i key hk
    have hdone : ∀ r : CompiledField, done.map (·.renumber σ) ++ [r.renumber σ] = (done ++ [r]).map (·.renumber σ) :=
      fun r => by rw [List.map_append]; rfl
    rw [List.map_cons, List.map_congr_left fun _ => renumber_of_mem_flatField? σ, List.map_id']
    congr 2
    rw [← flatField?_renumber σ, ← hdone]
    rfl
  · rfl

theorem fieldLayout_renumber (σ : Nat → Nat) (link : String → Option Nat) (done : List CompiledField) (f : Field) :
    (c.fieldLayout flavor m link done f).map (·.renumber σ) =
      c.fieldLayout flavor m (fun a => (link a).map σ) (done.map (·.renumber σ)) f := by
  unfold fieldLayout
  cases f.kind with
  | primaryKey s => rfl
  | column s => rfl
  | foreignKey target idColumn =>
    cases hl : link target with
    | none => simp only [hl, Option.map_none, List.map_nil]
    | some handle =>
      simp only [hl, Option.map_some]
      exact relationFields_renumber σ done f target idColumn handle

/-- **Laying out fields and renumbering commute.** -/
theorem layout_renumber (σ : Nat → Nat) (link : String → Option Nat) : ∀ (fs : List Field) (done : List CompiledField),
    (c.layout flavor m link fs done).map (·.renumber σ) =
      c.layout flavor m (fun a => (link a).map σ) fs (done.map (·.renumber σ))
  | [], _ => rfl
  | f :: fs, done => by
    unfold layout
    rw [layout_renumber σ link fs, List.map_append, fieldLayout_renumber]

/-! ## The renumbering between two stores -/

/-- The handle that `t` links the class of a type in `s` to. -/
def renumbering (c : Compiler) (s t : TypeStore) (i : Nat) : Nat :=
  ((s.get? i).bind fun type => c.link? t type.flavor type.className).getD 0

theorem renumbering_eq {i j : Nat} {type : CompiledType} (hi : s.get? i = some type)
    (hj : c.link? t type.flavor type.className = some j) : c.renumbering s t i = j := by
  unfold renumbering
  rw [hi, Option.bind_some, hj]
  rfl

/-- Types of every class and flavor that `s` has types of. -/
def Covers (s t : TypeStore) : Prop := ∀ flavor className, s.HasType flavor className → t.HasType flavor className

theorem Covers.link? (h : Covers s t) (ht : c.Settled t) {i : Nat} {type : CompiledType} (hi : s.get? i = some type) :
    ∃ type', t.get? (c.renumbering s t i) = some type' ∧ type'.flavor = type.flavor ∧
      type'.className = type.className ∧ c.link? t type.flavor type.className = some (c.renumbering s t i) := by
  obtain ⟨type', hmem, hfl, hclass⟩ := h _ _ ⟨type, TypeStore.mem_types_iff.2 ⟨i, hi⟩, rfl, rfl⟩
  obtain ⟨j, hj⟩ := TypeStore.mem_types_iff.1 hmem
  have hl := ht.link?_of_get? hj
  rw [hfl, hclass] at hl
  rw [renumbering_eq hi hl]
  exact ⟨type', hj, hfl, hclass, hl⟩

/-- What a store links a target to is renumbered to what the other one links it to. -/
theorem link?_renumbering (hst : Covers s t) (hs : c.Settled s) (ht : c.Settled t) {a : String} {i : Nat}
    (hl : c.link? s flavor a = some i) : c.link? t flavor a = some (c.renumbering s t i) := by
  obtain ⟨type, hi, rfl, hkey⟩ := hs.type_of_link? hl
  obtain ⟨_, _, _, _, hlink⟩ := hst.link? ht hi
  rw [link?_congr hkey] at hlink
  exact hlink

theorem get?_renumbering (hst : Covers s t) (hs : c.Settled s) (ht : c.Settled t) {i : Nat} {type : CompiledType}
    (hi : s.get? i = some type) :
    t.get? (c.renumbering s t i) = some (type.renumber (c.renumbering s t)) := by
  obtain ⟨type', hj, hfl, hclass, _⟩ := hst.link? ht hi
  obtain ⟨hhandle, m, entity, hm⟩ := hs.filled_of_get? hi
  obtain ⟨hhandle', m', entity', hm'⟩ := ht.filled_of_get? hj
  have hmodel := hm'.model
  rw [hclass, hm.model] at hmodel
  cases hmodel
  have hentity := hm'.isEntity
  rw [hm.isEntity] at hentity
  cases hentity
  -- just the entities among the targets are linked, in either store
  have hlinks : ∀ f ∈ m.fields, ∀ target, f.kind.target? = some target →
      c.link? t type.flavor target = (c.link? s type.flavor target).map (c.renumbering s t) := by
    intro f hf target htarget
    cases hl : c.link? s type.flavor target with
    | some j => rw [link?_renumbering hst hs ht hl, Option.map_some]
    | none =>
      have hsome := hm.linked f hf target htarget
      rw [hl, ← hm'.linked f hf target htarget, hfl] at hsome
      exact Option.isNone_iff_eq_none.1 (Option.isSome_eq_false_iff.1 hsome.symm)
  have hfields : type'.fields = type.fields.map (·.renumber (c.renumbering s t)) := by
    rw [hm'.fields, hm.fields, layout_renumber, hfl]
    exact layout_congr m.fields [] hlinks
  have hname : type'.name = type.name := by rw [hm'.name, hm.name, hfl]
  rw [hj]
  obtain ⟨handle', name', className', flavor', fields'⟩ := type'
  subst hhandle
  dsimp only at hfl hclass hhandle' hfields hname
  rw [hfl, hclass, hhandle', hfields, hname]
  rfl

theorem renumbering_renumbering (hst : Covers s t) (hs : c.Settled s) (ht : c.Settled t) {i : Nat} (hi : i < s.size) :
    c.renumbering t s (c.renumbering s t i) = i := by
  obtain ⟨type, hget, _⟩ := hs.filled i hi
  have hl := hs.link?_of_get? hget
  exact renumbering_eq (get?_renumbering hst hs ht hget) hl

theorem renumbering_lt (hst : Covers s t) (hs : c.Settled s) (ht : c.Settled t) {i : Nat} (hi : i < s.size) :
    c.renumbering s t i < t.size := by
  obtain ⟨type, hget, _⟩ := hs.filled i hi
  exact TypeStore.lt_size_of_get? (get?_renumbering hst hs ht hget)

/-- **Settled stores with types of the same classes are the same up to renumbering.** -/
theorem bijOn_renumbering (hst : Covers s t) (hts : Covers t s) (hs : c.Settled s) (ht : c.Settled t) :
    Set.BijOn (c.renumbering s t) {i | i < s.size} {i | i < t.size} := by
  refine ⟨fun i hi => renumbering_lt hst hs ht hi, fun i hi j hj hij => ?_, fun j hj => ?_⟩
  · rw [← renumbering_renumbering hst hs ht hi, hij, renumbering_renumbering hst hs ht hj]
  · exact ⟨c.renumbering t s j, renumbering_lt hts ht hs hj, renumbering_renumbering hts ht hs hj⟩

/-! ## Requests in another order -/

theorem covers_storeAfter (hd : c.registry.NamesDistinct) {requests requests' : List TypeRequest}
    (h : ∀ q ∈ requests, q ∈ requests') : Covers (c.storeAfter requests) (c.storeAfter requests') := by
  intro flavor className hty
  obtain ⟨q, hq, hrest⟩ := (hasType_iff_reaches hd requests flavor className).1 hty
  exact (hasType_iff_reaches hd requests' flavor className).2 ⟨q, h q hq, hrest⟩

/-- **The order and the number of requests do not matter.** Requests for the same types leave the same types up to
a renumbering of handles. -/
theorem exists_renumbering (c : Compiler) (hd : c.registry.NamesDistinct) (requests requests' : List TypeRequest)
    (h : ∀ q, q ∈ requests ↔ q ∈ requests') :
    ∃ σ : Nat → Nat,
      Set.BijOn σ {i | i < (c.storeAfter requests).size} {i | i < (c.storeAfter requests').size} ∧
      ∀ i, i < (c.storeAfter requests).size → ∃ type, (c.storeAfter requests).get? i = some type ∧
        (c.storeAfter requests').get? (σ i) = some (type.renumber σ) := by
  have hs := settled_storeAfter c requests
  have hs' := settled_storeAfter c requests'
  have hst := covers_storeAfter hd fun q => (h q).1
  have hts := covers_storeAfter hd fun q => (h q).2
  refine ⟨c.renumbering (c.storeAfter requests) (c.storeAfter requests'), bijOn_renumbering hst hts hs hs', ?_⟩
  intro i hi
  obtain ⟨type, hget, _⟩ := hs.filled i hi
  exact ⟨type, hget, get?_renumbering hst hs hs' hget⟩

/-- Asking for the pet first, and once more after the person, only renumbers the types. -/
theorem pet_before_person : petCompiler.registry.NamesDistinct ∧
    ∃ σ : Nat → Nat, ∀ i, i < 2 →
      ∃ type, (petCompiler.storeAfter [⟨.output, "Person"⟩, ⟨.output, "Pet"⟩]).get? i = some type ∧
        (petCompiler.storeAfter [⟨.output, "Pet"⟩, ⟨.output, "Person"⟩, ⟨.output, "Pet"⟩]).get? (σ i) =
          some (type.renumber σ) := by
  have hd : petCompiler.registry.NamesDistinct := by decide
  have hsize : (petCompiler.storeAfter [⟨.output, "Person"⟩, ⟨.output, "Pet"⟩]).size = 2 := by decide
  obtain ⟨σ, _, hσ⟩ := exists_renumbering petCompiler hd [⟨.output, "Person"⟩, ⟨.output, "Pet"⟩]
    [⟨.output, "Pet"⟩, ⟨.output, "Person"⟩, ⟨.output, "Pet"⟩] fun q => by
      simp only [List.mem_cons, List.not_mem_nil, or_false]
      tauto
  exact ⟨hd, σ, fun i hi => hσ i (by rw [hsize]; exact hi)⟩

end Compiler

end EntityGraph
