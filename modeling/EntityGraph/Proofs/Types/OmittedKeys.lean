import EntityGraph.Proofs.Registry.Fields
import EntityGraph.Proofs.Types.Omissions
import EntityGraph.Proofs.Types.Requests
import Mathlib.Data.List.Nodup
import Mathlib.Data.List.Perm.Basic
/-!
# Every omitted foreign key is noted once

A foreign key that leads to no entity is left out of the types of its class, and each such type is noted once for each
such key (`omitted_keys_noted`). Notes are made in the middle of nested visits, so that those of one type may stand
apart, with those of other types between them. What a visit notes is therefore known up to order: it is what the types
that it adds have omitted (`Pass.Notes`). That a type is reached again, in a circle or by a later request, adds no type
and hence no note.

While the fields of a type are compiled the type is not there yet, and its own notes are counted beside those of the
types that were added since (`notes_compileFields`). They join when its slot is filled.
-/

namespace EntityGraph

/-! ## Types that were added -/

namespace TypeStore

variable {s t : TypeStore}

/-- The finished types in the slots from a number on. -/
def typesFrom (s : TypeStore) (n : Nat) : List CompiledType := (s.slots.drop n).filterMap id

theorem typesFrom_size (s : TypeStore) : s.typesFrom s.size = [] := by
  unfold typesFrom size
  rw [List.drop_length, List.filterMap_nil]

theorem Grows.typesFrom_eq_append (h : s.Grows t) {n : Nat} (hn : n ≤ s.size) :
    t.typesFrom n = s.typesFrom n ++ t.typesFrom s.size := by
  obtain ⟨rest, hrest⟩ := h.slots
  have hdrop : t.slots.drop n = s.slots.drop n ++ rest := by rw [← hrest, List.drop_append_of_le_length hn]
  have hadded : t.slots.drop s.size = rest := by rw [← hrest]; exact List.drop_left
  unfold typesFrom
  rw [hdrop, hadded, List.filterMap_append]

/-- The type that fills a slot comes before those of the later slots. -/
theorem typesFrom_finish {type : CompiledType} (h : type.handle < s.size) :
    (s.finish type).typesFrom type.handle = type :: s.typesFrom (type.handle + 1) := by
  have hlt : type.handle < (s.slots.set type.handle (some type)).length := by rwa [List.length_set]
  have hlater : (s.slots.set type.handle (some type)).drop (type.handle + 1) = s.slots.drop (type.handle + 1) :=
    List.drop_set_of_lt (Nat.lt_succ_self _)
  unfold typesFrom
  rw [slots_finish, List.drop_eq_getElem_cons hlt, hlater, List.getElem_set_self]
  rfl

end TypeStore

/-! ## Omissions -/

/-- The target of a foreign key that leads to no entity. -/
def Registry.dangling? (r : Registry) (f : Field) : Option String :=
  f.kind.target?.filter fun target => !decide (r.IsEntity target)

theorem Registry.dangling?_eq_some_iff {r : Registry} {f : Field} {target : String} :
    r.dangling? f = some target ↔ f.kind.target? = some target ∧ ¬ r.IsEntity target := by
  unfold dangling?
  rw [Option.filter_eq_some_iff, Bool.not_eq_true', decide_eq_false_iff_not]

/-- A foreign key of a type's class that is left out of the type. -/
structure Omission where
  type : CompiledType
  field : Field
  target : String

def Omission.note (o : Omission) : Diagnostic := .foreignKeyOmitted o.type.className o.field.name o.target

namespace Compiler

variable {c : Compiler} {flavor : Flavor} {s : TypeStore} {types : List CompiledType} {type : CompiledType}
  {className : String} {m : Model}

/-- What a type omits, in order of declaration. -/
def omissionsOf (c : Compiler) (type : CompiledType) : List Omission :=
  match c.registry.model? type.className with
  | some m => m.fields.filterMap fun f => (c.registry.dangling? f).map fun target => ⟨type, f, target⟩
  | none => []

def omissions (c : Compiler) (types : List CompiledType) : List Omission := types.flatMap c.omissionsOf

/-- The notes that some fields of a class give rise to. -/
def notesOn (c : Compiler) (className : String) (fs : List Field) : List Diagnostic :=
  fs.filterMap fun f => (c.registry.dangling? f).map fun target => .foreignKeyOmitted className f.name target

theorem mem_omissionsOf_iff {o : Omission} : o ∈ c.omissionsOf type ↔ o.type = type ∧
    ∃ m, c.registry.model? type.className = some m ∧ o.field ∈ m.fields ∧ o.field.kind.target? = some o.target ∧
      ¬ c.registry.IsEntity o.target := by
  unfold omissionsOf
  cases hm : c.registry.model? type.className with
  | none => simp
  | some m =>
    simp only [List.mem_filterMap, Option.map_eq_some_iff, Registry.dangling?_eq_some_iff]
    constructor
    · rintro ⟨f, hf, target, ht, rfl⟩
      exact ⟨rfl, m, rfl, hf, ht⟩
    · rintro ⟨rfl, m', hm', hf, ht⟩
      cases hm'
      exact ⟨o.field, hf, o.target, ht, rfl⟩

theorem map_note_omissionsOf (hm : c.registry.model? type.className = some m) :
    (c.omissionsOf type).map Omission.note = c.notesOn type.className m.fields := by
  unfold omissionsOf notesOn
  rw [hm, List.map_filterMap]
  refine List.filterMap_congr fun f _ => ?_
  rw [Option.map_map]
  rfl

theorem omissions_cons (c : Compiler) (type : CompiledType) (types : List CompiledType) :
    c.omissions (type :: types) = c.omissionsOf type ++ c.omissions types := List.flatMap_cons

theorem omissions_append (c : Compiler) (types types' : List CompiledType) :
    c.omissions (types ++ types') = c.omissions types ++ c.omissions types' := List.flatMap_append

/-- Different types omit different things, and so do different fields of one type. -/
theorem nodup_omissions (hd : c.registry.FieldsDistinct) (ht : types.Nodup) : (c.omissions types).Nodup := by
  unfold omissions
  rw [List.nodup_flatMap]
  refine ⟨fun type _ => ?_, ht.imp fun hne o ho ho' => ?_⟩
  · unfold omissionsOf
    cases hm : c.registry.model? type.className with
    | none => exact List.nodup_nil
    | some m =>
      have hfields : m.fields.Nodup := (hd type.className m hm).of_map _
      refine hfields.filterMap fun f f' o ho ho' => ?_
      obtain ⟨_, _, rfl⟩ := Option.map_eq_some_iff.1 ho
      obtain ⟨_, _, heq⟩ := Option.map_eq_some_iff.1 ho'
      exact (congrArg Omission.field heq).symm
  · exact hne ((mem_omissionsOf_iff.1 ho).1.symm.trans (mem_omissionsOf_iff.1 ho').1)

/-! ## Visits -/

/-- From one pass to the next just the omissions of the added types were noted. -/
def Notes (c : Compiler) (p q : Pass) : Prop :=
  q.log.Perm (p.log ++ (c.omissions (q.store.typesFrom p.store.size)).map Omission.note)

theorem Notes.refl (c : Compiler) (p : Pass) : c.Notes p p := by
  unfold Notes
  rw [TypeStore.typesFrom_size]
  simp [omissions]

theorem log_noteOmitted {f : Field} {target : String} (ht : f.kind.target? = some target) {handle : Option Nat}
    (hsome : handle.isSome = (c.key? target).isSome) (p : Pass) :
    (noteOmitted className f target handle p).log = p.log ++ c.notesOn className [f] := by
  have hentity := c.isSome_key? target
  rw [← hsome] at hentity
  unfold notesOn
  cases handle with
  | none =>
    have hdangling : c.registry.dangling? f = some target :=
      Registry.dangling?_eq_some_iff.2 ⟨ht, fun he => nomatch hentity.2 he⟩
    simp [hdangling, noteOmitted, Pass.note]
  | some handle =>
    have hdangling : c.registry.dangling? f = none := by
      rw [Option.eq_none_iff_forall_ne_some]
      intro target' h
      obtain ⟨ht', hno⟩ := Registry.dangling?_eq_some_iff.1 h
      rw [ht] at ht'
      cases ht'
      exact hno (hentity.1 rfl)
    simp [hdangling, noteOmitted]

/-- The fields of a class note what is omitted of themselves, and their visits what the added types omit. -/
theorem notes_compileFields {visit : String → Pass → Option (Option Nat × Pass)} (hv : c.Visits flavor visit)
    (hnotes : ∀ className p handle q, visit className p = some (handle, q) → p.store.Numbered → c.Notes p q)
    (className : String) (m : Model) : ∀ (fs : List Field) (done : List CompiledField) (p : Pass)
      (fields : List CompiledField) (q : Pass),
      c.compileFields flavor className m visit fs done p = some (fields, q) → p.store.Numbered →
        q.log.Perm (p.log ++ (c.omissions (q.store.typesFrom p.store.size)).map Omission.note ++
          c.notesOn className fs)
  | [], done, p, fields, q, h, _ => by
    cases h
    exact (Notes.refl c p).trans (by rw [notesOn, List.filterMap_nil, List.append_nil])
  | f :: fs, done, p, fields, q, h, hn => by
    have hsplit : c.notesOn className (f :: fs) = c.notesOn className [f] ++ c.notesOn className fs :=
      List.filterMap_append (l := [f])
    rcases compileFields_cons h with ⟨ht, h⟩ | ⟨target, handle, p', ht, hvis, h⟩
    · have hnone : c.notesOn className [f] = [] := by simp [notesOn, Registry.dangling?, ht]
      rw [hsplit, hnone, List.nil_append]
      exact notes_compileFields hv hnotes className m fs _ p fields q h hn
    · obtain ⟨hadds, _, hsome⟩ := hv target p handle p' hvis hn
      have hn' : (noteOmitted className f target handle p').store.Numbered := by
        rw [store_noteOmitted]
        exact hadds.numbered
      have hgrows := (compileFields_spec hv className m fs _ _ fields q h hn').1.grows
      have hfirst := hnotes target p handle p' hvis hn
      have hrest := notes_compileFields hv hnotes className m fs _ _ fields q h hn'
      rw [log_noteOmitted ht hsome, store_noteOmitted] at hrest
      rw [store_noteOmitted] at hgrows
      unfold Notes at hfirst
      rw [hsplit, hgrows.typesFrom_eq_append hadds.grows.size_le, omissions_append, List.map_append]
      -- the field's own note moves behind those of the types that the later fields add
      rw [List.perm_iff_count] at hfirst hrest ⊢
      intro d
      have hcount := hfirst d
      have hcount' := hrest d
      simp only [List.count_append] at hcount hcount' ⊢
      omega

/-- **A visit notes what the types that it adds omit**, however deep it may nest. -/
theorem notes_compileAt (c : Compiler) (flavor : Flavor) : ∀ (n : Nat) (className : String) (p : Pass)
    (handle : Option Nat) (q : Pass), c.compileAt flavor n className p = some (handle, q) → p.store.Numbered →
      c.Notes p q
  | 0, _, _, _, _, h, _ => by cases h
  | n + 1, className, p, handle, q, h, hn => by
    rcases visitBy_cases h with ⟨_, _, rfl⟩ | ⟨_, _, _, rfl⟩ | ⟨m, entity, fields, p', hm, _, hget, hr, _, rfl⟩
    · exact .refl c q
    · exact .refl c q
    · have hn' : (p.store.reserve flavor (Text.lowercase entity)).Numbered := hn.reserve hget
      have hv := visits_compileAt c flavor n
      have hsize := (compileFields_spec hv className m m.fields [] _ fields p' hr hn').1.grows.size_le
      have hown := notes_compileFields hv (notes_compileAt c flavor n) className m m.fields [] _ fields p' hr hn'
      dsimp only at hsize hown
      rw [TypeStore.size_reserve] at hsize hown
      -- the type has the slot before those of all types that its fields add
      let type : CompiledType := ⟨p.store.size, c.typeName flavor entity, className, flavor, fields⟩
      have hfilled : (p'.store.finish type).typesFrom p.store.size = type :: p'.store.typesFrom (p.store.size + 1) :=
        TypeStore.typesFrom_finish hsize
      have hnoted : (c.omissions (type :: p'.store.typesFrom (p.store.size + 1))).map Omission.note =
          c.notesOn className m.fields ++
            (c.omissions (p'.store.typesFrom (p.store.size + 1))).map Omission.note := by
        rw [omissions_cons, List.map_append, map_note_omissionsOf hm]
      unfold Notes
      rw [hfilled, hnoted]
      rw [List.append_assoc] at hown
      exact hown.trans (List.perm_append_comm.append_left p.log)

/-! ## Requests -/

/-- What some requests note, made in order. -/
def notesOf (c : Compiler) : List TypeRequest → TypeStore → List Diagnostic
  | [], _ => []
  | q :: requests, s => ((c.request q).run s).log ++ c.notesOf requests (c.storeOf s q)

/-- **A request notes what the types that it adds omit.** -/
theorem log_request_perm (hs : s.Numbered) (q : TypeRequest) :
    ((c.request q).run s).log.Perm ((c.omissions ((c.storeOf s q).typesFrom s.size)).map Omission.note) := by
  obtain ⟨handle, p, hr⟩ := c.compileAt_bound q.flavor q.className ⟨s, []⟩
  have hnotes := notes_compileAt c q.flavor c.bound q.className ⟨s, []⟩ handle p hr hs
  rw [log_request, storeOf_eq]
  unfold compile
  rw [hr]
  exact hnotes

theorem types_storeOf (c : Compiler) (hs : s.Numbered) (q : TypeRequest) :
    (c.storeOf s q).types = s.types ++ (c.storeOf s q).typesFrom s.size :=
  (storeOf_adds c hs q).grows.typesFrom_eq_append (Nat.zero_le _)

theorem notesOf_perm : ∀ (requests : List TypeRequest) {s : TypeStore}, c.Settled s →
    ((c.omissions s.types).map Omission.note ++ c.notesOf requests s).Perm
      ((c.omissions (requests.foldl c.storeOf s).types).map Omission.note)
  | [], s, _ => by rw [notesOf, List.append_nil, List.foldl_nil]
  | q :: requests, s, hs => by
    have hrest := notesOf_perm requests (hs.storeOf q)
    rw [types_storeOf c hs.numbered q, omissions_append, List.map_append, List.append_assoc] at hrest
    exact (((log_request_perm hs.numbered q).append_right _).append_left _).trans hrest

/-- **Every omitted foreign key is noted once.** The omissions of a store are the foreign keys to no entity of the
classes that have a type, taken once for each type. Requests in any order and with any repetitions note these, each
once and nothing else. Every request notes those of the types that it adds, so that one that adds none notes
nothing. -/
theorem omitted_keys_noted (declarations : List Declaration) (inputPrefix : String) (requests : List TypeRequest) :
    let c : Compiler := ⟨.ofDeclarations declarations, inputPrefix⟩
    let s := c.storeAfter requests
    (c.omissions s.types).Nodup ∧
    (∀ o, o ∈ c.omissions s.types ↔ o.type ∈ s.types ∧
      ∃ m, c.registry.model? o.type.className = some m ∧ o.field ∈ m.fields ∧
        o.field.kind.target? = some o.target ∧ ¬ c.registry.IsEntity o.target) ∧
    (c.notesOf requests .empty).Perm ((c.omissions s.types).map Omission.note) ∧
    ∀ q, ∃ added, (c.storeOf s q).types = s.types ++ added ∧
      ((c.request q).run s).log.Perm ((c.omissions added).map Omission.note) ∧
      ((c.storeOf s q).size = s.size → ((c.request q).run s).log = []) := by
  intro c s
  have hs : c.Settled s := settled_storeAfter c requests
  refine ⟨nodup_omissions (Registry.fieldsDistinct_ofDeclarations declarations) hs.nodup_types, fun o => ?_,
    notesOf_perm requests (settled_empty c), fun q => ?_⟩
  · unfold omissions
    rw [List.mem_flatMap]
    constructor
    · rintro ⟨type, ht, ho⟩
      obtain ⟨rfl, hrest⟩ := mem_omissionsOf_iff.1 ho
      exact ⟨ht, hrest⟩
    · rintro ⟨ht, hrest⟩
      exact ⟨o.type, ht, mem_omissionsOf_iff.2 ⟨rfl, hrest⟩⟩
  · have hperm := log_request_perm (c := c) hs.numbered q
    refine ⟨_, types_storeOf c hs.numbered q, hperm, fun hsize => ?_⟩
    rw [← hsize, TypeStore.typesFrom_size] at hperm
    exact hperm.eq_nil

end Compiler

end EntityGraph
