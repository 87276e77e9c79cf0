import EntityGraph.Proofs.Types.Reachability
import EntityGraph.Schema.Builder
/-!
# Types keep their identity

A type is made once. Requests add to a store and change nothing that is there (`Settled.grows_foldl`), so a handle
stands for the same type from then on. A request for an entity whose name has a type of that flavor is answered with
that type: it adds nothing and notes nothing (`run_request_of_answers`), whether the type was asked for or was made
because a foreign key led to it. Looking a class up finds just this type (`Settled.lookup?_eq_some_iff`).
-/

namespace EntityGraph

namespace Compiler

variable {c : Compiler} {s : TypeStore} {flavor : Flavor} {className : String} {q : TypeRequest} {type : CompiledType}

/-! ## Later requests -/

theorem storeAfter_append (c : Compiler) (requests later : List TypeRequest) :
    c.storeAfter (requests ++ later) = later.foldl c.storeOf (c.storeAfter requests) := by
  unfold storeAfter
  rw [List.foldl_append]

/-- **Requests leave what is in a store as it is.** -/
theorem Settled.grows_foldl : ∀ (later : List TypeRequest) {s : TypeStore}, c.Settled s →
    s.Grows (later.foldl c.storeOf s)
  | [], s, _ => .refl s
  | q :: later, _, h => (storeOf_adds c h.numbered q).grows.trans (Settled.grows_foldl later (h.storeOf q))

/-! ## The type of an entity -/

/-- The store has this type of the flavor and the entity that are asked for. Entities are told apart by their names
in lower case. -/
def Answers (c : Compiler) (s : TypeStore) (q : TypeRequest) (type : CompiledType) : Prop :=
  type ∈ s.types ∧ type.flavor = q.flavor ∧ c.key? type.className = c.key? q.className

theorem Answers.grows {t : TypeStore} (ha : c.Answers s q type) (h : s.Grows t) : c.Answers t q type := by
  obtain ⟨hmem, hrest⟩ := ha
  obtain ⟨i, hi⟩ := TypeStore.mem_types_iff.1 hmem
  exact ⟨TypeStore.mem_types_iff.2 ⟨i, h.get?_eq_some hi⟩, hrest⟩

/-- What a class is linked to is the handle of the type that answers a request for it. -/
theorem Settled.answers_iff (h : c.Settled s) : c.Answers s q type ↔
    c.link? s q.flavor q.className = some type.handle ∧ s.get? type.handle = some type := by
  constructor
  · rintro ⟨hmem, hfl, hkey⟩
    obtain ⟨i, hi⟩ := TypeStore.mem_types_iff.1 hmem
    have hlink := h.link?_of_get? hi
    rw [hfl, link?_congr hkey] at hlink
    rw [(h.filled_of_get? hi).1]
    exact ⟨hlink, hi⟩
  · rintro ⟨hlink, hget⟩
    obtain ⟨type', hget', hfl, hkey⟩ := h.type_of_link? hlink
    rw [hget] at hget'
    cases hget'
    exact ⟨TypeStore.mem_types_iff.2 ⟨_, hget⟩, hfl, hkey⟩

theorem Settled.answers_of_link? (h : c.Settled s) (hl : (c.link? s q.flavor q.className).isSome = true) :
    ∃ type, c.Answers s q type := by
  obtain ⟨i, hi⟩ := Option.isSome_iff_exists.1 hl
  obtain ⟨type, hget, hfl, hkey⟩ := h.type_of_link? hi
  exact ⟨type, TypeStore.mem_types_iff.2 ⟨i, hget⟩, hfl, hkey⟩

/-- **Looking a class up finds the type of its entity**, and nothing else. -/
theorem Settled.lookup?_eq_some_iff (h : c.Settled s) :
    c.lookup? s q.className q.flavor = some type ↔ c.Answers s q type := by
  have hlookup : c.lookup? s q.className q.flavor = (c.link? s q.flavor q.className).bind s.get? := rfl
  rw [hlookup, h.answers_iff, Option.bind_eq_some_iff]
  constructor
  · rintro ⟨i, hlink, hget⟩
    have hhandle := (h.filled_of_get? hget).1
    rw [hhandle]
    exact ⟨hlink, hget⟩
  · rintro ⟨hlink, hget⟩
    exact ⟨type.handle, hlink, hget⟩

/-! ## Asking again -/

theorem compile_of_link? {i : Nat} (hl : c.link? s flavor className = some i) :
    c.compile flavor className s = ⟨(some i, s), []⟩ := by
  obtain ⟨key, hkey, hget⟩ := Option.bind_eq_some_iff.1 hl
  obtain ⟨handle, p, hr⟩ := c.compileAt_bound flavor className ⟨s, []⟩
  unfold compile
  rw [hr]
  rcases visitBy_cases hr with ⟨hnone, _⟩ | ⟨known, hknown, rfl, rfl⟩ | ⟨m, entity, _, _, hm, he, hfree, _⟩
  · rw [hkey] at hnone
    cases hnone
  · have hi : i = known := Option.some.inj (hl.symm.trans hknown)
    rw [hi]
  · -- an entity without an entry would have no link
    rw [link?_of_model hm he, hfree] at hl
    cases hl

/-- **A request that the store can answer changes nothing and notes nothing.** -/
theorem run_request_of_answers (h : c.Settled s) (ha : c.Answers s q type) :
    c.compile q.flavor q.className s = ⟨(some type.handle, s), []⟩ ∧ (c.request q).run s = ⟨(some type, s), []⟩ := by
  obtain ⟨hlink, hget⟩ := h.answers_iff.1 ha
  have hcompile := compile_of_link? hlink
  refine ⟨hcompile, ?_⟩
  have hrun : (c.request q).run s = ⟨((c.compile q.flavor q.className s).value.1.bind
      (c.compile q.flavor q.className s).value.2.get?, (c.compile q.flavor q.className s).value.2),
      (c.compile q.flavor q.className s).log ++ ([] ++ [])⟩ := by
    obtain ⟨flavor, className⟩ := q
    cases flavor <;> rfl
  rw [hrun, hcompile, Option.bind_some, hget]
  rfl

/-! ## Which types are there -/

/-- The entities that a finished type's foreign keys lead to have types as well. -/
theorem Settled.answers_of_target (h : c.Settled s) (ht : type ∈ s.types) {m : Model}
    (hm : c.registry.model? type.className = some m) {f : Field} (hf : f ∈ m.fields) {target : String}
    (htarget : f.kind.target? = some target) (he : c.registry.IsEntity target) :
    ∃ type', c.Answers s ⟨type.flavor, target⟩ type' := by
  obtain ⟨i, hi⟩ := TypeStore.mem_types_iff.1 ht
  obtain ⟨_, m', entity, hmade⟩ := h.filled_of_get? hi
  have hmm : m' = m := Option.some.inj (hmade.model.symm.trans hm)
  subst hmm
  refine h.answers_of_link? ?_
  rw [hmade.linked f hf target htarget, isSome_key?]
  exact he

/-- **Types keep their identity.** A handle stands for the same type whatever is asked for later. An entity that has a
type, because it was asked for or because a foreign key of another type leads to it, is answered with that type from
then on, without a change of the store and without a note. Looking a class up finds just the type that a request would
be answered with. -/
theorem types_keep_identity (c : Compiler) (requests : List TypeRequest) :
    let s := c.storeAfter requests
    (∀ i, i < s.size → ∃ type, s.get? i = some type ∧
      ∀ later, (c.storeAfter (requests ++ later)).get? i = some type) ∧
    (∀ q type later, c.Answers s q type →
      let t := c.storeAfter (requests ++ later)
      c.compile q.flavor q.className t = ⟨(some type.handle, t), []⟩ ∧ (c.request q).run t = ⟨(some type, t), []⟩) ∧
    (∀ q ∈ requests, c.registry.IsEntity q.className → ∃ type, c.Answers s q type) ∧
    (∀ type ∈ s.types, ∀ m, c.registry.model? type.className = some m → ∀ f ∈ m.fields, ∀ target,
      f.kind.target? = some target → c.registry.IsEntity target →
        ∃ type', c.Answers s ⟨type.flavor, target⟩ type') ∧
    (∀ q type, c.lookup? s q.className q.flavor = some type ↔ c.Answers s q type) ∧
    ∀ b : Builder, b.compiler = c → b.store = s → ∀ className,
      (∀ type, b.outputType className = .ok type ↔ c.Answers s ⟨.output, className⟩ type) ∧
      ((¬ ∃ type, c.Answers s ⟨.output, className⟩ type) →
        b.outputType className = .error (.unknownModel className)) := by
  intro s
  have hs : c.Settled s := settled_storeAfter c requests
  have hgrows : ∀ later, s.Grows (c.storeAfter (requests ++ later)) := fun later => by
    rw [storeAfter_append]
    exact hs.grows_foldl later
  refine ⟨fun i hi => ?_, fun q type later ha => ?_, fun q hq he => ?_, fun type ht m hm f hf target htarget he => ?_,
    fun q type => hs.lookup?_eq_some_iff, fun b hc hb className => ?_⟩
  · obtain ⟨type, hget, _⟩ := hs.filled i hi
    exact ⟨type, hget, fun later => (hgrows later).get?_eq_some hget⟩
  · exact run_request_of_answers (settled_storeAfter c _) (ha.grows (hgrows later))
  · exact hs.answers_of_link? (isSome_link?_storeAfter c requests q hq he)
  · exact hs.answers_of_target ht hm hf htarget he
  · have hlookup : ∀ type, c.lookup? s className .output = some type ↔ c.Answers s ⟨.output, className⟩ type :=
      fun _ => hs.lookup?_eq_some_iff (q := ⟨.output, className⟩)
    unfold Builder.outputType
    rw [hc, hb]
    cases hl : c.lookup? s className .output with
    | some type' =>
      have ha' := (hlookup type').1 hl
      refine ⟨fun type => ?_, fun hnone => absurd ⟨type', ha'⟩ hnone⟩
      rw [← hlookup type, hl, Except.ok.injEq, Option.some.injEq]
    | none =>
      refine ⟨fun type => ?_, fun _ => rfl⟩
      rw [← hlookup type, hl]
      exact ⟨fun h => (nomatch h), fun h => (nomatch h)⟩

end Compiler

end EntityGraph
