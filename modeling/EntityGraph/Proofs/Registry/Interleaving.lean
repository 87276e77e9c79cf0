import EntityGraph.Fill
import EntityGraph.Proofs.Registry.Log
import EntityGraph.Proofs.Types.Requests
import Mathlib.Data.List.Perm.Basic
/-!
# Declarations of several models, in any order

Models may refer to each other before or after their targets are declared. Two logs that declare every single model
alike, however they run the models together, make registries that agree on all models (`agree_of_interleaves`), and
nothing in compiling, filling and resolving depends on more than that: a target is looked up by its class, and the
order of the models is never read. So what is asked of a compiler or of the registry is answered alike, down to handles
and notes (`interleaved_alike`).
-/

namespace EntityGraph

/-! ## Registries that agree -/

namespace Registry

variable {r r' : Registry}

/-- Every class has the same model in both. -/
def Agree (r r' : Registry) : Prop := ∀ className, r.model? className = r'.model? className

theorem Agree.primaryKey? (h : r.Agree r') (target : String) : r.primaryKey? target = r'.primaryKey? target := by
  unfold Registry.primaryKey?
  rw [h target]

theorem Agree.flatIdKey? (h : r.Agree r') (target : String) (idColumn : IdColumn) :
    r.flatIdKey? target idColumn = r'.flatIdKey? target idColumn := by
  cases idColumn with
  | named key => rfl
  | conventional =>
    unfold Registry.flatIdKey?
    rw [h target]

theorem Agree.bind_flatIdKey? (h : r.Agree r') (target : String) (idColumn : Option IdColumn) :
    idColumn.bind (r.flatIdKey? target) = idColumn.bind (r'.flatIdKey? target) :=
  congrArg idColumn.bind (funext (h.flatIdKey? target))

theorem Agree.resolveForeignKey (h : r.Agree r') (target : String) (parent : Value) (fieldKey : String)
    (idColumn : Option String) :
    r.resolveForeignKey target parent fieldKey idColumn = r'.resolveForeignKey target parent fieldKey idColumn := by
  unfold Registry.resolveForeignKey
  rw [h.primaryKey?]

/-! ## Filling -/

variable {nested : String → String → Option (Logged (Option Instance))}

theorem Agree.fillField (h : r.Agree r') (raw : Value) (i : Instance) (f : Field) :
    r.fillField raw nested i f = r'.fillField raw nested i f := by
  unfold Registry.fillField
  cases f.kind with
  | primaryKey s => rfl
  | column s => rfl
  | foreignKey target idColumn =>
    simp only [h.bind_flatIdKey?, h.resolveForeignKey]

theorem Agree.fillFields (h : r.Agree r') (raw : Value) : ∀ (fs : List Field) (i : Instance),
    r.fillFields raw nested i fs = r'.fillFields raw nested i fs
  | [], _ => rfl
  | f :: fs, i => by
    unfold Registry.fillFields
    rw [h.fillField]
    exact congrArg _ (funext fun i => h.fillFields raw fs i)

theorem Agree.fillModel (h : r.Agree r') (raw : Value) (className : String) :
    r.fillModel raw nested className = r'.fillModel raw nested className := by
  unfold Registry.fillModel
  rw [h className]
  cases r'.model? className with
  | none => rfl
  | some m => simp only [h.fillFields]

mutual

/-- **Registries that agree fill every value alike**, and note the same. -/
theorem Agree.fillValue (h : r.Agree r') : ∀ (v : Value) (className : String),
    r.fillValue v className = r'.fillValue v className
  | .object fields, className => by
    have hentry : r.fillEntry fields = r'.fillEntry fields :=
      funext fun key => funext fun className => h.fillEntry fields key className
    unfold Registry.fillValue
    rw [hentry, h.fillModel]
  | .null, _ => by
    unfold Registry.fillValue
    rfl
  | .boolean _, className | .number _, className | .text _, className | .enumeration _, className
  | .binary _, className | .list _, className => by
    unfold Registry.fillValue
    exact h.fillModel _ _

theorem Agree.fillEntry (h : r.Agree r') : ∀ (fields : List (String × Value)) (key className : String),
    r.fillEntry fields key className = r'.fillEntry fields key className
  | [], _, _ => by
    unfold Registry.fillEntry
    rfl
  | (k, v) :: fields, key, className => by
    unfold Registry.fillEntry
    rw [h.fillValue v, h.fillEntry fields]

end

theorem Agree.fill (h : r.Agree r') (raw : Option Value) (className : Option String) :
    r.fill raw className = r'.fill raw className := by
  cases raw with
  | none => rfl
  | some raw =>
    cases className with
    | none => rfl
    | some className => exact h.fillValue raw className

end Registry

/-! ## Compiling -/

namespace Compiler

variable {c c' : Compiler} {flavor : Flavor}

/-- Both compilers have the same prefix, and registries that agree. -/
structure Agree (c c' : Compiler) : Prop where
  registry : c.registry.Agree c'.registry
  inputPrefix : c.inputPrefix = c'.inputPrefix

theorem Agree.typeName (h : c.Agree c') (flavor : Flavor) (entity : String) :
    c.typeName flavor entity = c'.typeName flavor entity := by
  unfold Compiler.typeName
  rw [h.inputPrefix]

theorem Agree.relationFields (h : c.Agree c') (m : Model) (done : List CompiledField) (f : Field) (target : String)
    (idColumn : Option IdColumn) (handle : Nat) :
    c.relationFields flavor m done f target idColumn handle =
      c'.relationFields flavor m done f target idColumn handle := by
  unfold Compiler.relationFields Compiler.flatField?
  simp only [h.registry.bind_flatIdKey?, h.registry.primaryKey?]

theorem Agree.compileFields (h : c.Agree c') (className : String) (m : Model)
    (visit : String → Pass → Option (Option Nat × Pass)) : ∀ (fs : List Field) (done : List CompiledField) (p : Pass),
      c.compileFields flavor className m visit fs done p = c'.compileFields flavor className m visit fs done p
  | [], _, _ => rfl
  | f :: fs, done, p => by
    unfold Compiler.compileFields
    cases f.kind with
    | primaryKey s => exact h.compileFields className m visit fs _ p
    | column s => exact h.compileFields className m visit fs _ p
    | foreignKey target idColumn => simp only [h.relationFields, h.compileFields className m visit fs]

theorem Agree.visitBy (h : c.Agree c') (flavor : Flavor) (visit : String → Pass → Option (Option Nat × Pass)) :
    c.visitBy flavor visit = c'.visitBy flavor visit := by
  funext className p
  unfold Compiler.visitBy
  simp only [h.registry className, h.typeName, h.compileFields]

theorem Agree.compileAt (h : c.Agree c') (flavor : Flavor) : ∀ n, c.compileAt flavor n = c'.compileAt flavor n
  | 0 => rfl
  | n + 1 => by
    have hvisit : c.visitBy flavor (c.compileAt flavor n) = c'.visitBy flavor (c'.compileAt flavor n) := by
      rw [h.compileAt flavor n, h.visitBy]
    exact hvisit

/-- Compilers that agree and may nest their visits equally deep do the same. -/
theorem Agree.compile (h : c.Agree c') (hb : c.bound = c'.bound) (flavor : Flavor) (className : String)
    (s : TypeStore) : c.compile flavor className s = c'.compile flavor className s := by
  unfold Compiler.compile
  rw [h.compileAt, hb]

theorem Agree.request (h : c.Agree c') (hb : c.bound = c'.bound) (q : TypeRequest) : c.request q = c'.request q := by
  have htype : c.compileType q.flavor q.className = c'.compileType q.flavor q.className := by
    unfold Compiler.compileType
    rw [show c.compile q.flavor q.className = c'.compile q.flavor q.className from funext (h.compile hb _ _)]
  obtain ⟨flavor, className⟩ := q
  cases flavor with
  | output => exact htype
  | input => exact htype

theorem Agree.lookup? (h : c.Agree c') (s : TypeStore) (className : String) (flavor : Flavor) :
    c.lookup? s className flavor = c'.lookup? s className flavor := by
  unfold Compiler.lookup? Compiler.key? Registry.entityName?
  rw [h.registry className]

end Compiler

/-! ## Calls to a compiler -/

/-- A request for a type, or a look at the types there are. -/
inductive CompilerCall
  | request (q : TypeRequest)
  | lookup (className : String) (flavor : Flavor)

namespace Compiler

variable {c c' : Compiler}

def answer (c : Compiler) : CompilerCall → StateT TypeStore Logged (Option CompiledType)
  | .request q => c.request q
  | .lookup className flavor => fun s => pure (c.lookup? s className flavor, s)

/-- What each of some calls is answered, what store it leaves and what it notes. -/
def transcript (c : Compiler) : List CompilerCall → TypeStore → List (Logged (Option CompiledType × TypeStore))
  | [], _ => []
  | call :: calls, s =>
    let answer := (c.answer call).run s
    answer :: c.transcript calls answer.value.2

theorem Agree.answer (h : c.Agree c') (hb : c.bound = c'.bound) (call : CompilerCall) :
    c.answer call = c'.answer call := by
  cases call with
  | request q => exact h.request hb q
  | lookup className flavor =>
    unfold Compiler.answer
    simp only [h.lookup?]

theorem Agree.transcript (h : c.Agree c') (hb : c.bound = c'.bound) : ∀ (calls : List CompilerCall) (s : TypeStore),
    c.transcript calls s = c'.transcript calls s
  | [], _ => rfl
  | call :: calls, s => by
    unfold Compiler.transcript
    rw [h.answer hb]
    exact congrArg _ (h.transcript hb calls _)

end Compiler

/-! ## Interleavings -/

namespace Declaration

variable {log log' : List Declaration}

/-- Each model is declared by the same declarations in the same order, in whatever order the models are. -/
def Interleaves (log log' : List Declaration) : Prop := ∀ className, ofModel className log = ofModel className log'

theorem mem_modelClass?_iff {className : String} :
    className ∈ log.filterMap modelClass? ↔ ofModel className log ≠ [] := by
  unfold ofModel
  rw [List.mem_filterMap, ne_eq, List.filter_eq_nil_iff]
  simp

end Declaration

namespace Registry

variable {log log' : List Declaration}

theorem agree_of_interleaves (h : Declaration.Interleaves log log') :
    (ofDeclarations log).Agree (ofDeclarations log') := by
  intro className
  rw [model?_ofDeclarations, model?_ofDeclarations]
  simp only [Declaration.mem_modelClass?_iff, h className]

theorem size_models (h : Declaration.Interleaves log log') :
    (ofDeclarations log).models.size = (ofDeclarations log').models.size := by
  have hkeys : ∀ log, (ofDeclarations log).models.keys = (log.filterMap Declaration.modelClass?).eraseDups := by
    intro log
    rw [models_ofDeclarations, Dict.keys_collect]
  have hperm : (ofDeclarations log).models.keys.Perm (ofDeclarations log').models.keys := by
    rw [hkeys, hkeys, List.perm_ext_iff_of_nodup (nodup_eraseDups _) (nodup_eraseDups _)]
    intro className
    rw [List.mem_eraseDups, List.mem_eraseDups, Declaration.mem_modelClass?_iff, Declaration.mem_modelClass?_iff,
      h className]
  have hsize : ∀ d : Dict Model, d.keys.length = d.size := fun d => List.length_map _
  rw [← hsize, ← hsize, hperm.length_eq]

/-- **The order in which models are declared does not matter**, as long as each is declared in the same way. Whatever a
compiler is asked for and asked about, each answer, the store after it and what it notes are the same, and so are the
results and the notes of filling and of resolving foreign keys, and the flat keys. -/
theorem interleaved_alike (log log' : List Declaration) (h : Declaration.Interleaves log log') :
    (∀ inputPrefix calls, (Compiler.mk (ofDeclarations log) inputPrefix).transcript calls .empty =
      (Compiler.mk (ofDeclarations log') inputPrefix).transcript calls .empty) ∧
    (∀ raw className, (ofDeclarations log).fill raw className = (ofDeclarations log').fill raw className) ∧
    (∀ target parent fieldKey idColumn, (ofDeclarations log).resolveForeignKey target parent fieldKey idColumn =
      (ofDeclarations log').resolveForeignKey target parent fieldKey idColumn) ∧
    ∀ target idColumn, (ofDeclarations log).flatIdKey? target idColumn =
      (ofDeclarations log').flatIdKey? target idColumn := by
  have hagree := agree_of_interleaves h
  refine ⟨fun inputPrefix calls => ?_, hagree.fill, hagree.resolveForeignKey, hagree.flatIdKey?⟩
  have hcompilers : (Compiler.mk (ofDeclarations log) inputPrefix).Agree ⟨ofDeclarations log', inputPrefix⟩ :=
    ⟨hagree, rfl⟩
  refine hcompilers.transcript ?_ calls .empty
  unfold Compiler.bound
  rw [size_models h]

/-- Persons and pets again, declared by turns: the key of a pet is known before that of a person, and a person refers
to pets only after all is said about them. -/
def petDeclarationsByTurns : List Declaration := [
  .entity "Pet" none,
  .field "Pet" "id" (.primaryKey .float) none,
  .entity "Person" none,
  .field "Pet" "owner" (.foreignKey "Person" (some (.named "personId"))) none,
  .field "Person" "id" (.primaryKey .float) none,
  .field "Person" "fullName" (.column .string) (some "name"),
  .field "Pet" "parent" (.foreignKey "Pet" none) none,
  .field "Person" "pet" (.foreignKey "Pet" (some .conventional)) none]

theorem pets_by_turns : Declaration.Interleaves petDeclarations petDeclarationsByTurns ∧
    (ofDeclarations petDeclarations).models.keys = ["Person", "Pet"] ∧
    (ofDeclarations petDeclarationsByTurns).models.keys = ["Pet", "Person"] ∧
    petCompiler.transcript [.request ⟨.input, "Person"⟩, .lookup "Pet" .input, .request ⟨.output, "Pet"⟩] .empty =
      (Compiler.mk (ofDeclarations petDeclarationsByTurns) "input").transcript
        [.request ⟨.input, "Person"⟩, .lookup "Pet" .input, .request ⟨.output, "Pet"⟩] .empty := by
  have h : Declaration.Interleaves petDeclarations petDeclarationsByTurns := by
    intro className
    by_cases hperson : "Person" = className
    · subst hperson
      rfl
    · by_cases hpet : "Pet" = className
      · subst hpet
        rfl
      · simp [Declaration.ofModel, petDeclarations, petDeclarationsByTurns, Declaration.modelClass?, hperson, hpet]
  exact ⟨h, by decide, by decide, (interleaved_alike _ _ h).1 "input" _⟩

end Registry

end EntityGraph
