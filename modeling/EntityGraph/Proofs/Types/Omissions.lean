import EntityGraph.Proofs.Types.Visit
/-!
# What compilations note

All that a compilation ever notes is foreign keys that it leaves out (`omissions_compile`). As in `Proofs.Types.Visit`,
a visit is followed field by field, and then however deep it may nest.
-/

namespace EntityGraph

/-- A note on a foreign key that was left out. -/
def Diagnostic.IsOmission (d : Diagnostic) : Prop :=
  ∃ className field target, d = .foreignKeyOmitted className field target

/-- Nothing but omissions was noted from one pass to the next. -/
def Pass.AddsOmissions (p q : Pass) : Prop := ∀ d ∈ q.log, d ∈ p.log ∨ d.IsOmission

namespace Pass

variable {p q r : Pass}

theorem AddsOmissions.refl (p : Pass) : p.AddsOmissions p := fun _ hd => .inl hd

theorem AddsOmissions.trans (h : p.AddsOmissions q) (h' : q.AddsOmissions r) : p.AddsOmissions r := fun d hd =>
  (h' d hd).elim (h d) .inr

end Pass

namespace Compiler

variable {c : Compiler} {flavor : Flavor}

theorem addsOmissions_noteOmitted (className : String) (f : Field) (target : String) (handle : Option Nat) (p : Pass) :
    p.AddsOmissions (noteOmitted className f target handle p) := by
  cases handle with
  | some _ => exact .refl p
  | none =>
    intro d hd
    rcases List.mem_append.1 hd with hd | hd
    · exact .inl hd
    · exact .inr ⟨className, f.name, target, List.mem_singleton.1 hd⟩

theorem addsOmissions_compileFields {visit : String → Pass → Option (Option Nat × Pass)}
    (hv : ∀ className p handle q, visit className p = some (handle, q) → p.AddsOmissions q) (className : String)
    (m : Model) : ∀ (fs : List Field) (done : List CompiledField) (p : Pass) (fields : List CompiledField) (q : Pass),
      c.compileFields flavor className m visit fs done p = some (fields, q) → p.AddsOmissions q
  | [], done, p, fields, q, h => by
    cases h
    exact .refl p
  | f :: fs, done, p, fields, q, h => by
    rcases compileFields_cons h with ⟨_, h⟩ | ⟨target, handle, p', _, hvis, h⟩
    · exact addsOmissions_compileFields hv className m fs _ p fields q h
    · have hvisit : p.AddsOmissions p' := hv target p handle p' hvis
      have hnote := addsOmissions_noteOmitted className f target handle p'
      exact (hvisit.trans hnote).trans (addsOmissions_compileFields hv className m fs _ _ fields q h)

theorem addsOmissions_compileAt (c : Compiler) (flavor : Flavor) : ∀ (n : Nat) (className : String) (p : Pass)
    (handle : Option Nat) (q : Pass), c.compileAt flavor n className p = some (handle, q) → p.AddsOmissions q
  | 0, _, _, _, _, h => by cases h
  | n + 1, className, p, handle, q, h => by
    rcases visitBy_cases h with ⟨_, _, rfl⟩ | ⟨_, _, _, rfl⟩ | ⟨m, entity, fields, p', _, _, _, hr, _, rfl⟩
    · exact .refl q
    · exact .refl q
    · intro d hd
      exact addsOmissions_compileFields (addsOmissions_compileAt c flavor n) className m m.fields [] _ fields p' hr d hd

/-- **A compilation notes nothing but omitted foreign keys.** -/
theorem omissions_compile (c : Compiler) (flavor : Flavor) (className : String) (s : TypeStore) :
    ∀ d ∈ (c.compile flavor className s).log, d.IsOmission := by
  obtain ⟨handle, q, hr⟩ := c.compileAt_bound flavor className ⟨s, []⟩
  unfold compile
  rw [hr]
  intro d hd
  exact (addsOmissions_compileAt c flavor c.bound className ⟨s, []⟩ handle q hr d hd).resolve_left List.not_mem_nil

end Compiler

end EntityGraph
