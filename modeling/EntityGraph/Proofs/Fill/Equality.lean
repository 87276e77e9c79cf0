import EntityGraph.Instance
import Mathlib.Data.List.Perm.Subperm
/-!
# What equal objects have in common

Two objects are equal if they are equally long and every field of the first has an equal one in the second. If no key
is repeated in the first, that is enough for both to have the same keys, and the same ones to be null
(`isSome_present?_of_same`).
-/

namespace EntityGraph

namespace Value

variable {mixed : Bool} {fs gs : List (String × Value)} {key : String} {v w : Value}

theorem sameWith_of_mem : ∀ {fs : List (String × Value)}, sameFields mixed fs gs = true → (key, v) ∈ fs →
    ∃ w, Entries.get? gs key = some w ∧ v.sameWith mixed w = true
  | (k, u) :: fs, h, hm => by
    unfold sameFields at h
    rw [Bool.and_eq_true] at h
    rcases List.mem_cons.1 hm with heq | hm
    · cases heq
      cases hg : Entries.get? gs key with
      | none => rw [hg] at h; cases h.1
      | some w => rw [hg] at h; exact ⟨w, rfl, h.1⟩
    · exact sameWith_of_mem h.2 hm

theorem isNull_of_sameWith (h : v.sameWith mixed w = true) (hv : v.isNull = true) : w.isNull = true := by
  cases v with
  | null => cases w with
    | null => rfl
    | _ => unfold sameWith at h; cases h
  | _ => cases hv

/-- **What is present in an object is present in every object that is equal to it.** -/
theorem isSome_present?_of_same (hn : (Entries.keys fs).Nodup) (h : (object fs).same (object gs) = true)
    (hp : ((object gs).present? key).isSome = true) : ((object fs).present? key).isSome = true := by
  unfold same sameWith at h
  rw [Bool.and_eq_true, beq_iff_eq] at h
  obtain ⟨hlength, hfields⟩ := h
  have hsub : Entries.keys fs ⊆ Entries.keys gs := by
    intro k hk
    obtain ⟨⟨k', u⟩, hm, rfl⟩ := List.mem_map.1 hk
    obtain ⟨u', hu, _⟩ := sameWith_of_mem hfields hm
    exact Entries.mem_keys_of_get? hu
  -- as many keys, so the same ones
  have hperm : (Entries.keys fs).Perm (Entries.keys gs) := by
    refine (List.subperm_of_subset hn hsub).perm_of_length_le (Nat.le_of_eq ?_)
    rw [Entries.keys, Entries.keys, List.length_map, List.length_map, hlength]
  obtain ⟨w, hw⟩ := Option.isSome_iff_exists.1 hp
  obtain ⟨hget, hnull⟩ := present?_eq_some_iff.1 hw
  cases hv : Entries.get? fs key with
  | none => exact absurd (hperm.mem_iff.2 (Entries.mem_keys_of_get? hget)) ((Entries.get?_eq_none_iff fs key).1 hv)
  | some v =>
    obtain ⟨w', hw', hsame⟩ := sameWith_of_mem hfields (Entries.mem_of_get? hv)
    have hww : w = w' := Option.some.inj (hget.symm.trans hw')
    cases hvnull : v.isNull with
    | true =>
      rw [hww, isNull_of_sameWith hsame hvnull] at hnull
      cases hnull
    | false =>
      have hpresent : (object fs).present? key = some v := present?_eq_some_iff.2 ⟨hv, hvnull⟩
      rw [hpresent]
      rfl

end Value

end EntityGraph
