import EntityGraph.Dict
import Mathlib.Data.List.Induction
/-!
# Dictionaries read from a log

A dictionary may be read from a log, each item of which changes the entry of one key or of none (`collect`). It then
has the keys of the log in order of first mention (`keys_collect`), and under each key what the items of this key alone
make of a fresh entry (`get?_collect`): items of other keys make no difference, wherever they stand between them.

`ofList` is the case of items that replace their entry, where the last item of a key decides (`get?_ofList`).
-/

namespace EntityGraph

/-! ## First mentions -/

theorem eraseDups_concat (names : List String) (name : String) :
    (names ++ [name]).eraseDups = if name ∈ names then names.eraseDups else names.eraseDups ++ [name] := by
  rw [List.eraseDups_append]
  by_cases h : name ∈ names
  · simp [List.removeAll, h]
  · have hnew : [name].removeAll names = [name] := by simp [List.removeAll, h]
    rw [if_neg h, hnew]
    rfl

theorem nodup_eraseDups (names : List String) : names.eraseDups.Nodup := by
  induction names using List.reverseRecOn with
  | nil => exact List.nodup_nil
  | append_singleton names name ih =>
    rw [eraseDups_concat]
    split
    · exact ih
    · rename_i h
      have hnew : name ∉ names.eraseDups := h ∘ List.mem_eraseDups.1
      exact (List.perm_append_singleton name names.eraseDups).nodup_iff.2 (List.nodup_cons.2 ⟨hnew, ih⟩)

namespace Dict

variable {α δ : Type}

/-! ## Items that change an entry -/

section Collect

variable (key? : δ → Option String) (fresh : String → α) (step : α → δ → α)

/-- The dictionary that one more item makes of another. -/
def enter (d : Dict α) (x : δ) : Dict α :=
  match key? x with
  | some key => d.update key (fresh key) fun a => step a x
  | none => d

/-- Reads a log in which an item changes the entry of its key, if it has one. -/
def collect (log : List δ) : Dict α := log.foldl (enter key? fresh step) .empty

variable {key? fresh step}

theorem collect_concat (log : List δ) (x : δ) :
    collect key? fresh step (log ++ [x]) = enter key? fresh step (collect key? fresh step log) x := by
  unfold collect
  rw [List.foldl_append]
  rfl

/-- Keys stand where they are first mentioned. -/
theorem keys_collect (log : List δ) : (collect key? fresh step log).keys = (log.filterMap key?).eraseDups := by
  -- from the end, because the last item is the last to be read
  induction log using List.reverseRecOn with
  | nil => rfl
  | append_singleton log x ih =>
    rw [collect_concat, List.filterMap_append]
    unfold enter
    cases hx : key? x with
    | none => rw [List.filterMap_cons_none hx, List.filterMap_nil, List.append_nil, ih]
    | some key =>
      have hmem : key ∈ (log.filterMap key?).eraseDups ↔ key ∈ log.filterMap key? := List.mem_eraseDups
      rw [List.filterMap_cons_some hx, List.filterMap_nil, eraseDups_concat]
      simp only [update, keys_insert, ih, hmem]

/-- **Under a key stands what the items of this key make of a fresh entry.** -/
theorem get?_collect (log : List δ) (key : String) :
    (collect key? fresh step log).get? key =
      if key ∈ log.filterMap key? then some ((log.filter (key? · == some key)).foldl step (fresh key)) else none := by
  induction log using List.reverseRecOn with
  | nil => rfl
  | append_singleton log x ih =>
    rw [collect_concat, List.filterMap_append, List.filter_append]
    unfold enter
    cases hx : key? x with
    | none => simp [hx, ih]
    | some key' =>
      dsimp only
      unfold update
      rw [get?_insert]
      by_cases hkey : key' = key
      · subst hkey
        have hfresh : ((collect key? fresh step log).get? key').getD (fresh key') =
            (log.filter (key? · == some key')).foldl step (fresh key') := by
          rw [ih]
          split
          · rfl
          · rename_i hm
            -- a key that was not mentioned has no items
            have hnone : log.filter (key? · == some key') = [] := by
              rw [List.filter_eq_nil_iff]
              intro y hy hky
              exact hm (List.mem_filterMap.2 ⟨y, hy, beq_iff_eq.1 hky⟩)
            rw [hnone]
            rfl
        simp [hx, hfresh]
      · simp [hx, hkey, Ne.symm hkey, ih]

theorem get?_collect_eq_some {log : List δ} {key : String} {a : α}
    (h : (collect key? fresh step log).get? key = some a) :
    a = (log.filter (key? · == some key)).foldl step (fresh key) := by
  rw [get?_collect] at h
  split at h
  · exact (Option.some.inj h).symm
  · cases h

end Collect

end Dict

/-! ## Items that replace an entry -/

namespace Entries

variable {α : Type}

theorem insertAll_concat (d : Entries α) (entries : List (String × α)) (e : String × α) :
    d.insertAll (entries ++ [e]) = (d.insertAll entries).insert e.1 e.2 := by
  unfold insertAll
  rw [List.foldl_append]
  rfl

theorem keys_ofList (entries : List (String × α)) : (ofList entries).keys = (entries.map Prod.fst).eraseDups := by
  unfold ofList
  induction entries using List.reverseRecOn with
  | nil => rfl
  | append_singleton entries e ih =>
    have hmem : e.1 ∈ (entries.map Prod.fst).eraseDups ↔ e.1 ∈ entries.map Prod.fst := List.mem_eraseDups
    rw [insertAll_concat, keys_insert, ih, List.map_append, List.map_singleton, eraseDups_concat]
    simp only [hmem]

theorem mem_ofList {entries : List (String × α)} {e : String × α} : e ∈ ofList entries → e ∈ entries := by
  unfold ofList
  induction entries using List.reverseRecOn with
  | nil => exact id
  | append_singleton entries x ih =>
    rw [insertAll_concat, List.mem_append, List.mem_singleton]
    exact fun h => (mem_insert h).imp_left ih

theorem ofList_of_nodup (entries : List (String × α)) (h : (entries.map Prod.fst).Nodup) :
    ofList entries = entries := by
  unfold ofList
  induction entries using List.reverseRecOn with
  | nil => rfl
  | append_singleton entries e ih =>
    rw [List.map_append, List.nodup_append] at h
    have hfresh : get? entries e.1 = none := by
      rw [get?_eq_none_iff]
      exact fun hmem => h.2.2 e.1 hmem e.1 (List.mem_singleton_self e.1) rfl
    rw [insertAll_concat, ih h.1, insert_of_get?_eq_none entries e.2 hfresh]

/-- Writing entries to others is reading them after those. -/
theorem insertAll_of_nodup {d : Entries α} (h : d.keys.Nodup) (entries : List (String × α)) :
    d.insertAll entries = ofList (d ++ entries) := by
  have hd : ofList d = d := ofList_of_nodup d h
  unfold ofList insertAll at hd ⊢
  rw [List.foldl_append, hd]

/-- The last entry written under a key is read, and without one what was there. -/
theorem get?_insertAll (d : Entries α) (entries : List (String × α)) (key : String) :
    (d.insertAll entries).get? key =
      ((entries.filter (·.1 == key)).getLast?.map Prod.snd).or (d.get? key) := by
  induction entries using List.reverseRecOn with
  | nil => rfl
  | append_singleton entries e ih =>
    rw [insertAll_concat, get?_insert, ih, List.filter_append]
    by_cases he : e.1 = key
    · simp [he]
    · simp [he]

end Entries

namespace Dict

variable {α : Type}

theorem keys_ofList (entries : List (String × α)) : (ofList entries).keys = (entries.map Prod.fst).eraseDups :=
  Entries.keys_ofList entries

theorem mem_keys_ofList {entries : List (String × α)} {e : String × α} (he : e ∈ entries) :
    e.1 ∈ (ofList entries).keys := by
  rw [keys_ofList, List.mem_eraseDups]
  exact List.mem_map_of_mem he

theorem get?_insertAll (d : Dict α) (entries : List (String × α)) (key : String) :
    (d.insertAll entries).get? key = ((entries.filter (·.1 == key)).getLast?.map Prod.snd).or (d.get? key) :=
  Entries.get?_insertAll d.entries entries key

theorem get?_ofList (entries : List (String × α)) (key : String) :
    (ofList entries).get? key = ((entries.filter (·.1 == key)).getLast?).map Prod.snd :=
  (get?_insertAll empty entries key).trans Option.or_none

end Dict

end EntityGraph
