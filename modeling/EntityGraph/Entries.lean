/-!
# Keyed entries

Entries stand in a list, each under a key. Writing under a key that is there already replaces the value and keeps the
entry's place; a new key goes last. Of two entries with one key the first is read, but writing alone never makes two
(`nodup_keys_insert`).

The main statements are `get?_insert` (a write is seen under its own key only) and `keys_insert` (it adds at most that
key, at the end).
-/

namespace EntityGraph

abbrev Entries (α : Type) := List (String × α)

namespace Entries

variable {α : Type}

def get? : Entries α → String → Option α
  | [], _ => none
  | (k, a) :: d, key => if k = key then some a else get? d key

def contains (d : Entries α) (key : String) : Bool := (d.get? key).isSome

def keys (d : Entries α) : List String := d.map Prod.fst

def insert : Entries α → String → α → Entries α
  | [], key, a => [(key, a)]
  | (k, b) :: d, key, a => if k = key then (k, a) :: d else (k, b) :: insert d key a

/-- Writes entries one after the other. -/
def insertAll (d : Entries α) (entries : List (String × α)) : Entries α :=
  entries.foldl (fun d e => d.insert e.1 e.2) d

/-- Reads entries one by one, so that a repeated key keeps its first place and its last value. -/
def ofList (entries : List (String × α)) : Entries α := insertAll [] entries

/-! ## Reading after writing -/

theorem get?_insert : ∀ (d : Entries α) (key : String) (a : α) (key' : String),
    (d.insert key a).get? key' = if key = key' then some a else d.get? key'
  | [], key, a, key' => rfl
  | (k, b) :: d, key, a, key' => by
    unfold insert
    by_cases hk : k = key
    · subst hk
      by_cases h : k = key' <;> simp [get?, h]
    · rw [if_neg hk]
      unfold get?
      rw [get?_insert d key a key']
      by_cases h : k = key'
      · subst h; simp [Ne.symm hk]
      · simp [h]

@[simp] theorem get?_insert_self (d : Entries α) (key : String) (a : α) :
    (d.insert key a).get? key = some a := by simp [get?_insert]

theorem get?_insert_of_ne (d : Entries α) {key key' : String} (a : α) (h : key ≠ key') :
    (d.insert key a).get? key' = d.get? key' := by simp [get?_insert, h]

theorem get?_eq_none_iff : ∀ (d : Entries α) (key : String), d.get? key = none ↔ key ∉ d.keys
  | [], key => by simp [get?, keys]
  | (k, a) :: d, key => by
    have ih := get?_eq_none_iff d key
    simp only [keys] at ih
    by_cases h : k = key
    · simp [get?, keys, h]
    · simp [get?, keys, h, ih, Ne.symm h]

theorem mem_of_get? : ∀ {d : Entries α} {key : String} {a : α}, d.get? key = some a → (key, a) ∈ d
  | (k, b) :: d, key, a, h => by
    unfold get? at h
    split at h
    · rename_i hk
      cases h
      rw [hk]
      exact List.mem_cons_self
    · exact List.mem_cons_of_mem _ (mem_of_get? h)

theorem mem_keys_of_get? {d : Entries α} {key : String} {a : α} (h : d.get? key = some a) : key ∈ d.keys :=
  List.mem_map.2 ⟨(key, a), mem_of_get? h, rfl⟩

theorem keys_insert : ∀ (d : Entries α) (key : String) (a : α),
    (d.insert key a).keys = if key ∈ d.keys then d.keys else d.keys ++ [key]
  | [], key, a => by simp [insert, keys]
  | (k, b) :: d, key, a => by
    have ih := keys_insert d key a
    simp only [keys] at ih
    by_cases h : k = key
    · simp [insert, keys, h]
    · by_cases hm : key ∈ d.map Prod.fst
      · simp [insert, keys, h, Ne.symm h, ih, hm]
      · simp [insert, keys, h, Ne.symm h, ih, hm]

theorem nodup_keys_insert (d : Entries α) (key : String) (a : α) (h : d.keys.Nodup) :
    (d.insert key a).keys.Nodup := by
  rw [keys_insert]
  split
  · exact h
  · rename_i hm
    rw [List.nodup_append]
    exact ⟨h, by simp, fun x hx y hy hxy => hm (by simp at hy; rw [← hy, ← hxy]; exact hx)⟩

theorem nodup_keys_insertAll : ∀ (entries : List (String × α)) {d : Entries α}, d.keys.Nodup →
    (d.insertAll entries).keys.Nodup
  | [], _, h => h
  | e :: entries, _, h => nodup_keys_insertAll entries (nodup_keys_insert _ e.1 e.2 h)

theorem mem_insert : ∀ {d : Entries α} {key : String} {a : α} {e : String × α}, e ∈ d.insert key a →
    e ∈ d ∨ e = (key, a)
  | [], _, _, _, h => .inr (List.mem_singleton.1 h)
  | (k, b) :: d, key, a, e, h => by
    unfold insert at h
    split at h
    · rename_i hk
      rcases List.mem_cons.1 h with he | he
      · rw [he, hk]
        exact .inr rfl
      · exact .inl (List.mem_cons_of_mem _ he)
    · rcases List.mem_cons.1 h with he | he
      · exact .inl (by rw [he]; exact List.mem_cons_self)
      · exact (mem_insert he).imp_left (List.mem_cons_of_mem _)

theorem get?_filter (p : String → Bool) : ∀ (d : Entries α) (key : String),
    get? (d.filter fun e => p e.1) key = if p key then d.get? key else none
  | [], key => by split <;> rfl
  | (k, a) :: d, key => by
    have ih := get?_filter p d key
    rw [List.filter_cons]
    by_cases hk : p k = true
    · rw [if_pos hk]
      unfold get?
      rw [ih]
      by_cases he : k = key
      · rw [if_pos he, if_pos he, if_pos (by rw [← he]; exact hk)]
      · rw [if_neg he, if_neg he]
    · rw [if_neg hk, ih]
      by_cases he : k = key
      · rw [if_neg (by rw [← he]; exact hk), if_neg (by rw [← he]; exact hk)]
      · rw [get?, if_neg he]

/-! ## Writing twice -/

theorem insert_insert : ∀ (d : Entries α) (key : String) (a b : α), (d.insert key a).insert key b = d.insert key b
  | [], key, a, b => if_pos rfl
  | (k, x) :: d, key, a, b => by
    by_cases h : k = key
    · simp [insert, h]
    · simp [insert, h, insert_insert d key a b]

/-! ## Adding at the end -/

theorem insert_of_get?_eq_none : ∀ (d : Entries α) {key : String} (a : α), d.get? key = none →
    d.insert key a = d ++ [(key, a)]
  | [], _, _, _ => rfl
  | (k, b) :: d, key, a, h => by
    unfold get? at h
    split at h
    · cases h
    · rename_i hk
      rw [insert, if_neg hk, insert_of_get?_eq_none d a h]
      rfl

theorem get?_of_isPrefix : ∀ {d e : Entries α} {key : String} {a : α}, d <+: e → d.get? key = some a →
    e.get? key = some a
  | [], _, _, _, _, h => by cases h
  | (k, b) :: d, e, key, a, hp, h => by
    obtain ⟨rest, rfl⟩ := hp
    rw [List.cons_append]
    unfold get? at h ⊢
    split at h
    · rename_i hk
      rw [if_pos hk, h]
    · rename_i hk
      rw [if_neg hk]
      exact get?_of_isPrefix (List.prefix_append d rest) h

/-! ## Entries of which no two have one key -/

theorem get?_eq_some_iff_mem {key : String} {a : α} : ∀ {d : Entries α}, d.keys.Nodup →
    (d.get? key = some a ↔ (key, a) ∈ d)
  | [], _ => ⟨fun h => (nomatch h), fun h => absurd h List.not_mem_nil⟩
  | (k, b) :: d, hn => by
    obtain ⟨hk, hn⟩ := List.nodup_cons.1 hn
    unfold get?
    rw [List.mem_cons]
    by_cases he : k = key
    · subst he
      rw [if_pos rfl, Option.some_inj]
      constructor
      · rintro rfl
        exact .inl rfl
      · rintro (h | h)
        · exact (Prod.mk.inj h).2.symm
        · exact absurd (List.mem_map.2 ⟨(k, a), h, rfl⟩) hk
    · rw [if_neg he, get?_eq_some_iff_mem hn]
      exact ⟨.inr, fun h => h.resolve_left fun h => he (Prod.mk.inj h).1.symm⟩

/-- Entries that list the same keys, none of them twice, and have the same under each, are the same. -/
theorem eq_of_get? : ∀ {d e : Entries α}, d.keys = e.keys → d.keys.Nodup →
    (∀ key ∈ d.keys, d.get? key = e.get? key) → d = e
  | [], [], _, _, _ => rfl
  | (k, a) :: d, (k', b) :: e, hkeys, hn, hget => by
    obtain ⟨hkey, hrest⟩ := List.cons.inj hkeys
    obtain rfl : k = k' := hkey
    obtain ⟨hk, hn⟩ := List.nodup_cons.1 hn
    have hhead : some a = some b := by simpa [get?] using hget k List.mem_cons_self
    have htail : d = e := by
      refine eq_of_get? hrest hn fun key hkey => ?_
      have hne : k ≠ key := fun he => hk (he ▸ hkey)
      have hsame := hget key (List.mem_cons_of_mem _ hkey)
      rwa [get?, if_neg hne, get?, if_neg hne] at hsame
    rw [Option.some.inj hhead, htail]

end Entries

end EntityGraph
