import EntityGraph.Entries
/-!
# Dictionaries in order of first insertion

A `Dict` is a list of entries of which no two have one key. Models, resolver classes, methods, headers, root fields and
tables of types are all kept this way, so the order in which names were first mentioned is the order in which they are
listed. The entries of an object are not, because a value is defined together with them and cannot ask anything of
them.

Every operation is that of the entries together with the proof that keys stay distinct. A dictionary is read by its
keys alone: two that have the same entries in any order are read alike (`get?_of_perm`).
-/

namespace EntityGraph

@[ext] structure Dict (α : Type) where
  entries : Entries α
  distinct : entries.keys.Nodup

namespace Dict

variable {α : Type}

def empty : Dict α := ⟨[], List.nodup_nil⟩

def get? (d : Dict α) (key : String) : Option α := d.entries.get? key

def contains (d : Dict α) (key : String) : Bool := (d.get? key).isSome

def keys (d : Dict α) : List String := d.entries.keys

def values (d : Dict α) : List α := d.entries.map Prod.snd

def size (d : Dict α) : Nat := d.entries.length

def isEmpty (d : Dict α) : Bool := d.entries.isEmpty

def insert (d : Dict α) (key : String) (a : α) : Dict α :=
  ⟨d.entries.insert key a, Entries.nodup_keys_insert _ key a d.distinct⟩

/-- Changes the entry of `key`, which starts out as `fresh` if there is none. -/
def update (d : Dict α) (key : String) (fresh : α) (f : α → α) : Dict α :=
  d.insert key (f ((d.get? key).getD fresh))

def remove (d : Dict α) (key : String) : Dict α :=
  ⟨d.entries.filter (·.1 != key), d.distinct.sublist (List.filter_sublist.map _)⟩

/-- Writes entries one after the other. -/
def insertAll (d : Dict α) (entries : List (String × α)) : Dict α :=
  ⟨d.entries.insertAll entries, Entries.nodup_keys_insertAll entries d.distinct⟩

/-- Reads entries one by one, so that a repeated key keeps its first place and its last value. -/
def ofList (entries : List (String × α)) : Dict α := empty.insertAll entries

variable {d e : Dict α} {key key' : String} {a : α}

/-! ## Reading after writing -/

theorem get?_insert (d : Dict α) (key : String) (a : α) (key' : String) :
    (d.insert key a).get? key' = if key = key' then some a else d.get? key' :=
  Entries.get?_insert d.entries key a key'

@[simp] theorem get?_insert_self (d : Dict α) (key : String) (a : α) : (d.insert key a).get? key = some a :=
  Entries.get?_insert_self d.entries key a

theorem get?_insert_of_ne (d : Dict α) (a : α) (h : key ≠ key') : (d.insert key a).get? key' = d.get? key' :=
  Entries.get?_insert_of_ne d.entries a h

theorem get?_remove_of_ne (d : Dict α) (h : key' ≠ key) : (d.remove key).get? key' = d.get? key' :=
  (Entries.get?_filter (· != key) d.entries key').trans (if_pos (bne_iff_ne.2 h))

theorem get?_eq_none_iff (d : Dict α) (key : String) : d.get? key = none ↔ key ∉ d.keys :=
  Entries.get?_eq_none_iff d.entries key

theorem get?_eq_some_iff_mem : d.get? key = some a ↔ (key, a) ∈ d.entries := Entries.get?_eq_some_iff_mem d.distinct

theorem mem_of_get? (h : d.get? key = some a) : (key, a) ∈ d.entries := Entries.mem_of_get? h

theorem mem_values_of_get? (h : d.get? key = some a) : a ∈ d.values := List.mem_map.2 ⟨(key, a), mem_of_get? h, rfl⟩

theorem mem_keys_of_get? (h : d.get? key = some a) : key ∈ d.keys := Entries.mem_keys_of_get? h

theorem keys_insert (d : Dict α) (key : String) (a : α) :
    (d.insert key a).keys = if key ∈ d.keys then d.keys else d.keys ++ [key] :=
  Entries.keys_insert d.entries key a

theorem mem_insert {x : String × α} (h : x ∈ (d.insert key a).entries) : x ∈ d.entries ∨ x = (key, a) :=
  Entries.mem_insert h

theorem get?_of_perm (h : d.entries.Perm e.entries) (key : String) : e.get? key = d.get? key := by
  refine Option.ext fun a => ?_
  rw [get?_eq_some_iff_mem, get?_eq_some_iff_mem, h.mem_iff]

/-! ## Writing several times -/

theorem insertAll_append (d : Dict α) (entries more : List (String × α)) :
    d.insertAll (entries ++ more) = (d.insertAll entries).insertAll more := Dict.ext List.foldl_append

theorem insert_insert (d : Dict α) (key : String) (a b : α) : (d.insert key a).insert key b = d.insert key b :=
  Dict.ext (Entries.insert_insert d.entries key a b)

theorem update_update (d : Dict α) (key : String) (fresh : α) (f g : α → α) :
    (d.update key fresh f).update key fresh g = d.update key fresh fun a => g (f a) := by
  unfold update
  rw [get?_insert_self, insert_insert]
  rfl

/-! ## Adding at the end -/

theorem entries_insert_of_get?_eq_none (a : α) (h : d.get? key = none) :
    (d.insert key a).entries = d.entries ++ [(key, a)] :=
  Entries.insert_of_get?_eq_none d.entries a h

theorem size_insert (d : Dict α) (key : String) (a : α) :
    (d.insert key a).size = if d.contains key then d.size else d.size + 1 := by
  have hsize : ∀ d : Dict α, d.size = d.keys.length := fun d => (List.length_map _).symm
  have hcontains : d.contains key = true ↔ key ∈ d.keys := by
    unfold contains
    rw [Option.isSome_iff_ne_none, ne_eq, get?_eq_none_iff, Classical.not_not]
  rw [hsize, hsize, keys_insert]
  by_cases hc : d.contains key = true
  · rw [if_pos (hcontains.1 hc), if_pos hc]
  · rw [if_neg (hc ∘ hcontains.2), if_neg hc, List.length_append]
    rfl

theorem size_insert_of_get?_eq_none (a : α) (h : d.get? key = none) : (d.insert key a).size = d.size + 1 := by
  rw [size_insert, contains, h]
  rfl

theorem get?_of_isPrefix (hp : d.entries <+: e.entries) (h : d.get? key = some a) : e.get? key = some a :=
  Entries.get?_of_isPrefix hp h

end Dict

end EntityGraph
