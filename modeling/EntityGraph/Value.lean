import EntityGraph.Entries
import EntityGraph.Number
/-!
# Values of the query language

Arguments, results and stored fields are all `Value`s. An object lists its entries in order; reading one takes the
first entry of a key, and `Value.ofEntries` builds an object in which no key is repeated.

`Value.same` is the equality of values: the order of an object's keys does not count, and an enum equals the string
with the same text.
-/

namespace EntityGraph

inductive Value
  | null
  | boolean (b : Bool)
  | number (n : Number)
  | text (s : String)
  | enumeration (name : String)
  | binary (bytes : List Nat)
  | list (items : List Value)
  | object (fields : List (String × Value))
deriving Inhabited

namespace Value

def ofEntries (entries : List (String × Value)) : Value := .object (Entries.ofList entries)

/-- The entry of an object under `key`; other values have none. -/
def get? : Value → String → Option Value
  | .object fields, key => Entries.get? fields key
  | _, _ => none

def isNull : Value → Bool
  | .null => true
  | _ => false

/-- The entry under `key`, unless it is null. -/
def present? (v : Value) (key : String) : Option Value :=
  (v.get? key).filter (!·.isNull)

theorem present?_eq_some_iff {v w : Value} {key : String} :
    v.present? key = some w ↔ v.get? key = some w ∧ w.isNull = false := by
  unfold present?
  rw [Option.filter_eq_some_iff, Bool.not_eq_true']

/-- What is there but not present is null. -/
theorem eq_null_of_present?_eq_none {v w : Value} {key : String} (h : v.present? key = none)
    (hw : v.get? key = some w) : w = .null := by
  cases w with
  | null => rfl
  | _ =>
    rw [present?_eq_some_iff.2 ⟨hw, rfl⟩] at h
    cases h

theorem present?_single {v : Value} (hv : v.isNull = false) (key : String) :
    (object [(key, v)]).present? key = some v := present?_eq_some_iff.2 ⟨if_pos rfl, hv⟩

/-! ## Equality -/

mutual

/-- Whether two values are equal, where `mixed` says whether an enum may equal a text. -/
def sameWith (mixed : Bool) : Value → Value → Bool
  | .null, .null => true
  | .boolean a, .boolean b => a == b
  | .number m, .number n => m.same n
  | .text s, .text t => s == t
  | .text s, .enumeration t => mixed && s == t
  | .enumeration s, .text t => mixed && s == t
  | .enumeration s, .enumeration t => s == t
  | .binary xs, .binary ys => xs == ys
  | .list xs, .list ys => sameItems mixed xs ys
  | .object fs, .object gs => fs.length == gs.length && sameFields mixed fs gs
  | _, _ => false

def sameItems (mixed : Bool) : List Value → List Value → Bool
  | [], [] => true
  | x :: xs, y :: ys => x.sameWith mixed y && sameItems mixed xs ys
  | _, _ => false

/-- Every field of the first list has an equal one in the second. -/
def sameFields (mixed : Bool) : List (String × Value) → List (String × Value) → Bool
  | [], _ => true
  | (k, v) :: fs, gs =>
    (match Entries.get? gs k with | some w => v.sameWith mixed w | none => false) && sameFields mixed fs gs

end

/-- The equality of values. -/
def same (v w : Value) : Bool := v.sameWith true w

/-- The equality of literals, which tells an enum from a text. -/
def identical (v w : Value) : Bool := v.sameWith false w

/-! ## Reading a value as something narrower -/

def asInt64? : Value → Option Int
  | .number (.int n) => if Number.fitsInt64 n then some n else none
  | _ => none

def asText? : Value → Option String
  | .text s => some s
  | .enumeration s => some s
  | _ => none

end Value

end EntityGraph
