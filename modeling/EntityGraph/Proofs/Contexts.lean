import EntityGraph.Context
import EntityGraph.Proofs.KeyedLog
import Mathlib.Data.List.Forall2
/-!
# What the handles on a response read

A context is made in steps, and then its response is written to through the context, its copies and, perhaps, a handle
from outside. A write is seen through just those handles that have its address, so that each reads what the writes at
this address amount to, in their order (`ResponseHandle.read_writeAll`). That is a register: the last status
(`status_ofWrites`), and under a name the last value set under that name in any mix of ASCII cases
(`header?_ofWrites`). Which holders share an address is decided when the context is built (`handle_eq_iff`). The request
is read the same way, but once it is made no write touches it.
-/

namespace EntityGraph

/-! ## Names in any mix of cases -/

namespace Text

/-- The same character, or the same ASCII letter in upper and in lower case. -/
def SameLetter (a b : Char) : Prop :=
  a = b ∨ a.isUpper = true ∧ b.toNat = a.toNat + 32 ∨ b.isUpper = true ∧ a.toNat = b.toNat + 32

/-- Names that differ in the case of ASCII letters only. -/
def SameUpToCase (s t : String) : Prop := List.Forall₂ SameLetter s.toList t.toList

theorem isUpper_iff_val (c : Char) : c.isUpper = true ↔ c.val ≥ 'A'.val ∧ c.val ≤ 'Z'.val := by
  unfold Char.isUpper
  exact decide_eq_true_iff

theorem isUpper_iff (c : Char) : c.isUpper = true ↔ 65 ≤ c.toNat ∧ c.toNat ≤ 90 := by
  rw [isUpper_iff_val, ge_iff_le, UInt32.le_iff_toNat_le, UInt32.le_iff_toNat_le]
  rfl

theorem toNat_toLower (c : Char) : c.toLower.toNat = if c.isUpper = true then c.toNat + 32 else c.toNat := by
  unfold Char.toLower
  by_cases h : c.isUpper = true
  · have hc := (isUpper_iff c).1 h
    rw [if_pos h, dif_pos ((isUpper_iff_val c).1 h), ← Char.toNat_val, UInt32.toNat_add, Char.toNat_val]
    exact Nat.mod_eq_of_lt (show c.toNat + 32 < 2 ^ 32 by omega)
  · rw [if_neg h, dif_neg (mt (isUpper_iff_val c).2 h)]

theorem toLower_eq_iff (a b : Char) : a.toLower = b.toLower ↔ SameLetter a b := by
  unfold SameLetter
  rw [← Char.toNat_inj, ← Char.toNat_inj, toNat_toLower, toNat_toLower]
  simp only [isUpper_iff]
  split <;> split <;> omega

theorem asciiLower_eq_iff (s t : String) : asciiLower s = asciiLower t ↔ SameUpToCase s t := by
  unfold asciiLower SameUpToCase
  rw [String.ofList_inj, ← List.forall₂_eq_eq_eq, List.forall₂_map_left_iff, List.forall₂_map_right_iff]
  simp only [toLower_eq_iff]

instance (s t : String) : Decidable (SameUpToCase s t) := decidable_of_iff _ (asciiLower_eq_iff s t)

end Text

/-! ## Headers -/

/-- The value that is set last under a name. -/
def headerOf? (headers : List (String × String)) (name : String) : Option String :=
  (headers.filter fun e => Text.SameUpToCase e.1 name).getLast?.map Prod.snd

/-- A header as it is kept, under its name in lower case. -/
def lowered (e : String × String) : String × String := (Text.asciiLower e.1, e.2)

/-- Headers are read under any spelling of their names. -/
theorem get?_lowered (d : Dict String) (headers : List (String × String)) (name : String) :
    (d.insertAll (headers.map lowered)).get? (Text.asciiLower name) =
      (headerOf? headers name).or (d.get? (Text.asciiLower name)) := by
  have hname : (fun e => e.1 == Text.asciiLower name) ∘ lowered = fun e => decide (Text.SameUpToCase e.1 name) := by
    funext e
    rw [Bool.eq_iff_iff, decide_eq_true_iff, ← Text.asciiLower_eq_iff]
    exact beq_iff_eq
  unfold headerOf?
  rw [Dict.get?_insertAll, List.filter_map, List.getLast?_map, Option.map_map, hname]
  rfl

/-- Where every step sets a slot or a header, the slot has what was set last and the headers are kept in their order. -/
theorem foldl_make {ρ σ α : Type} {after : ρ → σ → ρ} {slot? : σ → Option α} {header? : σ → Option (String × String)}
    (make : Option α → Dict String → ρ) (hafter : ∀ x slot headers, after (make slot headers) x =
      make ((slot? x).or slot) (headers.insertAll ((header? x).toList.map lowered)))
    (steps : List σ) (slot : Option α) (headers : Dict String) : steps.foldl after (make slot headers) =
      make ((steps.filterMap slot?).getLast?.or slot) (headers.insertAll ((steps.filterMap header?).map lowered)) := by
  induction steps using List.reverseRecOn with
  | nil => rfl
  | append_singleton steps x ih =>
    have hone : ∀ {β : Type} (f : σ → Option β), [x].filterMap f = (f x).toList := fun f => by
      cases hx : f x <;> simp [hx]
    rw [List.foldl_append, ih, List.foldl_cons, List.foldl_nil, hafter, List.filterMap_append, List.filterMap_append,
      hone, hone, List.getLast?_append, Option.or_assoc, List.map_append, Dict.insertAll_append]
    cases slot? x <;> rfl

/-! ## Requests -/

/-- One step in making a request. -/
inductive RequestStep
  | id (text : String)
  | header (name value : String)

namespace RequestStep

def id? : RequestStep → Option String
  | .id text => some text
  | .header _ _ => none

def header? : RequestStep → Option (String × String)
  | .id _ => none
  | .header name value => some (name, value)

end RequestStep

namespace Request

def after (r : Request) : RequestStep → Request
  | .id text => r.withId text
  | .header name value => r.withHeader name value

def ofSteps (steps : List RequestStep) : Request := steps.foldl after {}

theorem ofSteps_eq (steps : List RequestStep) : ofSteps steps =
    ⟨(steps.filterMap RequestStep.id?).getLast?.or none,
      Dict.insertAll .empty ((steps.filterMap RequestStep.header?).map lowered)⟩ :=
  foldl_make Request.mk (fun step _ _ => by cases step <;> rfl) steps none .empty

theorem id_ofSteps (steps : List RequestStep) :
    (ofSteps steps).id = (steps.filterMap RequestStep.id?).getLast? := by
  rw [ofSteps_eq]
  exact Option.or_none

theorem header?_ofSteps (steps : List RequestStep) (name : String) :
    (ofSteps steps).header? name = headerOf? (steps.filterMap RequestStep.header?) name := by
  rw [ofSteps_eq]
  exact (get?_lowered .empty _ name).trans Option.or_none

end Request

/-! ## Responses -/

/-- What is written through a handle on a response. -/
inductive Write
  | status (code : Nat)
  | header (name value : String)

namespace Write

def status? : Write → Option Nat
  | .status code => some code
  | .header _ _ => none

def header? : Write → Option (String × String)
  | .status _ => none
  | .header name value => some (name, value)

end Write

namespace Response

def after (r : Response) : Write → Response
  | .status code => r.setStatus code
  | .header name value => r.setHeader name value

def ofWrites (writes : List Write) : Response := writes.foldl after {}

theorem ofWrites_append (writes later : List Write) :
    ofWrites (writes ++ later) = later.foldl after (ofWrites writes) := by
  unfold ofWrites
  exact List.foldl_append

theorem ofWrites_eq (writes : List Write) : ofWrites writes =
    ⟨(writes.filterMap Write.status?).getLast?.or none,
      Dict.insertAll .empty ((writes.filterMap Write.header?).map lowered)⟩ :=
  foldl_make Response.mk (fun w _ _ => by cases w <;> rfl) writes none .empty

theorem status_ofWrites (writes : List Write) :
    (ofWrites writes).status = (writes.filterMap Write.status?).getLast? := by
  rw [ofWrites_eq]
  exact Option.or_none

theorem header?_ofWrites (writes : List Write) (name : String) :
    (ofWrites writes).header? name = headerOf? (writes.filterMap Write.header?) name := by
  rw [ofWrites_eq]
  exact (get?_lowered .empty _ name).trans Option.or_none

end Response

/-! ## Handles -/

namespace ResponseHandle

variable {h h' : ResponseHandle}

theorem read_write (h h' : ResponseHandle) (f : Response → Response) (s : Responses) :
    h'.read (h.write f s) = if h = h' then f (h'.read s) else h'.read s := by
  obtain ⟨address⟩ := h
  obtain ⟨address'⟩ := h'
  unfold read write
  simp only [mk.injEq, eq_comm]

theorem read_fresh (s : Responses) : (fresh s).1.read (fresh s).2 = {} := if_pos rfl

theorem read_fresh_of_lt {s : Responses} (hlt : h.address < s.next) : h.read (fresh s).2 = h.read s :=
  if_neg (Nat.ne_of_lt hlt)

/-- Writes through some handles, in order. -/
def writeAll (writes : List (ResponseHandle × Write)) (s : Responses) : Responses :=
  writes.foldl (fun s w => w.1.write (fun r => r.after w.2) s) s

theorem next_writeAll : ∀ (writes : List (ResponseHandle × Write)) (s : Responses), (writeAll writes s).next = s.next
  | [], _ => rfl
  | w :: writes, s => next_writeAll writes (w.1.write (fun r => r.after w.2) s)

/-- **A handle reads the writes through all handles at its address**, and no others. -/
theorem read_writeAll : ∀ (writes : List (ResponseHandle × Write)) (s : Responses) (h : ResponseHandle),
    h.read (writeAll writes s) =
      ((writes.filter fun w => w.1 = h).map Prod.snd).foldl Response.after (h.read s)
  | [], _, _ => rfl
  | w :: writes, s, h => by
    change h.read (writeAll writes (w.1.write (fun r => r.after w.2) s)) = _
    rw [read_writeAll writes, read_write, List.filter_cons]
    by_cases hw : w.1 = h
    · rw [if_pos hw, if_pos (decide_eq_true hw), List.map_cons, List.foldl_cons]
    · rw [if_neg hw, if_neg (by rw [decide_eq_true_eq]; exact hw)]

end ResponseHandle

/-! ## Contexts -/

namespace ContextBuilder

def after (b : ContextBuilder) : RequestStep → ContextBuilder
  | .id text => b.withRequestId text
  | .header name value => b.withHeader name value

def ofSteps (steps : List RequestStep) : ContextBuilder := steps.foldl after {}

theorem foldl_after : ∀ (steps : List RequestStep) (b : ContextBuilder),
    steps.foldl after b = ⟨steps.foldl Request.after b.request, b.response⟩
  | [], _ => rfl
  | step :: steps, b => by
    rw [List.foldl_cons, foldl_after steps, List.foldl_cons]
    cases step <;> rfl

theorem request_ofSteps (steps : List RequestStep) : (ofSteps steps).request = Request.ofSteps steps := by
  unfold ofSteps
  rw [foldl_after]
  rfl

end ContextBuilder

namespace Context

/-- Writes through what some holders have, in order. -/
def writeAll (c : Context) (writes : List (Holder × Write)) : Context :=
  writes.foldl (fun c w => c.write w.1 fun r => r.after w.2) c

theorem writeAll_eq : ∀ (writes : List (Holder × Write)) (c : Context), c.writeAll writes =
    { c with responses := ResponseHandle.writeAll (writes.map fun w => (c.handle w.1, w.2)) c.responses }
  | [], _ => rfl
  | w :: writes, c => writeAll_eq writes (c.write w.1 fun r => r.after w.2)

/-- The writes at the address that a holder has. -/
def heardOf (c : Context) (writes : List (Holder × Write)) (h : Holder) : List Write :=
  (writes.filter fun w => c.handle w.1 = c.handle h).map Prod.snd

/-- **A holder reads the writes of those at the same address.** -/
theorem response_writeAll (c : Context) (writes : List (Holder × Write)) (h : Holder) :
    (c.writeAll writes).response h = (c.heardOf writes h).foldl Response.after (c.response h) := by
  rw [writeAll_eq]
  refine (ResponseHandle.read_writeAll _ c.responses (c.handle h)).trans ?_
  unfold heardOf
  rw [List.filter_map, List.map_map]
  rfl

theorem request_own (c : Context) : c.own.request = c.request := by
  obtain ⟨request, shared, responses⟩ := c
  cases shared <;> rfl

theorem heardOf_append (c : Context) (writes more : List (Holder × Write)) (h : Holder) :
    c.heardOf (writes ++ more) h = c.heardOf writes h ++ c.heardOf more h := by
  unfold heardOf
  rw [List.filter_append, List.map_append]

/-! ## Who has which handle -/

/-- Without the handle from outside, the context and its copies have one at another address. -/
theorem handle_eq_iff : ∀ (c : Context) (h h' : Holder),
    c.handle h = c.handle h' ↔ c.shared = true ∨ (h = .outside ↔ h' = .outside)
  | ⟨_, true, _⟩, h, h' => iff_of_true (by cases h <;> cases h' <;> rfl) (.inl rfl)
  | ⟨_, false, _⟩, h, h' => by
    cases h <;> cases h' <;> simp [handle, own, builder, outside, ContextBuilder.build, ResponseHandle.fresh,
      RequestContext.clone, ResponseHandle.clone]

theorem heardOf_shared {c : Context} (hc : c.shared = true) (writes : List (Holder × Write)) (h : Holder) :
    c.heardOf writes h = writes.map Prod.snd := by
  unfold heardOf
  simp [handle_eq_iff, hc]

theorem heardOf_outside {c : Context} (hc : c.shared = false) (writes : List (Holder × Write)) :
    c.heardOf writes .outside = (writes.filter fun w => w.1 = .outside).map Prod.snd := by
  unfold heardOf
  simp [handle_eq_iff, hc]

theorem heardOf_apart {c : Context} (hc : c.shared = false) (writes : List (Holder × Write)) {h : Holder}
    (hh : h ≠ .outside) : c.heardOf writes h = (writes.filter fun w => w.1 ≠ .outside).map Prod.snd := by
  unfold heardOf
  simp [handle_eq_iff, hc, hh]

/-! ## From the beginning -/

/-- A context as it is made, with or without the handle from outside, through which something may have been written. -/
def made (steps : List RequestStep) (shared : Bool) (before : List Write) : Context :=
  let request := (ContextBuilder.ofSteps steps).request
  let s := ResponseHandle.writeAll (before.map (Prod.mk outside)) (ResponseHandle.fresh {}).2
  ⟨request, shared, ((builder request shared).build s).2⟩

/-- What is written through the handle from outside is heard of by whoever has that one, and by nobody else. -/
theorem heardOf_before (c : Context) (before : List Write) (h : Holder) :
    c.heardOf (before.map (Prod.mk .outside)) h = if c.handle .outside = c.handle h then before else [] := by
  unfold heardOf
  rw [List.filter_map, List.map_map]
  by_cases hh : c.handle .outside = c.handle h
  · rw [if_pos hh, List.filter_eq_self.2]
    · exact List.map_id' before
    · exact fun _ _ => decide_eq_true hh
  · rw [if_neg hh, List.filter_eq_nil_iff.2, List.map_nil]
    exact fun _ _ => by simpa using hh

/-- Before the context is made, the first handle reads what was written through it. -/
theorem read_outside (before : List Write) :
    outside.read (ResponseHandle.writeAll (before.map (Prod.mk outside)) (ResponseHandle.fresh {}).2) =
      Response.ofWrites before := by
  have hall : (before.map (Prod.mk outside)).filter (fun w => w.1 = outside) = before.map (Prod.mk outside) := by
    rw [List.filter_eq_self, List.forall_mem_map]
    exact fun _ _ => decide_eq_true rfl
  rw [ResponseHandle.read_writeAll, hall, List.map_map]
  exact congrArg (·.foldl Response.after {}) (List.map_id' before)

/-- What was written before is heard of by those that have the handle from outside. -/
theorem response_made (steps : List RequestStep) (shared : Bool) (before : List Write) (h : Holder) :
    (made steps shared before).response h =
      Response.ofWrites ((made steps shared before).heardOf (before.map (Prod.mk .outside)) h) := by
  rw [heardOf_before]
  cases shared with
  | true =>
    have hsame := (handle_eq_iff (made steps true before) .outside h).2 (.inl rfl)
    rw [if_pos hsame, response, ← hsame]
    exact read_outside before
  | false =>
    -- the context gets the address after that of the first handle
    have hnext : (ResponseHandle.writeAll (before.map (Prod.mk outside)) (ResponseHandle.fresh {}).2).next = 1 :=
      ResponseHandle.next_writeAll _ _
    by_cases hh : h = .outside
    · subst hh
      have hlt : outside.address < _ := Nat.lt_of_lt_of_eq Nat.zero_lt_one hnext.symm
      rw [if_pos rfl]
      exact (ResponseHandle.read_fresh_of_lt hlt).trans (read_outside before)
    · have hone : (made steps false before).handle h = ⟨1⟩ := by
        cases h with
        | outside => exact absurd rfl hh
        | _ => rfl
      have hapart : (made steps false before).handle .outside ≠ (made steps false before).handle h := by
        rw [hone]
        exact fun he => Nat.zero_ne_one (congrArg ResponseHandle.address he)
      rw [if_neg hapart, response, hone, ← hnext]
      exact ResponseHandle.read_fresh _

/-- **All that hold a response read one register**, whoever of them writes to it: the last status, and under a name the
last value that was set under this name up to the case of ASCII letters. If the response from outside is shared, this
is every write; if not, those through it and those through the context and its copies are kept apart. The context's
request reads the headers that it was made with, whatever is written. -/
theorem one_register (steps : List RequestStep) (shared : Bool) (before : List Write)
    (writes : List (Holder × Write)) (name : String) :
    let start := made steps shared before
    let c := start.writeAll writes
    let heard := start.heardOf (before.map (Prod.mk .outside) ++ writes)
    (∀ h, (c.response h).status = ((heard h).filterMap Write.status?).getLast? ∧
      (c.response h).header? name = headerOf? ((heard h).filterMap Write.header?) name) ∧
    (shared = true → ∀ h, heard h = before ++ writes.map Prod.snd) ∧
    (shared = false → heard .outside = before ++ (writes.filter fun w => w.1 = .outside).map Prod.snd ∧
      ∀ h, h ≠ .outside → heard h = (writes.filter fun w => w.1 ≠ .outside).map Prod.snd) ∧
    c.own.request = Request.ofSteps steps ∧ c.own.request.id = (steps.filterMap RequestStep.id?).getLast? ∧
    c.own.request.header? name = headerOf? (steps.filterMap RequestStep.header?) name := by
  intro m c heard
  have hrequest : c.own.request = Request.ofSteps steps := by
    rw [request_own, ← ContextBuilder.request_ofSteps]
    exact congrArg Context.request (writeAll_eq writes m)
  -- what was written before the context was made counts as written through the handle from outside
  refine ⟨fun h => ?_, fun hs h => ?_, fun hs => ⟨?_, fun h hh => ?_⟩, hrequest, ?_, ?_⟩
  · have hresponse : c.response h = Response.ofWrites (heard h) := by
      change c.response h = Response.ofWrites (m.heardOf _ h)
      rw [heardOf_append, Response.ofWrites_append, ← response_made, ← response_writeAll]
    rw [hresponse]
    exact ⟨Response.status_ofWrites _, Response.header?_ofWrites _ name⟩
  · exact (heardOf_append m _ writes h).trans (by
      rw [heardOf_before, if_pos ((handle_eq_iff m _ _).2 (.inl hs)), heardOf_shared hs])
  · exact (heardOf_append m _ writes .outside).trans (by rw [heardOf_before, if_pos rfl, heardOf_outside hs])
  · have hapart : m.handle .outside ≠ m.handle h := by
      rw [ne_eq, handle_eq_iff, show m.shared = false from hs]
      simpa using hh
    exact (heardOf_append m _ writes h).trans (by rw [heardOf_before, if_neg hapart, heardOf_apart hs _ hh]; rfl)
  · rw [hrequest]
    exact Request.id_ofSteps steps
  · rw [hrequest]
    exact Request.header?_ofSteps steps name

/-- A guard's header is overwritten through the handle outside, under another spelling. -/
example :
    let c := (made [] true [.status 200]).writeAll
      [(.context, .header "WWW-Authenticate" "Basic"), (.outside, .header "www-authenticate" "Bearer")]
    (c.response .copy).header? "Www-Authenticate" = some "Bearer" ∧ (c.response .context).status = some 200 := by
  decide

end Context

end EntityGraph
