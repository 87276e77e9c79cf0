import EntityGraph.Guard
import Mathlib.Data.Nat.Init
/-!
# Chains of guards

The guards of a chain run in order, each on the response that the one before it left. The first that does not proceed
denies the call, and what stands after it is not run. Here this is said in three ways, which come to the same.

- By positions: which guard denies, which ones were run, and what their writes have left (`runsTo_run`).
- By parts: a chain in two parts is the first part and then, if that allows the call, the second (`run_append`).
- By continuations: every guard is handed what comes after it and calls it if it proceeds. A call is allowed just when
  as many continuations were called as there are guards (`protocol_eq`).

Chains that share a response run one after the other, each on what the guards before it have left, whatever became of
their calls (`runEach_append`, `leaveEach_eq`).
-/

namespace EntityGraph

namespace Verdict

/-- How many of `n` guards have run. -/
def reached (n : Nat) : Verdict → Nat
  | .allowed => n
  | .denied position => position + 1

/-- How many of `n` guards have proceeded. -/
def passed (n : Nat) : Verdict → Nat
  | .allowed => n
  | .denied position => position

/-- The verdict on guards that stand `n` places further back. -/
def shift (n : Nat) : Verdict → Verdict
  | .allowed => .allowed
  | .denied position => .denied (n + position)

variable {v : Verdict} {n position : Nat}

theorem shift_zero (v : Verdict) : v.shift 0 = v := by
  cases v with
  | allowed => rfl
  | denied position => exact congrArg denied (Nat.zero_add position)

theorem shift_shift (k n : Nat) (v : Verdict) : (v.shift n).shift k = v.shift (k + n) := by
  cases v with
  | allowed => rfl
  | denied position => exact congrArg denied (Nat.add_assoc k n position).symm

theorem shift_eq_allowed_iff : v.shift n = .allowed ↔ v = .allowed := by
  cases v <;> simp [shift]

theorem shift_eq_denied_iff : v.shift n = .denied position ↔ ∃ before, position = n + before ∧ v = .denied before := by
  cases v with
  | allowed => simp [shift]
  | denied before => simp [shift, eq_comm]

theorem reached_shift_one (n : Nat) (v : Verdict) : (v.shift 1).reached (n + 1) = v.reached n + 1 := by
  cases v with
  | allowed => rfl
  | denied position => exact congrArg (· + 1) (Nat.add_comm 1 position)

theorem passed_shift_one (n : Nat) (v : Verdict) : (v.shift 1).passed (n + 1) = v.passed n + 1 := by
  cases v with
  | allowed => rfl
  | denied position => exact Nat.add_comm 1 position

end Verdict

namespace GuardRun

variable {run : GuardRun} {n position : Nat} {next : Response → GuardRun}

/-- The run with a guard before it that proceeds. -/
def preceded (name : String) (run : GuardRun) : GuardRun :=
  ⟨run.verdict.shift 1, run.response, name :: run.ran⟩

/-- Goes on after a run of `n` guards, if they allowed the call. -/
def andThen (run : GuardRun) (n : Nat) (next : Response → GuardRun) : GuardRun :=
  match run.verdict with
  | .allowed =>
    let rest := next run.response
    ⟨rest.verdict.shift n, rest.response, run.ran ++ rest.ran⟩
  | .denied _ => run

theorem andThen_of_allowed (h : run.verdict = .allowed) : run.andThen n next =
    ⟨(next run.response).verdict.shift n, (next run.response).response, run.ran ++ (next run.response).ran⟩ := by
  unfold andThen
  rw [h]

theorem andThen_of_denied (h : run.verdict = .denied position) : run.andThen n next = run := by
  unfold andThen
  rw [h]

theorem preceded_andThen (name : String) (run : GuardRun) (n : Nat) (next : Response → GuardRun) :
    (run.andThen n next).preceded name = (run.preceded name).andThen (n + 1) next := by
  cases h : run.verdict with
  | allowed =>
    have hpreceded : (run.preceded name).verdict = .allowed := Verdict.shift_eq_allowed_iff.2 h
    rw [andThen_of_allowed h, andThen_of_allowed hpreceded]
    unfold preceded
    rw [Verdict.shift_shift, Nat.add_comm 1 n]
    rfl
  | denied position =>
    have hpreceded : (run.preceded name).verdict = .denied (1 + position) :=
      Verdict.shift_eq_denied_iff.2 ⟨position, rfl, h⟩
    rw [andThen_of_denied h, andThen_of_denied hpreceded]

end GuardRun

namespace Guard

variable {request : Request} {g : Guard} {gs : List Guard} {response : Response} {position : Nat}

def proceeds (g : Guard) (request : Request) (response : Response) : Bool := (g.check request response).1

/-- The response with what the guard writes. -/
def leaves (g : Guard) (request : Request) (response : Response) : Response := (g.check request response).2

/-! ## One guard and the rest

If the first guard proceeds, the others run on what it leaves, one place further back. -/

theorem runFrom_add (request : Request) (n : Nat) : ∀ (gs : List Guard) (position : Nat) (response : Response),
    runFrom request (n + position) gs response =
      let run := runFrom request position gs response
      { run with verdict := run.verdict.shift n }
  | [], _, _ => rfl
  | g :: gs, position, response => by
    unfold runFrom
    cases g.check request response with
    | mk proceeds next =>
      cases proceeds with
      | false => rfl
      | true =>
        dsimp only
        rw [Nat.add_assoc, runFrom_add request n gs (position + 1) next]

theorem run_of_proceeds (h : g.proceeds request response = true) : run (g :: gs) request response =
    (run gs request (g.leaves request response)).preceded g.name := by
  have hcheck : g.check request response = (true, g.leaves request response) := Prod.ext h rfl
  have hrest := runFrom_add request 1 gs 0 (g.leaves request response)
  unfold run
  rw [runFrom, hcheck]
  dsimp only
  rw [hrest]
  rfl

theorem run_of_stops (h : g.proceeds request response = false) :
    run (g :: gs) request response = ⟨.denied 0, g.leaves request response, [g.name]⟩ := by
  have hcheck : g.check request response = (false, g.leaves request response) := Prod.ext h rfl
  unfold run
  rw [runFrom, hcheck]

/-! ## By positions -/

/-- The response with what some guards write, each to what the one before it left. -/
def leaveAll (request : Request) (gs : List Guard) (response : Response) : Response :=
  gs.foldl (fun response g => g.leaves request response) response

/-- The guard at the position proceeds on what those before it leave. -/
def ProceedsAt (request : Request) (gs : List Guard) (response : Response) (position : Nat) : Prop :=
  ∃ g, gs[position]? = some g ∧ g.proceeds request (leaveAll request (gs.take position) response) = true

theorem proceedsAt_zero : ProceedsAt request (g :: gs) response 0 ↔ g.proceeds request response = true := by
  simp [ProceedsAt, leaveAll]

theorem proceedsAt_succ : ProceedsAt request (g :: gs) response (position + 1) ↔
    ProceedsAt request gs (g.leaves request response) position := by
  simp [ProceedsAt, leaveAll]

/-- What becomes of a run, said by positions. -/
structure RunsTo (request : Request) (gs : List Guard) (response : Response) (run : GuardRun) : Prop where
  allowed : run.verdict = .allowed ↔ ∀ position < gs.length, ProceedsAt request gs response position
  /-- The guard that denies the call is the first that does not proceed. -/
  denied : ∀ position, run.verdict = .denied position ↔ position < gs.length ∧
    ¬ ProceedsAt request gs response position ∧ ∀ before < position, ProceedsAt request gs response before
  /-- All guards up to it have run, in order, and no others. -/
  ran : run.ran = (gs.take (run.verdict.reached gs.length)).map (·.name)
  /-- Their writes and no others have been made. -/
  response : run.response = leaveAll request (gs.take (run.verdict.reached gs.length)) response

theorem runsTo_stopped (h : g.proceeds request response = false) :
    RunsTo request (g :: gs) response ⟨.denied 0, g.leaves request response, [g.name]⟩ := by
  have hstops : ¬ ProceedsAt request (g :: gs) response 0 := by
    rw [proceedsAt_zero, h]
    exact Bool.false_ne_true
  refine ⟨⟨nofun, fun hall => absurd (hall 0 (Nat.succ_pos _)) hstops⟩, fun position => ⟨?_, ?_⟩, rfl, rfl⟩
  · rintro ⟨⟩
    exact ⟨Nat.succ_pos _, hstops, nofun⟩
  · rintro ⟨_, _, hbefore⟩
    cases position with
    | zero => rfl
    | succ position => exact absurd (hbefore 0 (Nat.succ_pos _)) hstops

theorem RunsTo.cons (h : g.proceeds request response = true) {rest : GuardRun}
    (hrest : RunsTo request gs (g.leaves request response) rest) :
    RunsTo request (g :: gs) response (rest.preceded g.name) := by
  have hfirst : ProceedsAt request (g :: gs) response 0 := proceedsAt_zero.2 h
  unfold GuardRun.preceded
  refine ⟨?_, fun position => ?_, ?_, ?_⟩
  · rw [Verdict.shift_eq_allowed_iff, hrest.allowed, List.length_cons, Nat.forall_lt_succ_left]
    simp only [proceedsAt_succ]
    exact ⟨fun hall => ⟨hfirst, hall⟩, And.right⟩
  · cases position with
    | zero =>
      refine ⟨fun hdenied => ?_, fun hstops => absurd hfirst hstops.2.1⟩
      obtain ⟨before, hzero, _⟩ := Verdict.shift_eq_denied_iff.1 hdenied
      omega
    | succ position =>
      -- the denying guard stands one place further back than among the others
      have hback : rest.verdict.shift 1 = .denied (position + 1) ↔ rest.verdict = .denied position := by
        rw [Verdict.shift_eq_denied_iff, Nat.add_comm position 1]
        simp
      rw [hback, hrest.denied, List.length_cons, Nat.add_lt_add_iff_right, proceedsAt_succ, Nat.forall_lt_succ_left]
      simp only [proceedsAt_succ]
      exact ⟨fun ⟨hlt, hstops, hbefore⟩ => ⟨hlt, hstops, hfirst, hbefore⟩,
        fun ⟨hlt, hstops, _, hbefore⟩ => ⟨hlt, hstops, hbefore⟩⟩
  · rw [List.length_cons, Verdict.reached_shift_one, List.take_succ_cons, List.map_cons, hrest.ran]
  · rw [List.length_cons, Verdict.reached_shift_one, List.take_succ_cons]
    exact hrest.response

/-- **A chain runs up to the first guard that does not proceed**, each guard on what those before it leave. -/
theorem runsTo_run (request : Request) : ∀ (gs : List Guard) (response : Response),
    RunsTo request gs response (run gs request response)
  | [], response => ⟨⟨fun _ position h => absurd h (Nat.not_lt_zero position), fun _ => rfl⟩,
      fun position => ⟨nofun, fun h => absurd h.1 (Nat.not_lt_zero position)⟩, rfl, rfl⟩
  | g :: gs, response => by
    cases h : g.proceeds request response with
    | false =>
      rw [run_of_stops h]
      exact runsTo_stopped h
    | true =>
      rw [run_of_proceeds h]
      exact (runsTo_run request gs (g.leaves request response)).cons h

/-! ## By parts -/

/-- **A chain in two parts** is the first and, if that allows the call, the second on what the first leaves. A guard of
the second that denies the call stands as many places further back as the first has guards. -/
theorem run_append (request : Request) (hs : List Guard) : ∀ (gs : List Guard) (response : Response),
    run (gs ++ hs) request response = (run gs request response).andThen gs.length (run hs request)
  | [], response => by
    have hempty : run [] request response = ⟨.allowed, response, []⟩ := rfl
    rw [List.nil_append, hempty, GuardRun.andThen_of_allowed rfl, List.length_nil, Verdict.shift_zero, List.nil_append]
  | g :: gs, response => by
    rw [List.cons_append]
    cases h : g.proceeds request response with
    | false => rw [run_of_stops h, run_of_stops h, GuardRun.andThen_of_denied rfl]
    | true =>
      rw [run_of_proceeds h, run_of_proceeds h, run_append request hs gs, GuardRun.preceded_andThen, List.length_cons]

/-- What stands after the guard that denies the call has no effect: it can be replaced by anything. -/
theorem run_take_append (h : (run gs request response).verdict = .denied position) (later : List Guard) :
    run (gs.take (position + 1) ++ later) request response = run gs request response := by
  have hlt : position < gs.length := (((runsTo_run request gs response).denied position).1 h).1
  have hlength : (gs.take (position + 1)).length = position + 1 := List.length_take_of_le hlt
  have hwhole : run gs request response = (run (gs.take (position + 1)) request response).andThen (position + 1)
      (run (gs.drop (position + 1)) request) := by
    have hparts := run_append request (gs.drop (position + 1)) (gs.take (position + 1)) response
    rwa [List.take_append_drop, hlength] at hparts
  cases hfront : (run (gs.take (position + 1)) request response).verdict with
  | allowed =>
    rw [hwhole, GuardRun.andThen_of_allowed hfront] at h
    obtain ⟨before, hposition, _⟩ := Verdict.shift_eq_denied_iff.1 h
    omega
  | denied stop => rw [run_append, hwhole, GuardRun.andThen_of_denied hfront, GuardRun.andThen_of_denied hfront]

/-! ## By continuations -/

/-- A guard that is handed what comes after it. It reads and writes the response and, last of all, calls what comes
after it if it proceeds. The number counts the calls. -/
def handOver (request : Request) (g : Guard) (next : Nat × Response → Nat × Response) (reached : Nat × Response) :
    Nat × Response :=
  if g.proceeds request reached.2 then next (reached.1 + 1, g.leaves request reached.2)
  else (reached.1, g.leaves request reached.2)

/-- Every guard is handed the guards after it; after the last one there is nothing left to do. -/
def protocol (request : Request) (gs : List Guard) : Nat × Response → Nat × Response :=
  gs.foldr (handOver request) id

/-- **As many continuations are called as guards proceed**, and the response is left alike. -/
theorem protocol_eq (request : Request) : ∀ (gs : List Guard) (called : Nat) (response : Response),
    protocol request gs (called, response) =
      (called + (run gs request response).verdict.passed gs.length, (run gs request response).response)
  | [], _, _ => rfl
  | g :: gs, called, response => by
    have hunfold : protocol request (g :: gs) = handOver request g (protocol request gs) := rfl
    rw [hunfold]
    cases h : g.proceeds request response with
    | false =>
      rw [run_of_stops h]
      exact if_neg (by rw [h]; exact Bool.false_ne_true)
    | true =>
      rw [run_of_proceeds h]
      refine (if_pos h).trans ?_
      rw [protocol_eq request gs (called + 1)]
      unfold GuardRun.preceded
      rw [List.length_cons, Verdict.passed_shift_one, Nat.add_assoc, Nat.add_comm 1]

theorem allowed_iff_protocol : (run gs request response).verdict = .allowed ↔
    (protocol request gs (0, response)).1 = gs.length := by
  rw [protocol_eq, Nat.zero_add]
  cases h : (run gs request response).verdict with
  | allowed => exact ⟨fun _ => rfl, fun _ => rfl⟩
  | denied position =>
    have hlt : position < gs.length := (((runsTo_run request gs response).denied position).1 h).1
    exact ⟨nofun, fun he => absurd he (Nat.ne_of_lt hlt)⟩

/-! ## Chains that share a response -/

/-- Runs chains one after the other on one response, each for its own request and whatever became of the others. -/
def runEach : List (List Guard × Request) → Response → List GuardRun
  | [], _ => []
  | (gs, request) :: chains, response =>
    let own := run gs request response
    own :: runEach chains own.response

/-- The response that they leave. -/
def leaveEach (chains : List (List Guard × Request)) (response : Response) : Response :=
  chains.foldl (fun response chain => (run chain.1 chain.2 response).response) response

/-- The guards that run, each with the request that it sees. -/
def ranEach : List (List Guard × Request) → Response → List (Guard × Request)
  | [], _ => []
  | (gs, request) :: chains, response =>
    let own := run gs request response
    (gs.take (own.verdict.reached gs.length)).map (·, request) ++ ranEach chains own.response

/-- The response with what some guards write, each seeing its own request. -/
def leaveFor (ran : List (Guard × Request)) (response : Response) : Response :=
  ran.foldl (fun response r => r.1.leaves r.2 response) response

theorem leaveFor_map (request : Request) (gs : List Guard) (response : Response) :
    leaveFor (gs.map (·, request)) response = leaveAll request gs response := by
  unfold leaveFor leaveAll
  rw [List.foldl_map]

theorem runEach_append (after : List (List Guard × Request)) : ∀ (before : List (List Guard × Request))
    (response : Response), runEach (before ++ after) response =
      runEach before response ++ runEach after (leaveEach before response)
  | [], _ => rfl
  | (_, _) :: before, _ => congrArg (_ :: ·) (runEach_append after before _)

/-- **They leave what the guards that run have written**, and no others. -/
theorem leaveEach_eq : ∀ (chains : List (List Guard × Request)) (response : Response),
    leaveEach chains response = leaveFor (ranEach chains response) response
  | [], _ => rfl
  | (gs, request) :: chains, response => by
    let own := run gs request response
    let ran := (gs.take (own.verdict.reached gs.length)).map (·, request)
    have hown : own.response = leaveFor ran response :=
      (runsTo_run request gs response).response.trans (leaveFor_map request _ response).symm
    calc leaveEach ((gs, request) :: chains) response
        = leaveEach chains own.response := rfl
      _ = leaveFor (ranEach chains own.response) own.response := leaveEach_eq chains own.response
      _ = leaveFor (ranEach chains own.response) (leaveFor ran response) := congrArg (leaveFor _) hown
      _ = leaveFor (ran ++ ranEach chains own.response) response := List.foldl_append.symm

/-- **Guards in turn.** A chain runs up to the first guard that does not proceed, as if nothing stood after it. This is
what comes of handing every guard those after it, and of running its parts one after the other. Among chains that share
a response it runs on exactly what the guards that ran before have written. -/
theorem guards_in_turn (gs : List Guard) (request : Request) (response : Response) :
    let own := run gs request response
    RunsTo request gs response own ∧
    (∀ position, own.verdict = .denied position → ∀ later,
      run (gs.take (position + 1) ++ later) request response = own) ∧
    (own.verdict = .allowed ↔ (protocol request gs (0, response)).1 = gs.length) ∧
    protocol request gs (0, response) = (own.verdict.passed gs.length, own.response) ∧
    (∀ hs, run (gs ++ hs) request response = own.andThen gs.length (run hs request)) ∧
    ∀ before after : List (List Guard × Request),
      let shared := run gs request (leaveFor (ranEach before response) response)
      runEach (before ++ (gs, request) :: after) response =
        runEach before response ++ shared :: runEach after shared.response := by
  refine ⟨runsTo_run request gs response, fun _ h => run_take_append h, allowed_iff_protocol, ?_,
    fun hs => run_append request hs gs response, fun before after => ?_⟩
  · rw [protocol_eq, Nat.zero_add]
  · rw [runEach_append, leaveEach_eq]
    rfl

end Guard

end EntityGraph
