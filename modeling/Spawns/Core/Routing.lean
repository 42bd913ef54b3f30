/-
Where the spawn calls of a process send their tasks, with feature `compat`.

What a detector answers depends on the runtime its thread is in. A search that
gets to `find_global` calls it step by step, against the calls of other threads.
-/

import Spawns.Core.FindSpawn
import Spawns.Core.SpawnTask
import Spawns.Foundation.Product

namespace Spawns.Routing

open EventMachine

open SpawnCall (CallPoint)

open SpawnTask (Target target? context points)

open FindSpawn (localAnswer? unwrapFound selection)

open Machine (reaches_of_exec)

-- `C` is what tells one runtime from another, `none` of them included.
variable {Θ S L F C : Type}

structure Thread (S L F C : Type) where
  calls : SpawnCall.State S L F
  runtime : C

inductive ThreadAction (Θ S F C : Type) where
  | run (thread : Θ) (action : SpawnCall.Action S F)
  | setRuntime (thread : Θ) (runtime : C)

/-- What a search ends with, and where the thread is then. -/
inductive ThreadEvent (Θ S F C : Type) where
  | handedOver (thread : Θ) (context : Option S) (runtime : C) (target : Option (Target S F))
      (task : Nat)
  | refused (thread : Θ) (runtime : C) (failure : Failure)

def failed? : Search L F → Option Failure
  | .settled (.error failure) => some failure
  | _ => none

def failure? (items : List (Compat L F)) (calls : SpawnCall.State S L F) :
    SpawnCall.Action S F → Option Failure
  | .spawn findGlobal =>
      match calls.cell.value with
      | some _ => none
      | none => failed? (findSpawn items findGlobal)
  | .detected answer findGlobal =>
      match calls.frames with
      | .call (.detecting _ rest) :: _ => failed? (findSpawnAfter items rest findGlobal answer)
      | _ => none
  | _ => none

/-- A detector that returns gives its answer for the runtime of the thread. -/
def answered (detect : C → L → Option F) (thread : Thread S L F C) :
    SpawnCall.Action S F → SpawnCall.Action S F
  | .detected _ findGlobal =>
      match thread.calls.frames with
      | .call (.detecting detector _) :: _ =>
          .detected (detect thread.runtime detector) findGlobal
      | _ => .detected none findGlobal
  | action => action

def shown (items : List (Compat L F)) (thread : Θ) (own : Thread S L F C)
    (action : SpawnCall.Action S F) (events : List SpawnCall.Event) :
    List (ThreadEvent Θ S F C) :=
  (failure? items own.calls action).toList.map (.refused thread own.runtime) ++
    (SpawnCall.handedOver events).map (.handedOver thread (context own.calls.frames) own.runtime
      (target? (some items) own.calls action))

/-- The threads, as far as `find_global` leaves them alone. -/
def threads [DecidableEq Θ] [DecidableEq S] (items : List (Compat L F))
    (detect : C → L → Option F) :
    Machine (Θ → Thread S L F C) (ThreadAction Θ S F C) (ThreadEvent Θ S F C) where
  step state
    | .run thread action =>
        let own := state thread
        let action := answered detect own action
        match (SpawnCall.machine (some items)).step own.calls action with
        | some (calls, events) =>
            some (Function.update state thread { own with calls := calls },
              shown items thread own action events)
        | none => none
    | .setRuntime thread runtime =>
        some (Function.update state thread { state thread with runtime := runtime }, [])

/-! ### The calls of `find_global` -/

def isLocal : Compat L F → Bool
  | .localFn _ => true
  | _ => false

/-- The search gets to `find_global` when it goes on with these items. -/
def asksGlobal (items rest : List (Compat L F)) : Bool :=
  decide (1 < items.length) && !rest.any isLocal

def spawnAsks (items : List (Compat L F)) (calls : SpawnCall.State S L F) : Bool :=
  calls.cell.value.isNone && asksGlobal items items

def detectedAsks (items : List (Compat L F)) (detect : C → L → Option F)
    (thread : Thread S L F C) : Bool :=
  match thread.calls.frames with
  | .call (.detecting detector rest) :: _ =>
      (detect thread.runtime detector).isNone && asksGlobal items rest
  | _ => false

def asks (items : List (Compat L F)) (detect : C → L → Option F) (thread : Thread S L F C) :
    SpawnCall.Action S F → Bool
  | .spawn _ => spawnAsks items thread.calls
  | .detected _ _ => detectedAsks items detect thread
  | _ => false

inductive Asking (Θ : Type) where
  | spawn (thread : Θ)
  | detected (thread : Θ)

def Asking.thread : Asking Θ → Θ
  | .spawn thread => thread
  | .detected thread => thread

def Asking.action (found : Except Failure F) : Asking Θ → SpawnCall.Action S F
  | .spawn _ => .spawn found
  | .detected _ => .detected none found

abbrev State (Θ S L F C : Type) := (Θ → Thread S L F C) × FindGlobal.State Θ F

abbrev Action (Θ S F C : Type) :=
  ProductAction (ThreadAction Θ S F C) (FindGlobal.Action Θ) (Asking Θ)

abbrev Event (Θ S F C : Type) := ThreadEvent Θ S F C ⊕ FindGlobal.Event Θ F

def State.new (envVar : EnvVar) (runtimes : Θ → C) : State Θ S L F C :=
  (fun thread => ⟨.new none, runtimes thread⟩, .new envVar)

def idle (globals : FindGlobal.State Θ F) (thread : Θ) : Bool :=
  match globals.points thread with
  | .idle => true
  | _ => false

def returns? (globals : FindGlobal.State Θ F) (thread : Θ) :
    Option (Except Failure F × FindGlobal.Action Θ) :=
  match globals.points thread with
  | .getting => globals.found.get.map fun found => (found, .get thread)
  | .storing result => some ((globals.found.getOrInit result).1, .getOrInit thread)
  | _ => none

/-- A thread calls `find_global` where its search gets there, does nothing else
until that returns, and goes on with what it returns. -/
def coupling (items : List (Compat L F)) (detect : C → L → Option F) :
    Coupling (Θ → Thread S L F C) (FindGlobal.State Θ F) (ThreadAction Θ S F C)
      (FindGlobal.Action Θ) (Asking Θ) where
  leftAlone state
    | .run thread action => idle state.2 thread && !asks items detect (state.1 thread) action
    | .setRuntime thread _ => idle state.2 thread
  rightAlone state
    | .call thread =>
        decide ((state.1 thread).calls.mode = .running) &&
          (spawnAsks items (state.1 thread).calls || detectedAsks items detect (state.1 thread))
    | .get _ => state.2.found.get.isNone
    | .getOrInit _ => false
    | _ => true
  together state asking :=
    match returns? state.2 asking.thread with
    | some (found, returning) =>
        if asks items detect (state.1 asking.thread) (asking.action found) then
          some (.run asking.thread (asking.action found), returning)
        else none
    | none => none

def machine [DecidableEq Θ] [DecidableEq S] (panicMultiple : Bool) (items : List (Compat L F))
    (detect : C → L → Option F) :
    Machine (State Θ S L F C) (Action Θ S F C) (Event Θ S F C) :=
  .product (threads items detect) (FindGlobal.machine panicMultiple items) (coupling items detect)

/-! ### What one search ends with -/

def Silent (detect : L → Option F) (items : List (Compat L F)) : Prop :=
  ∀ item ∈ items, localAnswer? detect item = none

/-- The search stands at this detector, and those before it gave no answer. -/
def Passed (items : List (Compat L F)) (detect : L → Option F) (detector : L)
    (rest : List (Compat L F)) : Prop :=
  ∃ before, items = before ++ .localFn detector :: rest ∧ Silent detect before

variable {items rest : List (Compat L F)} {detect : L → Option F} {panicMultiple : Bool}
  {envVar : EnvVar} {global : Except Failure F}

private theorem silent_of_unlocal (unlocal : rest.any isLocal = false) (detect : L → Option F) :
    Silent detect rest := by
  intro item member
  have global := List.any_eq_false.mp unlocal item member
  cases item with
  | localFn detector => exact absurd rfl global
  | global | namedGlobal => rfl

private theorem Silent.append {before after : List (Compat L F)} (first : Silent detect before)
    (second : Silent detect after) : Silent detect (before ++ after) := by
  intro item member
  exact (List.mem_append.mp member).elim (first item) (second item)

private theorem findLocal_cases (global : Except Failure F) (items : List (Compat L F)) :
    (∃ before detector rest, findLocal global items = .detect detector rest ∧
        items = before ++ .localFn detector :: rest ∧ before.any isLocal = false) ∨
      findLocal global items = .settled global ∧ items.any isLocal = false := by
  induction items with
  | nil => exact .inr ⟨rfl, rfl⟩
  | cons item rest ih =>
      cases item with
      | localFn detector => exact .inl ⟨[], detector, rest, rfl, rfl, rfl⟩
      | global spawn =>
          rcases ih with ⟨before, detector, after, found, rfl, unlocal⟩ | ⟨found, unlocal⟩
          · exact .inl ⟨.global spawn :: before, detector, after, found, rfl, unlocal⟩
          · exact .inr ⟨found, unlocal⟩
      | namedGlobal name spawn =>
          rcases ih with ⟨before, detector, after, found, rfl, unlocal⟩ | ⟨found, unlocal⟩
          · exact .inl
              ⟨.namedGlobal name spawn :: before, detector, after, found, rfl, unlocal⟩
          · exact .inr ⟨found, unlocal⟩

private theorem selection_answered {detector : L} {spawn : F}
    (passed : Passed items detect detector rest)
    (answer : detect detector = some spawn) :
    selection panicMultiple items detect envVar = .ok (some spawn) := by
  obtain ⟨before, rfl, silent⟩ := passed
  have none : before.filterMap (localAnswer? detect) = [] := List.filterMap_eq_nil_iff.mpr silent
  simp [selection, none, localAnswer?, answer]

private theorem selection_silent (silent : Silent detect items) :
    selection panicMultiple items detect envVar =
      unwrapFound (pickGlobal panicMultiple items envVar.toOption) := by
  have unanswered : FindSpawn.findLocal detect items = none :=
    List.findSome?_eq_none_iff.mpr silent
  rw [← FindSpawn.searchAll_selects, FindSpawn.searchAll, unanswered]
  rfl

/-- The search stands where it should, or it selects, provided that what
`find_global` answers where it is asked was picked for this value of the variable. -/
structure Leads (panicMultiple : Bool) (items : List (Compat L F)) (detect : L → Option F)
    (asked : Bool) (global : Except Failure F) (found : Search L F) : Prop where
  detects : ∀ detector rest, found = .detect detector rest → Passed items detect detector rest
  settles : ∀ result, found = .settled result → ∀ envVar : EnvVar,
    (asked = true → global = pickGlobal panicMultiple items envVar.toOption) →
      unwrapFound result = selection panicMultiple items detect envVar

private theorem leads_settled {asked : Bool} {result : Except Failure F}
    (selects : ∀ envVar : EnvVar,
      (asked = true → global = pickGlobal panicMultiple items envVar.toOption) →
        unwrapFound result = selection panicMultiple items detect envVar) :
    Leads panicMultiple items detect asked global (.settled result) :=
  ⟨nofun, fun _ same => by cases same; exact selects⟩

private theorem leads_findLocal {before : List (Compat L F)} (whole : items = before ++ rest)
    (many : 1 < items.length) (silent : Silent detect before) :
    Leads panicMultiple items detect (asksGlobal items rest) global (findLocal global rest) := by
  rcases findLocal_cases global rest with
    ⟨skipped, detector, after, found, rfl, unlocal⟩ | ⟨found, unlocal⟩
  · rw [found]
    refine ⟨?_, nofun⟩
    rintro _ _ ⟨⟩
    refine ⟨before ++ skipped, ?_, silent.append (silent_of_unlocal unlocal detect)⟩
    rw [whole, List.append_assoc]
  · rw [found]
    apply leads_settled
    intro envVar picked
    have asked : asksGlobal items rest = true := by
      rw [asksGlobal, unlocal, decide_eq_true many]
      rfl
    have all : Silent detect items := by
      rw [whole]
      exact silent.append (silent_of_unlocal unlocal detect)
    rw [picked asked, selection_silent all]

private theorem leads_findSpawn (panicMultiple : Bool) (items : List (Compat L F))
    (detect : L → Option F) (global : Except Failure F) :
    Leads panicMultiple items detect (asksGlobal items items) global (findSpawn items global) := by
  match items with
  | [] =>
      apply leads_settled
      intro envVar _
      simp [unwrapFound, selection, globalCount]
  | [.namedGlobal name spawn] =>
      apply leads_settled
      intro envVar _
      exact (FindSpawn.selection_named panicMultiple name spawn detect envVar).symm
  | [.global spawn] =>
      apply leads_settled
      intro envVar _
      exact (FindSpawn.selection_single panicMultiple (.global spawn) detect envVar rfl rfl).symm
  | [.localFn detector] =>
      constructor
      · rintro _ _ ⟨⟩
        exact ⟨[], rfl, List.forall_mem_nil _⟩
      · intro result settled
        cases settled
  | first :: second :: others =>
      have general : findSpawn (first :: second :: others) global =
          findLocal global (first :: second :: others) := by
        cases first <;> rfl
      rw [general]
      exact leads_findLocal (List.nil_append _).symm (by simp) (List.forall_mem_nil _)

private theorem leads_findSpawnAfter {detector : L} (passed : Passed items detect detector rest) :
    Leads panicMultiple items detect ((detect detector).isNone && asksGlobal items rest) global
      (findSpawnAfter items rest global (detect detector)) := by
  obtain ⟨before, whole, silent⟩ := passed
  cases answer : detect detector with
  | some spawn =>
      apply leads_settled
      intro envVar _
      exact (selection_answered ⟨before, whole, silent⟩ answer).symm
  | none =>
      have unanswered : Silent detect (before ++ [.localFn detector]) := by
        refine silent.append ?_
        intro item member
        rw [List.mem_singleton.mp member]
        exact answer
      have through : items = (before ++ [.localFn detector]) ++ rest := by
        rw [whole, List.append_assoc]
        rfl
      have length : items.length = before.length + rest.length + 1 := by
        rw [whole, List.length_append, List.length_cons]
        omega
      rw [Option.isNone_none, Bool.true_and, findSpawnAfter]
      by_cases single : items.length = 1
      · obtain rfl : before = [] := List.eq_nil_of_length_eq_zero (by omega)
        obtain rfl : rest = [] := List.eq_nil_of_length_eq_zero (by omega)
        rw [if_pos single, whole]
        apply leads_settled
        intro envVar _
        rw [List.nil_append, FindSpawn.selection_local, answer]
        rfl
      · rw [if_neg single]
        exact leads_findLocal through (by omega) unanswered

/-! ### What one step of a thread does -/

/-- The task goes to the innermost scope of the thread, and without one to what is
selected for the runtime of the thread, or it is refused for that reason. -/
def ThreadEvent.Routed (panicMultiple : Bool) (items : List (Compat L F))
    (detect : C → L → Option F) (envVar : EnvVar) : ThreadEvent Θ S F C → Prop
  | .handedOver _ (some spawner) _ target _ => target = some (.scoped spawner)
  | .handedOver _ none runtime target _ => ∃ spawn, target = some (.compat spawn) ∧
      selection panicMultiple items (detect runtime) envVar = .ok (some spawn)
  | .refused _ runtime failure =>
      selection panicMultiple items (detect runtime) envVar = unwrapFound (.error failure)

variable {calls next : SpawnCall.State S L F} {events : List SpawnCall.Event} {runtime : C}
  {detects : C → L → Option F} {thread : Θ}

def leadsTo (created : Nat) : Search L F → CallPoint L F
  | .detect detector rest => .detecting detector rest
  | .settled (.ok _) => .running created
  | .settled (.error _) => .discarding

private theorem search_points (calls : SpawnCall.State S L F) (found : Search L F) :
    points (SpawnCall.search calls found).1.frames =
      leadsTo calls.created found :: points calls.frames := by
  cases found with
  | detect detector rest => rfl
  | settled result =>
      cases result with
      | ok spawn => rfl
      | error failure => cases failure <;> rfl

private theorem search_cell (calls : SpawnCall.State S L F) (found : Search L F) :
    (SpawnCall.search calls found).1.cell = calls.cell := by
  cases found with
  | detect detector rest => rfl
  | settled result =>
      cases result with
      | ok spawn => rfl
      | error failure => cases failure <;> rfl

private theorem search_routed {found : Search L F}
    (selects : ∀ result, found = .settled result →
      unwrapFound result = selection panicMultiple items (detects runtime) envVar) :
    ∀ event ∈ (failed? found).toList.map (.refused thread runtime) ++
        (SpawnCall.handedOver (SpawnCall.search calls found).2).map
          (.handedOver thread none runtime (SpawnTask.found? found)),
      ThreadEvent.Routed panicMultiple items detects envVar (event : ThreadEvent Θ S F C) := by
  intro event member
  cases found with
  | detect detector rest => cases member
  | settled result =>
      cases result with
      | ok spawn =>
          cases List.mem_singleton.mp member
          exact ⟨spawn, rfl, (selects _ rfl).symm⟩
      | error failure =>
          have refused : event = .refused thread runtime failure := by
            cases failure <;> exact List.mem_singleton.mp member
          rw [refused]
          exact (selects _ rfl).symm

/-- A thread searches outside of scopes, past detectors that give no answer. -/
structure Placed (items : List (Compat L F)) (detects : C → L → Option F)
    (own : Thread S L F C) : Prop where
  sound : SpawnCall.Sound none own.calls
  unscoped : ∀ detector rest, .detecting detector rest ∈ points own.calls.frames →
    own.calls.cell.value = none
  passed : ∀ detector rest, .detecting detector rest ∈ points own.calls.frames →
    Passed items (detects own.runtime) detector rest

private theorem Placed.keeps {own : Thread S L F C} (placed : Placed items detects own)
    (sound : SpawnCall.Sound none next)
    (older : ∀ detector rest, .detecting detector rest ∈ points next.frames →
      .detecting detector rest ∈ points own.calls.frames)
    (value : next.cell.value = own.calls.cell.value ∨ points own.calls.frames = []) :
    Placed items detects { own with calls := next } where
  sound := sound
  unscoped detector rest member := by
    have before := older detector rest member
    rcases value with same | none
    · exact same.trans (placed.unscoped detector rest before)
    · rw [none] at before
      cases before
  passed detector rest member := placed.passed detector rest (older detector rest member)

private theorem Placed.searches {own : Thread S L F C} {found : Search L F}
    {outer : List (CallPoint L F)} (placed : Placed items detects own)
    (sound : SpawnCall.Sound none next) (unscoped : next.cell.value = none)
    (after : points next.frames = leadsTo calls.created found :: outer)
    (older : ∀ point ∈ outer, point ∈ points own.calls.frames)
    (leads : ∀ detector rest, found = .detect detector rest →
      Passed items (detects own.runtime) detector rest) :
    Placed items detects { own with calls := next } where
  sound := sound
  unscoped _ _ _ := unscoped
  passed detector rest member := by
    change _ ∈ points next.frames at member
    rw [after, List.mem_cons] at member
    rcases member with here | member
    · cases found with
      | detect found others =>
          cases here
          exact leads _ _ rfl
      | settled result => cases result <;> cases here
    · exact placed.passed detector rest (older _ member)

def findGlobal? : SpawnCall.Action S F → Option (Except Failure F)
  | .spawn found => some found
  | .detected _ found => some found
  | _ => none

/-- What `find_global` answers is picked for this value of the variable. -/
def Asked (panicMultiple : Bool) (items : List (Compat L F)) (detects : C → L → Option F)
    (own : Thread S L F C) (action : SpawnCall.Action S F) (envVar : EnvVar) : Prop :=
  asks items detects own action = true →
    findGlobal? action = some (pickGlobal panicMultiple items envVar.toOption)

/-- One step of a thread keeps its searches in place, and sends tasks where it should. -/
structure Sent (panicMultiple : Bool) (items : List (Compat L F)) (detects : C → L → Option F)
    (thread : Θ) (own : Thread S L F C) (action : SpawnCall.Action S F)
    (next : SpawnCall.State S L F) (events : List SpawnCall.Event) : Prop where
  placed : Placed items detects { own with calls := next }
  routed : ∀ envVar, Asked panicMultiple items detects own action envVar →
    ∀ event ∈ (shown items thread own (answered detects own action) events :
        List (ThreadEvent Θ S F C)),
      event.Routed panicMultiple items detects envVar

private theorem Placed.spawns {own : Thread S L F C} (placed : Placed items detects own)
    {findGlobal : Except Failure F}
    (sound : SpawnCall.Sound none (SpawnCall.spawn (some items) own.calls findGlobal).1) :
    Sent panicMultiple items detects thread own (.spawn findGlobal)
      (SpawnCall.spawn (some items) own.calls findGlobal).1
      (SpawnCall.spawn (some items) own.calls findGlobal).2 := by
  have shared : 0 ≤ own.calls.cell.flag := by
    rw [placed.sound.borrowed]
    omega
  have opened := SpawnTask.context_eq placed.sound
  have leads := leads_findSpawn panicMultiple items (detects own.runtime) findGlobal
  cases scope : own.calls.cell.value with
  | some spawner =>
      have hands : SpawnCall.spawn (some items) own.calls findGlobal =
          SpawnCall.handOver { own.calls with
            cell := ⟨own.calls.cell.value, own.calls.cell.flag + 1⟩ } := by
        rw [SpawnCall.spawn, RefCell.borrow_shared shared, scope]
      rw [hands] at sound ⊢
      constructor
      · apply placed.keeps sound
        · intro detector rest member
          rcases List.mem_cons.mp member with same | older
          · cases same
          · exact older
        · exact .inl rfl
      · intro envVar _ event member
        have shows : shown items thread own (answered detects own (.spawn findGlobal))
            (SpawnCall.handOver { own.calls with
              cell := ⟨own.calls.cell.value, own.calls.cell.flag + 1⟩ }).2 =
            [.handedOver thread (some spawner) own.runtime (some (.scoped spawner))
              own.calls.created] := by
          simp [shown, answered, failure?, SpawnCall.handOver, SpawnTask.target?, opened, scope]
        rw [shows] at member
        cases List.mem_singleton.mp member
        rfl
  | none =>
      have searches : SpawnCall.spawn (some items) own.calls findGlobal =
          SpawnCall.search { own.calls with
            cell := ⟨own.calls.cell.value, own.calls.cell.flag + 1⟩ }
            (findSpawn items findGlobal) := by
        rw [SpawnCall.spawn, RefCell.borrow_shared shared, scope]
      rw [searches] at sound ⊢
      constructor
      · apply placed.searches sound
        · rw [search_cell]
          exact scope
        · exact search_points _ _
        · exact fun _ member => member
        · exact leads.detects
      · intro envVar asked
        have shows (events : List SpawnCall.Event) :
            shown items thread own (answered detects own (.spawn findGlobal)) events =
              (failed? (findSpawn items findGlobal)).toList.map (.refused thread own.runtime) ++
                (SpawnCall.handedOver events).map (.handedOver thread none own.runtime
                  (SpawnTask.found? (findSpawn items findGlobal))) := by
          simp only [shown, answered, failure?, SpawnTask.target?, opened, scope]
        rw [shows]
        apply search_routed
        intro result settled
        apply leads.settles result settled
        intro asksHere
        have picked := asked (by rw [asks, spawnAsks, scope, asksHere]; rfl)
        exact Option.some.inj picked

private theorem Placed.detected {own : Thread S L F C} (placed : Placed items detects own)
    {answer : Option F} {findGlobal : Except Failure F} {detector : L}
    {outer : List (SpawnCall.Frame S L F)}
    (frames : own.calls.frames = .call (.detecting detector rest) :: outer)
    (sound : SpawnCall.Sound none (SpawnCall.search { own.calls with frames := outer }
      (findSpawnAfter items rest findGlobal (detects own.runtime detector))).1) :
    Sent panicMultiple items detects thread own (.detected answer findGlobal)
      (SpawnCall.search { own.calls with frames := outer }
        (findSpawnAfter items rest findGlobal (detects own.runtime detector))).1
      (SpawnCall.search { own.calls with frames := outer }
        (findSpawnAfter items rest findGlobal (detects own.runtime detector))).2 := by
  have here : points own.calls.frames = .detecting detector rest :: points outer := by
    rw [frames]
    rfl
  have onTop : CallPoint.detecting detector rest ∈ points own.calls.frames := by
    rw [here]
    exact List.mem_cons_self
  have unscoped := placed.unscoped detector rest onTop
  have opened : context own.calls.frames = none :=
    (SpawnTask.context_eq placed.sound).trans unscoped
  have leads : Leads panicMultiple items (detects own.runtime)
      ((detects own.runtime detector).isNone && asksGlobal items rest) findGlobal
      (findSpawnAfter items rest findGlobal (detects own.runtime detector)) :=
    leads_findSpawnAfter (placed.passed detector rest onTop)
  constructor
  · apply placed.searches sound
    · rw [search_cell]
      exact unscoped
    · exact search_points _ _
    · intro point member
      rw [here]
      exact List.mem_cons_of_mem _ member
    · exact leads.detects
  · intro envVar asked
    have shows (events : List SpawnCall.Event) :
        shown items thread own (answered detects own (.detected answer findGlobal)) events =
          (failed? (findSpawnAfter items rest findGlobal
            (detects own.runtime detector))).toList.map (.refused thread own.runtime) ++
          (SpawnCall.handedOver events).map (.handedOver thread none own.runtime
            (SpawnTask.found? (findSpawnAfter items rest findGlobal
              (detects own.runtime detector)))) := by
      simp only [shown, opened]
      simp only [answered, frames, failure?, SpawnTask.target?]
    rw [shows]
    apply search_routed
    intro result settled
    apply leads.settles result settled
    intro asksHere
    have picked := asked (by rw [asks, detectedAsks, frames]; exact asksHere)
    exact Option.some.inj picked

def isSearch : SpawnCall.Action S F → Bool
  | .spawn _ => true
  | .detected _ _ => true
  | _ => false

private theorem handedOver_quiet {events : List SpawnCall.Event}
    (quiet : events.any SpawnTask.ofCall = false) : SpawnCall.handedOver events = [] := by
  apply List.filterMap_eq_nil_iff.mpr
  intro event member
  have other := List.any_eq_false.mp quiet event member
  cases event with
  | handedOver task => exact absurd rfl other
  | entering | exiting | searchPanicked | spawnReturned | spawnPanicked | aborted => rfl

private theorem moves_unsearched {action : SpawnCall.Action S F}
    (moves : SpawnTask.Moves (some items) calls next action events)
    (other : isSearch action = false) :
    (∀ detector rest, .detecting detector rest ∈ points next.frames →
        .detecting detector rest ∈ points calls.frames) ∧
      (next.cell.value = calls.cell.value ∨ points calls.frames = []) ∧
      SpawnCall.handedOver events = [] := by
  cases moves with
  | opens | searches => cases other
  | returns task before value =>
      refine ⟨?_, .inl value, rfl⟩
      intro detector rest member
      rw [before]
      exact List.mem_cons_of_mem _ member
  | leaves _ point panic _ before value =>
      refine ⟨?_, .inl value, rfl⟩
      intro detector rest member
      rw [before]
      exact List.mem_cons_of_mem _ member
  | keeps _ _ _ same value quiet =>
      refine ⟨?_, value, handedOver_quiet quiet⟩
      intro detector rest member
      rwa [same] at member

private theorem Placed.unsearched [DecidableEq S] {own : Thread S L F C}
    {action : SpawnCall.Action S F} (placed : Placed items detects own)
    (other : isSearch action = false)
    (stepped : (SpawnCall.machine (some items)).step own.calls action = some (next, events)) :
    Sent panicMultiple items detects thread own action next events := by
  obtain ⟨older, value, unhanded⟩ :=
    moves_unsearched (SpawnTask.moves_of_step placed.sound stepped) other
  constructor
  · exact placed.keeps
      (SpawnCall.step_sound placed.sound (placed.sound.transition stepped)) older value
  · intro envVar _ event member
    have nothing : shown items thread own (answered detects own action) events =
        ([] : List (ThreadEvent Θ S F C)) := by
      rw [shown, unhanded]
      cases action with
      | spawn | detected => cases other
      | enter | exit | spawned | discarded | raise | catchUnwind | caught | unwind | cleanup
      | resume => rfl
    rw [nothing] at member
    cases member

private theorem spawn_of_step [DecidableEq S] {findGlobal : Except Failure F}
    (stepped : (SpawnCall.machine (some items)).step calls (.spawn findGlobal) =
      some (next, events)) :
    SpawnCall.spawn (some items) calls findGlobal = (next, events) := by
  obtain ⟨cell, frames, mode, created⟩ := calls
  cases mode with
  | running => exact Option.some.inj stepped
  | unwinding | aborted => cases stepped

private theorem detected_of_step [DecidableEq S] {answer : Option F} {findGlobal : Except Failure F}
    (stepped : (SpawnCall.machine (some items)).step calls (.detected answer findGlobal) =
      some (next, events)) :
    SpawnCall.detected (some items) calls answer findGlobal = some (next, events) := by
  obtain ⟨cell, frames, mode, created⟩ := calls
  cases mode with
  | running => exact stepped
  | unwinding | aborted => cases stepped

private theorem Placed.step [DecidableEq S] {own : Thread S L F C} {action : SpawnCall.Action S F}
    (placed : Placed items detects own)
    (stepped : (SpawnCall.machine (some items)).step own.calls (answered detects own action) =
      some (next, events)) :
    Sent panicMultiple items detects thread own action next events := by
  have sound := SpawnCall.step_sound placed.sound (placed.sound.transition stepped)
  cases action with
  | spawn findGlobal =>
      have spawned := spawn_of_step stepped
      have sent : Sent panicMultiple items detects thread own (.spawn findGlobal) _ _ :=
        placed.spawns (by rw [spawned]; exact sound)
      rwa [spawned] at sent
  | detected answer findGlobal =>
      simp only [answered] at stepped
      split at stepped
      · rename_i detector rest outer frames
        have goesOn := detected_of_step stepped
        simp only [SpawnCall.detected, frames, Option.some.injEq] at goesOn
        have sent : Sent panicMultiple items detects thread own
            (.detected answer findGlobal) _ _ :=
          placed.detected frames (by rw [goesOn]; exact sound)
        rwa [goesOn] at sent
      · rename_i elsewhere
        have goesOn := detected_of_step stepped
        unfold SpawnCall.detected at goesOn
        split at goesOn
        · exact absurd ‹_› (elsewhere _ _ _)
        · cases goesOn
  | enter | exit | spawned | discarded | raise | catchUnwind | caught | unwind | cleanup
  | resume => exact placed.unsearched rfl stepped

/-! ### All threads -/

def isDetecting : CallPoint L F → Bool
  | .detecting _ _ => true
  | _ => false

/-- A thread stays in its runtime while a detector runs on it. -/
def steady : Guard (State Θ S L F C) (Action Θ S F C) (Event Θ S F C) := fun config action =>
  match action with
  | .left (.setRuntime thread _) =>
      (points (config.state.1 thread).calls.frames).any isDetecting = false
  | _ => True

instance (config : Config (State Θ S L F C) (Event Θ S F C)) (action : Action Θ S F C) :
    Decidable (steady config action) := by
  unfold steady
  split <;> infer_instance

/-- What `FOUND` holds, if anything, is picked for this value of the variable. -/
def Explains (panicMultiple : Bool) (items : List (Compat L F))
    (found : OnceLock (Except Failure F)) (envVar : EnvVar) : Prop :=
  ∀ result, found.get = some result → result = pickGlobal panicMultiple items envVar.toOption

structure Routes (panicMultiple : Bool) (items : List (Compat L F)) (detects : C → L → Option F)
    (trace : List (ThreadEvent Θ S F C)) (state : State Θ S L F C) : Prop where
  placed : ∀ thread, Placed items detects (state.1 thread)
  routed : ∀ envVar, Explains panicMultiple items state.2.found envVar →
    ∀ event ∈ trace, event.Routed panicMultiple items detects envVar

section Runs

variable [DecidableEq Θ] {globals moved : FindGlobal.State Θ F}

private theorem found_kept {action : FindGlobal.Action Θ} {shown : List (FindGlobal.Event Θ F)}
    (stepped : (FindGlobal.machine panicMultiple items).step globals action =
      some (moved, shown)) {result : Except Failure F}
    (held : globals.found.get = some result) : moved.found.get = some result := by
  cases FindGlobal.transition_of_step stepped with
  | calls | finds | misses | reads | picks | varChanges => exact held
  | stores =>
      change (globals.found.getOrInit _).2.get = some result
      rw [OnceLock.getOrInit_of_get held, held]

/-- What a call of `find_global` returns is what `FOUND` holds from then on. -/
private theorem found_returned {found : Except Failure F} {action : FindGlobal.Action Θ}
    {shown : List (FindGlobal.Event Θ F)}
    (returning : returns? globals thread = some (found, action))
    (stepped : (FindGlobal.machine panicMultiple items).step globals action =
      some (moved, shown)) : moved.found.get = some found := by
  unfold returns? at returning
  split at returning
  · obtain ⟨held, gets, same⟩ := Option.map_eq_some_iff.mp returning
    cases same
    exact found_kept stepped gets
  · rename_i result stores
    cases returning
    simp only [FindGlobal.machine, FindGlobal.getOrInit, stores] at stepped
    cases stepped
    exact globals.found.get_getOrInit result
  · cases returning

variable [DecidableEq S] {trace : List (ThreadEvent Θ S F C)} {state : State Θ S L F C}

private theorem Routes.runs {action : SpawnCall.Action S F} {after : Θ → Thread S L F C}
    {shows : List (ThreadEvent Θ S F C)}
    (routes : Routes panicMultiple items detects trace state)
    (stepped : (threads items detects).step state.1 (.run thread action) = some (after, shows))
    (kept : ∀ envVar, Explains panicMultiple items moved.found envVar →
      Explains panicMultiple items state.2.found envVar)
    (asked : ∀ envVar, Explains panicMultiple items moved.found envVar →
      Asked panicMultiple items detects (state.1 thread) action envVar) :
    Routes panicMultiple items detects (trace ++ shows) (after, moved) := by
  simp only [threads] at stepped
  split at stepped
  · rename_i calls events ran
    cases stepped
    have sent : Sent panicMultiple items detects thread (state.1 thread) action calls events :=
      (routes.placed thread).step ran
    constructor
    · intro other
      change Placed items detects (Function.update state.1 thread _ other)
      by_cases same : other = thread
      · subst same
        rw [Function.update_self]
        exact sent.placed
      · rw [Function.update_of_ne same]
        exact routes.placed other
    · intro envVar explains event member
      rcases List.mem_append.mp member with older | new
      · exact routes.routed envVar (kept envVar explains) event older
      · exact sent.routed envVar (asked envVar explains) event new
  · cases stepped

omit [DecidableEq S] in
private theorem Routes.setRuntime {runtime : C}
    (routes : Routes panicMultiple items detects trace state)
    (still : (points (state.1 thread).calls.frames).any isDetecting = false) :
    Routes panicMultiple items detects trace
      (Function.update state.1 thread { state.1 thread with runtime := runtime }, state.2) := by
  refine ⟨?_, routes.routed⟩
  intro other
  change Placed items detects (Function.update state.1 thread _ other)
  by_cases same : other = thread
  · subst same
    rw [Function.update_self]
    obtain ⟨sound, unscoped, passed⟩ := routes.placed other
    refine ⟨sound, unscoped, ?_⟩
    intro detector rest member
    exact absurd rfl (List.any_eq_false.mp still _ member)
  · rw [Function.update_of_ne same]
    exact routes.placed other

private theorem step_routes {config : Config (State Θ S L F C) (Event Θ S F C)}
    {action : Action Θ S F C} {next : State Θ S L F C} {events : List (Event Θ S F C)}
    (routes : Routes panicMultiple items detects (lefts config.trace) config.state)
    (allowed : steady config action)
    (stepped : (machine panicMultiple items detects).step config.state action =
      some (next, events)) :
    Routes panicMultiple items detects (lefts (config.trace ++ events)) next := by
  have grown : lefts (config.trace ++ events) = lefts config.trace ++ lefts events :=
    observe_append _ _ _
  rw [grown]
  cases productStep_of_step stepped with
  | left own after shows alone moves =>
      rw [lefts_map_inl]
      cases own with
      | run thread action =>
          simp only [coupling, Bool.and_eq_true, Bool.not_eq_true'] at alone
          apply routes.runs moves
          · exact fun _ explains => explains
          · intro envVar _ asked
            rw [alone.2] at asked
            cases asked
      | setRuntime thread runtime =>
          cases moves
          rw [List.append_nil]
          exact routes.setRuntime allowed
  | right own after shows alone moves =>
      rw [lefts_map_inr, List.append_nil]
      refine ⟨routes.placed, ?_⟩
      intro envVar explains
      exact routes.routed envVar fun result held => explains result (found_kept moves held)
  | both asking first second after globals shows answers chosen moves returned =>
      rw [lefts_both]
      simp only [coupling] at chosen
      split at chosen
      · rename_i found returning returns
        split at chosen
        · cases chosen
          have held := found_returned returns returned
          apply routes.runs moves
          · exact fun envVar explains result before =>
              explains result (found_kept returned before)
          · intro envVar explains _
            rw [← explains found held]
            cases asking <;> rfl
        · cases chosen
      · cases chosen

variable {config : Config (State Θ S L F C) (Event Θ S F C)} {runtimes : Θ → C}

theorem routes_of_reaches
    (run : (machine panicMultiple items detects).Reaches steady
      (.initial (.new envVar runtimes)) config) :
    Routes panicMultiple items detects (lefts config.trace) config.state := by
  refine run.invariant
    (fun config => Routes panicMultiple items detects (lefts config.trace) config.state) ?_ ?_
  · refine ⟨?_, fun _ _ => nofun⟩
    exact fun thread => ⟨⟨rfl, rfl, trivial⟩, nofun, nofun⟩
  · intro before action next events _reached routes allowed stepped
    exact step_routes routes allowed stepped

/-- What `FOUND` holds was picked for a value of the variable that a call has read. -/
theorem explains_of_reaches
    (run : (machine panicMultiple items detects).Reaches steady
      (.initial (.new envVar runtimes)) config) :
    ∃ chosen : EnvVar,
      (config.state.2.found.get = none ∨
        chosen ∈ FindGlobal.varsRead (rights config.trace)) ∧
      Explains panicMultiple items config.state.2.found chosen := by
  have settled := FindGlobal.settled_of_reaches run.right
  cases found : config.state.2.found.get with
  | none =>
      refine ⟨envVar, .inl rfl, ?_⟩
      intro result held
      rw [found] at held
      cases held
  | some result =>
      obtain ⟨chosen, read, picked⟩ := settled.held result found
      refine ⟨chosen, .inr read, ?_⟩
      intro other held
      rw [found, Option.some.injEq] at held
      rw [← held]
      exact picked

/-- One value of the variable explains where all threads send their tasks, and
once `FOUND` holds anything it is one that a call of `find_global` has read. -/
theorem one_choice_routes_all
    (run : (machine panicMultiple items detects).Reaches steady
      (.initial (.new envVar runtimes)) config) :
    ∃ chosen : EnvVar,
      (config.state.2.found.get = none ∨
        chosen ∈ FindGlobal.varsRead (rights config.trace)) ∧
      ∀ event ∈ lefts config.trace, event.Routed panicMultiple items detects chosen := by
  obtain ⟨chosen, read, explains⟩ := explains_of_reaches run
  exact ⟨chosen, read, (routes_of_reaches run).routed chosen explains⟩

end Runs

def ThreadEvent.sent? : ThreadEvent Θ S F C → Option (Θ × Option (Target S F))
  | .handedOver thread _ _ target _ => some (thread, target)
  | .refused _ _ _ => none

def threeCompats : List (Compat Unit Nat) :=
  [.localFn (), .namedGlobal "first" 7, .namedGlobal "second" 8]

def detectsInside (inside : Bool) (_detector : Unit) : Option Nat :=
  if inside then some 5 else none

/-- One thread reads the variable before it changes, the other one after. -/
def racedSpawns : List (Action Bool Nat Nat Bool) :=
  [.left (.setRuntime true true), .left (.run false (.spawn (.error .notFound))),
    .left (.run true (.spawn (.error .notFound))),
    .left (.run true (.detected none (.error .notFound))), .right (.call false),
    .right (.get false), .right (.readVar false), .right (.setVar (.ok "second")),
    .left (.run true .spawned), .left (.setRuntime true false), .left (.run true (.enter 3)),
    .left (.run true (.spawn (.error .notFound))), .left (.run true .spawned),
    .left (.run true .exit), .left (.run true (.spawn (.error .notFound))), .right (.call true),
    .right (.get true), .right (.readVar true), .right (.pick true), .both (.detected true),
    .right (.pick false), .both (.detected false)]

theorem one_choice_routes_all_raced :
    ∃ config : Config (State Bool Nat Unit Nat Bool) (Event Bool Nat Nat Bool),
      (machine false threeCompats detectsInside).exec steady
          (.initial (.new (.ok "first") fun _ => false)) racedSpawns = some config ∧
      (lefts config.trace).filterMap ThreadEvent.sent? =
        [(true, some (.compat 5)), (true, some (.scoped 3)), (true, some (.compat 8)),
          (false, some (.compat 8))] ∧
      ∃ chosen : EnvVar,
        (config.state.2.found.get = none ∨
          chosen ∈ FindGlobal.varsRead (rights config.trace)) ∧
        ∀ event ∈ lefts config.trace,
          event.Routed false threeCompats detectsInside chosen := by
  have ran : ((machine false threeCompats detectsInside).exec steady
      (.initial (.new (.ok "first") fun _ => false) :
        Config (State Bool Nat Unit Nat Bool) (Event Bool Nat Nat Bool)) racedSpawns).map
        (fun config => (lefts config.trace).filterMap ThreadEvent.sent?) =
      some [(true, some (.compat 5)), (true, some (.scoped 3)), (true, some (.compat 8)),
        (false, some (.compat 8))] := by
    decide +kernel
  obtain ⟨config, executed, reads⟩ := Option.map_eq_some_iff.mp ran
  exact ⟨config, executed, reads, one_choice_routes_all (reaches_of_exec racedSpawns executed)⟩

end Spawns.Routing
