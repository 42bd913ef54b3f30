/-
The handles of one task: `JoinHandle`, `TaskHandle` and any number of
`CancelHandle`s.

What a function of a handle calls on the `Joint` and the `Cancellation` is
computed from its body and from the destructors of what it drops. Here the calls
are only listed, one operation after the other. `Arc<Joint>` is not counted.
-/

import Spawns.Core.Joint

namespace Spawns

open EventMachine

/-! ### Types and their destructors -/

inductive Call where
  | cancel
  | poll
  | detach
  | cloneArc
  | dropArc
  deriving DecidableEq, Repr

/-- `Drop::drop` of a type, and the drops of its fields that come after it. -/
class DropGlue (α : Type) where
  drop : α → List Call
  fields : α → List Call

def dropGlue {α : Type} [DropGlue α] (value : α) : List Call :=
  DropGlue.drop value ++ DropGlue.fields value

structure ManuallyDrop (α : Type) where
  value : α

instance (α : Type) : DropGlue (ManuallyDrop α) where
  drop _ := []
  fields _ := []

/-- `Arc<Cancellation>`, the same for all handles of a task. -/
inductive CancellationArc where
  | arc

instance : DropGlue CancellationArc where
  drop _ := [.dropArc]
  fields _ := []

structure JoinHandle where
  id : RawId
  cancellation : CancellationArc

structure TaskHandle where
  handle : JoinHandle

structure CancelHandle where
  cancellation : CancellationArc

instance : DropGlue JoinHandle where
  drop _ := [.detach]
  fields self := dropGlue self.cancellation

/-! ### Their functions: what they return and what they call -/

def CancellationArc.clone (self : CancellationArc) : CancellationArc × List Call :=
  (self, [.cloneArc])

def CancelHandle.cancel (_self : CancelHandle) : List Call := [.cancel]

def CancelHandle.clone (self : CancelHandle) : CancelHandle × List Call :=
  (⟨self.cancellation.clone.1⟩, self.cancellation.clone.2)

instance : DropGlue CancelHandle where
  drop _ := []
  fields self := dropGlue self.cancellation

def JoinHandle.new (id : RawId) (cancellation : CancellationArc) : JoinHandle :=
  ⟨id, cancellation⟩

def JoinHandle.cancel (_self : JoinHandle) : List Call := [.cancel]

def JoinHandle.attach (self : JoinHandle) : TaskHandle × List Call := (⟨self⟩, [])

/-- `CancelHandle::new(self.cancellation.clone())` -/
def JoinHandle.cancelHandle (self : JoinHandle) : CancelHandle × List Call :=
  (⟨self.cancellation.clone.1⟩, self.cancellation.clone.2)

def JoinHandle.poll (_self : JoinHandle) : List Call := [.poll]

/-- `impl Drop for TaskHandle`: `self.handle.cancel()`; then its field is dropped. -/
instance : DropGlue TaskHandle where
  drop self := self.handle.cancel
  fields self := dropGlue self.handle

/-- `ManuallyDrop::new(self)`, then `ptr::read(&task.handle)`. -/
def TaskHandle.detach (self : TaskHandle) : JoinHandle × List Call :=
  let task : ManuallyDrop TaskHandle := ⟨self⟩
  (task.value.handle, dropGlue task)

/-- `self.handle.cancel(); self.detach()` -/
def TaskHandle.cancel (self : TaskHandle) : JoinHandle × List Call :=
  (self.detach.1, self.handle.cancel ++ self.detach.2)

def TaskHandle.cancelHandle (self : TaskHandle) : CancelHandle × List Call :=
  self.handle.cancelHandle

def TaskHandle.poll (self : TaskHandle) : List Call := self.handle.poll

@[simp] theorem dropGlue_cancelHandle (self : CancelHandle) : dropGlue self = [.dropArc] := rfl

@[simp] theorem dropGlue_joinHandle (self : JoinHandle) :
    dropGlue self = [.detach, .dropArc] := rfl

@[simp] theorem dropGlue_taskHandle (self : TaskHandle) :
    dropGlue self = [.cancel, .detach, .dropArc] := rfl

@[simp] theorem TaskHandle.detach_eq (self : TaskHandle) : self.detach = (self.handle, []) := rfl

@[simp] theorem TaskHandle.cancel_eq (self : TaskHandle) :
    self.cancel = (self.handle, [.cancel]) := rfl

namespace Handles

/-! ### Operations on the handles of one task -/

inductive Form where
  | join (handle : JoinHandle)
  | task (handle : TaskHandle)
  | gone

inductive Operation where
  | attach
  | detach
  | taskCancel
  | joinCancel
  | cancelHandle
  | poll
  | drop
  | cloneCancelHandle
  | cancel
  | dropCancelHandle
  deriving DecidableEq, Repr

/-- The handles, the `Arc<Cancellation>`s they hold, and the calls that the last
operation has still to make. -/
structure State where
  form : Form
  cancelHandles : List CancelHandle
  arcs : Nat
  work : List Call

inductive Event where
  | began (operation : Operation)
  | called (call : Call)

inductive Action where
  | operate (operation : Operation)
  | call

def State.new (id : RawId) : State :=
  { form := .join (JoinHandle.new id .arc)
    cancelHandles := []
    arcs := 1
    work := [] }

/-- An operation on the handle: the form afterwards, a new `CancelHandle`, the calls. -/
def Form.operate : Form → Operation → Option (Form × List CancelHandle × List Call)
  | .join handle, .attach => some (.task handle.attach.1, [], handle.attach.2)
  | .join handle, .joinCancel => some (.join handle, [], handle.cancel)
  | .join handle, .cancelHandle =>
      some (.join handle, [handle.cancelHandle.1], handle.cancelHandle.2)
  | .join handle, .poll => some (.join handle, [], handle.poll)
  | .join handle, .drop => some (.gone, [], dropGlue handle)
  | .task handle, .detach => some (.join handle.detach.1, [], handle.detach.2)
  | .task handle, .taskCancel => some (.join handle.cancel.1, [], handle.cancel.2)
  | .task handle, .cancelHandle =>
      some (.task handle, [handle.cancelHandle.1], handle.cancelHandle.2)
  | .task handle, .poll => some (.task handle, [], handle.poll)
  | .task handle, .drop => some (.gone, [], dropGlue handle)
  | _, _ => none

/-- An operation on a `CancelHandle`, which are all alike: what is there instead of it
afterwards, and the calls. -/
def operateCancel (handle : CancelHandle) : Operation → Option (List CancelHandle × List Call)
  | .cloneCancelHandle => some ([handle, handle.clone.1], handle.clone.2)
  | .cancel => some ([handle], handle.cancel)
  | .dropCancelHandle => some ([], dropGlue handle)
  | _ => none

/-- Begin an operation, when the one before has made all its calls. -/
def operate (state : State) (operation : Operation) : Option (State × List Event) :=
  match state.work with
  | [] =>
      match state.form.operate operation with
      | some (form, made, work) =>
          some ({ state with form, cancelHandles := made ++ state.cancelHandles, work },
            [.began operation])
      | none =>
          match state.cancelHandles with
          | handle :: rest =>
              match operateCancel handle operation with
              | some (left, work) =>
                  some ({ state with cancelHandles := left ++ rest, work }, [.began operation])
              | none => none
          | [] => none
  | _ :: _ => none

def Call.arcs (arcs : Nat) : Call → Nat
  | .cloneArc => arcs + 1
  | .dropArc => arcs - 1
  | _ => arcs

def call (state : State) : Option (State × List Event) :=
  match state.work with
  | call :: rest =>
      some ({ state with arcs := Call.arcs state.arcs call, work := rest }, [.called call])
  | [] => none

def machine : Machine State Action Event where
  step state
    | .operate operation => operate state operation
    | .call => call state

/-! ### What a sequence of operations asks for -/

inductive Kind where
  | join
  | task
  | gone
  deriving DecidableEq, Repr

def Form.kind : Form → Kind
  | .join _ => .join
  | .task _ => .task
  | .gone => .gone

def Kind.after : Kind → Operation → Kind
  | _, .attach => .task
  | _, .detach => .join
  | _, .taskCancel => .join
  | _, .drop => .gone
  | kind, _ => kind

def Operation.Explicit : Operation → Prop
  | .taskCancel => True
  | .joinCancel => True
  | .cancel => True
  | _ => False

def DropsTask (kind : Kind) (operations : List Operation) : Prop :=
  ∃ before after, operations = before ++ .drop :: after ∧ before.foldl Kind.after kind = .task

def Cancels (operations : List Operation) : Prop :=
  (∃ operation ∈ operations, operation.Explicit) ∨ DropsTask .join operations

/-! ### What a sequence of operations calls -/

def Operation.cancelCalls : Kind → Operation → Nat
  | _, .taskCancel => 1
  | _, .joinCancel => 1
  | _, .cancel => 1
  | .task, .drop => 1
  | _, _ => 0

def cancelCalls : Kind → List Operation → Nat
  | _, [] => 0
  | kind, operation :: rest => operation.cancelCalls kind + cancelCalls (kind.after operation) rest

private theorem cancelCalls_append (kind : Kind) (operations : List Operation)
    (operation : Operation) :
    cancelCalls kind (operations ++ [operation]) =
      cancelCalls kind operations + operation.cancelCalls (operations.foldl Kind.after kind) := by
  induction operations generalizing kind with
  | nil => exact Nat.add_comm ..
  | cons head rest ih =>
      rw [List.cons_append, cancelCalls, cancelCalls, ih, List.foldl_cons, Nat.add_assoc]

private theorem Operation.cancelCalls_pos (kind : Kind) (operation : Operation) :
    0 < operation.cancelCalls kind ↔ operation.Explicit ∨ (operation = .drop ∧ kind = .task) := by
  cases operation <;> cases kind <;> simp [cancelCalls, Explicit]

private theorem dropsTask_cons {kind : Kind} {operation : Operation} {rest : List Operation} :
    DropsTask kind (operation :: rest) ↔
      (operation = .drop ∧ kind = .task) ∨ DropsTask (kind.after operation) rest := by
  constructor
  · rintro ⟨before, after, split, task⟩
    cases before with
    | nil =>
        rw [List.nil_append, List.cons.injEq] at split
        exact .inl ⟨split.1, task⟩
    | cons head tail =>
        rw [List.cons_append, List.cons.injEq] at split
        rw [← split.1] at task
        exact .inr ⟨tail, after, split.2, task⟩
  · rintro (⟨rfl, task⟩ | ⟨before, after, rfl, task⟩)
    · exact ⟨[], rest, rfl, task⟩
    · exact ⟨operation :: before, after, rfl, task⟩

theorem cancelCalls_pos (kind : Kind) (operations : List Operation) :
    0 < cancelCalls kind operations ↔
      (∃ operation ∈ operations, operation.Explicit) ∨ DropsTask kind operations := by
  induction operations generalizing kind with
  | nil =>
      constructor
      · intro positive
        cases positive
      · rintro (⟨_, member, _⟩ | ⟨before, _, split, _⟩)
        · cases member
        · cases before <;> cases split
  | cons operation rest ih =>
      have sum : 0 < cancelCalls kind (operation :: rest) ↔
          0 < operation.cancelCalls kind ∨ 0 < cancelCalls (kind.after operation) rest := by
        rw [cancelCalls]
        omega
      rw [sum, operation.cancelCalls_pos, ih, dropsTask_cons, List.exists_mem_cons_iff]
      exact or_or_or_comm

structure Begins (before after : Kind) (operation : Operation) (work : List Call) : Prop where
  form : after = before.after operation
  cancels : work.count .cancel = operation.cancelCalls before
  detaches : work.count .detach = if operation = .drop then 1 else 0
  stays : operation ≠ .drop → (after = .gone ↔ before = .gone)
  present : operation = .drop → before ≠ .gone

private theorem begins_of_operate {form next : Form} {operation : Operation}
    {made : List CancelHandle}
    {work : List Call} (operated : form.operate operation = some (next, made, work)) :
    Begins form.kind next.kind operation work := by
  cases form with
  | join handle =>
      cases operation <;> cases operated <;>
        exact ⟨rfl, rfl, rfl, by simp [Form.kind], by simp [Form.kind]⟩
  | task handle =>
      cases operation <;> cases operated <;>
        exact ⟨rfl, rfl, rfl, by simp [Form.kind], by simp [Form.kind]⟩
  | gone => cases operated

private theorem begins_of_operateCancel {handle : CancelHandle} {operation : Operation}
    {left : List CancelHandle} {work : List Call} (kind : Kind)
    (operated : operateCancel handle operation = some (left, work)) :
    Begins kind kind operation work := by
  cases operation <;> cases operated <;> cases kind <;> exact ⟨rfl, rfl, rfl, by simp, by simp⟩

variable {state next : State} {events : List Event} {action : Action}

theorem operate_cases {operation : Operation}
    (operated : operate state operation = some (next, events)) :
    events = [.began operation] ∧ state.work = [] ∧ next.arcs = state.arcs ∧
      Begins state.form.kind next.form.kind operation next.work := by
  unfold operate at operated
  split at operated
  · rename_i atEnd
    split at operated
    · rename_i found
      cases operated
      exact ⟨rfl, atEnd, rfl, begins_of_operate found⟩
    · split at operated
      · split at operated
        · rename_i found
          cases operated
          exact ⟨rfl, atEnd, rfl, begins_of_operateCancel _ found⟩
        · cases operated
      · cases operated
  · cases operated

theorem call_cases (called : call state = some (next, events)) :
    ∃ head rest, state.work = head :: rest ∧ events = [.called head] ∧
      next.work = rest ∧ next.form = state.form := by
  unfold call at called
  split at called
  · rename_i head rest work
    cases called
    exact ⟨head, rest, work, rfl, rfl, rfl⟩
  · cases called

def Event.began? : Event → Option Operation
  | .began operation => some operation
  | _ => none

def Event.called? : Event → Option Call
  | .called call => some call
  | _ => none

abbrev operations (trace : List Event) : List Operation := observe Event.began? trace

abbrev called (trace : List Event) : List Call := observe Event.called? trace

/-- The calls made and still to make are those that the operations ask for. -/
structure Ledger (trace : List Event) (state : State) : Prop where
  form : state.form.kind = (operations trace).foldl Kind.after .join
  cancels : (called trace).count .cancel + state.work.count .cancel =
    cancelCalls .join (operations trace)
  detaches : (called trace).count .detach + state.work.count .detach =
    (operations trace).count .drop
  drops : (operations trace).count .drop = if state.form.kind = .gone then 1 else 0

private theorem Ledger.operate {trace : List Event} {operation : Operation}
    (ledger : Ledger trace state)
    (operated : operate state operation = some (next, events)) :
    Ledger (trace ++ events) next := by
  obtain ⟨rfl, atEnd, _, begins⟩ := operate_cases operated
  have begun : operations (trace ++ [.began operation]) = operations trace ++ [operation] :=
    observe_append _ _ _
  have silent : called (trace ++ [.began operation]) = called trace := by
    rw [called, observe_append]
    exact List.append_nil _
  have cancels := ledger.cancels
  have detaches := ledger.detaches
  rw [atEnd, List.count_nil, Nat.add_zero] at cancels detaches
  refine ⟨?form, ?cancels, ?detaches, ?drops⟩
  case form => rw [begun, List.foldl_append, ← ledger.form, begins.form]; rfl
  case cancels =>
    rw [begun, silent, cancels, begins.cancels, cancelCalls_append, ← ledger.form]
  case detaches =>
    rw [begun, silent, detaches, begins.detaches, List.count_append, List.count_singleton]
    simp
  case drops =>
    rw [begun, List.count_append, List.count_singleton, ledger.drops]
    by_cases drop : operation = .drop
    · have gone : next.form.kind = .gone := by rw [begins.form, drop]; rfl
      rw [if_neg (begins.present drop), if_pos gone, drop]
      rfl
    · simp only [begins.stays drop, beq_iff_eq, if_neg drop, Nat.add_zero]

private theorem Ledger.call {trace : List Event} (ledger : Ledger trace state)
    (calls : call state = some (next, events)) : Ledger (trace ++ events) next := by
  obtain ⟨head, rest, work, rfl, left, form⟩ := call_cases calls
  have silent : operations (trace ++ [.called head]) = operations trace := by
    rw [operations, observe_append]
    exact List.append_nil _
  have made : called (trace ++ [.called head]) = called trace ++ [head] := observe_append _ _ _
  have moved (call : Call) : (called trace ++ [head]).count call + rest.count call =
      (called trace).count call + state.work.count call := by
    rw [work, List.count_append, List.count_cons, List.count_cons, List.count_nil]
    omega
  refine ⟨?_, ?_, ?_, ?_⟩
  · rw [silent, form]
    exact ledger.form
  · rw [silent, made, left, moved]
    exact ledger.cancels
  · rw [silent, made, left, moved]
    exact ledger.detaches
  · rw [silent, form]
    exact ledger.drops

theorem ledger_of_reaches {guard : Guard State Action Event} {config : Config State Event}
    {id : RawId} (run : machine.Reaches guard (.initial (.new id)) config) :
    Ledger config.trace config.state := by
  apply run.invariant (fun config => Ledger config.trace config.state) ⟨rfl, rfl, rfl, rfl⟩
  intro before action next events _reached ledger _allowed stepped
  cases action with
  | operate operation => exact ledger.operate stepped
  | call => exact ledger.call stepped

/-! ### The `Arc`s behind the calls -/

def Form.arcs : Form → Nat
  | .join _ => 1
  | .task _ => 1
  | .gone => 0

/-- There is an `Arc` at each call, and the handles hold what is left at the end. -/
def Supplied (held : Nat) : Nat → List Call → Prop
  | arcs, [] => arcs = held
  | arcs, call :: rest => 0 < arcs ∧ Supplied held (Call.arcs arcs call) rest

structure Equipped (state : State) : Prop where
  arcs : Supplied (state.form.arcs + state.cancelHandles.length) state.arcs state.work
  polled : .poll ∈ state.work → state.form.kind ≠ .gone

private theorem supplied_of_operate {form next : Form} {operation : Operation}
    {made : List CancelHandle} {work : List Call} (others : Nat)
    (operated : form.operate operation = some (next, made, work)) :
    Supplied (next.arcs + (made.length + others)) (form.arcs + others) work ∧
      (.poll ∈ work → next.kind ≠ .gone) := by
  cases form with
  | join handle =>
      cases operation <;> cases operated
      all_goals
        simp [Supplied, Form.arcs, Form.kind, Call.arcs, JoinHandle.attach, JoinHandle.cancel,
          JoinHandle.cancelHandle, JoinHandle.poll, CancellationArc.clone]
      all_goals omega
  | task handle =>
      cases operation <;> cases operated
      all_goals
        simp [Supplied, Form.arcs, Form.kind, Call.arcs, TaskHandle.cancelHandle, TaskHandle.poll,
          JoinHandle.cancelHandle, JoinHandle.poll, CancellationArc.clone]
      all_goals omega
  | gone => cases operated

private theorem supplied_of_operateCancel {handle : CancelHandle} {operation : Operation}
    {left : List CancelHandle} {work : List Call} (others : Nat)
    (operated : operateCancel handle operation = some (left, work)) :
    Supplied (left.length + others) (1 + others) work ∧ .poll ∉ work := by
  cases operation <;> cases operated
  all_goals
    simp [Supplied, Call.arcs, CancelHandle.clone, CancelHandle.cancel, CancellationArc.clone]
  all_goals omega

private theorem Equipped.operate {operation : Operation} (equipped : Equipped state)
    (operated : operate state operation = some (next, events)) : Equipped next := by
  unfold Handles.operate at operated
  split at operated
  · rename_i atEnd
    have arcs := equipped.arcs
    rw [atEnd] at arcs
    change state.arcs = _ at arcs
    split at operated
    · rename_i form made work found
      cases operated
      obtain ⟨supplied, polled⟩ := supplied_of_operate state.cancelHandles.length found
      rw [← List.length_append, ← arcs] at supplied
      exact ⟨supplied, polled⟩
    · split at operated
      · rename_i handle rest handles
        split at operated
        · rename_i left work found
          cases operated
          obtain ⟨supplied, unpolled⟩ :=
            supplied_of_operateCancel (state.form.arcs + rest.length) found
          refine ⟨?_, fun polled => absurd polled unpolled⟩
          rw [handles, List.length_cons] at arcs
          change Supplied (state.form.arcs + (left ++ rest).length) state.arcs work
          rw [arcs, List.length_append]
          convert supplied using 1 <;> omega
        · cases operated
      · cases operated
  · cases operated

private theorem Equipped.call (equipped : Equipped state)
    (calls : call state = some (next, events)) :
    Equipped next := by
  unfold Handles.call at calls
  split at calls
  · rename_i head rest work
    cases calls
    have arcs := equipped.arcs
    rw [work] at arcs
    refine ⟨arcs.2, fun polled => equipped.polled ?_⟩
    rw [work]
    exact List.mem_cons_of_mem head polled
  · cases calls

theorem equipped_of_reaches {guard : Guard State Action Event} {config : Config State Event}
    {id : RawId} (run : machine.Reaches guard (.initial (.new id)) config) :
    Equipped config.state := by
  apply run.invariant (fun config => Equipped config.state) ⟨rfl, nofun⟩
  intro before action next events _reached equipped _allowed stepped
  cases action with
  | operate operation => exact equipped.operate stepped
  | call => exact equipped.call stepped

end Handles

end Spawns
