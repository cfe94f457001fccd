import Mathlib.Logic.Function.Basic
import Mathlib.Logic.Relation

namespace revit_operator.safe_read_host

inductive CertifiedFailureCode where
  | none
  | badRequest
  | unauthorized
  | busy
  | noActiveDocument
  | documentChanged
  | notReadOnly
  | countLimitExceeded
  | authorizationUnavailable
  | revitUnavailable
  | deadlineExceeded
  | internalFailure
  deriving DecidableEq

inductive CertifiedExecutionPhase where
  | none
  | captureBinding
  | verifyFinalReceipt
  | countSheets
  | completed
  deriving DecidableEq

inductive CertifiedExecutionOutcome where
  | pending
  | succeeded
  | denied
  | failed
  | cancelled
  deriving DecidableEq

structure CertifiedExecutionResult (Binding : Type) where
  phase : CertifiedExecutionPhase
  outcome : CertifiedExecutionOutcome
  failureCode : CertifiedFailureCode
  binding : Option Binding
  count : Nat
  requestDispatched : Bool
  outcomeUnknown : Bool
  deriving DecidableEq

namespace CertifiedExecutionResult

variable {Binding : Type}

def Succeeded (result : CertifiedExecutionResult Binding) : Prop := result.outcome = .succeeded

def Captured (binding : Binding) : CertifiedExecutionResult Binding :=
  ⟨.captureBinding, .succeeded, .none, some binding, 0, true, false⟩

def Counted (binding : Binding) (count : Nat) : CertifiedExecutionResult Binding :=
  ⟨.completed, .succeeded, .none, some binding, count, true, false⟩

def Failure (phase : CertifiedExecutionPhase) (code : CertifiedFailureCode) (requestDispatched : Bool) :
    CertifiedExecutionResult Binding :=
  ⟨phase, if code = .authorizationUnavailable then .denied else .failed, code, none, 0, requestDispatched, false⟩

def Unknown (phase : CertifiedExecutionPhase) (code : CertifiedFailureCode) : CertifiedExecutionResult Binding :=
  ⟨phase, .cancelled, code, none, 0, true, true⟩

def CancelledKnown (phase : CertifiedExecutionPhase) (code : CertifiedFailureCode) :
    CertifiedExecutionResult Binding :=
  ⟨phase, .cancelled, code, none, 0, false, false⟩

end CertifiedExecutionResult

open CertifiedExecutionResult

/-- The values of `_state` of a work item. -/
inductive WorkState where
  | pending
  | claimed
  | completed
  | cancelled
  deriving DecidableEq

/-- What a work item was created with. -/
structure CertifiedExternalWorkItem (Binding : Type) where
  phase : CertifiedExecutionPhase
  expectedBinding : Binding

/-- What `CertifiedSheetsCountExternalEventHandler.Execute` completes a claimed
    item with: the document decides which. -/
inductive HandlerResult {Binding : Type} (item : CertifiedExternalWorkItem Binding) :
    CertifiedExecutionResult Binding → Prop where
  | captured (hphase : item.phase = .captureBinding) : HandlerResult item (Captured item.expectedBinding)
  | notVerified (code : CertifiedFailureCode) (hphase : item.phase = .captureBinding) (hcode : code ≠ .none) :
    HandlerResult item (Failure item.phase code true)
  | unauthorized (hphase : item.phase ≠ .captureBinding) :
    HandlerResult item (Failure item.phase .authorizationUnavailable true)
  | counted (count : Nat) (hphase : item.phase = .countSheets) :
    HandlerResult item (Counted item.expectedBinding count)
  | notCounted (code : CertifiedFailureCode) (hphase : item.phase = .countSheets) (hcode : code ≠ .none) :
    HandlerResult item (Failure .countSheets code true)
  | threw : HandlerResult item (Failure item.phase .revitUnavailable true)

/-- Who sets a completion. -/
inductive Party (Shutdown : Type) where
  | dispatcher
  | handler
  | shutdown (call : Shutdown)
  deriving DecidableEq

/-- Where a call of `DispatchAsync` stands: what it does next. -/
inductive DispatchPoint (Binding : Type) where
  | notCalled
  /-- It found the slot occupied and returned. -/
  | busy
  /-- The item is in the slot; `TryRaise` is next. -/
  | queued
  /-- It awaits the completion or the deadline. -/
  | waiting
  /-- `TryCancelPending` is about to read the slot. -/
  | cancelling (code : CertifiedFailureCode)
  /-- The slot holds the item; the exchange of its state is next. -/
  | matched (code : CertifiedFailureCode)
  /-- The item is cancelled; its completion is set next. -/
  | cancelled (code : CertifiedFailureCode)
  /-- The slot is cleared next. -/
  | clearing (code : CertifiedFailureCode)
  | returned (result : CertifiedExecutionResult Binding)

/-- Where the UI thread stands in `Execute`. -/
inductive ExecutePoint (Work Binding : Type) where
  | idle
  /-- `Take` is about to read the slot. -/
  | entered
  /-- `TryClaim` is next. -/
  | taken (work : Work)
  /-- The claim failed; the slot is cleared of the item next. -/
  | refused (work : Work)
  /-- The item is claimed; `Complete` is next. -/
  | running (work : Work)
  /-- The item is marked completed; its completion is set next. -/
  | settling (work : Work) (result : CertifiedExecutionResult Binding)
  /-- `Release` is next. -/
  | releasing (work : Work)

/-- Where a call of `FailPending` stands. -/
inductive FailPendingPoint (Work : Type) where
  | notCalled
  /-- The slot is read next. -/
  | entered (code : CertifiedFailureCode)
  /-- `TryCancelPending` is next. -/
  | found (work : Work) (code : CertifiedFailureCode)
  /-- The item is cancelled; its completion is set next. -/
  | cancelled (work : Work) (code : CertifiedFailureCode)
  /-- The slot is cleared next. -/
  | clearing (work : Work)
  /-- The item was not pending; `IsClaimed` is read next. -/
  | refused (work : Work) (code : CertifiedFailureCode)
  /-- It was claimed; `Complete` is next. -/
  | completing (work : Work) (code : CertifiedFailureCode)
  /-- The item is marked completed; its completion is set next. -/
  | settling (work : Work) (code : CertifiedFailureCode)
  /-- `Release` is next. -/
  | releasing (work : Work)
  | returned

section machine

/-- The slot, the work items and every party at one moment. `completion` lists
    the results given to `TrySetResult`, in order, and `claims` counts the claims
    of the UI thread. Every call of `DispatchAsync` has a work item of its own. -/
structure Machine (Work Shutdown Binding : Type) where
  occupied : Option Work
  state : Work → WorkState
  completion : Work → List (Party Shutdown × CertifiedExecutionResult Binding)
  claims : Work → Nat
  dispatch : Work → DispatchPoint Binding
  execute : ExecutePoint Work Binding
  failPending : Shutdown → FailPendingPoint Work

variable {Work Shutdown Binding : Type}

namespace Machine

def initial : Machine Work Shutdown Binding where
  occupied := none
  state _ := .pending
  completion _ := []
  claims _ := 0
  dispatch _ := .notCalled
  execute := .idle
  failPending _ := .notCalled

def executeAt (m : Machine Work Shutdown Binding) (point : ExecutePoint Work Binding) :
    Machine Work Shutdown Binding :=
  { m with execute := point }

def failPendingAt [DecidableEq Shutdown] (m : Machine Work Shutdown Binding) (call : Shutdown)
    (point : FailPendingPoint Work) : Machine Work Shutdown Binding :=
  { m with failPending := Function.update m.failPending call point }

@[simp]
theorem failPendingAt_failPending [DecidableEq Shutdown] (m : Machine Work Shutdown Binding) (call other : Shutdown)
    (point : FailPendingPoint Work) :
    (m.failPendingAt call point).failPending other = if other = call then point else m.failPending other :=
  Function.update_apply _ _ _ _

variable [DecidableEq Work]

/-- The slot is cleared if it holds the item. -/
def clear (m : Machine Work Shutdown Binding) (work : Work) : Machine Work Shutdown Binding :=
  { m with occupied := if m.occupied = some work then none else m.occupied }

def mark (m : Machine Work Shutdown Binding) (work : Work) (state : WorkState) : Machine Work Shutdown Binding :=
  { m with state := Function.update m.state work state }

def trySetResult (m : Machine Work Shutdown Binding) (work : Work) (party : Party Shutdown)
    (result : CertifiedExecutionResult Binding) : Machine Work Shutdown Binding :=
  { m with completion := Function.update m.completion work (m.completion work ++ [(party, result)]) }

def dispatchAt (m : Machine Work Shutdown Binding) (work : Work) (point : DispatchPoint Binding) :
    Machine Work Shutdown Binding :=
  { m with dispatch := Function.update m.dispatch work point }

/-- `TryClaim` of a pending item. -/
def claim (m : Machine Work Shutdown Binding) (work : Work) : Machine Work Shutdown Binding :=
  { m.mark work .claimed with claims := Function.update m.claims work (m.claims work + 1) }

@[simp]
theorem clear_occupied (m : Machine Work Shutdown Binding) (work : Work) :
    (m.clear work).occupied = if m.occupied = some work then none else m.occupied := rfl

@[simp]
theorem dispatchAt_dispatch (m : Machine Work Shutdown Binding) (work other : Work) (point : DispatchPoint Binding) :
    (m.dispatchAt work point).dispatch other = if other = work then point else m.dispatch other :=
  Function.update_apply _ _ _ _

@[simp]
theorem mark_state (m : Machine Work Shutdown Binding) (work other : Work) (state : WorkState) :
    (m.mark work state).state other = if other = work then state else m.state other :=
  Function.update_apply _ _ _ _

@[simp]
theorem trySetResult_completion (m : Machine Work Shutdown Binding) (work other : Work) (party : Party Shutdown)
    (result : CertifiedExecutionResult Binding) :
    (m.trySetResult work party result).completion other
      = if other = work then m.completion work ++ [(party, result)] else m.completion other :=
  Function.update_apply _ _ _ _

end Machine

variable [DecidableEq Work] [DecidableEq Shutdown] (items : Work → CertifiedExternalWorkItem Binding)

/-- A call begins. -/
inductive Starts (m : Machine Work Shutdown Binding) : Machine Work Shutdown Binding → Prop where
  | queue (work : Work) (hpoint : m.dispatch work = .notCalled) (hslot : m.occupied = none) :
    Starts m ({ m with occupied := some work }.dispatchAt work .queued)
  | busy (work : Work) (hpoint : m.dispatch work = .notCalled) (hslot : m.occupied ≠ none) :
    Starts m (m.dispatchAt work .busy)
  | execute (hpoint : m.execute = .idle) : Starts m (m.executeAt .entered)
  | failPending (call : Shutdown) (code : CertifiedFailureCode) (hpoint : m.failPending call = .notCalled) :
    Starts m (m.failPendingAt call (.entered code))

/-- A call of `DispatchAsync` takes its next atomic step. -/
inductive Dispatches (m : Machine Work Shutdown Binding) (work : Work) : Machine Work Shutdown Binding → Prop where
  | raised (hpoint : m.dispatch work = .queued) : Dispatches m work (m.dispatchAt work .waiting)
  | raiseRefused (hpoint : m.dispatch work = .queued) :
    Dispatches m work (m.dispatchAt work (.cancelling .revitUnavailable))
  | awaited (hpoint : m.dispatch work = .waiting) (party : Party Shutdown) (result : CertifiedExecutionResult Binding)
      (hset : (m.completion work).head? = some (party, result)) :
    Dispatches m work (m.dispatchAt work (.returned result))
  | deadline (hpoint : m.dispatch work = .waiting) :
    Dispatches m work (m.dispatchAt work (.cancelling .deadlineExceeded))
  | foreignSlot (code : CertifiedFailureCode) (hpoint : m.dispatch work = .cancelling code)
      (hslot : m.occupied ≠ some work) :
    Dispatches m work (m.dispatchAt work (.returned (Unknown (items work).phase code)))
  | ownSlot (code : CertifiedFailureCode) (hpoint : m.dispatch work = .cancelling code)
      (hslot : m.occupied = some work) : Dispatches m work (m.dispatchAt work (.matched code))
  | cancelled (code : CertifiedFailureCode) (hpoint : m.dispatch work = .matched code)
      (hstate : m.state work = .pending) :
    Dispatches m work ((m.mark work .cancelled).dispatchAt work (.cancelled code))
  | notCancelled (code : CertifiedFailureCode) (hpoint : m.dispatch work = .matched code)
      (hstate : m.state work ≠ .pending) :
    Dispatches m work (m.dispatchAt work (.returned (Unknown (items work).phase code)))
  | setResult (code : CertifiedFailureCode) (hpoint : m.dispatch work = .cancelled code) :
    Dispatches m work ((m.trySetResult work .dispatcher (CancelledKnown (items work).phase code)).dispatchAt work
      (.clearing code))
  | cleared (code : CertifiedFailureCode) (hpoint : m.dispatch work = .clearing code) :
    Dispatches m work ((m.clear work).dispatchAt work (.returned (CancelledKnown (items work).phase code)))

/-- The UI thread takes its next atomic step in `Execute`. -/
inductive Executes (m : Machine Work Shutdown Binding) : Machine Work Shutdown Binding → Prop where
  | foundNothing (hpoint : m.execute = .entered) (hslot : m.occupied = none) : Executes m (m.executeAt .idle)
  | found (work : Work) (hpoint : m.execute = .entered) (hslot : m.occupied = some work) :
    Executes m (m.executeAt (.taken work))
  | claimed (work : Work) (hpoint : m.execute = .taken work) (hstate : m.state work = .pending) :
    Executes m ((m.claim work).executeAt (.running work))
  | notClaimed (work : Work) (hpoint : m.execute = .taken work) (hstate : m.state work ≠ .pending) :
    Executes m (m.executeAt (.refused work))
  | dropped (work : Work) (hpoint : m.execute = .refused work) : Executes m ((m.clear work).executeAt .idle)
  | completed (work : Work) (result : CertifiedExecutionResult Binding) (hpoint : m.execute = .running work)
      (hresult : HandlerResult (items work) result) (hstate : m.state work = .claimed) :
    Executes m ((m.mark work .completed).executeAt (.settling work result))
  | alreadyCompleted (work : Work) (hpoint : m.execute = .running work) (hstate : m.state work ≠ .claimed) :
    Executes m (m.executeAt (.releasing work))
  | setResult (work : Work) (result : CertifiedExecutionResult Binding) (hpoint : m.execute = .settling work result) :
    Executes m ((m.trySetResult work .handler result).executeAt (.releasing work))
  | released (work : Work) (hpoint : m.execute = .releasing work) : Executes m ((m.clear work).executeAt .idle)

/-- A call of `FailPending` takes its next atomic step. -/
inductive FailsPending (m : Machine Work Shutdown Binding) (call : Shutdown) : Machine Work Shutdown Binding → Prop where
  | foundNothing (code : CertifiedFailureCode) (hpoint : m.failPending call = .entered code)
      (hslot : m.occupied = none) : FailsPending m call (m.failPendingAt call .returned)
  | found (work : Work) (code : CertifiedFailureCode) (hpoint : m.failPending call = .entered code)
      (hslot : m.occupied = some work) : FailsPending m call (m.failPendingAt call (.found work code))
  | cancelled (work : Work) (code : CertifiedFailureCode) (hpoint : m.failPending call = .found work code)
      (hstate : m.state work = .pending) :
    FailsPending m call ((m.mark work .cancelled).failPendingAt call (.cancelled work code))
  | notCancelled (work : Work) (code : CertifiedFailureCode) (hpoint : m.failPending call = .found work code)
      (hstate : m.state work ≠ .pending) : FailsPending m call (m.failPendingAt call (.refused work code))
  | setCancelled (work : Work) (code : CertifiedFailureCode) (hpoint : m.failPending call = .cancelled work code) :
    FailsPending m call ((m.trySetResult work (.shutdown call)
      (CancelledKnown (items work).phase code)).failPendingAt call (.clearing work))
  | cleared (work : Work) (hpoint : m.failPending call = .clearing work) :
    FailsPending m call ((m.clear work).failPendingAt call .returned)
  | isClaimed (work : Work) (code : CertifiedFailureCode) (hpoint : m.failPending call = .refused work code)
      (hstate : m.state work = .claimed) : FailsPending m call (m.failPendingAt call (.completing work code))
  | isNotClaimed (work : Work) (code : CertifiedFailureCode) (hpoint : m.failPending call = .refused work code)
      (hstate : m.state work ≠ .claimed) : FailsPending m call (m.failPendingAt call .returned)
  | completed (work : Work) (code : CertifiedFailureCode) (hpoint : m.failPending call = .completing work code)
      (hstate : m.state work = .claimed) :
    FailsPending m call ((m.mark work .completed).failPendingAt call (.settling work code))
  | alreadyCompleted (work : Work) (code : CertifiedFailureCode) (hpoint : m.failPending call = .completing work code)
      (hstate : m.state work ≠ .claimed) : FailsPending m call (m.failPendingAt call (.releasing work))
  | setUnknown (work : Work) (code : CertifiedFailureCode) (hpoint : m.failPending call = .settling work code) :
    FailsPending m call ((m.trySetResult work (.shutdown call) (Unknown (items work).phase code)).failPendingAt call
      (.releasing work))
  | released (work : Work) (hpoint : m.failPending call = .releasing work) :
    FailsPending m call ((m.clear work).failPendingAt call .returned)

/-- A call in progress takes its next atomic step. -/
inductive Continues (m m' : Machine Work Shutdown Binding) : Prop where
  | dispatch (work : Work) (hstep : Dispatches items m work m')
  | execute (hstep : Executes items m m')
  | failPending (call : Shutdown) (hstep : FailsPending items m call m')

/-- One atomic step of any party. -/
inductive Step (m m' : Machine Work Shutdown Binding) : Prop where
  | starts (hstep : Starts m m')
  | continues (hstep : Continues items m m')

/-- A moment of some interleaving. -/
def Reachable (m : Machine Work Shutdown Binding) : Prop := Relation.ReflTransGen (Step items) Machine.initial m

/-- What a call of `DispatchAsync` returned. -/
def Machine.reported (m : Machine Work Shutdown Binding) (work : Work) : Option (CertifiedExecutionResult Binding) :=
  match m.dispatch work with
  | .busy => some (Failure (items work).phase .busy false)
  | .returned result => some result
  | _ => none

/-- No call of `DispatchAsync` is in progress. -/
def Machine.DispatchesDone (m : Machine Work Shutdown Binding) : Prop :=
  ∀ work, m.dispatch work = .notCalled ∨ (m.reported items work).isSome

/-- No call of `FailPending` is in progress. -/
def Machine.FailPendingDone (m : Machine Work Shutdown Binding) : Prop :=
  ∀ call, m.failPending call = .notCalled ∨ m.failPending call = .returned

end machine

end revit_operator.safe_read_host
