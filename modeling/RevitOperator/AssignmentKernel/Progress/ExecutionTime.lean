import RevitOperator.AssignmentKernel.Snapshot

namespace revit_operator.assignment_kernel

/-- An instant in milliseconds. -/
def JavaScriptHost.instant (host : JavaScriptHost) (time : String) : Option ℚ :=
  (host.parseDate time).map fun parsed => (parsed : ℚ)

/-- The interval a provider call is charged for. An imported receipt states its
    provider duration; it is not charged for a late delivery. -/
def providerInterval (host : JavaScriptHost) (now : String) (call : ProviderCallV2) : Option (ℚ × ℚ) := do
  let start ← host.instant call.admitted_at
  match call.provider_duration_ms with
  | some (some duration) => return (start, start + duration)
  | _ =>
    let stop ← host.instant ((call.completed_at <|> call.response_transport_completed_at).getD now)
    return (start, stop)

/-- The interval an operation is charged for. -/
def operationInterval (host : JavaScriptHost) (now : String) (operation : OperationV2) :
    Option (ℚ × ℚ) := do
  let start ← host.instant operation.opened_at
  let stop ← host.instant (operation.settled_at.getD now)
  return (start, stop)

/-- Keep an interval within the life of the task so far. -/
def boundedInterval (created until_ : ℚ) (interval : ℚ × ℚ) : ℚ × ℚ :=
  (min until_ (max created interval.1), min until_ (max (max created interval.1) interval.2))

/-- The time some ordered intervals cover beyond what is covered already. -/
def coveredTime : Option ℚ → List (ℚ × ℚ) → ℚ
  | _, [] => 0
  | coveredUntil, (start, stop) :: rest =>
    let reached := match coveredUntil with
      | some covered => max start covered
      | none => start
    max 0 (stop - reached) + coveredTime (some ((coveredUntil.map (max stop)).getD stop)) rest

/-- The wall time with admitted work, where overlapping work counts once and an
    unsettled interval is charged until now. `none` is the infinite time of
    instants that do not parse. -/
def assignmentActiveExecutionTimeMsV2 (host : JavaScriptHost) (snapshot : AssignmentSnapshotV2)
    (now : String) : Option ℚ := do
  let until_ ← host.instant now
  let created ← host.instant snapshot.spec.created_at
  let calls ← snapshot.provider_calls.values.mapM (providerInterval host now)
  let operations ← snapshot.operations.values.mapM (operationInterval host now)
  let bounded := (calls ++ operations).map (boundedInterval created until_)
  return coveredTime none (bounded.insertionSort fun a b => a.1 ≤ b.1)

/-- The active time stays below a limit; infinite time does not. -/
def activeTimeBelow (host : JavaScriptHost) (snapshot : AssignmentSnapshotV2) (now : String) (limit : Int) :
    Bool :=
  match assignmentActiveExecutionTimeMsV2 host snapshot now with
  | some elapsed => elapsed < limit
  | none => false

end revit_operator.assignment_kernel
