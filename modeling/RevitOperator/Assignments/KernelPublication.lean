import RevitOperator.AssignmentKernel.JournalBuilder
import RevitOperator.Contracts.KernelPublication

open checked
open revit_operator.assignment_kernel
open revit_operator.contracts

namespace revit_operator.assignments

/-- The publication of a snapshot before it is checked. -/
def publicationOf (snapshot : AssignmentSnapshotV2) : AssignmentKernelPublicationV2 where
  schema := ASSIGNMENT_KERNEL_PUBLICATION_V2_SCHEMA
  assignment_id := snapshot.current_binding.assignment_id
  assignment_version := snapshot.assignment_version
  snapshot
  provider_ledger :=
    { schema := ASSIGNMENT_PROVIDER_LEDGER_V2_SCHEMA
      assignment_id := snapshot.current_binding.assignment_id
      run_id := snapshot.current_binding.run_id
      generation := snapshot.current_binding.generation
      call_ids := snapshot.provider_call_ids
      calls := snapshot.provider_calls.restrict snapshot.provider_call_ids
      in_flight_call_ids := snapshot.in_flight_provider_call_ids }

def buildAssignmentKernelPublicationV2 (host : JavaScriptHost) (snapshot : AssignmentSnapshotV2) :
    Except String AssignmentKernelPublicationV2 := do
  let publication := publicationOf snapshot
  let _ ← parseAssignmentKernelPublicationV2 host publication
  return publication

/-- What the reducer leaves open about a provider call and its publication
    needs: the call belongs to the run, its members have their shape, and a
    completed call says whether it succeeded. -/
structure ProviderCallPublishable (host : JavaScriptHost) (binding : AssignmentBindingV2) (call : ProviderCallV2) :
    Prop where
  binding : call.binding = binding
  call_id : requiredString call.call_id = true
  shape : validProviderCallShape host call = true
  success : call.completed_at.isSome = true → call.success.isSome = true

/-- What the reducer leaves open about a snapshot and its publication needs: the
    provider calls and execution failures of earlier runs are none, identities
    are not blank, and numbers and times are in range. -/
structure Publishable (host : JavaScriptHost) (snapshot : AssignmentSnapshotV2) : Prop where
  version : snapshot.assignment_version ≤ 9007199254740991
  scope : requiredString snapshot.current_binding.assignment_id = true
    ∧ requiredString snapshot.current_binding.run_id = true
    ∧ positiveSafeInteger snapshot.current_binding.generation = true
    ∧ requiredString snapshot.current_binding.session_id = true
    ∧ requiredString snapshot.current_binding.principal_id = true
  control : ∀ control, snapshot.execution_control = some control → host.finiteDate control.changed_at = true
  calls : ∀ id call, snapshot.provider_calls.get? id = some call →
    ProviderCallPublishable host snapshot.current_binding call
  failures : ∀ id failure, snapshot.execution_failures.get? id = some failure →
    failure.binding = snapshot.current_binding
  hold : ∀ hold, snapshot.provider_usage_hold = some hold →
    text.length hold.recorded_at ≤ 80 ∧ displayBinding hold.binding = true

variable {call : ProviderCallV2} {id : String}

section checks

variable {host : JavaScriptHost} {snapshot : AssignmentSnapshotV2}

private theorem requiredString_truthy {value : String} (h : requiredString value = true) :
    truthy (some value) = true := by
  have hne : value ≠ "" := by
    rintro rfl
    cases h
  simpa [truthy] using hne

/-- Under the times a shaped call has, the state check is about its success
    only. -/
private theorem coherent_iff (hstaged : call.Staged)
    (hshape : validProviderCallShape host call = true) :
    coherentProviderCallState call.inFlight call = true
      ↔ (call.completed_at.isSome = true → call.success.isSome = true) := by
  simp only [validProviderCallShape, Bool.and_eq_true] at hshape
  have hcompletedAt : validOptionalTimestamp call.completed_at = true := by tauto
  have htransportAt : validOptionalTimestamp call.response_transport_completed_at = true := by tauto
  have htransported : call.state = .response_transport_completed →
      call.response_transport_completed_at.any requiredString = true := by
    intro hstate
    obtain ⟨time, htime⟩ := Option.isSome_iff_exists.1 (hstaged.transported hstate)
    simpa [validOptionalTimestamp, htime] using htransportAt
  have hlast : (!(call.state == .response_transport_completed
      && !call.response_transport_completed_at.any requiredString)) = true := by
    by_cases hstate : call.state = .response_transport_completed
    · simp [htransported hstate]
    · simp [hstate]
  cases htime : call.completed_at with
  | none =>
    have hopen : isTerminalProviderCallStateV2 call.state = false := by
      simpa [htime] using hstaged.completed
    simp only [coherentProviderCallState, ProviderCallV2.inFlight, htime, truthy, Option.any_none, hopen, hlast]
    simp
  | some time =>
    have hterminal : isTerminalProviderCallStateV2 call.state = true := by
      simpa [htime] using hstaged.completed
    have htimed : requiredString time = true := by
      simpa [validOptionalTimestamp, htime] using hcompletedAt
    simp only [coherentProviderCallState, ProviderCallV2.inFlight, htime, requiredString_truthy htimed,
      Option.any_some, htimed, hterminal, hlast]
    cases call.success <;> simp

private theorem mem_inFlight_iff (hsound : snapshot.Publishes host)
    (hflight : snapshot.in_flight_provider_call_ids
      = text.sorted ((snapshot.provider_calls.values.filter ProviderCallV2.inFlight).map ProviderCallV2.call_id))
    (hget : snapshot.provider_calls.get? id = some call) :
    id ∈ snapshot.in_flight_provider_call_ids ↔ call.inFlight = true := by
  rw [hflight, text.mem_sorted, List.mem_map]
  constructor
  · rintro ⟨kept, hkept, hid⟩
    obtain ⟨hvalue, hopen⟩ := List.mem_filter.1 hkept
    obtain ⟨keptId, hkeptGet⟩ := Record.mem_values.1 hvalue
    have hkeyed := (hsound.calls keptId kept hkeptGet).1
    obtain rfl : keptId = id := hkeyed.symm.trans hid
    obtain rfl : kept = call := by simpa using hkeptGet.symm.trans hget
    exact hopen
  · intro hopen
    exact ⟨call, List.mem_filter.2 ⟨Record.mem_values_of_get? hget, hopen⟩, (hsound.calls id call hget).1⟩

private theorem inFlight_nodup (hsound : snapshot.Publishes host)
    (hflight : snapshot.in_flight_provider_call_ids
      = text.sorted ((snapshot.provider_calls.values.filter ProviderCallV2.inFlight).map ProviderCallV2.call_id)) :
    snapshot.in_flight_provider_call_ids.Nodup := by
  rw [hflight, (text.sorted_perm _).nodup_iff]
  have hids := Record.map_values_eq_ids fun id call hget => (hsound.calls id call hget).1
  have hnodup : (snapshot.provider_calls.values.map ProviderCallV2.call_id).Nodup := by
    rw [hids]
    exact snapshot.provider_calls.ids_nodup
  exact hnodup.sublist (List.filter_sublist.map _)

private theorem call_of_mem (hsound : snapshot.Publishes host)
    (hid : id ∈ snapshot.provider_call_ids) : ∃ call, snapshot.provider_calls.get? id = some call :=
  Option.isSome_iff_exists.1 ((hsound.call_ids id).1 hid)

private theorem restrict_get? (hsound : snapshot.Publishes host) (id : String) :
    (snapshot.provider_calls.restrict snapshot.provider_call_ids).get? id = snapshot.provider_calls.get? id := by
  rw [Record.get?_restrict]
  split
  · rfl
  · next hid =>
    have hnone := mt (hsound.call_ids id).2 hid
    rw [Option.not_isSome_iff_eq_none] at hnone
    exact hnone.symm

private theorem sorted_ids {α : Type} {record : Record α} {ids : List String} (hids : ids.Nodup)
    (hmem : ∀ id, id ∈ ids ↔ (record.get? id).isSome = true) : text.sorted record.ids = text.sorted ids := by
  refine text.sorted_eq_of_mem_iff record.ids_nodup hids fun id => ?_
  rw [Record.mem_ids, hmem, Option.isSome_iff_exists]

private theorem checkPublishedCall_iff (hsound : snapshot.Publishes host)
    (hflight : snapshot.in_flight_provider_call_ids
      = text.sorted ((snapshot.provider_calls.values.filter ProviderCallV2.inFlight).map ProviderCallV2.call_id))
    (hget : snapshot.provider_calls.get? id = some call) :
    checkPublishedCall host (publicationOf snapshot) id = .ok ()
      ↔ call.binding = snapshot.current_binding ∧ validProviderCallShape host call = true
        ∧ (call.completed_at.isSome = true → call.success.isSome = true) := by
  obtain ⟨hkeyed, hstaged⟩ := hsound.calls id call hget
  have hlisted : snapshot.in_flight_provider_call_ids.contains id = call.inFlight := by
    rw [Bool.eq_iff_iff, List.contains_iff_mem]
    exact mem_inFlight_iff hsound hflight hget
  have hcopy : (publicationOf snapshot).provider_ledger.calls.get? id = some call :=
    (restrict_get? hsound id).trans hget
  have hkept : (publicationOf snapshot).snapshot.provider_calls.get? id = some call := hget
  simp only [checkPublishedCall, hcopy, hkept, check_bind_eq_ok, require_eq_ok, hkeyed, true_and,
    sameAssignmentBindingV2_iff]
  constructor
  · rintro ⟨hbinding, hshape, hcoherent⟩
    refine ⟨hbinding, hshape, (coherent_iff hstaged hshape).1 ?_⟩
    rw [← hlisted]
    exact hcoherent
  · rintro ⟨hbinding, hshape, hsuccess⟩
    refine ⟨hbinding, hshape, ?_⟩
    have hcoherent := (coherent_iff hstaged hshape).2 hsuccess
    rw [← hlisted] at hcoherent
    exact hcoherent

private theorem checkPublishedFailure_iff (hsound : snapshot.Publishes host)
    {failure : ExecutionFailureV2} (hget : snapshot.execution_failures.get? id = some failure) :
    checkPublishedFailure snapshot id = .ok () ↔ failure.binding = snapshot.current_binding := by
  obtain ⟨hkeyed, hadmitted⟩ := hsound.failures id failure hget
  simp only [checkPublishedFailure, hget, require_eq_ok, hkeyed, hadmitted.schema, hadmitted.code,
    sameAssignmentBindingV2_iff, true_and, and_true]

private theorem parseProviderUsageHoldV1_iff {hold : ProviderUsageHoldV1} {binding : AssignmentBindingV2}
    (hadmitted : hold.Admitted host) (hbinding : hold.binding = binding)
    (hgeneration : positiveSafeInteger binding.generation = true) :
    parseProviderUsageHoldV1 host hold binding = .ok ()
      ↔ text.length hold.recorded_at ≤ 80 ∧ displayBinding hold.binding = true := by
  obtain ⟨hschema, hcode⟩ := hadmitted.contract
  have hids := hadmitted.identities
  simp only [boundedIdentity] at hids
  simp only [parseProviderUsageHoldV1, check_bind_eq_ok, require_eq_ok, hschema, hcode, hids,
    hadmitted.recorded, hadmitted.budget, hadmitted.worker, hbinding, hgeneration,
    sameAssignmentBindingV2_self, true_and, and_true]

end checks

section publication

variable {host : JavaScriptHost} {snapshot : AssignmentSnapshotV2}

private theorem inFlight_of_reduce {events : List AssignmentEventV2}
    (h : reduceAssignmentEventsV2 host events = .ok snapshot) :
    snapshot.in_flight_provider_call_ids
      = text.sorted
        ((snapshot.provider_calls.values.filter ProviderCallV2.inFlight).map ProviderCallV2.call_id) := by
  obtain ⟨state, hstate, hsome⟩ := reduceAssignmentEventsV2_eq_ok.1 h
  obtain ⟨recorded, rfl⟩ := feed_derives hstate hsome
  rfl

private theorem positiveSafeInteger_version (hversion : 1 ≤ snapshot.assignment_version) :
    positiveSafeInteger snapshot.assignment_version = true ↔ snapshot.assignment_version ≤ 9007199254740991 := by
  simp only [positiveSafeInteger, isSafeInteger, Bool.and_eq_true, decide_eq_true_eq]
  omega

private theorem ledger_index (hsound : snapshot.Publishes host)
    (hflight : snapshot.in_flight_provider_call_ids
      = text.sorted ((snapshot.provider_calls.values.filter ProviderCallV2.inFlight).map ProviderCallV2.call_id))
    (hids : ∀ id call, snapshot.provider_calls.get? id = some call → requiredString call.call_id = true) :
    requiredStringArray snapshot.provider_call_ids = true
      ∧ requiredStringArray snapshot.in_flight_provider_call_ids = true
      ∧ ∀ id ∈ snapshot.in_flight_provider_call_ids, id ∈ snapshot.provider_call_ids := by
  have hsubset : ∀ id ∈ snapshot.in_flight_provider_call_ids, id ∈ snapshot.provider_call_ids := by
    intro id hid
    rw [hflight, text.mem_sorted, List.mem_map] at hid
    obtain ⟨call, hcall, rfl⟩ := hid
    obtain ⟨kept, hget⟩ := Record.mem_values.1 (List.mem_filter.1 hcall).1
    refine (hsound.call_ids _).2 ?_
    rw [(hsound.calls kept call hget).1, hget]
    rfl
  have hrequired : requiredStringArray snapshot.provider_call_ids = true := by
    rw [requiredStringArray, List.all_eq_true]
    intro id hid
    obtain ⟨call, hget⟩ := call_of_mem hsound hid
    have hcall := hids id call hget
    rwa [(hsound.calls id call hget).1] at hcall
  refine ⟨hrequired, ?_, hsubset⟩
  rw [requiredStringArray, List.all_eq_true] at hrequired ⊢
  exact fun id hid => hrequired id (hsubset id hid)

private theorem failure_ids_required (hsound : snapshot.Publishes host) :
    requiredStringArray snapshot.execution_failure_ids = true := by
  rw [requiredStringArray, List.all_eq_true]
  intro id hid
  obtain ⟨failure, hget⟩ := Option.isSome_iff_exists.1 ((hsound.failure_ids id).1 hid)
  obtain ⟨hkeyed, hadmitted⟩ := hsound.failures id failure hget
  rw [← hkeyed]
  exact text.nonBlank_of_isStableIdentity hadmitted.failure_id

/-- The parser accepts the publication of a sound snapshot exactly when the
    snapshot is publishable. -/
private theorem parse_iff (hsound : snapshot.Publishes host) (hversion : 1 ≤ snapshot.assignment_version)
    (hflight : snapshot.in_flight_provider_call_ids
      = text.sorted
        ((snapshot.provider_calls.values.filter ProviderCallV2.inFlight).map ProviderCallV2.call_id)) :
    (∃ parsed, parseAssignmentKernelPublicationV2 host (publicationOf snapshot) = .ok parsed)
      ↔ Publishable host snapshot := by
  constructor
  · rintro ⟨parsed, hparsed⟩
    simp only [parseAssignmentKernelPublicationV2, check_bind_eq_ok, require_eq_ok, forEach_eq_ok,
      pure_eq_ok] at hparsed
    obtain ⟨-, ⟨hassignment, hnumber⟩, -, hcontrol, ⟨-, hrun, hgeneration, hsession, hprincipal⟩, -, hindex, -,
      hcalls, -, hfailures, hholds, -⟩ := hparsed
    have hrequired := List.all_eq_true.1 hindex.1
    refine ⟨(positiveSafeInteger_version hversion).1 hnumber,
      ⟨hassignment, hrun, hgeneration, hsession, hprincipal⟩, ?_, ?_, ?_, ?_⟩
    · intro control hsome
      exact (hcontrol control hsome).2
    · intro id call hget
      have hid : id ∈ snapshot.provider_call_ids := (hsound.call_ids id).2 (by simp [hget])
      obtain ⟨hbinding, hshape, hsuccess⟩ := (checkPublishedCall_iff hsound hflight hget).1 (hcalls id hid)
      refine ⟨hbinding, ?_, hshape, hsuccess⟩
      rw [(hsound.calls id call hget).1]
      exact hrequired id hid
    · intro id failure hget
      have hsome : (snapshot.execution_failures.get? id).isSome = true := by simp [hget]
      have hid : id ∈ snapshot.execution_failure_ids := (hsound.failure_ids id).2 hsome
      exact (checkPublishedFailure_iff hsound hget).1 (hfailures id hid)
    · intro hold hsome
      obtain ⟨hadmitted, hbinding⟩ := hsound.hold hold hsome
      exact (parseProviderUsageHoldV1_iff hadmitted hbinding hgeneration).1 (hholds hold (Option.mem_toList.2 hsome))
  · rintro ⟨hnumber, ⟨hassignment, hrun, hgeneration, hsession, hprincipal⟩, hcontrol, hcalls, hfailures, hholds⟩
    obtain ⟨hids, hflightIds, hsubset⟩ := ledger_index hsound hflight fun id call hget =>
      (hcalls id call hget).call_id
    refine ⟨publicationOf snapshot, ?_⟩
    simp only [parseAssignmentKernelPublicationV2, check_bind_eq_ok, require_eq_ok, forEach_eq_ok, pure_eq_ok]
    refine ⟨rfl, ⟨hassignment, (positiveSafeInteger_version hversion).2 hnumber⟩, rfl, ?_,
      ⟨rfl, hrun, hgeneration, hsession, hprincipal⟩, ⟨rfl, rfl, rfl, rfl⟩,
      ⟨hids, hflightIds, hids, hflightIds, hsound.call_ids_nodup, inFlight_nodup hsound hflight, rfl, rfl,
        hsubset⟩, ⟨?_, ?_⟩, ?_, ⟨failure_ids_required hsound, hsound.failure_ids_nodup, ?_⟩, ?_, ?_, trivial⟩
    · intro control hsome
      exact ⟨hsound.control control hsome, hcontrol control hsome⟩
    · refine sorted_ids hsound.call_ids_nodup fun id => ?_
      have hcopy := restrict_get? hsound id
      exact (hsound.call_ids id).trans (by rw [← hcopy]; rfl)
    · exact sorted_ids hsound.call_ids_nodup hsound.call_ids
    · intro id hid
      obtain ⟨call, hget⟩ := call_of_mem hsound hid
      have hcall := hcalls id call hget
      exact (checkPublishedCall_iff hsound hflight hget).2 ⟨hcall.binding, hcall.shape, hcall.success⟩
    · exact sorted_ids hsound.failure_ids_nodup hsound.failure_ids
    · intro id hid
      obtain ⟨failure, hget⟩ := Option.isSome_iff_exists.1 ((hsound.failure_ids id).1 hid)
      exact (checkPublishedFailure_iff hsound hget).2 (hfailures id failure hget)
    · intro hold hsome
      have hsome : snapshot.provider_usage_hold = some hold := Option.mem_toList.1 hsome
      obtain ⟨hadmitted, hbinding⟩ := hsound.hold hold hsome
      exact (parseProviderUsageHoldV1_iff hadmitted hbinding hgeneration).2 (hholds hold hsome)

/-- The publication of every assignment the reducer accepts can be read exactly
    when the snapshot is publishable: in particular when no provider call and no
    execution failure of an earlier run is retained. The journals are those whose
    provider calls are named apart from the inherited members. -/
theorem publication_readable_iff (host : JavaScriptHost) {events : List AssignmentEventV2}
    {snapshot : AssignmentSnapshotV2} (h : reduceAssignmentEventsV2 host events = .ok snapshot) :
    ((∃ publication, buildAssignmentKernelPublicationV2 host snapshot = .ok publication)
        ∧ ∀ event ∈ events, event.NamesOwnCall)
      ↔ Publishable host snapshot ∧ ∀ event ∈ events, event.NamesOwnCall := by
  obtain ⟨hversion, hsound⟩ := publishes_of_reduce h
  rw [← parse_iff hsound hversion (inFlight_of_reduce h)]
  refine and_congr_left' ?_
  simp only [buildAssignmentKernelPublicationV2, bind_eq_ok, pure_eq_ok]
  constructor
  · rintro ⟨publication, parsed, hparsed, -⟩
    exact ⟨parsed, hparsed⟩
  · rintro ⟨parsed, hparsed⟩
    exact ⟨_, parsed, hparsed, rfl⟩

/-- What is published after a journal. -/
def publicationAfter (host : JavaScriptHost) (events : List AssignmentEventV2) :
    Option AssignmentKernelPublicationV2 :=
  (reduceAssignmentEventsV2 host events).toOption.bind fun snapshot =>
    (buildAssignmentKernelPublicationV2 host snapshot).toOption

/-- A run with a finished provider call is superseded, and a new run starts. -/
def restartedJournal : List AssignmentEventV2 :=
  sampleJournal [
      ("assignment-kernel", .provider_call_recorded "call-1" "openai" "model-1" (some "medium") true),
      ("assignment-kernel", .run_superseded 2)]
    ++ journalFrom { sampleBinding with run_id := "run-2", generation := 2 } sampleTime 4
      [("assignment-kernel", .run_started)]

/-- The restarted assignment is accepted and cannot be published. -/
theorem restarted_assignment_unreadable :
    ∃ snapshot, reduceAssignmentEventsV2 asciiHost restartedJournal = .ok snapshot
      ∧ ∀ publication, buildAssignmentKernelPublicationV2 asciiHost snapshot ≠ .ok publication := by
  have haccepted : (reduceAssignmentEventsV2 asciiHost restartedJournal).isOk = true := by decide
  have hunreadable : (publicationAfter asciiHost restartedJournal).isNone = true := by decide
  obtain ⟨snapshot, hrun⟩ := exists_of_isOk haccepted
  refine ⟨snapshot, hrun, fun publication hbuilt => ?_⟩
  rw [publicationAfter, hrun] at hunreadable
  simp [Except.toOption, hbuilt] at hunreadable

/-- Before the restart it can. -/
theorem publication_readable_iff_on_first_run :
    ∃ snapshot, reduceAssignmentEventsV2 asciiHost (restartedJournal.take 2) = .ok snapshot
      ∧ Publishable asciiHost snapshot ∧ ∀ event ∈ restartedJournal.take 2, event.NamesOwnCall := by
  have hreadable : (publicationAfter asciiHost (restartedJournal.take 2)).isSome = true := by decide
  have hown : ∀ event ∈ restartedJournal.take 2, event.NamesOwnCall := by decide
  obtain ⟨publication, hpublication⟩ := Option.isSome_iff_exists.1 hreadable
  simp only [publicationAfter, Option.bind_eq_some_iff, toOption_eq_some] at hpublication
  obtain ⟨snapshot, hrun, hbuilt⟩ := hpublication
  exact ⟨snapshot, hrun, (publication_readable_iff asciiHost hrun).1 ⟨⟨publication, hbuilt⟩, hown⟩⟩

end publication

end revit_operator.assignments
