import RevitOperator.AssignmentKernel.Progress.ActiveTime
import RevitOperator.AssignmentKernel.StateHistory

open checked checked_run MeasureTheory

namespace revit_operator.assignment_kernel

/-- Every timestamp the clock reads is an instant, and none of them is later
    than the given one. -/
def RecordedBy (host : JavaScriptHost) (snapshot : AssignmentSnapshotV2) (instant : ℚ) : Prop :=
  ∀ time ∈ clockTimestamps snapshot, ∃ recorded, host.instant time = some recorded ∧ recorded ≤ instant

/-- Nothing is charged beyond the instant: no operation stands at a failed
    commit, and no imported provider call lasts longer. -/
structure ChargedBy (host : JavaScriptHost) (snapshot : AssignmentSnapshotV2) (instant : ℚ) : Prop where
  operations : ∀ operation ∈ snapshot.operations.values, operation.settlement_state ≠ .observation_commit_failed
  calls : ∀ call ∈ snapshot.provider_calls.values, ∀ start duration, host.instant call.admitted_at = some start →
    call.provider_duration_ms = some (some duration) → start + duration ≤ instant

section settlement

variable {host : JavaScriptHost} {snapshot : AssignmentSnapshotV2} {event : AssignmentEventV2} {id : String}
  {before after : OperationV2}

/-- A settled operation has its settlement time, and an operation whose result
    is not settled has none. -/
structure OperationV2.SettlementTimed (operation : OperationV2) : Prop where
  settled : operation.settlement_state = .settled → operation.settled_at.isSome = true
  unsettled : operation.settlement_state ≠ .settled → operation.result.isSome = true → operation.settled_at = none

private theorem OperationMove.timed (h : OperationMove host snapshot event id before after)
    (hbefore : before.SettlementTimed) : after.SettlementTimed := by
  cases h with
  | dispatch_started hbody hawaits =>
    refine ⟨fun hsettled => (by cases hsettled), fun _ hresult => hbefore.unsettled ?_ hresult⟩
    simp only [OperationV2.awaitsDispatch, Bool.and_eq_true, beq_iff_eq] at hawaits
    simp [hawaits.1]
  | native_dispatched hbody hdispatchable =>
    refine ⟨fun hsettled => (by cases hsettled), fun _ hresult => hbefore.unsettled ?_ hresult⟩
    simp only [OperationV2.dispatchable, Bool.and_eq_true, bne_iff_ne] at hdispatchable
    exact hdispatchable.1
  | dispatched authority hbody hdispatchable =>
    refine ⟨fun hsettled => (by cases hsettled), fun _ hresult => hbefore.unsettled ?_ hresult⟩
    simp only [OperationV2.dispatchable, Bool.and_eq_true, bne_iff_ne] at hdispatchable
    exact hdispatchable.1
  | resulted result commit =>
    cases hrequired : result.observation_required with
    | true => exact ⟨by simp [resultedOperation, hrequired], by simp [resultedOperation, hrequired]⟩
    | false => exact ⟨by simp [resultedOperation, hrequired], by simp [resultedOperation, hrequired]⟩
  | commit_retried => exact ⟨hbefore.settled, hbefore.unsettled⟩
  | commit_failed resultId attempt errorCode hbody hretaining =>
    simp only [OperationV2.retaining, Bool.and_eq_true, beq_iff_eq] at hretaining
    refine ⟨fun hsettled => (by cases hsettled), fun _ hresult => hbefore.unsettled ?_ hresult⟩
    simp [hretaining.1]
  | retention_failed => exact ⟨fun _ => rfl, fun hopen => absurd rfl hopen⟩
  | completion_reconciled => exact ⟨hbefore.settled, hbefore.unsettled⟩
  | reconciled => exact ⟨hbefore.settled, hbefore.unsettled⟩

private theorem Changed.timed (h : Changed host snapshot event id before after) (hbefore : before.SettlementTimed) :
    after.SettlementTimed := by
  obtain ⟨moved, hchange, hlink⟩ := h
  have hmoved : moved.SettlementTimed := by
    cases hchange with
    | kept => exact hbefore
    | moved hmove => exact hmove.timed hbefore
    | retained => exact ⟨fun _ => rfl, fun hopen => absurd rfl hopen⟩
  cases hlink with
  | unlinked => exact hmoved
  | linked => exact ⟨hmoved.settled, hmoved.unsettled⟩

private theorem Admitted.timed (h : Admitted host snapshot event id after) : after.SettlementTimed := by
  obtain ⟨operation, -, hvalid, -, rfl⟩ := h
  have hshape := (validateOperationAdmission_accepted hvalid).shape
  simp only [checkAdmissionShape, check_bind_eq_ok, require_eq_ok] at hshape
  obtain ⟨-, -, hopen, -, hresult, -⟩ := hshape
  exact ⟨by simp [admittedOperation, hopen], by simp [admittedOperation, hresult]⟩

theorem settlementTimed_of_reduced {events : List AssignmentEventV2}
    (h : reduceAssignmentEventsV2 host events = .ok snapshot) :
    ∀ id operation, snapshot.operations.get? id = some operation → operation.SettlementTimed := by
  obtain ⟨state, hrun, hsome⟩ := reduceAssignmentEventsV2_eq_ok.1 h
  intro id operation hget
  have hkept : state.operation? id = some operation := by
    rw [ReducerStateV2.operation?_of_some hsome]
    exact hget
  exact feed_operation (fun _ _ _ _ _ hchange => hchange.timed) (fun _ _ _ _ hadmitted => hadmitted.timed) hrun hkept

end settlement

section idle

variable {host : JavaScriptHost} {snapshot : AssignmentSnapshotV2} {events : List AssignmentEventV2}
  {now later : String} {created current until_ : ℚ}

/-- In a reachable quiescent snapshot every call has completed, and every
    operation has its settlement time or stands at a failed commit without
    one. -/
theorem settled_of_quiescent (h : reduceAssignmentEventsV2 host events = .ok snapshot)
    (hquiescent : snapshot.quiescent = true) :
    (∀ call ∈ snapshot.provider_calls.values, call.completed_at.isSome = true)
      ∧ ∀ operation ∈ snapshot.operations.values,
        operation.settlement_state ≠ .observation_commit_failed ∧ operation.settled_at.isSome = true
          ∨ operation.settlement_state = .observation_commit_failed ∧ operation.settled_at = none := by
  obtain ⟨state, hrun, hsome⟩ := reduceAssignmentEventsV2_eq_ok.1 h
  obtain ⟨hcoherent, hindexed, -⟩ := feed_sound hrun snapshot hsome
  obtain ⟨hoperations, hcalls⟩ := hindexed.quiescent.1 hquiescent
  constructor
  · intro call hcall
    obtain ⟨id, hget⟩ := Record.mem_values.1 hcall
    have hdone := hcalls id call hget
    cases hcompleted : call.completed_at with
    | none => simp [ProviderCallV2.inFlight, hcompleted, truthy] at hdone
    | some time => rfl
  · intro operation hoperation
    obtain ⟨id, hget⟩ := Record.mem_values.1 hoperation
    have htimed := settlementTimed_of_reduced h id operation hget
    have hdone := hoperations id operation hget
    cases hstate : operation.settlement_state with
    | settled => exact .inl ⟨by simp, htimed.settled hstate⟩
    | observation_commit_failed =>
      refine .inr ⟨rfl, htimed.unsettled (by simp [hstate]) ?_⟩
      exact hcoherent.failed id operation hget hstate
    | open_ => simp [OperationV2.inFlight, hstate] at hdone
    | awaiting_result => simp [OperationV2.inFlight, hstate] at hdone
    | retaining_observation => simp [OperationV2.inFlight, hstate] at hdone

/-- Where nothing is charged beyond now, every interval charged later ends by
    now and is charged now. -/
theorem charged_now (hrecorded : RecordedBy host snapshot current) (hcharged : ChargedBy host snapshot current)
    (hcalls : ∀ call ∈ snapshot.provider_calls.values, call.completed_at.isSome = true)
    (hoperations : ∀ operation ∈ snapshot.operations.values, operation.settled_at.isSome = true)
    {interval : ℚ × ℚ} (h : Charged host snapshot later interval) :
    Charged host snapshot now interval ∧ interval.2 ≤ current := by
  rcases h with ⟨call, hcall, hinterval⟩ | ⟨operation, hoperation, hinterval⟩
  · obtain ⟨completed, hcompleted⟩ := Option.isSome_iff_exists.1 (hcalls call hcall)
    obtain ⟨start, hstart, hrest⟩ := Option.bind_eq_some_iff.1 hinterval
    have hsame : providerInterval host now call = providerInterval host later call := by
      simp [providerInterval, hcompleted]
    refine ⟨.inl ⟨call, hcall, hsame.trans hinterval⟩, ?_⟩
    split at hrest
    · next duration hduration =>
      cases hrest
      exact hcharged.calls call hcall start duration hstart hduration
    · obtain ⟨stop, hstop, hrest⟩ := Option.bind_eq_some_iff.1 hrest
      cases hrest
      obtain ⟨recorded, hinstant, hle⟩ := hrecorded completed (by
        simp only [clockTimestamps, List.cons_append, List.mem_cons, List.mem_append, List.mem_flatMap]
        exact .inr (.inl ⟨call, hcall, by simp [hcompleted]⟩))
      obtain rfl : recorded = stop := by simpa [hcompleted, hinstant] using hstop
      exact hle
  · obtain ⟨settled, hsettled⟩ := Option.isSome_iff_exists.1 (hoperations operation hoperation)
    have hsame : operationInterval host now operation = operationInterval host later operation := by
      simp [operationInterval, hsettled]
    refine ⟨.inr ⟨operation, hoperation, hsame.trans hinterval⟩, ?_⟩
    obtain ⟨start, hstart, hrest⟩ := Option.bind_eq_some_iff.1 hinterval
    obtain ⟨stop, hstop, hrest⟩ := Option.bind_eq_some_iff.1 hrest
    cases hrest
    obtain ⟨recorded, hinstant, hle⟩ := hrecorded settled (by
      simp only [clockTimestamps, List.cons_append, List.mem_cons, List.mem_append, List.mem_flatMap]
      exact .inr (.inr ⟨operation, hoperation, by simp [hsettled]⟩))
    obtain rfl : recorded = stop := by simpa [hsettled, hinstant] using hstop
    exact hle

theorem activeInstants_idle (hrecorded : RecordedBy host snapshot current) (hcharged : ChargedBy host snapshot current)
    (hcalls : ∀ call ∈ snapshot.provider_calls.values, call.completed_at.isSome = true)
    (hoperations : ∀ operation ∈ snapshot.operations.values, operation.settled_at.isSome = true) :
    activeInstants host snapshot later created until_ ⊆ activeInstants host snapshot now created current := by
  rintro t ⟨⟨hcreated, -⟩, interval, hinterval, hstart, hstop⟩
  obtain ⟨hnow, hends⟩ := charged_now hrecorded hcharged hcalls hoperations hinterval
  exact ⟨⟨hcreated, hstop.trans_le (Rat.cast_le.2 hends)⟩, interval, hnow, hstart, hstop⟩

theorem elapsed_add_le {active total : Set ℝ} {elapsed sum start stop : ℚ} (hsubset : active ⊆ total)
    (hbefore : ∀ t ∈ active, t < start) (hstretch : Set.Ico (start : ℝ) stop ⊆ total) (hle : start ≤ stop)
    (helapsed : volume active = ENNReal.ofReal (elapsed : ℝ)) (hsum : volume total = ENNReal.ofReal (sum : ℝ))
    (helapsedNonneg : 0 ≤ elapsed) (hsumNonneg : 0 ≤ sum) : elapsed + (stop - start) ≤ sum := by
  have hdisjoint : Disjoint active (Set.Ico (start : ℝ) stop) :=
    Set.disjoint_left.2 fun t hactive hwithin => absurd hwithin.1 (not_le.2 (hbefore t hactive))
  have hlength : (0 : ℝ) ≤ ((stop - start : ℚ) : ℝ) := Rat.cast_nonneg.2 (sub_nonneg.2 hle)
  have hle : ENNReal.ofReal ((elapsed + (stop - start) : ℚ) : ℝ) ≤ ENNReal.ofReal (sum : ℝ) := by
    calc ENNReal.ofReal ((elapsed + (stop - start) : ℚ) : ℝ)
        = ENNReal.ofReal (elapsed : ℝ) + ENNReal.ofReal ((stop - start : ℚ) : ℝ) := by
          rw [Rat.cast_add, ENNReal.ofReal_add (Rat.cast_nonneg.2 helapsedNonneg) hlength]
      _ = volume active + volume (Set.Ico (start : ℝ) stop) := by rw [helapsed, Real.volume_Ico, Rat.cast_sub]
      _ = volume (active ∪ Set.Ico (start : ℝ) stop) := (measure_union hdisjoint measurableSet_Ico).symm
      _ ≤ volume total := measure_mono (Set.union_subset hsubset hstretch)
      _ = ENNReal.ofReal (sum : ℝ) := hsum
  exact Rat.cast_le.1 ((ENNReal.ofReal_le_ofReal_iff (Rat.cast_nonneg.2 hsumNonneg)).1 hle)

/-- An interval charged later that goes on after now adds work between the two
    instants. -/
theorem stretch_charged (hcreated : created ≤ current) {interval : ℚ × ℚ}
    (hinterval : Charged host snapshot later interval) (hstart : interval.1 ≤ current) :
    Set.Ico (current : ℝ) (min until_ interval.2 : ℚ) ⊆ activeInstants host snapshot later created until_ := by
  rintro t ⟨hle, hlt⟩
  rw [Rat.cast_min, lt_min_iff] at hlt
  exact ⟨⟨(Rat.cast_le.2 hcreated).trans hle, hlt.1⟩, interval, hinterval, (Rat.cast_le.2 hstart).trans hle, hlt.2⟩

/-- Where something is charged beyond now, an interval charged later goes on
    after now. -/
theorem charged_beyond (hrecorded : RecordedBy host snapshot current) (hlater : host.instant later = some until_)
    (hlt : current < until_) (hbeyond : ¬ ChargedBy host snapshot current)
    (hoperations : ∀ operation ∈ snapshot.operations.values,
      operation.settlement_state = .observation_commit_failed → operation.settled_at = none) :
    ∃ interval, Charged host snapshot later interval ∧ interval.1 ≤ current ∧ current < interval.2 := by
  have hread : ∀ {time recorded}, time ∈ clockTimestamps snapshot → host.instant time = some recorded →
      recorded ≤ current := by
    intro time recorded htime hinstant
    obtain ⟨other, hother, hle⟩ := hrecorded time htime
    obtain rfl : other = recorded := by simpa [hinstant] using hother.symm
    exact hle
  by_cases hfailed : ∃ operation ∈ snapshot.operations.values,
      operation.settlement_state = .observation_commit_failed
  · obtain ⟨operation, hoperation, hstate⟩ := hfailed
    have hmem : operation.opened_at ∈ clockTimestamps snapshot := by
      simp only [clockTimestamps, List.cons_append, List.mem_cons, List.mem_append, List.mem_flatMap]
      exact .inr (.inr ⟨operation, hoperation, by simp⟩)
    obtain ⟨start, hstart, hle⟩ := hrecorded _ hmem
    refine ⟨(start, until_), .inr ⟨operation, hoperation, ?_⟩, hle, hlt⟩
    simp [operationInterval, hstart, hoperations operation hoperation hstate, hlater]
  · have hlong : ∃ call ∈ snapshot.provider_calls.values, ∃ start duration,
        host.instant call.admitted_at = some start ∧ call.provider_duration_ms = some (some duration)
          ∧ current < start + duration := by
      by_contra hnone
      refine hbeyond ⟨fun operation hoperation hstate => hfailed ⟨operation, hoperation, hstate⟩, ?_⟩
      intro call hcall start duration hstart hduration
      by_contra hlong
      exact hnone ⟨call, hcall, start, duration, hstart, hduration, not_le.1 hlong⟩
    obtain ⟨call, hcall, start, duration, hstart, hduration, hlong⟩ := hlong
    have hmem : call.admitted_at ∈ clockTimestamps snapshot := by
      simp only [clockTimestamps, List.cons_append, List.mem_cons, List.mem_append, List.mem_flatMap]
      exact .inr (.inl ⟨call, hcall, by simp⟩)
    refine ⟨(start, start + duration), .inl ⟨call, hcall, ?_⟩, hread hmem hstart, hlong⟩
    simp [providerInterval, hstart, hduration]

/-- Between two instants after everything recorded in a reachable quiescent
    snapshot the active time stands still exactly when the instants are one or
    nothing is charged beyond the earlier one. -/
theorem idle_time_free_iff (h : reduceAssignmentEventsV2 host events = .ok snapshot)
    (hquiescent : snapshot.quiescent = true) (hnow : host.instant now = some current)
    (hlater : host.instant later = some until_) (hle : current ≤ until_) (hrecorded : RecordedBy host snapshot current) :
    assignmentActiveExecutionTimeMsV2 host snapshot now = assignmentActiveExecutionTimeMsV2 host snapshot later
      ↔ current = until_ ∨ ChargedBy host snapshot current := by
  obtain ⟨hcalls, hoperations⟩ := settled_of_quiescent h hquiescent
  have hparse : TimestampsParse host snapshot := by
    intro time htime
    obtain ⟨recorded, hinstant, -⟩ := hrecorded time htime
    cases hparsed : host.parseDate time with
    | none => simp [JavaScriptHost.instant, hparsed] at hinstant
    | some parsed => rfl
  obtain ⟨created, hcreated, hbefore⟩ := hrecorded _ createdAt_mem
  obtain ⟨elapsed, helapsed, hnonneg, hvolume⟩ := activeTime_measures hparse hnow hcreated
  obtain ⟨total, htotal, hnonneg', hvolume'⟩ := activeTime_measures hparse hlater hcreated
  have hmore : activeInstants host snapshot now created current ⊆ activeInstants host snapshot later created until_ :=
    activeInstants_later hnow hlater hle
  rw [helapsed, htotal, Option.some.injEq]
  constructor
  · rintro rfl
    by_contra hgoesOn
    rw [not_or] at hgoesOn
    obtain ⟨hne, hbeyond⟩ := hgoesOn
    have hlt : current < until_ := lt_of_le_of_ne hle hne
    have hfailed : ∀ operation ∈ snapshot.operations.values,
        operation.settlement_state = .observation_commit_failed → operation.settled_at = none := by
      intro operation hmem hstate
      rcases hoperations operation hmem with ⟨hother, -⟩ | ⟨-, hnone⟩
      · exact absurd hstate hother
      · exact hnone
    obtain ⟨interval, hinterval, hstart, hends⟩ := charged_beyond hrecorded hlater hlt hbeyond hfailed
    have hsum := elapsed_add_le hmore (fun t ht => ht.1.2) (stretch_charged hbefore hinterval hstart)
      (le_min hle hends.le) hvolume hvolume' hnonneg hnonneg'
    have hpositive : current < min until_ interval.2 := lt_min hlt hends
    linarith
  · rintro (rfl | hcharged)
    · have hback : activeInstants host snapshot later created current
          ⊆ activeInstants host snapshot now created current := activeInstants_later hlater hnow hle
      exact le_antisymm (elapsed_le hmore hvolume hvolume' hnonneg') (elapsed_le hback hvolume' hvolume hnonneg)
    · have hsettled : ∀ operation ∈ snapshot.operations.values, operation.settled_at.isSome = true := by
        intro operation hmem
        rcases hoperations operation hmem with ⟨-, hsettled⟩ | ⟨hfailed, -⟩
        · exact hsettled
        · exact absurd hfailed (hcharged.operations operation hmem)
      have hback : activeInstants host snapshot later created until_
          ⊆ activeInstants host snapshot now created current :=
        activeInstants_idle hrecorded hcharged hcalls hsettled
      exact le_antisymm (elapsed_le hmore hvolume hvolume' hnonneg') (elapsed_le hback hvolume' hvolume hnonneg)

end idle

section sample

/-- A read whose observation could not be committed. -/
def failedCommitJournal : List AssignmentEventV2 :=
  sampleJournal [
    ("assignment-kernel", .operation_admitted (sampleRead "read-1")),
    ("native-host", .native_dispatch_recorded "read-1"),
    ("native-host", .operation_result_recorded (submittedResult (sampleRead "read-1") .succeeded .dispatched .none
      .not_applicable "native-host" true sampleTime) none),
    ("operator-evidence-store", .observation_commit_failed "read-1" "result:read-1" 1 "store_unavailable")]

def oneMinuteOn : String := "2026-07-20T00:01:00.000Z"

def twoMinutesOn : String := "2026-07-20T00:02:00.000Z"

/-- The events happen in order, none of them after the instant. -/
def HappenedBy (host : JavaScriptHost) (events : List AssignmentEventV2) (instant : ℚ) : Prop :=
  (∀ event ∈ events, ∃ happened, host.instant event.occurred_at = some happened ∧ happened ≤ instant)
    ∧ events.Pairwise fun earlier event => ∀ first second, host.instant earlier.occurred_at = some first →
      host.instant event.occurred_at = some second → first ≤ second

private theorem failedCommit_happened : HappenedBy asciiHost failedCommitJournal 1784505660000 := by
  have htime : asciiHost.instant sampleTime = some 1784505600000 := by decide +kernel
  have hall : ∀ event ∈ failedCommitJournal, event.occurred_at = sampleTime := by
    intro event hevent
    simp only [failedCommitJournal, sampleJournal, journalFrom, List.mem_cons, List.not_mem_nil, or_false] at hevent
    rcases hevent with rfl | rfl | rfl | rfl | rfl <;> rfl
  constructor
  · intro event hevent
    rw [hall event hevent]
    exact ⟨1784505600000, htime, by norm_num⟩
  · refine List.pairwise_of_forall_mem_list fun earlier hearlier event hevent first second hfirst hsecond => ?_
    rw [hall earlier hearlier] at hfirst
    rw [hall event hevent, hfirst] at hsecond
    cases hsecond
    exact le_rfl

private theorem failedCommit_reached : ∃ snapshot, reduceAssignmentEventsV2 asciiHost failedCommitJournal = .ok snapshot
    ∧ snapshot.quiescent = true ∧ RecordedBy asciiHost snapshot 1784505660000
    ∧ assignmentActiveExecutionTimeMsV2 asciiHost snapshot oneMinuteOn = some 60000
    ∧ assignmentActiveExecutionTimeMsV2 asciiHost snapshot twoMinutesOn = some 120000 := by
  have hreached : (reduceAssignmentEventsV2 asciiHost failedCommitJournal).toOption.map (fun snapshot =>
      (snapshot.quiescent, (clockTimestamps snapshot).all (fun time => time == sampleTime),
        assignmentActiveExecutionTimeMsV2 asciiHost snapshot oneMinuteOn,
        assignmentActiveExecutionTimeMsV2 asciiHost snapshot twoMinutesOn))
      = some (true, true, some 60000, some 120000) := by decide +kernel
  simp only [Option.map_eq_some_iff, toOption_eq_some, Prod.mk.injEq] at hreached
  obtain ⟨snapshot, hsnapshot, hquiescent, htimes, hnow, hlater⟩ := hreached
  refine ⟨snapshot, hsnapshot, hquiescent, ?_, hnow, hlater⟩
  intro time htime
  obtain rfl : time = sampleTime := by simpa using List.all_eq_true.1 htimes time htime
  exact ⟨1784505600000, by decide +kernel, by norm_num⟩

theorem idle_time_free_iff_failed_commit :
    ∃ snapshot, reduceAssignmentEventsV2 asciiHost failedCommitJournal = .ok snapshot
      ∧ (assignmentActiveExecutionTimeMsV2 asciiHost snapshot oneMinuteOn
          = assignmentActiveExecutionTimeMsV2 asciiHost snapshot twoMinutesOn
        ↔ (1784505660000 : ℚ) = 1784505720000 ∨ ChargedBy asciiHost snapshot 1784505660000) := by
  obtain ⟨snapshot, hsnapshot, hquiescent, hrecorded, -⟩ := failedCommit_reached
  exact ⟨snapshot, hsnapshot, idle_time_free_iff hsnapshot hquiescent (by decide +kernel) (by decide +kernel)
    (by norm_num) hrecorded⟩

/-- A quiescent task whose observation could not be committed is charged a
    minute for waiting a minute. -/
theorem failed_commit_charged_while_idle :
    ¬ ∀ (host : JavaScriptHost) (events : List AssignmentEventV2) (snapshot : AssignmentSnapshotV2)
        (now later : String) (current until_ : ℚ),
      reduceAssignmentEventsV2 host events = .ok snapshot → snapshot.quiescent = true
        → host.instant now = some current → host.instant later = some until_ → current ≤ until_
        → HappenedBy host events current → RecordedBy host snapshot current
        → assignmentActiveExecutionTimeMsV2 host snapshot now = assignmentActiveExecutionTimeMsV2 host snapshot later := by
  intro h
  obtain ⟨snapshot, hsnapshot, hquiescent, hrecorded, hnow, hlater⟩ := failedCommit_reached
  have hsame := h asciiHost failedCommitJournal snapshot oneMinuteOn twoMinutesOn 1784505660000 1784505720000 hsnapshot
    hquiescent (by decide +kernel) (by decide +kernel) (by norm_num) failedCommit_happened hrecorded
  rw [hnow, hlater] at hsame
  norm_num at hsame

end sample

end revit_operator.assignment_kernel
