import RevitOperator.Courier.PlainJobs

open checked durable durable.Program Relation

namespace revit_operator.courier

/-- The ids a run hands out, in order. -/
def handouts (host : CourierHost) : CourierStore → List CourierStep → List String
  | _, [] => []
  | store, step :: rest =>
    ((store.handedOut host step).map fun job => job.id).toList ++ handouts host (store.step host step) rest

structure TerminalOutcome where
  status : TerminalStatus
  result : Json
  error : Option String
  deriving DecidableEq

/-- `readRevitToolJobTerminalOutcome`: what readers of a job see. -/
def readRevitToolJobTerminalOutcome (host : CourierHost) (jobId : String) : Courier (Option TerminalOutcome) := do
  match ← inspect fun desk => readJob desk.files jobId with
  | none => pure none
  | some job => do
    let terminal ← readTerminalResult host job
    pure (terminal.map fun result => ⟨result.status, result.result, result.error⟩)

/-- The candidates a sweep gets to, up to the one it hands out. -/
def sweptJobs (host : CourierHost) (env : CourierEnvironment) (executorId : String) :
    List RevitToolJob → CourierStore → List String
  | [], _ => []
  | job :: rest, store =>
    let sweep := (jobPart job.id).focus (sweepJob host env executorId job)
    job.id :: match sweep.result store with
      | .ok none => sweptJobs host env executorId rest (sweep.final store)
      | _ => []

/-- The candidates of a claim, in order. -/
def claimCandidates (host : CourierHost) (env : CourierEnvironment) (input : ClaimInput) (sessionId : Option String)
    (executorId : String) (store : CourierStore) : List RevitToolJob :=
  sortCandidates host ((store.scanned env).activeJobs.filter fun job =>
    isCandidate host input sessionId executorId job.toCourierContract)

/-- The call is let through to the job: a sweep that gets to it, a report of its
    claimant, or an authorization request of its session. -/
def CourierStep.operatesOn (host : CourierHost) (store : CourierStore) (step : CourierStep) (jobId : String) : Prop :=
  match step.call with
  | .publish _ => False
  | .claimNext input => ∃ sessionId executorId, claimSession input = .ok sessionId
      ∧ safeContextIdentity input.executor_id "executor_id" = .ok executorId
      ∧ jobId ∈ sweptJobs host step.env executorId
        (claimCandidates host step.env input sessionId executorId store)
        { store with index := some (store.scanned step.env) }
  | .complete input | .fail input => safeId input.job_id "job_id" = .ok jobId
      ∧ ∃ job, (store.files jobId).job = some job ∧ Claimant input job
  | .authorize input => safeId input.job_id "job_id" = .ok jobId
      ∧ ∃ job executorId, (store.files jobId).job = some job
        ∧ safeContextIdentity input.session_id "session_id" = .ok job.session_id
        ∧ safeContextIdentity input.executor_id "executor_id" = .ok executorId

section handouts

variable {host : CourierHost} {store : CourierStore}

theorem leftPending_of_handouts (hsound : store.Sound) {steps : List CourierStep} {jobId : String}
    (hleft : (store.files jobId).LeftPending) : jobId ∉ handouts host store steps := by
  induction steps generalizing store with
  | nil => simp [handouts]
  | cons step rest ih =>
    have hsteps := step_storeSteps host hsound step
    rw [handouts, List.mem_append, not_or]
    refine ⟨fun hgiven => ?_, ih (hsteps.sound hsound) (StoreSteps.leftPending hsteps hleft)⟩
    cases hhanded : store.handedOut host step with
    | none => simp [hhanded] at hgiven
    | some job =>
      have hid : jobId = job.id := by simpa [hhanded] using hgiven
      rw [hid] at hleft
      exact (handedOut_leftPending hsound hhanded).1 hleft

theorem handouts_nodup (hsound : store.Sound) (steps : List CourierStep) : (handouts host store steps).Nodup := by
  induction steps generalizing store with
  | nil => exact List.nodup_nil
  | cons step rest ih =>
    have hnext := (step_storeSteps host hsound step).sound hsound
    have hrest := ih hnext
    rw [handouts]
    cases hhanded : store.handedOut host step with
    | none => simpa using hrest
    | some job =>
      have hnew : job.id ∉ handouts host (store.step host step) rest :=
        leftPending_of_handouts hnext (handedOut_leftPending hsound hhanded).2
      simpa using ⟨hnew, hrest⟩

end handouts

variable {contract : CourierContract}

variable {executorId : String} {input : ClaimInput} {sessionId : Option String}

section settlement

variable {host : CourierHost} {env : CourierEnvironment} {store : CourierStore} {jobId : String}

theorem readOutcome_eq {files : JobFiles} (hid : contract.id = jobId)
    (hholds : files.Holds contract) (hsound : files.Sound contract)
    (hplain : contract.isCertifiedFamilyJob = false) (index : Option ActiveJobIndex) :
    (readRevitToolJobTerminalOutcome host jobId).result ⟨files, index⟩
      = .ok (files.result.map fun result => ⟨result.status, result.result, result.error⟩) := by
  obtain ⟨job, hjob, hcontract⟩ := hholds
  have hdesk : PlainDesk ⟨files, index⟩ job := plainDesk_of_sound ⟨job, hjob, hcontract⟩ hsound hplain hjob
  have hread : readJob files jobId = some job := by
    rw [← hid, ← hcontract]
    simp [readJob, hjob]
  simp [readRevitToolJobTerminalOutcome, Program.result, Bind.bind, inspect, final, hread, hdesk.readTerminalResult,
    Pure.pure]

theorem holds_of_plain {files : JobFiles} (hdirectory : DirectorySound jobId files)
    (hholds : files.Holds contract) : contract.id = jobId ∧ files.Sound contract := by
  rcases hdirectory with hempty | ⟨owner, hid, howner, hfiles⟩
  · obtain ⟨job, hjob, _⟩ := hholds
    rw [hempty] at hjob
    cases hjob
  · rw [holds_unique hholds howner]
    exact ⟨hid, hfiles⟩

theorem sweepCandidates_frame (executorId : String) {candidates : List RevitToolJob}
    (hother : ∀ job ∈ candidates, job.id ≠ jobId) :
    (sweepCandidates host env executorId candidates).Ensures store (fun s => s.files jobId = store.files jobId)
      (fun _ s => s.files jobId = store.files jobId) fun _ s => s.files jobId = store.files jobId := by
  induction candidates generalizing store with
  | nil => simp [sweepCandidates]
  | cons job rest ih =>
    have hne : jobId ≠ job.id := fun hsame => hother job List.mem_cons_self hsame.symm
    have hkept : ∀ desk, ((jobPart job.id).set store desk).files jobId = store.files jobId := by
      intro desk
      simp [jobPart, hne]
    rw [sweepCandidates, ensures_bind, Part.ensures_focus]
    refine ⟨fun desk _ => hkept desk, ?_⟩
    split
    · next handed _ =>
      cases handed with
      | some given =>
        rw [ensures_pure]
        exact hkept _
      | none =>
        refine (ih fun other hmem => hother other (List.mem_cons_of_mem _ hmem)).mono (fun s hs => ?_)
          (fun _ s hs => ?_) fun _ s hs => ?_
        · rw [hs, hkept]
        · rw [hs, hkept]
        · rw [hs, hkept]
    · exact hkept _

/-- A sweep leaves the record of every plain job it got to in agreement with its
    result. -/
theorem sweepCandidates_settles (executorId : String)
    (hplain : contract.isCertifiedFamilyJob = false) {candidates : List RevitToolJob} (hsound : store.Sound)
    (hholds : (store.files jobId).Holds contract) (hdistinct : (candidates.map fun job => job.id).Nodup)
    (hfresh : ∀ job ∈ candidates, (store.files job.id).job = some job)
    (hswept : jobId ∈ sweptJobs host env executorId candidates store) :
    (sweepCandidates host env executorId candidates).Ensures store (fun _ => True)
      (fun _ s => (s.files jobId).Agrees) fun _ s => (s.files jobId).Agrees := by
  induction candidates generalizing store with
  | nil => simp [sweptJobs] at hswept
  | cons job rest ih =>
    rw [List.map_cons, List.nodup_cons] at hdistinct
    have hrest : ∀ other ∈ rest, other.id ≠ job.id := fun other hmem hsame =>
      hdistinct.1 (hsame ▸ List.mem_map.2 ⟨other, hmem, rfl⟩)
    have hjob : (store.files job.id).job = some job := hfresh job List.mem_cons_self
    rw [sweepCandidates, ensures_bind]
    by_cases hthis : jobId = job.id
    · subst hthis
      have hdirectory := (holds_of_plain (hsound.directory job.id) hholds).2
      have hdesk : PlainDesk ((jobPart job.id).get store) job := plainDesk_of_sound hholds hdirectory hplain hjob
      rw [Part.ensures_focus]
      refine (hdesk.sweepJob executorId).mono (fun _ _ => trivial) (fun handed desk hagrees => ?_)
        fun _ _ hnever => hnever.elim
      have hset : (((jobPart job.id).set store desk).files job.id).Agrees := by simpa [jobPart] using hagrees
      cases handed with
      | some given =>
        rw [ensures_pure]
        exact hset
      | none =>
        refine (sweepCandidates_frame executorId hrest).mono (fun _ _ => trivial) (fun _ s hs => ?_) fun _ s hs => ?_
        · rw [hs]
          exact hset
        · rw [hs]
          exact hset
    · rw [sweptJobs, List.mem_cons] at hswept
      have hlater := hswept.resolve_left hthis
      cases hresult : ((jobPart job.id).focus (sweepJob host env executorId job)).result store with
      | error fault => simp [hresult] at hlater
      | ok handed =>
        cases handed with
        | some given => simp [hresult] at hlater
        | none =>
          rw [hresult] at hlater
          refine ensures_of_returned hresult ?_
          have hfollows : Follows job.toCourierContract (sweepJob host env executorId job)
              ((jobPart job.id).get store) fun handed s => HandedOut job handed s.files := sweepJob_follows rfl executorId
          obtain ⟨hsteps, desk, hset, _⟩ := Ensures.returned (focus_performs ⟨job, hjob, rfl⟩ hfollows) hresult
          have hkept : ∀ other, other ≠ job.id →
              (((jobPart job.id).focus (sweepJob host env executorId job)).final store).files other
                = store.files other := by
            intro other hother
            rw [hset]
            simp [jobPart, hother]
          refine ih (StoreSteps.sound hsteps hsound) ?_ hdistinct.2 (fun other hmem => ?_) hlater
          · rw [hkept jobId hthis]
            exact hholds
          · rw [hkept other.id (hrest other hmem)]
            exact hfresh other (List.mem_cons_of_mem _ hmem)

theorem claimCandidates_distinct (hsound : store.Sound) (input : ClaimInput) (sessionId : Option String)
    (executorId : String) :
    ((claimCandidates host env input sessionId executorId store).map fun job => job.id).Nodup := by
  have hperm := sortCandidates_perm host ((store.scanned env).activeJobs.filter fun job =>
    isCandidate host input sessionId executorId job.toCourierContract)
  have hids := hperm.map fun job => job.id
  exact hids.nodup_iff.2 ((hsound.scanned_distinct env).sublist (List.filter_sublist.map _))

theorem claimCandidates_fresh {job : RevitToolJob}
    (h : job ∈ claimCandidates host env input sessionId executorId store) :
    (store.files job.id).job = some job :=
  scanned_fresh (List.mem_of_mem_filter ((sortCandidates_perm host _).mem_iff.1 h))

theorem ensures_claimNext
    {during : CourierStore → Prop} {returns : Option RevitToolJob → CourierStore → Prop}
    {throws : CourierFault → CourierStore → Prop} (hsession : claimSession input = .ok sessionId)
    (hexecutor : safeContextIdentity input.executor_id "executor_id" = .ok executorId) :
    (claimNextRevitToolJob host env input).Ensures store during returns throws ↔
      during { store with index := some (store.scanned env) }
        ∧ (sweepCandidates host env executorId (claimCandidates host env input sessionId executorId store)).Ensures
          { store with index := some (store.scanned env) } during returns throws := by
  rw [claimNextRevitToolJob, enumerateCandidateJobs, claimCandidates]
  simp only [ensures_bind, hsession, hexecutor, ensures_check_ok, ensures_inspect, ensures_write, ensures_pure]

theorem claimNext_settles (hsound : store.Sound)
    (hholds : (store.files jobId).Holds contract) (hplain : contract.isCertifiedFamilyJob = false)
    (hsession : claimSession input = .ok sessionId)
    (hexecutor : safeContextIdentity input.executor_id "executor_id" = .ok executorId)
    (hswept : jobId ∈ sweptJobs host env executorId (claimCandidates host env input sessionId executorId store)
      { store with index := some (store.scanned env) }) :
    (claimNextRevitToolJob host env input).Ensures store (fun _ => True) (fun _ s => (s.files jobId).Agrees)
      fun _ s => (s.files jobId).Agrees := by
  rw [ensures_claimNext hsession hexecutor]
  exact ⟨trivial, sweepCandidates_settles executorId hplain ((StoreStep.scanned env).sound hsound) hholds
    (claimCandidates_distinct hsound input sessionId executorId) (fun _ => claimCandidates_fresh) hswept⟩

/-- An operation on one plain job leaves its record in agreement with its
    result. -/
theorem onJob_settles {α : Type} {session : String} {input : String} {operation : String → Courier α} {job : RevitToolJob}
    (hsession : safeContextIdentity session "session_id" = .ok job.session_id)
    (hinput : safeId input "job_id" = .ok job.id)
    (hsettles : Settles (operation job.id) ((jobPart job.id).get store)) :
    (do let _ ← onJob session input operation; pure (none : Option RevitToolJob)).Ensures store (fun _ => True)
      (fun _ s => (s.files job.id).Agrees) fun _ s => (s.files job.id).Agrees := by
  have hset : ∀ desk : JobDesk, desk.files.Agrees → (((jobPart job.id).set store desk).files job.id).Agrees := by
    intro desk hagrees
    simpa [jobPart] using hagrees
  simp only [onJob, ensures_bind, hsession, hinput, ensures_check_ok, ensures_pure, Part.ensures_focus]
  exact Ensures.mono hsettles (fun _ _ => trivial) (fun _ => hset) fun _ => hset

theorem step_agrees {step : CourierStep} (hsound : store.Sound)
    (hholds : (store.files jobId).Holds contract) (hplain : contract.isCertifiedFamilyJob = false)
    (hwhole : step.crash = none) (hoperates : step.operatesOn host store jobId) :
    ((store.step host step).files jobId).Agrees := by
  obtain ⟨hid, hfiles⟩ := holds_of_plain (hsound.directory jobId) hholds
  have hdesk : ∀ {job : RevitToolJob}, (store.files jobId).job = some job →
      PlainDesk ((jobPart jobId).get store) job ∧ jobId = job.id := by
    intro job hjob
    have hcontract : job.toCourierContract = contract := holds_unique ⟨job, hjob, rfl⟩ hholds
    exact ⟨plainDesk_of_sound hholds hfiles hplain hjob, by rw [← hid, ← hcontract]⟩
  obtain ⟨env, call, crash⟩ := step
  obtain rfl : crash = none := hwhole
  suffices hends : (call.program host env).Ensures store (fun _ => True) (fun _ s => (s.files jobId).Agrees)
      fun _ s => (s.files jobId).Agrees from hends.ends
  cases call with
  | publish _ => exact hoperates.elim
  | claimNext input =>
    obtain ⟨sessionId, executorId, hsession, hexecutor, hswept⟩ := hoperates
    exact claimNext_settles hsound hholds hplain hsession hexecutor hswept
  | complete input =>
    obtain ⟨hinput, job, hjob, hclaimant⟩ := hoperates
    obtain ⟨hplainDesk, rfl⟩ := hdesk hjob
    exact onJob_settles hclaimant.session hinput (hplainDesk.completeRevitToolJob hclaimant)
  | fail input =>
    obtain ⟨hinput, job, hjob, hclaimant⟩ := hoperates
    obtain ⟨hplainDesk, rfl⟩ := hdesk hjob
    exact onJob_settles hclaimant.session hinput (hplainDesk.failRevitToolJob hclaimant)
  | authorize input =>
    obtain ⟨hinput, job, executorId, hjob, hsession, hexecutor⟩ := hoperates
    obtain ⟨hplainDesk, rfl⟩ := hdesk hjob
    exact onJob_settles hsession hinput (hplainDesk.authorizeRevitToolJobExecution hsession hexecutor)

end settlement

section runs

variable (host : CourierHost)

theorem courierRun_result {steps : List CourierStep} {jobId : String}
    (hholds : ((courierRun host steps).files jobId).Holds contract) (hplain : contract.isCertifiedFamilyJob = false)
    {result : RevitToolResult} (hresult : ((courierRun host steps).files jobId).result = some result)
    (later : List CourierStep) (index : Option ActiveJobIndex) :
    ((courierRun host (steps ++ later)).files jobId).result = some result
      ∧ (readRevitToolJobTerminalOutcome host jobId).result ⟨(courierRun host (steps ++ later)).files jobId, index⟩
        = .ok (some ⟨result.status, result.result, result.error⟩) := by
  have hsteps := (courierRun_append host steps later).protocolSteps hholds
  have hkept : ((courierRun host (steps ++ later)).files jobId).result = some result :=
    hsteps.keepsWritten.result result hresult
  obtain ⟨hid, hfiles⟩ := holds_of_plain ((courierRun_sound host (steps ++ later)).directory jobId) (hsteps.holds hholds)
  refine ⟨hkept, ?_⟩
  rw [readOutcome_eq hid (hsteps.holds hholds) hfiles hplain, hkept]
  rfl

end runs

/-- The failure report of a claimed job crashes between its two writes. -/
def interruptedRun : List CourierStep :=
  claimedInLaboratory ++ [⟨laboratoryEnvironment 2000, failReport "job-1", some 1⟩]

end revit_operator.courier
