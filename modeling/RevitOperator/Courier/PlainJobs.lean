import RevitOperator.Courier.StoreRuns

open checked durable durable.Program Relation

namespace revit_operator.courier

/-! Jobs outside the certified families: the result that is published first is
    the job's terminal truth. -/

/-- The job record agrees with the published result, if there is one. -/
def JobFiles.Agrees (files : JobFiles) : Prop :=
  ∀ result, files.result = some result →
    ∃ job, files.job = some job ∧ job.status = result.status.toJobStatus

theorem agrees_of_none {files : JobFiles} (h : files.result = none) : files.Agrees := by
  intro result hresult
  rw [h] at hresult
  cases hresult

/-- The directory holds the job, the job is of no certified family, and a
    published result is the job's. -/
structure PlainDesk (desk : JobDesk) (job : RevitToolJob) : Prop where
  stored : desk.files.job = some job
  plain : job.isCertifiedFamilyJob = false
  result : ∀ result, desk.files.result = some result → result.version = REVIT_COURIER_RESULT_VERSION
    ∧ result.id = job.id ∧ result.correlation_id = job.correlation_id

/-- However the operation ends, the job record agrees with the result. -/
abbrev Settles {α : Type} (operation : Courier α) (desk : JobDesk) : Prop :=
  operation.Ensures desk (fun _ => True) (fun _ s => s.files.Agrees) fun _ s => s.files.Agrees

variable {during : JobDesk → Prop} {throws : CourierFault → JobDesk → Prop}

section operations

variable {host : CourierHost} {env : CourierEnvironment} {desk : JobDesk} {job : RevitToolJob}

theorem plainDesk_of_sound {contract : CourierContract} (hholds : desk.files.Holds contract)
    (hsound : desk.files.Sound contract) (hplain : contract.isCertifiedFamilyJob = false)
    (hjob : desk.files.job = some job) : PlainDesk desk job := by
  have hcontract : job.toCourierContract = contract := holds_unique ⟨job, hjob, rfl⟩ hholds
  refine ⟨hjob, by rw [hcontract, hplain], fun result hresult => ?_⟩
  have hbelongs := hsound.result result hresult
  rw [ResultOf, if_neg (by simp [hplain])] at hbelongs
  rw [← hcontract] at hbelongs
  exact hbelongs

theorem PlainDesk.readTerminalResult (h : PlainDesk desk job) :
    readTerminalResult host job desk = ([], .ok desk.files.result) := by
  cases hresult : desk.files.result with
  | none =>
    simp [courier.readTerminalResult, Bind.bind, readJson, inspect, resultPath, hresult, Pure.pure]
  | some result =>
    obtain ⟨hversion, hid, hcorrelation⟩ := h.result result hresult
    simp [courier.readTerminalResult, Bind.bind, readJson, inspect, resultPath, hresult, Pure.pure, hversion,
      hid, hcorrelation, h.plain]

@[simp]
theorem PlainDesk.ensures_read (h : PlainDesk desk job)
    {returns : Option RevitToolResult → JobDesk → Prop} :
    (courier.readTerminalResult host job).Ensures desk during returns throws
      ↔ returns desk.files.result desk := by
  simp [Ensures, h.readTerminalResult, final]

theorem ensures_existsSync {α : Type} (path : WriteOnce α)
    {returns : Bool → JobDesk → Prop} :
    (existsSync path).Ensures desk during returns throws ↔ returns (path.read desk.files).isSome desk := by
  simp [existsSync]

theorem ensures_saveJob {saved : RevitToolJob} {returns : RevitToolJob → JobDesk → Prop}
    (h : ∀ s : JobDesk, s.files = { desk.files with job := some saved } → returns saved s) :
    (saveJob saved).Ensures desk (fun _ => True) returns throws := by
  simp only [saveJob, ensures_bind, ensures_write, ensures_pure]
  exact ⟨trivial, h _ rfl⟩

theorem PlainDesk.saved (h : PlainDesk desk job) {saved : RevitToolJob} {s : JobDesk}
    (hcontract : saved.toCourierContract = job.toCourierContract)
    (hs : s.files = { desk.files with job := some saved }) : PlainDesk s saved := by
  refine ⟨by rw [hs], by rw [hcontract]; exact h.plain, fun result hresult => ?_⟩
  rw [hs] at hresult
  rw [hcontract]
  exact h.result result hresult

theorem PlainDesk.reconcile (h : PlainDesk desk job) {result : RevitToolResult}
    (hresult : desk.files.result = some result) :
    (reconcileJobWithResult job result).Ensures desk (fun _ => True)
      (fun settled s => PlainDesk s settled ∧ s.files.Agrees) fun _ _ => False := by
  rw [reconcileJobWithResult]
  split
  · next hsame =>
    rw [ensures_pure]
    refine ⟨h, fun other hother => ⟨job, h.stored, ?_⟩⟩
    have heq : result = other := Option.some.inj (hresult.symm.trans hother)
    rw [← heq]
    exact hsame.1
  · refine ensures_saveJob fun s hs => ⟨h.saved rfl hs, fun other hother => ?_⟩
    have heq : result = other := by
      rw [hs] at hother
      exact Option.some.inj (hresult.symm.trans hother)
    refine ⟨_, by rw [hs], ?_⟩
    rw [← heq]
    rfl

theorem PlainDesk.publishDurableTerminal (h : PlainDesk desk job) {durableResult : RevitToolResult} :
    (publishDurableTerminal host env job durableResult).Ensures desk (fun _ => True)
      (fun _ s => s.files.Agrees) fun _ _ => False := by
  rw [courier.publishDurableTerminal]
  simp only [ensures_bind, ensures_tryCatch, writeJsonExclusiveAtomic, ensures_existsSync]
  cases hresult : desk.files.result with
  | none =>
    simp only [resultPath, hresult, Option.isSome_none, Bool.false_eq_true, if_false, ensures_write, ensures_pure]
    refine ⟨trivial, ensures_saveJob fun s hs result hs' => ?_⟩
    have heq : durableResult = result := by
      rw [hs] at hs'
      exact Option.some.inj hs'
    refine ⟨_, by rw [hs], ?_⟩
    rw [← heq]
    rfl
  | some winner =>
    simp only [resultPath, hresult, Option.isSome_some, if_true, ensures_throw, h.ensures_read, ensures_map]
    refine (h.reconcile hresult).mono (fun _ _ => trivial) (fun settled s hsettled => ?_) fun _ _ hnever => hnever
    rw [ensures_pure]
    exact hsettled.2

theorem PlainDesk.writeTerminal (h : PlainDesk desk job) (terminal : TerminalInput) :
    (writeTerminal host env job terminal).Ensures desk (fun _ => True) (fun _ s => s.files.Agrees)
      fun _ _ => False := by
  simp only [courier.writeTerminal, h.plain, Bool.false_eq_true, if_false]
  exact h.publishDurableTerminal

theorem PlainDesk.writeCertificationTerminal (h : PlainDesk desk job) (error : CourierFault)
    (outcomeUnknown : Bool) :
    (writeCertificationTerminal host env job error outcomeUnknown).Ensures desk (fun _ => True)
      (fun _ s => s.files.Agrees) fun _ _ => False := by
  rw [courier.writeCertificationTerminal, ensures_bind, h.ensures_read]
  cases hresult : desk.files.result with
  | some terminal =>
    exact (h.reconcile hresult).mono (fun _ _ => trivial) (fun _ _ hsettled => hsettled.2) fun _ _ hnever => hnever
  | none =>
    simp only [ensures_bind, ensures_existsSync, resultPath, hresult, Option.isSome_none, Bool.false_eq_true,
      if_false]
    exact h.writeTerminal _

theorem PlainDesk.recoverSettledJob (h : PlainDesk desk job) :
    (recoverSettledJob host env job).Ensures desk (fun _ => True)
      (fun settled s => (settled = true → s.files.Agrees)
        ∧ (settled = false → s = desk ∧ desk.files.result = none)) fun _ _ => False := by
  rw [courier.recoverSettledJob]
  simp only [h.plain, Bool.false_eq_true, if_false, Bool.false_and, ensures_bind, ensures_pure,
    ensures_existsSync, h.ensures_read]
  cases hresult : desk.files.result with
  | some result =>
    simp only [ensures_bind]
    refine (h.reconcile hresult).mono (fun _ _ => trivial) (fun settled s hsettled => ?_) fun _ _ hnever => hnever
    rw [ensures_pure]
    exact ⟨fun _ => hsettled.2, by simp⟩
  | none =>
    simp only [ensures_bind, ensures_existsSync, resultPath, hresult, Option.isSome_none, Bool.false_eq_true,
      if_false, ensures_pure]
    exact ⟨by simp, fun _ => ⟨trivial, trivial⟩⟩

theorem PlainDesk.admitCourierJobClaim (h : PlainDesk desk job) (hnone : desk.files.result = none) :
    (admitCourierJobClaim host env job).Ensures desk (fun _ => True)
      (fun admitted s => s.files.Agrees ∧ (admitted = true → s = desk)) fun _ _ => False := by
  have hrefused (error : CourierFault) :
      (do let _ ← courier.writeCertificationTerminal host env job error false; pure false).Ensures desk
        (fun _ => True) (fun admitted s => s.files.Agrees ∧ (admitted = true → s = desk)) fun _ _ => False := by
    rw [ensures_bind]
    refine (h.writeCertificationTerminal error false).mono (fun _ _ => trivial) (fun _ s hs => ?_)
      fun _ _ hnever => hnever
    rw [ensures_pure]
    exact ⟨hs, by simp⟩
  rw [courier.admitCourierJobClaim]
  split
  · split
    · exact hrefused _
    · rw [ensures_pure]
      exact ⟨agrees_of_none hnone, fun _ => rfl⟩
  · split
    · exact hrefused _
    · rw [ensures_pure]
      exact ⟨agrees_of_none hnone, by simp⟩

theorem PlainDesk.validCertifiedJobForClaim (h : PlainDesk desk job) (hnone : desk.files.result = none) :
    (validCertifiedJobForClaim host env job).Ensures desk (fun _ => True)
      (fun valid s => s.files.Agrees ∧ (valid = true → s = desk)) fun _ _ => False := by
  have hinvalid {operation : Courier RevitToolJob}
      (hoperation : operation.Ensures desk (fun _ => True) (fun _ s => s.files.Agrees) fun _ _ => False) :
      (do let _ ← operation; pure false).Ensures desk (fun _ => True)
        (fun valid s => s.files.Agrees ∧ (valid = true → s = desk)) fun _ _ => False := by
    rw [ensures_bind]
    refine hoperation.mono (fun _ _ => trivial) (fun _ s hs => ?_) fun _ _ hnever => hnever
    rw [ensures_pure]
    exact ⟨hs, by simp⟩
  rw [courier.validCertifiedJobForClaim]
  split
  · split
    · rw [ensures_pure]
      exact ⟨agrees_of_none hnone, fun _ => rfl⟩
    · exact hinvalid (h.writeTerminal _)
  · split
    · exact hinvalid (h.writeCertificationTerminal _ _)
    · split
      · rw [ensures_pure]
        exact ⟨agrees_of_none hnone, fun _ => rfl⟩
      · exact hinvalid (h.writeCertificationTerminal _ _)

theorem PlainDesk.claimAdmittedJob (h : PlainDesk desk job) (hnone : desk.files.result = none)
    (executorId : String) :
    (claimAdmittedJob host env executorId job).Ensures desk (fun _ => True) (fun _ s => s.files.Agrees)
      fun _ _ => False := by
  have hsettled (terminal : TerminalInput) {α : Type} (value : α) :
      (do let _ ← courier.writeTerminal host env job terminal; pure value).Ensures desk (fun _ => True)
        (fun _ s => s.files.Agrees) fun _ _ => False := by
    rw [ensures_bind]
    refine (h.writeTerminal terminal).mono (fun _ _ => trivial) (fun _ s hs => ?_) fun _ _ hnever => hnever
    rw [ensures_pure]
    exact hs
  rw [courier.claimAdmittedJob]
  cases hstatus : job.status with
  | running =>
    simp only [expireLease, ensures_bind, ensures_existsSync, ensures_pure]
    split
    · have hexpired := hsettled {
        status := .failed
        error := some "The workstation execution lease expired; outcome is unknown and the call was not retried automatically."
        code := some "execution_lease_expired_outcome_unknown"
        retryable := false
        outcome_unknown := true } ()
      simpa only [ensures_bind, ensures_pure] using hexpired
    · rw [ensures_pure]
      exact agrees_of_none hnone
  | pending =>
    dsimp only
    split
    · exact hsettled _ _
    · rw [ensures_map]
      refine ensures_saveJob fun s hs => agrees_of_none ?_
      rw [hs]
      exact hnone
  | succeeded =>
    rw [ensures_pure]
    exact agrees_of_none hnone
  | failed =>
    rw [ensures_pure]
    exact agrees_of_none hnone

theorem PlainDesk.sweepJob (h : PlainDesk desk job) (executorId : String) :
    (sweepJob host env executorId job).Ensures desk (fun _ => True) (fun _ s => s.files.Agrees)
      fun _ _ => False := by
  rw [courier.sweepJob, ensures_bind]
  refine h.recoverSettledJob.mono (fun _ _ => trivial) (fun settled s hs => ?_) fun _ _ hnever => hnever
  cases settled with
  | true =>
    simp only [if_true, ensures_pure]
    exact hs.1 rfl
  | false =>
    obtain ⟨rfl, hnone⟩ := hs.2 rfl
    simp only [Bool.false_eq_true, if_false, ensures_bind]
    refine (h.admitCourierJobClaim hnone).mono (fun _ _ => trivial) (fun admitted t ht => ?_) fun _ _ hnever => hnever
    cases admitted with
    | false =>
      simp only [Bool.not_false, if_true, ensures_pure]
      exact ht.1
    | true =>
      obtain rfl := ht.2 rfl
      simp only [Bool.not_true, Bool.false_eq_true, if_false, ensures_bind]
      refine (h.validCertifiedJobForClaim hnone).mono (fun _ _ => trivial) (fun valid u hu => ?_)
        fun _ _ hnever => hnever
      cases valid with
      | false =>
        simp only [Bool.not_false, if_true, ensures_pure]
        exact hu.1
      | true =>
        obtain rfl := hu.2 rfl
        simp only [Bool.not_true, Bool.false_eq_true, if_false]
        exact h.claimAdmittedJob hnone executorId

/-- The caller of a finish report is the claimant of the stored job. -/
structure Claimant (input : FinishInput) (job : RevitToolJob) : Prop where
  session : safeContextIdentity input.session_id "session_id" = .ok job.session_id
  executor : ∃ claim, job.claim = some claim
    ∧ safeContextIdentity input.executor_id "executor_id" = .ok claim.executor_id

theorem PlainDesk.recoverExisting (h : PlainDesk desk job)
    {returns : Option RevitToolJob → JobDesk → Prop} :
    (recoverExistingFamilyDecision host env job).Ensures desk during returns throws ↔ returns none desk := by
  simp [recoverExistingFamilyDecision, h.plain, ensures_existsSync]

theorem PlainDesk.requireClaimedJob (h : PlainDesk desk job) {input : FinishInput} (hclaimant : Claimant input job) :
    (requireClaimedJob host env input job.id).Ensures desk (fun _ => True)
      (fun current s => PlainDesk s current ∧ s.files.Agrees) fun _ s => s.files.Agrees := by
  obtain ⟨claim, hclaim, hexecutor⟩ := hclaimant.executor
  have hread : readJob desk.files job.id = some job := by simp [readJob, h.stored]
  rw [courier.requireClaimedJob]
  simp only [ensures_bind, hclaimant.session, hexecutor, ensures_check_ok, ensures_inspect, hread,
    ensures_require, hclaim, Option.map_some, if_true, h.recoverExisting, h.ensures_read]
  cases hresult : desk.files.result with
  | some result => exact (h.reconcile hresult).mono (fun _ _ => trivial) (fun _ _ hs => hs) fun _ _ hnever => hnever.elim
  | none =>
    simp only [ensures_bind, ensures_existsSync, resultPath, hresult, Option.isSome_none, Bool.false_eq_true,
      if_false]
    split
    · rw [ensures_throw]
      exact agrees_of_none hresult
    · rw [ensures_pure]
      exact ⟨h, agrees_of_none hresult⟩

theorem PlainDesk.completeLaboratoryJob (h : PlainDesk desk job) (input : FinishInput) :
    Settles (completeLaboratoryJob host env job input) desk := by
  have hterminal (terminal : TerminalInput) : Settles (courier.writeTerminal host env job terminal) desk :=
    (h.writeTerminal terminal).mono (fun _ _ => trivial) (fun _ _ hs => hs) fun _ _ hnever => hnever.elim
  rw [courier.completeLaboratoryJob, Settles, ensures_tryCatch, ensures_bind]
  cases verifyLaboratoryCompletion env job.toCourierContract input.result with
  | error fault =>
    rw [ensures_check_error]
    exact hterminal _
  | ok _ =>
    rw [ensures_check_ok]
    exact (h.writeTerminal _).mono (fun _ _ => trivial) (fun _ _ hs => hs) fun _ _ hnever => hnever.elim

theorem PlainDesk.alreadySettled (h : PlainDesk desk job) (status : JobStatus)
    {returns : Bool → JobDesk → Prop}
    (hreturns : ∀ settled, returns settled desk) :
    (alreadySettled host job status).Ensures desk during returns throws := by
  rw [courier.alreadySettled]
  split
  · rw [ensures_bind, h.ensures_read, ensures_pure]
    exact hreturns _
  · rw [ensures_pure]
    exact hreturns _

theorem PlainDesk.completeRevitToolJob (h : PlainDesk desk job) {input : FinishInput}
    (hclaimant : Claimant input job) : Settles (completeRevitToolJob host env input job.id) desk := by
  rw [courier.completeRevitToolJob, Settles, ensures_bind]
  refine (h.requireClaimedJob hclaimant).mono (fun _ _ => trivial) (fun current s hs => ?_) fun _ _ hs => hs
  obtain ⟨hcurrent, hagrees⟩ := hs
  split
  · rw [ensures_throw]
    exact hagrees
  · rw [ensures_bind]
    refine hcurrent.alreadySettled .succeeded fun settled => ?_
    cases settled with
    | true =>
      simp only [if_true, ensures_pure]
      exact hagrees
    | false =>
      simp only [hcurrent.plain, Bool.false_eq_true, if_false]
      split
      · exact hcurrent.completeLaboratoryJob input
      · exact (hcurrent.writeTerminal _).mono (fun _ _ => trivial) (fun _ _ hs => hs) fun _ _ hnever => hnever.elim

theorem PlainDesk.failRevitToolJob (h : PlainDesk desk job) {input : FinishInput}
    (hclaimant : Claimant input job) : Settles (failRevitToolJob host env input job.id) desk := by
  rw [courier.failRevitToolJob, Settles, ensures_bind]
  refine (h.requireClaimedJob hclaimant).mono (fun _ _ => trivial) (fun current s hs => ?_) fun _ _ hs => hs
  obtain ⟨hcurrent, hagrees⟩ := hs
  split
  · simp only [hcurrent.plain, Bool.false_and, Bool.false_eq_true, if_false, ensures_bind, hcurrent.ensures_read,
      ensures_throw]
    exact hagrees
  · rw [ensures_bind]
    refine hcurrent.alreadySettled .failed fun settled => ?_
    cases settled with
    | true =>
      simp only [if_true, ensures_pure]
      exact hagrees
    | false =>
      simp only [Bool.false_eq_true, if_false, readJson, ensures_bind, ensures_inspect]
      exact (hcurrent.writeTerminal _).mono (fun _ _ => trivial) (fun _ _ hs => hs) fun _ _ hnever => hnever.elim

theorem PlainDesk.terminalizeAuthorization {α : Type} (h : PlainDesk desk job) (stage : Option String)
    (error : CourierFault) : Settles (terminalizeAuthorization (α := α) host env job stage error) desk := by
  rw [courier.terminalizeAuthorization, Settles, ensures_bind]
  refine (h.writeCertificationTerminal _ _).mono (fun _ _ => trivial) (fun _ s hs => ?_) fun _ _ hnever => hnever.elim
  rw [ensures_throw]
  exact hs

theorem authorizeClaimedJob_plain (hadmission : job.familyAdmission = none) (executorId : String)
    (stage : Option String) :
    (authorizeClaimedJob host env job executorId stage).Ensures desk (fun _ => True) (fun _ s => s = desk)
      fun _ s => s = desk := by
  have hcheck {α β : Type} {outcome : Except CourierFault α} {next : α → Courier β}
      (hnext : ∀ value, (next value).Ensures desk (fun _ => True) (fun _ s => s = desk) fun _ s => s = desk) :
      (check outcome >>= next).Ensures desk (fun _ => True) (fun _ s => s = desk) fun _ s => s = desk := by
    rw [ensures_bind]
    cases outcome with
    | ok value =>
      rw [ensures_check_ok]
      exact hnext value
    | error fault => rw [ensures_check_error]
  rw [authorizeClaimedJob]
  refine hcheck fun _ => hcheck fun _ => ?_
  simp only [hadmission, Option.isSome_none, Bool.false_eq_true, false_and, if_false, ensures_bind, ensures_pure]
  cases authorizeCertifiedCourierFinalExecution host env job executorId stage (Option.map _ none) with
  | ok value => rw [ensures_check_ok]
  | error fault => rw [ensures_check_error]

theorem PlainDesk.authorizeRevitToolJobExecution (h : PlainDesk desk job) {input : AuthorizeInput}
    (hsession : safeContextIdentity input.session_id "session_id" = .ok job.session_id)
    {executorId : String} (hexecutor : safeContextIdentity input.executor_id "executor_id" = .ok executorId) :
    Settles (authorizeRevitToolJobExecution host env input job.id) desk := by
  have hread : readJob desk.files job.id = some job := by simp [readJob, h.stored]
  rw [courier.authorizeRevitToolJobExecution, Settles]
  simp only [ensures_bind, hsession, hexecutor, ensures_check_ok, ensures_inspect, hread, ensures_require,
    if_true, h.recoverExisting, h.ensures_read]
  cases hresult : desk.files.result with
  | some result =>
    simp only [ensures_bind]
    refine (h.reconcile hresult).mono (fun _ _ => trivial) (fun _ s hs => ?_) fun _ _ hnever => hnever.elim
    rw [ensures_throw]
    exact hs.2
  | none =>
    have hagrees : desk.files.Agrees := agrees_of_none hresult
    have hcheck {condition : Prop} [Decidable condition] {fault : CourierFault}
        {next : Unit → Courier (RevitToolJob × CertifiedCourierFinalAuthorization)}
        (hnext : condition → Settles (next ()) desk) :
        Settles (check (require condition fault) >>= next) desk := by
      rw [Settles, ensures_bind, ensures_require]
      split
      · next hcondition => exact hnext hcondition
      · exact hagrees
    simp only [ensures_bind, ensures_existsSync, resultPath, hresult, Option.isSome_none, Bool.false_eq_true, if_false]
    simp only [← ensures_bind]
    refine hcheck fun _ => hcheck fun _ => hcheck fun hversion => ?_
    have hadmission : job.familyAdmission = none := by
      have hplain := h.plain
      rw [CourierContract.isCertifiedFamilyJob, hversion] at hplain
      simpa using hplain
    split
    · exact h.terminalizeAuthorization _ _
    · refine hcheck fun _ => ?_
      rw [Settles, ensures_tryCatch, ensures_bind]
      refine (authorizeClaimedJob_plain hadmission executorId input.authorization_stage).mono
        (fun _ _ => trivial) (fun _ s hs => ?_) fun error s hs => ?_
      · rw [ensures_pure, hs]
        exact hagrees
      · rw [hs]
        exact h.terminalizeAuthorization _ error

end operations

end revit_operator.courier
