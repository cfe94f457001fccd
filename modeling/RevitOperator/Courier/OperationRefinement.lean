import RevitOperator.Courier.ProtocolRefinement

open checked durable durable.Program Relation

namespace revit_operator.courier

section operations

variable {contract : CourierContract} {desk : JobDesk} {host : CourierHost} {env : CourierEnvironment}
  {job : RevitToolJob}

theorem writeCertificationTerminal_follows (hcontract : job.toCourierContract = contract) (error : CourierFault)
    (outcomeUnknown : Bool) :
    Follows contract (writeCertificationTerminal host env job error outcomeUnknown) desk fun settled _ =>
      settled.toCourierContract = contract := by
  rw [writeCertificationTerminal]
  refine (readTerminalResult_follows job).bind fun terminal s _ _ => ?_
  cases terminal with
  | some terminal => exact reconcileJobWithResult_follows hcontract terminal
  | none =>
    refine (existsSync_follows resultPath).bind fun found s₁ _ _ => ?_
    cases found with
    | true => exact quarantineJob_follows hcontract _
    | false => exact writeTerminal_follows hcontract fun _ => rfl

theorem admitCourierJobClaim_follows (hcontract : job.toCourierContract = contract) :
    Follows contract (admitCourierJobClaim host env job) desk fun _ _ => True := by
  rw [admitCourierJobClaim]
  split
  · split
    · exact (writeCertificationTerminal_follows hcontract _ _).bind fun _ _ _ _ => performs_pure trivial
    · exact performs_pure trivial
  · split
    · exact (writeCertificationTerminal_follows hcontract _ _).bind fun _ _ _ _ => performs_pure trivial
    · exact performs_pure trivial

theorem validCertifiedJobForClaim_follows (hcontract : job.toCourierContract = contract) :
    Follows contract (validCertifiedJobForClaim host env job) desk fun _ _ => True := by
  rw [validCertifiedJobForClaim]
  split
  · split
    · exact performs_pure trivial
    · exact (writeTerminal_follows hcontract fun _ => rfl).bind fun _ _ _ _ => performs_pure trivial
  · split
    · exact (writeCertificationTerminal_follows hcontract _ _).bind fun _ _ _ _ => performs_pure trivial
    · split
      · exact performs_pure trivial
      · exact (writeCertificationTerminal_follows hcontract _ _).bind fun _ _ _ _ => performs_pure trivial

theorem expireLease_follows (hcontract : job.toCourierContract = contract) :
    Follows contract (expireLease host env job) desk fun _ _ => True := by
  rw [expireLease]
  refine (existsSync_follows resultPath).bind fun found s _ _ => ?_
  split
  · exact (writeTerminal_follows hcontract fun _ => rfl).bind fun _ _ _ _ => performs_pure trivial
  · exact performs_pure trivial

/-- What handing out a job says about it: it was pending and has left pending. -/
def HandedOut (job : RevitToolJob) (handed : Option RevitToolJob) (after : JobFiles) : Prop :=
  ∀ given, handed = some given → given.id = job.id ∧ job.status = .pending ∧ after.LeftPending

theorem handedOut_none (files : JobFiles) : HandedOut job none files := by
  intro given hgiven
  cases hgiven

theorem claimAdmittedJob_follows (hcontract : job.toCourierContract = contract) (executorId : String) :
    Follows contract (claimAdmittedJob host env executorId job) desk fun handed s =>
      HandedOut job handed s.files := by
  rw [claimAdmittedJob]
  cases hstatus : job.status with
  | running => exact (expireLease_follows hcontract).bind fun _ _ _ _ => performs_pure (handedOut_none _)
  | pending =>
    dsimp only
    split
    · exact (writeTerminal_follows hcontract fun _ => rfl).bind fun _ _ _ _ => performs_pure (handedOut_none _)
    · have hrunning (claim : CourierClaim) : Follows contract (saveJob (job.claimed claim)) desk fun saved s =>
          saved = job.claimed claim ∧ s.files.job = some (job.claimed claim) :=
        saveJob_follows hcontract (by simp [RevitToolJob.claimed])
      refine Performs.bind (hrunning _) fun saved s _ hsaved => performs_pure ?_
      intro given hgiven
      have hsame : saved = given := by simpa using hgiven
      refine ⟨?_, hstatus, _, hsaved.2, by simp [RevitToolJob.claimed]⟩
      rw [← hsame, hsaved.1]
      rfl
  | succeeded => exact performs_pure (handedOut_none _)
  | failed => exact performs_pure (handedOut_none _)

theorem recoverSettledJob_follows (hcontract : job.toCourierContract = contract) :
    Follows contract (recoverSettledJob host env job) desk fun _ _ => True := by
  have hfamily : job.isCertifiedFamilyJob = true → contract.isCertifiedFamilyJob = true := by
    intro hjob
    rw [← hcontract]
    exact hjob
  rw [recoverSettledJob]
  refine performs_bind (fun _ _ => True) ?_ fun fenced s _ _ => ?_
  · split
    · next hjob =>
      refine Performs.tryCatch ?_ fun error _ _ =>
        (quarantineJob_follows hcontract error.message).bind fun _ _ _ _ => performs_pure trivial
      exact (recoverTerminalFence_follows hcontract (hfamily hjob) _).bind fun _ _ _ _ => performs_pure trivial
    · exact performs_pure trivial
  · cases fenced with
    | true => exact performs_pure trivial
    | false =>
      refine (existsSync_follows completionDecisionPath).bind fun found s₁ _ _ => ?_
      split
      · next hdecided =>
        have hjob := hfamily (Bool.and_eq_true_iff.1 hdecided).1
        refine Performs.tryCatch ?_ fun error _ _ =>
          (quarantineJob_follows hcontract error.message).bind fun _ _ _ _ => performs_pure trivial
        exact (recoverFamilyCompletionDecision_follows hcontract hjob).bind fun _ _ _ _ => performs_pure trivial
      · refine (readTerminalResult_follows job).bind fun result s₂ _ _ => ?_
        cases result with
        | some result =>
          exact (reconcileJobWithResult_follows hcontract result).bind fun _ _ _ _ => performs_pure trivial
        | none =>
          refine (existsSync_follows resultPath).bind fun found _ _ _ => ?_
          cases found with
          | true => exact (quarantineJob_follows hcontract _).bind fun _ _ _ _ => performs_pure trivial
          | false => exact performs_pure trivial

theorem sweepJob_follows (hcontract : job.toCourierContract = contract) (executorId : String) :
    Follows contract (sweepJob host env executorId job) desk fun handed s =>
      HandedOut job handed s.files := by
  rw [sweepJob]
  refine (recoverSettledJob_follows hcontract).bind fun recovered s _ _ => ?_
  cases recovered with
  | true => exact performs_pure (handedOut_none _)
  | false =>
    refine (admitCourierJobClaim_follows hcontract).bind fun admitted s₁ _ _ => ?_
    cases admitted with
    | false => exact performs_pure (handedOut_none _)
    | true =>
      refine (validCertifiedJobForClaim_follows hcontract).bind fun valid s₂ _ _ => ?_
      cases valid with
      | false => exact performs_pure (handedOut_none _)
      | true => exact claimAdmittedJob_follows hcontract executorId

theorem contract_of_readJob {files : JobFiles} {jobId : String} (hholds : files.Holds contract)
    (h : readJob files jobId = some job) : job.toCourierContract = contract := by
  obtain ⟨stored, hstored, hcontract⟩ := hholds
  rw [readJob, hstored, Option.filter_eq_some_iff] at h
  obtain ⟨hsame, _⟩ := h
  rw [← Option.some.inj hsame]
  exact hcontract

theorem requireClaimedJob_follows (hholds : desk.files.Holds contract) (input : FinishInput) (jobId : String) :
    Follows contract (requireClaimedJob host env input jobId) desk fun job _ =>
      job.toCourierContract = contract := by
  rw [requireClaimedJob]
  refine performs_check_bind fun sessionId _ => ?_
  refine performs_check_bind fun executorId _ => ?_
  refine performs_inspect_bind ?_
  cases hfound : readJob desk.files jobId with
  | none => exact performs_throw _
  | some job =>
    have hcontract := contract_of_readJob hholds hfound
    refine performs_check_bind fun _ _ => ?_
    refine performs_check_bind fun _ _ => ?_
    refine (recoverExistingFamilyDecision_follows hcontract).bind fun recovered s₅ _ hrecovered => ?_
    cases recovered with
    | some recovered => exact performs_pure (hrecovered recovered rfl)
    | none =>
      refine (readTerminalResult_follows job).bind fun terminal s₆ _ _ => ?_
      cases terminal with
      | some terminal => exact reconcileJobWithResult_follows hcontract terminal
      | none =>
        refine (existsSync_follows resultPath).bind fun found s₇ _ _ => ?_
        cases found with
        | true => exact performs_throw _
        | false =>
          simp only [Bool.false_eq_true, if_false]
          split
          · exact performs_throw _
          · exact performs_pure hcontract

/-- A success is decided under the challenge that was issued; what goes wrong
    on the way is recorded as a failure. -/
theorem completeFamilyJob_follows (hcontract : job.toCourierContract = contract)
    (hfamily : contract.isCertifiedFamilyJob = true) (input : FinishInput) :
    Follows contract (completeFamilyJob host env job input) desk fun _ _ => True := by
  rw [completeFamilyJob]
  refine Performs.tryCatch ?_ fun error s _ => ?_
  · refine (readJson_follows challengeIssuedPath).bind fun issued s _ hissued => ?_
    refine performs_check_bind fun challenge hchallenge => performs_check_bind fun _ _ => ?_
    have hstored : s.files.issued = some (.challenge challenge) := by
      rw [← validateChallengeState_eq_ok hchallenge, hissued]
      rfl
    refine Performs.bind (publishCompletionDecision_follows (.dispatched challenge hstored rfl ?_))
      fun _ s₃ _ _ => ?_
    · intro hkind
      simp [createCompletionDecision, buildTerminalResult] at hkind
    · exact (recoverFamilyCompletionDecision_follows hcontract hfamily).mono fun _ _ _ _ => trivial
  · refine (existsSync_follows completionDecisionPath).bind fun found s₁ _ _ => ?_
    cases found with
    | true => exact (recoverFamilyCompletionDecision_follows hcontract hfamily).mono fun _ _ _ _ => trivial
    | false => exact (writeTerminal_follows hcontract fun _ => rfl).mono fun _ _ _ _ => trivial

theorem completeLaboratoryJob_follows (hcontract : job.toCourierContract = contract)
    (hfamily : contract.isCertifiedFamilyJob = false) (input : FinishInput) :
    Follows contract (completeLaboratoryJob host env job input) desk fun _ _ => True := by
  have hterminal (terminal : TerminalInput) (s : JobDesk) :
      Follows contract (writeTerminal host env job terminal) s fun _ _ => True :=
    (writeTerminal_follows hcontract fun hjob => by simp [hfamily] at hjob).mono fun _ _ _ _ => trivial
  rw [completeLaboratoryJob]
  refine Performs.tryCatch ?_ fun error s _ => hterminal _ s
  exact performs_check_bind fun _ _ => hterminal _ _

theorem alreadySettled_follows (status : JobStatus) :
    Follows contract (alreadySettled host job status) desk fun _ _ => True := by
  rw [alreadySettled]
  split
  · exact (readTerminalResult_follows job).bind fun _ _ _ _ => performs_pure trivial
  · exact performs_pure trivial

theorem completeRevitToolJob_follows (hholds : desk.files.Holds contract) (input : FinishInput) (jobId : String) :
    Follows contract (completeRevitToolJob host env input jobId) desk fun _ _ => True := by
  rw [completeRevitToolJob]
  refine (requireClaimedJob_follows hholds input jobId).bind fun job s _ hcontract => ?_
  split
  · exact performs_throw _
  · refine (alreadySettled_follows .succeeded).bind fun settled s₁ _ _ => ?_
    cases settled with
    | true => exact performs_pure trivial
    | false =>
      simp only [Bool.false_eq_true, if_false]
      by_cases hfamily : contract.isCertifiedFamilyJob = true
      · have hjob : job.isCertifiedFamilyJob = true := by rw [hcontract, hfamily]
        simp only [hjob, if_true]
        exact completeFamilyJob_follows hcontract hfamily input
      · have hnot : contract.isCertifiedFamilyJob = false := by simpa using hfamily
        have hjob : job.isCertifiedFamilyJob = false := by rw [hcontract, hnot]
        simp only [hjob, Bool.false_eq_true, if_false]
        split
        · exact completeLaboratoryJob_follows hcontract hnot input
        · exact (writeTerminal_follows hcontract fun hyes => by simp [hnot] at hyes).mono fun _ _ _ _ => trivial

theorem failRevitToolJob_follows (hholds : desk.files.Holds contract) (input : FinishInput) (jobId : String) :
    Follows contract (failRevitToolJob host env input jobId) desk fun _ _ => True := by
  rw [failRevitToolJob]
  refine (requireClaimedJob_follows hholds input jobId).bind fun job s _ hcontract => ?_
  split
  · refine (readTerminalResult_follows job).bind fun terminal s₁ _ _ => ?_
    split
    · exact performs_pure trivial
    · exact performs_throw _
  · refine (alreadySettled_follows .failed).bind fun settled s₁ _ _ => ?_
    cases settled with
    | true => exact performs_pure trivial
    | false =>
      refine (readJson_follows challengeIssuedPath).bind fun issued s₂ _ _ => ?_
      exact (writeTerminal_follows hcontract fun _ => rfl).mono fun _ _ _ _ => trivial

theorem terminalizeAuthorization_follows {α : Type} (hcontract : job.toCourierContract = contract)
    (stage : Option String) (error : CourierFault) :
    Follows contract (terminalizeAuthorization (α := α) host env job stage error) desk fun _ _ => True := by
  rw [terminalizeAuthorization]
  exact (writeCertificationTerminal_follows hcontract _ _).bind fun _ _ _ _ => performs_throw _

theorem authorizeClaimedJob_follows (hcontract : job.toCourierContract = contract)
    (hversion : job.version = REVIT_COURIER_V2_JOB_VERSION) (executorId : String) (stage : Option String) :
    Follows contract (authorizeClaimedJob host env job executorId stage) desk fun _ _ => True := by
  rw [authorizeClaimedJob]
  refine performs_check_bind fun _ _ => ?_
  refine performs_check_bind fun _ _ => ?_
  refine performs_bind (fun _ _ => True) ?_ fun challenge s₂ _ _ => performs_check fun _ _ => trivial
  split
  · next hfinal =>
    have hfamily : contract.isCertifiedFamilyJob = true := by
      rw [← hcontract, CourierContract.isCertifiedFamilyJob, hversion, hfinal.1]
      rfl
    exact (issueCompletionChallenge_follows hcontract hfamily executorId).bind fun _ _ _ _ => performs_pure trivial
  · exact performs_pure trivial

theorem authorizeRevitToolJobExecution_follows (hholds : desk.files.Holds contract) (input : AuthorizeInput)
    (jobId : String) :
    Follows contract (authorizeRevitToolJobExecution host env input jobId) desk fun _ _ => True := by
  rw [authorizeRevitToolJobExecution]
  refine performs_check_bind fun sessionId _ => ?_
  refine performs_check_bind fun executorId _ => ?_
  refine performs_inspect_bind ?_
  cases hfound : readJob desk.files jobId with
  | none => exact performs_throw _
  | some job =>
    have hcontract := contract_of_readJob hholds hfound
    refine performs_check_bind fun _ _ => ?_
    refine (recoverExistingFamilyDecision_follows hcontract).bind fun recovered s₄ _ _ => ?_
    cases recovered with
    | some recovered => exact performs_throw _
    | none =>
      refine (readTerminalResult_follows job).bind fun terminal s₅ _ _ => ?_
      cases terminal with
      | some terminal =>
        exact (reconcileJobWithResult_follows hcontract terminal).bind fun _ _ _ _ => performs_throw _
      | none =>
        refine (existsSync_follows resultPath).bind fun found s₆ _ _ => ?_
        cases found with
        | true => exact performs_throw _
        | false =>
          simp only [Bool.false_eq_true, if_false]
          refine performs_check_bind fun _ _ => ?_
          refine performs_check_bind fun _ _ => ?_
          refine performs_check_bind fun _ hchecked => ?_
          have hversion := require_eq_ok.1 hchecked
          split
          · exact terminalizeAuthorization_follows hcontract _ _
          · refine performs_check_bind fun _ _ => ?_
            refine Performs.tryCatch ?_ fun error _ _ => terminalizeAuthorization_follows hcontract _ error
            exact (authorizeClaimedJob_follows hcontract hversion _ _).bind fun _ _ _ _ => performs_pure trivial

end operations

end revit_operator.courier
