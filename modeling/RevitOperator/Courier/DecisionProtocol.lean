import RevitOperator.Courier.StoreRuns

open checked durable durable.Program Relation

namespace revit_operator.courier

/-- The published decision, when both checks of its readers accept it. -/
def acceptedDecision (host : CourierHost) (files : JobFiles) (job : RevitToolJob) :
    Option CourierCompletionDecision :=
  match validateCompletionDecision host files.decision job.toCourierContract (familyDecisionExecutor job) with
  | .error _ => none
  | .ok decision =>
    match validateCompletionDecisionCausality host decision files.issued job.toCourierContract
      (familyDecisionExecutor job) with
    | .error _ => none
    | .ok _ => some decision

section licences

variable {issued : Option IssuedFile} {decision : CourierCompletionDecision}

/-- Under an issued challenge a decision carries its hash, and a failure is
    unknown and not retryable. -/
theorem Licensed.of_challenge {state : CourierCompletionChallengeState} (h : Licensed issued decision)
    (hissued : issued = some (.challenge state)) :
    decision.completion_challenge_hash = some state.completion_challenge_hash
      ∧ (decision.kind = .failure →
        decision.terminal_result.outcome_unknown = true ∧ decision.terminal_result.retryable = false) := by
  cases h with
  | fenced hfence =>
    rw [hissued] at hfence
    cases hfence
  | dispatched challenge hchallenge hhash hunknown =>
    have hsame : state = challenge := by
      have hboth := hissued.symm.trans hchallenge
      simpa using hboth
    rw [hsame]
    exact ⟨hhash, hunknown⟩

theorem Licensed.of_success (h : Licensed issued decision) (hsuccess : decision.kind = .success) :
    ∃ state, issued = some (.challenge state)
      ∧ decision.completion_challenge_hash = some state.completion_challenge_hash := by
  cases h with
  | fenced _ hkind =>
    rw [hsuccess] at hkind
    cases hkind
  | dispatched challenge hchallenge hhash => exact ⟨challenge, hchallenge, hhash⟩

end licences

section readers

variable {host : CourierHost} {files : JobFiles} {job : RevitToolJob}

theorem acceptedDecision_stored {decision : CourierCompletionDecision}
    (h : acceptedDecision host files job = some decision) : files.decision = some decision := by
  rw [acceptedDecision] at h
  cases hvalid : validateCompletionDecision host files.decision job.toCourierContract
      (familyDecisionExecutor job) with
  | error fault => simp [hvalid] at h
  | ok validated =>
    rw [hvalid] at h
    cases hcausal : validateCompletionDecisionCausality host validated files.issued job.toCourierContract
        (familyDecisionExecutor job) with
    | error fault => simp [hcausal] at h
    | ok challenge =>
      simp only [hcausal, Option.some.injEq] at h
      rw [← h]
      exact validateCompletionDecision_eq_ok hvalid

theorem readTerminalResult_stored {index : Option ActiveJobIndex} {result : RevitToolResult}
    (h : (readTerminalResult host job).result ⟨files, index⟩ = .ok (some result)) :
    files.result = some result := by
  have hreads : Follows job.toCourierContract (readTerminalResult host job) ⟨files, index⟩ fun result s =>
      ∀ stored, result = some stored → s.files.result = some stored := readTerminalResult_follows job
  obtain ⟨hsteps, hstored⟩ := Ensures.returned hreads h
  have hafter := hstored result rfl
  cases hbefore : files.result with
  | some stored =>
    have hkept := (keepsWritten_of_desk hsteps).result stored hbefore
    rw [← hkept]
    exact hafter
  | none =>
    have hnone : (readTerminalResult host job).result ⟨files, index⟩ = .ok none := by
      simp [readTerminalResult, Program.result, Bind.bind, readJson, inspect, hbefore, resultPath, Pure.pure]
    rw [hnone] at h
    cases h

end readers

/-- The decision protocol of a certified family job over every run, with any
    call cut short anywhere. What is published stays: the decision, the
    challenge, the fence. An accepted result is the decision's, and what a
    decision says agrees with what was issued. -/
theorem completion_decision_protocol (host : CourierHost) (steps later : List CourierStep) (jobId : String)
    (contract : CourierContract) (hfamily : contract.isCertifiedFamilyJob = true)
    (hholds : ((courierRun host (steps ++ later)).files jobId).Holds contract) :
    let before := (courierRun host steps).files jobId
    let after := (courierRun host (steps ++ later)).files jobId
    ((∀ decision, before.decision = some decision → after.decision = some decision)
      ∧ ∀ job index result, after.job = some job →
        (readTerminalResult host job).result ⟨after, index⟩ = .ok (some result) →
        ∃ decision, after.decision = some decision ∧ decision.terminal_result = result)
    ∧ (∀ state, before.issued = some (.challenge state) → ∀ job decision, after.job = some job →
        acceptedDecision host after job = some decision →
        decision.completion_challenge_hash ≠ none
          ∧ (decision.kind = .failure →
            decision.terminal_result.outcome_unknown = true ∧ decision.terminal_result.retryable = false))
    ∧ (∀ fenced, before.issued = some (.fence fenced) → ∀ state, after.issued ≠ some (.challenge state))
    ∧ ∀ job decision, after.job = some job → acceptedDecision host after job = some decision →
        decision.kind = .success →
        ∃ state, after.issued = some (.challenge state)
          ∧ decision.completion_challenge_hash = some state.completion_challenge_hash := by
  intro before after
  have hkept : KeepsWritten before after := by
    rcases (courierRun_sound host steps).directory jobId with hempty | ⟨owner, _, howner, _⟩
    · have hbefore : before = .empty := hempty
      rw [hbefore]
      exact ⟨by simp [JobFiles.empty], by simp [JobFiles.empty], by simp [JobFiles.empty], by simp [JobFiles.empty]⟩
    · exact ((courierRun_append host steps later).protocolSteps howner).keepsWritten
  have hsound : after.Sound contract := by
    rcases (courierRun_sound host (steps ++ later)).directory jobId with hempty | ⟨owner, _, howner, hfiles⟩
    · obtain ⟨job, hjob, _⟩ := hholds
      rw [hempty] at hjob
      cases hjob
    · rw [holds_unique hholds howner]
      exact hfiles
  have hlicensed : ∀ job decision, acceptedDecision host after job = some decision →
      Licensed after.issued decision :=
    fun job decision haccepted => hsound.decision decision (acceptedDecision_stored haccepted)
  refine ⟨⟨hkept.decision, fun job index result _ hread => ?_⟩, fun state hstate job decision _ haccepted => ?_,
    fun fenced hfence state hstate => ?_, fun job decision _ haccepted hsuccess => ?_⟩
  · have hresult := hsound.result result (readTerminalResult_stored hread)
    rw [ResultOf, if_pos hfamily] at hresult
    exact hresult
  · obtain ⟨hhash, hunknown⟩ := (hlicensed job decision haccepted).of_challenge (hkept.issued _ hstate)
    exact ⟨by simp [hhash], hunknown⟩
  · have hstill := hkept.issued _ hfence
    rw [hstate] at hstill
    cases hstill
  · exact (hlicensed job decision haccepted).of_success hsuccess

/-- A family job that is claimed and finally authorized. -/
def dispatchedRun : List CourierStep :=
  [callAt 0 (.publish familyContract), callAt 1000 (claimAny "executor-1"),
    callAt 2000 (finalAuthorization sampleJobId)]

def IssuedFile.isChallenge : IssuedFile → Bool
  | .challenge _ => true
  | _ => false

/-- After a final authorization, the retryable failure its executor reports is
    recorded as an unknown outcome under the issued challenge. -/
theorem completion_decision_protocol_on_dispatch :
    ∃ job decision,
      acceptedDecision asciiCourierHost
        ((courierRun asciiCourierHost (dispatchedRun ++ [callAt 3000 (failReport sampleJobId)])).files sampleJobId)
        job = some decision
      ∧ decision.completion_challenge_hash ≠ none ∧ decision.terminal_result.outcome_unknown = true
      ∧ decision.terminal_result.retryable = false := by
  have hissued : ((courierRun asciiCourierHost dispatchedRun).files sampleJobId).issued.map
      IssuedFile.isChallenge = some true := by decide +kernel
  have hstored : ((courierRun asciiCourierHost
      (dispatchedRun ++ [callAt 3000 (failReport sampleJobId)])).files sampleJobId).job.map
        (fun job => (job.toCourierContract, (acceptedDecision asciiCourierHost ((courierRun asciiCourierHost
          (dispatchedRun ++ [callAt 3000 (failReport sampleJobId)])).files sampleJobId) job).map (·.kind)))
      = some (familyContract, some .failure) := by decide +kernel
  obtain ⟨job, hjob, hboth⟩ := Option.map_eq_some_iff.1 hstored
  rw [Prod.mk.injEq] at hboth
  obtain ⟨hcontract, haccepted⟩ := hboth
  obtain ⟨decision, hdecision, hkind⟩ := Option.map_eq_some_iff.1 haccepted
  obtain ⟨issued, hfile, hchallenge⟩ := Option.map_eq_some_iff.1 hissued
  cases issued with
  | fence _ => cases hchallenge
  | other => cases hchallenge
  | challenge state =>
    obtain ⟨_, hdispatched, _⟩ := completion_decision_protocol asciiCourierHost dispatchedRun
      [callAt 3000 (failReport sampleJobId)] sampleJobId familyContract (by decide +kernel) ⟨job, hjob, hcontract⟩
    obtain ⟨hhash, hunknown⟩ := hdispatched state hfile job decision hjob hdecision
    exact ⟨job, decision, hdecision, hhash, hunknown hkind⟩

end revit_operator.courier
