import RevitOperator.Courier.Operations
import RevitOperator.Courier.Protocol

open checked durable durable.Program Relation

namespace revit_operator.courier

/-- A write of an operation: a write of the protocol that the index may have
    been told of. -/
def DeskStep (contract : CourierContract) (before after : JobDesk) : Prop :=
  ProtocolStep contract before.files after.files
    ∧ (after.index = before.index
      ∨ ∃ job : RevitToolJob, after.index = before.index.map fun index => index.observeIndexedJob job)

/-- Every write of the operation is a write of the protocol. -/
abbrev Follows {α : Type} (contract : CourierContract) (operation : Courier α) (desk : JobDesk)
    (returns : α → JobDesk → Prop) : Prop :=
  operation.Performs (DeskStep contract) desk returns

theorem TerminalStatus.toJobStatus_ne_pending (status : TerminalStatus) : status.toJobStatus ≠ .pending := by
  cases status <;> simp [TerminalStatus.toJobStatus]

section validation

variable {host : CourierHost} {job : CourierContract}

theorem validateChallengeState_eq_ok {value : Option IssuedFile} {executorId : String}
    {state : CourierCompletionChallengeState}
    (h : validateChallengeState host value job executorId = .ok state) : value = some (.challenge state) := by
  match value with
  | none => simp [validateChallengeState] at h
  | some (.fence _) => simp [validateChallengeState] at h
  | some .other => simp [validateChallengeState] at h
  | some (.challenge stored) =>
    simp only [validateChallengeState, checked.bind_eq_ok] at h
    obtain ⟨_, _, hstate⟩ := h
    rw [Except.ok.injEq] at hstate
    rw [hstate]

theorem validateCompletionDecision_eq_ok {value : Option CourierCompletionDecision} {executorId : Option String}
    {decision : CourierCompletionDecision}
    (h : validateCompletionDecision host value job executorId = .ok decision) : value = some decision := by
  cases value with
  | none => simp [validateCompletionDecision] at h
  | some stored =>
    simp only [validateCompletionDecision, checked.bind_eq_ok] at h
    obtain ⟨_, _, hdecision⟩ := h
    rw [Except.ok.injEq] at hdecision
    rw [hdecision]

/-- An accepted decision was licensed by the issued file, and the challenge it
    answers is the one that was issued. -/
theorem causality_licenses {decision : CourierCompletionDecision} {issued : Option IssuedFile}
    {executorId : Option String} {challenge : Option CourierCompletionChallengeState}
    (h : validateCompletionDecisionCausality host decision issued job executorId = .ok challenge) :
    Licensed issued decision ∧ ∀ state, challenge = some state → issued = some (.challenge state) := by
  cases hhash : decision.completion_challenge_hash with
  | none =>
    simp only [validateCompletionDecisionCausality, hhash, checked.bind_eq_ok, require_eq_ok] at h
    obtain ⟨_, ⟨hissued, hkind⟩, hnone⟩ := h
    rw [Except.ok.injEq] at hnone
    refine ⟨.fenced hissued hkind hhash, fun state hstate => ?_⟩
    rw [← hnone] at hstate
    cases hstate
  | some hash =>
    cases executorId with
    | none => simp [validateCompletionDecisionCausality, hhash] at h
    | some executorId =>
      simp only [validateCompletionDecisionCausality, hhash, checked.bind_eq_ok, require_eq_ok] at h
      obtain ⟨state, hstate, _, ⟨hsame, hunknown⟩, hsome⟩ := h
      have hissued := validateChallengeState_eq_ok hstate
      rw [Except.ok.injEq] at hsome
      refine ⟨.dispatched state hissued (by rw [hhash, hsame]) hunknown, fun other hother => ?_⟩
      rw [← hsome, Option.some.injEq] at hother
      rw [← hother]
      exact hissued

end validation

section refinement

variable {contract : CourierContract} {desk : JobDesk} {host : CourierHost} {env : CourierEnvironment}

theorem protocolSteps_of_desk {after : JobDesk} (h : ReflTransGen (DeskStep contract) desk after) :
    ProtocolSteps contract desk.files after.files :=
  h.lift JobDesk.files fun _ _ hstep => hstep.1

theorem keepsWritten_of_desk {after : JobDesk} (h : ReflTransGen (DeskStep contract) desk after) :
    KeepsWritten desk.files after.files :=
  (protocolSteps_of_desk h).keepsWritten

theorem readJson_follows {α : Type} (path : WriteOnce α) :
    Follows contract (readJson path) desk fun value s => value = path.read s.files :=
  performs_inspect rfl

theorem existsSync_follows {α : Type} (path : WriteOnce α) :
    Follows contract (existsSync path) desk fun value s => value = (path.read s.files).isSome :=
  performs_inspect rfl

theorem writeJsonExclusiveAtomic_follows {α : Type} {path : WriteOnce α} {value : α}
    {returns : Unit → JobDesk → Prop}
    (hstep : path.read desk.files = none → ProtocolStep contract desk.files (path.replace desk.files value))
    (hreturns : ∀ s : JobDesk, s.files = path.replace desk.files value → returns () s) :
    Follows contract (writeJsonExclusiveAtomic path value) desk returns := by
  rw [writeJsonExclusiveAtomic]
  by_cases hfree : path.read desk.files = none
  · simp only [Follows, Performs, ensures_bind, existsSync, ensures_inspect, hfree, Option.isSome_none,
      Bool.false_eq_true, if_false, ensures_write]
    have hwrite : DeskStep contract desk { desk with files := path.replace desk.files value } :=
      ⟨hstep hfree, .inl rfl⟩
    exact ⟨.single hwrite, .single hwrite, hreturns _ rfl⟩
  · have hsome : (path.read desk.files).isSome = true := Option.isSome_iff_ne_none.2 hfree
    simp only [Follows, Performs, ensures_bind, existsSync, ensures_inspect, hsome, if_true, ensures_throw]
    exact .refl

theorem writeFence_follows {decision : CourierCompletionDecision} (hkind : decision.kind = .failure)
    (hhash : decision.completion_challenge_hash = none) :
    Follows contract (writeJsonExclusiveAtomic challengeIssuedPath (.fence (some decision))) desk fun _ s =>
      s.files.issued = some (.fence (some decision)) := by
  refine writeJsonExclusiveAtomic_follows (fun hfree => .fenced decision hfree hkind hhash) fun s hs => ?_
  rw [hs]
  rfl

theorem writeChallenge_follows (state : CourierCompletionChallengeState) :
    Follows contract (writeJsonExclusiveAtomic challengeIssuedPath (.challenge state)) desk fun _ s =>
      s.files.issued = some (.challenge state) := by
  refine writeJsonExclusiveAtomic_follows (fun hfree => .challenged state hfree) fun s hs => ?_
  rw [hs]
  rfl

theorem saveJob_follows {job : RevitToolJob} (hcontract : job.toCourierContract = contract)
    (hstatus : job.status ≠ .pending) :
    Follows contract (saveJob job) desk fun saved s => saved = job ∧ s.files.job = some job := by
  rw [saveJob]
  refine performs_bind (fun _ s => s.files.job = some job)
    (performs_write ⟨.saved job hcontract hstatus, .inr ⟨job, rfl⟩⟩ rfl) fun _ s _ hs => performs_pure ⟨rfl, hs⟩

theorem saveSettled_follows {job : RevitToolJob} (hcontract : job.toCourierContract = contract)
    {status : JobStatus} (hstatus : status ≠ .pending) (finished_at : Timestamp) (error : Option String) :
    Follows contract (saveJob (job.settled status finished_at error)) desk fun settled _ =>
      settled.toCourierContract = contract := by
  have hsaves : Follows contract (saveJob (job.settled status finished_at error)) desk fun saved s =>
      saved = job.settled status finished_at error ∧ s.files.job = some (job.settled status finished_at error) :=
    saveJob_follows hcontract hstatus
  refine hsaves.mono fun settled _ _ hsaved => ?_
  rw [hsaved.1]
  exact hcontract

theorem quarantineJob_follows {job : RevitToolJob} (hcontract : job.toCourierContract = contract)
    (error : String) :
    Follows contract (quarantineJob env job error) desk fun settled _ => settled.toCourierContract = contract :=
  saveSettled_follows hcontract (by simp) _ _

theorem consumeCompletionChallenge_follows {job : CourierContract} {state : CourierCompletionChallengeState}
    (hissued : desk.files.issued = some (.challenge state)) :
    Follows contract (consumeCompletionChallenge job state) desk fun _ _ => True := by
  rw [consumeCompletionChallenge]
  refine (readJson_follows challengeConsumedPath).bind fun existing s hs hexisting => ?_
  cases existing with
  | some existing =>
    by_cases hsame : matchesExactConsumption job state existing = true
    · simp only [if_pos hsame]
      exact performs_pure trivial
    · simp only [if_neg hsame]
      exact performs_throw _
  | none =>
    have hstill := (keepsWritten_of_desk hs).issued _ hissued
    exact writeJsonExclusiveAtomic_follows (fun hfree => .consumed state hfree hstill) fun _ _ => trivial

theorem publishCompletionDecision_follows {job : RevitToolJob} {executorId : Option String}
    {decision : CourierCompletionDecision} (hlicensed : Licensed desk.files.issued decision) :
    Follows contract (publishCompletionDecision host job executorId decision) desk fun _ _ => True := by
  rw [publishCompletionDecision]
  refine Performs.tryCatch ?_ fun _ s _ => ?_
  · refine performs_bind (fun _ _ => True) (writeJsonExclusiveAtomic_follows
      (fun hfree => .decided decision hfree hlicensed) fun _ _ => trivial) fun _ _ _ _ => performs_pure trivial
  · exact (readJson_follows completionDecisionPath).bind fun _ _ _ _ => performs_check fun _ _ => trivial

theorem acceptSuccess_follows {job : RevitToolJob} {decision : CourierCompletionDecision}
    {result : RevitToolResult} {challenge : Option CourierCompletionChallengeState}
    (hissued : ∀ state, challenge = some state → desk.files.issued = some (.challenge state)) :
    Follows contract (acceptSuccess host job decision result challenge) desk fun _ _ => True := by
  unfold acceptSuccess
  by_cases hkind : decision.kind = .success
  · simp only [if_pos hkind]
    cases challenge with
    | none => exact performs_throw _
    | some state =>
      refine performs_check_bind fun _ _ => ?_
      exact consumeCompletionChallenge_follows (hissued state rfl)
  · simp only [if_neg hkind]
    exact performs_pure trivial

/-- Reading the terminal result only ever consumes a challenge, and returns what
    is stored. -/
theorem readTerminalResult_follows (job : RevitToolJob) :
    Follows contract (readTerminalResult host job) desk fun result s =>
      ∀ stored, result = some stored → s.files.result = some stored := by
  rw [readTerminalResult]
  refine (readJson_follows resultPath).bind fun stored s hs hstored => ?_
  cases stored with
  | none => exact performs_pure (by simp)
  | some stored =>
    have hfile : s.files.result = some stored := hstored.symm
    dsimp only
    split
    · exact performs_pure (by simp)
    · split
      · refine Performs.tryCatch ?_ fun _ _ _ => performs_pure (by simp)
        refine (readJson_follows completionDecisionPath).bind fun raw s₁ hs₁ _ => ?_
        refine performs_check_bind fun decision _ => ?_
        split
        · exact performs_pure (by simp)
        · refine (readJson_follows challengeIssuedPath).bind fun issued s₂ hs₂ hissued => ?_
          refine performs_check_bind fun challenge hchallenge => ?_
          have hstill : ∀ state, challenge = some state → s₂.files.issued = some (.challenge state) := by
            intro state hstate
            rw [← (causality_licenses hchallenge).2 state hstate, hissued]
            rfl
          refine Performs.bind (acceptSuccess_follows hstill) fun _ s₃ hs₃ _ => performs_pure ?_
          intro other hother
          obtain rfl : stored = other := by simpa using hother
          exact (keepsWritten_of_desk ((hs₁.trans hs₂).trans hs₃)).result _ hfile
      · refine performs_pure ?_
        intro other hother
        obtain rfl : stored = other := by simpa using hother
        exact hfile

theorem reconcileJobWithResult_follows {job : RevitToolJob} (hcontract : job.toCourierContract = contract)
    (result : RevitToolResult) :
    Follows contract (reconcileJobWithResult job result) desk fun settled _ =>
      settled.toCourierContract = contract := by
  rw [reconcileJobWithResult]
  split
  · exact performs_pure hcontract
  · exact saveSettled_follows hcontract (TerminalStatus.toJobStatus_ne_pending _) _ _

theorem publishDurableTerminal_follows {job : RevitToolJob} (hcontract : job.toCourierContract = contract)
    {durableResult : RevitToolResult} (hresult : ResultOf contract desk.files.decision durableResult) :
    Follows contract (publishDurableTerminal host env job durableResult) desk fun settled _ =>
      settled.toCourierContract = contract := by
  rw [publishDurableTerminal]
  refine performs_bind (fun settled _ => ∀ job, settled = some job → job.toCourierContract = contract)
    (Performs.tryCatch ?_ fun error s _ => ?_) fun settled s _ hsettled => ?_
  · exact performs_bind (fun _ _ => True) (writeJsonExclusiveAtomic_follows
      (fun hfree => .resulted durableResult hfree hresult) fun _ _ => trivial) fun _ _ _ _ => performs_pure (by simp)
  · refine (readTerminalResult_follows job).bind fun winner s₁ _ _ => ?_
    cases winner with
    | some winner =>
      refine (reconcileJobWithResult_follows hcontract winner).bind fun settled _ _ hsettled => performs_pure ?_
      simpa using hsettled
    | none =>
      refine (existsSync_follows resultPath).bind fun found _ _ _ => ?_
      cases found with
      | true =>
        refine (saveSettled_follows hcontract (by simp) _ _).bind fun settled _ _ hsettled => performs_pure ?_
        simpa using hsettled
      | false => exact performs_throw _
  · cases settled with
    | some settled => exact performs_pure (hsettled settled rfl)
    | none => exact saveSettled_follows hcontract (TerminalStatus.toJobStatus_ne_pending _) _ _

theorem recoverFamilyCompletionDecision_follows {job : RevitToolJob} (hcontract : job.toCourierContract = contract)
    (hfamily : contract.isCertifiedFamilyJob = true) :
    Follows contract (recoverFamilyCompletionDecision host env job) desk fun settled _ =>
      settled.toCourierContract = contract := by
  rw [recoverFamilyCompletionDecision]
  refine (readJson_follows completionDecisionPath).bind fun raw s hs hraw => ?_
  refine performs_check_bind fun decision hvalid => ?_
  have hstored : s.files.decision = some decision := by
    rw [← validateCompletionDecision_eq_ok hvalid, hraw]
    rfl
  refine (readJson_follows challengeIssuedPath).bind fun issued s₁ hs₁ hissued => ?_
  refine performs_check_bind fun challenge hchallenge => ?_
  have hstill : ∀ state, challenge = some state → s₁.files.issued = some (.challenge state) :=
    fun state hstate => hissued.symm.trans ((causality_licenses hchallenge).2 state hstate)
  refine (acceptSuccess_follows hstill).bind fun _ s₂ hs₂ _ => ?_
  have hdecision : s₂.files.decision = some decision :=
    (keepsWritten_of_desk (hs₁.trans hs₂)).decision _ hstored
  refine publishDurableTerminal_follows hcontract ?_
  rw [ResultOf, if_pos hfamily]
  exact ⟨decision, hdecision, rfl⟩

theorem recoverExistingFamilyDecision_follows {job : RevitToolJob} (hcontract : job.toCourierContract = contract) :
    Follows contract (recoverExistingFamilyDecision host env job) desk fun recovered _ =>
      ∀ settled, recovered = some settled → settled.toCourierContract = contract := by
  rw [recoverExistingFamilyDecision]
  refine (existsSync_follows completionDecisionPath).bind fun found s _ _ => ?_
  split
  · next hfound =>
    have hfamily : contract.isCertifiedFamilyJob = true := by
      rw [← hcontract]
      exact (Bool.and_eq_true_iff.1 hfound).1
    refine (recoverFamilyCompletionDecision_follows hcontract hfamily).bind
      fun settled _ _ hsettled => performs_pure ?_
    simpa using hsettled
  · exact performs_pure (by simp)

theorem recoverTerminalFence_follows {job : RevitToolJob} (hcontract : job.toCourierContract = contract)
    (hfamily : contract.isCertifiedFamilyJob = true) (executorId : Option String) :
    Follows contract (recoverTerminalFence host env job executorId) desk fun recovered _ =>
      ∀ settled, recovered = some settled → settled.toCourierContract = contract := by
  rw [recoverTerminalFence]
  refine (readJson_follows challengeIssuedPath).bind fun issued s _ hissued => ?_
  have hfile : s.files.issued = issued := hissued.symm
  match issued with
  | none => exact performs_pure (by simp)
  | some (.challenge state) => exact performs_pure (by simp)
  | some .other => exact performs_pure (by simp)
  | some (.fence none) => exact performs_throw _
  | some (.fence (some raw)) =>
    refine performs_check_bind fun decision hvalid => ?_
    have hsame : raw = decision := Option.some.inj (validateCompletionDecision_eq_ok hvalid)
    rw [hsame] at hfile
    split
    · exact performs_throw _
    · next hfailure =>
      have hkind : decision.kind = .failure := by tauto
      have hhash : decision.completion_challenge_hash = none := by tauto
      refine (publishCompletionDecision_follows (.fenced hfile hkind hhash)).bind fun _ s₁ _ _ => ?_
      refine (recoverFamilyCompletionDecision_follows hcontract hfamily).bind
        fun settled _ _ hsettled => performs_pure (by simpa using hsettled)

theorem denyChallenge_follows {job : RevitToolJob} (hcontract : job.toCourierContract = contract)
    (hfamily : contract.isCertifiedFamilyJob = true) (executorId won replayed : String)
    {returns : CourierCompletionChallengeState → JobDesk → Prop} :
    Follows contract (denyChallenge host env job executorId won replayed) desk returns := by
  rw [denyChallenge]
  refine (recoverTerminalFence_follows hcontract hfamily _).bind fun recovered s _ _ => ?_
  cases recovered with
  | none => exact performs_throw _
  | some settled => exact performs_throw _

theorem issueCompletionChallenge_follows {job : RevitToolJob} (hcontract : job.toCourierContract = contract)
    (hfamily : contract.isCertifiedFamilyJob = true) (executorId : String) :
    Follows contract (issueCompletionChallenge host env job executorId) desk fun state s =>
      s.files.issued = some (.challenge state) := by
  rw [issueCompletionChallenge]
  refine (existsSync_follows challengeIssuedPath).bind fun issued s _ _ => ?_
  refine (existsSync_follows challengeConsumedPath).bind fun consumed s₁ _ _ => ?_
  split
  · exact denyChallenge_follows hcontract hfamily _ _ _
  · split
    · refine Performs.tryCatch ?_ fun _ s₂ _ => denyChallenge_follows hcontract hfamily _ _ _
      exact (writeChallenge_follows _).bind fun _ _ _ hs => performs_pure hs
    · exact performs_throw _

theorem createCompletionDecision_kind {job : RevitToolJob} {executorId : Option String}
    {terminal : RevitToolResult} {challengeHash : Option String} (h : terminal.status = .failed) :
    (createCompletionDecision host env job executorId terminal challengeHash).kind = .failure := by
  simp [createCompletionDecision, h]

/-- A failure publishes the fence with its own decision, or a nonretryable
    unknown outcome under the issued challenge. -/
theorem writeFamilyFailure_follows {job : RevitToolJob} (hcontract : job.toCourierContract = contract)
    (hfamily : contract.isCertifiedFamilyJob = true) {terminal : TerminalInput} (hfailed : terminal.status = .failed) :
    Follows contract (writeFamilyFailure host env job terminal) desk fun settled _ =>
      settled.toCourierContract = contract := by
  rw [writeFamilyFailure]
  refine (recoverTerminalFence_follows hcontract hfamily _).bind fun recovered s _ hrecovered => ?_
  cases recovered with
  | some winner => exact performs_pure (hrecovered winner rfl)
  | none =>
    refine performs_bind (fun fenced _ =>
      ∀ settled, fenced = some settled → settled.toCourierContract = contract) ?_ fun fenced s₁ _ hfenced => ?_
    · refine (existsSync_follows challengeIssuedPath).bind fun found s₂ _ _ => ?_
      cases found with
      | true => exact performs_pure (by simp)
      | false =>
        have hkind : (createCompletionDecision host env job (familyDecisionExecutor job)
            (buildTerminalResult env job terminal) none).kind = .failure := createCompletionDecision_kind hfailed
        refine Performs.tryCatch ?_ fun _ s₃ _ =>
          recoverTerminalFence_follows hcontract hfamily _
        refine (writeFence_follows hkind rfl).bind fun _ s₄ _ hissued => ?_
        refine (publishCompletionDecision_follows (.fenced hissued hkind rfl)).bind fun _ s₅ _ _ => ?_
        refine (recoverFamilyCompletionDecision_follows hcontract hfamily).bind
          fun settled _ _ hsettled => performs_pure ?_
        simpa using hsettled
    · cases fenced with
      | some winner => exact performs_pure (hfenced winner rfl)
      | none =>
        cases familyDecisionExecutor job with
        | none => exact performs_throw _
        | some executor =>
          refine (readJson_follows challengeIssuedPath).bind fun issued s₂ _ hissued => ?_
          refine performs_check_bind fun challenge hchallenge => ?_
          have hstored : s₂.files.issued = some (.challenge challenge) := by
            rw [← validateChallengeState_eq_ok hchallenge, hissued]
            rfl
          refine Performs.bind (publishCompletionDecision_follows
            (.dispatched challenge hstored rfl fun _ => ⟨rfl, rfl⟩)) fun _ s₃ _ _ => ?_
          exact recoverFamilyCompletionDecision_follows hcontract hfamily

theorem buildTerminalResult_resultOf {job : RevitToolJob} (hcontract : job.toCourierContract = contract)
    (hfamily : contract.isCertifiedFamilyJob = false) (terminal : TerminalInput)
    (decision : Option CourierCompletionDecision) :
    ResultOf contract decision (buildTerminalResult env job terminal) := by
  rw [ResultOf, if_neg (by simp [hfamily])]
  refine ⟨rfl, ?_, ?_⟩
  · rw [← hcontract]
    rfl
  · rw [← hcontract]
    rfl

/-- A terminal write of a job follows the protocol, whether it fails the job or
    settles one outside the certified families. -/
theorem writeTerminal_follows {job : RevitToolJob} (hcontract : job.toCourierContract = contract)
    {terminal : TerminalInput} (h : contract.isCertifiedFamilyJob = true → terminal.status = .failed) :
    Follows contract (writeTerminal host env job terminal) desk fun settled _ =>
      settled.toCourierContract = contract := by
  rw [writeTerminal]
  by_cases hfamily : contract.isCertifiedFamilyJob = true
  · have hjob : job.isCertifiedFamilyJob = true := by rw [hcontract, hfamily]
    simp only [hjob, if_true, if_pos (h hfamily)]
    exact writeFamilyFailure_follows hcontract hfamily (h hfamily)
  · have hjob : job.isCertifiedFamilyJob = false := by simpa [hcontract] using hfamily
    simp only [hjob, Bool.false_eq_true, if_false]
    exact publishDurableTerminal_follows hcontract
      (buildTerminalResult_resultOf hcontract (by simpa using hfamily) terminal _)

end refinement

end revit_operator.courier
