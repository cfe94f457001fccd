import RevitOperator.Courier.Job
import Mathlib.Logic.Relation

open Relation

namespace revit_operator.courier

/-! The courier protocol of one job directory: one job record that is replaced,
    and four files that are written once. -/

/-- What a terminal decision may be published on: the fence that already names
    it, or the challenge that was issued for the dispatch. -/
inductive Licensed (issued : Option IssuedFile) (decision : CourierCompletionDecision) : Prop where
  | fenced (hissued : issued = some (.fence (some decision))) (hkind : decision.kind = .failure)
      (hhash : decision.completion_challenge_hash = none)
  | dispatched (challenge : CourierCompletionChallengeState)
      (hissued : issued = some (.challenge challenge))
      (hhash : decision.completion_challenge_hash = some challenge.completion_challenge_hash)
      (hunknown : decision.kind = .failure →
        decision.terminal_result.outcome_unknown = true ∧ decision.terminal_result.retryable = false)

/-- The result that belongs in a directory: for a family job the one its
    decision names, for any other job one with the job's identity. -/
def ResultOf (contract : CourierContract) (decision : Option CourierCompletionDecision)
    (result : RevitToolResult) : Prop :=
  if contract.isCertifiedFamilyJob = true then
    ∃ decided, decision = some decided ∧ decided.terminal_result = result
  else
    result.version = REVIT_COURIER_RESULT_VERSION ∧ result.id = contract.id
      ∧ result.correlation_id = contract.correlation_id

/-- One durable write in the directory of a job with the given contract. -/
inductive ProtocolStep (contract : CourierContract) : JobFiles → JobFiles → Prop where
  | saved {files : JobFiles} (job : RevitToolJob) (hcontract : job.toCourierContract = contract)
      (hstatus : job.status ≠ .pending) : ProtocolStep contract files { files with job := some job }
  | fenced {files : JobFiles} (decision : CourierCompletionDecision) (hfree : files.issued = none)
      (hkind : decision.kind = .failure) (hhash : decision.completion_challenge_hash = none) :
      ProtocolStep contract files { files with issued := some (.fence (some decision)) }
  | challenged {files : JobFiles} (state : CourierCompletionChallengeState) (hfree : files.issued = none) :
      ProtocolStep contract files { files with issued := some (.challenge state) }
  | consumed {files : JobFiles} (state : CourierCompletionChallengeState) (hfree : files.consumed = none)
      (hissued : files.issued = some (.challenge state)) :
      ProtocolStep contract files { files with consumed := some state }
  | decided {files : JobFiles} (decision : CourierCompletionDecision) (hfree : files.decision = none)
      (hlicensed : Licensed files.issued decision) :
      ProtocolStep contract files { files with decision := some decision }
  | resulted {files : JobFiles} (result : RevitToolResult) (hfree : files.result = none)
      (hresult : ResultOf contract files.decision result) :
      ProtocolStep contract files { files with result := some result }

/-- Everything that was written once in `before` is still there in `after`. -/
structure KeepsWritten (before after : JobFiles) : Prop where
  result : ∀ value, before.result = some value → after.result = some value
  issued : ∀ value, before.issued = some value → after.issued = some value
  consumed : ∀ value, before.consumed = some value → after.consumed = some value
  decision : ∀ value, before.decision = some value → after.decision = some value

theorem KeepsWritten.refl (files : JobFiles) : KeepsWritten files files :=
  ⟨fun _ h => h, fun _ h => h, fun _ h => h, fun _ h => h⟩

theorem KeepsWritten.trans {first second third : JobFiles} (h : KeepsWritten first second)
    (h' : KeepsWritten second third) : KeepsWritten first third where
  result value hvalue := h'.result value (h.result value hvalue)
  issued value hvalue := h'.issued value (h.issued value hvalue)
  consumed value hvalue := h'.consumed value (h.consumed value hvalue)
  decision value hvalue := h'.decision value (h.decision value hvalue)

/-- The stored job has the contract. -/
def JobFiles.Holds (files : JobFiles) (contract : CourierContract) : Prop :=
  ∃ job, files.job = some job ∧ job.toCourierContract = contract

/-- The stored job was handed out or settled. -/
def JobFiles.LeftPending (files : JobFiles) : Prop :=
  ∃ job, files.job = some job ∧ job.status ≠ .pending

/-- What holds of the write-once files of a directory in every state the
    protocol reaches. -/
structure JobFiles.Sound (contract : CourierContract) (files : JobFiles) : Prop where
  issued : files.issued = none ∨ (∃ state, files.issued = some (.challenge state))
    ∨ ∃ decision, files.issued = some (.fence (some decision)) ∧ decision.kind = .failure
      ∧ decision.completion_challenge_hash = none
  decision : ∀ decision, files.decision = some decision → Licensed files.issued decision
  result : ∀ result, files.result = some result → ResultOf contract files.decision result

/-- A directory with nothing but its job record. -/
def JobFiles.Fresh (files : JobFiles) : Prop :=
  files.result = none ∧ files.issued = none ∧ files.consumed = none ∧ files.decision = none

theorem JobFiles.Fresh.sound {files : JobFiles} (h : files.Fresh) (contract : CourierContract) :
    files.Sound contract := by
  obtain ⟨hresult, hissued, _, hdecision⟩ := h
  refine ⟨.inl hissued, fun decision hd => ?_, fun result hr => ?_⟩
  · rw [hdecision] at hd
    cases hd
  · rw [hresult] at hr
    cases hr

theorem Licensed.ne_none {issued : Option IssuedFile} {decision : CourierCompletionDecision}
    (h : Licensed issued decision) : issued ≠ none := by
  intro hnone
  cases h with
  | fenced hissued => simp [hnone] at hissued
  | dispatched _ hissued => simp [hnone] at hissued

section steps

variable {contract : CourierContract} {before after : JobFiles}

theorem ProtocolStep.keepsWritten (h : ProtocolStep contract before after) : KeepsWritten before after := by
  cases h with
  | saved job => exact { KeepsWritten.refl before with }
  | fenced decision hfree => exact { KeepsWritten.refl before with issued := by simp [hfree] }
  | challenged state hfree => exact { KeepsWritten.refl before with issued := by simp [hfree] }
  | consumed state hfree => exact { KeepsWritten.refl before with consumed := by simp [hfree] }
  | decided decision hfree => exact { KeepsWritten.refl before with decision := by simp [hfree] }
  | resulted result hfree => exact { KeepsWritten.refl before with result := by simp [hfree] }

theorem ProtocolStep.holds (h : ProtocolStep contract before after) (hholds : before.Holds contract) :
    after.Holds contract := by
  cases h with
  | saved job hcontract => exact ⟨job, rfl, hcontract⟩
  | _ => exact hholds

theorem ProtocolStep.leftPending (h : ProtocolStep contract before after) (hleft : before.LeftPending) :
    after.LeftPending := by
  cases h with
  | saved job hcontract hstatus => exact ⟨job, rfl, hstatus⟩
  | _ => exact hleft

theorem ProtocolStep.sound (h : ProtocolStep contract before after) (hsound : before.Sound contract) :
    after.Sound contract := by
  have hundecided : before.issued = none → before.decision = none := by
    intro hfree
    cases hdecision : before.decision with
    | none => rfl
    | some decision => exact absurd hfree (hsound.decision decision hdecision).ne_none
  cases h with
  | saved job => exact ⟨hsound.issued, hsound.decision, hsound.result⟩
  | fenced decision hfree hkind hhash =>
    refine ⟨.inr (.inr ⟨decision, rfl, hkind, hhash⟩), fun decided hdecided => ?_, hsound.result⟩
    simp [hundecided hfree] at hdecided
  | challenged state hfree =>
    refine ⟨.inr (.inl ⟨state, rfl⟩), fun decided hdecided => ?_, hsound.result⟩
    simp [hundecided hfree] at hdecided
  | consumed state => exact ⟨hsound.issued, hsound.decision, hsound.result⟩
  | decided decision hfree hlicensed =>
    refine ⟨hsound.issued, fun decided hdecided => ?_, fun result hresult => ?_⟩
    · obtain rfl : decision = decided := by simpa using hdecided
      exact hlicensed
    · have hbelongs := hsound.result result hresult
      rw [ResultOf, hfree] at hbelongs
      rw [ResultOf]
      by_cases hfamily : contract.isCertifiedFamilyJob = true
      · simp [hfamily] at hbelongs
      · rw [if_neg hfamily] at hbelongs ⊢
        exact hbelongs
  | resulted result hfree hresult =>
    refine ⟨hsound.issued, hsound.decision, fun written hwritten => ?_⟩
    obtain rfl : result = written := by simpa using hwritten
    exact hresult

/-- A number of writes in the directory of a job. -/
abbrev ProtocolSteps (contract : CourierContract) : JobFiles → JobFiles → Prop :=
  ReflTransGen (ProtocolStep contract)

theorem ProtocolSteps.invariant {P : JobFiles → Prop}
    (hstep : ∀ files next, ProtocolStep contract files next → P files → P next)
    (h : ProtocolSteps contract before after) (hstart : P before) : P after := by
  induction h with
  | refl => exact hstart
  | tail _ hlast ih => exact hstep _ _ hlast ih

theorem ProtocolSteps.keepsWritten (h : ProtocolSteps contract before after) : KeepsWritten before after :=
  ProtocolSteps.invariant (fun _ _ hstep hkept => hkept.trans hstep.keepsWritten) h (.refl before)

theorem ProtocolSteps.holds (h : ProtocolSteps contract before after) (hholds : before.Holds contract) :
    after.Holds contract :=
  ProtocolSteps.invariant (fun _ _ hstep => hstep.holds) h hholds

theorem ProtocolSteps.leftPending (h : ProtocolSteps contract before after) (hleft : before.LeftPending) :
    after.LeftPending :=
  ProtocolSteps.invariant (fun _ _ hstep => hstep.leftPending) h hleft

end steps

end revit_operator.courier
