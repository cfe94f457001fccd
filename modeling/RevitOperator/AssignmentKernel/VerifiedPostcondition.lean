import RevitOperator.AssignmentKernel.CounterStateHistory

open checked checked_run

namespace revit_operator.assignment_kernel

variable {host : JavaScriptHost} {event : AssignmentEventV2} {id : String}

section change

variable {snapshot : AssignmentSnapshotV2} {before after : OperationV2}

theorem Changed.lists (h : Changed host snapshot event id before after) {verificationId : String}
    (hlisted : verificationId ∈ before.verification_operation_ids) :
    verificationId ∈ after.verification_operation_ids := by
  obtain ⟨moved, hchange, hlink⟩ := h
  have hmoved : moved.verification_operation_ids = before.verification_operation_ids := by
    cases hchange with
    | kept => rfl
    | moved hmove => cases hmove <;> rfl
    | retained => rfl
  rw [← hmoved] at hlisted
  cases hlink with
  | unlinked => exact hlisted
  | linked => exact text.mem_sortedUnique.2 (List.mem_append_left _ hlisted)

theorem LedgerEffect.keeps_observation {next : OperationLedger} (h : LedgerEffect host snapshot event next)
    {observation : ObservationV2} (hget : snapshot.observations.get? id = some observation) :
    next.observations.get? id = some observation := by
  cases h with
  | retained retainedObservation hbody hoperation hretaining hcheck hlink =>
    simp only [checkObservation, check_bind_eq_ok, require_eq_ok] at hcheck
    have hfree := hcheck.2.2.2.1
    have hother : id ≠ retainedObservation.observation_id := by
      rintro rfl
      rw [hget] at hfree
      cases hfree
    exact (Record.get?_set_of_ne hother).trans hget
  | _ => exact hget

end change

/-- What is proven about settled operations is retained: the operations, the
    verifications they list and the observations. -/
structure KeepsProofs (before after : AssignmentSnapshotV2) : Prop where
  operations : ∀ id operation, before.operations.get? id = some operation →
    operation.settlement_state = .settled → operation.persistent_effect ≠ .unknown →
    ∃ kept, after.operations.get? id = some kept ∧ kept.SameSettlement operation
      ∧ ∀ verificationId ∈ operation.verification_operation_ids, verificationId ∈ kept.verification_operation_ids
  observations : ∀ id observation, before.observations.get? id = some observation →
    after.observations.get? id = some observation

theorem applyEvent_keepsProofs {state next : ReducerStateV2} (hstate : state.Sound)
    (h : applyEvent host state event = .ok next) {before after : AssignmentSnapshotV2}
    (hbefore : state.snapshot = some before) (hafter : next.snapshot = some after) : KeepsProofs before after where
  operations id operation hget hsettled hknown := by
    obtain ⟨kept, hkept, hchange⟩ := applyEvent_persists hstate h hbefore hget
    rw [ReducerStateV2.operation?_of_some hafter] at hkept
    exact ⟨kept, hkept, hchange.sameSettlement hsettled hknown, fun _ hlisted => hchange.lists hlisted⟩
  observations id observation hget := by
    cases applyEvent_effect h with
    | created spec hbody hnone =>
      rw [hnone] at hbefore
      cases hbefore
    | restarted snapshot hsome =>
      obtain rfl := Option.some.inj (hsome.symm.trans hbefore)
      obtain rfl := Option.some.inj hafter
      exact hget
    | recorded snapshot recorded hsome hopen hversion hlive hbinding hnotStart hrecord =>
      obtain rfl := Option.some.inj (hsome.symm.trans hbefore)
      obtain rfl := Option.some.inj hafter
      exact (recordEvent_effect hrecord).keeps_observation hget

section proofs

variable {before after : AssignmentSnapshotV2}

theorem KeepsProofs.proves (h : KeepsProofs before after) {verification kept : OperationV2}
    (hsame : kept.observation_ids = verification.observation_ids)
    (hproves : provesAppliedPostcondition before verification = true) :
    provesAppliedPostcondition after kept = true := by
  simp only [provesAppliedPostcondition, List.any_eq_true] at hproves ⊢
  obtain ⟨observationId, hmem, hfact⟩ := hproves
  refine ⟨observationId, hsame ▸ hmem, ?_⟩
  cases hget : before.observations.get? observationId with
  | none =>
    rw [hget] at hfact
    cases hfact
  | some observation =>
    rw [hget] at hfact
    rw [h.observations observationId observation hget]
    exact hfact

theorem KeepsProofs.verification (h : KeepsProofs before after)
    (hverified : verificationOperationHasVerifiedPostconditionV2 before id = true) :
    verificationOperationHasVerifiedPostconditionV2 after id = true := by
  unfold verificationOperationHasVerifiedPostconditionV2 at hverified
  split at hverified
  · cases hverified
  · next verification hget =>
    rw [Bool.and_eq_true] at hverified
    obtain ⟨hcites, hverified⟩ := hverified
    split at hverified
    · cases hverified
    · next applied happlied =>
      simp only [Bool.and_eq_true, beq_iff_eq] at hverified
      obtain ⟨⟨⟨⟨⟨⟨⟨⟨⟨⟨hedit, heffect⟩, hsettled⟩, hlisted⟩, hread⟩, hpurpose⟩, hnone⟩, hverificationSettled⟩,
        hsucceeded⟩, hobserved⟩, hproves⟩ := hverified
      obtain ⟨subjectId, hsubjectId, hsubject⟩ := Option.bind_eq_some_iff.1 happlied
      obtain ⟨keptSubject, hkeptSubject, hsameSubject, hlists⟩ :=
        h.operations subjectId applied hsubject hsettled (by rw [heffect]; decide)
      obtain ⟨kept, hkept, hsame, -⟩ := h.operations id verification hget hverificationSettled (by rw [hnone]; decide)
      have hrecord := hsame.1
      have hcited : kept.verification_of_operation_id = verification.verification_of_operation_id :=
        (congrArg OperationV2.verification_of_operation_id hrecord :)
      have hobservations : kept.observation_ids = verification.observation_ids :=
        (congrArg OperationV2.observation_ids hrecord :)
      have hresult : kept.result = verification.result := (congrArg OperationV2.result hrecord :)
      unfold verificationOperationHasVerifiedPostconditionV2
      simp only [hkept, hcited, hsubjectId, Option.bind_some, hkeptSubject, Bool.and_eq_true, beq_iff_eq, hobservations,
        hresult]
      rw [hsubjectId] at hcites
      refine ⟨hcites, ⟨⟨⟨⟨⟨⟨⟨⟨⟨⟨?_, ?_⟩, ?_⟩, ?_⟩, ?_⟩, ?_⟩, ?_⟩, ?_⟩, hsucceeded⟩, hobserved⟩,
        h.proves hobservations hproves⟩⟩
      · exact (congrArg OperationV2.requested_effect hsameSubject.1 :).trans hedit
      · exact hsameSubject.2.trans heffect
      · exact (congrArg OperationV2.settlement_state hsameSubject.1 :).trans hsettled
      · exact List.contains_iff_mem.2 (hlists id (List.contains_iff_mem.1 hlisted))
      · exact (congrArg OperationV2.requested_effect hrecord :).trans hread
      · exact (congrArg OperationV2.purpose hrecord :).trans hpurpose
      · exact hsame.2.trans hnone
      · exact (congrArg OperationV2.settlement_state hrecord :).trans hverificationSettled

theorem settled_of_verified {snapshot : AssignmentSnapshotV2}
    (hverified : verificationOperationHasVerifiedPostconditionV2 snapshot id = true) :
    ∃ verification, snapshot.operations.get? id = some verification ∧ verification.settlement_state = .settled
      ∧ verification.persistent_effect = .none := by
  unfold verificationOperationHasVerifiedPostconditionV2 at hverified
  split at hverified
  · cases hverified
  · next verification hget =>
    rw [Bool.and_eq_true] at hverified
    obtain ⟨-, hverified⟩ := hverified
    split at hverified
    · cases hverified
    · simp only [Bool.and_eq_true, beq_iff_eq] at hverified
      obtain ⟨⟨⟨⟨⟨-, hnone⟩, hsettled⟩, -⟩, -⟩, -⟩ := hverified
      exact ⟨verification, hget, hsettled, hnone⟩

theorem KeepsProofs.applied (h : KeepsProofs before after)
    (hverified : appliedOperationHasVerifiedPostconditionV2 before id = true) :
    appliedOperationHasVerifiedPostconditionV2 after id = true := by
  unfold appliedOperationHasVerifiedPostconditionV2 at hverified
  split at hverified
  · cases hverified
  · next operation hget =>
    simp only [Bool.and_eq_true, beq_iff_eq, List.any_eq_true] at hverified
    obtain ⟨⟨⟨hedit, heffect⟩, hsettled⟩, verificationId, hlisted, hcites, hproved⟩ := hverified
    obtain ⟨kept, hkept, hsame, hlists⟩ := h.operations id operation hget hsettled (by rw [heffect]; decide)
    unfold appliedOperationHasVerifiedPostconditionV2
    simp only [hkept, Bool.and_eq_true, beq_iff_eq, List.any_eq_true]
    refine ⟨⟨⟨?_, ?_⟩, ?_⟩, verificationId, hlists verificationId hlisted, ?_, h.verification hproved⟩
    · exact (congrArg OperationV2.requested_effect hsame.1 :).trans hedit
    · exact hsame.2.trans heffect
    · exact (congrArg OperationV2.settlement_state hsame.1 :).trans hsettled
    · obtain ⟨verification, hverification, hread, hnone⟩ := settled_of_verified hproved
      obtain ⟨keptVerification, hkeptVerification, hsameVerification, -⟩ :=
        h.operations verificationId verification hverification hread (by rw [hnone]; decide)
      have hcited : keptVerification.verification_of_operation_id = verification.verification_of_operation_id :=
        (congrArg OperationV2.verification_of_operation_id hsameVerification.1 :)
      rw [hverification, Option.bind_some] at hcites
      rw [hkeptVerification, Option.bind_some, hcited, hcites, hsame.operation_id]

end proofs

end revit_operator.assignment_kernel
