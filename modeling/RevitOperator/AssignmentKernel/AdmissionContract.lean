import RevitOperator.AssignmentKernel.Admission

open checked

namespace revit_operator.assignment_kernel

variable {host : JavaScriptHost} {snapshot : AssignmentSnapshotV2} {operation : OperationV2}

/-- Every check an admitted operation has passed. -/
structure AdmissionAccepted (host : JavaScriptHost) (snapshot : AssignmentSnapshotV2)
    (operation : OperationV2) : Prop where
  usageHold : assertProviderUsageOperationAdmissionV1 snapshot operation = .ok ()
  underived : checkNoDerivedContext operation = .ok ()
  gate : checkAdmissionGate host snapshot operation = .ok ()
  citations : checkCitations host snapshot operation = .ok ()
  unrepeated : checkRepeat host snapshot operation = .ok ()
  topology : checkTopology snapshot operation = .ok ()
  retry : checkRetry host snapshot operation = .ok ()
  subject : checkVerificationSubject host snapshot operation = .ok ()
  shape : checkAdmissionShape operation = .ok ()

theorem validateOperationAdmission_accepted (h : validateOperationAdmission host snapshot operation = .ok ()) :
    AdmissionAccepted host snapshot operation := by
  simp only [validateOperationAdmission, check_bind_eq_ok] at h
  obtain ⟨husage, hunderived, hgate, h⟩ := h
  split at h
  · cases h
  · simp only [check_bind_eq_ok] at h
    obtain ⟨-, -, hcitations, hrepeat, -, htopology, -, hretry, hsubject, hshape⟩ := h
    exact ⟨husage, hunderived, hgate, hcitations, hrepeat, htopology, hretry, hsubject, hshape⟩

namespace AdmissionAccepted

theorem fresh (h : AdmissionAccepted host snapshot operation) :
    snapshot.operations.get? operation.operation_id = none := by
  have hgate := h.gate
  simp only [checkAdmissionGate, check_bind_eq_ok, require_eq_ok, Option.isNone_iff_eq_none] at hgate
  exact hgate.2.2.2.2.2.1

theorem current_binding (h : AdmissionAccepted host snapshot operation) :
    operation.binding = snapshot.current_binding := by
  have hgate := h.gate
  simp only [checkAdmissionGate, check_bind_eq_ok, require_eq_ok, sameAssignmentBindingV2_iff] at hgate
  exact hgate.2.2.2.2.1.symm

theorem fenced (h : AdmissionAccepted host snapshot operation) :
    snapshot.unresolved_unknown_operation_ids = [] ∨ operation.requested_effect = .read := by
  have hgate := h.gate
  simp only [checkAdmissionGate, check_bind_eq_ok, require_eq_ok] at hgate
  exact hgate.2.2.2.2.2.2

theorem settlement_open (h : AdmissionAccepted host snapshot operation) :
    operation.settlement_state = .open_ := by
  have hshape := h.shape
  simp only [checkAdmissionShape, check_bind_eq_ok, require_eq_ok] at hshape
  exact hshape.2.2.1

theorem result_none (h : AdmissionAccepted host snapshot operation) : operation.result = none := by
  have hshape := h.shape
  simp only [checkAdmissionShape, check_bind_eq_ok, require_eq_ok] at hshape
  exact hshape.2.2.2.2.1

theorem subject_settled (h : AdmissionAccepted host snapshot operation)
    (hpurpose : operation.purpose = .verification) :
    ∃ id subject, operation.verification_of_operation_id = some id
      ∧ snapshot.operations.get? id = some subject ∧ subject.settlement_state = .settled := by
  have hsubject := h.subject
  simp only [checkVerificationSubject, hpurpose, if_true] at hsubject
  split at hsubject
  · cases hsubject
  · next subject hfound =>
    simp only [check_bind_eq_ok, require_eq_ok] at hsubject
    split at hfound
    · obtain ⟨id, hid, hget⟩ := Option.bind_eq_some_iff.1 hfound
      exact ⟨id, subject, hid, hget, hsubject.1.2.2⟩
    · cases hfound

end AdmissionAccepted

end revit_operator.assignment_kernel
