import RevitOperator.Courier.Job
import RevitOperator.Library.Checked

open checked

namespace revit_operator.courier

/-- A bounded text without control characters. -/
def isSafeText (limit : Nat) (value : String) : Bool :=
  text.length value ≤ limit && !text.hasUnitIn 0 0x1F value && !text.hasUnitIn 0x7F 0x7F value

/-- A session or executor identity. -/
def isContextIdentity (value : String) : Bool := value ≠ "" && isSafeText 200 value

def isRevitCourierDevelopmentLaboratory (env : CourierEnvironment) : Bool :=
  env.REVIT_OPERATOR_MODE == some "development" && env.OPERATOR_TOOL_EXPOSURE_PROFILE == some "laboratory"

/-- The stored token digest of a job that must not keep the token. -/
def isTokenDigest (digest : Option Json) : Bool :=
  match digest with
  | some (.str value) => isSha256 value
  | _ => false

def isAdmissionAlias (name : String) : Bool :=
  text.leadThen text.isLower (fun c => text.isLower c || text.isDigit c || c == '_') 127 name

def requireGeneralAgentJobBinding (env : CourierEnvironment) (job : CourierContract) :
    Except CourierFault Unit :=
  match job.general_agent_admission with
  | none => .error (plainError "General Agent courier admission is malformed or does not match the active authenticated backend profile and exact job route.")
  | some admission =>
    require (env.profile.general_agent_ready
        ∧ env.profile.capability_profile = "general_agent"
        ∧ env.profile.tool_exposure_profile = "general"
        ∧ admission.schema = "revit-operator.general-agent-courier-admission.v1"
        ∧ admission.source = "backend_general_agent"
        ∧ env.profile.runtime_mode = some admission.runtime_mode
        ∧ (admission.runtime_mode = "hosted" ∨ admission.runtime_mode = "production")
        ∧ admission.exposure_profile = "general"
        ∧ admission.capability_profile = "general_agent"
        ∧ admission.general_agent_ready
        ∧ admission.method = job.method
        ∧ admission.path = job.path
        ∧ isAdmissionAlias admission.alias_
        ∧ admission.channel ∈ ["search", "generic_call", "typed_mcp", "deterministic_workflow"]
        ∧ isSha256 admission.request_hash
        ∧ isSha256 admission.effect_hash
        ∧ job.turn_token = none
        ∧ (job.turn_token_sha256 = some .null ∨ isTokenDigest job.turn_token_sha256))
      (plainError "General Agent courier admission is malformed or does not match the active authenticated backend profile and exact job route.")

/-- `parseLaboratoryEvidenceDispatch`: the shape of a laboratory dispatch. -/
def parseLaboratoryEvidenceDispatch (evidence : LaboratoryEvidenceDispatch) : Except CourierFault Unit := do
  require (isSha256 evidence.policy_hash ∧ isSha256 evidence.policy_record_hash
      ∧ isSha256 evidence.evidence_record_hash ∧ isSha256 evidence.effect_hash
      ∧ text.isHexText 32 evidence.evidence_run_id
      ∧ text.leadThen text.isLower (fun c => text.isLower c || text.isDigit c || c == '-') 79 evidence.evidence_step
      ∧ text.leadThen text.isLower (fun c => text.isLower c || text.isDigit c || c == '-') 119 evidence.workflow
      ∧ isAdmissionAlias evidence.alias_
      ∧ (evidence.transport_kind = "direct" ∨ evidence.transport_kind = "courier"))
    (plainError "laboratory_evidence is malformed or not bound to the reviewed EPIC-0437 candidate source.")
  if evidence.transport_kind = "direct" then
    require (evidence.job_id = none ∧ evidence.correlation_id = none)
      (plainError "Direct laboratory evidence cannot carry courier identity.")
  else
    require (evidence.job_id.any (text.isHexText 64) ∧ evidence.correlation_id = evidence.job_id)
      (plainError "Courier laboratory evidence requires its exact job/correlation identity.")

/-- The laboratory dispatch of a job, checked against the job and the current
    lane; `none` when the job carries none. -/
def requireCourierLaboratoryEvidenceJobBinding (env : CourierEnvironment) (job : CourierContract) :
    Except CourierFault (Option LaboratoryEvidenceDispatch) :=
  match job.laboratory_evidence with
  | none => .ok none
  | some evidence => do
    require (isRevitCourierDevelopmentLaboratory env
        ∧ env.OPERATOR_CERTIFICATION_PROTECTED_LABORATORY = some "1")
      (plainError "Courier laboratory evidence requires the exact protected development/laboratory lane.")
    parseLaboratoryEvidenceDispatch evidence
    require (evidence.transport_kind = "courier" ∧ evidence.job_id = some job.id
        ∧ evidence.correlation_id = some job.correlation_id)
      (plainError "Courier laboratory evidence is not bound to the exact durable job identity.")
    require (job.turn_token = none ∧ isTokenDigest job.turn_token_sha256)
      (plainError "Courier laboratory evidence must never persist a raw bearer token and must retain only its digest.")
    env.trustedLaboratoryRecord job evidence
    .ok (some evidence)

/-- The claim a certified job carries in each status. -/
def certifiedClaim (host : CourierHost) (job : RevitToolJob) : Except CourierFault Unit :=
  match job.status, job.claim with
  | .pending, none => .ok ()
  | .pending, some _ => .error (RevitCourierCertificationError "CERTIFICATION_JOB_MISMATCH"
      "Pending certified courier job must not carry a claim.")
  | .running, none => .error (RevitCourierCertificationError "CERTIFICATION_JOB_MALFORMED"
      "certified courier claim must be an object.")
  | .running, some claim => do
    require (isContextIdentity claim.executor_id)
      (RevitCourierCertificationError "CERTIFICATION_JOB_MALFORMED"
        "certified courier claim executor_id is invalid.")
    require (claim.claimed_at.isCanonical ∧ claim.lease_expires_at.isCanonical
        ∧ (host.parseDate claim.claimed_at).getD 0 ≤ (host.parseDate claim.lease_expires_at).getD 0)
      (RevitCourierCertificationError "CERTIFICATION_JOB_MALFORMED"
        "Certified courier claim timestamps are invalid.")
  | _, _ => .ok ()

/-- Validate a stored version 2 job: its identity, its request, its instants,
    its claim and its envelope. -/
def parseCertifiedCourierJobV2 (host : CourierHost) (job : RevitToolJob) : Except CourierFault Unit := do
  require (job.version = REVIT_COURIER_V2_JOB_VERSION)
    (RevitCourierCertificationError "CERTIFICATION_JOB_MALFORMED"
      "Courier job is not a supported v2 certified job.")
  require (job.turn_token = none)
    (RevitCourierCertificationError "CERTIFICATION_JOB_MALFORMED"
      "courier job contains unknown field turn_token.")
  require (text.isHexText 64 job.id ∧ job.correlation_id = job.id ∧ job.idempotency_key = job.id)
    (RevitCourierCertificationError "CERTIFICATION_JOB_MISMATCH"
      "Certified courier job id, correlation id, and idempotency key must be the same SHA-256 identity.")
  require (isContextIdentity job.session_id)
    (RevitCourierCertificationError "CERTIFICATION_JOB_MALFORMED" "courier session_id is invalid.")
  host.certifiedRequest job.toCourierContract
  require (job.created_at.isCanonical ∧ job.expires_at.isCanonical
      ∧ (host.parseDate job.created_at).getD 0 ≤ (host.parseDate job.expires_at).getD 0)
    (RevitCourierCertificationError "CERTIFICATION_JOB_MALFORMED"
      "Certified courier timestamps are invalid.")
  certifiedClaim host job
  host.certifiedEnvelope job.toCourierContract

/-- Verify the native receipt of a certified family job before its success is
    recorded. -/
def assertCertifiedCourierExecutionResult (host : CourierHost) (job : RevitToolJob) (result : Json)
    (executionContext : Option CertifiedCourierExecutionContext) : Except CourierFault Unit := do
  parseCertifiedCourierJobV2 host job
  match job.certification_envelope, job.familyAdmission, executionContext with
  | some _, some _, none =>
    .error (RevitCourierCertificationError "CERTIFICATION_EXECUTION_RECEIPT_INVALID"
      "Courier completion is missing its backend-issued execution context.")
  | some envelope, some _, some executionContext =>
    require (executionContext.dispatch_id = job.id ∧ executionContext.correlation_id = job.correlation_id
        ∧ executionContext.execution_session_id = job.session_id
        ∧ executionContext.certification_envelope_hash = envelope.envelope_hash
        ∧ isSha256 executionContext.completion_challenge_hash)
      (RevitCourierCertificationError "CERTIFICATION_EXECUTION_RECEIPT_INVALID"
        "Backend courier execution context does not match the exact durable job and completion challenge.")
    host.nativeReceipt job.toCourierContract result executionContext
  | _, _, _ => .ok ()

structure CertifiedCourierFinalAuthorization where
  authorized_at : Timestamp
  job : CourierContract
  executor_id : String
  authorization_stage : Option String
  completion_challenge : Option String
  completion_challenge_hash : Option String

/-- `/^cmcc1_[A-Za-z0-9_-]{43}$/`. -/
def isCompletionChallenge (challenge : String) : Bool :=
  text.startsWith challenge "cmcc1_" && (text.dropFirst 6 challenge).toList.length = 43
    && (text.dropFirst 6 challenge).toList.all fun c =>
      text.isLower c || text.isUpper c || text.isDigit c || c == '_' || c == '-'

/-- The challenge that belongs to an authorization stage of a family job. -/
def stageChallenge (host : CourierHost) (stage : Option String) (challenge : Option (String × String)) :
    Except CourierFault Unit :=
  if stage = some "preflight" then
    require (challenge = none)
      (RevitCourierCertificationError "CERTIFICATION_JOB_MALFORMED"
        "Certified request-family courier preflight cannot carry a completion challenge.")
  else
    require (challenge.any fun pair => isCompletionChallenge pair.1 && pair.2 == host.rawSha256 pair.1)
      (RevitCourierCertificationError "CERTIFICATION_JOB_MALFORMED"
        "Certified request-family courier final authorization requires an exact backend-issued completion challenge.")

/-- Validate a stored job against the current trusted policy right before it
    runs. -/
def authorizeCertifiedCourierFinalExecution (host : CourierHost) (env : CourierEnvironment)
    (job : RevitToolJob) (executorId : String) (authorizationStage : Option String)
    (challenge : Option (String × String)) : Except CourierFault CertifiedCourierFinalAuthorization := do
  parseCertifiedCourierJobV2 host job
  require (isContextIdentity executorId)
    (RevitCourierCertificationError "CERTIFICATION_JOB_MALFORMED" "executor_id is invalid.")
  require (job.target_executor_id.all fun target => target == "" || target == executorId)
    (RevitCourierCertificationError "CERTIFICATION_EXECUTOR_MISMATCH"
      "Certified courier job target executor does not match the claiming workstation.")
  env.trustedPolicy job.toCourierContract
  if job.familyAdmission.isSome then do
    require (authorizationStage = some "preflight" ∨ authorizationStage = some "final")
      (RevitCourierCertificationError "CERTIFICATION_JOB_MALFORMED"
        "Certified request-family courier authorization requires a preflight or final authorization_stage.")
    stageChallenge host authorizationStage challenge
    onlyIf (authorizationStage = some "final") (env.finalizeRequestFamily job.toCourierContract)
  else
    require (authorizationStage = none)
      (RevitCourierCertificationError "CERTIFICATION_JOB_MALFORMED"
        "Exact courier authorization cannot carry a request-family authorization_stage.")
  .ok {
    authorized_at := .iso env.now
    job := job.toCourierContract
    executor_id := executorId
    authorization_stage := authorizationStage
    completion_challenge := challenge.map Prod.fst
    completion_challenge_hash := challenge.map Prod.snd }

end revit_operator.courier
