import RevitOperator.Library.Json

namespace revit_operator.courier

def REVIT_COURIER_JOB_VERSION : String := "revit-operator.revit-tool-job.v1"

def REVIT_COURIER_V2_JOB_VERSION : String := "revit-operator.revit-tool-job.v2"

def REVIT_COURIER_RESULT_VERSION : String := "revit-operator.revit-tool-result.v1"

/-- A timestamp text: the canonical ISO text of an instant in milliseconds, or
    some other text. -/
inductive Timestamp where
  | iso (ms : Int)
  | other (text : String)
  deriving DecidableEq

/-- `new Date(Date.parse(text)).toISOString() === text`. -/
def Timestamp.isCanonical : Timestamp → Bool
  | .iso _ => true
  | .other _ => false

inductive JobStatus where
  | pending
  | running
  | succeeded
  | failed
  deriving DecidableEq

inductive TerminalStatus where
  | succeeded
  | failed
  deriving DecidableEq

def TerminalStatus.toJobStatus : TerminalStatus → JobStatus
  | .succeeded => .succeeded
  | .failed => .failed

structure GeneralAgentCourierAdmission where
  schema : String
  source : String
  runtime_mode : String
  exposure_profile : String
  capability_profile : String
  general_agent_ready : Bool
  method : String
  path : String
  channel : String
  alias_ : String
  request_hash : String
  effect_hash : String
  deriving DecidableEq

structure LaboratoryEvidenceDispatch where
  policy_hash : String
  policy_record_hash : String
  evidence_record_hash : String
  effect_hash : String
  evidence_run_id : String
  evidence_step : String
  transport_kind : String
  job_id : Option String
  correlation_id : Option String
  workflow : String
  alias_ : String
  deriving DecidableEq

structure CertifiedRequestFamilyAdmission where
  document_session_id : String
  request_instance_hash : String
  deriving DecidableEq

/-- The envelope fields the job store reads; the other members are in the job's
    `members`. -/
structure RevitCourierCertificationEnvelope where
  policy_hash : String
  request_family_admission : Option CertifiedRequestFamilyAdmission
  envelope_hash : String
  deriving DecidableEq

/-- The part of a job record that its producer fixes. `members` holds what only
    the certification checks read. -/
structure CourierContract where
  version : String
  id : String
  session_id : String
  turn_token : Option Json
  turn_token_sha256 : Option Json
  correlation_id : String
  idempotency_key : String
  method : String
  path : String
  target_executor_id : Option String
  laboratory_evidence : Option LaboratoryEvidenceDispatch
  general_agent_admission : Option GeneralAgentCourierAdmission
  certification_envelope : Option RevitCourierCertificationEnvelope
  members : Json
  created_at : Timestamp
  expires_at : Timestamp
  deriving DecidableEq

structure CourierClaim where
  executor_id : String
  claimed_at : Timestamp
  lease_expires_at : Timestamp
  deriving DecidableEq

structure RevitToolJob extends CourierContract where
  status : JobStatus
  claim : Option CourierClaim
  finished_at : Option Timestamp
  error : Option String
  deriving DecidableEq

structure CertifiedCourierExecutionContext where
  dispatch_id : String
  correlation_id : String
  execution_session_id : String
  executor_id : String
  certification_envelope_hash : String
  completion_challenge_hash : String
  deriving DecidableEq

structure RevitToolResult where
  version : String
  id : String
  correlation_id : String
  status : TerminalStatus
  finished_at : Timestamp
  result : Json
  error : Option String
  code : Option String
  retryable : Bool
  phase : Option String
  outcome_unknown : Bool
  certified_execution_context : Option CertifiedCourierExecutionContext
  deriving DecidableEq

structure CourierCompletionChallengeState where
  job_id : String
  dispatch_id : String
  correlation_id : String
  session_id : String
  execution_session_id : String
  executor_id : String
  certification_envelope_hash : String
  completion_challenge : String
  completion_challenge_hash : String
  policy_hash : String
  document_session_id : String
  request_instance_hash : String
  issued_at_utc : Timestamp
  deriving DecidableEq

inductive DecisionKind where
  | success
  | failure
  deriving DecidableEq

structure CourierCompletionDecision where
  kind : DecisionKind
  job_id : String
  correlation_id : String
  session_id : String
  executor_id : Option String
  certification_envelope_hash : String
  request_instance_hash : String
  completion_challenge_hash : Option String
  terminal_result_sha256 : String
  terminal_result : RevitToolResult
  decided_at_utc : Timestamp
  deriving DecidableEq

/-- What `completion-challenge-issued.v1.json` may hold: the challenge of a final
    authorization, the fence of a failure before dispatch (without a decision
    when malformed), or something else. -/
inductive IssuedFile where
  | challenge (state : CourierCompletionChallengeState)
  | fence (terminal_decision : Option CourierCompletionDecision)
  | other
  deriving DecidableEq

/-- The durable files of one job directory. -/
structure JobFiles where
  job : Option RevitToolJob
  result : Option RevitToolResult
  issued : Option IssuedFile
  consumed : Option CourierCompletionChallengeState
  decision : Option CourierCompletionDecision
  deriving DecidableEq

def JobFiles.empty : JobFiles := ⟨none, none, none, none, none⟩

/-- An error thrown by the courier. Certification errors carry a code; an
    authorization error may carry the terminal job. -/
structure CourierFault where
  code : Option String
  message : String
  job : Option RevitToolJob

/-- `new Error(message)`. -/
def plainError (message : String) : CourierFault := ⟨none, message, none⟩

/-- `new RevitCourierCertificationError(code, message)`. -/
def RevitCourierCertificationError (code message : String) : CourierFault := ⟨some code, message, none⟩

/-- `/^sha256:[0-9a-f]{64}$/`. -/
def isSha256 (value : String) : Bool :=
  text.startsWith value "sha256:" && text.isHexText 64 (text.dropFirst 7 value)

/-- What the courier takes from its host: the time read from a text that is not
    a canonical instant, the text of a timestamp, text comparison, case mapping,
    JSON text and hashing; and the certification checks over the members only
    they read (request body, envelope and idempotency hash, signed native
    receipt). -/
structure CourierHost where
  parseOther : String → Option Int
  render : Timestamp → String
  localeCompare : String → String → Int
  toUpperCase : String → String
  toLowerCase : String → String
  stringify : Json → String
  rawSha256 : String → String
  rawSha256_canonical : ∀ value, isSha256 (rawSha256 value) = true
  certifiedRequest : CourierContract → Except CourierFault Unit
  certifiedEnvelope : CourierContract → Except CourierFault Unit
  nativeReceipt : CourierContract → Json → CertifiedCourierExecutionContext → Except CourierFault Unit

/-- `Date.parse`, with `none` for `NaN`. -/
def CourierHost.parseDate (host : CourierHost) : Timestamp → Option Int
  | .iso ms => some ms
  | .other text => host.parseOther text

structure SidecarAgentProfileState where
  general_agent_ready : Bool
  capability_profile : String
  tool_exposure_profile : String
  runtime_mode : Option String
  deriving DecidableEq

/-- What may change between two calls: the clock, the root directory's version,
    the process environment, the agent profile, the tool inventory, the trusted
    policy and the random bytes of a call. -/
structure CourierEnvironment where
  now : Int
  rootVersion : String
  REVIT_OPERATOR_MODE : Option String
  OPERATOR_TOOL_EXPOSURE_PROFILE : Option String
  OPERATOR_CERTIFICATION_PROTECTED_LABORATORY : Option String
  OPERATOR_REVIT_COURIER_LEASE_MS : Option Int
  profile : SidecarAgentProfileState
  isSupportedNativeTool : String → String → Bool
  isSupportedStandaloneTool : String → String → Bool
  standaloneExecutor : String → String → Option String
  trustedLaboratoryRecord : CourierContract → LaboratoryEvidenceDispatch → Except CourierFault Unit
  laboratoryExecutionReceipt : CourierContract → LaboratoryEvidenceDispatch → Json → Except CourierFault Unit
  trustedPolicy : CourierContract → Except CourierFault Unit
  finalizeRequestFamily : CourierContract → Except CourierFault Unit
  randomBytes : String

/-- `certification_envelope?.request_family_admission`. -/
def CourierContract.familyAdmission (job : CourierContract) : Option CertifiedRequestFamilyAdmission :=
  job.certification_envelope.bind RevitCourierCertificationEnvelope.request_family_admission

def CourierContract.isCertifiedFamilyJob (job : CourierContract) : Bool :=
  job.version == REVIT_COURIER_V2_JOB_VERSION && job.familyAdmission.isSome

/-- `error instanceof RevitCourierCertificationError`. -/
def CourierFault.isCertification (fault : CourierFault) : Bool := fault.code.isSome

end revit_operator.courier
