import RevitOperator.AssignmentKernel.JournalBuilder
import RevitOperator.Courier.OperationRefinement

open checked durable durable.Program Relation

namespace revit_operator.courier

/-- The jobs root: the job directories in it, the files of each, and the
    process's index over them. -/
structure CourierStore where
  directories : List String
  files : String → JobFiles
  index : Option ActiveJobIndex

def CourierStore.empty : CourierStore := ⟨[], fun _ => .empty, none⟩

/-- What an operation on one job sees of the store. -/
def jobPart (jobId : String) : Part CourierStore JobDesk where
  get store := ⟨store.files jobId, store.index⟩
  set store desk := { store with files := Function.update store.files jobId desk.files, index := desk.index }
  get_set store desk := by simp
  set_get store := by simp
  set_set store first second := by simp

section calls

variable (host : CourierHost) (env : CourierEnvironment)

def isRevitCourierContextFreeJob (job : CourierContract) : Bool :=
  let method := host.toUpperCase (text.trim job.method)
  let path := host.toLowerCase (text.trim job.path)
  (method == "POST" && path == "/revit/open-model")
    || (method == "GET" && path ∈ ["/revit/ping", "/revit/context", "/revit/capabilities"])

/-- The session a claim is limited to; `none` when it names none. -/
def claimSession (input : ClaimInput) : Except CourierFault (Option String) :=
  match input.session_id with
  | none => .ok none
  | some session => if text.trim session = "" then .ok none else some <$> safeContextIdentity session "session_id"

def isCandidate (input : ClaimInput) (sessionId : Option String) (executorId : String) (job : CourierContract) :
    Bool :=
  sessionId.all (· == job.session_id)
    && job.target_executor_id.all (fun target => target == "" || target == executorId)
    && (!input.context_free_only || isRevitCourierContextFreeJob host job)
    && input.session_allowed.all fun allowed => allowed job.session_id

def candidateKey (job : CourierContract) : String := host.render job.created_at ++ "|" ++ job.id

/-- The candidates in the order of their creation. -/
def sortCandidates (jobs : List RevitToolJob) : List RevitToolJob :=
  jobs.insertionSort fun a b =>
    host.localeCompare (candidateKey host a.toCourierContract) (candidateKey host b.toCourierContract) ≤ 0

def isDirectoryName (name : String) : Bool :=
  name ≠ "" && name.toList.all fun c =>
    text.isLower c || text.isUpper c || text.isDigit c || c ∈ ['.', '_', ':', '-']

/-- The index after a scan of the store. -/
def CourierStore.scanned (store : CourierStore) : ActiveJobIndex :=
  (store.index.getD .empty).enumerateActiveJobs (fun jobId => readJob (store.files jobId) jobId) env.now
    env.rootVersion (store.directories.filter isDirectoryName)

/-- `enumerateCandidateJobs`. -/
def enumerateCandidateJobs : Program CourierStore CourierFault (List RevitToolJob) := do
  let index ← inspect fun store => store.scanned env
  write fun store => { store with index := some index }
  pure index.activeJobs

/-- Sweep candidates until one is handed out. -/
def sweepCandidates (executorId : String) : List RevitToolJob → Program CourierStore CourierFault (Option RevitToolJob)
  | [] => pure none
  | job :: rest => do
    match ← (jobPart job.id).focus (sweepJob host env executorId job) with
    | some handed => pure (some handed)
    | none => sweepCandidates executorId rest

def claimNextRevitToolJob (input : ClaimInput) : Program CourierStore CourierFault (Option RevitToolJob) := do
  let sessionId ← check (claimSession input)
  let executorId ← check (safeContextIdentity input.executor_id "executor_id")
  let active ← enumerateCandidateJobs env
  sweepCandidates host env executorId
    (sortCandidates host (active.filter fun job => isCandidate host input sessionId executorId job.toCourierContract))

/-- The record a producer writes. -/
def publishedJob (contract : CourierContract) : RevitToolJob where
  toCourierContract := contract
  status := .pending
  claim := none
  finished_at := none
  error := none

def CourierStore.withJob (store : CourierStore) (contract : CourierContract) : CourierStore where
  directories :=
    if contract.id ∈ store.directories then store.directories else store.directories ++ [contract.id]
  files := Function.update store.files contract.id
    { store.files contract.id with job := some (publishedJob contract) }
  index := store.index

/-- The producer's first write of a job; a job that is already there stays. -/
def publishJob (contract : CourierContract) : Program CourierStore CourierFault Unit := do
  if ← inspect fun store => (store.files contract.id).job.isSome then pure ()
  else write fun store => store.withJob contract

end calls

inductive CourierCall where
  | publish (contract : CourierContract)
  | claimNext (input : ClaimInput)
  | complete (input : FinishInput)
  | fail (input : FinishInput)
  | authorize (input : AuthorizeInput)

/-- An operation addressed to one job. -/
def onJob {α : Type} (sessionId jobId : String) (operation : String → Courier α) :
    Program CourierStore CourierFault α := do
  let _ ← check (safeContextIdentity sessionId "session_id")
  let jobId ← check (safeId jobId "job_id")
  (jobPart jobId).focus (operation jobId)

/-- One call; the value is the job it hands out. -/
def CourierCall.program (host : CourierHost) (env : CourierEnvironment) :
    CourierCall → Program CourierStore CourierFault (Option RevitToolJob)
  | .publish contract => do
    publishJob contract
    pure none
  | .claimNext input => claimNextRevitToolJob host env input
  | .complete input => do
    let _ ← onJob input.session_id input.job_id (completeRevitToolJob host env input)
    pure none
  | .fail input => do
    let _ ← onJob input.session_id input.job_id (failRevitToolJob host env input)
    pure none
  | .authorize input => do
    let _ ← onJob input.session_id input.job_id (authorizeRevitToolJobExecution host env input)
    pure none

/-- A call in the environment of its moment, cut short after some of its writes
    when the process crashes in it. -/
structure CourierStep where
  env : CourierEnvironment
  call : CourierCall
  crash : Option Nat

/-- The store after a step; a crash loses the index. -/
def CourierStore.step (host : CourierHost) (store : CourierStore) (step : CourierStep) : CourierStore :=
  match step.crash with
  | none => (step.call.program host step.env).final store
  | some survived => { (step.call.program host step.env).cutShort survived store with index := none }

/-- The job a step hands out. -/
def CourierStore.handedOut (host : CourierHost) (store : CourierStore) (step : CourierStep) : Option RevitToolJob :=
  match step.crash, (step.call.program host step.env).result store with
  | none, .ok handed => handed
  | _, _ => none

/-- The store after a run from an empty jobs root. -/
def courierRun (host : CourierHost) (steps : List CourierStep) : CourierStore :=
  steps.foldl (CourierStore.step host) .empty

section samples

/-- A text in the form of a digest. -/
def sampleDigest : String := "sha256:0123456789abcdef0123456789abcdef0123456789abcdef0123456789abcdef"

theorem sampleDigest_canonical (_ : String) : isSha256 sampleDigest = true := by
  decide +kernel

/-- A host that is right on plain ASCII texts, digests every text alike and takes
    every certified request and native receipt. -/
def asciiCourierHost : CourierHost where
  parseOther := assignment_kernel.parseIsoInstant
  render
    | .iso ms => toString ms
    | .other text => text
  localeCompare a b := if a = b then 0 else if text.ordinalLe a b then -1 else 1
  toUpperCase value := .ofList (value.toList.map Char.toUpper)
  toLowerCase value := .ofList (value.toList.map Char.toLower)
  stringify := assignment_kernel.plainJson
  rawSha256 _ := sampleDigest
  rawSha256_canonical := sampleDigest_canonical
  certifiedRequest _ := .ok ()
  certifiedEnvelope _ := .ok ()
  nativeReceipt _ _ _ := .ok ()

/-- A local process at an instant: the general agent is not ready and every
    route is supported. -/
def localEnvironment (now : Int) : CourierEnvironment where
  now := now
  rootVersion := toString now
  REVIT_OPERATOR_MODE := some "local"
  OPERATOR_TOOL_EXPOSURE_PROFILE := some "certified"
  OPERATOR_CERTIFICATION_PROTECTED_LABORATORY := none
  OPERATOR_REVIT_COURIER_LEASE_MS := none
  profile := ⟨false, "default", "certified", some "local"⟩
  isSupportedNativeTool _ _ := true
  isSupportedStandaloneTool _ _ := false
  standaloneExecutor _ _ := none
  trustedLaboratoryRecord _ _ := .ok ()
  laboratoryExecutionReceipt _ _ _ := .ok ()
  trustedPolicy _ := .ok ()
  finalizeRequestFamily _ := .ok ()
  randomBytes := "AAAAAAAAAAAAAAAAAAAAAAAAAAAAAAAAAAAAAAAAAAA"

/-- A version 1 job without an admission. -/
def plainContract (id : String) : CourierContract where
  version := REVIT_COURIER_JOB_VERSION
  id := id
  session_id := "session-1"
  turn_token := some .null
  turn_token_sha256 := none
  correlation_id := id
  idempotency_key := id
  method := "POST"
  path := "/revit/move-elements"
  target_executor_id := none
  laboratory_evidence := none
  general_agent_admission := none
  certification_envelope := none
  members := .null
  created_at := .iso 0
  expires_at := .iso 600000

def sampleJobId : String := "0123456789abcdef0123456789abcdef0123456789abcdef0123456789abcdef"

/-- A certified request-family job. -/
def familyContract : CourierContract :=
  { plainContract sampleJobId with
    version := REVIT_COURIER_V2_JOB_VERSION
    turn_token := none
    turn_token_sha256 := some .null
    certification_envelope := some {
      policy_hash := "policy"
      request_family_admission := some ⟨"document-1", "request-1"⟩
      envelope_hash := "envelope" } }

/-- A claim of any session's next job. -/
def claimAny (executorId : String) : CourierCall := .claimNext ⟨none, executorId, none, false⟩

def failReport (jobId : String) : CourierCall := .fail ⟨"session-1", jobId, "executor-1", .null, none, true⟩

/-- A request of the claimant for a final authorization. -/
def finalAuthorization (jobId : String) : CourierCall :=
  .authorize ⟨"session-1", jobId, "executor-1", some "final"⟩

/-- A call in a local process at an instant, not cut short. -/
def callAt (now : Int) (call : CourierCall) : CourierStep := ⟨localEnvironment now, call, none⟩

/-- The exact development laboratory, where version 1 jobs need no admission. -/
def laboratoryEnvironment (now : Int) : CourierEnvironment :=
  { localEnvironment now with
    REVIT_OPERATOR_MODE := some "development"
    OPERATOR_TOOL_EXPOSURE_PROFILE := some "laboratory" }

/-- A plain job that is published and claimed in the development laboratory. -/
def claimedInLaboratory : List CourierStep :=
  [callAt 0 (.publish (plainContract "job-1")), ⟨laboratoryEnvironment 1000, claimAny "executor-1", none⟩]

end samples

end revit_operator.courier
