import RevitOperator.OperatorDeploy.Workstation

open checked durable durable.Program

namespace revit_operator.operator_deploy

variable {Bytes : Type} [DecidableEq Bytes]

section files

variable (host : DeploymentHost Bytes)

/-- The fingerprint of a control, `none` when it is absent. -/
def Disk.fingerprint (disk : Disk Bytes) (path : ControlPath) : Option Sha256 :=
  (disk.controls.lookup path).map host.sha256

/-- `CasWrite`: put contents in the place of exactly the expected ones. No other
    process writes here, so the displaced file is the one that was checked. -/
def CasWrite (path : ControlPath) (contents : Bytes) (expected : Option Sha256) : Deploy Bytes Unit := do
  let current ← inspect fun disk => disk.fingerprint host path
  match expected with
  | none => check (require (current = none) (IOException "Control appeared after activation preflight and remains foreign."))
  | some _ => check (require (current = expected)
      (IOException "Control changed after activation preflight and remains foreign."))
  write fun disk => { disk with controls := disk.controls.insert path contents }

/-- `CasDelete`: remove exactly the expected contents. -/
def CasDelete (path : ControlPath) (expected : Option Sha256) : Deploy Bytes Unit := do
  let current ← inspect fun disk => disk.fingerprint host path
  match expected with
  | none => check (require (current = none) (IOException "Foreign control appeared where absence was required."))
  | some _ => do
    check (require (current = expected) (IOException "Control changed before activation deletion and remains foreign."))
    write fun disk => { disk with controls := disk.controls.erase path }

end files

section journal

variable (host : DeploymentHost Bytes) (context : DeploymentContext)

/-- `BeforeSha256`. -/
def ActivationJournalControl.beforeSha256 (control : ActivationJournalControl Bytes) : Option Sha256 :=
  control.before.map host.sha256

def CurrentMatchesBefore (control : ActivationJournalControl Bytes) (disk : Disk Bytes) : Bool :=
  disk.fingerprint host control.path == control.beforeSha256 host

def CurrentMatchesAfter (control : ActivationJournalControl Bytes) (disk : Disk Bytes) : Bool :=
  disk.fingerprint host control.path == control.after

def EnsureControlPathIsLocal (path : ControlPath) : Except DeployFault Unit :=
  require (context.controlPathIsLinked path = false)
    (ValidationFailed "Revit add-in control path contains a link or reparse point.")

def EnsureReleaseTransactionPath (path : RootPath) : Except DeployFault Unit :=
  require (context.rootPathIsLinked path = false)
    (ValidationFailed "Release transaction path contains a link or reparse point.")

def isLowercaseSha256 (value : String) : Bool :=
  text.startsWith value "sha256:" && text.isHexText 64 (text.dropFirst 7 value)

/-- `ValidateBinding`. -/
def ValidateBinding (binding : InstalledSafeReadAdmission) (expectedRelease : String) : Except DeployFault Unit := do
  require (binding.releaseVersion = expectedRelease ∧ text.nonBlank binding.releaseId
      ∧ isLowercaseSha256 binding.receiptSha256 ∧ isLowercaseSha256 binding.packagePinSha256
      ∧ isLowercaseSha256 binding.operatorManifestSha256 ∧ isLowercaseSha256 binding.layoutSha256)
    (ValidationFailed "Installed SafeRead admission binding is malformed or detached.")
  require (binding.targets.length = 3 ∧ ∀ year ∈ ["2023", "2024", "2025"],
      year ∈ binding.targets.map InstalledSafeReadTarget.revitYear)
    (ValidationFailed "Installed SafeRead admission binding does not cover exactly Revit 2023, 2024, and 2025.")
  forEachAfter [] binding.targets fun earlier target => do
    EnsureSafeBaseName target.componentId "installed SafeRead component id"
    require (isNew (foldCase ·.componentId) earlier target ∧ isLowercaseSha256 target.manifestSha256)
      (ValidationFailed "Installed SafeRead target binding is malformed or duplicated.")

def ValidateReleaseRootSwap (transactionId : Guid) (swap : ActivationJournalReleaseRootSwap) :
    Except DeployFault Unit := do
  forEach [swap.finalPath, swap.stagingPath, swap.displacedPath, swap.failedPath]
    (EnsureReleaseTransactionPath context)
  match swap.finalPath with
  | .release version => do
    EnsureSafeBaseName version "activation journal release root"
    require (swap.stagingPath = .staging version transactionId ∧ swap.displacedPath = .replaced version transactionId
        ∧ swap.failedPath = .failed version transactionId)
      (InvalidDataException "Activation journal release-root transaction paths are not bound to its transaction identity.")
  | _ => .error (DeploymentException ExitCodes.ManifestInvalid "activation journal release root must be a safe base name.")

/-- The paths a journal may name. -/
def ControlPath.isJournalPath : ControlPath → Bool
  | .addin year fileName => isFourDigitYear year && text.endsWith fileName ".ADDIN" && isSafeBaseName fileName
  | _ => true

def validateJournalControl (earlier : List (ActivationJournalControl Bytes))
    (control : ActivationJournalControl Bytes) : Except DeployFault Unit := do
  require (control.path ∉ earlier.map ActivationJournalControl.path)
    (InvalidDataException "Activation journal repeats a control path.")
  EnsureControlPathIsLocal context control.path
  require control.path.isJournalPath (InvalidDataException "Activation journal add-in path is invalid.")
  require (control.before.all fun bytes => decide (host.size bytes ≤ 1024 * 1024))
    (InvalidDataException "Activation journal snapshot hash is invalid.")

/-- `ValidateActivationJournal`. -/
def ValidateActivationJournal (journal : ActivationJournal Bytes) : Except DeployFault Unit := do
  require (1 ≤ journal.controls.length ∧ journal.controls.length ≤ 64)
    (InvalidDataException "Activation journal header is invalid.")
  forEachAfter [] journal.controls (validateJournalControl host context)
  require (ControlPath.state ∈ journal.controls.map ActivationJournalControl.path)
    (InvalidDataException "Activation journal requires one exact state control.")
  match journal.safeReadAdmission with
  | none => .ok ()
  | some admission => do
    ValidateBinding admission admission.releaseVersion
    require (journal.releaseRootSwap.all fun swap => swap.finalPath == releaseRoot admission.releaseVersion)
      (InvalidDataException "Activation journal SafeRead admission is bound to a different final release root.")
  match journal.releaseRootSwap with
  | none => .ok ()
  | some swap => ValidateReleaseRootSwap context journal.transactionId swap

/-- `RetireActivationJournal`: remove exactly the journal that is meant. -/
def RetireActivationJournal (journal : ActivationJournal Bytes) : Deploy Bytes Unit := do
  check (require ((← inspect Disk.journal) = some (.journal journal))
    (IOException "Control changed before activation deletion and remains foreign."))
  write fun disk => { disk with journal := none }

/-- `QuarantineActivationJournal`. -/
def QuarantineActivationJournal : Deploy Bytes Unit := do
  match ← inspect Disk.journal with
  | none => pure ()
  | some file => write fun disk => { disk with journal := none, quarantined := disk.quarantined ++ [file] }

def EnsureNoQuarantinedActivationJournal : Deploy Bytes Unit := do
  check (require ((← inspect Disk.quarantined) = [])
    (ValidationFailed "A quarantined activation requires manual inspection before deployment can continue."))

end journal

end revit_operator.operator_deploy
