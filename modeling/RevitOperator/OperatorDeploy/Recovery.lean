import RevitOperator.OperatorDeploy.ActivationJournal

open checked durable durable.Program

namespace revit_operator.operator_deploy

variable {Bytes : Type} [DecidableEq Bytes]

section release_roots

variable (host : DeploymentHost Bytes) (context : DeploymentContext)

def ReleaseTreeSha256 (path : RootPath) (tree : ReleaseTree Bytes) : Except DeployFault Sha256 := do
  EnsureReleaseTransactionPath context path
  require (tree.hasLink = false) (ValidationFailed "Release root contains a link or reparse point.")
  .ok (host.treeSha256 tree)

def DirectoryMatchesTree (disk : Disk Bytes) (path : RootPath) (expected : Sha256) : Except DeployFault Bool :=
  match disk.roots path with
  | some (.directory tree) => (· == expected) <$> ReleaseTreeSha256 host context path tree
  | _ => .ok false

/-- `ReleaseManifest.Load` of the manifest in a release tree. -/
def LoadManifest (tree : ReleaseTree Bytes) : Except DeployFault ReleaseManifest :=
  match tree.manifest with
  | none => .error (ManifestInvalid "Manifest could not be parsed.")
  | some manifest => do
    manifest.Validate
    .ok manifest

/-- `SafeReadAdmissionVerifier.VerifyCandidate`. -/
def VerifyCandidate (tree : ReleaseTree Bytes) (finalReleaseRoot : RootPath) (manifest : ReleaseManifest)
    (binding : Option InstalledSafeReadAdmission) (expectedReceipt : Option Bytes) : Except DeployFault Unit :=
  match manifest.safeReadAdmission, binding with
  | none, none => .ok ()
  | none, some _ => .error (ValidationFailed "Installed admission state is detached from a non-SafeRead release.")
  | some _, none => .error (ValidationFailed "The production SafeRead release has no durable admission binding.")
  | some _, some binding => do
    ValidateBinding binding manifest.releaseVersion
    require (expectedReceipt.all fun receipt => tree.admissionReceipt = some receipt)
      (ValidationFailed "The staged SafeRead admission receipt differs from the externally pinned receipt bytes.")
    host.verifyCandidate tree finalReleaseRoot manifest binding

/-- The trees among the given roots that carry the fingerprint. -/
def candidateTrees (disk : Disk Bytes) (expected : Sha256) :
    List RootPath → Except DeployFault (List (ReleaseTree Bytes))
  | [] => .ok []
  | path :: rest => do
    match disk.roots path with
    | some (.directory tree) => do
      let fingerprint ← ReleaseTreeSha256 host context path tree
      let others ← candidateTrees disk expected rest
      .ok (if fingerprint = expected then tree :: others else others)
    | _ => candidateTrees disk expected rest

def VerifyJournalAdmissionCandidates (journal : ActivationJournal Bytes) (disk : Disk Bytes) :
    Except DeployFault Unit := do
  let (candidates, finalPath) ← (match journal.releaseRootSwap, journal.safeReadAdmission with
    | some swap, _ => do
      let candidates ← candidateTrees host context disk swap.afterTreeSha256
        [swap.finalPath, swap.stagingPath, swap.failedPath]
      require (candidates.length ≠ 0)
        (InvalidDataException "The journaled replacement tree is absent or no longer exact.")
      .ok (candidates, swap.finalPath)
    | none, some admission =>
      match disk.roots (releaseRoot admission.releaseVersion) with
      | some (.directory tree) => .ok ([tree], releaseRoot admission.releaseVersion)
      | _ => .error (InvalidDataException "The journaled SafeRead release root is missing.")
    | none, none => .ok ([], releaseRoot ""))
  forEach candidates fun tree => do
    let manifest ← LoadManifest tree
    require (manifest.safeReadAdmission.isSome = journal.safeReadAdmission.isSome)
      (InvalidDataException "The activation journal admission presence is detached from the candidate manifest.")
    VerifyCandidate host tree finalPath manifest journal.safeReadAdmission none

def HashesEqual (left right : Option Sha256) : Bool := left.isSome && left == right

/-- `QuarantineReleaseRootSwap`. -/
def QuarantineReleaseRootSwap {α : Type} (reason : String) : Deploy Bytes α := do
  QuarantineActivationJournal
  throw (ValidationFailed ("Interrupted activation was quarantined without moving a foreign release root: " ++ reason ++ "."))

def ReleaseRootSlotHash (path : RootPath) (slot : String) : Deploy Bytes (Option Sha256) := do
  match ← inspect fun disk => disk.roots path with
  | none => pure none
  | some .file => QuarantineReleaseRootSwap ("the " ++ slot ++ " release-root slot contains a file instead of a directory")
  | some (.directory tree) => some <$> check (ReleaseTreeSha256 host context path tree)

def RequireReleaseRootSlot (slot : String) (actual : Option Sha256) (allowed : List (Option Sha256)) :
    Deploy Bytes Unit :=
  if actual = none ∨ allowed.any (HashesEqual actual) then pure ()
  else QuarantineReleaseRootSwap ("the " ++ slot ++ " release-root slot no longer matches its transaction fingerprint")

/-- `Directory.Move`. -/
def moveRoot (source destination : RootPath) : Deploy Bytes Unit := do
  match ← inspect fun disk => (disk.roots source, disk.roots destination) with
  | (some (.directory tree), none) => write fun disk =>
      { disk with roots := Function.update (Function.update disk.roots source none) destination (some (.directory tree)) }
  | _ => throw (IOException "The directory could not be moved.")

/-- The first move of `RecoverReleaseRootSwap`: the replacement tree leaves the
    final slot. Returns the hash left in the final slot. -/
def clearReplacement (swap : ActivationJournalReleaseRootSwap) (finalHash failedHash : Option Sha256) :
    Deploy Bytes (Option Sha256) := do
  let identicalTrees := swap.beforeTreeSha256 == some swap.afterTreeSha256
  let finalIsBefore := HashesEqual finalHash swap.beforeTreeSha256
  let finalIsAfter := HashesEqual finalHash (some swap.afterTreeSha256)
  if !finalIsBefore && finalIsAfter && !identicalTrees then
    if failedHash.isSome then
      QuarantineReleaseRootSwap "both final and failed roots contain the replacement tree"
    else do
      moveRoot swap.finalPath swap.failedPath
      pure none
  else pure finalHash

/-- The second move: the previous tree returns to the final slot. -/
def restorePrevious (swap : ActivationJournalReleaseRootSwap) (finalIsAfter : Bool)
    (finalHash displacedHash failedHash : Option Sha256) : Deploy Bytes (Option Sha256) := do
  if swap.beforeTreeSha256.isSome && !HashesEqual finalHash swap.beforeTreeSha256 then
    if !HashesEqual displacedHash swap.beforeTreeSha256 then
      QuarantineReleaseRootSwap "the previous release tree is not available in its final or displaced root"
    else if (← inspect fun disk => (disk.roots swap.finalPath).isSome) then
      QuarantineReleaseRootSwap "the final release path could not be cleared without touching a foreign entry"
    else do
      moveRoot swap.displacedPath swap.finalPath
      ReleaseRootSlotHash host context swap.finalPath "restored final"
  else if swap.beforeTreeSha256.isNone && finalHash.isSome then
    if !finalIsAfter then
      QuarantineReleaseRootSwap "the previously absent final release path contains a foreign tree"
    else if failedHash.isSome then
      QuarantineReleaseRootSwap "both final and failed roots contain the replacement tree"
    else do
      moveRoot swap.finalPath swap.failedPath
      pure none
  else pure finalHash

/-- The third move: a staged tree joins the failed slot. -/
def clearStaging (swap : ActivationJournalReleaseRootSwap) : Deploy Bytes Unit := do
  match ← inspect fun disk => disk.roots swap.stagingPath with
  | some (.directory _) =>
    if (← inspect fun disk => (disk.roots swap.failedPath).isSome) then
      QuarantineReleaseRootSwap "both staging and failed roots contain the replacement tree"
    else moveRoot swap.stagingPath swap.failedPath
  | _ => pure ()

def RecoverReleaseRootSwap (swap : ActivationJournalReleaseRootSwap) : Deploy Bytes Unit := do
  let finalHash ← ReleaseRootSlotHash host context swap.finalPath "final"
  let stagingHash ← ReleaseRootSlotHash host context swap.stagingPath "staging"
  let displacedHash ← ReleaseRootSlotHash host context swap.displacedPath "displaced"
  let failedHash ← ReleaseRootSlotHash host context swap.failedPath "failed"
  RequireReleaseRootSlot "final" finalHash [swap.beforeTreeSha256, some swap.afterTreeSha256]
  RequireReleaseRootSlot "staging" stagingHash [some swap.afterTreeSha256]
  RequireReleaseRootSlot "displaced" displacedHash [swap.beforeTreeSha256]
  RequireReleaseRootSlot "failed" failedHash [some swap.afterTreeSha256]
  let cleared ← clearReplacement swap finalHash failedHash
  let restored ← restorePrevious host context swap (HashesEqual finalHash (some swap.afterTreeSha256)) cleared
    displacedHash failedHash
  if swap.beforeTreeSha256.isSome then
    check (require (HashesEqual restored swap.beforeTreeSha256)
      (IOException "Interrupted release-root recovery did not restore the previous tree exactly."))
  else
    check (require ((← inspect fun disk => (disk.roots swap.finalPath).isNone) = true)
      (IOException "Interrupted release-root recovery did not restore the previous absent final path."))
  clearStaging swap

end release_roots

section rejected_admission

variable (host : DeploymentHost Bytes) (context : DeploymentContext)

/-- Run one step of a recovery that goes on after a failure. -/
def attempt (step : Deploy Bytes Unit) : Deploy Bytes (List DeployFault) :=
  tryCatch (do step; pure []) fun fault => pure [fault]

def RejectedAdmissionPreviousRootStillExact (journal : ActivationJournal Bytes) (disk : Disk Bytes) : Bool :=
  match journal.releaseRootSwap with
  | none => false
  | some swap =>
    match swap.beforeTreeSha256 with
    | none => false
    | some before => ((DirectoryMatchesTree host context disk swap.finalPath before).toOption).getD false

def RestoreRejectedControlPreimage (control : ActivationJournalControl Bytes) (wasDisabled : Bool) :
    Deploy Bytes Unit := do
  if (← inspect (CurrentMatchesBefore host control)) then pure ()
  else
    let matchesAfter ← inspect (CurrentMatchesAfter host control)
    match control.before with
    | some before =>
      if wasDisabled || ((← inspect fun disk => disk.fingerprint host control.path) == none && matchesAfter) then
        CasWrite host control.path before none
      else if matchesAfter then CasWrite host control.path before control.after
      else pure ()
    | none => if matchesAfter then CasDelete host control.path control.after else pure ()

/-- Remove the exact after-images; returns the paths that were removed. -/
def disableRejectedControls : List (ActivationJournalControl Bytes) →
    Deploy Bytes (List ControlPath × List DeployFault)
  | [] => pure ([], [])
  | control :: rest => do
    let removes ← inspect fun disk => control.after.isSome && CurrentMatchesAfter host control disk
    let failures ← attempt (if removes then CasDelete host control.path control.after else pure ())
    let (disabled, others) ← disableRejectedControls rest
    pure (if removes && failures.isEmpty then control.path :: disabled else disabled, failures ++ others)

/-- Restore the before-images that do not lead into the rejected release. -/
def restoreRejectedControls (isUnsafe : ActivationJournalControl Bytes → Bool) (disabled : List ControlPath) :
    List (ActivationJournalControl Bytes) → Deploy Bytes (List DeployFault)
  | [] => pure []
  | control :: rest => do
    let failures ← attempt (if isUnsafe control then pure ()
      else RestoreRejectedControlPreimage host control (control.path ∈ disabled))
    let others ← restoreRejectedControls isUnsafe disabled rest
    pure (failures ++ others)

/-- The state file of a rejected admission, handled after every other
    control. -/
def restoreRejectedState (beforeStateIsUnsafe : Bool) (state : ActivationJournalControl Bytes) : Deploy Bytes Unit := do
  let matchesBefore ← inspect (CurrentMatchesBefore host state)
  let matchesAfter ← inspect (CurrentMatchesAfter host state)
  let stateDisabled ← (do
    if state.after.isSome && matchesAfter then do
      CasDelete host state.path state.after
      pure true
    else if beforeStateIsUnsafe && state.before.isSome && matchesBefore then do
      CasDelete host state.path (state.beforeSha256 host)
      pure true
    else pure false)
  if beforeStateIsUnsafe then pure () else RestoreRejectedControlPreimage host state stateDisabled

def AddinSnapshotReferencesRoot (control : ActivationJournalControl Bytes) (unsafeRelease : String) : Bool :=
  control.before.any fun before => host.snapshotReferencesRelease before unsafeRelease

def StateSnapshotReferencesRelease (control : ActivationJournalControl Bytes) (unsafeRelease : String) : Bool :=
  control.before.any fun before =>
    (host.deserializeState before).all fun state => equalsIgnoreCase state.currentRelease unsafeRelease

def ControlPath.isAddin : ControlPath → Bool
  | .addin _ _ => true
  | _ => false

/-- The controls in the order of a recovery: the state last. -/
def ActivationJournal.stateLast (journal : ActivationJournal Bytes) : List (ActivationJournalControl Bytes) :=
  journal.controls.filter (·.path ≠ .state) ++ journal.controls.filter (·.path = .state)

def RecoverRejectedAdmissionControls (journal : ActivationJournal Bytes) : Deploy Bytes (List DeployFault) := do
  let previousRootStillExact ← inspect (RejectedAdmissionPreviousRootStillExact host context journal)
  let unsafeRelease := journal.safeReadAdmission.map InstalledSafeReadAdmission.releaseVersion
  let others := journal.controls.filter (·.path ≠ .state)
  let (disabled, failures) ← disableRejectedControls host others
  let isUnsafe (control : ActivationJournalControl Bytes) : Bool := unsafeRelease.any fun release =>
    !previousRootStillExact && control.path.isAddin && AddinSnapshotReferencesRoot host control release
  let restoreFailures ← restoreRejectedControls host isUnsafe disabled others
  let stateFailures ← (do
    match journal.controls.filter (·.path = .state) with
    | state :: _ => do
      let beforeStateIsUnsafe := unsafeRelease.any fun release =>
        !previousRootStillExact && StateSnapshotReferencesRelease host state release
      attempt (restoreRejectedState host beforeStateIsUnsafe state)
    | [] => pure [])
  pure (failures ++ restoreFailures ++ stateFailures)

end rejected_admission

section recovery

variable (host : DeploymentHost Bytes) (context : DeploymentContext)

/-- The note that the state about to be written commits the transaction. -/
def commitNote : String := "commit-state"

def ActivationJournal.isCommitting (journal : ActivationJournal Bytes) : Bool :=
  journal.controls.any fun control => control.path = .state && control.note == some commitNote

/-- The replacement tree, if there is one, is in its final place. -/
def releaseRootCommitted (journal : ActivationJournal Bytes) (disk : Disk Bytes) : Except DeployFault Bool :=
  match journal.releaseRootSwap with
  | none => .ok true
  | some swap => DirectoryMatchesTree host context disk swap.finalPath swap.afterTreeSha256

def restoreControl (control : ActivationJournalControl Bytes) : Deploy Bytes Unit := do
  if (← inspect (CurrentMatchesBefore host control)) then pure ()
  else
    match control.before with
    | some before => CasWrite host control.path before control.after
    | none => CasDelete host control.path control.after

def restoreControls : List (ActivationJournalControl Bytes) → Deploy Bytes Unit
  | [] => pure ()
  | control :: rest => do
    restoreControl host control
    restoreControls rest

/-- A control that is neither as it was nor as the transaction leaves it. -/
def isForeign (control : ActivationJournalControl Bytes) (disk : Disk Bytes) : Bool :=
  !CurrentMatchesBefore host control disk && !CurrentMatchesAfter host control disk

/-- Undo a transaction that was not committed: the release roots, then the
    controls, then the journal. -/
def rollBackJournal (journal : ActivationJournal Bytes) : Deploy Bytes Unit := do
  match journal.releaseRootSwap with
  | some swap => RecoverReleaseRootSwap host context swap
  | none => pure ()
  if (← inspect fun disk => journal.controls.any fun control => isForeign host control disk) then do
    QuarantineActivationJournal
    throw (ValidationFailed "Interrupted activation was quarantined without altering a concurrently modified control.")
  else do
    restoreControls host journal.stateLast
    RetireActivationJournal journal

/-- The recovery of a journal that reads as one. -/
def recoverJournal (journal : ActivationJournal Bytes) : Deploy Bytes Unit := do
  match ← inspect (VerifyJournalAdmissionCandidates host context journal) with
  | .error _ => do
    let _ ← RecoverRejectedAdmissionControls host context journal
    QuarantineActivationJournal
    throw (ValidationFailed "The interrupted activation journal was quarantined because its SafeRead admission no longer binds the exact candidate release.")
  | .ok _ => do
    let rootCommitted ← check (← inspect (releaseRootCommitted host context journal))
    let allAfter ← inspect fun disk => journal.controls.all fun control => CurrentMatchesAfter host control disk
    if journal.isCommitting && allAfter && rootCommitted then RetireActivationJournal journal
    else rollBackJournal host context journal

def RecoverPendingActivationJournal : Deploy Bytes Unit := do
  EnsureNoQuarantinedActivationJournal
  match ← inspect Disk.journal with
  | none => pure ()
  | some file => do
    check (require (context.journalPathIsLinked = false)
      (ValidationFailed "Activation journal path contains a link or reparse point."))
    check (require (context.isRevitRunning = false) (DeploymentException ExitCodes.BlockedProcess
      "An interrupted activation must be recovered before Revit can remain open. Close every Revit window and retry."))
    match file with
    | .journal journal =>
      match ValidateActivationJournal host context journal with
      | .ok _ => recoverJournal host context journal
      | .error _ => do
        QuarantineActivationJournal
        throw (ValidationFailed "The interrupted activation journal was quarantined because it is invalid.")
    | .malformed => do
      QuarantineActivationJournal
      throw (ValidationFailed "The interrupted activation journal was quarantined because it is invalid.")

end recovery

end revit_operator.operator_deploy
