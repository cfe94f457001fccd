import RevitOperator.Library.Durable
import RevitOperator.OperatorDeploy.Manifest
import Mathlib.Data.List.AList
import Mathlib.Logic.Function.Basic

open checked durable durable.Program

namespace revit_operator.operator_deploy

/-- A direct child of the releases root: a release, or one of the three places a
    transaction moves its tree through. -/
inductive RootPath where
  | release (version : String)
  | staging (version : String) (transactionId : Guid)
  | replaced (version : String) (transactionId : Guid)
  | failed (version : String) (transactionId : Guid)
  deriving DecidableEq

/-- The root of a release, as the file system sees it. -/
def releaseRoot (version : String) : RootPath := .release (foldCase version)

section types

variable (Bytes : Type)

/-- The tree of a release: what its `manifest.json` reads as, the files of its
    components, and whether a link in it (or its size) forbids a fingerprint. -/
structure ReleaseTree where
  manifest : Option ReleaseManifest
  files : List ((String × String) × Bytes)
  admissionReceipt : Option Bytes
  hasLink : Bool

inductive RootEntry where
  | file
  | directory (tree : ReleaseTree Bytes)

structure ActivationJournalReleaseRootSwap where
  finalPath : RootPath
  stagingPath : RootPath
  displacedPath : RootPath
  failedPath : RootPath
  beforeTreeSha256 : Option Sha256
  afterTreeSha256 : Sha256
  deriving DecidableEq

/-- A journaled control. `before` is the snapshot (`BeforeExists`,
    `BeforeSha256` and `BeforeBase64`, which are refused unless they agree) and
    `after` the fingerprint of what the transaction leaves there. -/
structure ActivationJournalControl where
  path : ControlPath
  before : Option Bytes
  after : Option Sha256
  note : Option String
  deriving DecidableEq

inductive DeployOperation where
  | install
  | update
  | repair
  | rollback
  deriving DecidableEq

structure ActivationJournal where
  transactionId : Guid
  operation : DeployOperation
  createdAtUtc : String
  controls : List (ActivationJournalControl Bytes)
  safeReadAdmission : Option InstalledSafeReadAdmission
  releaseRootSwap : Option ActivationJournalReleaseRootSwap
  deriving DecidableEq

/-- The journal file: a journal, or something that does not read as one. -/
inductive JournalFile where
  | journal (journal : ActivationJournal Bytes)
  | malformed
  deriving DecidableEq

/-- What a deployment reads and writes. -/
structure Disk where
  controls : AList fun _ : ControlPath => Bytes
  config : String → Option Bytes
  roots : RootPath → Option (RootEntry Bytes)
  journal : Option (JournalFile Bytes)
  quarantined : List (JournalFile Bytes)

structure AddinEntry where
  assembly : AssemblyPath
  fullClassName : String
  addInId : Guid
  deriving DecidableEq

/-- The file formats and the digests. A written state reads back as itself, and
    a written add-in manifest as its one entry. -/
structure DeploymentHost where
  sha256 : Bytes → Sha256
  size : Bytes → Nat
  treeSha256 : ReleaseTree Bytes → Sha256
  serializeState : InstalledState → Bytes
  deserializeState : Bytes → Option InstalledState
  deserializeState_serializeState : ∀ state, deserializeState (serializeState state) = some state
  BuildAddinXmlBytes : RevitAddinProfile → AssemblyPath → Bytes
  ReadAddinEntries : Bytes → Option (List AddinEntry)
  ReadAddinEntries_BuildAddinXmlBytes : ∀ profile assembly, ReadAddinEntries (BuildAddinXmlBytes profile assembly)
    = some [⟨assembly, profile.fullClassName, profile.addInId⟩]
  ReadAddInIds : Bytes → Option (List Guid)
  ReadAddInIds_BuildAddinXmlBytes : ∀ profile assembly,
    ReadAddInIds (BuildAddinXmlBytes profile assembly) = some [profile.addInId]
  DesktopCommand : (release component : String) → Bytes
  desktopShortcut : Bytes
  verifyCandidate : ReleaseTree Bytes → RootPath → ReleaseManifest → InstalledSafeReadAdmission → Except DeployFault Unit
  snapshotReferencesRelease : Bytes → String → Bool

end types

/-- The workstation at the time of one operation. -/
structure DeploymentContext where
  isRevitRunning : Bool
  isRevitInstalled : String → Bool
  /-- The ids in the machine-wide add-in manifests of a year. -/
  machineAddInIds : String → List Guid
  windowsVersion : List Nat
  utcNow : String
  newTransactionId : Guid
  /-- A control path leads through a link. -/
  controlPathIsLinked : ControlPath → Bool
  journalPathIsLinked : Bool
  rootPathIsLinked : RootPath → Bool
  hasDesktop : Bool
  supportsShortcuts : Bool
  launcherOverrideIsManaged : Bool

/-- A computation of the deployment over its disk. -/
abbrev Deploy (Bytes : Type) := Program (Disk Bytes) DeployFault

def ValidationFailed (message : String) : DeployFault := DeploymentException ExitCodes.ValidationFailed message

end revit_operator.operator_deploy
