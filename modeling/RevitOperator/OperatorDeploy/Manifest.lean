import RevitOperator.Library.Checked
import RevitOperator.Library.Text

open checked

namespace revit_operator.operator_deploy

/-- A SHA-256 digest: the number its 64 hex digits denote. -/
abbrev Sha256 := BitVec 256

/-- A parsed GUID. -/
abbrev Guid := BitVec 128

/-- What an operation fails with; `exitCode` is present on a
    `DeploymentException`. -/
structure DeployFault where
  exitCode : Option Nat
  message : String
  deriving DecidableEq

namespace ExitCodes

def ManifestInvalid : Nat := 10
def BlockedProcess : Nat := 12
def ValidationFailed : Nat := 21

end ExitCodes

def DeploymentException (exitCode : Nat) (message : String) : DeployFault := ⟨some exitCode, message⟩

def InvalidDataException (message : String) : DeployFault := ⟨none, message⟩

def IOException (message : String) : DeployFault := ⟨none, message⟩

/-- A text as `StringComparer.OrdinalIgnoreCase` sees it; the names compared are
    restricted to ASCII. -/
def foldCase (value : String) : String := .ofList (value.toList.map Char.toUpper)

def equalsIgnoreCase (left right : String) : Bool := foldCase left == foldCase right

structure RevitAddinProfile where
  id : String
  manifestFileName : String
  assemblyPath : String
  type : String
  name : String
  fullClassName : String
  addInId : Guid
  vendorId : String
  vendorDescription : String
  deriving DecidableEq

inductive ComponentKind where
  | revitAddin
  | operatorDesktop
  | configDefault
  | safeReadEvidence
  deriving DecidableEq

structure ReleaseFile where
  path : String
  size : Nat
  sha256 : Sha256
  deriving DecidableEq

structure ReleaseComponent where
  id : String
  kind : ComponentKind
  required : Bool
  payloadPath : String
  revitYear : Option String
  revitAddinProfileId : Option String
  installWhenRevitMissing : Bool
  preserveExisting : Bool
  files : List ReleaseFile
  deriving DecidableEq

structure SafeReadAdmissionTarget where
  revitYear : String
  componentId : String
  deriving DecidableEq

structure SafeReadAdmissionMetadata where
  profileId : String
  packageRoot : String
  evidenceComponentId : String
  targets : List SafeReadAdmissionTarget
  deriving DecidableEq

structure ReleaseManifest where
  schemaVersion : Nat
  releaseVersion : String
  sourceRevision : String
  minimumWindowsVersion : Option (List Nat)
  revitAddinProfiles : List RevitAddinProfile
  safeReadAdmission : Option SafeReadAdmissionMetadata
  components : List ReleaseComponent
  deriving DecidableEq

structure InstalledSafeReadTarget where
  revitYear : String
  componentId : String
  assemblyPath : String
  manifestSha256 : String
  deriving DecidableEq

structure InstalledSafeReadAdmission where
  releaseVersion : String
  releaseId : String
  receiptSha256 : String
  packagePinSha256 : String
  operatorManifestSha256 : String
  layoutSha256 : String
  targets : List InstalledSafeReadTarget
  deriving DecidableEq

/-- The path of an assembly in a release tree under the releases root. -/
structure AssemblyPath where
  release : String
  component : String
  file : String
  deriving DecidableEq

/-- A file outside the release trees that a deployment controls. -/
inductive ControlPath where
  | addin (year fileName : String)
  | stableDesktopLauncher
  | desktopCommand
  | desktopShortcut
  | state
  deriving DecidableEq

structure OwnedAddinManifest where
  revitYear : String
  profileId : String
  manifestPath : ControlPath
  manifestFileName : String
  addInId : Guid
  fullClassName : String
  assemblyPath : AssemblyPath
  manifestSha256 : Sha256
  deriving DecidableEq

structure InstalledState where
  schemaVersion : Nat
  currentRelease : String
  successfulReleases : List String
  updatedAtUtc : String
  ownedAddinManifests : List OwnedAddinManifest
  safeReadAdmissions : List InstalledSafeReadAdmission
  deriving DecidableEq

section names

def isAlphanumeric (c : Char) : Bool := text.isLower c || text.isUpper c || text.isDigit c

def isNameRest (c : Char) : Bool := isAlphanumeric c || c ∈ ['.', '_', '-']

/-- The text a pattern that ends in `$` looks at: one final line feed is left
    out. -/
def withoutFinalLineFeed (value : List Char) : List Char :=
  if value.getLast? = some '\n' then value.dropLast else value

def isSafeNameText (value : List Char) : Bool :=
  match withoutFinalLineFeed value with
  | [] => false
  | first :: rest => isAlphanumeric first && rest.all isNameRest

def ReservedDeviceNames : List String :=
  ["CON", "PRN", "AUX", "NUL", "COM1", "COM2", "COM3", "COM4", "COM5", "COM6", "COM7", "COM8", "COM9", "LPT1", "LPT2",
    "LPT3", "LPT4", "LPT5", "LPT6", "LPT7", "LPT8", "LPT9"]

/-- The name before its last dot. -/
def nameWithoutExtension (name : List Char) : List Char :=
  if '.' ∈ name then ((name.reverse.dropWhile (· ≠ '.')).drop 1).reverse else name

def IsReservedDeviceName (value : String) : Bool :=
  foldCase (.ofList (nameWithoutExtension (value.toList.dropWhile (· == '.')))) ∈ ReservedDeviceNames

def isSafeBaseName (value : String) : Bool :=
  text.nonBlank value && text.length value ≤ 128 && value ≠ "." && value ≠ ".." && !text.endsWith value "."
    && isSafeNameText value.toList && !IsReservedDeviceName value

def EnsureSafeBaseName (value label : String) : Except DeployFault Unit :=
  require (isSafeBaseName value) (DeploymentException ExitCodes.ManifestInvalid (label ++ " must be a safe base name."))

end names

section validation

/-- The white space a parsed number may stand in. -/
def isNumberSpace (c : Char) : Bool := c = ' ' || (0x09 ≤ c.toNat && c.toNat ≤ 0x0D)

/-- A four-character text that `int.TryParse` takes. -/
def isFourDigitYear (year : String) : Bool :=
  year.toList.length = 4 && match year.toList.dropWhile isNumberSpace with
    | [] => false
    | first :: rest =>
      let unsigned := if first = '+' ∨ first = '-' then rest else first :: rest
      let digits := (unsigned.reverse.dropWhile isNumberSpace).reverse
      digits ≠ [] && digits.all text.isDigit

/-- A key is not among the ones before it. -/
def isNew {α : Type} (key : α → String) (earlier : List α) (entry : α) : Bool :=
  !(earlier.map key).contains (key entry)

def ManifestInvalid (message : String) : DeployFault := DeploymentException ExitCodes.ManifestInvalid message

def validateProfile (schemaVersion : Nat) (earlier : List RevitAddinProfile) (profile : RevitAddinProfile) :
    Except DeployFault Unit := do
  require (schemaVersion ≠ 1) (ManifestInvalid "Schema-v1 manifests cannot declare revitAddinProfiles.")
  EnsureSafeBaseName profile.id "Revit add-in profile id"
  require (isNew (foldCase ·.id) earlier profile)
    (ManifestInvalid ("Revit add-in profile id is duplicated: '" ++ profile.id ++ "'."))
  EnsureSafeBaseName profile.manifestFileName ("Revit add-in profile '" ++ profile.id ++ "' manifestFileName")
  require (text.endsWith (foldCase profile.manifestFileName) ".ADDIN")
    (ManifestInvalid ("Revit add-in profile '" ++ profile.id ++ "' manifestFileName must end in .addin."))
  require (isNew (foldCase ·.manifestFileName) earlier profile)
    (ManifestInvalid ("Revit add-in manifestFileName is duplicated: '" ++ profile.manifestFileName ++ "'."))
  require (profile.type = "Application")
    (ManifestInvalid ("Revit add-in profile '" ++ profile.id ++ "' has unsupported type '" ++ profile.type ++ "'."))
  require (profile.addInId ∉ earlier.map RevitAddinProfile.addInId)
    (ManifestInvalid "Revit add-in addInId is duplicated.")

/-- The add-in components of a year. -/
def ReleaseManifest.addinsOf (components : List ReleaseComponent) (year : Option String) : List ReleaseComponent :=
  components.filter fun component => component.kind = .revitAddin ∧ component.revitYear = year

def validateComponent (manifest : ReleaseManifest) (earlier : List ReleaseComponent) (component : ReleaseComponent) :
    Except DeployFault Unit := do
  EnsureSafeBaseName component.id "component id"
  require (isNew (foldCase ·.id) earlier component)
    (ManifestInvalid ("Component id is missing or duplicated: '" ++ component.id ++ "'."))
  if component.kind = .revitAddin then do
    require (component.revitYear.any isFourDigitYear)
      (ManifestInvalid ("Component '" ++ component.id ++ "' requires a four-digit revitYear."))
    require (manifest.schemaVersion = 1 → ¬ component.revitAddinProfileId.any text.nonBlank)
      (ManifestInvalid ("Schema-v1 component '" ++ component.id ++ "' cannot declare revitAddinProfileId."))
    require (manifest.schemaVersion ≠ 1 → component.revitAddinProfileId.any fun id =>
        manifest.revitAddinProfiles.any fun profile => equalsIgnoreCase profile.id id)
      (ManifestInvalid ("Component '" ++ component.id ++ "' references an unknown revitAddinProfileId."))
    require (manifest.schemaVersion ≠ 1 → isNew (fun other => foldCase (other.revitAddinProfileId.getD ""))
        (ReleaseManifest.addinsOf earlier component.revitYear) component)
      (ManifestInvalid ("Revit " ++ component.revitYear.getD "" ++ " repeats add-in profile '"
        ++ component.revitAddinProfileId.getD "" ++ "'."))
  else
    require (¬ component.revitAddinProfileId.any text.nonBlank)
      (ManifestInvalid ("Non-Revit component '" ++ component.id ++ "' cannot declare revitAddinProfileId."))
  require (component.files = [] → component.required = false)
    (ManifestInvalid ("Required component '" ++ component.id ++ "' has no files."))

/-- Every year with add-in components has one for each profile, under one policy
    for a missing Revit. -/
def validateActivationSets (manifest : ReleaseManifest) : Except DeployFault Unit := do
  let addins := manifest.components.filter fun component => component.kind = .revitAddin
  require (addins ≠ [] → manifest.revitAddinProfiles ≠ [])
    (ManifestInvalid "Revit components require revitAddinProfiles.")
  forEach (addins.map ReleaseComponent.revitYear).dedup fun year => do
    let ofYear := ReleaseManifest.addinsOf manifest.components year
    require (∀ profile ∈ manifest.revitAddinProfiles, ∃ component ∈ ofYear,
        component.revitAddinProfileId.any fun id => equalsIgnoreCase profile.id id)
      (ManifestInvalid ("Revit " ++ year.getD "" ++ " must contain exactly one component for every declared add-in profile."))
    require ((ofYear.map ReleaseComponent.installWhenRevitMissing).dedup.length = 1)
      (ManifestInvalid ("Revit " ++ year.getD ""
        ++ " add-in profiles must use one installWhenRevitMissing policy to preserve a complete activation set."))
  require (manifest.revitAddinProfiles = [] ∨ addins ≠ [])
    (ManifestInvalid "Every Revit add-in profile must be referenced by a complete per-year activation set.")

/-- The part of the SafeRead admission contract that concerns the component
    set. -/
def validateSafeReadAdmission (manifest : ReleaseManifest) : Except DeployFault Unit := do
  require (manifest.schemaVersion ≠ 3 → manifest.safeReadAdmission = none)
    (ManifestInvalid "Only schema-v3 manifests can declare safeReadAdmission.")
  require (manifest.schemaVersion ≠ 3 → ∀ component ∈ manifest.components, component.kind ≠ .safeReadEvidence)
    (ManifestInvalid "safe-read-evidence components require manifest schema v3.")
  require (manifest.safeReadAdmission.isSome → ∀ component ∈ manifest.components,
      component.kind = .revitAddin → component.installWhenRevitMissing = true)
    (ManifestInvalid "Schema-v3 SafeRead admission requires one exact workstation-independent component set; every Revit add-in component must set installWhenRevitMissing=true.")

/-- `ReleaseManifest.Validate`: the checks on the identities and the component
    set. -/
def ReleaseManifest.Validate (manifest : ReleaseManifest) : Except DeployFault Unit := do
  require (manifest.schemaVersion ∈ [1, 2, 3])
    (ManifestInvalid ("Unsupported manifest schemaVersion " ++ toString manifest.schemaVersion ++ "; expected 1, 2, or 3."))
  EnsureSafeBaseName manifest.releaseVersion "releaseVersion"
  require manifest.minimumWindowsVersion.isSome (ManifestInvalid "minimumWindowsVersion is invalid.")
  require (manifest.components ≠ []) (ManifestInvalid "Manifest must contain at least one component.")
  forEachAfter [] manifest.revitAddinProfiles (validateProfile manifest.schemaVersion)
  forEachAfter [] manifest.components (validateComponent manifest)
  onlyIf (manifest.schemaVersion ≠ 1) (validateActivationSets manifest)
  validateSafeReadAdmission manifest

end validation

end revit_operator.operator_deploy
