import RevitOperator.OperatorDeploy.Quarantine

open checked durable durable.Program

namespace revit_operator.operator_deploy

section readable

variable {Bytes : Type} {host : DeploymentHost Bytes} {context : DeploymentContext} {disk : Disk Bytes}

/-- The candidates of an admission can be found only where every root can be
    read. -/
theorem candidateTrees_readable {expected : Sha256} {paths : List RootPath} {trees : List (ReleaseTree Bytes)}
    (h : candidateTrees host context disk expected paths = .ok trees) :
    ∀ path ∈ paths, disk.slot host context path ≠ .unreadable := by
  induction paths generalizing trees with
  | nil => simp
  | cons first rest ih =>
    rw [candidateTrees] at h
    intro path hpath
    rw [List.mem_cons] at hpath
    cases hentry : disk.roots first with
    | none =>
      rw [hentry] at h
      rcases hpath with rfl | hrest
      · simp [Disk.slot, hentry]
      · exact ih h path hrest
    | some entry =>
      cases entry with
      | file =>
        rw [hentry] at h
        rcases hpath with rfl | hrest
        · simp [Disk.slot, hentry]
        · exact ih h path hrest
      | directory tree =>
        rw [hentry] at h
        simp only [bind_eq_ok] at h
        obtain ⟨fingerprint, hfingerprint, others, hothers, _⟩ := h
        rcases hpath with rfl | hrest
        · simp [Disk.slot, hentry, hfingerprint]
        · exact ih hothers path hrest

theorem validJournal_distinctSlots {journal : ActivationJournal Bytes}
    {swap : ActivationJournalReleaseRootSwap}     (hvalid : ValidateActivationJournal host context journal = .ok ()) (hswap : journal.releaseRootSwap = some swap) :
    DistinctSlots swap := by
  rw [ValidateActivationJournal, hswap] at hvalid
  simp only [check_bind_eq_ok] at hvalid
  obtain ⟨_, _, _, hvalid⟩ := hvalid
  cases hadmission : journal.safeReadAdmission with
  | none =>
    rw [hadmission] at hvalid
    exact distinctSlots_of_valid hvalid
  | some admission =>
    rw [hadmission] at hvalid
    simp only [check_bind_eq_ok] at hvalid
    obtain ⟨_, _, hvalid⟩ := hvalid
    exact distinctSlots_of_valid hvalid

end readable

section result

variable {Bytes : Type} [DecidableEq Bytes] {host : DeploymentHost Bytes} {context : DeploymentContext}
  {disk : Disk Bytes} {journal : ActivationJournal Bytes}

theorem verified_readable {swap : ActivationJournalReleaseRootSwap}
    (hswap : journal.releaseRootSwap = some swap)
    (h : VerifyJournalAdmissionCandidates host context journal disk = .ok ()) :
    ∀ path ∈ [swap.finalPath, swap.stagingPath, swap.failedPath], disk.slot host context path ≠ .unreadable := by
  rw [VerifyJournalAdmissionCandidates, hswap] at h
  simp only [bind_eq_ok] at h
  obtain ⟨_, ⟨candidates, hcandidates, _⟩, _⟩ := h
  exact candidateTrees_readable hcandidates

/-- A root that can be read has a definite answer to whether it is the
    replacement. -/
theorem releaseRootCommitted_ok (h : VerifyJournalAdmissionCandidates host context journal disk = .ok ()) :
    ∃ committed, releaseRootCommitted host context journal disk = .ok committed := by
  rw [releaseRootCommitted]
  cases hswap : journal.releaseRootSwap with
  | none => exact ⟨true, rfl⟩
  | some swap =>
    have hreadable := verified_readable hswap h swap.finalPath (by simp)
    simp only [DirectoryMatchesTree]
    rw [Disk.slot] at hreadable
    cases hentry : disk.roots swap.finalPath with
    | none => exact ⟨false, rfl⟩
    | some entry =>
      cases entry with
      | file => exact ⟨false, rfl⟩
      | directory tree =>
        rw [hentry] at hreadable
        dsimp only
        cases hhash : ReleaseTreeSha256 host context swap.finalPath tree with
        | error fault => simp [hhash] at hreadable
        | ok fingerprint => exact ⟨_, rfl⟩

theorem ensures_recoverJournal (hadmission : VerifyJournalAdmissionCandidates host context journal disk = .ok ())
    (hforeign : ∃ control ∈ journal.controls, isForeign host control disk = true) {during : Disk Bytes → Prop}
    {returns : Unit → Disk Bytes → Prop} {throws : DeployFault → Disk Bytes → Prop}
    (h : (rollBackJournal host context journal).Ensures disk during returns throws) :
    (recoverJournal host context journal).Ensures disk during returns throws := by
  obtain ⟨committed, hcommitted⟩ := releaseRootCommitted_ok hadmission
  obtain ⟨control, hcontrol, hnot⟩ := hforeign
  have hchanged : (journal.controls.all fun control => CurrentMatchesAfter host control disk) = false := by
    rw [List.all_eq_false]
    refine ⟨control, hcontrol, ?_⟩
    simp only [isForeign, Bool.and_eq_true, Bool.not_eq_true'] at hnot
    simp [hnot.2]
  rw [recoverJournal, ensures_bind, ensures_inspect, hadmission]
  rw [ensures_bind, ensures_inspect, hcommitted, ensures_bind, ensures_check_ok, ensures_bind, ensures_inspect,
    hchanged]
  rw [if_neg (by simp)]
  exact h

theorem ensures_recoverPending (hpending : disk.journal = some (.journal journal))
    (hvalid : ValidateActivationJournal host context journal = .ok ()) (hunblocked : disk.quarantined = [])
    (hunlinked : context.journalPathIsLinked = false) (hclosed : context.isRevitRunning = false)
    {during : Disk Bytes → Prop} {returns : Unit → Disk Bytes → Prop} {throws : DeployFault → Disk Bytes → Prop}
    (h : (recoverJournal host context journal).Ensures disk during returns throws) :
    (RecoverPendingActivationJournal host context).Ensures disk during returns throws := by
  rw [RecoverPendingActivationJournal, EnsureNoQuarantinedActivationJournal, ensures_bind, ensures_bind,
    ensures_inspect, ensures_require, if_pos hunblocked, ensures_bind, ensures_inspect, hpending]
  rw [ensures_bind, ensures_require, if_pos hunlinked, ensures_bind, ensures_require, if_pos hclosed]
  dsimp only
  rw [hvalid]
  exact h

theorem recoverPending_blocked (hpending : disk.journal = some (.journal journal))
    (hblocked : ¬ (disk.quarantined = [] ∧ context.journalPathIsLinked = false ∧ context.isRevitRunning = false)) :
    (RecoverPendingActivationJournal host context).final disk = disk := by
  have hends : (RecoverPendingActivationJournal host context).Ensures disk (fun _ => True)
      (fun _ s => s = disk) fun _ s => s = disk := by
    rw [RecoverPendingActivationJournal, EnsureNoQuarantinedActivationJournal, ensures_bind, ensures_bind,
      ensures_inspect, ensures_require]
    split
    · next hunblocked =>
      rw [ensures_bind, ensures_inspect, hpending]
      rw [ensures_bind, ensures_require]
      split
      · next hunlinked =>
        rw [ensures_bind, ensures_require, if_neg fun hclosed => hblocked ⟨hunblocked, hunlinked, hclosed⟩]
      · rfl
    · rfl
  exact hends.ends

theorem recoverPending_moves {swap : ActivationJournalReleaseRootSwap} (hpending : disk.journal = some (.journal journal))
    (hvalid : ValidateActivationJournal host context journal = .ok ())
    (hadmission : VerifyJournalAdmissionCandidates host context journal disk = .ok ())
    (hforeign : ∃ control ∈ journal.controls, isForeign host control disk = true)
    (hreached : disk.quarantined = [] ∧ context.journalPathIsLinked = false ∧ context.isRevitRunning = false)
    (hswap : journal.releaseRootSwap = some swap) (hroots : ¬ RootsAtRest host context disk swap) :
    (RecoverPendingActivationJournal host context).final disk ≠ disk.quarantine (.journal journal) := by
  obtain ⟨hunblocked, hunlinked, hclosed⟩ := hreached
  have hreadable := verified_readable hswap hadmission
  have hfinal := hreadable swap.finalPath (by simp)
  have hstaging := hreadable swap.stagingPath (by simp)
  have hstart {during : Disk Bytes → Prop} {returns : Unit → Disk Bytes → Prop} {throws : DeployFault → Disk Bytes → Prop}
      (h : (rollBackJournal host context journal).Ensures disk during returns throws) :
      (RecoverPendingActivationJournal host context).Ensures disk during returns throws :=
    ensures_recoverPending hpending hvalid hunblocked hunlinked hclosed (ensures_recoverJournal hadmission hforeign h)
  by_cases hrest : SlotsRecognized host context disk swap → ¬ MoveDue host context disk swap
  · -- The displaced root cannot be read: recovery stops before it gets to the controls.
    have hunreadable : ¬ (disk.slot host context swap.displacedPath = .unreadable →
        disk.slot host context swap.finalPath = .file ∨ disk.slot host context swap.stagingPath = .file) :=
      fun hreadable => hroots ⟨hreadable, hrest⟩
    simp only [Classical.not_imp, not_or] at hunreadable
    obtain ⟨hdisplaced, hfinalDirectory, hstagingDirectory⟩ := hunreadable
    have hends : (RecoverPendingActivationJournal host context).Ensures disk (fun _ => True)
        (fun _ s => s = disk) fun _ s => s = disk := by
      refine hstart ?_
      rw [rollBackJournal, hswap]
      dsimp only
      rw [ensures_bind, RecoverReleaseRootSwap]
      refine ensures_slotHash_bind hfinal hfinalDirectory (ensures_slotHash_bind hstaging hstagingDirectory ?_)
      rw [ensures_bind, ReleaseRootSlotHash, ensures_bind, ensures_inspect]
      rw [Disk.slot] at hdisplaced
      cases hentry : disk.roots swap.displacedPath with
      | none => simp [hentry] at hdisplaced
      | some entry =>
        cases entry with
        | file => simp [hentry] at hdisplaced
        | directory tree =>
          rw [hentry] at hdisplaced
          cases hhash : ReleaseTreeSha256 host context swap.displacedPath tree with
          | ok fingerprint => simp [hhash] at hdisplaced
          | error fault => rw [ensures_map, hhash, ensures_check_error]
    intro hquarantined
    rw [hends.ends] at hquarantined
    have hjournal := congrArg Disk.journal hquarantined
    rw [hpending] at hjournal
    cases hjournal
  · have hdue : SlotsRecognized host context disk swap ∧ MoveDue host context disk swap := by
      simpa only [Classical.not_imp, not_not] using hrest
    have hdistinct : DistinctSlots swap := validJournal_distinctSlots hvalid hswap
    obtain ⟨path, hempty, hoccupies⟩ := recoverSwap_occupies hdistinct hdue.1 hdue.2
    have hends : (RecoverPendingActivationJournal host context).Ensures disk (fun _ => True)
        (fun _ => Disk.Occupied path) fun _ => Disk.Occupied path := by
      refine hstart ?_
      rw [rollBackJournal, hswap]
      dsimp only
      rw [ensures_bind]
      refine Ensures.mono hoccupies (fun _ h => h) (fun _ s hs => ?_) fun _ _ hs => hs
      refine Keeps.last (keeps_inspect_bind ?_)
      split
      · exact (keeps_occupied_quarantine hs).bind fun _ _ ht => keeps_throw ht
      · refine (keeps_occupied_restoreControls hs).bind fun _ t ht => ?_
        rw [RetireActivationJournal]
        refine keeps_inspect_bind (keeps_check_bind ht fun _ _ => ?_)
        exact keeps_write (ht.of_roots rfl)
    intro hquarantined
    have hoccupied := hends.ends
    rw [hquarantined] at hoccupied
    rw [Disk.Occupied, Disk.quarantine, hempty] at hoccupied
    cases hoccupied

end result

section sample

/-- Contents of a sample workstation. -/
inductive SampleBytes where
  | state (state : InstalledState)
  | addin (profile : RevitAddinProfile) (assembly : AssemblyPath)
  | contents (number : Nat)
  deriving DecidableEq

/-- A host whose digests tell the sample contents apart. -/
def sampleHost : DeploymentHost SampleBytes where
  sha256
    | .state _ => 1
    | .addin _ _ => 2
    | .contents number => 3 + number
  size _ := 100
  treeSha256 tree := tree.files.length
  serializeState := .state
  deserializeState
    | .state state => some state
    | _ => none
  deserializeState_serializeState _ := rfl
  BuildAddinXmlBytes := .addin
  ReadAddinEntries
    | .addin profile assembly => some [⟨assembly, profile.fullClassName, profile.addInId⟩]
    | _ => none
  ReadAddinEntries_BuildAddinXmlBytes _ _ := rfl
  ReadAddInIds
    | .addin profile _ => some [profile.addInId]
    | _ => none
  ReadAddInIds_BuildAddinXmlBytes _ _ := rfl
  DesktopCommand _ _ := .contents 0
  desktopShortcut := .contents 0
  verifyCandidate _ _ _ _ := .ok ()
  snapshotReferencesRelease _ _ := false

def sampleContext : DeploymentContext where
  isRevitRunning := false
  isRevitInstalled _ := true
  machineAddInIds _ := []
  windowsVersion := [10, 0]
  utcNow := "2025-01-01T00:00:00Z"
  newTransactionId := 7
  controlPathIsLinked _ := false
  journalPathIsLinked := false
  rootPathIsLinked _ := false
  hasDesktop := false
  supportsShortcuts := false
  launcherOverrideIsManaged := true

def sampleManifest : ReleaseManifest where
  schemaVersion := 1
  releaseVersion := "r1"
  sourceRevision := "main"
  minimumWindowsVersion := some [10]
  revitAddinProfiles := []
  safeReadAdmission := none
  components := [⟨"desktop", .operatorDesktop, true, "desktop", none, none, false, false, [⟨"app.exe", 1, 1⟩]⟩]

/-- A release tree with so many files. -/
def sampleTree (files : Nat) : ReleaseTree SampleBytes :=
  ⟨some sampleManifest, (List.range files).map fun number => (("desktop", "app.exe"), .contents number), none, false⟩

def sampleSwap : ActivationJournalReleaseRootSwap :=
  ⟨.release "R1", .staging "R1" 7, .replaced "R1" 7, .failed "R1" 7, some 1, 2⟩

/-- The repair of a release: one add-in manifest and the state change, and the
    release tree is replaced. -/
def sampleJournal : ActivationJournal SampleBytes where
  transactionId := 7
  operation := .repair
  createdAtUtc := "2025-01-01T00:00:00Z"
  controls := [⟨.addin "2024" "OP.ADDIN", some (.contents 1), some 5, none⟩,
    ⟨.state, some (.contents 3), some 7, none⟩]
  safeReadAdmission := none
  releaseRootSwap := some sampleSwap

/-- The repair was interrupted with its trees where `roots` says, and the add-in
    manifest was then replaced by another program. -/
def interruptedRepair (roots : List (RootPath × ReleaseTree SampleBytes)) : Disk SampleBytes where
  controls := (AList.insert (.addin "2024" "OP.ADDIN") (.contents 6) ∅).insert .state (.contents 3)
  config _ := none
  roots path := (roots.lookup path).map .directory
  journal := some (.journal sampleJournal)
  quarantined := []

/-- The repair had not moved a release tree yet and recovery moved one before. -/
def interruptedBeforeMoves : Disk SampleBytes :=
  interruptedRepair [(.release "R1", sampleTree 1), (.failed "R1" 7, sampleTree 2)]

/-- The repair had put the replacement tree into its place. -/
def interruptedAfterMoves : Disk SampleBytes :=
  interruptedRepair [(.release "R1", sampleTree 2), (.replaced "R1" 7, sampleTree 1)]

private theorem interruptedBeforeMoves_leavesRoots :
    LeavesRoots sampleHost sampleContext interruptedBeforeMoves sampleJournal := by
  refine ⟨rfl, rfl, rfl, ?_⟩
  rintro _ ⟨⟩
  refine ⟨by decide +kernel, fun _ hdue => ?_⟩
  rcases hdue with ⟨hafter, _, _⟩ | ⟨_, _, hfinal, _⟩ | ⟨_, hstaging, _⟩
  · revert hafter
    decide +kernel
  · revert hfinal
    decide +kernel
  · revert hstaging
    decide +kernel

end sample

end revit_operator.operator_deploy
