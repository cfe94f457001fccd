import RevitOperator.OperatorDeploy.Recovery

open checked durable durable.Program

namespace revit_operator.operator_deploy

variable {Bytes : Type}

/-! When recovery quarantines a journal and touches nothing else. -/

/-- The disk after the journal file alone was moved to quarantine. -/
def Disk.quarantine (disk : Disk Bytes) (file : JournalFile Bytes) : Disk Bytes :=
  { disk with journal := none, quarantined := disk.quarantined ++ [file] }

/-- What a release-root slot looks like to recovery. -/
inductive RootSlot where
  | absent
  | file
  | unreadable
  | tree (fingerprint : Sha256)
  deriving DecidableEq

def Disk.slot (host : DeploymentHost Bytes) (context : DeploymentContext) (disk : Disk Bytes) (path : RootPath) :
    RootSlot :=
  match disk.roots path with
  | none => .absent
  | some .file => .file
  | some (.directory tree) =>
    match ReleaseTreeSha256 host context path tree with
    | .ok fingerprint => .tree fingerprint
    | .error _ => .unreadable

/-- A slot is empty or holds one of the trees of the transaction. -/
def RootSlot.Allowed (slot : RootSlot) (allowed : List (Option Sha256)) : Prop :=
  slot = .absent ∨ ∃ fingerprint, slot = .tree fingerprint ∧ some fingerprint ∈ allowed

section conditions

variable (host : DeploymentHost Bytes) (context : DeploymentContext) (disk : Disk Bytes)
  (swap : ActivationJournalReleaseRootSwap)

/-- Every slot is empty or holds a tree that belongs in it. -/
structure SlotsRecognized : Prop where
  final : (disk.slot host context swap.finalPath).Allowed [swap.beforeTreeSha256, some swap.afterTreeSha256]
  staging : (disk.slot host context swap.stagingPath).Allowed [some swap.afterTreeSha256]
  displaced : (disk.slot host context swap.displacedPath).Allowed [swap.beforeTreeSha256]
  failed : (disk.slot host context swap.failedPath).Allowed [some swap.afterTreeSha256]

/-- The final slot is as it was before the transaction. -/
def FinalRestored : Prop :=
  match swap.beforeTreeSha256 with
  | some before => disk.slot host context swap.finalPath = .tree before
  | none => disk.slot host context swap.finalPath = .absent

/-- Recovery has a release root to move: the replacement out of the final slot,
    the previous tree back into it, or a staged tree aside. -/
def MoveDue : Prop :=
  (disk.slot host context swap.finalPath = .tree swap.afterTreeSha256
      ∧ swap.beforeTreeSha256 ≠ some swap.afterTreeSha256 ∧ disk.slot host context swap.failedPath = .absent)
    ∨ (∃ before, swap.beforeTreeSha256 = some before ∧ disk.slot host context swap.finalPath = .absent
      ∧ disk.slot host context swap.displacedPath = .tree before)
    ∨ (FinalRestored host context disk swap ∧ disk.slot host context swap.stagingPath = .tree swap.afterTreeSha256
      ∧ disk.slot host context swap.failedPath = .absent)

/-- The release roots are left where they are: no slot keeps recovery from
    reading them, and where it recognizes all of them it has none to move. -/
structure RootsAtRest : Prop where
  readable : disk.slot host context swap.displacedPath = .unreadable →
    disk.slot host context swap.finalPath = .file ∨ disk.slot host context swap.stagingPath = .file
  rest : SlotsRecognized host context disk swap → ¬ MoveDue host context disk swap

/-- Recovery gets to the journal and moves no release root. -/
structure LeavesRoots (journal : ActivationJournal Bytes) : Prop where
  unblocked : disk.quarantined = []
  unlinked : context.journalPathIsLinked = false
  closed : context.isRevitRunning = false
  roots : ∀ swap, journal.releaseRootSwap = some swap → RootsAtRest host context disk swap

end conditions

/-- The program leaves the disk alone, or ends it with the journal
    quarantined. -/
abbrev Quiet {α : Type} (file : JournalFile Bytes) (p : Deploy Bytes α) (disk : Disk Bytes) (returns : α → Prop) : Prop :=
  p.Ensures disk (fun s => s = disk.quarantine file) (fun value s => s = disk ∧ returns value)
    fun _ s => s = disk.quarantine file

section quiet

variable {host : DeploymentHost Bytes} {context : DeploymentContext} {disk : Disk Bytes}
  {file : JournalFile Bytes} {swap : ActivationJournalReleaseRootSwap} {α β : Type}

theorem quiet_pure {value : α} {returns : α → Prop} (h : returns value) :
    Quiet file (pure value : Deploy Bytes α) disk returns := by
  rw [Quiet, ensures_pure]
  exact ⟨rfl, h⟩

theorem Quiet.bind {p : Deploy Bytes α} {next : α → Deploy Bytes β} {between : α → Prop} {returns : β → Prop}
    (h : Quiet file p disk between) (hnext : ∀ value, between value → Quiet file (next value) disk returns) :
    Quiet file (p >>= next) disk returns := by
  rw [Quiet, ensures_bind]
  refine Ensures.mono h (fun _ hs => hs) (fun value s hs => ?_) fun _ _ hs => hs
  obtain ⟨rfl, hvalue⟩ := hs
  exact hnext value hvalue

theorem quiet_inspect_bind {look : Disk Bytes → α} {next : α → Deploy Bytes β} {returns : β → Prop}
    (h : Quiet file (next (look disk)) disk returns) : Quiet file (inspect look >>= next) disk returns := by
  rwa [Quiet, ensures_bind, ensures_inspect]

theorem quiet_require_bind {condition : Prop} [Decidable condition] {fault : DeployFault}
    {next : Unit → Deploy Bytes β} {returns : β → Prop} (h : condition) (hnext : Quiet file (next ()) disk returns) :
    Quiet file (check (require condition fault) >>= next) disk returns := by
  rwa [Quiet, ensures_bind, ensures_require, if_pos h]

theorem ensures_quarantine (hfile : disk.journal = some file) {during : Disk Bytes → Prop}
    {returns : Unit → Disk Bytes → Prop} {throws : DeployFault → Disk Bytes → Prop} :
    QuarantineActivationJournal.Ensures disk during returns throws
      ↔ during (disk.quarantine file) ∧ returns () (disk.quarantine file) := by
  rw [QuarantineActivationJournal, ensures_bind, ensures_inspect, hfile]
  simp only [ensures_write]
  rfl

theorem quiet_quarantineSwap (hfile : disk.journal = some file) (reason : String) {returns : α → Prop} :
    Quiet file (QuarantineReleaseRootSwap reason : Deploy Bytes α) disk returns := by
  rw [QuarantineReleaseRootSwap, Quiet, ensures_bind, ensures_quarantine hfile]
  rw [ensures_throw]
  exact ⟨rfl, rfl⟩

/-- The hash of a slot that can be read: none where the slot is empty. -/
def RootSlot.hash : RootSlot → Option Sha256
  | .tree fingerprint => some fingerprint
  | _ => none

theorem quiet_slotHash (hfile : disk.journal = some file) {path : RootPath} (slot : String)
    (hreadable : disk.slot host context path ≠ .unreadable) :
    Quiet file (ReleaseRootSlotHash host context path slot) disk fun hash =>
      hash = (disk.slot host context path).hash ∧ disk.slot host context path ≠ .file := by
  rw [ReleaseRootSlotHash]
  refine quiet_inspect_bind ?_
  rw [Disk.slot] at hreadable ⊢
  cases hentry : disk.roots path with
  | none => exact quiet_pure ⟨rfl, by simp⟩
  | some entry =>
    cases entry with
    | file => exact quiet_quarantineSwap hfile _
    | directory tree =>
      rw [hentry] at hreadable
      cases hhash : ReleaseTreeSha256 host context path tree with
      | error fault => simp [hhash] at hreadable
      | ok fingerprint =>
        rw [Quiet, ensures_map, hhash, ensures_check_ok]
        exact ⟨rfl, by simp [hhash, RootSlot.hash], by simp [hhash]⟩

theorem quiet_requireSlot (hfile : disk.journal = some file) (slot : String) {actual : RootSlot}
    (hreadable : actual ≠ .unreadable) (hdirectory : actual ≠ .file) (allowed : List (Option Sha256)) :
    Quiet file (RequireReleaseRootSlot slot actual.hash allowed) disk fun _ => actual.Allowed allowed := by
  rw [RequireReleaseRootSlot]
  split
  · next hallowed =>
    refine quiet_pure ?_
    cases actual with
    | absent => exact .inl rfl
    | file => exact absurd rfl hdirectory
    | unreadable => exact absurd rfl hreadable
    | tree fingerprint =>
      refine .inr ⟨fingerprint, rfl, ?_⟩
      simpa [RootSlot.hash, HashesEqual] using hallowed
  · exact quiet_quarantineSwap hfile _

theorem RootSlot.hash_isSome {slot : RootSlot} (hreadable : slot ≠ .unreadable) (hdirectory : slot ≠ .file) :
    slot.hash.isSome = true ↔ slot ≠ .absent := by
  cases slot <;> simp_all [RootSlot.hash]

theorem Disk.slot_eq_absent {path : RootPath} : disk.slot host context path = .absent ↔ disk.roots path = none := by
  rw [Disk.slot]
  split
  · simp_all
  · simp_all
  · split <;> simp_all

theorem quiet_clearReplacement (hfile : disk.journal = some file) {final failed : RootSlot}
    (hreadable : failed ≠ .unreadable) (hdirectory : failed ≠ .file)
    (hnone : final = .tree swap.afterTreeSha256 → swap.beforeTreeSha256 ≠ some swap.afterTreeSha256 →
      failed ≠ .absent) :
    Quiet file (clearReplacement swap final.hash failed.hash) disk fun cleared =>
      cleared = final.hash ∧ (final = .tree swap.afterTreeSha256 → swap.beforeTreeSha256 = some swap.afterTreeSha256) := by
  rw [clearReplacement]
  split
  · next hcase =>
    simp only [Bool.and_eq_true, Bool.not_eq_true', beq_eq_false_iff_ne, ne_eq, HashesEqual, beq_iff_eq] at hcase
    obtain ⟨⟨_, _, hafter⟩, hdifferent⟩ := hcase
    have hfinal : final = .tree swap.afterTreeSha256 := by
      cases final <;> simp_all [RootSlot.hash]
    rw [if_pos ((RootSlot.hash_isSome hreadable hdirectory).2 (hnone hfinal hdifferent))]
    exact quiet_quarantineSwap hfile _
  · next hcase =>
    refine quiet_pure ⟨rfl, fun hfinal => ?_⟩
    by_contra hdifferent
    refine hcase ?_
    simp [hfinal, RootSlot.hash, HashesEqual, Ne.symm hdifferent, hdifferent]

theorem quiet_restorePrevious (hfile : disk.journal = some file) {finalIsAfter : Bool} {failed : RootSlot}
    (hrecognized : (disk.slot host context swap.finalPath).Allowed [swap.beforeTreeSha256, some swap.afterTreeSha256])
    (hcleared : disk.slot host context swap.finalPath = .tree swap.afterTreeSha256 →
      swap.beforeTreeSha256 = some swap.afterTreeSha256)
    (hnone : ∀ before, swap.beforeTreeSha256 = some before → disk.slot host context swap.finalPath = .absent →
      disk.slot host context swap.displacedPath ≠ .tree before) :
    Quiet file (restorePrevious host context swap finalIsAfter (disk.slot host context swap.finalPath).hash
      (disk.slot host context swap.displacedPath).hash failed.hash) disk fun restored =>
        restored = (disk.slot host context swap.finalPath).hash ∧ FinalRestored host context disk swap := by
  rw [restorePrevious, FinalRestored]
  cases hbefore : swap.beforeTreeSha256 with
  | some before =>
    by_cases hkept : disk.slot host context swap.finalPath = .tree before
    · have hequal : HashesEqual (some before) (some before) = true := by simp [HashesEqual]
      rw [hkept, RootSlot.hash, hequal]
      exact quiet_pure ⟨rfl, rfl⟩
    · have hfinal : disk.slot host context swap.finalPath = .absent := by
        rcases hrecognized with habsent | ⟨fingerprint, htree, hmem⟩
        · exact habsent
        · have hsame : fingerprint = before ∨ fingerprint = swap.afterTreeSha256 := by
            simpa [hbefore] using hmem
          rcases hsame with rfl | rfl
          · exact absurd htree hkept
          · have hidentical := hcleared htree
            rw [hbefore, Option.some.injEq] at hidentical
            rw [hidentical] at hkept
            exact absurd htree hkept
      have hdisplaced : HashesEqual (disk.slot host context swap.displacedPath).hash (some before) = false := by
        have hother := hnone before hbefore hfinal
        cases hslot : disk.slot host context swap.displacedPath <;> simp_all [RootSlot.hash, HashesEqual]
      have hempty : HashesEqual RootSlot.absent.hash (some before) = false := rfl
      rw [hfinal, hempty, hdisplaced]
      exact quiet_quarantineSwap hfile _
  | none =>
    have hfinal : disk.slot host context swap.finalPath = .absent := by
      rcases hrecognized with habsent | ⟨fingerprint, htree, hmem⟩
      · exact habsent
      · have hafter : fingerprint = swap.afterTreeSha256 := by simpa [hbefore] using hmem
        rw [hafter] at htree
        have hidentical := hcleared htree
        simp [hbefore] at hidentical
    rw [hfinal]
    exact quiet_pure ⟨rfl, rfl⟩

theorem quiet_clearStaging (hfile : disk.journal = some file)
    (hrecognized : (disk.slot host context swap.stagingPath).Allowed [some swap.afterTreeSha256])
    (hnone : disk.slot host context swap.stagingPath = .tree swap.afterTreeSha256 →
      disk.slot host context swap.failedPath ≠ .absent) :
    Quiet file (clearStaging swap) disk fun _ => True := by
  rw [clearStaging]
  refine quiet_inspect_bind ?_
  cases hentry : disk.roots swap.stagingPath with
  | none => exact quiet_pure trivial
  | some entry =>
    cases entry with
    | file => exact quiet_pure trivial
    | directory tree =>
      have hstaging : disk.slot host context swap.stagingPath = .tree swap.afterTreeSha256 := by
        rcases hrecognized with habsent | ⟨fingerprint, htree, hmem⟩
        · rw [Disk.slot_eq_absent, hentry] at habsent
          cases habsent
        · rw [htree, Option.some.inj (List.mem_singleton.1 hmem)]
      have hfailed : (disk.roots swap.failedPath).isSome = true := by
        rw [Option.isSome_iff_ne_none]
        exact fun habsent => hnone hstaging (Disk.slot_eq_absent.2 habsent)
      refine quiet_inspect_bind ?_
      rw [if_pos hfailed]
      exact quiet_quarantineSwap hfile _

theorem quiet_recoverSwap (hfile : disk.journal = some file)
    (hfinal : disk.slot host context swap.finalPath ≠ .unreadable)
    (hstaging : disk.slot host context swap.stagingPath ≠ .unreadable)
    (hfailed : disk.slot host context swap.failedPath ≠ .unreadable)
    (hrest : RootsAtRest host context disk swap) :
    Quiet file (RecoverReleaseRootSwap host context swap) disk fun _ => True := by
  rw [RecoverReleaseRootSwap]
  refine (quiet_slotHash hfile "final" hfinal).bind fun finalHash ⟨hfinalHash, hfinalDirectory⟩ => ?_
  refine (quiet_slotHash hfile "staging" hstaging).bind fun stagingHash ⟨hstagingHash, hstagingDirectory⟩ => ?_
  have hdisplaced : disk.slot host context swap.displacedPath ≠ .unreadable := by
    intro hunreadable
    rcases hrest.readable hunreadable with hfile' | hfile'
    · exact hfinalDirectory hfile'
    · exact hstagingDirectory hfile'
  refine (quiet_slotHash hfile "displaced" hdisplaced).bind fun displacedHash ⟨hdisplacedHash, hdisplacedDirectory⟩ => ?_
  refine (quiet_slotHash hfile "failed" hfailed).bind fun failedHash ⟨hfailedHash, hfailedDirectory⟩ => ?_
  rw [hfinalHash, hstagingHash, hdisplacedHash, hfailedHash]
  refine (quiet_requireSlot hfile "final" hfinal hfinalDirectory _).bind fun _ hfinalAllowed => ?_
  refine (quiet_requireSlot hfile "staging" hstaging hstagingDirectory _).bind fun _ hstagingAllowed => ?_
  refine (quiet_requireSlot hfile "displaced" hdisplaced hdisplacedDirectory _).bind fun _ hdisplacedAllowed => ?_
  refine (quiet_requireSlot hfile "failed" hfailed hfailedDirectory _).bind fun _ hfailedAllowed => ?_
  have hnone : ¬ MoveDue host context disk swap :=
    hrest.rest ⟨hfinalAllowed, hstagingAllowed, hdisplacedAllowed, hfailedAllowed⟩
  refine (quiet_clearReplacement hfile hfailed hfailedDirectory fun hafter hdifferent habsent =>
    hnone (.inl ⟨hafter, hdifferent, habsent⟩)).bind fun cleared ⟨hcleared, hidentical⟩ => ?_
  rw [hcleared]
  refine (quiet_restorePrevious hfile hfinalAllowed hidentical fun before hbefore habsent hdisplaced =>
    hnone (.inr (.inl ⟨before, hbefore, habsent, hdisplaced⟩))).bind fun restored ⟨hrestored, hprevious⟩ => ?_
  have hlast : Quiet file (clearStaging swap : Deploy Bytes Unit) disk fun _ => True :=
    quiet_clearStaging hfile hstagingAllowed fun hstaged habsent => hnone (.inr (.inr ⟨hprevious, hstaged, habsent⟩))
  rw [hrestored]
  rw [FinalRestored] at hprevious
  cases hbefore : swap.beforeTreeSha256 with
  | some before =>
    rw [hbefore] at hprevious
    have hequal : HashesEqual (disk.slot host context swap.finalPath).hash (some before) = true := by
      simp [hprevious, RootSlot.hash, HashesEqual]
    exact quiet_require_bind hequal hlast
  | none =>
    rw [hbefore] at hprevious
    have hempty : (disk.roots swap.finalPath).isNone = true := by
      rw [Disk.slot_eq_absent.1 hprevious]
      rfl
    refine quiet_inspect_bind ?_
    exact quiet_require_bind hempty hlast

end quiet

section moves

variable {host : DeploymentHost Bytes} {context : DeploymentContext} {disk : Disk Bytes}
  {swap : ActivationJournalReleaseRootSwap} {α β : Type} {during : Disk Bytes → Prop}
  {returns : β → Disk Bytes → Prop} {throws : DeployFault → Disk Bytes → Prop}

theorem RootSlot.Allowed.readable {slot : RootSlot} {allowed : List (Option Sha256)} (h : slot.Allowed allowed) :
    slot ≠ .unreadable ∧ slot ≠ .file := by
  rcases h with rfl | ⟨fingerprint, rfl, _⟩ <;> simp

theorem ensures_slotHash_bind {path : RootPath} {slot : String} {next : Option Sha256 → Deploy Bytes β}
    (hreadable : disk.slot host context path ≠ .unreadable) (hdirectory : disk.slot host context path ≠ .file)
    (hnext : (next (disk.slot host context path).hash).Ensures disk during returns throws) :
    (ReleaseRootSlotHash host context path slot >>= next).Ensures disk during returns throws := by
  rw [ReleaseRootSlotHash, ensures_bind, ensures_bind, ensures_inspect]
  rw [Disk.slot] at hreadable hdirectory hnext
  cases hentry : disk.roots path with
  | none =>
    rw [hentry] at hnext
    exact (ensures_pure _).2 hnext
  | some entry =>
    cases entry with
    | file => simp [hentry] at hdirectory
    | directory tree =>
      rw [hentry] at hreadable hnext
      cases hhash : ReleaseTreeSha256 host context path tree with
      | error fault => simp [hhash] at hreadable
      | ok fingerprint =>
        rw [ensures_map, hhash, ensures_check_ok]
        simpa [hhash, RootSlot.hash] using hnext

theorem ensures_requireSlot_bind {slot : String} {actual : RootSlot} {allowed : List (Option Sha256)}
    {next : Unit → Deploy Bytes β} (hallowed : actual.Allowed allowed)
    (hnext : (next ()).Ensures disk during returns throws) :
    (RequireReleaseRootSlot slot actual.hash allowed >>= next).Ensures disk during returns throws := by
  have hpasses : actual.hash = none ∨ allowed.any (HashesEqual actual.hash) = true := by
    rcases hallowed with rfl | ⟨fingerprint, rfl, hmem⟩
    · exact .inl rfl
    · refine .inr (List.any_eq_true.2 ⟨_, hmem, ?_⟩)
      simp [RootSlot.hash, HashesEqual]
  rw [RequireReleaseRootSlot, ensures_bind, if_pos hpasses]
  exact (ensures_pure _).2 hnext

theorem ensures_recoverSwap {returns : Unit → Disk Bytes → Prop} (hslots : SlotsRecognized host context disk swap)
    (h : Program.Ensures (do
      let cleared ← clearReplacement swap (disk.slot host context swap.finalPath).hash
        (disk.slot host context swap.failedPath).hash
      let restored ← restorePrevious host context swap
        (HashesEqual (disk.slot host context swap.finalPath).hash (some swap.afterTreeSha256)) cleared
        (disk.slot host context swap.displacedPath).hash (disk.slot host context swap.failedPath).hash
      if swap.beforeTreeSha256.isSome then
        check (require (HashesEqual restored swap.beforeTreeSha256)
          (IOException "Interrupted release-root recovery did not restore the previous tree exactly."))
      else
        check (require ((← inspect fun disk => (disk.roots swap.finalPath).isNone) = true)
          (IOException "Interrupted release-root recovery did not restore the previous absent final path."))
      clearStaging swap) disk during returns throws) :
    (RecoverReleaseRootSwap host context swap).Ensures disk during returns throws := by
  rw [RecoverReleaseRootSwap]
  refine ensures_slotHash_bind hslots.final.readable.1 hslots.final.readable.2 ?_
  refine ensures_slotHash_bind hslots.staging.readable.1 hslots.staging.readable.2 ?_
  refine ensures_slotHash_bind hslots.displaced.readable.1 hslots.displaced.readable.2 ?_
  refine ensures_slotHash_bind hslots.failed.readable.1 hslots.failed.readable.2 ?_
  refine ensures_requireSlot_bind hslots.final ?_
  refine ensures_requireSlot_bind hslots.staging ?_
  refine ensures_requireSlot_bind hslots.displaced ?_
  exact ensures_requireSlot_bind hslots.failed h

end moves

section occupied

variable {host : DeploymentHost Bytes} {context : DeploymentContext} {disk : Disk Bytes}
  {swap : ActivationJournalReleaseRootSwap} {path : RootPath}

/-- Something is in a slot. -/
def Disk.Occupied (path : RootPath) (disk : Disk Bytes) : Prop := (disk.roots path).isSome = true

theorem Disk.Occupied.of_roots {s s' : Disk Bytes} (h : s.Occupied path) (hroots : s'.roots = s.roots) :
    s'.Occupied path := by
  rw [Disk.Occupied, hroots]
  exact h

theorem keeps_occupied_moveRoot {source destination : RootPath} (hsource : source ≠ path) (h : disk.Occupied path) :
    Keeps (Disk.Occupied path) (moveRoot source destination) disk := by
  rw [moveRoot]
  refine keeps_inspect_bind ?_
  split
  · refine keeps_write ?_
    by_cases hdestination : path = destination
    · simp [Disk.Occupied, hdestination]
    · simpa [Disk.Occupied, Function.update_of_ne hdestination, Function.update_of_ne hsource.symm] using h
  · exact keeps_throw h

theorem ensures_occupied_moveRoot {source destination : RootPath} {fingerprint : Sha256} {during : Disk Bytes → Prop}
    (hsource : disk.slot host context source = .tree fingerprint)
    (hdestination : disk.slot host context destination = .absent)
    (hduring : ∀ s : Disk Bytes, s.Occupied destination → during s)
    {returns : Unit → Disk Bytes → Prop} {throws : DeployFault → Disk Bytes → Prop}
    (hreturns : ∀ s : Disk Bytes, s.Occupied destination → returns () s) :
    (moveRoot source destination).Ensures disk during returns throws := by
  rw [Disk.slot_eq_absent] at hdestination
  rw [moveRoot, ensures_bind, ensures_inspect, hdestination]
  rw [Disk.slot] at hsource
  cases hentry : disk.roots source with
  | none => simp [hentry] at hsource
  | some entry =>
    cases entry with
    | file => simp [hentry] at hsource
    | directory tree =>
      rw [ensures_write]
      exact ⟨hduring _ (by simp [Disk.Occupied]), hreturns _ (by simp [Disk.Occupied])⟩

theorem keeps_occupied_quarantine (h : disk.Occupied path) :
    Keeps (Disk.Occupied path) QuarantineActivationJournal disk := by
  rw [QuarantineActivationJournal]
  refine keeps_inspect_bind ?_
  split
  · exact keeps_pure h
  · exact keeps_write (h.of_roots rfl)

theorem keeps_occupied_quarantineSwap {α : Type} {reason : String} (h : disk.Occupied path) :
    Keeps (Disk.Occupied path) (QuarantineReleaseRootSwap reason : Deploy Bytes α) disk := by
  rw [QuarantineReleaseRootSwap]
  exact (keeps_occupied_quarantine h).bind fun _ _ hs => keeps_throw hs

theorem keeps_occupied_slotHash {read : RootPath} {slot : String} (h : disk.Occupied path) :
    Keeps (Disk.Occupied path) (ReleaseRootSlotHash host context read slot) disk := by
  rw [ReleaseRootSlotHash]
  refine keeps_inspect_bind ?_
  split
  · exact keeps_pure h
  · exact keeps_occupied_quarantineSwap h
  · refine Keeps.map ?_
    cases ReleaseTreeSha256 host context read _ with
    | ok fingerprint => exact (ensures_check_ok _).2 h
    | error fault => exact (ensures_check_error _).2 h

theorem keeps_occupied_restorePrevious {finalIsAfter : Bool} {finalHash displacedHash failedHash : Option Sha256}
    (hdisplaced : swap.displacedPath ≠ path) (hfinal : swap.finalPath ≠ path) (h : disk.Occupied path) :
    Keeps (Disk.Occupied path)
      (restorePrevious host context swap finalIsAfter finalHash displacedHash failedHash) disk := by
  rw [restorePrevious]
  split
  · split
    · exact keeps_occupied_quarantineSwap h
    · refine keeps_inspect_bind ?_
      split
      · exact keeps_occupied_quarantineSwap h
      · exact (keeps_occupied_moveRoot hdisplaced h).bind fun _ _ hs => keeps_occupied_slotHash hs
  · split
    · split
      · exact keeps_occupied_quarantineSwap h
      · split
        · exact keeps_occupied_quarantineSwap h
        · exact (keeps_occupied_moveRoot hfinal h).bind fun _ _ hs => keeps_pure hs
    · exact keeps_pure h

theorem keeps_occupied_clearStaging (hstaging : swap.stagingPath ≠ path) (h : disk.Occupied path) :
    Keeps (Disk.Occupied path) (clearStaging swap) disk := by
  rw [clearStaging]
  refine keeps_inspect_bind ?_
  split
  · refine keeps_inspect_bind ?_
    split
    · exact keeps_occupied_quarantineSwap h
    · exact keeps_occupied_moveRoot hstaging h
  · exact keeps_pure h

theorem keeps_occupied_casWrite {control : ControlPath} {contents : Bytes} {expected : Option Sha256}
    (h : disk.Occupied path) : Keeps (Disk.Occupied path) (CasWrite host control contents expected) disk := by
  rw [CasWrite]
  refine keeps_inspect_bind ?_
  cases expected with
  | none => exact keeps_check_bind h fun _ _ => keeps_write (h.of_roots rfl)
  | some expected => exact keeps_check_bind h fun _ _ => keeps_write (h.of_roots rfl)

theorem keeps_occupied_casDelete {control : ControlPath} {expected : Option Sha256}
    (h : disk.Occupied path) : Keeps (Disk.Occupied path) (CasDelete host control expected) disk := by
  rw [CasDelete]
  refine keeps_inspect_bind ?_
  cases expected with
  | none =>
    by_cases habsent : disk.fingerprint host control = none
    · rw [require_of habsent]
      exact (ensures_check_ok _).2 h
    · rw [require_eq_error.2 ⟨habsent, rfl⟩]
      exact (ensures_check_error _).2 h
  | some expected => exact keeps_check_bind h fun _ _ => keeps_write (h.of_roots rfl)

theorem keeps_occupied_restoreControls {controls : List (ActivationJournalControl Bytes)} (h : disk.Occupied path) :
    Keeps (Disk.Occupied path) (restoreControls host controls) disk := by
  induction controls generalizing disk with
  | nil => exact keeps_pure h
  | cons control rest ih =>
    rw [restoreControls]
    refine Keeps.bind ?_ fun _ s hs => ih hs
    rw [restoreControl]
    refine keeps_inspect_bind ?_
    split
    · exact keeps_pure h
    · split
      · exact keeps_occupied_casWrite h
      · exact keeps_occupied_casDelete h

end occupied

section blocked

variable {host : DeploymentHost Bytes} {context : DeploymentContext} {disk : Disk Bytes}
  {swap : ActivationJournalReleaseRootSwap}

/-- The four slots of a transaction are four places. -/
structure DistinctSlots (swap : ActivationJournalReleaseRootSwap) : Prop where
  staging_final : swap.stagingPath ≠ swap.finalPath
  staging_failed : swap.stagingPath ≠ swap.failedPath
  displaced_failed : swap.displacedPath ≠ swap.failedPath
  final_failed : swap.finalPath ≠ swap.failedPath

theorem distinctSlots_of_valid {transactionId : Guid} (h : ValidateReleaseRootSwap context transactionId swap = .ok ()) :
    DistinctSlots swap := by
  rw [ValidateReleaseRootSwap, check_bind_eq_ok] at h
  obtain ⟨_, h⟩ := h
  cases hfinal : swap.finalPath with
  | release version =>
    rw [hfinal] at h
    simp only [check_bind_eq_ok, require_eq_ok] at h
    obtain ⟨_, hstaging, hdisplaced, hfailed⟩ := h
    constructor <;> simp [hfinal, hstaging, hdisplaced, hfailed]
  | staging version id => simp [hfinal] at h
  | replaced version id => simp [hfinal] at h
  | failed version id => simp [hfinal] at h

theorem recoverSwap_occupies (hdistinct : DistinctSlots swap) (hslots : SlotsRecognized host context disk swap)
    (hdue : MoveDue host context disk swap) :
    ∃ path, disk.roots path = none ∧ (RecoverReleaseRootSwap host context swap).Ensures disk (fun _ => True)
      (fun _ => Disk.Occupied path) fun _ => Disk.Occupied path := by
  rcases hdue with ⟨hafter, hdifferent, hfailed⟩ | ⟨before, hbefore, hfinal, hdisplaced⟩ | ⟨hrestored, hstaging, hfailed⟩
  · refine ⟨swap.failedPath, Disk.slot_eq_absent.1 hfailed, ensures_recoverSwap hslots ?_⟩
    rw [hafter, hfailed, clearReplacement, ensures_bind]
    have hmove : (!HashesEqual (RootSlot.tree swap.afterTreeSha256).hash swap.beforeTreeSha256
        && HashesEqual (RootSlot.tree swap.afterTreeSha256).hash (some swap.afterTreeSha256)
        && !swap.beforeTreeSha256 == some swap.afterTreeSha256) = true := by
      simp [RootSlot.hash, HashesEqual, hdifferent, Ne.symm hdifferent]
    rw [if_pos hmove, if_neg (by simp [RootSlot.hash]), ensures_bind]
    refine ensures_occupied_moveRoot hafter hfailed (fun _ _ => trivial) fun s hs => ?_
    rw [ensures_pure, ensures_bind]
    refine Ensures.mono (keeps_occupied_restorePrevious hdistinct.displaced_failed hdistinct.final_failed hs)
      (fun _ _ => trivial) (fun restored t ht => ?_) fun _ _ ht => ht
    refine Keeps.last ?_
    split
    · exact keeps_check_bind ht fun _ _ => keeps_occupied_clearStaging hdistinct.staging_failed ht
    · refine keeps_inspect_bind ?_
      exact keeps_check_bind ht fun _ _ => keeps_occupied_clearStaging hdistinct.staging_failed ht
  · refine ⟨swap.finalPath, Disk.slot_eq_absent.1 hfinal, ensures_recoverSwap hslots ?_⟩
    rw [hfinal, hdisplaced, hbefore, clearReplacement, ensures_bind]
    simp only [RootSlot.hash, HashesEqual, Option.isSome_none, Bool.false_and, Bool.and_false]
    rw [if_neg (by simp), ensures_pure, restorePrevious, ensures_bind, hbefore]
    have hclear : (disk.roots swap.finalPath).isSome = false := by rw [Disk.slot_eq_absent.1 hfinal]; rfl
    rw [if_pos (by simp [HashesEqual]), if_neg (by simp [HashesEqual]), ensures_bind, ensures_inspect, hclear,
      if_neg (by simp), ensures_bind]
    refine ensures_occupied_moveRoot hdisplaced hfinal (fun _ _ => trivial) fun s hs => ?_
    refine Ensures.mono (keeps_occupied_slotHash hs) (fun _ _ => trivial) (fun restored t ht => ?_) fun _ _ ht => ht
    refine Keeps.last ?_
    exact keeps_check_bind ht fun _ _ => keeps_occupied_clearStaging hdistinct.staging_final ht
  · refine ⟨swap.failedPath, Disk.slot_eq_absent.1 hfailed, ensures_recoverSwap hslots ?_⟩
    have hclear : (disk.roots swap.failedPath).isSome = false := by rw [Disk.slot_eq_absent.1 hfailed]; rfl
    have hlast : (clearStaging swap).Ensures disk (fun _ => True) (fun _ => Disk.Occupied swap.failedPath)
        fun _ => Disk.Occupied swap.failedPath := by
      rw [clearStaging, ensures_bind, ensures_inspect]
      split
      · rw [ensures_bind, ensures_inspect, hclear, if_neg (by simp)]
        exact ensures_occupied_moveRoot hstaging hfailed (fun _ _ => trivial) fun _ hs => hs
      · next hnone =>
        rw [Disk.slot] at hstaging
        split at hstaging <;> simp_all
    rw [FinalRestored] at hrestored
    cases hbefore : swap.beforeTreeSha256 with
    | some before =>
      rw [hbefore] at hrestored
      have hequal : HashesEqual (some before) (some before) = true := by simp [HashesEqual]
      rw [hrestored, clearReplacement, hbefore, RootSlot.hash, hequal, ensures_bind, if_neg (by simp), ensures_pure,
        ensures_bind, restorePrevious, hbefore, hequal, if_neg (by simp), if_neg (by simp), ensures_pure]
      dsimp only
      rw [if_pos (by simp), hequal, ensures_bind, ensures_require, if_pos rfl]
      exact hlast
    | none =>
      rw [hbefore] at hrestored
      have hempty : (disk.roots swap.finalPath).isNone = true := by rw [Disk.slot_eq_absent.1 hrestored]; rfl
      have hnothing : HashesEqual none (some swap.afterTreeSha256) = false := rfl
      have hhash : RootSlot.absent.hash = none := rfl
      rw [hrestored, clearReplacement, hbefore, hhash, hnothing, ensures_bind, if_neg (by simp), ensures_pure,
        ensures_bind, restorePrevious, hbefore, if_neg (by simp), if_neg (by simp), ensures_pure]
      dsimp only
      rw [if_neg (by simp), ensures_bind, ensures_inspect, hempty, ensures_bind, ensures_require, if_pos rfl]
      exact hlast

end blocked

end revit_operator.operator_deploy
