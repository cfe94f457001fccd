import Mathlib.Algebra.BigOperators.Group.List.Basic
import RevitOperator.Library.Checked
import RevitOperator.Library.Text

open checked

/-! The pool of runtime images: entries are staged, leased, pinned and evicted under one
    lock. Times are ticks since 1601, the time of a file that is missing. -/

namespace revit_operator.dynamic_sandbox

def MaximumBytes : Nat := 2 * 1024 * 1024 * 1024

/-- `MaximumDependencyBytes`, and the reserve of the pool for an image to come. -/
def MaximumImageBytes : Nat := 256 * 1024 * 1024

/-- The size of a staged image. -/
abbrev ImageBytes := { bytes : Nat // bytes ≤ MaximumImageBytes }

/-- A lease file. It is locked while its process holds it open. -/
structure LeaseFile where
  serial : Nat
  locked : Bool
deriving DecidableEq

/-- A directory of the pool; `retain` is the size of its marker. -/
structure Entry where
  identity : String
  image : Option ImageBytes
  manifestTime : Int
  leases : List LeaseFile
  retain : Option Nat
deriving DecidableEq

/-- The directories in the order of their enumeration. -/
abbrev Pool := List Entry

inductive Fault where
  | ioException
  | invalidOperation
  | invalidData
deriving DecidableEq

section prune

def Entry.imageBytes (entry : Entry) : Nat := entry.image.elim 0 Subtype.val

def Entry.markerBytes (entry : Entry) : Nat := entry.retain.getD 0

/-- `TaskRetention.DirectoryBytes`; lease files are empty. -/
def DirectoryBytes (entry : Entry) : Nat := entry.imageBytes + entry.markerBytes

def GetLastWriteTimeUtc (entry : Entry) : Int := if entry.image.isSome then entry.manifestTime else 0

def sevenDays : Int := 7 * 24 * 3600 * 10000000

/-- Lease files without a lock are deleted. -/
def sweep (entry : Entry) : Entry := { entry with leases := entry.leases.filter LeaseFile.locked }

def Entry.active (entry : Entry) : Bool := entry.leases.any LeaseFile.locked

/-- A live lease or a marker protects an entry. -/
def Entry.isProtected (entry : Entry) : Bool := entry.active || entry.retain.isSome

/-- What the walk over the entries has kept. -/
structure Walk where
  kept : List Entry
  retained : Nat
  retainedBytes : Nat

/-- The entry is not protected, and it is old or over the budget of the walk. -/
def evicts (now : Int) (reserveEntry : Bool) (walk : Walk) (entry : Entry) : Bool :=
  let expired := decide (sevenDays < now - GetLastWriteTimeUtc entry)
  let full := decide ((if reserveEntry then 7 else 8) ≤ walk.retained)
  let heavy := decide (MaximumBytes - (if reserveEntry then MaximumImageBytes else 0)
    < walk.retainedBytes + DirectoryBytes entry)
  !entry.active && !entry.retain.isSome && (expired || full || heavy)

/-- One turn of the loop of `PruneLocked`. -/
def visit (now : Int) (reserveEntry : Bool) (walk : Walk) (entry : Entry) : Walk :=
  if evicts now reserveEntry walk entry then walk
  else ⟨walk.kept ++ [entry], walk.retained + 1, walk.retainedBytes + DirectoryBytes entry⟩

/-- The latest first. -/
def byRecency (pool : Pool) : Pool :=
  pool.insertionSort fun a b => GetLastWriteTimeUtc b ≤ GetLastWriteTimeUtc a

/-- The walk over the entries after their lease files were swept. -/
def walkPool (now : Int) (reserveEntry : Bool) (pool : Pool) : Walk :=
  (byRecency (pool.map sweep)).foldl (visit now reserveEntry) ⟨[], 0, 0⟩

/-- The pool afterwards, and whether the call returns. -/
def PruneLocked (pool : Pool) (now : Int) (reserveEntry : Bool) : Pool × Except Fault Unit :=
  let walk := walkPool now reserveEntry pool
  ((pool.map sweep).filter (· ∈ walk.kept), require (walk.retainedBytes ≤ MaximumBytes) .ioException)

end prune

section acquire

/-- How the staging of an image ends. -/
inductive Staging where
  | noHeadroom
  | fails
  | moveFails
  | staged (bytes : ImageBytes) (time : Int)

/-- One `Acquire` call: the clock, the checks of the references and of the image, the
    identity that was computed, and the name of the lease file. -/
structure AcquireCall where
  now : Int
  references : Except Fault Unit
  identity : String
  staging : Staging
  opened : Except Fault Unit
  serial : Nat
  utcNow : Int

/-- Change the entry of an identity. -/
def update (identity : String) (change : Entry → Entry) (pool : Pool) : Pool :=
  pool.map fun entry => if entry.identity = identity then change entry else entry

/-- `runtime-image.manifest.json` is published: open the image and lease it. -/
def lease (pool : Pool) (entry : Entry) (call : AcquireCall) : Pool × Except Fault Unit :=
  match call.opened with
  | .error fault => (pool, .error fault)
  | .ok _ =>
    if entry.leases.any fun file => file.serial = call.serial then (pool, .error .ioException)
    else
      (update entry.identity (fun entry =>
        { entry with leases := entry.leases ++ [⟨call.serial, true⟩], manifestTime := call.utcNow }) pool, .ok ())

/-- Stage an image and move it into the place of an empty entry. -/
def stage (pool : Pool) (entry : Entry) (call : AcquireCall) : Pool × Except Fault Unit :=
  match call.staging with
  | .noHeadroom => (pool, .error .ioException)
  | .fails => (pool, .error .invalidData)
  | .moveFails =>
    -- a directory that is not empty is not deleted
    if entry.leases = [] ∧ entry.retain = none then
      (pool.filter fun other => other.identity ≠ entry.identity, .error .ioException)
    else (pool, .error .ioException)
  | .staged bytes time =>
    if entry.leases = [] ∧ entry.retain = none then
      let staged := { entry with image := some bytes, manifestTime := time }
      lease (update entry.identity (fun _ => staged) pool) staged call
    else (pool, .error .ioException)

/-- Lease the entry of an identity, staging its image where it has none. -/
def acquireEntry (pool : Pool) (entry : Entry) (call : AcquireCall) : Pool × Except Fault Unit :=
  if entry.image.isSome then lease pool entry call else stage pool entry call

def directoryName (identity : String) : String := text.dropFirst 7 identity

def wellFormed (identity : String) : Bool :=
  text.startsWith identity "sha256:" && text.length identity = 71
    && (directoryName identity).toList.all text.isHexAnyCase

def Acquire (pool : Pool) (call : AcquireCall) : Pool × Except Fault Unit :=
  match PruneLocked pool call.now true with
  | (pool, .error fault) => (pool, .error fault)
  | (pool, .ok _) =>
    match (do call.references; require (wellFormed call.identity) .invalidData) with
    | .error fault => (pool, .error fault)
    | .ok _ =>
      match pool.find? fun entry => entry.identity = directoryName call.identity with
      | some entry => acquireEntry pool entry call
      | none =>
        if 8 ≤ pool.length then (pool, .error .ioException)
        else acquireEntry (pool ++ [⟨directoryName call.identity, none, 0, [], none⟩])
          ⟨directoryName call.identity, none, 0, [], none⟩ call

end acquire

section runs

inductive Event where
  | acquire (call : AcquireCall)
  | dispose (identity : String) (serial : Nat)
  | crash (identity : String) (serial : Nat)
  | pin (identity : String) (bytes : Nat)
  | prune (now : Int) (reserveEntry : Bool)

def step (pool : Pool) : Event → Pool × Except Fault Unit
  | .acquire call => Acquire pool call
  | .dispose identity serial =>
    (update identity (fun entry => { entry with leases := entry.leases.filter (·.serial ≠ serial) }) pool, .ok ())
  | .crash identity serial =>
    (update identity (fun entry =>
      { entry with leases := entry.leases.map fun file =>
          if file.serial = serial then { file with locked := false } else file }) pool, .ok ())
  | .pin identity bytes => (update identity (fun entry => { entry with retain := some bytes }) pool, .ok ())
  | .prune now reserveEntry => PruneLocked pool now reserveEntry

/-- The pool after some events, from an empty directory. -/
def after (events : List Event) : Pool := events.foldl (fun pool event => (step pool event).1) []

end runs

section pruned

theorem sweep_active (entry : Entry) : (sweep entry).active = entry.active := by
  rw [Bool.eq_iff_iff]
  simp only [sweep, Entry.active, List.any_eq_true, List.mem_filter]
  constructor
  · rintro ⟨file, ⟨hfile, -⟩, hlocked⟩
    exact ⟨file, hfile, hlocked⟩
  · rintro ⟨file, hfile, hlocked⟩
    exact ⟨file, ⟨hfile, hlocked⟩, hlocked⟩

theorem sweep_isProtected (entry : Entry) : (sweep entry).isProtected = entry.isProtected := by
  rw [Entry.isProtected, sweep_active]
  rfl

/-- An entry is kept with its bytes counted, or it is passed over; the latter never
    happens to a protected one. -/
theorem visit_cases (now : Int) (reserveEntry : Bool) (walk : Walk) (entry : Entry) :
    visit now reserveEntry walk entry
        = ⟨walk.kept ++ [entry], walk.retained + 1, walk.retainedBytes + DirectoryBytes entry⟩
      ∨ (entry.isProtected = false ∧ visit now reserveEntry walk entry = walk) := by
  unfold visit
  split
  · next h =>
    refine .inr ⟨?_, rfl⟩
    simp only [evicts, Bool.and_eq_true, Bool.not_eq_true'] at h
    rw [Entry.isProtected, h.1.1, h.1.2]
    rfl
  · exact .inl rfl

/-- What a walk over some entries adds: some of them in their order, every protected one
    among them, with their number and their bytes. -/
theorem foldl_visit (now : Int) (reserveEntry : Bool) (entries : List Entry) (walk : Walk) :
    ∃ added, List.Sublist added entries ∧ (∀ entry ∈ entries, entry.isProtected = true → entry ∈ added)
      ∧ entries.foldl (visit now reserveEntry) walk
        = ⟨walk.kept ++ added, walk.retained + added.length,
            walk.retainedBytes + (added.map DirectoryBytes).sum⟩ := by
  induction entries generalizing walk with
  | nil => exact ⟨[], .slnil, List.forall_mem_nil _, by simp⟩
  | cons entry rest ih =>
    rw [List.foldl_cons]
    obtain ⟨added, hsublist, hprotected, hfold⟩ := ih (visit now reserveEntry walk entry)
    obtain hkept | ⟨hfree, hpassed⟩ := visit_cases now reserveEntry walk entry
    · refine ⟨entry :: added, hsublist.cons_cons entry, ?_, ?_⟩
      · intro other hother hkeep
        obtain rfl | hrest := List.mem_cons.1 hother
        · exact List.mem_cons_self ..
        · exact List.mem_cons_of_mem _ (hprotected other hrest hkeep)
      · rw [hfold, hkept]
        simp only [List.append_assoc, List.singleton_append, List.length_cons, List.map_cons, List.sum_cons,
          Walk.mk.injEq, true_and]
        omega
    · refine ⟨added, hsublist.cons entry, ?_, by rw [hfold, hpassed]⟩
      intro other hother hkeep
      obtain rfl | hrest := List.mem_cons.1 hother
      · rw [hfree] at hkeep
        cases hkeep
      · exact hprotected other hrest hkeep

theorem byRecency_perm (pool : Pool) : (byRecency pool).Perm pool := List.perm_insertionSort _ pool

theorem walkPool_spec (now : Int) (reserveEntry : Bool) (pool : Pool) :
    (walkPool now reserveEntry pool).kept.Subperm (pool.map sweep)
      ∧ (∀ entry ∈ pool, entry.isProtected = true → sweep entry ∈ (walkPool now reserveEntry pool).kept)
      ∧ (walkPool now reserveEntry pool).retained = (walkPool now reserveEntry pool).kept.length
      ∧ (walkPool now reserveEntry pool).retainedBytes
        = ((walkPool now reserveEntry pool).kept.map DirectoryBytes).sum := by
  obtain ⟨added, hsublist, hprotected, hfold⟩ :=
    foldl_visit now reserveEntry (byRecency (pool.map sweep)) ⟨[], 0, 0⟩
  have hwalk : walkPool now reserveEntry pool = ⟨added, added.length, (added.map DirectoryBytes).sum⟩ := by
    rw [walkPool, hfold]
    simp
  rw [hwalk]
  refine ⟨hsublist.subperm.trans (byRecency_perm _).subperm, fun entry hentry hkeep => ?_, rfl, rfl⟩
  refine hprotected _ ((byRecency_perm _).mem_iff.2 (List.mem_map_of_mem hentry)) ?_
  rw [sweep_isProtected, hkeep]

variable {entry : Entry} {pool : Pool}

theorem mem_PruneLocked (hentry : entry ∈ pool) (hkeep : entry.isProtected = true)
    (now : Int) (reserveEntry : Bool) : sweep entry ∈ (PruneLocked pool now reserveEntry).1 :=
  List.mem_filter.2 ⟨List.mem_map_of_mem hentry,
    decide_eq_true ((walkPool_spec now reserveEntry pool).2.1 entry hentry hkeep)⟩

theorem identities_PruneLocked (pool : Pool) (now : Int) (reserveEntry : Bool) :
    List.Sublist ((PruneLocked pool now reserveEntry).1.map Entry.identity) (pool.map Entry.identity) := by
  have hswept : (pool.map sweep).map Entry.identity = pool.map Entry.identity := by
    rw [List.map_map]
    rfl
  rw [← hswept]
  exact List.filter_sublist.map Entry.identity

end pruned

section spared

/-- Every protected entry is still there with its image. -/
def Spares (pool next : Pool) : Prop :=
  ∀ entry ∈ pool, entry.isProtected = true →
    ∃ kept ∈ next, kept.identity = entry.identity ∧ kept.image = entry.image

/-- As `Spares`, and what protects the entries protects them still. -/
def Guards (pool next : Pool) : Prop :=
  ∀ entry ∈ pool, entry.isProtected = true →
    ∃ kept ∈ next, kept.identity = entry.identity ∧ kept.image = entry.image ∧ kept.isProtected = true

theorem Guards.spares {next : Pool} (h : Guards pool next) : Spares pool next := by
  intro entry hentry hkeep
  obtain ⟨kept, hkept, hidentity, himage, -⟩ := h entry hentry hkeep
  exact ⟨kept, hkept, hidentity, himage⟩

theorem Guards.refl (pool : Pool) : Guards pool pool :=
  fun entry hentry hkeep => ⟨entry, hentry, rfl, rfl, hkeep⟩

theorem Guards.trans {mid next : Pool} (hfirst : Guards pool mid) (hlast : Guards mid next) :
    Guards pool next := by
  intro entry hentry hkeep
  obtain ⟨kept, hkept, hidentity, himage, hprotected⟩ := hfirst entry hentry hkeep
  obtain ⟨last, hlast, hidentity', himage', hprotected'⟩ := hlast kept hkept hprotected
  exact ⟨last, hlast, hidentity'.trans hidentity, himage'.trans himage, hprotected'⟩

theorem Guards.append (pool rest : Pool) : Guards pool (pool ++ rest) :=
  fun entry hentry hkeep => ⟨entry, List.mem_append_left _ hentry, rfl, rfl, hkeep⟩

theorem Guards.prune (pool : Pool) (now : Int) (reserveEntry : Bool) :
    Guards pool (PruneLocked pool now reserveEntry).1 :=
  fun entry hentry hkeep =>
    ⟨sweep entry, mem_PruneLocked hentry hkeep now reserveEntry, rfl, rfl, (sweep_isProtected entry).trans hkeep⟩

variable {change : Entry → Entry} {identity : String}

theorem Guards.update
    (hchange : ∀ entry ∈ pool, entry.identity = identity → entry.isProtected = true →
      (change entry).identity = entry.identity ∧ (change entry).image = entry.image
        ∧ (change entry).isProtected = true) :
    Guards pool (update identity change pool) := by
  intro entry hentry hkeep
  refine ⟨if entry.identity = identity then change entry else entry, List.mem_map_of_mem hentry, ?_⟩
  split
  · next hidentity => exact hchange entry hentry hidentity hkeep
  · exact ⟨rfl, rfl, hkeep⟩

theorem Spares.update
    (hchange : ∀ entry : Entry, (change entry).identity = entry.identity ∧ (change entry).image = entry.image) :
    Spares pool (update identity change pool) := by
  intro entry hentry _
  refine ⟨if entry.identity = identity then change entry else entry, List.mem_map_of_mem hentry, ?_⟩
  split
  · exact hchange entry
  · exact ⟨rfl, rfl⟩

theorem Guards.lease (pool : Pool) (entry : Entry) (call : AcquireCall) : Guards pool (lease pool entry call).1 := by
  unfold dynamic_sandbox.lease
  split
  · exact Guards.refl pool
  · split
    · exact Guards.refl pool
    · refine Guards.update fun other _ _ hkeep => ⟨rfl, rfl, ?_⟩
      simp [Entry.isProtected, Entry.active]

/-- The identities of a pool are distinct, and there are at most eight. -/
structure Sound (pool : Pool) : Prop where
  distinct : (pool.map Entry.identity).Nodup
  few : pool.length ≤ 8

theorem Sound.eq (h : Sound pool) {other : Entry} (hentry : entry ∈ pool) (hother : other ∈ pool)
    (hsame : entry.identity = other.identity) : entry = other :=
  List.inj_on_of_nodup_map h.distinct hentry hother hsame

theorem Sound.of_sublist {next : Pool} (h : Sound pool)
    (hsublist : List.Sublist (next.map Entry.identity) (pool.map Entry.identity)) : Sound next := by
  refine ⟨h.distinct.sublist hsublist, ?_⟩
  have hlength := hsublist.length_le
  rw [List.length_map, List.length_map] at hlength
  exact hlength.trans h.few

theorem update_identities
    (hchange : ∀ entry : Entry, entry.identity = identity → (change entry).identity = identity) (pool : Pool) :
    (update identity change pool).map Entry.identity = pool.map Entry.identity := by
  rw [update, List.map_map]
  refine List.map_congr_left fun entry _ => ?_
  simp only [Function.comp_apply]
  split
  · next h => exact (hchange entry h).trans h.symm
  · rfl

theorem lease_identities (pool : Pool) (entry : Entry) (call : AcquireCall) :
    ((lease pool entry call).1).map Entry.identity = pool.map Entry.identity := by
  unfold lease
  split
  · rfl
  · split
    · rfl
    · exact update_identities (by exact fun _ h => h) pool

theorem stage_identities (pool : Pool) (entry : Entry) (call : AcquireCall) :
    List.Sublist (((stage pool entry call).1).map Entry.identity) (pool.map Entry.identity) := by
  unfold stage
  split
  · exact List.Sublist.refl _
  · exact List.Sublist.refl _
  · split
    · exact List.filter_sublist.map Entry.identity
    · exact List.Sublist.refl _
  · split
    · rw [lease_identities, update_identities (by exact fun _ _ => rfl)]
    · exact List.Sublist.refl _

theorem acquireEntry_identities (pool : Pool) (entry : Entry) (call : AcquireCall) :
    List.Sublist (((acquireEntry pool entry call).1).map Entry.identity) (pool.map Entry.identity) := by
  unfold acquireEntry
  split
  · rw [lease_identities]
  · exact stage_identities pool entry call

theorem Guards.stage (hpool : Sound pool) (hentry : entry ∈ pool) (call : AcquireCall) :
    Guards pool (stage pool entry call).1 := by
  have hfree : entry.leases = [] ∧ entry.retain = none → entry.isProtected = false := by
    rintro ⟨hleases, hretain⟩
    simp [Entry.isProtected, Entry.active, hleases, hretain]
  unfold dynamic_sandbox.stage
  split
  · exact Guards.refl pool
  · exact Guards.refl pool
  · split
    · next hempty =>
      intro other hother hkeep
      refine ⟨other, List.mem_filter.2 ⟨hother, decide_eq_true fun hsame => ?_⟩, rfl, rfl, hkeep⟩
      rw [hpool.eq hother hentry hsame, hfree hempty] at hkeep
      cases hkeep
    · exact Guards.refl pool
  · split
    · next hempty =>
      refine Guards.trans (Guards.update fun other hother hsame hkeep => ?_) (Guards.lease _ _ call)
      rw [hpool.eq hother hentry hsame, hfree hempty] at hkeep
      cases hkeep
    · exact Guards.refl pool

theorem Guards.acquireEntry (hpool : Sound pool) (hentry : entry ∈ pool)
    (call : AcquireCall) : Guards pool (acquireEntry pool entry call).1 := by
  unfold dynamic_sandbox.acquireEntry
  split
  · exact Guards.lease pool entry call
  · exact Guards.stage hpool hentry call

theorem Sound.append (h : Sound pool) (hroom : pool.length < 8)
    (hnew : ∀ other ∈ pool, other.identity ≠ entry.identity) : Sound (pool ++ [entry]) := by
  constructor
  · rw [List.map_append, List.map_singleton, List.nodup_append]
    refine ⟨h.distinct, List.nodup_singleton _, ?_⟩
    rintro identity hmem _ hlast rfl
    obtain ⟨other, hother, hsame⟩ := List.mem_map.1 hmem
    exact hnew other hother (hsame.trans (List.mem_singleton.1 hlast))
  · rw [List.length_append]
    exact hroom

/-- What `Acquire` leaves: the pruned pool, with a new entry where there is room, and
    then the entry of its identity leased or staged. -/
theorem Acquire_cases (pool : Pool) (call : AcquireCall) :
    (∃ fault, Acquire pool call = ((PruneLocked pool call.now true).1, .error fault))
      ∨ (∃ entry ∈ (PruneLocked pool call.now true).1, entry.identity = directoryName call.identity
        ∧ Acquire pool call = acquireEntry (PruneLocked pool call.now true).1 entry call)
      ∨ ∃ entry : Entry, entry.identity = directoryName call.identity
        ∧ (∀ other ∈ (PruneLocked pool call.now true).1, other.identity ≠ entry.identity)
        ∧ (PruneLocked pool call.now true).1.length < 8
        ∧ Acquire pool call = acquireEntry ((PruneLocked pool call.now true).1 ++ [entry]) entry call := by
  unfold Acquire
  split
  · next pruned fault hprune => exact .inl ⟨fault, by rw [hprune]⟩
  · next pruned hprune =>
    rw [hprune]
    dsimp only
    split
    · next fault _ => exact .inl ⟨fault, rfl⟩
    · split
      · next entry hfound =>
        exact .inr (.inl ⟨entry, List.mem_of_find?_eq_some hfound, by simpa using List.find?_some hfound, rfl⟩)
      · next hfound =>
        split
        · exact .inl ⟨_, rfl⟩
        · next hroom =>
          refine .inr (.inr ⟨⟨directoryName call.identity, none, 0, [], none⟩, rfl, ?_, by omega, rfl⟩)
          simpa using hfound

theorem Sound.prune (h : Sound pool) (now : Int) (reserveEntry : Bool) :
    Sound (PruneLocked pool now reserveEntry).1 :=
  h.of_sublist (identities_PruneLocked pool now reserveEntry)

theorem Sound.acquire (h : Sound pool) (call : AcquireCall) : Sound (Acquire pool call).1 := by
  obtain ⟨fault, heq⟩ | ⟨entry, -, -, heq⟩ | ⟨entry, -, hnew, hroom, heq⟩ := Acquire_cases pool call
  · rw [heq]
    exact h.prune _ _
  · rw [heq]
    exact (h.prune _ _).of_sublist (acquireEntry_identities _ entry call)
  · rw [heq]
    exact ((h.prune _ _).append hroom hnew).of_sublist (acquireEntry_identities _ entry call)

theorem Guards.acquire (h : Sound pool) (call : AcquireCall) : Guards pool (Acquire pool call).1 := by
  obtain ⟨fault, heq⟩ | ⟨entry, hentry, -, heq⟩ | ⟨entry, -, hnew, hroom, heq⟩ := Acquire_cases pool call
  · rw [heq]
    exact Guards.prune pool _ _
  · rw [heq]
    exact (Guards.prune pool _ _).trans (Guards.acquireEntry (h.prune _ _) hentry call)
  · rw [heq]
    refine ((Guards.prune pool call.now true).trans (Guards.append _ [entry])).trans ?_
    exact Guards.acquireEntry ((h.prune _ _).append hroom hnew) (List.mem_append_right _ (List.mem_singleton_self _))
      call

theorem Sound.update (h : Sound pool)
    (hchange : ∀ entry : Entry, entry.identity = identity → (change entry).identity = identity) :
    Sound (update identity change pool) :=
  h.of_sublist (by rw [update_identities hchange])

theorem Sound.step (h : Sound pool) (event : Event) : Sound (step pool event).1 := by
  cases event with
  | acquire call => exact h.acquire call
  | prune now reserveEntry => exact h.prune now reserveEntry
  | dispose identity serial => exact h.update (by exact fun _ h => h)
  | crash identity serial => exact h.update (by exact fun _ h => h)
  | pin identity bytes => exact h.update (by exact fun _ h => h)

theorem Sound.after (events : List Event) : Sound (after events) := by
  induction events using List.reverseRecOn with
  | nil => exact ⟨List.nodup_nil, Nat.zero_le _⟩
  | append_singleton events event ih =>
    rw [dynamic_sandbox.after, List.foldl_append]
    exact ih.step event

end spared

section budget

/-- The pool holds the image of an identity under a live lease. -/
def Leased (pool : Pool) (identity : String) (serial : Nat) : Prop :=
  ∃ entry ∈ pool, entry.identity = identity ∧ entry.image.isSome = true ∧ ⟨serial, true⟩ ∈ entry.leases

theorem mem_update (hentry : entry ∈ pool) (change : Entry → Entry) :
    change entry ∈ update entry.identity change pool := by
  have hmem : (if entry.identity = entry.identity then change entry else entry) ∈ update entry.identity change pool :=
    List.mem_map_of_mem hentry
  rwa [if_pos rfl] at hmem

theorem leased_of_lease {call : AcquireCall} (hentry : entry ∈ pool)
    (himage : entry.image.isSome = true) (h : (lease pool entry call).2 = .ok ()) :
    Leased (lease pool entry call).1 entry.identity call.serial := by
  unfold lease at h ⊢
  split at h
  · cases h
  · split at h
    · cases h
    · next hnew =>
      rw [if_neg hnew]
      exact ⟨_, mem_update hentry _, rfl, himage, List.mem_append_right _ (List.mem_singleton_self _)⟩

theorem leased_of_acquireEntry {call : AcquireCall} (hentry : entry ∈ pool)
    (h : (acquireEntry pool entry call).2 = .ok ()) :
    Leased (acquireEntry pool entry call).1 entry.identity call.serial := by
  unfold acquireEntry at h ⊢
  split at h
  · next himage =>
    rw [if_pos himage]
    exact leased_of_lease hentry himage h
  · next himage =>
    rw [if_neg himage]
    unfold stage at h ⊢
    cases hstaging : call.staging with
    | noHeadroom => simp [hstaging] at h
    | fails => simp [hstaging] at h
    | moveFails =>
      simp only [hstaging] at h
      split at h <;> cases h
    | staged bytes time =>
      simp only [hstaging] at h ⊢
      split at h
      · next hempty =>
        rw [if_pos hempty]
        exact @leased_of_lease _ { entry with image := some bytes, manifestTime := time } call
          (mem_update hentry fun _ => _) rfl h
      · cases h

theorem leased_of_acquire {call : AcquireCall} (h : (Acquire pool call).2 = .ok ()) :
    Leased (Acquire pool call).1 (directoryName call.identity) call.serial := by
  obtain ⟨fault, heq⟩ | ⟨entry, hentry, hidentity, heq⟩ | ⟨entry, hidentity, -, -, heq⟩ := Acquire_cases pool call
  · rw [heq] at h
    cases h
  · rw [heq] at h ⊢
    exact hidentity ▸ leased_of_acquireEntry hentry h
  · rw [heq] at h ⊢
    exact hidentity ▸ leased_of_acquireEntry (List.mem_append_right _ (List.mem_singleton_self _)) h

theorem Entry.imageBytes_le (entry : Entry) : entry.imageBytes ≤ MaximumImageBytes := by
  unfold Entry.imageBytes
  cases entry.image with
  | none => exact Nat.zero_le _
  | some bytes => exact bytes.2

theorem sum_imageBytes_le (pool : Pool) : (pool.map Entry.imageBytes).sum ≤ pool.length * MaximumImageBytes := by
  induction pool with
  | nil => exact Nat.zero_le _
  | cons entry rest ih =>
    have hentry := entry.imageBytes_le
    rw [List.map_cons, List.sum_cons, List.length_cons, Nat.add_mul]
    omega

theorem Sound.imageBytes_le (h : Sound pool) : (pool.map Entry.imageBytes).sum ≤ MaximumBytes :=
  calc (pool.map Entry.imageBytes).sum
      ≤ pool.length * MaximumImageBytes := sum_imageBytes_le pool
    _ ≤ 8 * MaximumImageBytes := Nat.mul_le_mul_right _ h.few
    _ = MaximumBytes := rfl

theorem sum_DirectoryBytes (pool : Pool) : (pool.map DirectoryBytes).sum
    = (pool.map Entry.imageBytes).sum + (pool.map Entry.markerBytes).sum := by
  induction pool with
  | nil => rfl
  | cons entry rest ih =>
    simp only [List.map_cons, List.sum_cons, ih, DirectoryBytes]
    omega

theorem Spares.step (h : Sound pool) (event : Event) : Spares pool (step pool event).1 := by
  cases event with
  | acquire call => exact (Guards.acquire h call).spares
  | prune now reserveEntry => exact (Guards.prune pool now reserveEntry).spares
  | dispose identity serial => exact Spares.update fun entry => ⟨rfl, rfl⟩
  | crash identity serial => exact Spares.update fun entry => ⟨rfl, rfl⟩
  | pin identity bytes => exact Spares.update fun entry => ⟨rfl, rfl⟩

/-- No event removes an image that a live lease or a marker protects. An `Acquire` that
    returns has leased its image, and the pool then holds at most eight images of at most
    `MaximumBytes`; what the markers take is not counted as an image. -/
theorem pool_budget (events : List Event) :
    (∀ event, ∀ entry ∈ after events, entry.isProtected = true →
        ∃ kept ∈ (step (after events) event).1, kept.identity = entry.identity ∧ kept.image = entry.image)
      ∧ ∀ call, (Acquire (after events) call).2 = .ok () →
        (after (events ++ [.acquire call])).length ≤ 8
          ∧ ((after (events ++ [.acquire call])).map Entry.imageBytes).sum ≤ MaximumBytes
          ∧ ((after (events ++ [.acquire call])).map DirectoryBytes).sum
            ≤ MaximumBytes + ((after (events ++ [.acquire call])).map Entry.markerBytes).sum
          ∧ Leased (after (events ++ [.acquire call])) (directoryName call.identity) call.serial := by
  refine ⟨fun event => Spares.step (Sound.after events) event, fun call hcall => ?_⟩
  have hsound := Sound.after (events ++ [.acquire call])
  have hbytes := hsound.imageBytes_le
  refine ⟨hsound.few, hbytes, ?_, ?_⟩
  · rw [sum_DirectoryBytes]
    omega
  · rw [after, List.foldl_append]
    exact leased_of_acquire hcall

def sampleCall : AcquireCall where
  now := 133000000000000000
  references := .ok ()
  identity := "sha256:44136fa355b3678a1146ad16f7e8649e94fb4fc21fe77e8310c060f61caaff8a"
  staging := .staged ⟨1048576, by decide⟩ 133000000000000000
  opened := .ok ()
  serial := 1
  utcNow := 133000000000000000

/-- An image of the greatest size under a digest of one repeated digit. -/
def fullCall (digit : Char) : AcquireCall :=
  { sampleCall with
    identity := "sha256:" ++ String.ofList (List.replicate 64 digit)
    staging := .staged ⟨MaximumImageBytes, le_rfl⟩ 133000000000000000 }

/-- Seven such images are staged and pinned. -/
def pinnedImages : List Event :=
  ['1', '2', '3', '4', '5', '6', '7'].flatMap fun digit =>
    [.acquire (fullCall digit), .pin (directoryName (fullCall digit).identity) 22]

/-- An eighth is leased, and the directories are over the budget by the seven markers. -/
theorem pinned_pool_over_budget :
    (Acquire (after pinnedImages) (fullCall '8')).2 = .ok ()
      ∧ ((after (pinnedImages ++ [.acquire (fullCall '8')])).map DirectoryBytes).sum = MaximumBytes + 7 * 22 := by
  decide +kernel

/-- A leased image outlives a prune ten days later. -/
theorem sample_outlives :
    (∃ kept ∈ (step (after [.acquire sampleCall]) (.prune 133008640000000000 false)).1,
        kept.identity = "44136fa355b3678a1146ad16f7e8649e94fb4fc21fe77e8310c060f61caaff8a"
          ∧ kept.image = some ⟨1048576, by decide⟩)
      ∧ (after [.acquire sampleCall]).length ≤ 8 :=
  ⟨(pool_budget [.acquire sampleCall]).1 (.prune 133008640000000000 false) _ (List.mem_singleton_self _) rfl,
    ((pool_budget []).2 sampleCall rfl).1⟩

end budget

end revit_operator.dynamic_sandbox
