import Mathlib.Logic.Function.Basic
import RevitOperator.Library.Run
import RevitOperator.Library.Text

open checked

/-! The write grant: a signed file that the stores of several processes read, publish and
    delete. -/

namespace revit_operator.revit_bridge

inductive OperatorWriteGrantMode where
  | Once
  | Session
  | Yolo
deriving DecidableEq

/-- The signed part of a grant file, its expiry as an instant. -/
structure Grant where
  token : String
  mode : OperatorWriteGrantMode
  expires_at_utc : Int
  uses_remaining : Option Nat
deriving DecidableEq

structure GrantFile extends Grant where
  sig : String
deriving DecidableEq

section store

variable (computeSignature : Grant → String)

/-- `ReadStatus` of the file that was read: the grant that is active, or the error of the
    status. -/
def ReadStatus (file : Option GrantFile) (now : Int) : Except String Grant :=
  match file with
  | none => .error "Could not find file."
  | some f => do
    require (text.isBlank f.token = false ∧ text.isBlank f.sig = false) "Write grant file missing fields."
    require (computeSignature f.toGrant = f.sig) "Write grant signature mismatch."
    require (now < f.expires_at_utc) "Write grant expired."
    return f.toGrant

/-- The signed file that `IssueCore` publishes. -/
def grantFile (token : String) (mode : OperatorWriteGrantMode) (now ttl : Int) : GrantFile :=
  let grant : Grant := {
    token, mode, expires_at_utc := now + ttl
    uses_remaining := if mode = .Once then some 1 else none }
  { grant with sig := computeSignature grant }

/-- Renewing the same active consent keeps its token. -/
def renewedToken (file : Option GrantFile) (now : Int) (newGuid : String) : String :=
  match ReadStatus computeSignature file now with
  | .ok current => if current.mode = .Session ∧ current.uses_remaining = none then current.token else newGuid
  | .error _ => newGuid

/-- What `ValidateAndConsumeIfNeeded` decides on the file that it read. -/
def validated (file : Option GrantFile) (now : Int) (providedToken : Option String) : Except String Grant := do
  let status ← ReadStatus computeSignature file now
  let got := text.trim (providedToken.getD "")
  require (text.isBlank got = false) "Missing X-Operator-Write-Grant."
  require (got = status.token) "Invalid X-Operator-Write-Grant."
  return status

end store

/-- Where a store is in the one call that holds its lock: with a complete file to publish,
    with a matched grant to consume, or in `Clear` behind `File.Exists`, which was called
    for a grant to consume or for the file that was there. -/
inductive StorePoint where
  | idle
  | publishing (file : GrantFile)
  | consuming (token : String)
  | deleting (token : String) (consumes : Bool)
deriving DecidableEq

/-- The file that the stores share, where each of them is, the tokens that were made with
    the modes they were made for, and the tokens that were honoured. -/
structure SharedGrant (Store : Type) where
  file : Option GrantFile
  point : Store → StorePoint
  issued : List (String × OperatorWriteGrantMode)
  returned : List String

/-- The steps of the stores. `newGuid` is what `Guid.NewGuid` gives. -/
inductive GrantStep (Store : Type) where
  | issue (store : Store) (mode : OperatorWriteGrantMode) (newGuid : String) (now ttl : Int)
  | renewSession (store : Store) (newGuid : String) (now ttl : Int)
  | publish (store : Store) (succeeds : Bool)
  | clear (store : Store)
  | validate (store : Store) (providedToken : Option String) (now : Int)
  | fileExists (store : Store)
  | delete (store : Store) (succeeds : Bool)

namespace SharedGrant

variable {Store : Type} [DecidableEq Store] (computeSignature : Grant → String)

def initial : SharedGrant Store := ⟨none, fun _ => .idle, [], []⟩

def moveTo (m : SharedGrant Store) (store : Store) (point : StorePoint) : SharedGrant Store :=
  { m with point := Function.update m.point store point }

/-- A new identifier is none that was given before. -/
def make (m : SharedGrant Store) (token : String) (mode : OperatorWriteGrantMode) : SharedGrant Store :=
  { m with issued := m.issued ++ [(token, mode)] }

def step (m : SharedGrant Store) : GrantStep Store → Except String (SharedGrant Store)
  | .issue store mode newGuid now ttl => do
    require (m.point store = .idle ∧ newGuid ∉ m.issued.map Prod.fst) "not possible"
    return (m.make newGuid mode).moveTo store (.publishing (grantFile computeSignature newGuid mode now ttl))
  | .renewSession store newGuid now ttl => do
    require (m.point store = .idle ∧ newGuid ∉ m.issued.map Prod.fst) "not possible"
    let token := renewedToken computeSignature m.file now newGuid
    let made := if token = newGuid then m.make newGuid .Session else m
    return made.moveTo store (.publishing (grantFile computeSignature token .Session now ttl))
  | .publish store succeeds =>
    match m.point store with
    | .publishing file => .ok ({ m with file := if succeeds then some file else m.file }.moveTo store .idle)
    | _ => .error "not possible"
  | .clear store => do
    require (m.point store = .idle) "not possible"
    match m.file with
    | some file => return m.moveTo store (.deleting file.token false)
    | none => return m
  | .validate store providedToken now => do
    require (m.point store = .idle) "not possible"
    match validated computeSignature m.file now providedToken with
    | .ok status =>
      if status.mode = .Once then return m.moveTo store (.consuming status.token)
      else return { m with returned := status.token :: m.returned }
    | .error _ => return m
  | .fileExists store =>
    match m.point store, m.file with
    | .consuming token, some _ => .ok (m.moveTo store (.deleting token true))
    | .consuming token, none => .ok ({ m with returned := token :: m.returned }.moveTo store .idle)
    | _, _ => .error "not possible"
  | .delete store succeeds =>
    match m.point store with
    | .deleting token consumes =>
      .ok ({ m with file := if succeeds then none else m.file
                    returned := if consumes then token :: m.returned else m.returned }.moveTo store .idle)
    | _ => .error "not possible"

end SharedGrant

namespace StorePoint

/-- The file that is about to be published. -/
def publishing? : StorePoint → Option GrantFile
  | .publishing file => some file
  | _ => none

/-- The grant that is about to be removed, and whether it was matched to be consumed. -/
def held? : StorePoint → Option (String × Bool)
  | .consuming token => some (token, true)
  | .deleting token consumes => some (token, consumes)
  | _ => none

end StorePoint

namespace SharedGrant

variable {Store : Type} [DecidableEq Store] {computeSignature : Grant → String} {m : SharedGrant Store}

/-- What holds of the shared file as long as the stores keep out of each other's way. -/
structure Sound (m : SharedGrant Store) : Prop where
  file_issued : ∀ file, m.file = some file → (file.token, file.mode) ∈ m.issued
  publishing_issued : ∀ store file, (m.point store).publishing? = some file → (file.token, file.mode) ∈ m.issued
  held_issued : ∀ store token consumes, (m.point store).held? = some (token, consumes) →
    token ∈ m.issued.map Prod.fst
  consumed_once : ∀ store token, (m.point store).held? = some (token, true) → (token, .Once) ∈ m.issued
  returned_issued : ∀ token ∈ m.returned, token ∈ m.issued.map Prod.fst
  distinct : (m.issued.map Prod.fst).Nodup
  held_file : ∀ store token consumes, (m.point store).held? = some (token, consumes) →
    ∀ file, m.file = some file → file.token = token
  consumer : ∀ store other token, (m.point store).held? = some (token, true) →
    (m.point other).held? = some (token, true) → store = other
  unreturned : ∀ store token, (m.point store).held? = some (token, true) → token ∉ m.returned
  spent : ∀ token ∈ m.returned, (token, .Once) ∈ m.issued →
    ∀ file, m.file = some file → file.token ≠ token
  unpublished : ∀ store file, (m.point store).publishing? = some file → file.mode = .Once →
    file.token ∉ m.returned ∧ (∀ current, m.file = some current → current.token ≠ file.token)
      ∧ (∀ other token consumes, (m.point other).held? = some (token, consumes) → token ≠ file.token)
      ∧ ∀ other second, (m.point other).publishing? = some second → second.token = file.token → other = store
  once : ∀ token, (token, .Once) ∈ m.issued → m.returned.count token ≤ 1

omit [DecidableEq Store] in
theorem sound_initial : (initial : SharedGrant Store).Sound where
  file_issued _ h := by cases h
  publishing_issued _ _ h := by cases h
  held_issued _ _ _ h := by cases h
  consumed_once _ _ h := by cases h
  returned_issued _ h := by cases h
  distinct := List.nodup_nil
  held_file _ _ _ h := by cases h
  consumer _ _ _ h := by cases h
  unreturned _ _ h := by cases h
  spent _ h := by cases h
  unpublished _ _ h := by cases h
  once _ h := by cases h

omit [DecidableEq Store] in
theorem mode_unique (h : (m.issued.map Prod.fst).Nodup) {token : String} {mode other : OperatorWriteGrantMode}
    (hmode : (token, mode) ∈ m.issued) (hother : (token, other) ∈ m.issued) : mode = other := by
  have hpair := List.inj_on_of_nodup_map h hmode hother rfl
  exact (Prod.mk.inj hpair).2

section views

variable {store other : Store} {point : StorePoint}

theorem point_moveTo : (m.moveTo store point).point other = if other = store then point else m.point other :=
  Function.update_apply _ _ _ _

theorem held_of_moveTo {held : String × Bool} (h : ((m.moveTo store point).point other).held? = some held) :
    (other = store ∧ point.held? = some held) ∨ (other ≠ store ∧ (m.point other).held? = some held) := by
  rw [point_moveTo] at h
  split_ifs at h with hsame
  · exact .inl ⟨hsame, h⟩
  · exact .inr ⟨hsame, h⟩

theorem publishing_of_moveTo {file : GrantFile}
    (h : ((m.moveTo store point).point other).publishing? = some file) :
    (other = store ∧ point.publishing? = some file) ∨ (other ≠ store ∧ (m.point other).publishing? = some file) := by
  rw [point_moveTo] at h
  split_ifs at h with hsame
  · exact .inl ⟨hsame, h⟩
  · exact .inr ⟨hsame, h⟩

theorem held_elsewhere {held : String × Bool} (hnone : point.held? = none)
    (h : ((m.moveTo store point).point other).held? = some held) :
    other ≠ store ∧ (m.point other).held? = some held := by
  obtain ⟨_, hheld⟩ | hother := held_of_moveTo h
  · cases hnone.symm.trans hheld
  · exact hother

theorem publishing_elsewhere {file : GrantFile} (hnone : point.publishing? = none)
    (h : ((m.moveTo store point).point other).publishing? = some file) :
    other ≠ store ∧ (m.point other).publishing? = some file := by
  obtain ⟨_, hpublishing⟩ | hother := publishing_of_moveTo h
  · cases hnone.symm.trans hpublishing
  · exact hother

theorem Sound.reseat (h : Sound m) (hheld : point.held? = none ∨ point.held? = (m.point store).held?)
    (hpublishing : point.publishing? = none ∨ point.publishing? = (m.point store).publishing?) :
    Sound (m.moveTo store point) := by
  have hheld' : ∀ {other : Store} {held : String × Bool},
      ((m.moveTo store point).point other).held? = some held → (m.point other).held? = some held := by
    intro other held hother
    rcases hheld with hnone | hkept
    · exact (held_elsewhere hnone hother).2
    · obtain ⟨rfl, hsame⟩ | hbefore := held_of_moveTo hother
      · exact hkept.symm.trans hsame
      · exact hbefore.2
  have hpublishing' : ∀ {other : Store} {file : GrantFile},
      ((m.moveTo store point).point other).publishing? = some file → (m.point other).publishing? = some file := by
    intro other file hother
    rcases hpublishing with hnone | hkept
    · exact (publishing_elsewhere hnone hother).2
    · obtain ⟨rfl, hsame⟩ | hbefore := publishing_of_moveTo hother
      · exact hkept.symm.trans hsame
      · exact hbefore.2
  exact {
    file_issued := h.file_issued
    publishing_issued := fun other file hother => h.publishing_issued other file (hpublishing' hother)
    held_issued := fun other token consumes hother => h.held_issued other token consumes (hheld' hother)
    consumed_once := fun other token hother => h.consumed_once other token (hheld' hother)
    returned_issued := h.returned_issued
    distinct := h.distinct
    held_file := fun other token consumes hother => h.held_file other token consumes (hheld' hother)
    consumer := fun other third token hother hthird => h.consumer other third token (hheld' hother) (hheld' hthird)
    unreturned := fun other token hother => h.unreturned other token (hheld' hother)
    spent := h.spent
    unpublished := fun other file hother honce => by
      obtain ⟨hreturned, hfile, hnone, hsole⟩ := h.unpublished other file (hpublishing' hother) honce
      exact ⟨hreturned, hfile, fun third token consumes hthird => hnone third token consumes (hheld' hthird),
        fun third second hthird => hsole third second (hpublishing' hthird)⟩
    once := h.once }

end views

section operations

variable {store : Store} {token : String} {mode : OperatorWriteGrantMode} {file : GrantFile}

omit [DecidableEq Store] in
theorem Sound.make (h : Sound m) (hfresh : token ∉ m.issued.map Prod.fst) : Sound (m.make token mode) := by
  have hgrows : ∀ {pair}, pair ∈ m.issued → pair ∈ (m.make token mode).issued :=
    fun hpair => List.mem_append_left _ hpair
  have hfirst : ∀ {other}, other ∈ m.issued.map Prod.fst →
      other ∈ (m.make token mode).issued.map Prod.fst := by
    intro other hother
    rw [SharedGrant.make, List.map_append]
    exact List.mem_append_left _ hother
  have hknown : ∀ {other mode'}, other ∈ m.issued.map Prod.fst →
      (other, mode') ∈ (m.make token mode).issued → (other, mode') ∈ m.issued := by
    intro other mode' hother hpair
    rcases List.mem_append.1 hpair with hpair | hpair
    · exact hpair
    · obtain ⟨rfl, _⟩ := Prod.mk.inj (List.mem_singleton.1 hpair)
      exact absurd hother hfresh
  exact {
    file_issued := fun file hfile => hgrows (h.file_issued file hfile)
    publishing_issued := fun store file hfile => hgrows (h.publishing_issued store file hfile)
    held_issued := fun store token consumes hheld => hfirst (h.held_issued store token consumes hheld)
    consumed_once := fun store token hheld => hgrows (h.consumed_once store token hheld)
    returned_issued := fun token hreturned => hfirst (h.returned_issued token hreturned)
    distinct := by
      rw [SharedGrant.make, List.map_append, List.nodup_append]
      refine ⟨h.distinct, List.nodup_singleton _, fun other hother second hsecond => ?_⟩
      obtain rfl := List.mem_singleton.1 hsecond
      exact fun hsame => hfresh (hsame ▸ hother)
    held_file := h.held_file
    consumer := h.consumer
    unreturned := h.unreturned
    spent := fun other hreturned honce => h.spent other hreturned (hknown (h.returned_issued other hreturned) honce)
    unpublished := h.unpublished
    once := fun other honce => by
      by_cases hreturned : other ∈ m.returned
      · exact h.once other (hknown (h.returned_issued other hreturned) honce)
      · exact (List.count_eq_zero.2 hreturned).trans_le (Nat.zero_le _) }

theorem Sound.prepare (h : Sound m) (hissued : (file.token, file.mode) ∈ m.issued)
    (hidle : m.point store = .idle)
    (hnew : file.mode = .Once → file.token ∉ m.returned
      ∧ (∀ current, m.file = some current → current.token ≠ file.token)
      ∧ (∀ other token consumes, (m.point other).held? = some (token, consumes) → token ≠ file.token)
      ∧ ∀ other second, (m.point other).publishing? = some second → second.token ≠ file.token)
    (hapart : ∀ other second, (m.point other).publishing? = some second → second.mode = .Once →
      second.token ≠ file.token) : Sound (m.moveTo store (.publishing file)) := by
  have hheld : ∀ {other : Store} {held : String × Bool},
      ((m.moveTo store (.publishing file)).point other).held? = some held → (m.point other).held? = some held :=
    fun hother => (held_elsewhere rfl hother).2
  have hpublishing : ∀ {other : Store} {second : GrantFile},
      ((m.moveTo store (.publishing file)).point other).publishing? = some second →
      (other = store ∧ second = file) ∨ (other ≠ store ∧ (m.point other).publishing? = some second) := by
    intro other second hother
    obtain ⟨hsame, hfile⟩ | hbefore := publishing_of_moveTo hother
    · exact .inl ⟨hsame, (Option.some.inj hfile).symm⟩
    · exact .inr hbefore
  exact {
    file_issued := h.file_issued
    publishing_issued := fun other second hother => by
      rcases hpublishing hother with ⟨_, rfl⟩ | ⟨_, hother⟩
      · exact hissued
      · exact h.publishing_issued other second hother
    held_issued := fun other token consumes hother => h.held_issued other token consumes (hheld hother)
    consumed_once := fun other token hother => h.consumed_once other token (hheld hother)
    returned_issued := h.returned_issued
    distinct := h.distinct
    held_file := fun other token consumes hother => h.held_file other token consumes (hheld hother)
    consumer := fun other third token hother hthird => h.consumer other third token (hheld hother) (hheld hthird)
    unreturned := fun other token hother => h.unreturned other token (hheld hother)
    spent := h.spent
    unpublished := fun other second hother honce => by
      rcases hpublishing hother with ⟨rfl, rfl⟩ | ⟨_, hbefore⟩
      · obtain ⟨hreturned, hfile, hnone, hsole⟩ := hnew honce
        refine ⟨hreturned, hfile, ?_, ?_⟩
        · exact fun third token consumes hthird => hnone third token consumes (hheld hthird)
        · intro third fourth hthird hsame
          rcases hpublishing hthird with ⟨rfl, _⟩ | ⟨_, hthird⟩
          · rfl
          · exact absurd hsame (hsole third fourth hthird)
      · obtain ⟨hreturned, hfile, hnone, hsole⟩ := h.unpublished other second hbefore honce
        refine ⟨hreturned, hfile, ?_, ?_⟩
        · exact fun third token consumes hthird => hnone third token consumes (hheld hthird)
        · intro third fourth hthird hsame
          rcases hpublishing hthird with ⟨rfl, rfl⟩ | ⟨_, hthird⟩
          · exact absurd hsame.symm (hapart other second hbefore honce)
          · exact hsole third fourth hthird hsame
    once := h.once }

/-- A store publishes its file while no other one is about to remove a different grant. -/
theorem Sound.publish (h : Sound m) (hpoint : m.point store = .publishing file)
    (hclear : ∀ other token consumes, (m.point other).held? = some (token, consumes) → token = file.token) :
    Sound ({ m with file := some file }.moveTo store .idle) := by
  have hpublishing : (m.point store).publishing? = some file := by rw [hpoint]; rfl
  have hpublished : ∀ {other : Store} {second : GrantFile},
      (({ m with file := some file }.moveTo store .idle).point other).publishing? = some second →
      other ≠ store ∧ (m.point other).publishing? = some second := publishing_elsewhere rfl
  have hheld : ∀ {other : Store} {held : String × Bool},
      (({ m with file := some file }.moveTo store .idle).point other).held? = some held →
      (m.point other).held? = some held := fun hother => (held_elsewhere rfl hother).2
  have hissued := h.publishing_issued store file hpublishing
  exact {
    file_issued := fun current hcurrent => by
      obtain rfl := Option.some.inj hcurrent
      exact hissued
    publishing_issued := fun other second hother => h.publishing_issued other second (hpublished hother).2
    held_issued := fun other token consumes hother => h.held_issued other token consumes (hheld hother)
    consumed_once := fun other token hother => h.consumed_once other token (hheld hother)
    returned_issued := h.returned_issued
    distinct := h.distinct
    held_file := fun other token consumes hother current hcurrent => by
      obtain rfl := Option.some.inj hcurrent
      exact (hclear other token consumes (hheld hother)).symm
    consumer := fun other third token hother hthird => h.consumer other third token (hheld hother) (hheld hthird)
    unreturned := fun other token hother => h.unreturned other token (hheld hother)
    spent := fun token hreturned honce current hcurrent hsame => by
      obtain rfl := Option.some.inj hcurrent
      subst hsame
      have hmode := mode_unique h.distinct hissued honce
      exact (h.unpublished store file hpublishing hmode).1 hreturned
    unpublished := fun other second hother honce => by
      obtain ⟨hne, hother⟩ := hpublished hother
      obtain ⟨hreturned, _, hnone, hsole⟩ := h.unpublished other second hother honce
      refine ⟨hreturned, fun current hcurrent hsame => ?_,
        fun third token consumes hthird => hnone third token consumes (hheld hthird),
        fun third fourth hthird => hsole third fourth (hpublished hthird).2⟩
      obtain rfl := Option.some.inj hcurrent
      exact hne (hsole store file hpublishing hsame).symm
    once := h.once }

theorem Sound.hold (h : Sound m) {point : StorePoint} (consumes : Bool) (hfile : m.file = some file)
    (hpoint : point.held? = some (file.token, consumes)) (hpublishing : point.publishing? = none)
    (honce : consumes = true → file.mode = .Once ∧ ∀ other, (m.point other).held? ≠ some (file.token, true)) :
    Sound (m.moveTo store point) := by
  have hheld : ∀ {other : Store} {held : String × Bool}, ((m.moveTo store point).point other).held? = some held →
      (other = store ∧ held = (file.token, consumes)) ∨ (m.point other).held? = some held := by
    intro other held hother
    obtain ⟨hsame, hheld⟩ | ⟨_, hbefore⟩ := held_of_moveTo hother
    · exact .inl ⟨hsame, Option.some.inj (hheld.symm.trans hpoint)⟩
    · exact .inr hbefore
  have hpublished : ∀ {other : Store} {second : GrantFile},
      ((m.moveTo store point).point other).publishing? = some second →
      (m.point other).publishing? = some second := fun hother => (publishing_elsewhere hpublishing hother).2
  have hissued := h.file_issued file hfile
  exact {
    file_issued := h.file_issued
    publishing_issued := fun other second hother => h.publishing_issued other second (hpublished hother)
    held_issued := fun other token consumes' hother => by
      rcases hheld hother with ⟨_, hsame⟩ | hother
      · obtain ⟨rfl, _⟩ := Prod.mk.inj hsame
        exact List.mem_map_of_mem hissued
      · exact h.held_issued other token consumes' hother
    consumed_once := fun other token hother => by
      rcases hheld hother with ⟨_, hsame⟩ | hother
      · obtain ⟨rfl, hconsumes⟩ := Prod.mk.inj hsame
        exact (honce hconsumes.symm).1 ▸ hissued
      · exact h.consumed_once other token hother
    returned_issued := h.returned_issued
    distinct := h.distinct
    held_file := fun other token consumes' hother current hcurrent => by
      rcases hheld hother with ⟨_, hsame⟩ | hother
      · obtain ⟨rfl, _⟩ := Prod.mk.inj hsame
        rw [Option.some.inj (hcurrent.symm.trans hfile)]
      · exact h.held_file other token consumes' hother current hcurrent
    consumer := fun other third token hother hthird => by
      rcases hheld hother with ⟨rfl, hsame⟩ | hbefore
      · obtain ⟨rfl, hconsumes⟩ := Prod.mk.inj hsame
        rcases hheld hthird with ⟨rfl, _⟩ | hthird
        · rfl
        · exact absurd hthird ((honce hconsumes.symm).2 third)
      · rcases hheld hthird with ⟨rfl, hsame⟩ | hthird
        · obtain ⟨rfl, hconsumes⟩ := Prod.mk.inj hsame
          exact absurd hbefore ((honce hconsumes.symm).2 other)
        · exact h.consumer other third token hbefore hthird
    unreturned := fun other token hother => by
      rcases hheld hother with ⟨_, hsame⟩ | hother
      · obtain ⟨rfl, hconsumes⟩ := Prod.mk.inj hsame
        exact fun hreturned => h.spent file.token hreturned ((honce hconsumes.symm).1 ▸ hissued) file hfile rfl
      · exact h.unreturned other token hother
    spent := h.spent
    unpublished := fun other second hother hmode => by
      obtain ⟨hreturned, hcurrent, hnone, hsole⟩ := h.unpublished other second (hpublished hother) hmode
      refine ⟨hreturned, hcurrent, fun third token consumes' hthird => ?_,
        fun third fourth hthird => hsole third fourth (hpublished hthird)⟩
      rcases hheld hthird with ⟨_, hsame⟩ | hthird
      · obtain ⟨rfl, _⟩ := Prod.mk.inj hsame
        exact hcurrent file hfile
      · exact hnone third token consumes' hthird
    once := h.once }

theorem Sound.honour (h : Sound m) (hheld : (m.point store).held? = some (token, true)) :
    Sound ({ m with file := none, returned := token :: m.returned }.moveTo store .idle) := by
  have hkept : ∀ {other : Store} {held : String × Bool},
      (({ m with file := none, returned := token :: m.returned }.moveTo store .idle).point other).held?
          = some held →
      other ≠ store ∧ (m.point other).held? = some held := held_elsewhere rfl
  have hpublished : ∀ {other : Store} {second : GrantFile},
      (({ m with file := none, returned := token :: m.returned }.moveTo store .idle).point other).publishing?
        = some second → (m.point other).publishing? = some second :=
    fun hother => (publishing_elsewhere rfl hother).2
  exact {
    file_issued := fun current hcurrent => by cases hcurrent
    publishing_issued := fun other second hother => h.publishing_issued other second (hpublished hother)
    held_issued := fun other token consumes hother => h.held_issued other token consumes (hkept hother).2
    consumed_once := fun other token hother => h.consumed_once other token (hkept hother).2
    returned_issued := fun other hother => by
      rcases List.mem_cons.1 hother with rfl | hother
      · exact h.held_issued store _ _ hheld
      · exact h.returned_issued other hother
    distinct := h.distinct
    held_file := fun other token consumes hother current hcurrent => by cases hcurrent
    consumer := fun other third token hother hthird => h.consumer other third token (hkept hother).2 (hkept hthird).2
    unreturned := fun other second hother hreturned => by
      obtain ⟨hne, hbefore⟩ := hkept hother
      rcases List.mem_cons.1 hreturned with rfl | hreturned
      · exact hne (h.consumer other store _ hbefore hheld)
      · exact h.unreturned other second hbefore hreturned
    spent := fun other hreturned honce current hcurrent => by cases hcurrent
    unpublished := fun other second hother honce => by
      obtain ⟨hreturned, _, hnone, hsole⟩ := h.unpublished other second (hpublished hother) honce
      refine ⟨fun hmem => ?_, fun _ hcurrent => (nomatch hcurrent),
        fun third token consumes hthird => hnone third token consumes (hkept hthird).2,
        fun third fourth hthird => hsole third fourth (hpublished hthird)⟩
      rcases List.mem_cons.1 hmem with hsame | hmem
      · exact hnone store token true hheld hsame.symm
      · exact hreturned hmem
    once := fun other honce => by
      change (token :: m.returned).count other ≤ 1
      rw [List.count_cons]
      by_cases hsame : token = other
      · subst hsame
        have hzero := List.count_eq_zero.2 (h.unreturned store token hheld)
        simp [hzero]
      · have hone := h.once other honce
        simp [hsame, hone] }

omit [DecidableEq Store] in
theorem Sound.admit (h : Sound m) (hissued : (token, mode) ∈ m.issued) (hmode : mode ≠ .Once) :
    Sound { m with returned := token :: m.returned } := by
  have hother : ∀ {other : String}, (other, .Once) ∈ m.issued → other ≠ token := by
    rintro other honce rfl
    exact hmode (mode_unique h.distinct hissued honce)
  exact { h with
    returned_issued := fun other hreturned => by
      rcases List.mem_cons.1 hreturned with rfl | hreturned
      · exact List.mem_map_of_mem hissued
      · exact h.returned_issued other hreturned
    unreturned := fun store second hheld hreturned => by
      rcases List.mem_cons.1 hreturned with rfl | hreturned
      · exact hother (h.consumed_once store _ hheld) rfl
      · exact h.unreturned store second hheld hreturned
    spent := fun second hreturned honce => by
      rcases List.mem_cons.1 hreturned with rfl | hreturned
      · exact absurd rfl (hother honce)
      · exact h.spent second hreturned honce
    unpublished := fun store file hpublishing honce => by
      obtain ⟨hreturned, hrest⟩ := h.unpublished store file hpublishing honce
      refine ⟨fun hmem => ?_, hrest⟩
      rcases List.mem_cons.1 hmem with hsame | hmem
      · exact hother (honce ▸ h.publishing_issued store file hpublishing) hsame
      · exact hreturned hmem
    once := fun second honce => by
      have hne := (hother honce).symm
      have hone := h.once second honce
      rw [List.count_cons]
      simp [hne, hone] }

omit [DecidableEq Store] in
theorem Sound.remove (h : Sound m) : Sound { m with file := none } :=
  { h with
    file_issued := fun current hcurrent => by cases hcurrent
    held_file := fun _ _ _ _ current hcurrent => by cases hcurrent
    spent := fun _ _ _ current hcurrent => by cases hcurrent
    unpublished := fun store file hpublishing honce => by
      obtain ⟨hreturned, _, hrest⟩ := h.unpublished store file hpublishing honce
      exact ⟨hreturned, fun _ hcurrent => (nomatch hcurrent), hrest⟩ }

end operations

section runs

/-- The stores keep out of each other's way: none publishes a file while another is about
    to remove a different grant, none is given the token of an active grant for one use
    that another is consuming, and the file of a consumed grant can be deleted. -/
def KeepsClear (computeSignature : Grant → String) (m : SharedGrant Store) : GrantStep Store → Prop
  | .publish store succeeds => succeeds = true → ∀ file, m.point store = .publishing file →
    ∀ other token consumes, (m.point other).held? = some (token, consumes) → token = file.token
  | .validate _ providedToken now => ∀ status, ReadStatus computeSignature m.file now = .ok status →
    status.mode = .Once → text.trim (providedToken.getD "") = status.token →
    ∀ other, (m.point other).held? ≠ some (status.token, true)
  | .delete store succeeds => (∃ token, m.point store = .deleting token true) → succeeds = true
  | _ => True

/-- What a deletion removes is the grant that was read. -/
def RemovesOwn (m : SharedGrant Store) (step : GrantStep Store) (next : SharedGrant Store) : Prop :=
  ∀ store succeeds token consumes, step = .delete store succeeds → m.point store = .deleting token consumes →
    ∀ file, m.file = some file → next.file = none → file.token = token

/-- No token that was made for one use is honoured twice. -/
def HonouredOnce (m : SharedGrant Store) : Prop :=
  ∀ token, (token, .Once) ∈ m.issued → m.returned.count token ≤ 1

theorem readStatus_ok {file : Option GrantFile} {now : Int} {grant : Grant}
    (h : ReadStatus computeSignature file now = .ok grant) : ∃ f, file = some f ∧ f.toGrant = grant := by
  cases file with
  | none => cases h
  | some f =>
    simp only [ReadStatus, check_bind_eq_ok, pure_eq_ok] at h
    exact ⟨f, rfl, h.2.2.2⟩

theorem validated_ok {file : Option GrantFile} {now : Int} {providedToken : Option String} {grant : Grant}
    (h : validated computeSignature file now providedToken = .ok grant) :
    ReadStatus computeSignature file now = .ok grant ∧ text.trim (providedToken.getD "") = grant.token := by
  simp only [validated, bind_eq_ok, require_eq_ok, pure_eq_ok, exists_const] at h
  obtain ⟨status, hstatus, _, hgot, rfl⟩ := h
  exact ⟨hstatus, hgot⟩

theorem renewedToken_cases (computeSignature : Grant → String) (file : Option GrantFile) (now : Int)
    (newGuid : String) :
    renewedToken computeSignature file now newGuid = newGuid
      ∨ ∃ f, file = some f ∧ f.mode = .Session
        ∧ renewedToken computeSignature file now newGuid = f.token := by
  unfold renewedToken
  split
  · rename_i current hcurrent
    obtain ⟨f, hf, rfl⟩ := readStatus_ok hcurrent
    split_ifs with hsession
    · exact .inr ⟨f, hf, hsession.1, rfl⟩
    · exact .inl rfl
  · exact .inl rfl

omit [DecidableEq Store] in
theorem ne_of_fresh {fresh token : String} {mode : OperatorWriteGrantMode} (hfresh : fresh ∉ m.issued.map Prod.fst)
    (hissued : (token, mode) ∈ m.issued) : token ≠ fresh :=
  ne_of_mem_of_not_mem (List.mem_map_of_mem hissued) hfresh

theorem step_sound {next : SharedGrant Store} (event : GrantStep Store) (h : Sound m)
    (hclear : KeepsClear computeSignature m event) (hstep : step computeSignature m event = .ok next) : Sound next := by
  cases event with
  | issue store mode newGuid now ttl =>
    simp only [step, check_bind_eq_ok, require_eq_ok, pure_eq_ok] at hstep
    obtain ⟨⟨hidle, hfresh⟩, rfl⟩ := hstep
    have hmember := List.mem_append_right m.issued (List.mem_singleton_self (newGuid, mode))
    refine (h.make hfresh).prepare hmember hidle (fun _ => ⟨?_, ?_, ?_, ?_⟩) ?_
    · exact fun hreturned => hfresh (h.returned_issued newGuid hreturned)
    · exact fun current hcurrent => ne_of_fresh hfresh (h.file_issued current hcurrent)
    · rintro other token consumes hheld rfl
      exact hfresh (h.held_issued other _ consumes hheld)
    · exact fun other second hsecond => ne_of_fresh hfresh (h.publishing_issued other second hsecond)
    · exact fun other second hsecond _ => ne_of_fresh hfresh (h.publishing_issued other second hsecond)
  | renewSession store newGuid now ttl =>
    simp only [step, check_bind_eq_ok, require_eq_ok, pure_eq_ok] at hstep
    obtain ⟨⟨hidle, hfresh⟩, rfl⟩ := hstep
    by_cases hnew : renewedToken computeSignature m.file now newGuid = newGuid
    · rw [if_pos hnew, hnew]
      refine (h.make hfresh).prepare (List.mem_append_right _ (List.mem_singleton_self _)) hidle ?_ ?_
      · rintro ⟨⟩
      · exact fun other second hsecond _ => ne_of_fresh hfresh (h.publishing_issued other second hsecond)
    · rw [if_neg hnew]
      obtain hsame | ⟨f, hf, hsession, hsame⟩ := renewedToken_cases computeSignature m.file now newGuid
      · exact absurd hsame hnew
      · have hissued := h.file_issued f hf
        rw [hsession] at hissued
        rw [hsame]
        refine h.prepare hissued hidle ?_ ?_
        · rintro ⟨⟩
        · rintro other second hsecond honce hsecondToken
          exact (h.unpublished other second hsecond honce).2.1 f hf hsecondToken.symm
  | publish store succeeds =>
    rw [step] at hstep
    split at hstep
    · rename_i file hpoint
      obtain rfl := Except.ok.inj hstep
      cases succeeds with
      | true => exact h.publish hpoint (hclear rfl file hpoint)
      | false => exact h.reseat (.inl rfl) (.inl rfl)
    · cases hstep
  | clear store =>
    simp only [step, check_bind_eq_ok, require_eq_ok] at hstep
    obtain ⟨hidle, hstep⟩ := hstep
    split at hstep
    · rename_i file hfile
      obtain rfl := pure_eq_ok.1 hstep
      exact h.hold false hfile rfl rfl fun hfalse => by cases hfalse
    · obtain rfl := pure_eq_ok.1 hstep
      exact h
  | validate store providedToken now =>
    simp only [step, check_bind_eq_ok, require_eq_ok] at hstep
    obtain ⟨hidle, hstep⟩ := hstep
    split at hstep
    · rename_i status hstatus
      obtain ⟨hread, hgot⟩ := validated_ok hstatus
      obtain ⟨f, hf, rfl⟩ := readStatus_ok hread
      split_ifs at hstep with honce
      · obtain rfl := pure_eq_ok.1 hstep
        exact h.hold true hf rfl rfl fun _ => ⟨honce, hclear _ hread honce hgot⟩
      · obtain rfl := pure_eq_ok.1 hstep
        exact h.admit (h.file_issued f hf) honce
    · obtain rfl := pure_eq_ok.1 hstep
      exact h
  | fileExists store =>
    rw [step] at hstep
    split at hstep
    · rename_i token file hpoint _
      obtain rfl := Except.ok.inj hstep
      exact h.reseat (.inr (by rw [hpoint]; rfl)) (.inl rfl)
    · rename_i token hpoint hfile
      obtain rfl := Except.ok.inj hstep
      have hheld : (m.point store).held? = some (token, true) := by
        rw [hpoint]
        rfl
      have hhonour := h.honour hheld
      rwa [← hfile] at hhonour
    · cases hstep
  | delete store succeeds =>
    rw [step] at hstep
    split at hstep
    · rename_i token consumes hpoint
      obtain rfl := Except.ok.inj hstep
      cases consumes with
      | true =>
        obtain rfl := hclear ⟨token, hpoint⟩
        exact h.honour (by rw [hpoint]; rfl)
      | false =>
        cases succeeds with
        | true => exact h.remove.reseat (.inl rfl) (.inl rfl)
        | false => exact h.reseat (.inl rfl) (.inl rfl)
    · cases hstep

omit [DecidableEq Store] in
theorem removesOwn_of_sound {next : SharedGrant Store} (event : GrantStep Store) (h : Sound m) :
    RemovesOwn m event next := by
  rintro store succeeds token consumes rfl hpoint file hfile _
  exact h.held_file store token consumes (by rw [hpoint]; rfl) file hfile

end runs

end SharedGrant

def sampleSignature (grant : Grant) : String := grant.token

/-- While one store consumes the grant another is given a different token; afterwards it is
    given the consumed one. -/
def clearedSteps : List (GrantStep Bool) :=
  [.issue true .Once "a" 0 600, .publish true true, .validate true (some "a") 1, .validate false (some "b") 1,
    .fileExists true, .delete true true, .validate false (some "a") 2]

/-- A grant for one use is matched by two stores in turn, and the first cannot delete it. -/
def undeletedSteps : List (GrantStep Bool) :=
  [.issue true .Once "a" 0 600, .publish true true, .validate true (some "a") 1, .fileExists true,
    .delete true false, .validate false (some "a") 2, .fileExists false, .delete false true]

end revit_operator.revit_bridge
