import RevitOperator.Courier.ActiveJobIndex
import RevitOperator.Library.Folds

/-! What the index holds under one id, and how each of its operations changes that. -/

namespace revit_operator.courier.ActiveJobIndex

/-- What is to be known of one directory. -/
inductive Standing where
  | unseen
  /-- It was listed without a readable job. -/
  | awaited (deadline : Int)
  | pending
  /-- Its job was finished, or none could be read before the deadline. -/
  | settled
  /-- Its job could not be read while it was pending, or it was awaited and no
      longer there. -/
  | untracked
  deriving DecidableEq

def Standing.ofJob (job : RevitToolJob) : Standing := if isTerminal job.status then .settled else .pending

/-- What the index holds under one id. -/
@[ext]
structure Entry where
  known : Bool
  active : Bool
  unresolved : Option Int

def view (index : ActiveJobIndex) (id : String) : Entry where
  known := id ∈ index.knownIds
  active := (index.activeJobs.find? fun job => job.id = id).isSome
  unresolved := (index.unresolvedUntil.find? fun entry => entry.1 = id).map Prod.snd

def Standing.entry : Standing → Entry
  | .unseen => ⟨false, false, none⟩
  | .awaited deadline => ⟨false, false, some deadline⟩
  | .pending => ⟨true, true, none⟩
  | .settled => ⟨true, false, none⟩
  | .untracked => ⟨true, false, none⟩

section views

variable {index : ActiveJobIndex} {id : String} {job : RevitToolJob} {readJob : String → Option RevitToolJob}
  {now : Int}

theorem find?_filter_key {α : Type} (key : α → String) (keep : String → Bool) (id : String) (entries : List α) :
    (entries.filter fun entry => keep (key entry)).find? (fun entry => key entry = id) =
      if keep id then entries.find? fun entry => key entry = id else none := by
  induction entries with
  | nil => simp
  | cons entry rest ih =>
    by_cases hid : key entry = id
    · cases hkeep : keep id <;> simp [hid, hkeep] at ih ⊢
      exact ih
    · cases hkeep : keep (key entry) <;> simp [hid, hkeep, ih]

theorem find?_map_key {α : Type} (key : α → String) (value : α) (id : String) (entries : List α) :
    ((entries.map fun entry => if key entry = key value then value else entry).find? fun entry => key entry = id) =
      if key value = id then (entries.find? fun entry => key entry = id).map fun _ => value
      else entries.find? fun entry => key entry = id := by
  induction entries with
  | nil => simp
  | cons entry rest ih =>
    by_cases hvalue : key entry = key value
    · by_cases hid : key value = id
      · simp [hvalue, hid]
      · simpa [hvalue, hid] using ih
    · by_cases hid : key entry = id
      · have hother : key value ≠ id := fun hsame => hvalue (hid.trans hsame.symm)
        simp [hid, hother, Ne.symm hother]
      · simpa [hvalue, hid] using ih

theorem view_addKnown (key : String) : (index.addKnown key).view id =
    { index.view id with known := decide (key = id) || (index.view id).known } := by
  rw [addKnown]
  split
  · next hknown =>
    by_cases hsame : key = id
    · subst hsame
      simp [view, hknown]
    · simp [hsame]
  · by_cases hsame : key = id
    · simp [view, hsame]
    · simp [view, hsame, Ne.symm hsame]

theorem view_deleteUnresolved (key : String) : (index.deleteUnresolved key).view id =
    { index.view id with unresolved := if key = id then none else (index.view id).unresolved } := by
  have hfind := find?_filter_key Prod.fst (fun name => name ≠ key) id index.unresolvedUntil
  simp only [deleteUnresolved, view, hfind]
  by_cases hsame : key = id
  · simp only [hsame]
    simp
    rfl
  · simp [hsame, Ne.symm hsame]
    rfl

theorem view_deleteActive (key : String) : (index.deleteActive key).view id =
    { index.view id with active := !decide (key = id) && (index.view id).active } := by
  have hfind := find?_filter_key (fun job : RevitToolJob => job.id) (fun name => name ≠ key) id index.activeJobs
  simp only [deleteActive, view, hfind]
  by_cases hsame : key = id
  · simp [hsame]
    rfl
  · simp [hsame, Ne.symm hsame]
    rfl

theorem view_setActive (job : RevitToolJob) : (index.setActive job).view id =
    { index.view id with active := decide (job.id = id) || (index.view id).active } := by
  rw [setActive]
  split
  · next hknown =>
    obtain ⟨known, hmem, hid⟩ := hknown
    simp only [view, find?_map_key (fun job : RevitToolJob => job.id)]
    by_cases hsame : job.id = id
    · have hfound : (index.activeJobs.find? fun job => job.id = id).isSome = true :=
        List.find?_isSome.2 ⟨known, hmem, by simp [hid, hsame]⟩
      simp [hsame, hfound]
    · simp [hsame]
  · simp only [view, List.find?_append]
    by_cases hsame : job.id = id <;> simp [hsame]

theorem view_setUnresolved (key : String) (deadline : Int) : (index.setUnresolved key deadline).view id =
    { index.view id with unresolved := if key = id then some deadline else (index.view id).unresolved } := by
  rw [setUnresolved]
  split
  · next hknown =>
    obtain ⟨known, hmem, hid⟩ := hknown
    have hfind := find?_map_key Prod.fst (key, deadline) id index.unresolvedUntil
    simp only [view, hfind]
    by_cases hsame : key = id
    · obtain ⟨found, hfound⟩ : ∃ found, index.unresolvedUntil.find? (fun entry => entry.1 = id) = some found := by
        rw [← Option.isSome_iff_exists, List.find?_isSome]
        exact ⟨known, hmem, by simp [hid, hsame]⟩
      simp [hsame, hfound]
    · simp [hsame]
  · next hnew =>
    simp only [view, List.find?_append]
    by_cases hsame : key = id
    · have hnone : index.unresolvedUntil.find? (fun entry => entry.1 = id) = none := by
        rw [List.find?_eq_none]
        intro entry hentry hid
        exact hnew ⟨entry, hentry, (of_decide_eq_true hid).trans hsame.symm⟩
      simp [hsame, hnone]
    · simp [hsame]

theorem view_observeIndexedJob :
    (index.observeIndexedJob job).view id = if job.id = id then (Standing.ofJob job).entry else index.view id := by
  rw [observeIndexedJob, Standing.ofJob]
  by_cases hsame : job.id = id
  · cases isTerminal job.status <;>
      simp [view_setActive, view_deleteActive, view_deleteUnresolved, view_addKnown, hsame, Standing.entry]
  · cases isTerminal job.status <;>
      simp [view_setActive, view_deleteActive, view_deleteUnresolved, view_addKnown, hsame]

theorem view_known : (index.view id).known = true ↔ id ∈ index.knownIds := by
  simp [view]

/-- What a discovery makes of the directory it looks up. -/
def discovered (readJob : String → Option RevitToolJob) (now : Int) (id : String) (entry : Entry) : Entry :=
  if entry.known then entry
  else
    match readJob id with
    | none => { entry with unresolved := some (now + UNRESOLVED_JOB_RETRY_MS) }
    | some job => (Standing.ofJob job).entry

theorem discover_local (hreads : ∀ id job, readJob id = some job → job.id = id) :
    local_update.Local view (fun id => id) (discover readJob now) (discovered readJob now) := by
  intro index key id
  simp only [discover, discovered, view_known]
  by_cases hsame : key = id
  · subst hsame
    rw [if_pos rfl]
    split_ifs
    · rfl
    · cases hread : readJob key with
      | none => simp only [view_setUnresolved, if_true]
      | some job => simp only [view_observeIndexedJob, hreads key job hread, if_true]
  · rw [if_neg hsame]
    split_ifs
    · rfl
    · cases hread : readJob key with
      | none => simp only [view_setUnresolved, if_neg hsame]
      | some job => simp only [view_observeIndexedJob, hreads key job hread, if_neg hsame]

/-- What a retry makes of the directory it reads again. -/
def retried (readJob : String → Option RevitToolJob) (now : Int) (unresolved : String × Int) (entry : Entry) : Entry :=
  match readJob unresolved.1 with
  | some job => (Standing.ofJob job).entry
  | none => if unresolved.2 ≤ now then { entry with known := true, unresolved := none } else entry

theorem retry_local (hreads : ∀ id job, readJob id = some job → job.id = id) :
    local_update.Local view Prod.fst (retryUnresolved readJob now) (retried readJob now) := by
  intro index entry id
  rw [retryUnresolved, retried]
  cases hread : readJob entry.1 with
  | some job =>
    simp only [view_observeIndexedJob, hreads _ job hread]
  | none =>
    dsimp only
    split_ifs with hdue hsame hsame
    · simp [view_addKnown, view_deleteUnresolved, hsame]
    · simp [view_addKnown, view_deleteUnresolved, hsame]
    · rfl
    · rfl

theorem view_forgetAbsent (present : List String) : (index.forgetAbsent present).view id =
    if (index.view id).known ∧ id ∉ present then ⟨false, false, none⟩ else index.view id := by
  have hactive := find?_filter_key (fun job : RevitToolJob => job.id)
    (fun name => name ∉ index.knownIds ∨ name ∈ present) id index.activeJobs
  have hunresolved := find?_filter_key Prod.fst (fun name => name ∉ index.knownIds ∨ name ∈ present) id
    index.unresolvedUntil
  simp only [forgetAbsent, view, hactive, hunresolved]
  by_cases hknown : id ∈ index.knownIds
  · by_cases hpresent : id ∈ present <;> simp [hknown, hpresent]
  · simp [hknown]

theorem view_relisted (version : String) : { index with rootVersion := some version }.view id = index.view id :=
  rfl

/-- The last loop: the active jobs that are still to be claimed. -/
def confirmed (readJob : String → Option RevitToolJob) (index : ActiveJobIndex) : ActiveJobIndex :=
  { index with
    activeJobs := index.activeJobs.filterMap fun job =>
      (readJob job.id).filter fun current => !isTerminal current.status }

def stillPending (readJob : String → Option RevitToolJob) (id : String) : Bool :=
  (readJob id).any fun current => !isTerminal current.status

theorem mem_confirmed (hreads : ∀ id job, readJob id = some job → job.id = id) :
    job ∈ (confirmed readJob index).activeJobs ↔
      (index.view job.id).active = true ∧ readJob job.id = some job ∧ isTerminal job.status = false := by
  simp only [confirmed, List.mem_filterMap, Option.filter_eq_some_iff, Bool.not_eq_true']
  constructor
  · rintro ⟨indexed, hindexed, hread, hstatus⟩
    have hid := hreads indexed.id job hread
    refine ⟨List.find?_isSome.2 ⟨indexed, hindexed, by simp [hid]⟩, hid ▸ hread, hstatus⟩
  · rintro ⟨hactive, hread, hstatus⟩
    obtain ⟨indexed, hindexed, hid⟩ := List.find?_isSome.1 hactive
    exact ⟨indexed, hindexed, by rw [of_decide_eq_true hid, hread], hstatus⟩

theorem view_confirmed (hreads : ∀ id job, readJob id = some job → job.id = id) :
    (confirmed readJob index).view id =
      { index.view id with active := (index.view id).active && stillPending readJob id } := by
  have hactive : ((confirmed readJob index).view id).active = ((index.view id).active && stillPending readJob id) := by
    rw [Bool.eq_iff_iff, Bool.and_eq_true, stillPending, Option.any_eq_true]
    constructor
    · intro h
      obtain ⟨job, hjob, hid⟩ := List.find?_isSome.1 h
      obtain rfl := of_decide_eq_true hid
      obtain ⟨hindexed, hread, hstatus⟩ := (mem_confirmed hreads).1 hjob
      exact ⟨hindexed, job, hread, by simp [hstatus]⟩
    · rintro ⟨hindexed, job, hread, hstatus⟩
      obtain rfl := hreads id job hread
      refine List.find?_isSome.2 ⟨job, (mem_confirmed hreads).2 ⟨hindexed, hread, ?_⟩, by simp⟩
      simpa using hstatus
  rw [← hactive]
  rfl

end views

section awaited

variable {index : ActiveJobIndex} {readJob : String → Option RevitToolJob} {now : Int}

/-- No directory is awaited twice. -/
def AwaitedOnce (index : ActiveJobIndex) : Prop := (index.unresolvedUntil.map Prod.fst).Nodup

theorem observeIndexedJob_unresolvedUntil (job : RevitToolJob) :
    (index.observeIndexedJob job).unresolvedUntil = index.unresolvedUntil.filter fun entry => entry.1 ≠ job.id := by
  rw [observeIndexedJob]
  split
  · rw [deleteActive, deleteUnresolved, addKnown]
    split <;> rfl
  · rw [setActive]
    split
    · rw [deleteUnresolved, addKnown]
      split <;> rfl
    · rw [deleteUnresolved, addKnown]
      split <;> rfl

theorem observeIndexedJob_awaitedOnce (h : index.AwaitedOnce) (job : RevitToolJob) :
    (index.observeIndexedJob job).AwaitedOnce := by
  rw [AwaitedOnce, observeIndexedJob_unresolvedUntil]
  exact h.sublist (List.filter_sublist.map _)

theorem setUnresolved_awaitedOnce (h : index.AwaitedOnce) (id : String) (deadline : Int) :
    (index.setUnresolved id deadline).AwaitedOnce := by
  rw [AwaitedOnce, setUnresolved]
  split
  · have hkeys : (index.unresolvedUntil.map fun entry => if entry.1 = id then (id, deadline) else entry).map Prod.fst
        = index.unresolvedUntil.map Prod.fst := by
      rw [List.map_map]
      refine List.map_congr_left fun entry _ => ?_
      by_cases hsame : entry.1 = id
      · simp [hsame]
      · simp [hsame]
    rw [hkeys]
    exact h
  · next hnew =>
    rw [List.map_append, List.nodup_append]
    refine ⟨h, by simp, fun name hname other hother hsame => hnew ?_⟩
    obtain ⟨entry, hentry, rfl⟩ := List.mem_map.1 hname
    exact ⟨entry, hentry, hsame.trans (by simpa using hother)⟩

theorem discover_awaitedOnce (h : index.AwaitedOnce) (id : String) : (discover readJob now index id).AwaitedOnce := by
  rw [discover]
  split
  · exact h
  · split
    · exact setUnresolved_awaitedOnce h _ _
    · exact observeIndexedJob_awaitedOnce h _

theorem retryUnresolved_awaitedOnce (h : index.AwaitedOnce) (entry : String × Int) :
    (retryUnresolved readJob now index entry).AwaitedOnce := by
  rw [retryUnresolved]
  split
  · exact observeIndexedJob_awaitedOnce h _
  · split
    · have hdeleted : (index.deleteUnresolved entry.1).AwaitedOnce := h.sublist (List.filter_sublist.map _)
      rw [addKnown]
      split
      · exact hdeleted
      · exact hdeleted
    · exact h

theorem foldl_awaitedOnce {Item : Type} {advance : ActiveJobIndex → Item → ActiveJobIndex}
    (hadvance : ∀ index item, index.AwaitedOnce → (advance index item).AwaitedOnce) (items : List Item)
    (h : index.AwaitedOnce) : (items.foldl advance index).AwaitedOnce := by
  induction items generalizing index with
  | nil => exact h
  | cons item rest ih => exact ih (hadvance index item h)

end awaited

end revit_operator.courier.ActiveJobIndex
