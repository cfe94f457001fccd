import RevitOperator.Courier.IndexView
import RevitOperator.Courier.JobStore

/-! The index over a history of enumerations and observations: what it knows of one
    directory depends on what was seen of that directory. -/

namespace revit_operator.courier.ActiveJobIndex

/-- The root as one enumeration finds it: the version and the entries of the
    directory, and the jobs that can be read. -/
structure Enumeration where
  readJob : String → Option RevitToolJob
  now : Int
  version : String
  directories : List String
  distinct : directories.Nodup
  reads : ∀ id job, readJob id = some job → job.id = id ∧ id ∈ directories

/-- What happens to the index. An enumeration whose root cannot be read returns
    nothing. -/
inductive IndexEvent where
  | enumerate (call : Enumeration)
  | failed
  | observe (job : RevitToolJob)

/-- The index of the root, once there is one. -/
def IndexEvent.apply (index : Option ActiveJobIndex) : IndexEvent → Option ActiveJobIndex
  | .enumerate call =>
    some (enumerateActiveJobs call.readJob call.now call.version call.directories (index.getD empty))
  | .failed => some (index.getD empty)
  | .observe job => index.map fun known => known.observeIndexedJob job

def indexAfter (events : List IndexEvent) : Option ActiveJobIndex := events.foldl IndexEvent.apply none

/-- The jobs an enumeration returns. -/
def returned (call : Enumeration) (index : Option ActiveJobIndex) : List RevitToolJob :=
  (enumerateActiveJobs call.readJob call.now call.version call.directories (index.getD empty)).activeJobs

/-- A job that can be read and is not finished. -/
def Fresh (call : Enumeration) (job : RevitToolJob) : Prop :=
  call.readJob job.id = some job ∧ isTerminal job.status = false

/-- What an enumeration makes of one directory. -/
def Standing.next (call : Enumeration) (relisted : Bool) (id : String) (standing : Standing) : Standing :=
  let listed : Bool := id ∈ call.directories
  match standing, call.readJob id with
  | .unseen, some job => if relisted then ofJob job else .unseen
  | .unseen, none => if relisted && listed then .awaited (call.now + UNRESOLVED_JOB_RETRY_MS) else .unseen
  | .awaited _, some job => ofJob job
  | .awaited deadline, none =>
    if relisted && listed then .awaited (call.now + UNRESOLVED_JOB_RETRY_MS)
    else if deadline ≤ call.now then if listed then .settled else .untracked
    else .awaited deadline
  | .pending, some job => ofJob job
  | .pending, none => if relisted && !listed then .unseen else .untracked
  | .settled, _ => if relisted && !listed then .unseen else .settled
  | .untracked, _ => if relisted && !listed then .unseen else .untracked

/-- What is to be known of the root: the version it was last listed at, and the
    standing of every directory. -/
structure Outlook where
  listed : Option String
  standing : String → Standing

namespace Outlook

def initial : Outlook := ⟨none, fun _ => .unseen⟩

def enumerate (call : Enumeration) (outlook : Outlook) : Outlook where
  listed := some call.version
  standing id := (outlook.standing id).next call (outlook.listed ≠ some call.version) id

def observe (job : RevitToolJob) (outlook : Outlook) : Outlook :=
  { outlook with standing := Function.update outlook.standing job.id (.ofJob job) }

def apply (outlook : Option Outlook) : IndexEvent → Option Outlook
  | .enumerate call => some ((outlook.getD initial).enumerate call)
  | .failed => some (outlook.getD initial)
  | .observe job => outlook.map (observe job)

end Outlook

def outlookAfter (events : List IndexEvent) : Option Outlook := events.foldl Outlook.apply none

/-- The standing of a directory after the events. -/
def standingAfter (events : List IndexEvent) (id : String) : Standing :=
  ((outlookAfter events).getD .initial).standing id

section simulation

variable {index : ActiveJobIndex} {outlook : Outlook} {call : Enumeration} {id : String} {job : RevitToolJob}

/-- The index after the root was listed, when it had to be. -/
def scanned (call : Enumeration) (index : ActiveJobIndex) : ActiveJobIndex :=
  if index.rootVersion = some call.version then index
  else { call.directories.foldl (discover call.readJob call.now) (index.forgetAbsent call.directories) with
    rootVersion := some call.version }

/-- The index after the awaited directories were read again. -/
def resolved (call : Enumeration) (index : ActiveJobIndex) : ActiveJobIndex :=
  (scanned call index).unresolvedUntil.foldl (retryUnresolved call.readJob call.now) (scanned call index)

theorem enumerateActiveJobs_eq (call : Enumeration) (index : ActiveJobIndex) :
    enumerateActiveJobs call.readJob call.now call.version call.directories index
      = confirmed call.readJob (resolved call index) :=
  rfl

theorem reads_id (call : Enumeration) (id : String) (job : RevitToolJob) (h : call.readJob id = some job) :
    job.id = id :=
  (call.reads id job h).1

theorem scanned_awaitedOnce (h : index.AwaitedOnce) : (scanned call index).AwaitedOnce := by
  rw [scanned]
  split_ifs
  · exact h
  · have hforgotten : (index.forgetAbsent call.directories).AwaitedOnce := h.sublist (List.filter_sublist.map _)
    exact foldl_awaitedOnce (fun _ item hindex => discover_awaitedOnce hindex item) _ hforgotten

theorem resolved_awaitedOnce (h : index.AwaitedOnce) : (resolved call index).AwaitedOnce :=
  foldl_awaitedOnce (fun _ entry hindex => retryUnresolved_awaitedOnce hindex entry) _ (scanned_awaitedOnce h)

theorem view_scanned : (scanned call index).view id =
    if index.rootVersion = some call.version then index.view id
    else if id ∈ call.directories then
      discovered call.readJob call.now id ((index.forgetAbsent call.directories).view id)
    else (index.forgetAbsent call.directories).view id := by
  have hlocal : local_update.Local view (fun id => id) (discover call.readJob call.now)
      (discovered call.readJob call.now) := discover_local (reads_id call)
  rw [scanned]
  split_ifs with hversion hlisted
  · rfl
  · rw [view_relisted]
    exact hlocal.foldl_of_mem (by simpa using call.distinct) hlisted _
  · rw [view_relisted]
    refine hlocal.foldl_of_notMem (fun name hname hsame => hlisted ?_) _
    exact (show name = id from hsame) ▸ hname

theorem view_resolved (h : index.AwaitedOnce) : (resolved call index).view id =
    match ((scanned call index).view id).unresolved with
    | some deadline => retried call.readJob call.now (id, deadline) ((scanned call index).view id)
    | none => (scanned call index).view id := by
  have hlocal : local_update.Local view Prod.fst (retryUnresolved call.readJob call.now)
      (retried call.readJob call.now) := retry_local (reads_id call)
  cases hfind : (scanned call index).unresolvedUntil.find? fun entry => entry.1 = id with
  | none =>
    have hview : ((scanned call index).view id).unresolved = none := by rw [view, hfind]; rfl
    rw [hview]
    refine hlocal.foldl_of_notMem (fun entry hentry hsame => ?_) _
    exact List.find?_eq_none.1 hfind entry hentry (decide_eq_true hsame)
  | some entry =>
    have hview : ((scanned call index).view id).unresolved = some entry.2 := by rw [view, hfind]; rfl
    have hid : entry.1 = id := by simpa using List.find?_some hfind
    rw [hview]
    subst hid
    exact hlocal.foldl_of_mem (scanned_awaitedOnce h) (List.mem_of_find?_eq_some hfind) _

/-- The index knows what is to be known. -/
structure Reflects (index : ActiveJobIndex) (outlook : Outlook) : Prop where
  listed : index.rootVersion = outlook.listed
  view : ∀ id, index.view id = (outlook.standing id).entry
  awaitedOnce : index.AwaitedOnce

theorem reflects_initial : Reflects empty .initial :=
  ⟨rfl, fun _ => rfl, List.nodup_nil⟩

theorem observeIndexedJob_rootVersion (job : RevitToolJob) :
    (index.observeIndexedJob job).rootVersion = index.rootVersion := by
  rw [observeIndexedJob]
  split
  · rw [deleteActive, deleteUnresolved, addKnown]
    split <;> rfl
  · rw [setActive]
    split
    · rw [deleteUnresolved, addKnown]
      split <;> rfl
    · rw [deleteUnresolved, addKnown]
      split <;> rfl

theorem retryUnresolved_rootVersion {readJob : String → Option RevitToolJob} {now : Int} (entry : String × Int) :
    (retryUnresolved readJob now index entry).rootVersion = index.rootVersion := by
  rw [retryUnresolved]
  split
  · exact observeIndexedJob_rootVersion _
  · split
    · rw [addKnown]
      split <;> rfl
    · rfl

theorem resolved_rootVersion : (resolved call index).rootVersion = some call.version := by
  have hkept : ∀ (entries : List (String × Int)) (start : ActiveJobIndex),
      (entries.foldl (retryUnresolved call.readJob call.now) start).rootVersion = start.rootVersion := by
    intro entries
    induction entries with
    | nil => exact fun _ => rfl
    | cons entry rest ih => exact fun start => (ih _).trans (retryUnresolved_rootVersion entry)
  rw [resolved, hkept, scanned]
  split_ifs with hversion
  · exact hversion
  · rfl

theorem Reflects.observe (h : Reflects index outlook) (job : RevitToolJob) :
    Reflects (index.observeIndexedJob job) (outlook.observe job) where
  listed := (observeIndexedJob_rootVersion job).trans h.listed
  view id := by
    simp only [view_observeIndexedJob, Outlook.observe]
    by_cases hsame : job.id = id
    · subst hsame
      rw [if_pos rfl, Function.update_self]
    · rw [if_neg hsame, Function.update_of_ne (Ne.symm hsame), h.view]
  awaitedOnce := observeIndexedJob_awaitedOnce h.awaitedOnce job

theorem Reflects.view_enumerate (h : Reflects index outlook) (call : Enumeration) (id : String) :
    (confirmed call.readJob (resolved call index)).view id
      = ((outlook.standing id).next call (outlook.listed ≠ some call.version) id).entry := by
  have hwindow : ¬ UNRESOLVED_JOB_RETRY_MS ≤ 0 := by decide
  rw [view_confirmed (reads_id call), view_resolved h.awaitedOnce, view_scanned, view_forgetAbsent, h.view, h.listed]
  cases hread : call.readJob id with
  | none =>
    by_cases hversion : outlook.listed = some call.version
    · cases outlook.standing id with
      | awaited deadline =>
        by_cases hdue : deadline ≤ call.now <;> by_cases hpresent : id ∈ call.directories <;>
          simp [hversion, hdue, hpresent, Standing.next, Standing.entry, hread, stillPending, retried]
      | _ => simp [hversion, Standing.next, Standing.entry, hread, stillPending]
    · by_cases hpresent : id ∈ call.directories
      · cases outlook.standing id <;>
          simp [hversion, hpresent, hwindow, Standing.next, Standing.entry, hread, stillPending, retried, discovered]
      · cases outlook.standing id with
        | awaited deadline =>
          by_cases hdue : deadline ≤ call.now <;>
            simp [hversion, hdue, hpresent, Standing.next, Standing.entry, hread, stillPending, retried]
        | _ => simp [hversion, hpresent, Standing.next, Standing.entry, hread, stillPending]
  | some job =>
    have hpresent := (call.reads id job hread).2
    by_cases hversion : outlook.listed = some call.version
    · cases outlook.standing id <;> cases hstatus : isTerminal job.status <;>
        simp [hversion, hpresent, hstatus, Standing.next, Standing.ofJob, Standing.entry, hread, stillPending, retried]
    · cases outlook.standing id <;> cases hstatus : isTerminal job.status <;>
        simp [hversion, hpresent, hstatus, Standing.next, Standing.ofJob, Standing.entry, hread, stillPending,
          discovered]

theorem Reflects.enumerate (h : Reflects index outlook) (call : Enumeration) :
    Reflects (enumerateActiveJobs call.readJob call.now call.version call.directories index)
      (outlook.enumerate call) where
  listed := resolved_rootVersion
  view := h.view_enumerate call
  awaitedOnce := resolved_awaitedOnce h.awaitedOnce

end simulation

section history

variable {entries : String → Set String} {events pre : List IndexEvent} {call : Enumeration} {index : ActiveJobIndex}
  {outlook : Outlook}

theorem indexAfter_append (events : List IndexEvent) (event : IndexEvent) :
    indexAfter (events ++ [event]) = event.apply (indexAfter events) := by
  rw [indexAfter, List.foldl_append]
  rfl

theorem outlookAfter_append (events : List IndexEvent) (event : IndexEvent) :
    outlookAfter (events ++ [event]) = Outlook.apply (outlookAfter events) event := by
  rw [outlookAfter, List.foldl_append]
  rfl

/-- Along every history the index knows what is to be known, and has no job
    twice. -/
theorem reflects_after (events : List IndexEvent) :
    (indexAfter events).isSome = (outlookAfter events).isSome
    ∧ Reflects ((indexAfter events).getD empty) ((outlookAfter events).getD .initial)
    ∧ ((indexAfter events).getD empty).Distinct := by
  induction events using List.reverseRecOn with
  | nil => exact ⟨rfl, reflects_initial, empty_distinct⟩
  | append_singleton events event ih =>
    obtain ⟨hsome, hreflects, hdistinct⟩ := ih
    rw [indexAfter_append, outlookAfter_append]
    cases event with
    | enumerate call =>
      exact ⟨rfl, hreflects.enumerate call, enumerateActiveJobs_distinct (reads_id call) hdistinct⟩
    | failed => exact ⟨rfl, hreflects, hdistinct⟩
    | observe job =>
      cases hindex : indexAfter events with
      | none =>
        have hnone : outlookAfter events = none := by
          rw [hindex] at hsome
          simpa using hsome.symm
        rw [hnone]
        exact ⟨rfl, reflects_initial, empty_distinct⟩
      | some index =>
        rw [hindex] at hsome hreflects hdistinct
        obtain ⟨outlook, houtlook⟩ := Option.isSome_iff_exists.1 hsome.symm
        rw [houtlook] at hreflects ⊢
        exact ⟨rfl, hreflects.observe job, observeIndexedJob_distinct hdistinct job⟩

/-- Every enumeration of the history lists the entries of its version. -/
def ListsEntries (entries : String → Set String) (events : List IndexEvent) : Prop :=
  ∀ call, .enumerate call ∈ events → ∀ id, id ∈ call.directories ↔ id ∈ entries call.version

/-- Everything that was listed has been looked at. -/
def Outlook.Looked (entries : String → Set String) (outlook : Outlook) : Prop :=
  ∀ version, outlook.listed = some version → ∀ id ∈ entries version, outlook.standing id ≠ .unseen

theorem Standing.ofJob_ne_unseen (job : RevitToolJob) : Standing.ofJob job ≠ .unseen := by
  rw [Standing.ofJob]
  split <;> simp

theorem Standing.next_ne_unseen {standing : Standing} {relisted : Bool} {id : String} (hlisted : id ∈ call.directories)
    (hseen : relisted = false → standing ≠ .unseen) : standing.next call relisted id ≠ .unseen := by
  cases hread : call.readJob id with
  | some job =>
    cases relisted <;> cases standing <;> simp_all [Standing.next, Standing.ofJob_ne_unseen]
  | none =>
    cases relisted <;> cases standing <;> simp_all [Standing.next]
    all_goals split_ifs <;> simp

theorem Outlook.Looked.enumerate (h : outlook.Looked entries)
    (hlists : ∀ id, id ∈ call.directories ↔ id ∈ entries call.version) : (outlook.enumerate call).Looked entries := by
  rintro version hversion id hid
  obtain rfl := Option.some.inj hversion
  refine Standing.next_ne_unseen ((hlists id).2 hid) fun hsame => ?_
  exact h _ (by simpa using hsame) id hid

theorem Outlook.Looked.observe (h : outlook.Looked entries) (job : RevitToolJob) :
    (outlook.observe job).Looked entries := by
  intro version hversion id hid
  by_cases hsame : id = job.id
  · subst hsame
    simpa [Outlook.observe] using Standing.ofJob_ne_unseen job
  · simpa [Outlook.observe, hsame] using h version hversion id hid

theorem looked_after (hlists : ListsEntries entries events) : ((outlookAfter events).getD .initial).Looked entries := by
  have hinitial : Outlook.Looked entries .initial := fun _ hversion => nomatch hversion
  induction events using List.reverseRecOn with
  | nil => exact hinitial
  | append_singleton events event ih =>
    have hlooked := ih fun call hcall => hlists call (List.mem_append_left _ hcall)
    rw [outlookAfter_append]
    cases event with
    | enumerate call => exact hlooked.enumerate (hlists call (List.mem_append_right _ List.mem_cons_self))
    | failed => exact hlooked
    | observe job =>
      cases houtlook : outlookAfter events with
      | none => exact hinitial
      | some outlook =>
        rw [houtlook] at hlooked
        exact hlooked.observe job

theorem Standing.active_entry {standing : Standing} : standing.entry.active = true ↔ standing = .pending := by
  cases standing <;> simp [Standing.entry]

theorem mem_returned (hreflects : Reflects index outlook) {job : RevitToolJob} :
    job ∈ (enumerateActiveJobs call.readJob call.now call.version call.directories index).activeJobs ↔
      Fresh call job ∧ (outlook.enumerate call).standing job.id = .pending := by
  have hview := congrArg Entry.active ((hreflects.enumerate call).view job.id)
  rw [enumerateActiveJobs_eq, view_confirmed (reads_id call)] at hview
  rw [enumerateActiveJobs_eq, mem_confirmed (reads_id call), ← Standing.active_entry, ← hview, and_comm]
  refine and_congr_right fun hfresh => ?_
  have hpending : stillPending call.readJob job.id = true := by
    rw [stillPending, hfresh.1]
    simpa using hfresh.2
  rw [hpending, Bool.and_true]

theorem Standing.next_of_fresh {job : RevitToolJob} (hfresh : Fresh call job) {standing : Standing} {relisted : Bool}
    (hseen : relisted = false → standing ≠ .unseen) (htracked : standing ≠ .untracked) :
    standing.next call relisted job.id = .pending ↔ standing ≠ .settled := by
  have hofJob : ofJob job = .pending := by rw [ofJob, hfresh.2]; rfl
  have hlisted := (call.reads job.id job hfresh.1).2
  cases standing with
  | unseen => cases relisted <;> simp_all [Standing.next, hfresh.1]
  | awaited deadline => simp [Standing.next, hfresh.1, hofJob]
  | pending => simp [Standing.next, hfresh.1, hofJob]
  | settled => simp [Standing.next, hlisted]
  | untracked => exact absurd rfl htracked

/-- Every enumeration of a history returns no job twice, and only jobs that are
    readable and unfinished now. A directory that is neither settled nor untracked
    has its job returned exactly when it is readable and unfinished; one that is
    settled does not. -/
theorem enumeration_exact (hlists : ListsEntries entries events) (hpre : pre ++ [.enumerate call] <+: events) :
    ((returned call (indexAfter pre)).map fun job => job.id).Nodup
    ∧ ∀ job : RevitToolJob, (job ∈ returned call (indexAfter pre) → Fresh call job)
      ∧ (standingAfter pre job.id ≠ .untracked →
        (job ∈ returned call (indexAfter pre) ↔ Fresh call job ∧ standingAfter pre job.id ≠ .settled)) := by
  obtain ⟨-, hreflects, hdistinct⟩ := reflects_after pre
  have hcall := hlists call (hpre.subset (List.mem_append_right _ List.mem_cons_self))
  have hlooked : ((outlookAfter pre).getD .initial).Looked entries := looked_after fun earlier hearlier =>
    hlists earlier (hpre.subset (List.mem_append_left _ hearlier))
  refine ⟨enumerateActiveJobs_distinct (reads_id call) hdistinct, fun job => ⟨?_, fun htracked => ?_⟩⟩
  · exact fun h => ((mem_returned hreflects).1 h).1
  · refine (mem_returned hreflects).trans (and_congr_right fun hfresh => ?_)
    refine Standing.next_of_fresh hfresh (fun hsame => ?_) htracked
    have hlisted := (call.reads job.id job hfresh.1).2
    exact hlooked _ (by simpa using hsame) _ ((hcall _).1 hlisted)

/-- A job that can be read from some moment on, in a directory that is listed
    from the start. -/
def lateJob : RevitToolJob := publishedJob (plainContract "a")

/-- An enumeration of the one directory. -/
def pollAt (now : Int) (written : Bool) : Enumeration where
  readJob id := if written ∧ id = "a" then some lateJob else none
  now := now
  version := "1"
  directories := ["a"]
  distinct := List.nodup_singleton _
  reads := by
    intro id job h
    split at h
    · next hid =>
      cases h
      exact ⟨hid.2.symm, by simp [hid.2]⟩
    · cases h

/-- A job that appears within the window is returned. -/
theorem enumeration_exact_within_window :
    lateJob ∈ returned (pollAt 4000 true) (indexAfter [.enumerate (pollAt 0 false)]) := by
  have hlists : ListsEntries (fun _ => {"a"}) [.enumerate (pollAt 0 false), .enumerate (pollAt 4000 true)] := by
    intro call hcall id
    have hdirectories : call.directories = ["a"] := by
      obtain h | h : IndexEvent.enumerate call = .enumerate (pollAt 0 false)
          ∨ IndexEvent.enumerate call = .enumerate (pollAt 4000 true) := by
        simpa using hcall
      · cases h
        rfl
      · cases h
        rfl
    simp [hdirectories]
  have hpre : [IndexEvent.enumerate (pollAt 0 false)] ++ [.enumerate (pollAt 4000 true)]
      <+: [.enumerate (pollAt 0 false), .enumerate (pollAt 4000 true)] := List.prefix_refl _
  have hexact := (enumeration_exact hlists hpre).2 lateJob
  have hstanding : standingAfter [.enumerate (pollAt 0 false)] lateJob.id = .awaited 5000 := by decide
  exact (hexact.2 (by rw [hstanding]; decide)).2 ⟨⟨rfl, rfl⟩, by rw [hstanding]; decide⟩

/-- A job that appears after the window is not returned. -/
theorem late_job_not_returned :
    Fresh (pollAt 6000 true) lateJob
    ∧ lateJob ∉ returned (pollAt 6000 true)
      (indexAfter [.enumerate (pollAt 0 false), .enumerate (pollAt 5000 false)]) := by
  exact ⟨⟨rfl, rfl⟩, by decide⟩

end history

end revit_operator.courier.ActiveJobIndex
