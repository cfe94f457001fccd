import RevitOperator.Courier.Job

namespace revit_operator.courier

/-- The in-memory index of the jobs that may still be claimed. The sets and maps
    keep their insertion order. -/
structure ActiveJobIndex where
  rootVersion : Option String
  knownIds : List String
  activeJobs : List RevitToolJob
  unresolvedUntil : List (String × Int)

variable {index : ActiveJobIndex}

namespace ActiveJobIndex

def UNRESOLVED_JOB_RETRY_MS : Int := 5000

def empty : ActiveJobIndex := ⟨none, [], [], []⟩

def isTerminal (status : JobStatus) : Bool := status == .succeeded || status == .failed

def addKnown (index : ActiveJobIndex) (id : String) : ActiveJobIndex :=
  if id ∈ index.knownIds then index else { index with knownIds := index.knownIds ++ [id] }

def deleteUnresolved (index : ActiveJobIndex) (id : String) : ActiveJobIndex :=
  { index with unresolvedUntil := index.unresolvedUntil.filter fun entry => entry.1 ≠ id }

def deleteActive (index : ActiveJobIndex) (id : String) : ActiveJobIndex :=
  { index with activeJobs := index.activeJobs.filter fun job => job.id ≠ id }

/-- `activeJobs.set(job.id, job)`: a known key keeps its place. -/
def setActive (index : ActiveJobIndex) (job : RevitToolJob) : ActiveJobIndex :=
  if ∃ known ∈ index.activeJobs, known.id = job.id then
    { index with activeJobs := index.activeJobs.map fun known => if known.id = job.id then job else known }
  else { index with activeJobs := index.activeJobs ++ [job] }

def setUnresolved (index : ActiveJobIndex) (id : String) (deadline : Int) : ActiveJobIndex :=
  if ∃ entry ∈ index.unresolvedUntil, entry.1 = id then
    { index with
      unresolvedUntil := index.unresolvedUntil.map fun entry => if entry.1 = id then (id, deadline) else entry }
  else { index with unresolvedUntil := index.unresolvedUntil ++ [(id, deadline)] }

def observeIndexedJob (index : ActiveJobIndex) (job : RevitToolJob) : ActiveJobIndex :=
  let observed := (index.addKnown job.id).deleteUnresolved job.id
  if isTerminal job.status then observed.deleteActive job.id else observed.setActive job

/-- Forget the ids whose directory is gone. -/
def forgetAbsent (index : ActiveJobIndex) (present : List String) : ActiveJobIndex where
  rootVersion := index.rootVersion
  knownIds := index.knownIds.filter (· ∈ present)
  activeJobs := index.activeJobs.filter fun job => job.id ∉ index.knownIds ∨ job.id ∈ present
  unresolvedUntil := index.unresolvedUntil.filter fun entry => entry.1 ∉ index.knownIds ∨ entry.1 ∈ present

/-- Look up a directory the index does not know yet. -/
def discover (readJob : String → Option RevitToolJob) (now : Int) (index : ActiveJobIndex) (id : String) :
    ActiveJobIndex :=
  if id ∈ index.knownIds then index
  else
    match readJob id with
    | none => index.setUnresolved id (now + UNRESOLVED_JOB_RETRY_MS)
    | some job => index.observeIndexedJob job

/-- Read a directory again that had no readable job when it was discovered. -/
def retryUnresolved (readJob : String → Option RevitToolJob) (now : Int) (index : ActiveJobIndex)
    (entry : String × Int) : ActiveJobIndex :=
  match readJob entry.1 with
  | some job => index.observeIndexedJob job
  | none => if entry.2 ≤ now then (index.deleteUnresolved entry.1).addKnown entry.1 else index

/-- `enumerateActiveJobs`: bring the index up to date with the directories and
    read every active job again. -/
def enumerateActiveJobs (readJob : String → Option RevitToolJob) (now : Int) (version : String)
    (directories : List String) (known : ActiveJobIndex) : ActiveJobIndex :=
  let scanned :=
    if known.rootVersion = some version then known
    else
      { directories.foldl (discover readJob now) (known.forgetAbsent directories) with
        rootVersion := some version }
  let resolved := scanned.unresolvedUntil.foldl (retryUnresolved readJob now) scanned
  { resolved with
    activeJobs := resolved.activeJobs.filterMap fun job =>
      (readJob job.id).filter fun current => !isTerminal current.status }

/-- No two active jobs have one id. -/
def Distinct (index : ActiveJobIndex) : Prop := (index.activeJobs.map fun job => job.id).Nodup

theorem empty_distinct : empty.Distinct := List.nodup_nil

theorem deleteActive_distinct (h : index.Distinct) (id : String) :
    (index.deleteActive id).Distinct :=
  h.sublist (List.filter_sublist.map _)

theorem setActive_distinct (h : index.Distinct) (job : RevitToolJob) :
    (index.setActive job).Distinct := by
  rw [Distinct, setActive]
  split
  · have hids : (index.activeJobs.map fun known => if known.id = job.id then job else known).map (fun job => job.id)
        = index.activeJobs.map fun job => job.id := by
      rw [List.map_map]
      refine List.map_congr_left fun known _ => ?_
      by_cases hsame : known.id = job.id
      · simp [hsame]
      · simp [hsame]
    rw [hids]
    exact h
  · next hnew =>
    rw [List.map_append, List.nodup_append]
    refine ⟨h, by simp, fun id hid other hother => ?_⟩
    obtain ⟨known, hknown, rfl⟩ := List.mem_map.1 hid
    have hlast : other = job.id := by simpa using hother
    rw [hlast]
    exact fun hsame => hnew ⟨known, hknown, hsame⟩

theorem observeIndexedJob_distinct (h : index.Distinct) (job : RevitToolJob) :
    (index.observeIndexedJob job).Distinct := by
  have hobserved : ((index.addKnown job.id).deleteUnresolved job.id).Distinct := by
    rw [addKnown]
    split
    · exact h
    · exact h
  rw [observeIndexedJob]
  split
  · exact deleteActive_distinct hobserved _
  · exact setActive_distinct hobserved _

theorem discover_distinct {readJob : String → Option RevitToolJob} {now : Int}
    (h : index.Distinct) (id : String) : (discover readJob now index id).Distinct := by
  rw [discover]
  split
  · exact h
  · split
    · rw [setUnresolved]
      split
      · exact h
      · exact h
    · exact observeIndexedJob_distinct h _

theorem retryUnresolved_distinct {readJob : String → Option RevitToolJob} {now : Int}
    (h : index.Distinct) (entry : String × Int) : (retryUnresolved readJob now index entry).Distinct := by
  rw [retryUnresolved]
  split
  · exact observeIndexedJob_distinct h _
  · split
    · rw [addKnown]
      split
      · exact h
      · exact h
    · exact h

private theorem foldl_distinct {α : Type} {advance : ActiveJobIndex → α → ActiveJobIndex}
    (hadvance : ∀ index entry, index.Distinct → (advance index entry).Distinct) (entries : List α)
    (h : index.Distinct) : (entries.foldl advance index).Distinct := by
  induction entries generalizing index with
  | nil => exact h
  | cons entry rest ih => exact ih (hadvance index entry h)

private theorem filterMap_ids_sublist {read : RevitToolJob → Option RevitToolJob}
    (hread : ∀ known current, read known = some current → current.id = known.id) (jobs : List RevitToolJob) :
    ((jobs.filterMap read).map fun job => job.id).Sublist (jobs.map fun job => job.id) := by
  induction jobs with
  | nil => simp
  | cons known rest ih =>
    cases hknown : read known with
    | none =>
      rw [List.filterMap_cons_none hknown, List.map_cons]
      exact ih.cons _
    | some current =>
      rw [List.filterMap_cons_some hknown, List.map_cons, List.map_cons, hread known current hknown]
      exact ih.cons_cons _

section enumeration

variable {readJob : String → Option RevitToolJob} {now : Int} {version : String} {directories : List String}
  {known : ActiveJobIndex}

theorem enumerateActiveJobs_distinct (hread : ∀ id job, readJob id = some job → job.id = id)
    (h : known.Distinct) : (enumerateActiveJobs readJob now version directories known).Distinct := by
  have hforgotten : (known.forgetAbsent directories).Distinct := h.sublist (List.filter_sublist.map _)
  rw [enumerateActiveJobs]
  refine List.Nodup.sublist (filterMap_ids_sublist ?_ _) (foldl_distinct (fun _ entry hindex =>
    retryUnresolved_distinct hindex entry) _ ?_)
  · intro job current hcurrent
    rw [Option.filter_eq_some_iff] at hcurrent
    exact hread job.id current hcurrent.1
  · split
    · exact h
    · exact foldl_distinct (fun _ entry hindex => discover_distinct hindex entry) directories hforgotten

theorem enumerateActiveJobs_fresh (hread : ∀ id job, readJob id = some job → job.id = id) {job : RevitToolJob}
    (h : job ∈ (enumerateActiveJobs readJob now version directories known).activeJobs) :
    readJob job.id = some job := by
  rw [enumerateActiveJobs] at h
  obtain ⟨indexed, _, hcurrent⟩ := List.mem_filterMap.1 h
  rw [Option.filter_eq_some_iff] at hcurrent
  rw [hread indexed.id job hcurrent.1]
  exact hcurrent.1

end enumeration

end ActiveJobIndex

end revit_operator.courier
