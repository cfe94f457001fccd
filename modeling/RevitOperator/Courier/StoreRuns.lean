import RevitOperator.Courier.JobStore

open checked durable durable.Program Relation

namespace revit_operator.courier

/-- What happens to the store between two moments: a protocol write in one job
    directory, a scan, a new job, or a restart. -/
inductive StoreStep : CourierStore → CourierStore → Prop where
  | wrote {store : CourierStore} (jobId : String) (contract : CourierContract) (desk : JobDesk)
      (hholds : (store.files jobId).Holds contract)
      (hstep : DeskStep contract ((jobPart jobId).get store) desk) :
      StoreStep store ((jobPart jobId).set store desk)
  | scanned {store : CourierStore} (env : CourierEnvironment) :
      StoreStep store { store with index := some (store.scanned env) }
  | published {store : CourierStore} (contract : CourierContract)
      (hfree : (store.files contract.id).job = none) : StoreStep store (store.withJob contract)
  | restarted {store : CourierStore} : StoreStep store { store with index := none }

/-- The directory of an id is untouched, or holds a job of that id with sound
    files. -/
def DirectorySound (jobId : String) (files : JobFiles) : Prop :=
  files = .empty ∨ ∃ contract : CourierContract,
    contract.id = jobId ∧ files.Holds contract ∧ files.Sound contract

/-- Every directory of the store is sound, and the index lists no job twice. -/
structure CourierStore.Sound (store : CourierStore) : Prop where
  directory : ∀ jobId, DirectorySound jobId (store.files jobId)
  index : ∀ index, store.index = some index → index.Distinct

theorem CourierStore.empty_sound : CourierStore.empty.Sound :=
  ⟨fun _ => .inl rfl, by simp [CourierStore.empty]⟩

variable {jobId : String}

theorem readJob_id {files : JobFiles} {job : RevitToolJob} (h : readJob files jobId = some job) :
    files.job = some job ∧ job.id = jobId := by
  rw [readJob, Option.filter_eq_some_iff] at h
  exact ⟨h.1, by simpa using h.2⟩

theorem holds_unique {files : JobFiles} {first second : CourierContract} (h : files.Holds first)
    (h' : files.Holds second) : first = second := by
  obtain ⟨job, hjob, hfirst⟩ := h
  obtain ⟨other, hother, hsecond⟩ := h'
  have hsame : job = other := Option.some.inj (hjob.symm.trans hother)
  rw [← hfirst, ← hsecond, hsame]

theorem CourierStore.Sound.scanned_distinct {store : CourierStore} (h : store.Sound) (env : CourierEnvironment) :
    (store.scanned env).Distinct := by
  refine ActiveJobIndex.enumerateActiveJobs_distinct (fun id job hjob => (readJob_id hjob).2) ?_
  cases hindex : store.index with
  | none => exact ActiveJobIndex.empty_distinct
  | some index => exact h.index index hindex

variable {contract : CourierContract}

section steps

variable {store next : CourierStore}

theorem StoreStep.sound (h : StoreStep store next) (hsound : store.Sound) : next.Sound := by
  cases h with
  | wrote jobId contract desk hholds hstep =>
    refine ⟨fun other => ?_, fun index hindex => ?_⟩
    · by_cases hother : other = jobId
      · subst hother
        rcases hsound.directory other with hempty | ⟨owner, hid, howner, hfiles⟩
        · obtain ⟨job, hjob, _⟩ := hholds
          rw [hempty] at hjob
          cases hjob
        · obtain rfl := holds_unique hholds howner
          refine .inr ⟨contract, hid, ?_, ?_⟩
          · simpa [jobPart] using hstep.1.holds hholds
          · simpa [jobPart] using hstep.1.sound hfiles
      · have hsame : ((jobPart jobId).set store desk).files other = store.files other := by
          simp [jobPart, hother]
        rw [hsame]
        exact hsound.directory other
    · have hdesk : desk.index = some index := hindex
      rcases hstep.2 with hkept | ⟨job, hobserved⟩
      · exact hsound.index index (hkept.symm.trans hdesk)
      · rw [hdesk] at hobserved
        obtain ⟨before, hbefore, rfl⟩ := Option.map_eq_some_iff.1 hobserved.symm
        exact ActiveJobIndex.observeIndexedJob_distinct (hsound.index before hbefore) job
  | scanned env =>
    refine ⟨hsound.directory, fun index hindex => ?_⟩
    obtain rfl : store.scanned env = index := by simpa using hindex
    exact hsound.scanned_distinct env
  | published contract hfree =>
    refine ⟨fun other => ?_, hsound.index⟩
    by_cases hother : other = contract.id
    · subst hother
      rcases hsound.directory contract.id with hempty | ⟨owner, _, ⟨job, hjob, _⟩, _⟩
      · refine .inr ⟨contract, rfl, ⟨publishedJob contract, by simp [CourierStore.withJob], rfl⟩, ?_⟩
        refine JobFiles.Fresh.sound ?_ contract
        simp [CourierStore.withJob, JobFiles.Fresh, hempty, JobFiles.empty]
      · rw [hfree] at hjob
        cases hjob
    · have hsame : (store.withJob contract).files other = store.files other := by
        simp [CourierStore.withJob, hother]
      rw [hsame]
      exact hsound.directory other
  | restarted => exact ⟨hsound.directory, by simp⟩

theorem StoreStep.protocolSteps (h : StoreStep store next)
    (hholds : (store.files jobId).Holds contract) :
    ProtocolSteps contract (store.files jobId) (next.files jobId) := by
  cases h with
  | wrote other owner desk howner hstep =>
    by_cases hother : jobId = other
    · subst hother
      obtain rfl := holds_unique hholds howner
      have hfiles : ((jobPart jobId).set store desk).files jobId = desk.files := by simp [jobPart]
      rw [hfiles]
      exact .single hstep.1
    · have hfiles : ((jobPart other).set store desk).files jobId = store.files jobId := by
        simp [jobPart, hother]
      rw [hfiles]
  | scanned env => exact .refl
  | published other hfree =>
    have hother : jobId ≠ other.id := by
      rintro rfl
      obtain ⟨job, hjob, _⟩ := hholds
      rw [hfree] at hjob
      cases hjob
    have hfiles : (store.withJob other).files jobId = store.files jobId := by
      simp [CourierStore.withJob, hother]
    rw [hfiles]
  | restarted => exact .refl

/-- A number of steps of the store. -/
abbrev StoreSteps : CourierStore → CourierStore → Prop := ReflTransGen StoreStep

theorem StoreSteps.sound (h : StoreSteps store next) (hsound : store.Sound) : next.Sound := by
  induction h with
  | refl => exact hsound
  | tail _ hlast ih => exact hlast.sound ih

theorem StoreSteps.protocolSteps (h : StoreSteps store next)
    (hholds : (store.files jobId).Holds contract) :
    ProtocolSteps contract (store.files jobId) (next.files jobId) := by
  induction h with
  | refl => exact .refl
  | tail _ hlast ih => exact ih.trans (hlast.protocolSteps (ih.holds hholds))

theorem StoreSteps.leftPending (h : StoreSteps store next)
    (hleft : (store.files jobId).LeftPending) : (next.files jobId).LeftPending := by
  obtain ⟨job, hjob, hstatus⟩ := hleft
  exact (h.protocolSteps ⟨job, hjob, rfl⟩).leftPending ⟨job, hjob, hstatus⟩

theorem storeSteps_of_desk {desk : JobDesk}
    (hholds : (store.files jobId).Holds contract)
    (h : ReflTransGen (DeskStep contract) ((jobPart jobId).get store) desk) :
    StoreSteps store ((jobPart jobId).set store desk) := by
  induction h with
  | refl => rw [(jobPart jobId).set_get]
  | @tail mid last hfirst hlast ih =>
    have hmid : (((jobPart jobId).set store mid).files jobId).Holds contract := by
      have hsteps := (protocolSteps_of_desk hfirst).holds hholds
      simpa [jobPart] using hsteps
    have hstep := StoreStep.wrote jobId contract last hmid (by rw [(jobPart jobId).get_set]; exact hlast)
    rw [(jobPart jobId).set_set] at hstep
    exact ih.tail hstep

theorem focus_performs {α : Type} {operation : Courier α}
    {returns : α → JobDesk → Prop} (hholds : (store.files jobId).Holds contract)
    (h : Follows contract operation ((jobPart jobId).get store) returns) :
    ((jobPart jobId).focus operation).Performs StoreStep store fun value s =>
      ∃ desk, s = (jobPart jobId).set store desk ∧ returns value desk := by
  rw [Performs, Part.ensures_focus]
  exact Ensures.mono h (fun _ hdesk => storeSteps_of_desk hholds hdesk)
    (fun _ desk hdesk => ⟨storeSteps_of_desk hholds hdesk.1, desk, rfl, hdesk.2⟩)
    fun _ _ hdesk => storeSteps_of_desk hholds hdesk

end steps

section programs

variable {host : CourierHost} {env : CourierEnvironment} {store : CourierStore}

theorem sweepCandidates_performs (executorId : String) {candidates : List RevitToolJob}
    (hdistinct : (candidates.map fun job => job.id).Nodup)
    (hfresh : ∀ job ∈ candidates, (store.files job.id).job = some job) :
    (sweepCandidates host env executorId candidates).Performs StoreStep store fun handed s =>
      ∀ given, handed = some given → ¬ (store.files given.id).LeftPending ∧ (s.files given.id).LeftPending := by
  induction candidates generalizing store with
  | nil => exact performs_pure (by simp)
  | cons job rest ih =>
    have hjob : (store.files job.id).job = some job := hfresh job List.mem_cons_self
    have hholds : (store.files job.id).Holds job.toCourierContract := ⟨job, hjob, rfl⟩
    rw [List.map_cons, List.nodup_cons] at hdistinct
    refine Performs.bind (focus_performs hholds (sweepJob_follows rfl executorId)) fun handed s hs hreturned => ?_
    obtain ⟨desk, rfl, hhanded⟩ := hreturned
    cases handed with
    | some given =>
      refine performs_pure fun other hother => ?_
      obtain rfl : given = other := by simpa using hother
      obtain ⟨hid, hpending, hleft⟩ := hhanded given rfl
      rw [hid]
      refine ⟨?_, by simpa [jobPart] using hleft⟩
      rintro ⟨stored, hstored, hstatus⟩
      have hsame : job = stored := Option.some.inj (hjob.symm.trans hstored)
      exact hstatus (hsame ▸ hpending)
    | none =>
      have hother : ∀ other ∈ rest, other.id ≠ job.id := fun other hmem hsame =>
        hdistinct.1 (hsame ▸ List.mem_map.2 ⟨other, hmem, rfl⟩)
      refine (ih hdistinct.2 fun other hmem => ?_).mono fun handed t _ hrest given hgiven => ?_
      · have hkept : ((jobPart job.id).set store desk).files other.id = store.files other.id := by
          simp [jobPart, hother other hmem]
        rw [hkept]
        exact hfresh other (List.mem_cons_of_mem _ hmem)
      · obtain ⟨hnot, hleft⟩ := hrest given hgiven
        exact ⟨fun hstart => hnot (StoreSteps.leftPending hs hstart), hleft⟩

theorem sortCandidates_perm (host : CourierHost) (jobs : List RevitToolJob) : (sortCandidates host jobs).Perm jobs :=
  List.perm_insertionSort _ jobs

theorem scanned_fresh {job : RevitToolJob} (h : job ∈ (store.scanned env).activeJobs) :
    (store.files job.id).job = some job := by
  have hread := ActiveJobIndex.enumerateActiveJobs_fresh (fun id job hjob => (readJob_id hjob).2) h
  exact (readJob_id hread).1

theorem claimNextRevitToolJob_performs (hsound : store.Sound) (input : ClaimInput) :
    (claimNextRevitToolJob host env input).Performs StoreStep store fun handed s =>
      ∀ given, handed = some given → ¬ (store.files given.id).LeftPending ∧ (s.files given.id).LeftPending := by
  rw [claimNextRevitToolJob]
  refine performs_check_bind fun sessionId _ => performs_check_bind fun executorId _ => ?_
  refine performs_bind (fun active t => t.files = store.files ∧ active = (store.scanned env).activeJobs)
    ?_ fun active t _ hactive => ?_
  · rw [enumerateCandidateJobs]
    refine performs_inspect_bind ?_
    exact performs_bind (fun _ u => u.files = store.files) (performs_write (.scanned env) rfl)
      fun _ u _ hu => performs_pure ⟨hu, rfl⟩
  · obtain ⟨hfiles, rfl⟩ := hactive
    have hmem : ∀ job ∈ sortCandidates host ((store.scanned env).activeJobs.filter fun job =>
        isCandidate host input sessionId executorId job.toCourierContract), job ∈ (store.scanned env).activeJobs :=
      fun job hjob => List.mem_of_mem_filter ((sortCandidates_perm host _).mem_iff.1 hjob)
    have hperm := (sortCandidates_perm host ((store.scanned env).activeJobs.filter fun job =>
      isCandidate host input sessionId executorId job.toCourierContract)).map fun job => job.id
    have hdistinct := hperm.nodup_iff.2 ((hsound.scanned_distinct env).sublist (List.filter_sublist.map _))
    refine (sweepCandidates_performs executorId hdistinct fun job hjob => ?_).mono
      fun handed u _ hhanded given hgiven => ?_
    · rw [hfiles]
      exact scanned_fresh (hmem job hjob)
    · rw [← hfiles]
      exact hhanded given hgiven

theorem publishJob_performs (contract : CourierContract) :
    (publishJob contract).Performs StoreStep store fun _ _ => True := by
  rw [publishJob]
  refine performs_inspect_bind ?_
  cases hfound : (store.files contract.id).job with
  | some job => exact performs_pure trivial
  | none => exact performs_write (.published contract hfound) trivial

theorem focus_idle {α : Type} {operation : Courier α} {returns : α → JobDesk → Prop}
    (h : operation.Performs (fun _ _ => False) ((jobPart jobId).get store) returns) :
    ((jobPart jobId).focus operation).Performs StoreStep store fun _ _ => True := by
  have hsame : ∀ desk, ReflTransGen (fun _ _ => False) ((jobPart jobId).get store) desk →
      StoreSteps store ((jobPart jobId).set store desk) := by
    intro desk hdesk
    rcases hdesk.cases_head with hrefl | ⟨_, hnever, _⟩
    · rw [← hrefl, (jobPart jobId).set_get]
    · exact hnever.elim
  rw [Performs, Part.ensures_focus]
  exact Ensures.mono h hsame (fun _ desk hdesk => ⟨hsame desk hdesk.1, trivial⟩) fun _ desk hdesk => hsame desk hdesk

theorem readJob_empty (jobId : String) : readJob .empty jobId = none := rfl

theorem requireClaimedJob_idle {desk : JobDesk} (hempty : desk.files = .empty) (input : FinishInput)
    (jobId : String) :
    (requireClaimedJob host env input jobId).Performs (fun _ _ => False) desk fun _ _ => False := by
  rw [requireClaimedJob]
  refine performs_check_bind fun _ _ => performs_check_bind fun _ _ => performs_inspect_bind ?_
  rw [hempty, readJob_empty]
  exact performs_throw _

theorem authorizeRevitToolJobExecution_idle {desk : JobDesk} (hempty : desk.files = .empty)
    (input : AuthorizeInput) (jobId : String) :
    (authorizeRevitToolJobExecution host env input jobId).Performs (fun _ _ => False) desk fun _ _ => True := by
  rw [authorizeRevitToolJobExecution]
  refine performs_check_bind fun _ _ => performs_check_bind fun _ _ => performs_inspect_bind ?_
  rw [hempty, readJob_empty]
  exact performs_throw _

theorem onJob_performs {α : Type} {sessionId : String} {operation : String → Courier α}
    (hfollows : ∀ id contract desk, desk.files.Holds contract →
      Follows contract (operation id) desk fun _ _ => True)
    (hidle : ∀ id (desk : JobDesk), desk.files = .empty →
      (operation id).Performs (fun _ _ => False) desk fun _ _ => True) (hsound : store.Sound) :
    (onJob sessionId jobId operation).Performs StoreStep store fun _ _ => True := by
  rw [onJob]
  refine performs_check_bind fun _ _ => performs_check_bind fun id _ => ?_
  rcases hsound.directory id with hempty | ⟨contract, _, hholds, _⟩
  · exact focus_idle (hidle id _ (by simpa [jobPart] using hempty))
  · exact (focus_performs hholds (hfollows id contract _ hholds)).mono fun _ _ _ _ => trivial

theorem program_performs (host : CourierHost) (env : CourierEnvironment) (hsound : store.Sound) (call : CourierCall) :
    (call.program host env).Performs StoreStep store fun handed s =>
      ∀ given, handed = some given → ¬ (store.files given.id).LeftPending ∧ (s.files given.id).LeftPending := by
  cases call with
  | publish contract => exact (publishJob_performs contract).bind fun _ _ _ _ => performs_pure (by simp)
  | claimNext input => exact claimNextRevitToolJob_performs hsound input
  | complete input =>
    refine (onJob_performs (fun id contract desk hholds => completeRevitToolJob_follows hholds input id)
      (fun id desk hempty => ?_) hsound).bind fun _ _ _ _ => performs_pure (by simp)
    rw [completeRevitToolJob]
    exact (requireClaimedJob_idle hempty input id).bind fun _ _ _ hnever => hnever.elim
  | fail input =>
    refine (onJob_performs (fun id contract desk hholds => failRevitToolJob_follows hholds input id)
      (fun id desk hempty => ?_) hsound).bind fun _ _ _ _ => performs_pure (by simp)
    rw [failRevitToolJob]
    exact (requireClaimedJob_idle hempty input id).bind fun _ _ _ hnever => hnever.elim
  | authorize input =>
    exact (onJob_performs (fun id contract desk hholds => authorizeRevitToolJobExecution_follows hholds input id)
      (fun id desk hempty => authorizeRevitToolJobExecution_idle hempty input id) hsound).bind
        fun _ _ _ _ => performs_pure (by simp)

end programs

section runs

variable (host : CourierHost) {store : CourierStore}

theorem step_storeSteps (hsound : store.Sound) (step : CourierStep) : StoreSteps store (store.step host step) := by
  have hperforms := program_performs host step.env hsound step.call
  rw [CourierStore.step]
  cases step.crash with
  | none => exact hperforms.final
  | some survived => exact (hperforms.cutShort survived).tail .restarted

theorem foldl_storeSteps (hsound : store.Sound) (steps : List CourierStep) :
    StoreSteps store (steps.foldl (CourierStore.step host) store) := by
  induction steps generalizing store with
  | nil => exact .refl
  | cons step rest ih =>
    have hstep := step_storeSteps host hsound step
    exact hstep.trans (ih (hstep.sound hsound))

theorem courierRun_sound (steps : List CourierStep) : (courierRun host steps).Sound :=
  (foldl_storeSteps host CourierStore.empty_sound steps).sound CourierStore.empty_sound

theorem courierRun_append (steps later : List CourierStep) :
    StoreSteps (courierRun host steps) (courierRun host (steps ++ later)) := by
  rw [courierRun, courierRun, List.foldl_append]
  exact foldl_storeSteps host (courierRun_sound host steps) later

variable {host}

theorem handedOut_leftPending (hsound : store.Sound) {step : CourierStep} {job : RevitToolJob}
    (h : store.handedOut host step = some job) :
    ¬ (store.files job.id).LeftPending ∧ ((store.step host step).files job.id).LeftPending := by
  rw [CourierStore.handedOut] at h
  cases hcrash : step.crash with
  | some survived => simp [hcrash] at h
  | none =>
    cases hresult : (step.call.program host step.env).result store with
    | error fault => simp [hcrash, hresult] at h
    | ok handed =>
      have hhanded : handed = some job := by simpa [hcrash, hresult] using h
      have hreturned := Ensures.returned (program_performs host step.env hsound step.call) hresult
      rw [CourierStore.step, hcrash]
      exact hreturned.2 job hhanded

end runs

end revit_operator.courier
