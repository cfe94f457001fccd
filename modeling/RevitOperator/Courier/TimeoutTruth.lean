import RevitOperator.Courier.ProducerCall

open checked interleaving interleaving.Steps

namespace revit_operator.courier.shared

namespace SharedJob

/-- The job has a result or is no longer pending: nobody may hand it out. -/
def Closed (files : SharedJob) : Prop :=
  files.result.isSome ∨ ∃ job, files.job = some job ∧ job.status ≠ .pending

/-- What is recorded about a run fits the files, and the job has version 1. -/
structure Truthful (files : SharedJob) : Prop where
  version : ∀ job, files.job = some job → job.version = REVIT_COURIER_JOB_VERSION
  handedOut : files.handedOut = true → ∃ job, files.job = some job ∧ job.status ≠ .pending
  timedOut : files.timedOutBeforeClaim = true → files.handedOut = false ∧ files.result.isSome
  reported : files.reportedBeforeClaim = true → files.handedOut = false ∧ files.Closed

/-- What every step keeps: a published result, and a closed job that is not
    handed out any more. -/
structure Evolves (before after : SharedJob) : Prop where
  result : ∀ result, before.result = some result → after.result = some result
  closed : before.Closed → after.Closed ∧ after.handedOut = before.handedOut

theorem Evolves.refl (files : SharedJob) : files.Evolves files := ⟨fun _ h => h, fun h => ⟨h, rfl⟩⟩

theorem Evolves.trans {first second third : SharedJob} (h : first.Evolves second) (h' : second.Evolves third) :
    first.Evolves third := by
  refine ⟨fun result hresult => h'.result result (h.result result hresult), fun hclosed => ?_⟩
  obtain ⟨hsecond, hfirst⟩ := h.closed hclosed
  obtain ⟨hthird, hlast⟩ := h'.closed hsecond
  exact ⟨hthird, hlast.trans hfirst⟩

theorem empty_truthful : SharedJob.empty.Truthful where
  version := fun _ hjob => by cases hjob
  handedOut := nofun
  timedOut := nofun
  reported := nofun

theorem Truthful.not_handedOut {files : SharedJob} (h : files.Truthful) {job : RevitToolJob}
    (hjob : files.job = some job) (hpending : job.status = .pending) : files.handedOut = false := by
  by_contra hhanded
  obtain ⟨stored, hstored, hne⟩ := h.handedOut (Bool.eq_true_of_not_eq_false hhanded)
  rw [hjob] at hstored
  cases hstored
  exact hne hpending

theorem not_closed_of_claimable {files : SharedJob} (h : files.isClaimable = true) : ¬ files.Closed := by
  rw [isClaimable, Bool.and_eq_true] at h
  obtain ⟨hpending, hnone⟩ := h
  rintro (hresult | ⟨job, hjob, hne⟩)
  · rw [Option.isNone_iff_eq_none] at hnone
    rw [hnone] at hresult
    cases hresult
  · rw [hjob] at hpending
    exact hne (of_decide_eq_true hpending)

section steps

variable {files : SharedJob}

variable {job : RevitToolJob} (hversion : job.version = REVIT_COURIER_JOB_VERSION)

include hversion

theorem truthful_saved (h : files.Truthful) (hstatus : job.status ≠ .pending) :
    { files with job := some job }.Truthful ∧ files.Evolves { files with job := some job } := by
  have hclosed : { files with job := some job }.Closed := .inr ⟨job, rfl, hstatus⟩
  refine ⟨⟨fun stored hstored => ?_, fun _ => ⟨job, rfl, hstatus⟩, h.timedOut,
    fun hreported => ⟨(h.reported hreported).1, hclosed⟩⟩, fun _ hresult => hresult, fun _ => ⟨hclosed, rfl⟩⟩
  cases hstored
  exact hversion

theorem truthful_claimed (h : files.Truthful) (hclaimable : files.isClaimable = true)
    (hstatus : job.status ≠ .pending) :
    { files with job := some job, handedOut := true }.Truthful
      ∧ files.Evolves { files with job := some job, handedOut := true } := by
  have hopen := not_closed_of_claimable hclaimable
  refine ⟨⟨fun stored hstored => ?_, fun _ => ⟨job, rfl, hstatus⟩, fun htimedOut => ?_, fun hreported => ?_⟩,
    fun _ hresult => hresult, fun hclosed => (hopen hclosed).elim⟩
  · cases hstored
    exact hversion
  · exact (hopen (.inl (h.timedOut htimedOut).2)).elim
  · exact (hopen (h.reported hreported).2).elim

theorem truthful_created (h : files.Truthful) (hnone : files.job = none) :
    { files with job := some job }.Truthful ∧ files.Evolves { files with job := some job } := by
  have hresult : files.Closed → files.result.isSome := by
    rintro (hresult | ⟨stored, hstored, _⟩)
    · exact hresult
    · rw [hnone] at hstored
      cases hstored
  have hclosed : files.Closed → { files with job := some job }.Closed := fun hclosed => .inl (hresult hclosed)
  refine ⟨⟨fun stored hstored => ?_, fun hhanded => ?_, h.timedOut, fun hreported => ?_⟩, fun _ hstored => hstored,
    fun hbefore => ⟨hclosed hbefore, rfl⟩⟩
  · cases hstored
    exact hversion
  · obtain ⟨stored, hstored, _⟩ := h.handedOut hhanded
    rw [hnone] at hstored
    cases hstored
  · obtain ⟨hhanded, hbefore⟩ := h.reported hreported
    exact ⟨hhanded, hclosed hbefore⟩

omit hversion

theorem truthful_result (h : files.Truthful) (hnone : files.result = none) (result : RevitToolResult)
    {beforeClaim : Bool} (hhanded : beforeClaim = true → files.handedOut = false) :
    { files with result := some result, timedOutBeforeClaim := beforeClaim }.Truthful
      ∧ files.Evolves { files with result := some result, timedOutBeforeClaim := beforeClaim } := by
  refine ⟨⟨h.version, h.handedOut, fun htimedOut => ⟨hhanded htimedOut, rfl⟩,
    fun hreported => ⟨(h.reported hreported).1, .inl rfl⟩⟩, fun stored hstored => ?_, fun _ => ⟨.inl rfl, rfl⟩⟩
  rw [hnone] at hstored
  cases hstored

theorem truthful_reported (h : files.Truthful) (hhanded : files.handedOut = false) (hclosed : files.Closed) :
    { files with reportedBeforeClaim := true }.Truthful
      ∧ files.Evolves { files with reportedBeforeClaim := true } :=
  ⟨⟨h.version, h.handedOut, h.timedOut, fun _ => ⟨hhanded, hclosed⟩⟩, fun _ hresult => hresult, fun _ => ⟨hclosed, rfl⟩⟩

end steps

/-- What a process may find changed: only the backend, which runs alone, knows
    that nobody else hands the job out. -/
def MayFind (backend : Bool) (before after : SharedJob) : Prop :=
  after.Truthful ∧ before.Evolves after ∧ (backend = true → after.handedOut = before.handedOut)

/-- What a process may change: only the backend hands the job out. -/
def MayChange (backend : Bool) (before after : SharedJob) : Prop :=
  after.Truthful ∧ before.Evolves after ∧ (backend = false → after.handedOut = before.handedOut)

end SharedJob

open SharedJob

/-- The backend is the first program of the pool, the others are producers. -/
def courierDiscipline : Discipline SharedJob where
  holds := Truthful
  rely place := MayFind (place == 0)
  guarantee place := MayChange (place == 0)
  rely_refl := fun _ files h => ⟨h, .refl files, fun _ => rfl⟩
  rely_trans := fun _ _ _ _ hfirst hsecond =>
    ⟨hsecond.1, hfirst.2.1.trans hsecond.2.1, fun hbackend => (hsecond.2.2 hbackend).trans (hfirst.2.2 hbackend)⟩
  guarantee_holds := fun _ _ _ h => h.1
  compatible := fun place other _ _ hne h => by
    refine ⟨h.1, h.2.1, fun hother => h.2.2 ?_⟩
    have hzero : other = 0 := of_decide_eq_true hother
    have hplace : place ≠ 0 := fun hplace => hne (hplace.trans hzero.symm)
    exact decide_eq_false hplace

section backend

/-- The backend's program keeps its promises, hands nothing out and returns only
    values that satisfy `returns`. -/
structure Settles {α : Type} (p : BackendSteps α) (returns : α → Prop) : Prop where
  respects : ∀ files : SharedJob, files.Truthful → p.Respects (MayFind true) (MayChange true)
    (fun outcome after => after.Truthful ∧ after.handedOut = files.handedOut
      ∧ ∀ value, outcome = .ok value → returns value) files

variable {α β : Type} {returns : α → Prop} {returns' : β → Prop}

theorem settles_pure {value : α} (h : returns value) : Settles (pure value) returns := by
  refine ⟨fun _ htruthful => respects_pure.2 ⟨htruthful, rfl, fun returned hreturned => ?_⟩⟩
  cases hreturned
  exact h

theorem settles_throw {fault : CourierFault} : Settles (throw fault : BackendSteps α) returns :=
  ⟨fun _ htruthful => respects_throw.2 ⟨htruthful, rfl, nofun⟩⟩

theorem Settles.bind {p : BackendSteps α} {next : α → BackendSteps β} (h : Settles p returns)
    (hnext : ∀ value, returns value → Settles (next value) returns') : Settles (p >>= next) returns' := by
  refine ⟨fun files htruthful => (h.respects files htruthful).bind (fun value after hafter => ?_) fun _ _ hafter => ?_⟩
  · obtain ⟨hafter, hhanded, hvalue⟩ := hafter
    refine ((hnext value (hvalue value rfl)).respects after hafter).mono fun _ last hlast => ?_
    exact ⟨hlast.1, hlast.2.1.trans hhanded, hlast.2.2⟩
  · exact ⟨hafter.1, hafter.2.1, nofun⟩

theorem Settles.thenPure {p : BackendSteps α} (h : Settles p returns) (value : β) :
    Settles (p >>= fun _ => pure value) fun _ => True := h.bind fun _ _ => settles_pure trivial

theorem Settles.keeps {p : BackendSteps α} (h : Settles p returns) {files : SharedJob} (htruthful : files.Truthful) :
    p.Respects (MayFind true) (MayChange true) (fun _ after => after.Truthful) files :=
  (h.respects files htruthful).mono fun _ _ hafter => hafter.1

theorem Settles.tryCatch {p : BackendSteps α} {handler : CourierFault → BackendSteps α} (h : Settles p returns)
    (hhandler : ∀ fault, Settles (handler fault) returns) : Settles (tryCatch p handler) returns := by
  refine ⟨fun files htruthful => (h.respects files htruthful).tryCatch (fun _ _ hafter => hafter)
    fun fault after hafter => ?_⟩
  obtain ⟨hafter, hhanded, _⟩ := hafter
  refine ((hhandler fault).respects after hafter).mono fun _ last hlast => ?_
  exact ⟨hlast.1, hlast.2.1.trans hhanded, hlast.2.2⟩

theorem settles_check (outcome : Except CourierFault α) : Settles (check outcome) fun _ => True :=
  ⟨fun _ htruthful => respects_check.2 ⟨htruthful, rfl, fun _ _ => trivial⟩⟩

theorem settles_inspect {look : SharedJob → α} (h : ∀ found : SharedJob, found.Truthful → returns (look found)) :
    Settles (inspect look) returns := by
  refine ⟨fun files _ => respects_atomic.2 fun found hfound _ => ?_⟩
  obtain ⟨htruthful, _, hhanded⟩ := hfound
  refine ⟨⟨htruthful, .refl found, nofun⟩, htruthful, hhanded rfl, fun value hvalue => ?_⟩
  cases hvalue
  exact h found htruthful

theorem settles_readTerminalResult (job : RevitToolJob) : Settles (readTerminalResult job) fun _ => True :=
  settles_inspect fun _ _ => trivial

theorem settles_existsResult : Settles existsResult fun _ => True := settles_inspect fun _ _ => trivial

theorem settles_readJob (id : String) : Settles (readJob id) fun stored =>
    ∀ job, stored = some job → job.version = REVIT_COURIER_JOB_VERSION := by
  refine settles_inspect fun found htruthful job hjob => ?_
  rw [Option.filter_eq_some_iff] at hjob
  exact htruthful.version job hjob.1

/-- The programs on a version 1 job, which return a version 1 job. -/
abbrev SettlesJob (p : BackendSteps RevitToolJob) : Prop :=
  Settles p fun job => job.version = REVIT_COURIER_JOB_VERSION

variable (host : CourierHost) (env : CourierEnvironment) {job : RevitToolJob}
  (hversion : job.version = REVIT_COURIER_JOB_VERSION)

include hversion

theorem settles_saveSettled (status : TerminalStatus) (finishedAt : Timestamp) (error : Option String) :
    SettlesJob (saveSettled job status finishedAt error) := by
  have hsettles : Settles (change fun files =>
      { files with job := some (job.settled status.toJobStatus finishedAt error) }) fun _ => True := by
    refine ⟨fun files _ => respects_atomic.2 fun found hfound _ => ?_⟩
    obtain ⟨htruthful, _, hhanded⟩ := hfound
    have hstatus : (job.settled status.toJobStatus finishedAt error).status ≠ .pending :=
      TerminalStatus.toJobStatus_ne_pending status
    have hsame : (job.settled status.toJobStatus finishedAt error).version = REVIT_COURIER_JOB_VERSION := hversion
    obtain ⟨hsaved, hevolves⟩ := truthful_saved hsame htruthful hstatus
    exact ⟨⟨hsaved, hevolves, nofun⟩, hsaved, hhanded rfl, fun _ _ => trivial⟩
  exact hsettles.bind fun _ _ => settles_pure hversion

theorem settles_reconcile (result : RevitToolResult) : SettlesJob (reconcileJobWithResult job result) := by
  rw [reconcileJobWithResult]
  split
  · exact settles_pure hversion
  · exact settles_saveSettled hversion _ _ _

omit hversion in
theorem createResult_respects {files : SharedJob} (result : RevitToolResult) {beforeClaim : Bool}
    (hbefore : beforeClaim = true → files.handedOut = false) :
    (createResult result beforeClaim).Respects (MayFind true) (MayChange true)
      (fun _ after => after.Truthful ∧ after.handedOut = files.handedOut) files := by
  refine respects_atomic.2 fun found hfound _ => ?_
  obtain ⟨htruthful, _, hhanded⟩ := hfound
  by_cases hexists : found.result.isSome
  · rw [if_pos hexists]
    exact ⟨⟨htruthful, .refl found, nofun⟩, htruthful, hhanded rfl⟩
  · rw [if_neg hexists]
    rw [Option.not_isSome_iff_eq_none] at hexists
    have hfree : beforeClaim = true → found.handedOut = false := fun h => (hhanded rfl).trans (hbefore h)
    obtain ⟨hcreated, hevolves⟩ := truthful_result htruthful hexists result hfree
    exact ⟨⟨hcreated, hevolves, nofun⟩, hcreated, hhanded rfl⟩

theorem writeTerminal_respects {files : SharedJob} (terminal : TerminalInput) {beforeClaim : Bool}
    (hbefore : beforeClaim = true → files.handedOut = false) :
    (writeTerminal env job terminal beforeClaim).Respects (MayFind true) (MayChange true)
      (fun outcome after => after.Truthful ∧ after.handedOut = files.handedOut
        ∧ ∀ value, outcome = .ok value → value.version = REVIT_COURIER_JOB_VERSION) files := by
  rw [writeTerminal, publishDurableTerminal]
  refine (createResult_respects _ hbefore).bind (fun created after hafter => ?_) fun _ _ hafter =>
    ⟨hafter.1, hafter.2, fun _ hvalue => by cases hvalue⟩
  obtain ⟨hafter, hhanded⟩ := hafter
  have hrest : ∀ p : BackendSteps RevitToolJob, SettlesJob p → p.Respects (MayFind true) (MayChange true)
      (fun outcome last => last.Truthful ∧ last.handedOut = files.handedOut
        ∧ ∀ value, outcome = .ok value → value.version = REVIT_COURIER_JOB_VERSION) after := fun p hp =>
    (hp.respects after hafter).mono fun _ last hlast => ⟨hlast.1, hlast.2.1.trans hhanded, hlast.2.2⟩
  apply hrest
  split
  · exact settles_saveSettled hversion _ _ _
  · refine (settles_readTerminalResult job).bind fun winner _ => ?_
    cases winner with
    | some winner => exact settles_reconcile hversion winner
    | none =>
      refine settles_existsResult.bind fun found _ => ?_
      split
      · exact settles_saveSettled hversion _ _ _
      · exact settles_throw

theorem settles_writeTerminal (terminal : TerminalInput) : SettlesJob (writeTerminal env job terminal false) :=
  ⟨fun _ _ => writeTerminal_respects env hversion terminal nofun⟩

theorem settles_writeCertificationTerminal (error : CourierFault) :
    SettlesJob (writeCertificationTerminal env job error) := by
  refine (settles_readTerminalResult job).bind fun terminal _ => ?_
  cases terminal with
  | some terminal => exact settles_reconcile hversion terminal
  | none =>
    refine settles_existsResult.bind fun found _ => ?_
    split
    · exact settles_saveSettled hversion _ _ _
    · exact settles_writeTerminal env hversion _

theorem settles_admitCourierJobClaim : Settles (admitCourierJobClaim env job) fun _ => True := by
  rw [admitCourierJobClaim]
  split
  · split
    · exact (settles_writeCertificationTerminal env hversion _).thenPure false
    · exact settles_pure trivial
  · split
    · exact (settles_writeCertificationTerminal env hversion _).thenPure false
    · exact settles_pure trivial

theorem settles_validCertifiedJobForClaim : Settles (validCertifiedJobForClaim host env job) fun _ => True := by
  rw [validCertifiedJobForClaim, if_pos hversion]
  split
  · exact settles_pure trivial
  · exact (settles_writeTerminal env hversion _).thenPure false

theorem settles_expireLease : Settles (expireLease host env job) fun _ => True := by
  refine settles_existsResult.bind fun found _ => ?_
  split
  · exact (settles_writeTerminal env hversion _).thenPure ()
  · exact settles_pure trivial

theorem settles_recoverSettledJob : Settles (recoverSettledJob env job) fun _ => True := by
  refine (settles_readTerminalResult job).bind fun terminal _ => ?_
  cases terminal with
  | some terminal => exact (settles_reconcile hversion terminal).thenPure true
  | none =>
    refine settles_existsResult.bind fun found _ => ?_
    split
    · exact (settles_saveSettled hversion _ _ _).thenPure true
    · exact settles_pure trivial

theorem saveClaimed_respects {files : SharedJob} (hstatus : job.status ≠ .pending) :
    (saveClaimed job).Respects (MayFind true) (MayChange true) (fun _ after => after.Truthful) files := by
  refine respects_atomic.2 fun found hfound hclaimable => ?_
  obtain ⟨hclaimed, hevolves⟩ := truthful_claimed hversion hfound.1 hclaimable hstatus
  exact ⟨⟨hclaimed, hevolves, nofun⟩, hclaimed⟩

theorem claimAdmittedJob_respects {files : SharedJob} (htruthful : files.Truthful) (executorId : String)
    (hpending : job.status = .pending → files.handedOut = false) :
    (claimAdmittedJob host env executorId job).Respects (MayFind true) (MayChange true)
      (fun _ after => after.Truthful) files := by
  rw [claimAdmittedJob]
  split
  · have hexpired := (settles_expireLease host env hversion).thenPure (none : Option RevitToolJob)
    exact (hexpired.respects files htruthful).mono fun _ _ hafter => hafter.1
  · next hstatus =>
    split
    · have hbefore : true = true → files.handedOut = false := fun _ => hpending hstatus
      exact (writeTerminal_respects env hversion _ hbefore).bind (fun _ _ hafter => respects_pure.2 hafter.1)
        fun _ _ hafter => hafter.1
    · have hclaimed : ∀ claim, (job.claimed claim).version = REVIT_COURIER_JOB_VERSION := fun _ => hversion
      have hrunning : ∀ claim, (job.claimed claim).status ≠ .pending := fun _ => nofun
      exact (saveClaimed_respects (hclaimed _) (hrunning _)).map (fun _ _ hafter => hafter) fun _ _ hafter => hafter
  · exact respects_pure.2 htruthful

/-- The checks of a sweep hand nothing out, so a job read as pending is not handed
    out when the sweep gets to it. -/
theorem sweepJob_respects {files : SharedJob} (htruthful : files.Truthful) (executorId : String)
    (hpending : job.status = .pending → files.handedOut = false) :
    (sweepJob host env executorId job).Respects (MayFind true) (MayChange true)
      (fun _ after => after.Truthful) files := by
  have hthen : ∀ {p : BackendSteps Bool} {next : Bool → BackendSteps (Option RevitToolJob)} {start : SharedJob},
      Settles p (fun _ => True) → start.Truthful → (job.status = .pending → start.handedOut = false) →
      (∀ value (after : SharedJob), after.Truthful → (job.status = .pending → after.handedOut = false) →
        (next value).Respects (MayFind true) (MayChange true) (fun _ last => last.Truthful) after) →
      (p >>= next).Respects (MayFind true) (MayChange true) (fun _ last => last.Truthful) start := by
    intro p next start hp hstart hfree hnext
    refine (hp.respects start hstart).bind (fun value after hafter => ?_) fun _ _ hafter => hafter.1
    exact hnext value after hafter.1 fun hstatus => hafter.2.1.trans (hfree hstatus)
  refine hthen (settles_recoverSettledJob env hversion) htruthful hpending fun settled first hfirst hfree => ?_
  split
  · exact respects_pure.2 hfirst
  · refine hthen (settles_admitCourierJobClaim env hversion) hfirst hfree fun admitted second hsecond hfree => ?_
    split
    · exact respects_pure.2 hsecond
    · refine hthen (settles_validCertifiedJobForClaim host env hversion) hsecond hfree fun valid third hthird hfree => ?_
      split
      · exact respects_pure.2 hthird
      · exact claimAdmittedJob_respects host env hversion hthird executorId hfree

omit hversion in
theorem claimNextRevitToolJob_respects {files : SharedJob} (htruthful : files.Truthful) (id : String)
    (input : ClaimInput) :
    (claimNextRevitToolJob host env id input).Respects (MayFind true) (MayChange true)
      (fun _ after => after.Truthful) files := by
  refine ((settles_check _).respects files htruthful).bind (fun sessionId first hfirst => ?_) fun _ _ hafter => hafter.1
  refine ((settles_check _).respects first hfirst.1).bind (fun executorId second hsecond => ?_)
    fun _ _ hafter => hafter.1
  refine respects_andThen.2 (respects_atomic.2 fun found hfound _ => ?_)
  obtain ⟨hfound, _, hhanded⟩ := hfound
  refine ⟨⟨hfound, .refl found, nofun⟩, ?_⟩
  simp only [id_eq]
  split
  · next job hjob =>
    split
    · rw [Option.filter_eq_some_iff] at hjob
      exact sweepJob_respects host env (hfound.version job hjob.1) hfound executorId
        fun hpending => hfound.not_handedOut hjob.1 hpending
    · exact respects_pure.2 hfound
  · exact respects_pure.2 hfound

omit hversion in
theorem settles_requireClaimedJob (input : FinishInput) : SettlesJob (requireClaimedJob input) := by
  refine (settles_check _).bind fun sessionId _ => (settles_check _).bind fun jobId _ =>
    (settles_check _).bind fun executorId _ => (settles_readJob _).bind fun stored hstored => ?_
  cases stored with
  | none => exact settles_throw
  | some job =>
    have hversion := hstored job rfl
    refine (settles_check _).bind fun _ _ => (settles_check _).bind fun _ _ =>
      (settles_readTerminalResult job).bind fun terminal _ => ?_
    cases terminal with
    | some terminal => exact settles_reconcile hversion terminal
    | none =>
      refine settles_existsResult.bind fun found _ => ?_
      split
      · exact settles_throw
      · split
        · exact settles_throw
        · exact settles_pure hversion

omit hversion in
theorem settles_alreadySettled (job : RevitToolJob) (status : JobStatus) :
    Settles (alreadySettled job status) fun _ => True := by
  rw [alreadySettled]
  split
  · exact (settles_readTerminalResult job).bind fun _ _ => settles_pure trivial
  · exact settles_pure trivial

omit hversion in
theorem settles_completeRevitToolJob (input : FinishInput) : SettlesJob (completeRevitToolJob env input) := by
  refine (settles_requireClaimedJob input).bind fun job hversion => ?_
  split
  · exact settles_throw
  · refine (settles_alreadySettled job .succeeded).bind fun settled _ => ?_
    split
    · exact settles_pure hversion
    · split
      · exact ((settles_check _).bind fun _ _ => settles_writeTerminal env hversion _).tryCatch fun _ =>
          settles_writeTerminal env hversion _
      · exact settles_writeTerminal env hversion _

omit hversion in
theorem settles_failRevitToolJob (input : FinishInput) : SettlesJob (failRevitToolJob env input) := by
  refine (settles_requireClaimedJob input).bind fun job hversion => ?_
  split
  · exact settles_throw
  · refine (settles_alreadySettled job .failed).bind fun settled _ => ?_
    split
    · exact settles_pure hversion
    · exact settles_writeTerminal env hversion _

omit hversion in
theorem BackendOperation.respects (operation : BackendOperation) (id : String) {files : SharedJob}
    (htruthful : files.Truthful) :
    (operation.steps host env id).Respects (MayFind true) (MayChange true) (fun _ after => after.Truthful) files := by
  cases operation with
  | claimNext input =>
    exact (claimNextRevitToolJob_respects host env htruthful id input).bind (fun _ _ hafter => respects_pure.2 hafter)
      fun _ _ hafter => hafter
  | complete input =>
    simp only [BackendOperation.steps]
    exact ((settles_completeRevitToolJob env input).thenPure ()).keeps htruthful
  | fail input =>
    simp only [BackendOperation.steps]
    exact ((settles_failRevitToolJob env input).thenPure ()).keeps htruthful

end backend

section producer

variable {α β : Type}

/-- The producer's program keeps its promises, and what it returns satisfies
    `returns`. -/
abbrev Reports (p : ProducerSteps α) (files : SharedJob) (returns : α → SharedJob → Prop) : Prop :=
  p.Respects (MayFind false) (MayChange false)
    (fun outcome after => after.Truthful ∧ ∀ value, outcome = .ok value → returns value after) files

/-- The job is closed and not handed out, so it never will be. -/
def Unclaimed (files : SharedJob) : Prop := files.handedOut = false ∧ files.Closed

theorem Unclaimed.later {files found : SharedJob} {backend : Bool} (h : Unclaimed files)
    (hfound : MayFind backend files found) : Unclaimed found := by
  obtain ⟨hhanded, hclosed⟩ := h
  obtain ⟨hafter, hsame⟩ := hfound.2.1.closed hclosed
  exact ⟨hsame.trans hhanded, hafter⟩

variable {files : SharedJob} {returns : α → SharedJob → Prop}

theorem reports_pure {value : α} (htruthful : files.Truthful) (h : returns value files) :
    Reports (pure value) files returns := by
  refine respects_pure.2 ⟨htruthful, fun returned heq => ?_⟩
  cases heq
  exact h

theorem reports_throw {fault : CallFault} (htruthful : files.Truthful) :
    Reports (throw fault : ProducerSteps α) files returns := respects_throw.2 ⟨htruthful, nofun⟩

theorem reports_bind (returns : α → SharedJob → Prop) {p : ProducerSteps α} {next : α → ProducerSteps β}
    {returns' : β → SharedJob → Prop} (h : Reports p files returns)
    (hnext : ∀ value after, after.Truthful → returns value after → Reports (next value) after returns') :
    Reports (p >>= next) files returns' :=
  Respects.bind h (fun value after hafter => hnext value after hafter.1 (hafter.2 value rfl))
    fun _ _ hafter => ⟨hafter.1, nofun⟩

theorem reports_inspect {look : SharedJob → α}
    (h : ∀ found, MayFind false files found → returns (look found) found) : Reports (inspect look) files returns := by
  refine respects_atomic.2 fun found hfound _ => ?_
  refine ⟨⟨hfound.1, .refl found, fun _ => rfl⟩, hfound.1, fun value heq => ?_⟩
  cases heq
  exact h found hfound

theorem createJob_reports {candidate : RevitToolJob} (hversion : candidate.version = REVIT_COURIER_JOB_VERSION) :
    Reports (createJob candidate) files fun _ _ => True := by
  refine respects_atomic.2 fun found hfound _ => ?_
  by_cases hexists : found.job.isSome
  · rw [if_pos hexists]
    exact ⟨⟨hfound.1, .refl found, fun _ => rfl⟩, hfound.1, fun _ _ => trivial⟩
  · rw [if_neg hexists]
    rw [Option.not_isSome_iff_eq_none] at hexists
    obtain ⟨hcreated, hevolves⟩ := truthful_created hversion hfound.1 hexists
    exact ⟨⟨hcreated, hevolves, fun _ => rfl⟩, hcreated, fun _ _ => trivial⟩

theorem publishOrResumeJob_reports {candidate : RevitToolJob}
    (hversion : candidate.version = REVIT_COURIER_JOB_VERSION) :
    Reports (publishOrResumeJob candidate) files fun _ _ => True := by
  refine reports_bind _ (createJob_reports hversion) fun created after hafter _ => ?_
  split
  · exact reports_pure hafter trivial
  · refine reports_bind (fun _ _ => True) (reports_inspect fun _ _ => trivial) fun stored last hlast _ => ?_
    cases stored with
    | none => exact reports_throw hlast
    | some existing =>
      dsimp only
      split
      · exact reports_pure hlast trivial
      · exact reports_throw hlast

/-- A receipt that was published before a claim is found on a job that nobody
    will ever be handed. -/
theorem readResult_reports (id : String) :
    Reports (readResult id) files fun found after =>
      ∀ receipt beforeClaim, found = some (receipt, beforeClaim) → beforeClaim = true → Unclaimed after := by
  refine reports_bind (fun found after =>
    ∀ receipt beforeClaim, found = some (receipt, beforeClaim) → beforeClaim = true → Unclaimed after)
    (reports_inspect fun found hfound receipt beforeClaim hread hbefore => ?_) fun found after hafter hunclaimed => ?_
  · obtain ⟨_, _, hpair⟩ := Option.map_eq_some_iff.1 hread
    rw [Prod.mk.injEq] at hpair
    obtain ⟨hhanded, hresult⟩ := hfound.1.timedOut (hpair.2.trans hbefore)
    exact ⟨hhanded, .inl hresult⟩
  · cases found with
    | none => exact reports_pure hafter fun _ _ hnone => nomatch hnone
    | some found =>
      obtain ⟨receipt, beforeClaim⟩ := found
      dsimp only
      split
      · exact reports_pure hafter hunclaimed
      · exact reports_throw hafter

theorem readAuthoritativeResult_reports (id : String) :
    Reports (readAuthoritativeResult id) files fun found after =>
      ∀ receipt beforeClaim, found = some (receipt, beforeClaim) → beforeClaim = true → Unclaimed after := by
  refine reports_bind (fun _ _ => True) (reports_inspect fun _ _ => trivial) fun job middle _ _ => ?_
  refine reports_bind _ (readResult_reports id) fun found after hafter hunclaimed => ?_
  cases found with
  | none => exact reports_pure hafter fun _ _ hnone => nomatch hnone
  | some receipt =>
    dsimp only
    split
    · exact reports_throw hafter
    · exact reports_pure hafter hunclaimed

/-- A call that ends before a claim is noted on a job that nobody will ever be
    handed. -/
theorem fail_reports {error : RevitCourierError} {beforeClaim : Bool} (htruthful : files.Truthful)
    (hunclaimed : beforeClaim = true → Unclaimed files) :
    Reports (fail error beforeClaim) files fun _ _ => True := by
  rw [fail]
  split
  · next hreports =>
    rw [Bool.and_eq_true] at hreports
    refine reports_bind (fun _ _ => True) ?_ fun _ _ hafter _ => reports_throw hafter
    refine respects_atomic.2 fun found hfound _ => ?_
    obtain ⟨hhanded, hclosed⟩ := (hunclaimed hreports.1).later hfound
    obtain ⟨hreported, hevolves⟩ := truthful_reported hfound.1 hhanded hclosed
    exact ⟨⟨hreported, hevolves, fun _ => rfl⟩, hreported, fun _ _ => trivial⟩
  · exact reports_throw htruthful

theorem resolveResult_reports {receipt : RevitToolResult} {beforeClaim : Bool} (htruthful : files.Truthful)
    (hunclaimed : beforeClaim = true → Unclaimed files) :
    Reports (resolveResult receipt beforeClaim) files fun _ _ => True := by
  rw [resolveResult]
  split
  · exact reports_pure htruthful trivial
  · exact fail_reports htruthful hunclaimed

variable (call : ProducerCall) (id : String)

/-- The two writes of a timed-out call: the job a pending job is replaced by is
    closed, and it was not handed out when it was still pending. -/
theorem writeTimeout_reports {job : RevitToolJob} {code error : String} {pending : Bool}
    (hversion : job.version = REVIT_COURIER_JOB_VERSION) :
    Reports (writeTimeout call id job code error pending) files fun _ after => pending = true → Unclaimed after := by
  rw [writeTimeout, if_pos hversion]
  refine reports_bind (fun _ after => pending = true → Unclaimed after) ?_ fun _ middle _ hmiddle => ?_
  · refine respects_atomic.2 fun found hfound hexpected => ?_
    have hfailed : (job.settled .failed (.iso call.finishedAt) (some error)).status ≠ .pending := nofun
    have hsame : (job.settled .failed (.iso call.finishedAt) (some error)).version = REVIT_COURIER_JOB_VERSION := hversion
    obtain ⟨hsaved, hevolves⟩ := truthful_saved hsame hfound.1 hfailed
    refine ⟨⟨hsaved, hevolves, fun _ => rfl⟩, hsaved, fun _ _ hpending => ⟨?_, .inr ⟨_, rfl, hfailed⟩⟩⟩
    rw [hpending, Bool.not_true, Bool.false_or, Option.any_eq_true] at hexpected
    obtain ⟨stored, hstored, hstatus⟩ := hexpected
    exact hfound.1.not_handedOut hstored (of_decide_eq_true hstatus)
  · refine respects_atomic.2 fun found hfound hexpected => ?_
    rw [Option.isNone_iff_eq_none] at hexpected
    have hfree : pending = true → found.handedOut = false := fun hpending => ((hmiddle hpending).later hfound).1
    obtain ⟨hwritten, hevolves⟩ :=
      truthful_result hfound.1 hexpected (timedOutResult call id job code error pending) hfree
    exact ⟨⟨hwritten, hevolves, fun _ => rfl⟩, hwritten, fun _ _ hpending => ⟨hfree hpending, .inl rfl⟩⟩

theorem timeOut_reports {job : RevitToolJob} {code error : String} {pending : Bool}
    (hversion : job.version = REVIT_COURIER_JOB_VERSION) :
    Reports (timeOut call id job code error pending) files fun _ _ => True :=
  reports_bind _ (writeTimeout_reports call id hversion) fun _ _ hafter hunclaimed => fail_reports hafter hunclaimed

theorem finalizeTimeout_reports : Reports (finalizeTimeout call id) files fun _ _ => True := by
  have hread : Reports (inspect SharedJob.job) files fun stored _ =>
      ∀ job, stored = some job → job.version = REVIT_COURIER_JOB_VERSION :=
    reports_inspect fun _ hfound => hfound.1.version
  refine reports_bind _ hread fun stored _ _ hversion => ?_
  refine reports_bind _ (readAuthoritativeResult_reports id) fun receipt after hafter hunclaimed => ?_
  split
  · next receipt beforeClaim =>
    refine reports_bind _ (resolveResult_reports hafter (hunclaimed receipt beforeClaim rfl)) fun _ last hlast _ => ?_
    split
    · exact reports_pure hlast trivial
    · exact reports_throw hlast
  · split
    · exact reports_throw hafter
    · next job hjob =>
      rw [Option.filter_eq_some_iff] at hjob
      split
      · exact timeOut_reports call id (hversion job hjob.1)
      · exact timeOut_reports call id (hversion job hjob.1)
      · exact reports_throw hafter

theorem waitForResult_reports (htruthful : files.Truthful) (deadline : Int) (readings : List Int) :
    Reports (waitForResult call id deadline readings) files fun _ _ => True := by
  induction readings generalizing files with
  | nil => exact finalizeTimeout_reports call id
  | cons now rest ih =>
    rw [waitForResult]
    split
    · refine reports_bind _ (readAuthoritativeResult_reports id) fun receipt after hafter hunclaimed => ?_
      split
      · next receipt beforeClaim => exact resolveResult_reports hafter (hunclaimed receipt beforeClaim rfl)
      · exact ih hafter
    · exact finalizeTimeout_reports call id

theorem callRevitViaCourier_reports (host : CourierHost) :
    Reports (callRevitViaCourier host id call) files fun _ _ => True := by
  have hversion : (call.job id).version = REVIT_COURIER_JOB_VERSION := rfl
  refine reports_bind _ (publishOrResumeJob_reports hversion) fun job after hafter _ => ?_
  split
  · exact waitForResult_reports call id hafter _ _
  · exact reports_throw hafter

end producer

section runs

variable (host : CourierHost) (id : String) (operations : List (CourierEnvironment × BackendOperation))
  (producers : List (List ProducerCall))

theorem courierPool_disciplined : Disciplined courierDiscipline (courierPool host id operations producers) := by
  refine ⟨empty_truthful, fun place p hp => ?_⟩
  cases place with
  | zero =>
    rw [courierPool, List.getElem?_cons_zero, Option.some.injEq] at hp
    subst hp
    refine Respects.mono (respects_inTurn (fun p hp files htruthful => ?_) empty_truthful) fun _ _ _ => trivial
    obtain ⟨operation, _, rfl⟩ := List.mem_map.1 hp
    exact operation.2.respects host operation.1 id htruthful
  | succ place =>
    rw [courierPool, List.getElem?_cons_succ, List.getElem?_map, Option.map_eq_some_iff] at hp
    obtain ⟨calls, _, rfl⟩ := hp
    refine Respects.mono (respects_inTurn (fun p hp files _ => ?_) empty_truthful) fun _ _ _ => trivial
    obtain ⟨call, _, rfl⟩ := List.mem_map.1 hp
    exact (callRevitViaCourier_reports call id host).mono fun _ _ hafter => hafter.1

theorem evolves_of_advances {before after : SharedJob}
    (h : Relation.ReflTransGen courierDiscipline.Advances before after) : before.Evolves after := by
  induction h with
  | refl => exact .refl before
  | tail _ hstep ih =>
    obtain ⟨_, hchange⟩ := hstep
    exact ih.trans hchange.2.1

end runs

/-- In every run whose overwriting steps find what they were written for (the
    hand-out and the timeout of a pending job find it pending, the hand-out and the
    timeout's result find no result), a call that ended because the job timed out
    before a claim tells the truth for good, and a published result stays. -/
theorem timed_out_call_truthful_of_calm (host : CourierHost) (id : String)
    (operations : List (CourierEnvironment × BackendOperation)) (producers : List (List ProducerCall))
    (schedule later : List Nat)
    (hcalm : (courierPool host id operations producers).calm (schedule ++ later) = true) :
    (((courierPool host id operations producers).run schedule).state.reportedBeforeClaim = true →
      ((courierPool host id operations producers).run (schedule ++ later)).state.handedOut = false)
    ∧ ∀ result, ((courierPool host id operations producers).run schedule).state.result = some result →
      ((courierPool host id operations producers).run (schedule ++ later)).state.result = some result := by
  rw [Pool.calm_append, Bool.and_eq_true] at hcalm
  obtain ⟨hfirst, hrest⟩ := hcalm
  obtain ⟨hdisciplined, _⟩ := (courierPool_disciplined host id operations producers).run hfirst
  obtain ⟨_, hadvances⟩ := hdisciplined.run hrest
  have hevolves := evolves_of_advances hadvances
  rw [Pool.run_append]
  refine ⟨fun hreported => ?_, hevolves.result⟩
  obtain ⟨hhanded, hclosed⟩ := hdisciplined.holds.reported hreported
  exact (hevolves.closed hclosed).2.trans hhanded

section samples

/-- A call that waits two minutes and gives up at its deadline. -/
def impatientCall : ProducerCall :=
  ⟨{ plainContract "j" with session_id := "s", method := "GET", path := "/revit/ping" }, 120000, 0, [120000], 120000⟩

/-- An executor claims and completes within the two minutes. -/
def promptBackend : List (CourierEnvironment × BackendOperation) :=
  [(laboratoryEnvironment 119000, .claimNext ⟨none, "e", none, false⟩),
    (laboratoryEnvironment 119500, .complete ⟨"s", "j", "e", .null, none, false⟩)]

/-- The files after a schedule of that call and that backend in the laboratory. -/
def sampleRun (schedule : List Nat) : SharedJob :=
  ((courierPool asciiCourierHost "j" promptBackend [[impatientCall]]).run schedule).state

end samples

/-- The call runs first; the backend comes too late and hands nothing out. -/
theorem timed_out_call_truthful_of_calm_on_late_claim :
    (sampleRun (List.replicate 7 1)).reportedBeforeClaim = true
      ∧ (sampleRun (List.replicate 7 1 ++ List.replicate 3 0)).handedOut = false := by
  have hcalm : (courierPool asciiCourierHost "j" promptBackend [[impatientCall]]).calm
      (List.replicate 7 1 ++ List.replicate 3 0) = true := by decide +kernel
  have hreported : (sampleRun (List.replicate 7 1)).reportedBeforeClaim = true := by decide +kernel
  obtain ⟨htruth, _⟩ := timed_out_call_truthful_of_calm _ _ _ _ _ _ hcalm
  exact ⟨hreported, htruth hreported⟩

/-- The call reads a pending job without a result; before it writes, the job is
    claimed and completed. The call then reports a timeout before a claim and
    replaces the stored result. -/
theorem timed_out_call_misreports :
    (¬ ∀ (host : CourierHost) (id : String) (operations : List (CourierEnvironment × BackendOperation))
      (producers : List (List ProducerCall)) (schedule later : List Nat),
      ((courierPool host id operations producers).run schedule).state.reportedBeforeClaim = true →
        ((courierPool host id operations producers).run (schedule ++ later)).state.handedOut = false)
    ∧ ¬ ∀ (host : CourierHost) (id : String) (operations : List (CourierEnvironment × BackendOperation))
      (producers : List (List ProducerCall)) (schedule later : List Nat) (result : RevitToolResult),
      ((courierPool host id operations producers).run schedule).state.result = some result →
        ((courierPool host id operations producers).run (schedule ++ later)).state.result = some result := by
  have hruns : (sampleRun (List.replicate 4 1 ++ List.replicate 9 0)).result.map (fun result => result.status)
        = some .succeeded
      ∧ (sampleRun (List.replicate 4 1 ++ List.replicate 9 0 ++ List.replicate 3 1)).result.map
        (fun result => result.status) = some .failed
      ∧ (sampleRun (List.replicate 4 1 ++ List.replicate 9 0 ++ List.replicate 3 1)).reportedBeforeClaim = true
      ∧ (sampleRun (List.replicate 4 1 ++ List.replicate 9 0 ++ List.replicate 3 1)).handedOut = true := by
    decide +kernel
  obtain ⟨hsucceeded, hfailed, hreported, hhanded⟩ := hruns
  rw [sampleRun] at hsucceeded hfailed hreported hhanded
  constructor
  · intro htruth
    have hfalse := htruth _ _ _ _ _ [] hreported
    rw [List.append_nil, hhanded] at hfalse
    cases hfalse
  · intro hkept
    obtain ⟨result, hresult, hstatus⟩ := Option.map_eq_some_iff.1 hsucceeded
    rw [hkept _ _ _ _ _ _ _ hresult, Option.map_some, hstatus] at hfailed
    cases hfailed

end revit_operator.courier.shared
