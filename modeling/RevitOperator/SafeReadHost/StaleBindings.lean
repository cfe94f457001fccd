import RevitOperator.Library.Run
import RevitOperator.SafeReadHost.DocumentSession

/-! Certified counts under the events of the application: which document changes
    are seen by a request between its capture and its final verification. -/

open checked_run

namespace revit_operator.safe_read_host

variable {Doc : Type}

/-- Where a certified request stands. -/
inductive RequestStage where
  /-- It was admitted with the tracked binding; its capture is dispatched. -/
  | admitted
  /-- Its capture succeeded. -/
  | captured
  /-- Its binding was verified and the sheets are being counted. -/
  | counting
  /-- Its count is reported as succeeded. -/
  | succeeded
  | failed
  deriving DecidableEq

/-- Between a successful capture and the final verification of the count. -/
def RequestStage.Held (stage : RequestStage) : Prop := stage = .captured ∨ stage = .counting

instance (stage : RequestStage) : Decidable stage.Held := inferInstanceAs (Decidable (_ ∨ _))

structure CertifiedRequest (Doc : Type) where
  binding : DocumentBinding Doc
  stage : RequestStage
  /-- Its document changed or was saved while the request held its binding. -/
  stale : Bool

/-- The tracker and the certified requests of a running host. -/
structure DocumentHost (Doc : Type) where
  tracker : DocumentSessionTracker Doc
  requests : Nat → Option (CertifiedRequest Doc)

inductive SaveEvent where
  | saving
  | saved
  | savingAs
  | savedAs

inductive DocumentEvent (Doc : Type) where
  /-- `document` is none where no view is active. -/
  | viewActivated (document : Option Doc) (capture : Option Capture) (sessionId : String) (publishes : Bool)
  /-- `threw`: reading the document of the event threw. -/
  | documentChanged (document : Doc) (threw : Bool) (capture : Option Capture) (sessionId : String) (publishes : Bool)
  | documentSave (kind : SaveEvent) (document : Doc) (capture : Option Capture) (sessionId : String) (publishes : Bool)
  | documentClosing (document : Doc) (publishes : Bool)
  | requestAdmitted (id : Nat)
  | captureExecuted (id : Nat) (active : Active Doc)
  | countStarted (id : Nat) (active : Active Doc)
  /-- `counted`: the kernel counted the sheets. -/
  | countEnded (id : Nat) (active : Active Doc) (counted : Bool)
  /-- A receipt was refused, a token could not be consumed, or something threw. -/
  | requestFailed (id : Nat)

inductive HostFault where
  | outOfOrder

namespace DocumentHost

variable [DecidableEq Doc] (host : DocumentHost Doc)

/-- The document changes under the requests that hold a binding of it. -/
def markStale (document : Doc) (request : CertifiedRequest Doc) : CertifiedRequest Doc :=
  if request.stage.Held ∧ request.binding.RuntimeIdentity = document then { request with stale := true } else request

def OnViewActivated (document : Option Doc) (capture : Option Capture) (sessionId : String) (publishes : Bool) :
    DocumentHost Doc :=
  { host with
    tracker := host.tracker.handled
      (host.tracker.Observe (document.bind fun document => CreateFacts document capture) sessionId) publishes }

def OnDocumentChanged (document : Doc) (threw : Bool) (capture : Option Capture) (sessionId : String)
    (publishes : Bool) : DocumentHost Doc where
  tracker := host.tracker.handled
    (if threw then none else host.tracker.MarkChanged (CreateFacts document capture) sessionId) publishes
  requests := fun id => (host.requests id).map (markStale document)

/-- `App.MarkTransition` -/
def MarkTransition (document : Doc) (capture : Option Capture) (sessionId : String) (publishes : Bool) :
    DocumentHost Doc where
  tracker := host.tracker.handled (host.tracker.MarkTransition (CreateFacts document capture) sessionId) publishes
  requests := fun id => (host.requests id).map (markStale document)

def OnDocumentClosing (document : Doc) (publishes : Bool) : DocumentHost Doc :=
  { host with tracker := host.tracker.handled (some (host.tracker.ClearIfCurrent document)) publishes }

def settle (id : Nat) (request : CertifiedRequest Doc) (stage : RequestStage) : DocumentHost Doc :=
  { host with requests := Function.update host.requests id (some { request with stage := stage }) }

/-- What happens next to a request at one of the stages. -/
def advance (id : Nat) (stages : List RequestStage) (next : CertifiedRequest Doc → RequestStage) :
    Except HostFault (DocumentHost Doc) :=
  match host.requests id with
  | none => .error .outOfOrder
  | some request => if request.stage ∈ stages then .ok (host.settle id request (next request)) else .error .outOfOrder

def step : DocumentEvent Doc → Except HostFault (DocumentHost Doc)
  | .viewActivated document capture sessionId publishes =>
    .ok (host.OnViewActivated document capture sessionId publishes)
  | .documentChanged document threw capture sessionId publishes =>
    .ok (host.OnDocumentChanged document threw capture sessionId publishes)
  | .documentSave _ document capture sessionId publishes =>
    .ok (host.MarkTransition document capture sessionId publishes)
  | .documentClosing document publishes => .ok (host.OnDocumentClosing document publishes)
  | .requestAdmitted id =>
    match host.requests id, host.tracker.current with
    | none, some current =>
      .ok { host with requests := Function.update host.requests id (some ⟨current, .admitted, false⟩) }
    | _, _ => .error .outOfOrder
  | .captureExecuted id active =>
    host.advance id [.admitted] fun request =>
      if Verify host.tracker active request.binding = .none then .captured else .failed
  | .countStarted id active =>
    host.advance id [.captured] fun request =>
      if Verify host.tracker active request.binding = .none
          ∧ (active.any fun active => active.1 = request.binding.RuntimeIdentity) then .counting
      else .failed
  | .countEnded id active counted =>
    host.advance id [.counting] fun request =>
      if counted ∧ Verify host.tracker active request.binding = .none then .succeeded else .failed
  | .requestFailed id => host.advance id [.admitted, .captured, .counting] fun _ => .failed

omit [DecidableEq Doc] in
/-- A started host: nothing is tracked and nothing was asked. -/
def started : DocumentHost Doc := ⟨⟨none, 0⟩, fun _ => none⟩

/-- No stale binding was counted under. -/
def NoStaleCount : Prop :=
  ∀ id request, host.requests id = some request → request.stage = .succeeded → request.stale = false

/-- A request holds the tracked binding. -/
def HoldsCurrent : Prop :=
  ∃ id request current, host.requests id = some request ∧ request.stage.Held ∧ host.tracker.current = some current
    ∧ request.binding.Revision = current.Revision

/-- The change of a tracked document under a held binding could be captured, or the
    handler failed. -/
def ChangeSeen : DocumentEvent Doc → Prop
  | .documentChanged document threw capture _ publishes =>
    host.HoldsCurrent → host.tracker.Tracks document → publishes = true → threw = false →
      capture.any (fun capture => capture.IsValid) = true
  | _ => True

section steps

variable {host}

omit [DecidableEq Doc] in
theorem advance_eq_ok {id : Nat} {stages : List RequestStage} {stage : CertifiedRequest Doc → RequestStage}
    {next : DocumentHost Doc} :
    host.advance id stages stage = .ok next ↔ ∃ request, host.requests id = some request ∧ request.stage ∈ stages
      ∧ next = host.settle id request (stage request) := by
  unfold advance
  cases hrequest : host.requests id with
  | none => simp
  | some request =>
    by_cases hstage : request.stage ∈ stages
    · simp [hstage, eq_comm]
    · simp [hstage]

/-- What a step does: it moves the tracker on, under the requests or with a
    document marked; it admits a request; or it brings one on. -/
inductive Moves (host : DocumentHost Doc) (event : DocumentEvent Doc) : DocumentHost Doc → Prop
  | tracked {tracker : DocumentSessionTracker Doc} (hfollows : Follows host.tracker tracker) :
      Moves host event { host with tracker := tracker }
  | marked {tracker : DocumentSessionTracker Doc} (document : Doc) (hfollows : Follows host.tracker tracker)
      (hgone : host.ChangeSeen event → host.HoldsCurrent → LetsGo host.tracker document tracker) :
      Moves host event ⟨tracker, fun id => (host.requests id).map (markStale document)⟩
  | admitted {id : Nat} {current : DocumentBinding Doc} (hcurrent : host.tracker.current = some current) :
      Moves host event { host with requests := Function.update host.requests id (some ⟨current, .admitted, false⟩) }
  | settled {id : Nat} {request : CertifiedRequest Doc} {stage : RequestStage}
      (hrequest : host.requests id = some request)
      (hverified : stage = .succeeded → ∃ active, Verify host.tracker active request.binding = .none) :
      Moves host event (host.settle id request stage)

theorem step_moves {event : DocumentEvent Doc} {next : DocumentHost Doc} (h : host.step event = .ok next) :
    Moves host event next := by
  cases event with
  | viewActivated document capture sessionId publishes =>
    obtain rfl := Except.ok.inj h
    exact .tracked (.handled fun _ hnext => observe_follows hnext)
  | documentChanged document threw capture sessionId publishes =>
    obtain rfl := Except.ok.inj h
    refine .marked document (.handled fun next hnext => ?_) fun hseen hholds => .handled fun hpublishes next hnext => ?_
    · cases threw with
      | true => cases hnext
      | false => exact markChanged_follows hnext
    · cases threw with
      | true => cases hnext
      | false => exact markChanged_letsGo (fun htracks => hseen hholds htracks hpublishes rfl) hnext
  | documentSave kind document capture sessionId publishes =>
    obtain rfl := Except.ok.inj h
    exact .marked document (.handled fun _ hnext => markTransition_follows hnext)
      fun _ _ => .handled fun _ _ hnext => markTransition_letsGo hnext
  | documentClosing document publishes =>
    obtain rfl := Except.ok.inj h
    refine .tracked (.handled fun next hnext => ?_)
    obtain rfl := Option.some.inj hnext
    exact clearIfCurrent_follows document
  | requestAdmitted id =>
    simp only [step] at h
    split at h
    · obtain rfl := Except.ok.inj h
      exact .admitted ‹_›
    · cases h
  | captureExecuted id active =>
    obtain ⟨request, hrequest, _, rfl⟩ := advance_eq_ok.1 h
    refine .settled hrequest fun hstage => ?_
    split_ifs at hstage
  | countStarted id active =>
    obtain ⟨request, hrequest, _, rfl⟩ := advance_eq_ok.1 h
    refine .settled hrequest fun hstage => ?_
    split_ifs at hstage
  | countEnded id active counted =>
    obtain ⟨request, hrequest, _, rfl⟩ := advance_eq_ok.1 h
    refine .settled hrequest fun hstage => ?_
    split_ifs at hstage with hcounted
    exact ⟨active, hcounted.2⟩
  | requestFailed id =>
    obtain ⟨request, hrequest, _, rfl⟩ := advance_eq_ok.1 h
    exact .settled hrequest fun hstage => by cases hstage

omit [DecidableEq Doc] in
theorem settle_some {id other : Nat} {request held : CertifiedRequest Doc} {stage : RequestStage}
    (hrequest : host.requests id = some request) (hheld : (host.settle id request stage).requests other = some held) :
    ∃ before, host.requests other = some before ∧ held.binding = before.binding ∧ held.stale = before.stale
      ∧ (held.stage = before.stage ∨ other = id ∧ before = request ∧ held.stage = stage) := by
  by_cases hid : other = id
  · subst hid
    simp only [settle, Function.update_self, Option.some.injEq] at hheld
    exact ⟨request, hrequest, by rw [← hheld], by rw [← hheld], .inr ⟨rfl, rfl, by rw [← hheld]⟩⟩
  · simp only [settle, Function.update_of_ne hid] at hheld
    exact ⟨held, hheld, rfl, rfl, .inl rfl⟩

theorem markStale_binding (document : Doc) (request : CertifiedRequest Doc) :
    (markStale document request).binding = request.binding := by
  unfold markStale
  split_ifs <;> rfl

theorem markStale_stage (document : Doc) (request : CertifiedRequest Doc) :
    (markStale document request).stage = request.stage := by
  unfold markStale
  split_ifs <;> rfl

theorem stale_of_markStale {document : Doc} {request : CertifiedRequest Doc}
    (h : (markStale document request).stale = true) :
    request.stale = true ∨ request.stage.Held ∧ request.binding.RuntimeIdentity = document := by
  unfold markStale at h
  split_ifs at h with hheld
  · exact .inr hheld
  · exact .inl h

end steps

/-- Revisions name bindings: the bindings of requests were given out, and one under
    the tracked revision is the tracked one. -/
structure Coherent : Prop where
  bounded : host.tracker.Bounded
  given : ∀ id request, host.requests id = some request → request.binding.Revision ≤ host.tracker.nextRevision
  same : ∀ id request current, host.requests id = some request → host.tracker.current = some current →
    request.binding.Revision = current.Revision → request.binding = current

/-- Moreover a stale binding is not the tracked one, and none was counted under. -/
structure Watched : Prop extends host.Coherent where
  outdated : ∀ id request current, host.requests id = some request → request.stale = true →
    host.tracker.current = some current → request.binding.Revision ≠ current.Revision
  noStaleCount : host.NoStaleCount

section invariants

variable {host} {next : DocumentHost Doc} {event : DocumentEvent Doc}

omit [DecidableEq Doc] in
theorem coherent_started : (started : DocumentHost Doc).Coherent where
  bounded := by intro current hcurrent; cases hcurrent
  given := by intro id request hrequest; cases hrequest
  same := by intro id request current hrequest; cases hrequest

omit [DecidableEq Doc] in
theorem watched_started : (started : DocumentHost Doc).Watched where
  toCoherent := coherent_started
  outdated := by intro id request current hrequest; cases hrequest
  noStaleCount := by intro id request hrequest; cases hrequest

omit [DecidableEq Doc] in
theorem Coherent.follows (h : host.Coherent) (hfollows : Follows host.tracker next.tracker)
    (hrequests : ∀ id request, next.requests id = some request →
      ∃ before, host.requests id = some before ∧ request.binding = before.binding) : next.Coherent where
  bounded := hfollows.bounded h.bounded
  given id request hrequest := by
    obtain ⟨before, hbefore, hbinding⟩ := hrequests id request hrequest
    rw [hbinding]
    exact (h.given id before hbefore).trans hfollows.nextRevision_le
  same id request current hrequest hcurrent hrevision := by
    obtain ⟨before, hbefore, hbinding⟩ := hrequests id request hrequest
    rw [hbinding] at hrevision ⊢
    have hle : current.Revision ≤ host.tracker.nextRevision := hrevision ▸ h.given id before hbefore
    exact h.same id before current hbefore (hfollows.current_of_le hcurrent hle) hrevision

theorem Coherent.moves (h : host.Coherent) (hmoves : Moves host event next) : next.Coherent := by
  cases hmoves with
  | tracked hfollows => exact h.follows hfollows fun id request hrequest => ⟨request, hrequest, rfl⟩
  | marked document hfollows _ =>
    refine h.follows hfollows fun id request hrequest => ?_
    obtain ⟨before, hbefore, rfl⟩ := Option.map_eq_some_iff.1 hrequest
    exact ⟨before, hbefore, markStale_binding document before⟩
  | @admitted id current hcurrent =>
    refine ⟨h.bounded, fun other request hrequest => ?_, fun other request tracked hrequest htracked hrevision => ?_⟩
    · by_cases hid : other = id
      · subst hid
        obtain rfl : _ = request := by simpa using hrequest
        exact h.bounded current hcurrent
      · exact h.given other request (by simpa [hid] using hrequest)
    · by_cases hid : other = id
      · subst hid
        obtain rfl : _ = request := by simpa using hrequest
        exact Option.some.inj (hcurrent.symm.trans htracked)
      · exact h.same other request tracked (by simpa [hid] using hrequest) htracked hrevision
  | settled hrequest _ =>
    refine h.follows .kept fun other held hheld => ?_
    obtain ⟨before, hbefore, hbinding, _⟩ := settle_some hrequest hheld
    exact ⟨before, hbefore, hbinding⟩

theorem Watched.moves (h : host.Watched) (hseen : host.ChangeSeen event) (hmoves : Moves host event next) :
    next.Watched := by
  have hcoherent := h.toCoherent.moves hmoves
  cases hmoves with
  | tracked hfollows =>
    refine ⟨hcoherent, fun id request current hrequest hstale hcurrent hrevision => ?_, h.noStaleCount⟩
    have hle : current.Revision ≤ host.tracker.nextRevision := hrevision ▸ h.given id request hrequest
    exact h.outdated id request current hrequest hstale (hfollows.current_of_le hcurrent hle) hrevision
  | marked document hfollows hgone =>
    refine ⟨hcoherent, fun id request current hrequest hstale hcurrent hrevision => ?_,
      fun id request hrequest hstage => ?_⟩
    · obtain ⟨before, hbefore, rfl⟩ := Option.map_eq_some_iff.1 hrequest
      rw [markStale_binding] at hrevision
      have hle : current.Revision ≤ host.tracker.nextRevision := hrevision ▸ h.given id before hbefore
      have htracked := hfollows.current_of_le hcurrent hle
      rcases stale_of_markStale hstale with hbeforeStale | ⟨hheld, hdocument⟩
      · exact h.outdated id before current hbefore hbeforeStale htracked hrevision
      · have hholds : host.HoldsCurrent := ⟨id, before, current, hbefore, hheld, htracked, hrevision⟩
        refine hgone hseen hholds current hcurrent hle ?_
        rw [← h.same id before current hbefore htracked hrevision, hdocument]
    · obtain ⟨before, hbefore, rfl⟩ := Option.map_eq_some_iff.1 hrequest
      rw [markStale_stage] at hstage
      refine Bool.eq_false_iff.2 fun hstale => ?_
      rcases stale_of_markStale hstale with hbeforeStale | ⟨hheld, _⟩
      · simp [h.noStaleCount id before hbefore hstage] at hbeforeStale
      · simp [RequestStage.Held, hstage] at hheld
  | @admitted id current hcurrent =>
    refine ⟨hcoherent, fun other request tracked hrequest hstale => ?_, fun other request hrequest hstage => ?_⟩
    · by_cases hid : other = id
      · subst hid
        obtain rfl : _ = request := by simpa using hrequest
        cases hstale
      · exact h.outdated other request tracked (by simpa [hid] using hrequest) hstale
    · by_cases hid : other = id
      · subst hid
        obtain rfl : _ = request := by simpa using hrequest
        rfl
      · exact h.noStaleCount other request (by simpa [hid] using hrequest) hstage
  | @settled id request stage hrequest hverified =>
    refine ⟨hcoherent, fun other held current hheld hstale hcurrent => ?_, fun other held hheld hstage => ?_⟩
    · obtain ⟨before, hbefore, hbinding, hsame, _⟩ := settle_some hrequest hheld
      rw [hbinding]
      exact h.outdated other before current hbefore (hsame ▸ hstale) hcurrent
    · obtain ⟨before, hbefore, _, hsame, hkept | ⟨rfl, rfl, hnew⟩⟩ := settle_some hrequest hheld
      · exact hsame ▸ h.noStaleCount other before hbefore (hkept ▸ hstage)
      · obtain ⟨active, hnone⟩ := hverified (hnew ▸ hstage)
        obtain ⟨tracked, htracked, hrevision, _⟩ := verify_eq_none hnone
        refine hsame ▸ Bool.eq_false_iff.2 fun hstale => ?_
        exact h.outdated other before tracked hbefore hstale htracked hrevision.symm

end invariants

section unseen

variable {host} {event : DocumentEvent Doc} {id : Nat} {request : CertifiedRequest Doc}

/-- The binding's document as it was when it was bound. -/
def asBound (binding : DocumentBinding Doc) : Active Doc :=
  some (binding.RuntimeIdentity, some ⟨binding.ProjectFingerprint, true, false, binding.IsModified⟩)

theorem countEnded_asBound (hrequest : host.requests id = some request) (hstage : request.stage = .counting)
    (hcurrent : host.tracker.current = some request.binding) :
    host.step (.countEnded id (asBound request.binding) true) = .ok (host.settle id request .succeeded) := by
  have hverify : Verify host.tracker (asBound request.binding) request.binding = .none := verify_current hcurrent
  refine advance_eq_ok.2 ⟨request, hrequest, by simp [hstage], ?_⟩
  simp [hverify]

theorem countStarted_asBound (hrequest : host.requests id = some request) (hstage : request.stage = .captured)
    (hcurrent : host.tracker.current = some request.binding) :
    host.step (.countStarted id (asBound request.binding)) = .ok (host.settle id request .counting) := by
  have hverify : Verify host.tracker (asBound request.binding) request.binding = .none := verify_current hcurrent
  refine advance_eq_ok.2 ⟨request, hrequest, by simp [hstage], ?_⟩
  rw [if_pos ⟨hverify, by simp [asBound]⟩]

omit [DecidableEq Doc] in
theorem settle_succeeded_stale (hstale : request.stale = true) : ¬ (host.settle id request .succeeded).NoStaleCount := by
  intro h
  have := h id { request with stage := .succeeded } (by simp [settle]) rfl
  simp [hstale] at this

theorem stale_count_of_held (hrequest : host.requests id = some request) (hheld : request.stage.Held)
    (hstale : request.stale = true) (hcurrent : host.tracker.current = some request.binding) :
    ∃ rest final, feed step host rest = .ok final ∧ ¬ final.NoStaleCount := by
  rcases hheld with hcaptured | hcounting
  · have hstarted := countStarted_asBound hrequest hcaptured hcurrent
    let counting : CertifiedRequest Doc := { request with stage := .counting }
    have hended : (host.settle id request .counting).step (.countEnded id (asBound request.binding) true)
        = .ok ((host.settle id request .counting).settle id counting .succeeded) :=
      @countEnded_asBound _ _ (host.settle id request .counting) id counting (by simp [settle, counting]) rfl hcurrent
    refine ⟨[.countStarted id (asBound request.binding), .countEnded id (asBound request.binding) true],
      (host.settle id request .counting).settle id counting .succeeded, ?_, settle_succeeded_stale hstale⟩
    rw [feed_cons hstarted, feed_singleton]
    exact hended
  · exact ⟨[.countEnded id (asBound request.binding) true], _,
      (feed_singleton _ _).trans (countEnded_asBound hrequest hcounting hcurrent), settle_succeeded_stale hstale⟩

theorem stale_held_of_unseen (h : host.Coherent) (hunseen : ¬ host.ChangeSeen event) :
    ∃ next id request, host.step event = .ok next ∧ next.requests id = some request ∧ request.stage.Held
      ∧ request.stale = true ∧ next.tracker.current = some request.binding := by
  cases event with
  | documentChanged document threw capture sessionId publishes =>
    simp only [ChangeSeen, Classical.not_imp, Bool.not_eq_true] at hunseen
    obtain ⟨⟨id, request, current, hrequest, hheld, hcurrent, hrevision⟩, htracks, rfl, rfl, hcapture⟩ := hunseen
    obtain rfl := h.same id request current hrequest hcurrent hrevision
    obtain ⟨tracked, htracked, hdocument⟩ := tracks_iff.1 htracks
    obtain rfl := Option.some.inj (hcurrent.symm.trans htracked)
    have hkept : host.tracker.MarkChanged (CreateFacts document capture) sessionId = some host.tracker := by
      cases capture with
      | none => simp [DocumentSessionTracker.MarkChanged, CreateFacts]
      | some captured =>
        have hinvalid : captured.IsValid = false := by simpa using hcapture
        simp [DocumentSessionTracker.MarkChanged, CreateFacts, Option.filter, hinvalid]
    have hmarked : markStale document request = { request with stale := true } := if_pos ⟨hheld, hdocument⟩
    refine ⟨_, id, { request with stale := true }, rfl, ?_, hheld, rfl, ?_⟩
    · simp [OnDocumentChanged, hrequest, hmarked]
    · simpa [OnDocumentChanged, hkept, DocumentSessionTracker.handled] using hcurrent
  | viewActivated | documentSave | documentClosing | requestAdmitted | captureExecuted | countStarted | countEnded
  | requestFailed => exact absurd trivial hunseen

end unseen

/-- In a run whose changes of held bindings are all seen, no count under a stale
    binding is reported as succeeded; and after one that is not seen, one can be. -/
theorem no_stale_count :
    (∀ events : List (DocumentEvent Doc), StepsMeet step started events ChangeSeen →
      AlongRun step started events NoStaleCount)
    ∧ ∀ (events : List (DocumentEvent Doc)) host event, feed step started events = .ok host →
      ¬ host.ChangeSeen event → ∃ rest final, feed step host (event :: rest) = .ok final ∧ ¬ final.NoStaleCount := by
  constructor
  · intro events hmeet pre hpre host hhost
    refine (AlongRun.of_stepsMeet (fun state input next h hseen hstep => ?_) watched_started hmeet pre hpre host
      hhost).noStaleCount
    exact Watched.moves h hseen (step_moves hstep)
  · intro events host event hhost hunseen
    have hcoherent : host.Coherent :=
      feed_invariant (fun state input next h hstep => h.moves (step_moves hstep)) coherent_started hhost
    obtain ⟨next, id, request, hstep, hrequest, hheld, hstale, hcurrent⟩ := stale_held_of_unseen hcoherent hunseen
    obtain ⟨rest, final, hrest, hfinal⟩ := stale_count_of_held hrequest hheld hstale hcurrent
    refine ⟨rest, final, ?_, hfinal⟩
    rw [feed_cons hstep]
    exact hrest

/-- In every state of every run a held binding other than the tracked one has another
    revision. -/
theorem revisions_name_bindings (events : List (DocumentEvent Doc)) : AlongRun step started events Coherent :=
  AlongRun.of_invariant (fun _ _ _ h hstep => Coherent.moves h (step_moves hstep)) coherent_started

section examples

/-- A document is opened, a request captured and the document changes. -/
def changedWhileHeld (capture : Option Capture) : List (DocumentEvent Nat) :=
  [.viewActivated (some 1) (some ⟨"fp", true, false, false⟩) "a" true, .requestAdmitted 0,
    .captureExecuted 0 (some (1, some ⟨"fp", true, false, false⟩)), .documentChanged 1 false capture "b" true]

/-- Behind a change that is captured the held request is to be counted, and one that is
    admitted after it. -/
def countedAfterChange : List (DocumentEvent Nat) :=
  let active : Active Nat := some (1, some ⟨"fp", true, false, true⟩)
  changedWhileHeld (some ⟨"fp", true, false, true⟩) ++ [.countStarted 0 active, .requestAdmitted 1,
    .captureExecuted 1 active, .countStarted 1 active, .countEnded 1 active true]

/-- Only the second is counted. -/
theorem no_stale_count_seen :
    AlongRun step started countedAfterChange NoStaleCount
      ∧ ∃ host held fresh, feed step started countedAfterChange = .ok host ∧ host.requests 0 = some held
        ∧ held.stage = .failed ∧ host.requests 1 = some fresh ∧ fresh.stage = .succeeded := by
  refine ⟨no_stale_count.1 _ fun pre event hpre host _ => ?_, _, _, _, rfl, rfl, rfl, rfl, rfl⟩
  have hmem := hpre.mem (List.mem_append_right pre (List.mem_singleton_self event))
  simp only [countedAfterChange, changedWhileHeld, List.cons_append, List.nil_append, List.mem_cons, List.not_mem_nil,
    or_false] at hmem
  obtain rfl | rfl | rfl | rfl | rfl | rfl | rfl | rfl | rfl := hmem <;> try trivial
  exact fun _ _ _ _ => rfl

/-- The change could not be captured: the count goes on and is reported. -/
theorem unseen_change_counted : ¬ ∀ events : List (DocumentEvent Nat), AlongRun step started events NoStaleCount := by
  intro h
  let active : Active Nat := some (1, some ⟨"fp", true, false, false⟩)
  obtain ⟨host, request, hhost, hrequest, hstage, hstale⟩ : ∃ host request,
      feed step started (changedWhileHeld none ++ [.countStarted 0 active, .countEnded 0 active true]) = .ok host
        ∧ host.requests 0 = some request ∧ request.stage = .succeeded ∧ request.stale = true :=
    ⟨_, _, rfl, rfl, rfl, rfl⟩
  have hfresh := h _ _ List.prefix_rfl host hhost 0 request hrequest hstage
  exact Bool.noConfusion (hfresh.symm.trans hstale)

end examples

end DocumentHost

end revit_operator.safe_read_host
