import Mathlib.Tactic.SplitIfs
import RevitOperator.SafeReadHost.ExecutionContracts

/-! The document a certified request is bound to: how the host follows the active
    document, and how a binding is verified. -/

namespace revit_operator.safe_read_host

variable {Doc : Type}

structure DocumentIdentityFacts (Doc : Type) where
  RuntimeIdentity : Doc
  ProjectFingerprint : String
  IsValid : Bool
  IsModifiable : Bool
  IsModified : Bool
  deriving DecidableEq

structure DocumentBinding (Doc : Type) where
  RuntimeIdentity : Doc
  ProjectFingerprint : String
  DocumentSessionId : String
  IsModified : Bool
  Revision : Nat
  deriving DecidableEq

/-- What reading the properties of a document gives. -/
structure Capture where
  ProjectFingerprint : String
  IsValid : Bool
  IsModifiable : Bool
  IsModified : Bool
  deriving DecidableEq

/-- `RevitDocumentAccess.CreateFacts`: no facts where reading the document threw. -/
def CreateFacts (document : Doc) (capture : Option Capture) : Option (DocumentIdentityFacts Doc) :=
  capture.map fun capture =>
    ⟨document, capture.ProjectFingerprint, capture.IsValid, capture.IsModifiable, capture.IsModified⟩

structure DocumentSessionTracker (Doc : Type) where
  current : Option (DocumentBinding Doc)
  nextRevision : Nat

namespace DocumentSessionTracker

def MaxRevision : Nat := 9223372036854775807

variable (tracker : DocumentSessionTracker Doc)

def Clear : DocumentSessionTracker Doc := { tracker with current := none }

/-- `_current = Create(facts)` under a new session id; nothing where the checked
    increment throws. -/
def Create (facts : DocumentIdentityFacts Doc) (sessionId : String) : Option (DocumentSessionTracker Doc) :=
  if tracker.nextRevision < MaxRevision then
    some {
      current := some ⟨facts.RuntimeIdentity, facts.ProjectFingerprint, sessionId, facts.IsModified,
        tracker.nextRevision + 1⟩
      nextRevision := tracker.nextRevision + 1 }
  else none

variable [DecidableEq Doc]

/-- The tracked binding is of the document. -/
def Tracks (document : Doc) : Prop := tracker.current.any fun current => current.RuntimeIdentity = document

instance (document : Doc) : Decidable (tracker.Tracks document) := inferInstanceAs (Decidable (_ = true))

def Observe (facts : Option (DocumentIdentityFacts Doc)) (sessionId : String) :
    Option (DocumentSessionTracker Doc) :=
  match facts.filter fun facts => facts.IsValid with
  | none => some tracker.Clear
  | some facts =>
    if tracker.current.any fun current => current.RuntimeIdentity = facts.RuntimeIdentity
        ∧ current.ProjectFingerprint = facts.ProjectFingerprint ∧ current.IsModified = facts.IsModified then some tracker
    else tracker.Create facts sessionId

def MarkChanged (facts : Option (DocumentIdentityFacts Doc)) (sessionId : String) :
    Option (DocumentSessionTracker Doc) :=
  match facts.filter fun facts => facts.IsValid with
  | none => some tracker
  | some facts => if tracker.Tracks facts.RuntimeIdentity then tracker.Create facts sessionId else some tracker

def MarkTransition (facts : Option (DocumentIdentityFacts Doc)) (sessionId : String) :
    Option (DocumentSessionTracker Doc) :=
  match facts.filter fun facts => facts.IsValid with
  | none => some tracker.Clear
  | some facts =>
    if tracker.current.isSome ∧ ¬ tracker.Tracks facts.RuntimeIdentity then some tracker
    else tracker.Create facts sessionId

def ClearIfCurrent (runtimeIdentity : Doc) : DocumentSessionTracker Doc :=
  if tracker.Tracks runtimeIdentity then tracker.Clear else tracker

/-- The end of an event handler: what it did is published; where it threw or the
    publication did, the tracker is cleared. -/
def handled (outcome : Option (DocumentSessionTracker Doc)) (publishes : Bool) : DocumentSessionTracker Doc :=
  match outcome with
  | none => tracker.Clear
  | some next => if publishes then next else next.Clear

end DocumentSessionTracker

section verification

variable [DecidableEq Doc]

/-- `DocumentBindingVerifier.Verify` -/
def VerifyBinding (expected : DocumentBinding Doc) (actual : Option (DocumentIdentityFacts Doc))
    (tracked : Option (DocumentBinding Doc)) : CertifiedFailureCode :=
  match actual.filter fun actual => actual.IsValid, tracked with
  | none, _ => .noActiveDocument
  | some _, none => .documentChanged
  | some actual, some tracked =>
    if expected.RuntimeIdentity ≠ actual.RuntimeIdentity ∨ expected.ProjectFingerprint ≠ actual.ProjectFingerprint
        ∨ expected.RuntimeIdentity ≠ tracked.RuntimeIdentity ∨ expected.DocumentSessionId ≠ tracked.DocumentSessionId
        ∨ expected.Revision ≠ tracked.Revision ∨ expected.IsModified ≠ actual.IsModified then
      .documentChanged
    else if actual.IsModifiable then .notReadOnly
    else .none

/-- The active document of the application. -/
abbrev Active (Doc : Type) := Option (Doc × Option Capture)

def CaptureFacts (active : Active Doc) : Option (DocumentIdentityFacts Doc) :=
  active.bind fun active => CreateFacts active.1 active.2

/-- `RevitDocumentAccess.Verify` -/
def Verify (tracker : DocumentSessionTracker Doc) (active : Active Doc) (expected : DocumentBinding Doc) :
    CertifiedFailureCode :=
  if tracker.Tracks expected.RuntimeIdentity then VerifyBinding expected (CaptureFacts active) tracker.current
  else .documentChanged

/-- A binding that is verified is the tracked one, up to what only the document
    tells. -/
theorem verify_eq_none {tracker : DocumentSessionTracker Doc} {active : Active Doc} {expected : DocumentBinding Doc}
    (h : Verify tracker active expected = .none) :
    ∃ tracked, tracker.current = some tracked ∧ tracked.Revision = expected.Revision
      ∧ tracked.RuntimeIdentity = expected.RuntimeIdentity := by
  rw [Verify] at h
  split_ifs at h
  unfold VerifyBinding at h
  split at h
  · cases h
  · cases h
  · rename_i tracked _ htracked
    split_ifs at h with hdiffer
    simp only [not_or, not_not] at hdiffer
    exact ⟨tracked, htracked, hdiffer.2.2.2.2.1.symm, hdiffer.2.2.1.symm⟩

/-- The tracked binding is verified while its document is active as it was
    observed. -/
theorem verify_current {tracker : DocumentSessionTracker Doc} {current : DocumentBinding Doc}
    (h : tracker.current = some current) :
    Verify tracker (some (current.RuntimeIdentity,
      some ⟨current.ProjectFingerprint, true, false, current.IsModified⟩)) current = .none := by
  have htracks : tracker.Tracks current.RuntimeIdentity := by simp [DocumentSessionTracker.Tracks, h]
  simp [Verify, htracks, h, CaptureFacts, CreateFacts, VerifyBinding, Option.filter]

end verification

section revisions

variable {tracker next : DocumentSessionTracker Doc}

/-- The tracked revision is one that was given out. -/
def DocumentSessionTracker.Bounded (tracker : DocumentSessionTracker Doc) : Prop :=
  ∀ current, tracker.current = some current → current.Revision ≤ tracker.nextRevision

/-- A tracker goes on to another: it keeps its binding, drops it, or binds under a
    revision that is new. -/
inductive Follows (tracker : DocumentSessionTracker Doc) : DocumentSessionTracker Doc → Prop
  | kept : Follows tracker tracker
  | cleared {nextRevision : Nat} (h : tracker.nextRevision ≤ nextRevision) : Follows tracker ⟨none, nextRevision⟩
  | bound {binding : DocumentBinding Doc} (h : binding.Revision = tracker.nextRevision + 1) :
      Follows tracker ⟨some binding, tracker.nextRevision + 1⟩

theorem Follows.clear : Follows tracker tracker.Clear :=
  .cleared (Nat.le_refl _)

theorem Follows.nextRevision_le (h : Follows tracker next) : tracker.nextRevision ≤ next.nextRevision := by
  cases h with
  | kept => exact Nat.le_refl _
  | cleared hle => exact hle
  | bound _ => exact Nat.le_succ _

theorem Follows.bounded (h : Follows tracker next) (hbounded : tracker.Bounded) : next.Bounded := by
  cases h with
  | kept => exact hbounded
  | cleared _ => intro current hcurrent; cases hcurrent
  | bound hrevision =>
    intro current hcurrent
    obtain rfl := Option.some.inj hcurrent
    exact Nat.le_of_eq hrevision

theorem Follows.current_of_le (h : Follows tracker next) {binding : DocumentBinding Doc}
    (hcurrent : next.current = some binding) (hle : binding.Revision ≤ tracker.nextRevision) :
    tracker.current = some binding := by
  cases h with
  | kept => exact hcurrent
  | cleared _ => cases hcurrent
  | bound hrevision =>
    obtain rfl := Option.some.inj hcurrent
    omega

theorem Follows.handled {outcome : Option (DocumentSessionTracker Doc)} {publishes : Bool}
    (h : ∀ next, outcome = some next → Follows tracker next) :
    Follows tracker (tracker.handled outcome publishes) := by
  unfold DocumentSessionTracker.handled
  cases outcome with
  | none => exact .clear
  | some next =>
    cases publishes with
    | true => exact h next rfl
    | false => exact .cleared (h next rfl).nextRevision_le

/-- No binding of the document that was tracked before is tracked after. -/
def LetsGo (tracker : DocumentSessionTracker Doc) (document : Doc) (next : DocumentSessionTracker Doc) : Prop :=
  ∀ binding, next.current = some binding → binding.Revision ≤ tracker.nextRevision →
    binding.RuntimeIdentity ≠ document

theorem LetsGo.handled {document : Doc} {outcome : Option (DocumentSessionTracker Doc)} {publishes : Bool}
    (h : publishes = true → ∀ next, outcome = some next → LetsGo tracker document next) :
    LetsGo tracker document (tracker.handled outcome publishes) := by
  unfold DocumentSessionTracker.handled
  intro binding hcurrent hle
  cases outcome with
  | none => cases hcurrent
  | some next =>
    cases publishes with
    | true => exact h rfl next rfl binding hcurrent hle
    | false => cases hcurrent

variable {facts : DocumentIdentityFacts Doc} {sessionId : String}

theorem create_follows (h : tracker.Create facts sessionId = some next) : Follows tracker next := by
  rw [DocumentSessionTracker.Create] at h
  split_ifs at h
  obtain rfl := Option.some.inj h
  exact .bound rfl

theorem create_letsGo (document : Doc) (h : tracker.Create facts sessionId = some next) :
    LetsGo tracker document next := by
  rw [DocumentSessionTracker.Create] at h
  split_ifs at h
  obtain rfl := Option.some.inj h
  intro binding hcurrent hle
  obtain rfl := Option.some.inj hcurrent
  simp only at hle
  omega

variable [DecidableEq Doc] {given : Option (DocumentIdentityFacts Doc)}

theorem tracks_iff {document : Doc} :
    tracker.Tracks document ↔ ∃ current, tracker.current = some current ∧ current.RuntimeIdentity = document := by
  simp [DocumentSessionTracker.Tracks, Option.any_eq_true]

theorem letsGo_of_not_tracks {document : Doc} (h : ¬ tracker.Tracks document) : LetsGo tracker document tracker :=
  fun binding hcurrent _ hdocument => h (tracks_iff.2 ⟨binding, hcurrent, hdocument⟩)

theorem observe_follows (h : tracker.Observe given sessionId = some next) : Follows tracker next := by
  unfold DocumentSessionTracker.Observe at h
  split at h
  · exact Option.some.inj h ▸ .clear
  · split_ifs at h
    · exact Option.some.inj h ▸ .kept
    · exact create_follows h

theorem markChanged_follows (h : tracker.MarkChanged given sessionId = some next) : Follows tracker next := by
  unfold DocumentSessionTracker.MarkChanged at h
  split at h
  · exact Option.some.inj h ▸ .kept
  · split_ifs at h
    · exact create_follows h
    · exact Option.some.inj h ▸ .kept

theorem markTransition_follows (h : tracker.MarkTransition given sessionId = some next) : Follows tracker next := by
  unfold DocumentSessionTracker.MarkTransition at h
  split at h
  · exact Option.some.inj h ▸ .clear
  · split_ifs at h
    · exact Option.some.inj h ▸ .kept
    · exact create_follows h

theorem clearIfCurrent_follows (document : Doc) : Follows tracker (tracker.ClearIfCurrent document) := by
  unfold DocumentSessionTracker.ClearIfCurrent
  split_ifs
  · exact .clear
  · exact .kept

/-- A change lets go of its document when it could be captured, or another one is
    tracked. -/
theorem markChanged_letsGo {document : Doc} {capture : Option Capture}
    (hcapture : tracker.Tracks document → capture.any (fun capture => capture.IsValid))
    (h : tracker.MarkChanged (CreateFacts document capture) sessionId = some next) :
    LetsGo tracker document next := by
  unfold DocumentSessionTracker.MarkChanged at h
  split at h
  · rename_i hnone
    obtain rfl := Option.some.inj h
    refine letsGo_of_not_tracks fun htracks => ?_
    obtain ⟨captured, rfl, hvalid⟩ := (Option.any_eq_true _ _).1 (hcapture htracks)
    simp [CreateFacts, hvalid] at hnone
  · rename_i facts hsome
    split_ifs at h with htracks
    · exact create_letsGo document h
    · obtain rfl := Option.some.inj h
      refine letsGo_of_not_tracks fun htracked => htracks ?_
      cases capture with
      | none => simp [CreateFacts] at hsome
      | some captured =>
        simp only [CreateFacts, Option.map_some, Option.filter_eq_some_iff, Option.some.injEq] at hsome
        exact hsome.1 ▸ htracked

theorem markTransition_letsGo {document : Doc} {capture : Option Capture}
    (h : tracker.MarkTransition (CreateFacts document capture) sessionId = some next) :
    LetsGo tracker document next := by
  unfold DocumentSessionTracker.MarkTransition at h
  split at h
  · obtain rfl := Option.some.inj h
    intro binding hcurrent
    cases hcurrent
  · rename_i facts hsome
    split_ifs at h with htracks
    · obtain rfl := Option.some.inj h
      refine letsGo_of_not_tracks fun htracked => htracks.2 ?_
      cases capture with
      | none => simp [CreateFacts] at hsome
      | some captured =>
        simp only [CreateFacts, Option.map_some, Option.filter_eq_some_iff, Option.some.injEq] at hsome
        exact hsome.1 ▸ htracked
    · exact create_letsGo document h

end revisions

end revit_operator.safe_read_host
