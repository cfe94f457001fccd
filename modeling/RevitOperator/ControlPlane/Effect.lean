import RevitOperator.ControlPlane.Attempt
import RevitOperator.Library.Checked

open checked

namespace revit_operator.assignment_control_plane

def AssignmentEffectState.name : AssignmentEffectState → String
  | .none => "none"
  | .unknown => "unknown"
  | .applied => "applied"

def AssignmentRequestedEffect.name : AssignmentRequestedEffect → String
  | .read => "read"
  | .preview => "preview"
  | .apply => "apply"

def AssignmentEffectAuthority.name : AssignmentEffectAuthority → String
  | .control_plane => "control_plane"
  | .admission_policy => "admission_policy"
  | .schema_validator => "schema_validator"
  | .write_grant => "write_grant"
  | .transport_pre_dispatch => "transport_pre_dispatch"
  | .dispatch_transport => "dispatch_transport"
  | .native_host => "native_host"
  | .native_transaction => "native_transaction"
  | .native_receipt => "native_receipt"
  | .native_rollback => "native_rollback"
  | .target_readback => "target_readback"
  | .independent_verifier => "independent_verifier"
  | .worker => "worker"
  | .caller_report => "caller_report"
  | .assistant_prose => "assistant_prose"

def effectAuthorityRank : AssignmentEffectAuthority → Nat
  | .independent_verifier => 6
  | .target_readback => 5
  | .native_host | .native_transaction | .native_receipt | .native_rollback => 4
  | .dispatch_transport | .worker => 3
  | .admission_policy | .schema_validator | .write_grant | .transport_pre_dispatch => 2
  | .caller_report => 1
  | .control_plane | .assistant_prose => 0

/-- What an event says about an effect. -/
structure EffectData where
  effect_state : Option AssignmentEffectState
  effect_authority : Option AssignmentEffectAuthority
  reason : String
  authority_id : String
  affected_target_identities : List String
  receipt_refs : List String
  evidence_refs : List String

def EffectData.ofEvent (data : Json) : EffectData where
  effect_state := effectState (data.field "effect_state")
  effect_authority := authority (data.field "effect_authority")
  reason := string (data.field "reason")
  authority_id := string (data.field "authority_id")
  affected_target_identities := strings (data.field "affected_target_identities")
  receipt_refs := strings (data.field "receipt_refs")
  evidence_refs := strings (data.field "evidence_refs")

/-- An effect reported without identities or references. -/
def EffectData.bare (state : AssignmentEffectState) (source : AssignmentEffectAuthority) (reason authority_id : String) :
    EffectData :=
  ⟨some state, some source, reason, authority_id, [], [], []⟩

/-- The authorities that can prove an applied effect. -/
def provesApplied (source : AssignmentEffectAuthority) : Prop :=
  source = .native_transaction ∨ source = .native_receipt ∨ source = .target_readback

instance (source : AssignmentEffectAuthority) : Decidable (provesApplied source) := by
  unfold provesApplied
  infer_instance

def effectAuthorityError (state : AssignmentEffectState) (source : AssignmentEffectAuthority) (data : EffectData) :
    Except String Unit := do
  require (source ≠ .assistant_prose) "Assistant prose is not an effect authority."
  require (state = .applied → source ≠ .caller_report → provesApplied source)
    (source.name ++ " cannot prove an applied persistent effect.")
  require (state = .none → source = .target_readback → data.reason = "verified_noop" → 2 ≤ data.evidence_refs.length)
    "A verified no-op requires two fresh target-bound observations."

/-- The state an effect takes: a caller's report of an applied effect leaves it
    unknown. -/
def effectiveState (state : AssignmentEffectState) (source : AssignmentEffectAuthority) : AssignmentEffectState :=
  if state = .applied ∧ source = .caller_report then .unknown else state

def applyEffect (attempt : AssignmentAttemptRecord) (data : EffectData) : Except String AssignmentAttemptRecord :=
  match data.effect_state, data.effect_authority with
  | none, _ => .error "effect_state must be none, unknown, or applied."
  | some _, none => .error "A recognized effect_authority is required."
  | some state, some source => do
    effectAuthorityError state source data
    let effective := effectiveState state source
    let currentRank := effectAuthorityRank attempt.effect.authority
    let incomingRank := effectAuthorityRank source
    require (attempt.requested_effect ≠ .apply → effective ≠ .applied)
      ("A " ++ attempt.requested_effect.name ++ " attempt cannot establish a persistent applied effect.")
    require (currentRank ≤ incomingRank) ("A lower-authority " ++ source.name ++ " effect cannot alter "
      ++ attempt.effect.authority.name ++ " effect truth.")
    require (attempt.effect.state = .applied → effective = .applied) "An applied effect cannot be downgraded."
    require (attempt.effect.state = .unknown → effective ≠ .unknown → 4 ≤ incomingRank)
      "Only authoritative native settlement or target-bound verification may resolve an unknown effect."
    require (attempt.effect.state ≠ effective → currentRank < 4 ∧ incomingRank ≠ currentRank)
      ("Conflicting " ++ source.name ++ " effect truth cannot replace " ++ attempt.effect.authority.name ++ " "
        ++ attempt.effect.state.name ++ ".")
    .ok { attempt with
      affected_target_identities := union attempt.affected_target_identities data.affected_target_identities
      receipt_refs := union attempt.receipt_refs data.receipt_refs
      evidence_refs := union attempt.evidence_refs data.evidence_refs
      effect := {
        state := effective
        reason := orElse data.reason (if effective = .unknown then "effect_not_authoritatively_settled"
          else "effect_" ++ effective.name)
        authority := source
        authority_id := nonEmpty data.authority_id } }

/-- When an effect is accepted, and what it leaves. -/
structure EffectAccepted (attempt : AssignmentAttemptRecord) (data : EffectData) (state : AssignmentEffectState)
    (source : AssignmentEffectAuthority) : Prop where
  proved : state = .applied → provesApplied source
  allowed : attempt.requested_effect ≠ .apply → state ≠ .applied
  rank : effectAuthorityRank attempt.effect.authority ≤ effectAuthorityRank source
  applied : attempt.effect.state = .applied → state = .applied
  resolves : attempt.effect.state = .unknown → state ≠ .unknown → 4 ≤ effectAuthorityRank source
  conflict : attempt.effect.state ≠ state →
    effectAuthorityRank attempt.effect.authority < 4
      ∧ effectAuthorityRank source ≠ effectAuthorityRank attempt.effect.authority

/-- An accepted effect: only the effect and the references of the attempt
    change, and the effect obeys the order of the authorities. -/
theorem applyEffect_ok {attempt updated : AssignmentAttemptRecord} {data : EffectData}
    (h : applyEffect attempt data = .ok updated) :
    ∃ state source reason id targets receipts evidence,
      data.effect_authority = some source
        ∧ data.effect_state.map (effectiveState · source) = some state
        ∧ EffectAccepted attempt data state source
        ∧ updated = { attempt with
            affected_target_identities := targets
            receipt_refs := receipts
            evidence_refs := evidence
            effect := ⟨state, reason, source, id⟩ } := by
  rw [applyEffect] at h
  cases hstate : data.effect_state with
  | none => simp [hstate] at h
  | some state =>
    cases hsource : data.effect_authority with
    | none => simp [hstate, hsource] at h
    | some source =>
      rw [hstate, hsource] at h
      simp only [effectAuthorityError, check_bind_eq_ok, require_eq_ok, Except.ok.injEq] at h
      obtain ⟨⟨_, hproved, _⟩, hallowed, hrank, happlied, hresolves, hconflict, rfl⟩ := h
      refine ⟨effectiveState state source, source, _, _, _, _, _, rfl, rfl, ?_, rfl⟩
      refine ⟨fun heffective => ?_, hallowed, hrank, happlied, hresolves, hconflict⟩
      rw [effectiveState] at heffective
      split at heffective
      · cases heffective
      · next hcaller => exact hproved heffective fun hreport => hcaller ⟨heffective, hreport⟩

/-- An effect reported without references passes whenever the order of the
    authorities lets it. -/
theorem applyEffect_bare {attempt : AssignmentAttemptRecord} {state : AssignmentEffectState}
    {source : AssignmentEffectAuthority} {reason id : String}
    (h : EffectAccepted attempt (.bare state source reason id) state source) (hprose : source ≠ .assistant_prose)
    (hcaller : source ≠ .caller_report) (hreason : reason ≠ "verified_noop") :
    ∃ updated, applyEffect attempt (.bare state source reason id) = .ok updated
      ∧ updated.effect.state = state ∧ updated.effect.authority = source := by
  have heffective : effectiveState state source = state := by
    rw [effectiveState, if_neg fun hboth => hcaller hboth.2]
  have hpassed : ∃ updated, applyEffect attempt (.bare state source reason id) = .ok updated := by
    simp only [applyEffect, EffectData.bare, heffective, effectAuthorityError, check_bind_eq_ok, require_eq_ok,
      Except.ok.injEq, exists_and_left, exists_eq', and_true]
    exact ⟨⟨hprose, fun happlied _ => h.proved happlied, require_of fun _ _ hnoop => absurd hnoop hreason⟩, h.allowed,
      h.rank, h.applied, h.resolves, h.conflict⟩
  obtain ⟨updated, hupdated⟩ := hpassed
  obtain ⟨reached, reporting, _, _, _, _, _, hsource, hreached, _, rfl⟩ := applyEffect_ok hupdated
  obtain rfl : source = reporting := Option.some.inj hsource
  refine ⟨_, hupdated, ?_, rfl⟩
  rw [EffectData.bare, Option.map_some, heffective] at hreached
  exact (Option.some.inj hreached).symm

end revit_operator.assignment_control_plane
