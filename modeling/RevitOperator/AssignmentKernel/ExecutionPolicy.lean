import RevitOperator.AssignmentKernel.Snapshot

namespace revit_operator.assignment_kernel

def CONTINUE_READY_WORK_V1 : String := "continue_ready_work_v1"

/-- A sheet of a marked source earns one unit for every five comments. -/
def pdfSheetValid (pageCount : Int) (sheet : PdfSheetAllowanceV1) : Bool :=
  boundedInteger sheet.page pageCount && isSafeInteger sheet.comments && 0 ≤ sheet.comments
    && sheet.units == max 1 ((sheet.comments + 4) / 5)

def pdfSourceValid (source : PdfSourceAllowanceV1) : Bool :=
  text.isHexText 64 source.sha256 && boundedInteger source.page_count 100 && !source.sheets.isEmpty
    && source.sheets.length ≤ source.page_count
    && decide (source.sheets.map PdfSheetAllowanceV1.page).Nodup
    && source.sheets.all (pdfSheetValid source.page_count)

/-- The marked sheets of a source allowance add up to its units. -/
def sourceAllowanceValid (spec : AssignmentSpecV2) (allowance : PdfWorkAllowanceV1) : Bool :=
  allowance.mode == "marked_pdf_sheets_v1" && spec.requested_effect == .apply
    && boundedInteger allowance.units 24 && !allowance.sources.isEmpty && allowance.sources.length ≤ 8
    && decide (allowance.sources.map PdfSourceAllowanceV1.sha256).Nodup
    && allowance.sources.all pdfSourceValid
    && allowance.units == (allowance.sources.map fun source =>
      (source.sheets.map PdfSheetAllowanceV1.units).sum).sum

def validNativeScopePlanningPolicyV1 (host : JavaScriptHost) (spec : AssignmentSpecV2) : Bool :=
  match spec.execution_policy with
  | none => false
  | some policy =>
    match policy.native_scope_planning with
    | none => false
    | some planning => policy.mode == .local_advisory_v1 && policy.selected_by == "trusted_local_host"
        && spec.requested_effect == .apply
        && (policy.progress_allowance.map ProgressAllowanceV1.mode) == some .verified_native_changes_v1
        && policy.source_work_allowance.isNone && planning.mode == "native_inventory_planning_v1"
        && planning.scope_kind == "schedules" && planning.items_per_unit == 5 && planning.max_units == 4
        && text.nonBlank spec.source_user_request
        && planning.source_request_sha256 == host.utf8TextSha256V2 spec.source_user_request

/-- A policy was selected by the party its mode names. -/
def selectionValid (spec : AssignmentSpecV2) (policy : AssignmentExecutionPolicyV1) : Bool :=
  match policy.mode with
  | .single_actor_review_v1 => policy.selected_by == "trusted_runtime_host" && truthy policy.principal_id
      && policy.principal_id == some spec.binding.principal_id && spec.requested_effect == .apply
      && policy.ready_work_handoff == some CONTINUE_READY_WORK_V1
      && policy.source_work_allowance.isNone && policy.native_scope_planning.isNone
      && policy.progress_allowance.isNone && policy.max_turns ≤ 8
      && policy.max_provider_calls ≤ DEFAULT_ASSIGNMENT_PROGRESS_BUDGET_V2.max_provider_calls
      && policy.max_operations ≤ DEFAULT_ASSIGNMENT_PROGRESS_BUDGET_V2.max_operations
      && policy.max_total_tokens ≤ DEFAULT_ASSIGNMENT_PROGRESS_BUDGET_V2.max_total_tokens
      && policy.max_wall_clock_ms ≤ DEFAULT_ASSIGNMENT_PROGRESS_BUDGET_V2.max_wall_clock_ms
  | .local_advisory_v1 => policy.selected_by == "trusted_local_host"

/-- The ceilings a policy may not exceed; a marked source raises them. -/
structure PolicyCeilings where
  calls : Int
  operations : Int
  tokens : Int

def policyCeilings (policy : AssignmentExecutionPolicyV1) : PolicyCeilings :=
  if policy.source_work_allowance.isSome then ⟨2048, 8192, 256000000⟩ else ⟨256, 1024, 32000000⟩

def wallClockCeiling : Int := 120 * 60000

def progressAllowanceValid (spec : AssignmentSpecV2) (policy : AssignmentExecutionPolicyV1)
    (allowance : ProgressAllowanceV1) : Bool :=
  let ceilings := policyCeilings policy
  (match allowance.mode with
    | .verified_native_changes_v1 =>
      allowance.credit_unit.isNone || allowance.credit_unit == some .distinct_verified_targets_v1
    | .observed_native_work_v1 =>
      allowance.credit_unit == some .distinct_observed_physical_targets_v1
        && policy.ready_work_handoff == some CONTINUE_READY_WORK_V1)
    && spec.requested_effect == .apply
    && boundedInteger allowance.max_provider_calls ceilings.calls
    && policy.max_provider_calls ≤ allowance.max_provider_calls
    && boundedInteger allowance.max_operations ceilings.operations
    && policy.max_operations ≤ allowance.max_operations
    && boundedInteger allowance.max_total_tokens ceilings.tokens
    && policy.max_total_tokens ≤ allowance.max_total_tokens
    && allowance.max_wall_clock_ms.all fun clock =>
      boundedInteger clock wallClockCeiling && policy.max_wall_clock_ms ≤ clock

/-- A host-selected policy is bounded and bound to the assignment it opens. -/
def validLocalAdvisoryPolicyV1 (host : JavaScriptHost) (spec : AssignmentSpecV2) : Bool :=
  match spec.execution_policy with
  | none => true
  | some policy =>
    let ceilings := policyCeilings policy
    selectionValid spec policy && policy.session_id == spec.binding.session_id
      && policy.document_fingerprint != ""
      && some policy.document_fingerprint == spec.binding.document_fingerprint
      && policy.source_work_allowance.all (sourceAllowanceValid spec)
      && boundedInteger policy.max_turns 16 && boundedInteger policy.max_provider_calls ceilings.calls
      && (policy.ready_work_handoff.isNone
        || (policy.ready_work_handoff == some CONTINUE_READY_WORK_V1 && spec.requested_effect == .apply))
      && (policy.native_scope_planning.isNone || validNativeScopePlanningPolicyV1 host spec)
      && boundedInteger policy.max_operations ceilings.operations
      && boundedInteger policy.max_total_tokens ceilings.tokens
      && boundedInteger policy.max_wall_clock_ms wallClockCeiling
      && policy.progress_allowance.all (progressAllowanceValid spec policy)

/-- At most 24 non-blank entries of at most 1000 characters. -/
def proposalEntriesValid (entries : List String) : Bool :=
  entries.length ≤ 24 && entries.all fun entry => text.nonBlank entry && text.length entry ≤ 1000

def validAdvisoryProposalV1 (proposal : AdvisoryCompletionProposalV1) : Bool :=
  let fields := [proposal.claimed_completed, proposal.remaining_work, proposal.uncertainties]
  fields.all proposalEntriesValid && fields.any (fun entries => !entries.isEmpty)
    && proposal.user_facing_text.all fun shown => text.nonBlank shown && text.length shown ≤ 8000

end revit_operator.assignment_kernel
