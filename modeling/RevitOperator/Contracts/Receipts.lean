import RevitOperator.AssignmentKernel.Snapshot
import RevitOperator.Contracts.NativeContinuation

open revit_operator.assignment_kernel

namespace revit_operator.contracts

/-- A non-blank JSON text within a length bound. -/
def boundedJsonText (max : Nat) : Json → Bool
  | .str value => text.nonBlank value && text.length value ≤ max
  | _ => false

def constraintKinds : List String :=
  ["required", "json_type", "enum", "numeric_range", "string_length", "string_pattern", "array_length",
    "property_set", "schema_depth", "schema_bounds", "schema_alternative", "unique_items"]

def constraintKeys : List String :=
  ["kind", "type", "pattern", "allowed_values", "minimum", "maximum", "min_length", "max_length",
    "min_items", "max_items"]

/-- A member that is absent or satisfies a predicate. -/
def absentOr (value : Json) (key : String) (accept : Json → Bool) : Bool :=
  match value.member? key with
  | none => true
  | some member => accept member

def isBoundedScalar : Json → Bool
  | .null | .bool _ | .num _ => true
  | .str value => text.length value ≤ 256
  | _ => false

/-- The fault of one schema issue, if any. -/
def inputSchemaIssueError (host : JavaScriptHost) (candidate : Json) : Option (String × String) :=
  let issue := candidate.row
  let constraint := issue.field "expected_constraint"
  if !candidate.isObject || !boundedJsonText 512 (issue.field "field_path")
      || !boundedJsonText 160 (issue.field "expected_type")
      || !boundedJsonText 160 (issue.field "actual_type")
      || !(["provider_corrected_arguments_required", "declared_deterministic_coercion"].any
          (issue.field "safe_correction_eligibility").isText)
      || !(["provider_resubmit", "wrap_scalar_as_singleton_array"].any
          (issue.field "correction_action").isText)
      || !constraint.isObject then
    some ("operation_input_schema_issue_invalid",
      "Input-schema issues require bounded structured fields and correction eligibility.")
  else if !constraintKinds.any (constraint.field "kind").isText || !constraint.onlyKeys constraintKeys
      || 4096 < text.length (host.stringify constraint)
      || !absentOr constraint "type" (boundedJsonText 160)
      || !absentOr constraint "pattern" (fun pattern => boundedJsonText 512 pattern
          && !(text.hasUnitIn 0 0x1F (pattern.asString?.getD "")))
      || ((constraint.field "kind").isText "string_pattern" && (constraint.member? "pattern").isNone) then
    some ("operation_input_schema_constraint_invalid",
      "Input-schema expected constraint must use the bounded shared shape.")
  else if !absentOr constraint "allowed_values" (fun
      | .arr values => values.length ≤ 32 && values.all isBoundedScalar
      | _ => false) then
    some ("operation_input_schema_constraint_invalid",
      "Input-schema allowed values must be bounded JSON scalars.")
  else if !(["minimum", "maximum", "min_length", "max_length", "min_items", "max_items"].all
      fun key => absentOr constraint key fun value => value.asNumber?.isSome) then
    some ("operation_input_schema_constraint_invalid", "Input-schema numeric constraints must be finite.")
  else if (if (issue.field "safe_correction_eligibility").isText "declared_deterministic_coercion"
      then !(issue.field "correction_action").isText "wrap_scalar_as_singleton_array"
      else !(issue.field "correction_action").isText "provider_resubmit") then
    some ("operation_input_schema_correction_invalid",
      "Correction action must match its declared eligibility.")
  else none

/-- The fault of an input-schema gap on a result, if any. -/
def operationInputSchemaGapErrorV2 (host : JavaScriptHost) (gap : OperationInputSchemaGapV2)
    (result : OperationResultV2) : Option (String × String) :=
  if result.status != .failed_before_dispatch || result.dispatch_state != .not_dispatched
      || result.persistent_effect != .none || result.observation_required then
    some ("operation_input_schema_gap_effect_invalid",
      "An input-schema gap requires an independent no-effect pre-dispatch result.")
  else
    let bound := match result.request_identity with
      | none => false
      | some identity =>
        gap.schema == "revit-operator.operation-input-schema-gap/v2"
          && gap.gap_id == "input-schema:" ++ result.operation_id
          && gap.operation_id == result.operation_id && gap.capability_id == identity.capability_id
          && text.nonBlank gap.input_schema_id && text.isHexText 64 gap.input_schema_digest
          && some gap.method == identity.method && some gap.path == identity.path
          && gap.request_signature == identity.request_signature && !gap.dispatch
          && gap.effect == .none && !gap.issues.isEmpty && gap.issues.length ≤ 64
    if !bound then
      some ("operation_input_schema_gap_invalid",
        "Input-schema identity and provenance must bind to the rejected operation.")
    else gap.issues.findSome? (inputSchemaIssueError host)

/-- The lower-case or upper-case hexadecimal groups of a failure identifier. -/
def isFailureGuid (value : Json) : Bool :=
  match value with
  | .str id =>
    let cs := id.toList
    cs.length == 36
      && (cs.zipIdx.all fun (c, i) => if i ∈ [8, 13, 18, 23] then c == '-' else text.isHexAnyCase c)
  | _ => false

/-- The element ids of one captured failure, or `none` when it is malformed. -/
def capturedFailureIds (value : Json) : Option (List String) :=
  let row := value.row
  match (row.field "elementIds").asArray? with
  | none => none
  | some ids =>
    if !value.isObject || !(["Error", "Warning", "DocumentCorruption"].any (row.field "severity").isText)
        || !boundedJsonText 9007199254740991 (row.field "message")
        || !isFailureGuid (row.field "failureDefinitionId") || row.field "captureErrors" != .arr []
        || 32 < ids.length then none
    else (ids.mapM Json.asPositiveId?).map fun named => named.map fun id => toString id

/-- Link the named dependencies of one failure to the declared targets it
    touches. -/
def linkDependencies (targets named : List String) (links : Record (List String)) :
    Record (List String) :=
  let matched := named.filter targets.contains
  if matched.isEmpty then links
  else (named.filter fun id => !targets.contains id).foldl
    (fun acc id => acc.set id (((acc.get? id).getD []) ++ matched)) links

/-- The dependencies a native rollback names for the declared targets. -/
def nativeFailureDependencyLinksV1 (value : Option Json) (declaredTargetIdentities : List String) :
    Option (List NativeFailureDependencyV1) :=
  let payload := (value.getD .null).row
  let transaction := (payload.field "transaction").row
  match (payload.field "capturedFailures").asArray? with
  | none => none
  | some rows =>
    if !(transaction.field "status").isText "rolled_back" || !(transaction.field "committed").isBool false
        || !(payload.field "failureRollbackRequested").isBool true
        || !(payload.field "applied").isBool false || !(payload.field "success").isBool false
        || rows.isEmpty || 64 < rows.length then none
    else
      let targets := (declaredTargetIdentities.filter (text.isNumbered "id:")).map (text.dropFirst 3)
      match rows.mapM capturedFailureIds with
      | none => none
      | some named =>
        let links := named.foldl (fun acc ids => linkDependencies targets ids acc) ∅
        if links.ids.isEmpty || 256 < links.ids.length then none
        else some ((text.sorted links.ids).map fun id =>
          ⟨id, text.sortedUnique ((links.get? id).getD [])⟩)

/-- The members of a binding as a JSON object. -/
def bindingJson (binding : AssignmentBindingV2) : Json :=
  .obj ([("assignment_id", .str binding.assignment_id), ("run_id", .str binding.run_id),
      ("generation", .num binding.generation), ("session_id", .str binding.session_id),
      ("principal_id", .str binding.principal_id)]
    ++ (binding.document_fingerprint.map fun print => ("document_fingerprint", .str print)).toList)

/-- The members of a request identity as a JSON object. -/
def requestIdentityJson (identity : OperationRequestIdentityV2) : Json :=
  .obj ([("capability_id", .str identity.capability_id)]
    ++ (identity.method.map fun method => ("method", .str method.toText)).toList
    ++ (identity.path.map fun path => ("path", .str path)).toList
    ++ [("request_signature", .str identity.request_signature)])

def isPrefixedHash : Json → Bool
  | .str value => text.startsWith value "sha256:" && text.isHexText 64 (text.dropFirst 7 value)
  | _ => false

/-- A bounded JSON text without control characters. -/
def isPlainText : Json → Bool
  | .str value => value != "" && text.length value ≤ 512 && !text.hasUnitIn 0 0x1F value
      && !text.hasUnitIn 0x7F 0x7F value
  | _ => false

def isBase64Url (length : Nat) (cs : List Char) : Bool :=
  cs.length == length
    && cs.all fun c => text.isLower c || text.isUpper c || text.isDigit c || c == '_' || c == '-'

def isEvidenceId : Json → Bool
  | .str value => text.startsWith value "ev1_" && isBase64Url 32 (value.toList.drop 4)
  | _ => false

/-- The identities of a late receipt bind it to the exact unknown operation. -/
def completionBinds (p : Json) (operation : OperationV2) (original : OperationResultV2)
    (admitted : OperationRequestIdentityV2) : Bool :=
  let dispatch := (p.field "dispatch").row
  let identity := (dispatch.field "identity").row
  let n := (dispatch.field "native").row
  let r := (p.field "receipt").row
  let request := (r.field "request").row
  let doc := (r.field "document").row
  let auth := (r.field "authorization").row
  let terminal := (r.field "terminal").row
  (p.field "schema").isText "revit-operator.native-completion-reconciliation/v1"
    && (dispatch.field "schema").isText "revit-operator.native-completion-dispatch/v1"
    && (r.field "schema").isText "revit-operator.native-terminal-completion/v1"
    && (p.field "original_result_id").isText original.result_id && original.authority == "native-host"
    && original.persistent_effect == .unknown && original.dispatch_state == .dispatched
    && operation.requested_effect != .read && operation.settlement_state == .settled
    && isPlainText (.str admitted.request_signature)
    && sameJson (identity.field "binding") (bindingJson operation.binding)
    && (identity.field "operation_id").isText operation.operation_id
    && sameJson (identity.field "request_identity") (requestIdentityJson admitted)
    && original.binding == operation.binding && original.request_identity == some admitted
    && (match original.native_correlation_id with
      | some id => (n.field "request_id").isText id && text.isHexText 64 id
      | none => false)
    && (match n.field "server_epoch" with | .str epoch => isBase64Url 43 epoch.toList | _ => false)
    && isPrefixedHash (n.field "request_nonce_sha256") && isPrefixedHash (n.field "source_body_sha256")
    && isPrefixedHash (n.field "transport_receipt_sha256") && admitted.method == some .POST
    && (n.field "method").isText "POST"
    && (match admitted.path with | some path => (n.field "path").isText path | none => false)
    && (n.field "body_present").isBool true
    && (match operation.binding.document_fingerprint with
      | some print => text.isHexText 64 print && (n.field "expected_document_fingerprint").isText print
          && (doc.field "document_fingerprint").isText print
      | none => false)
    && isPlainText (doc.field "document_session_id")
    && doc.member? "after_document_fingerprint" == doc.member? "document_fingerprint"
    && doc.member? "after_document_session_id" == doc.member? "document_session_id"
    && isPrefixedHash (p.field "record_sha256") && isEvidenceId (p.field "evidence_id")
    && isPrefixedHash (terminal.field "body_sha256")
    && (match (terminal.field "status_code").asSafeInt? with
      | some code => 200 ≤ code && code ≤ 599
      | none => false)
    && isPrefixedHash (auth.field "authorization_hash") && isPlainText (auth.field "exposure_profile")
    && auth.member? "certification_envelope_hash" == some .null
    && isPrefixedHash (request.field "authorized_body_sha256")
    && request.member? "dispatched_body_sha256" == n.member? "source_body_sha256"
    && ["generic_call", "typed_mcp"].any (n.field "channel").isText && isPlainText (n.field "alias")
    && ["request_id", "request_nonce_sha256", "server_epoch", "method", "path", "body_present",
        "source_body_sha256", "channel", "alias"].all fun key => request.member? key == n.member? key

/-- The instants of a late receipt are finite and in order. -/
def completionTimesOrdered (host : JavaScriptHost) (r : Json) : Bool :=
  let time (value : Json) := value.asString?.bind host.parseDate
  match time (r.field "dispatch_started_at_utc"), time (r.field "completed_at_utc"),
      time ((r.field "authorization").row.field "authorized_at_utc") with
  | some start, some finish, some authorized => start ≤ finish && authorized ≤ start
  | _, _, _ => false

/-- The settlement of the attempt names its request and a known effect. -/
def completionSettles (settlement n : Json) (operation : OperationV2) : Bool :=
  (settlement.field "schema").isText "revit-operator.native-attempt-settlement.v1"
    && (settlement.field "requested_effect").isText
        (if operation.requested_effect = .apply then "apply" else "preview")
    && settlement.member? "method" == n.member? "method"
    && settlement.member? "path" == n.member? "path"
    && (settlement.field "request_dispatched").isBool true
    && ["none", "applied"].any (settlement.field "effect_state").isText
    && (match settlement.field "affected_target_identities" with
      | .arr affected => affected.length ≤ 4096 && affected.all isPlainText && decide affected.Nodup
      | _ => false)

/-- The known effect a late native receipt establishes for an operation. -/
def nativeCompletionReconciliationEffectV1 (host : JavaScriptHost) (value : Json)
    (operation : OperationV2) : Option PersistentEffectV2 :=
  let p := value.row
  let n := ((p.field "dispatch").row.field "native").row
  let proof := (p.field "proof").row
  let settlement := (proof.field "canonical_attempt_settlement").row
  let transaction := (proof.field "transaction").row
  let state (effect authority reason : String) :=
    (settlement.field "effect_state").isText effect
      && (settlement.field "effect_authority").isText authority
      && (settlement.field "effect_reason").isText reason
  match operation.result, operation.request_identity with
  | some original, some admitted =>
    if !completionBinds p operation original admitted || !completionTimesOrdered host (p.field "receipt").row
        || !completionSettles settlement n operation then none
    else
      match proof.member? "artifact_receipt" with
      | some receipt =>
        if operation.requested_effect != .apply then none
        else
          match nativeArtifactReceiptEffectV1 host receipt (n.field "method") (n.field "path")
              (.str "apply") with
          | some .applied =>
            if state "applied" "native_receipt" "native_artifact_export_completed" then some .applied
            else none
          | some .none =>
            if state "none" "native_receipt" "native_artifact_export_not_started" then some .none
            else none
          | _ => none
      | none =>
        if operation.requested_effect == .apply && (transaction.field "status").isText "committed"
            && (transaction.field "committed").isBool true
            && state "applied" "native_transaction" "native_transaction_committed" then some .applied
        else if ["rolled_back", "rolledback"].any (transaction.field "status").isText
            && (transaction.field "committed").isBool false
            && state "none" "native_rollback" "verified_native_rollback" then some .none
        else if (transaction.field "status").isText "not_started"
            && (transaction.field "committed").isBool false
            && settlement.field "affected_target_identities" == .arr []
            && (state "none" "native_transaction" "native_transaction_not_started"
              || state "none" "native_host" "native_transaction_not_started") then some .none
        else none
  | _, _ => none

/-- A display identity: trimmed, bounded and without control characters. -/
def isDisplayId (max : Nat) (value : String) : Bool :=
  text.trim value == value && value != "" && text.length value ≤ max && !text.hasUnitIn 0 0x1F value
    && !text.hasUnitIn 0x7F 0x7F value

def isModelName : Option String → Bool
  | none => true
  | some model => isDisplayId 160 model && text.leadThen
      (fun c => text.isLower c || text.isUpper c || text.isDigit c)
      (fun c => text.isLower c || text.isUpper c || text.isDigit c || c ∈ ['.', '_', ':', '/', '-'])
      9007199254740991 model

def validProviderUsageWorkerIdentityV1 (identity : ProviderUsageWorkerIdentityV1) : Bool :=
  identity.provider == "openai_codex"
    && ["chatgpt", "api_key", "unknown"].contains identity.configured_billing_mode
    && isModelName identity.requested_model && isModelName identity.reported_model
    && (match identity.requested_reasoning_effort with
      | none => true
      | some effort => ["none", "low", "medium", "high", "xhigh", "max"].contains effort)
    && (match identity.reported_model with
      | none => identity.reported_model_source.isNone
      | some _ => identity.reported_model_source == some "raw_response"
          || identity.reported_model_source == some "rerouted")

/-- The parts of a forward-slash path: its root and the segments after it. -/
def splitRoot (path : List Char) : Option (List Char × List Char) :=
  match path with
  | '/' :: '/' :: rest =>
    let server := rest.takeWhile (· != '/')
    let share := (rest.drop (server.length + 1)).takeWhile (· != '/')
    if server.isEmpty || share.isEmpty || rest.length ≤ server.length then some ([], '/' :: rest)
    else
      let root := ['/', '/'] ++ server ++ ['/'] ++ share
      some (root, rest.drop (server.length + 1 + share.length + 1))
  | '/' :: rest => some ([], rest)
  | drive :: ':' :: '/' :: rest =>
    if text.isLower drive || text.isUpper drive then some ([drive, ':'], rest) else none
  | _ => none

/-- The segments between forward slashes. -/
def splitSlashes : List Char → List (List Char)
  | [] => [[]]
  | c :: cs =>
    match splitSlashes cs with
    | [] => []
    | segment :: rest => if c = '/' then [] :: segment :: rest else (c :: segment) :: rest

/-- Resolve `.` and `..` segments against the segments kept so far. -/
def resolveSegments (kept : List (List Char)) : List (List Char) → List (List Char)
  | [] => kept
  | segment :: rest =>
    if segment = [] ∨ segment = ['.'] then resolveSegments kept rest
    else if segment = ['.', '.'] then resolveSegments kept.dropLast rest
    else resolveSegments (kept ++ [segment]) rest

def isWindowsAbsolute (path : String) : Bool :=
  match path.toList with
  | '/' :: _ | '\\' :: _ => true
  | drive :: ':' :: slash :: _ =>
    (text.isLower drive || text.isUpper drive) && (slash == '/' || slash == '\\')
  | _ => false

/-- The lexical identity of an absolute Windows path. -/
def windowsPathIdentity (host : JavaScriptHost) (path : String) : Option String :=
  if !isWindowsAbsolute path || 2000 < text.length path || text.hasUnitIn 0 0x1F path then none
  else
    (splitRoot (forwardSlashes path).toList).map fun (root, rest) =>
      let segments := resolveSegments [] (splitSlashes rest)
      host.toLowerCase (.ofList root ++ "/" ++ text.joinWith "/" (segments.map String.ofList))

/-- A path without its last component. -/
def parentFolder (path : String) : String :=
  match path.toList.reverse.dropWhile fun c => c != '/' && c != '\\' with
  | [] => path
  | _ :: folder => .ofList folder.reverse

/-- A drive letter and colon without a separator has no portable identity. -/
def isDriveRelative (path : String) : Bool :=
  match path.toList with
  | drive :: ':' :: _ => text.isLower drive || text.isUpper drive
  | _ => false

/-- A requested native save and its receipt name one file and one document. -/
def nativeDocumentCheckpointRequestMatchesV2 (host : JavaScriptHost) (operation : OperationV2)
    (fingerprint : Option String) : Bool :=
  match fingerprint, operation.result, operation.inputBody.row.field "filePath" with
  | some print, some result, .str filePath =>
    let receipt := (result.native_artifact_receipt.getD .null).row
    let saved := (receipt.field "save_document").row
    let before := (saved.field "before").row
    let after := (saved.field "after").row
    let output := (((receipt.field "outputs").asArray?.getD []).headD .null).row
    match (after.field "path").asString?.bind (windowsPathIdentity host),
        (before.field "path").asString? with
    | some actual, some beforePath =>
      let requested := if isWindowsAbsolute filePath then filePath
        else if isDriveRelative filePath then ""
        else parentFolder beforePath ++ "/" ++ filePath
      text.isHexText 64 print && isNativeDocumentCheckpointRequestV2 operation
        && nativeDocumentCheckpointResultV2 host result
        && !(operation.inputBody.row.field "dryRun").isBool true && filePath != ""
        && text.length filePath ≤ 2000 && !text.hasUnitIn 0 0x1F filePath
        && (output.field "stable_read").isBool true && !truthyJson (saved.field "project_binding_changed")
        && (before.field "project_fingerprint").isText print
        && (after.field "project_fingerprint").isText print
        && windowsPathIdentity host requested == some actual
        && (output.field "path").asString?.bind (windowsPathIdentity host) == some actual
    | _, _ => false
  | _, _, _ => false

end revit_operator.contracts
