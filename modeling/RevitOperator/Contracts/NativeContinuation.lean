import RevitOperator.Contracts.NativeArtifact

open revit_operator.assignment_kernel

namespace revit_operator.contracts

/-- A positive element id written in decimal. -/
def idText (value : Json) : Option Int :=
  match value with
  | .str digits =>
    if text.isPositiveDecimal digits ∧ text.decimalValue digits ≤ 9007199254740991 then
      some (text.decimalValue digits)
    else none
  | _ => none

/-- The input of a native call names the method and path of its identity. -/
def inputNamesRequest (operation : OperationV2) : Bool :=
  operation.inputIs "method"
      ((operation.request_identity.bind OperationRequestIdentityV2.method).map HttpMethod.toText)
    && operation.inputIs "path" (operation.request_identity.bind OperationRequestIdentityV2.path)

def requestMethod (operation : OperationV2) : Option HttpMethod :=
  operation.request_identity.bind OperationRequestIdentityV2.method

def requestPath (operation : OperationV2) : Option String :=
  operation.request_identity.bind OperationRequestIdentityV2.path

/-- A text trimmed and in lower case, or the default when the member is
    nullish; any other value is kept. -/
def loweredOr (host : JavaScriptHost) (value : Json) (key default : String) : Json :=
  match value.member? key with
  | some (.str text_) => .str (host.toLowerCase (text.trim text_))
  | none | some .null => .str default
  | some other => other

structure NativeSourceInventoryRequestV1 where
  kind : NativeInventoryKindV1
  max : Int
deriving DecidableEq

def inventoryKind? (value : Json) : Option NativeInventoryKindV1 :=
  if value.isText "regular" then some .regular
  else if value.isText "panel" then some .panel
  else if value.isText "all" then some .all
  else none

/-- A request for the complete enumeration of a native source. -/
def nativeSourceInventoryRequestV1 (host : JavaScriptHost) (operation : OperationV2) :
    Option NativeSourceInventoryRequestV1 :=
  let body := operation.inputBody.row
  let action := loweredOr host body "action" "list"
  let blankQuery := body.isNullish "query" || (match body.field "query" with
    | .str query => text.trim query == ""
    | _ => false)
  if operation.requested_effect != .read || requestMethod operation != some .POST
      || !inputNamesRequest operation || requestPath operation != some "/revit/schedules"
      || !(action.isText "list" || action.isText "circuits") || !body.isNullish "scheduleId"
      || !blankQuery || !(body.isNullish "offset" || (body.field "offset").isNumber 0) then none
  else
    match (if body.isNullish "max" then Json.num 200 else body.field "max").asPositiveId? with
    | none => none
    | some max =>
      if action.isText "circuits" then
        if body.isNullish "kind" && max ≤ 500 then some ⟨.power_circuits, max⟩ else none
      else
        match inventoryKind? (loweredOr host body "kind" "regular") with
        | some kind => if max ≤ 2000 then some ⟨kind, max⟩ else none
        | none => none

/-- A stable native unique identifier. -/
def isUniqueId (value : Json) : Bool :=
  match value with
  | .str id => 16 ≤ id.toList.length && id.toList.length ≤ 160
      && id.toList.all fun c => text.isLower c || text.isUpper c || text.isDigit c || c ∈ ['_', '-']
  | _ => false

/-- One row of an inventory: `none` when malformed, and otherwise whether it
    counts as work. -/
def inventoryRow (kind : NativeInventoryKindV1) (row : Json) : Option Bool :=
  let v := row.row
  if (v.field "id").asPositiveId?.isNone || !isUniqueId (v.field "uniqueId") then none
  else if kind = .power_circuits then
    if ["Circuit", "Spare", "Space"].any (v.field "circuitType").isText then
      some ((v.field "circuitType").isText "Circuit")
    else none
  else
    match (v.field "isTemplate").asBool? with
    | none => none
    | some isTemplate =>
      let panelRow := (v.field "kind").isText "panel_schedule"
      let scheduleRow := (v.field "kind").isText "schedule"
      if !(panelRow || scheduleRow) || (kind == .panel && !panelRow) || (kind == .regular && !scheduleRow)
          || (panelRow && (isTemplate || (v.field "panelElementId").asPositiveId?.isNone
              || !isUniqueId (v.field "panelUniqueId"))) then none
      else some (!isTemplate)

/-- The size of a complete native source inventory. -/
def nativeSourceInventoryWorkloadV1 (host : JavaScriptHost) (operation : OperationV2) (raw : Json) :
    Option (NativeInventoryKindV1 × Int) :=
  let p := raw.row
  match nativeSourceInventoryRequestV1 host operation, (p.field "matched").asPositiveId?,
      (p.field "items").asArray? with
  | some request, some matched, some items =>
    let shape :=
      if request.kind = .power_circuits then
        (p.field "schema").isText "operator.electrical_circuit_inventory.v1"
          && (p.field "scope").isText "project_power_circuits" && (p.field "read_only").isBool true
      else (p.field "schema").isText "operator.schedule_inventory.v1" && (p.field "action").isText "list"
        && inventoryKind? (p.field "kind") == some request.kind && p.member? "query" == some .null
    if !(p.field "status").isText "Ok" || !(p.field "offset").isNumber 0
        || !(p.field "max").isNumber request.max || request.max < matched
        || !(p.field "returned").isNumber matched || !(p.field "complete").isBool true
        || !(p.field "hasMore").isBool false || p.member? "nextOffset" != some .null
        || (items.length : Int) != matched || !shape
        || !decide ((items.map fun item => item.row.field "id").Nodup)
        || !decide ((items.map fun item => item.row.field "uniqueId").Nodup) then none
    else
      match items.mapM (inventoryRow request.kind) with
      | none => none
      | some counted =>
        let count := (counted.filter id).length
        if count = 0 then none else some (request.kind, count)
  | _, _, _ => none

structure NativeTemplateParameterChangeV1 where
  elementId : Int
  value : Int
  expectedOldValue : Int
deriving DecidableEq

/-- A single exact change of the view template parameter. -/
def nativeTemplateParameterChangeV1 (operation : OperationV2) :
    Option NativeTemplateParameterChangeV1 :=
  let body := if operation.capability_id = "revit_set_parameters" then operation.input.row
    else operation.inputBody.row
  match (body.field "changes").asArray? with
  | some [change] =>
    let c := change.row
    match (c.field "elementId").asPositiveId?, idText (c.field "value"),
        idText (c.field "expectedOldValue") with
    | some elementId, some value, some expectedOldValue =>
      if (body.field "apply").isBool true && (body.field "dryRun").isBool false
          && c.onlyKeys ["elementId", "parameterName", "value", "expectedOldValue"]
          && (c.field "parameterName").isText "View Template"
          && c.field "value" != c.field "expectedOldValue" then
        some ⟨elementId, value, expectedOldValue⟩
      else none
    | _, _, _ => none
  | _ => none

inductive NativeTemplateRequestKind where
  | typed_parameter
  | native_parameter
  | native_visibility
deriving DecidableEq, Repr

structure NativeTemplateRequestV1 where
  view_id : Int
  kind : NativeTemplateRequestKind
  expected_old_id : Option Int
  requested_id : Option Int
  requested_name : Option String
deriving DecidableEq

/-- The identity of an operation names its own capability and is signed. -/
def signedForCapability (operation : OperationV2) : Bool :=
  match operation.request_identity with
  | some identity =>
    identity.capability_id == operation.capability_id && identity.request_signature != ""
  | none => false

def isTarget (operation : OperationV2) (lead : String) (id : Int) : Bool :=
  operation.target.target_id == some (lead ++ toString id)

def nativeTemplateRequestV1 (host : JavaScriptHost) (operation : OperationV2) :
    Option NativeTemplateRequestV1 :=
  let body := operation.inputBody.row
  let typed := operation.capability_id == "revit_set_parameters"
  if operation.requested_effect != .apply || !signedForCapability operation then none
  else if typed || requestPath operation == some "/revit/set-parameter" then
    match nativeTemplateParameterChangeV1 operation with
    | none => none
    | some change =>
      if !isTarget operation "id:" change.elementId then none
      else if typed && (operation.role != .root || (requestMethod operation).isSome
          || truthy (requestPath operation)) then none
      else if !typed && (requestMethod operation != some .POST || !inputNamesRequest operation) then none
      else some
        { view_id := change.elementId
          kind := if typed then .typed_parameter else .native_parameter
          expected_old_id := some change.expectedOldValue
          requested_id := some change.value
          requested_name := none }
  else
    match (body.field "viewId").asPositiveId?, (body.field "templateName").asString? with
    | some viewId, some templateName =>
      if operation.role != .root || requestMethod operation != some .POST
          || requestPath operation != some "/revit/visibility" || !inputNamesRequest operation
          || !(body.field "action").isText "set_template" || !text.nonBlank templateName
          || (body.field "dryRun").isBool true || !isTarget operation "id:" viewId then none
      else some
        { view_id := viewId
          kind := .native_visibility
          expected_old_id := none
          requested_id := none
          requested_name := some (host.toLowerCase (text.trim templateName)) }
    | _, _ => none

/-- A native readback of an element-valued parameter. -/
def isElementIdValue (value : Json) (id : Option Int) : Bool :=
  (value.row.field "storageType").isText "ElementId"
    && (match id with | some expected => (value.row.field "value").isNumber expected | none => false)

/-- The template a native receipt proves to be assigned. -/
def nativeTemplateResultStateV1 (host : JavaScriptHost) (operation : OperationV2) (raw : Json) :
    Option (Int × Int) :=
  let p := raw.row
  let transaction := (p.field "transaction").row
  match nativeTemplateRequestV1 host operation with
  | none => none
  | some request =>
    match request.kind with
    | .typed_parameter => none
    | .native_parameter =>
      match (p.field "verification").asArray?, (p.field "diffs").asArray?, request.requested_id with
      | some [check], some [diff], some requested =>
        let c := check.row
        let d := diff.row
        if (p.field "status").isText "Applied and Verified" && (p.field "dryRun").isBool false
            && (transaction.field "status").isText "committed"
            && (transaction.field "committed").isBool true
            && (p.field "requestedCount").isNumber 1 && (p.field "effectiveCount").isNumber 1
            && (p.field "excludedCount").isNumber 0 && (p.field "changedCount").isNumber 1
            && (p.field "writeFailedCount").isNumber 0 && (p.field "verificationPerformed").isBool true
            && (p.field "verifiedCount").isNumber 1 && (p.field "verificationFailedCount").isNumber 0
            && p.field "unresolvedElementIds" == .arr [] && p.field "missingAfterElementIds" == .arr []
            && (c.field "elementId").isNumber request.view_id
            && (c.field "parameterName").isText "View Template" && (c.field "status").isText "verified"
            && c.isNullish "error" && (c.field "expectedValue").isText (toString requested)
            && isElementIdValue (c.field "actual") request.requested_id
            && (d.field "elementId").isNumber request.view_id
            && (d.field "parameterName").isText "View Template" && (d.field "ok").isBool true
            && (d.field "changed").isBool true
            && isElementIdValue (d.field "after") request.requested_id
            && isElementIdValue (d.field "before") request.expected_old_id then
          some (request.view_id, requested)
        else none
      | _, _, _ => none
    | .native_visibility =>
      let view := (p.field "view").row
      match (view.field "viewTemplateId").asPositiveId?, (view.field "viewTemplate").asString? with
      | some template, some name =>
        if (p.field "success").isBool true && (p.field "action").isText "set_template"
            && (p.field "dryRun").isBool false && (transaction.field "status").isText "committed"
            && (view.field "id").isNumber request.view_id
            && some (host.toLowerCase (text.trim name)) == request.requested_name then
          some (request.view_id, template)
        else none
      | _, _ => none

/-- A request that opens a family document, or closes one without saving. -/
inductive NativeFamilySessionRequestV1 where
  | open_
  | close_without_save (session_id : String)
deriving DecidableEq, Repr

def nativeFamilySessionRequestV1 (operation : OperationV2) : Option NativeFamilySessionRequestV1 :=
  let body := operation.inputBody.row
  if requestMethod operation != some .POST || !inputNamesRequest operation then none
  else if requestPath operation == some "/revit/open-family-doc"
      || requestPath operation == some "/revit/edit-family-from-instance" then some .open_
  else
    match (if body.isNullish "docId" then body.field "familyDocumentId" else body.field "docId") with
    | .str id =>
      if requestPath operation == some "/revit/close-doc" && (body.field "saveChanges").isBool false
          && text.isHexTextAnyCase 32 id then some (.close_without_save id)
      else none
    | _ => none

/-- The text of one filter rule, in request or native vocabulary. -/
def filterOperators : List (String × String) :=
  [("equals", "Equal"), ("not_equals", "NotEqual"), ("contains", "Contains"),
    ("not_contains", "NotContains"), ("begins_with", "BeginsWith"), ("ends_with", "EndsWith"),
    ("has_value", "HasValue"), ("has_no_value", "HasNoValue")]

def filterRule (native : Bool) (item : Json) : Option Json :=
  let f := item.row
  let op := filterOperators.find? fun pair => (f.field "op").isText (if native then pair.2 else pair.1)
  match (f.field "fieldId").asSafeInt?, op with
  | some fieldId, some (name, _) =>
    let noValue := name == "has_value" || name == "has_no_value"
    let value := f.field "value"
    let valueOk := match value with
      | .str text_ => text.length text_ ≤ 8192
      | .num _ => true
      | _ => false
    if fieldId < 0 || !(noValue || valueOk)
        || (!native && !f.onlyKeys ["fieldId", "op", "value", "valueType"]) then none
    else some (.arr [.num fieldId, .str name, if noValue then .null else value])
  | _, _ => none

/-- The canonical text of a filter list. -/
def filterRules (host : JavaScriptHost) (value : Json) (native : Bool) : Option String :=
  match value with
  | .arr items =>
    if 8 < items.length then none
    else (items.mapM (filterRule native)).map fun rules => host.stringify (.arr rules)
  | _ => none

structure NativeScheduleFilterRequestV1 where
  schedule_id : Int
  state : String
deriving DecidableEq

def nativeScheduleFilterRequestV1 (host : JavaScriptHost) (operation : OperationV2) :
    Option NativeScheduleFilterRequestV1 :=
  let body := operation.inputBody.row
  match (body.field "scheduleId").asPositiveId?, filterRules host (body.field "filters") false with
  | some scheduleId, some state =>
    if operation.requested_effect != .apply || operation.role != .root || !signedForCapability operation
        || requestMethod operation != some .POST
        || requestPath operation != some "/revit/configure-schedule" || !inputNamesRequest operation
        || !isTarget operation "id:" scheduleId || !(body.field "replaceFilters").isBool true
        || !(body.field "dryRun").isBool false
        || !(body.isNullish "replaceSortGroup" || (body.field "replaceSortGroup").isBool false)
        || !body.onlyKeys ["scheduleId", "filters", "replaceFilters", "replaceSortGroup", "dryRun"] then
      none
    else some ⟨scheduleId, state⟩
  | _, _ => none

/-- A truthy JSON value: not `null`, `false`, zero or the empty string. -/
def truthyJson : Json → Bool
  | .null => false
  | .bool flag => flag
  | .num number => number != 0
  | .str text_ => text_ != ""
  | .arr _ | .obj _ => true

def nativeScheduleFilterResultStateV1 (host : JavaScriptHost) (operation : OperationV2) (raw : Json) :
    Option NativeScheduleFilterRequestV1 :=
  let p := raw.row
  let transaction := (p.field "transaction").row
  let tracking := (p.field "changeTracking").row
  let schedule := (p.field "schedule").row
  match nativeScheduleFilterRequestV1 host operation with
  | none => none
  | some request =>
    if truthyJson (p.field "error") || (p.field "truncated").isBool true
        || !(p.field "success").isBool true || !(p.field "status").isText "Success"
        || !(p.field "dryRun").isBool false || !(schedule.field "id").isNumber request.schedule_id
        || !(match schedule.field "uniqueId" with | .str id => id != "" | _ => false)
        || !(transaction.field "status").isText "committed"
        || !(transaction.field "committed").isBool true
        || !(tracking.field "documentChangedObserved").isBool true
        || !(tracking.field "exhaustiveChangeInventory").isBool true
        || !(tracking.field "captureFailureCount").isNumber 0
        || filterRules host (p.field "filterReadback") true != some request.state then none
    else some request

end revit_operator.contracts
