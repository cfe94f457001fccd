import RevitOperator.AssignmentKernel.Operation

open revit_operator.assignment_kernel

namespace revit_operator.contracts

/-- A text of 64 lower-case hexadecimal digits. -/
def isHash (value : Json) : Bool :=
  match value with
  | .str digest => text.isHexText 64 digest
  | _ => false

/-- An absolute path in either separator style, bounded and without control
    characters. -/
def isAbsolutePath (value : Json) : Bool :=
  match value with
  | .str path =>
    1 < text.length path && text.length path ≤ 2000 && !text.hasUnitIn 0 0x1F path
      && (match path.toList with
        | '/' :: _ => true
        | '\\' :: '\\' :: _ => true
        | drive :: ':' :: slash :: _ =>
          (text.isLower drive || text.isUpper drive) && (slash == '/' || slash == '\\')
        | _ => false)
  | _ => false

def forwardSlashes (path : String) : String :=
  .ofList (path.toList.map fun c => if c = '\\' then '/' else c)

/-- A path with forward slashes in lower case. -/
def normalizedPath (host : JavaScriptHost) (path : String) : String :=
  host.toLowerCase (forwardSlashes path)

/-- Two JSON texts name the same path. -/
def samePath (host : JavaScriptHost) (left right : Json) : Bool :=
  match left, right with
  | .str a, .str b => normalizedPath host a == normalizedPath host b
  | _, _ => false

def documentIdentity (value : Json) : Bool :=
  (match value.field "session_id" with
    | .str session => text.nonBlank session && text.length session ≤ 200
        && !text.hasUnitIn 0 0x1F session && !text.hasUnitIn 0x7F 0x9F session
    | _ => false)
    && isHash (value.field "project_fingerprint")
    && ((value.field "path").isText "" || isAbsolutePath (value.field "path"))

/-- The receipt of a save names one document before and after, and every
    change flag agrees with the two identities. -/
def savedDocument (host : JavaScriptHost) (value path : Json) : Bool :=
  let r := value.row
  let before := (r.field "before").row
  let after := (r.field "after").row
  (r.field "native_save_returned").isBool true && documentIdentity before && documentIdentity after
    && (r.field "same_document").isBool true && samePath host (after.field "path") path
    && (r.field "document_session_changed").isBool
        (before.field "session_id" != after.field "session_id")
    && (r.field "document_path_changed").isBool
        (!samePath host (before.field "path") (after.field "path"))
    && (r.field "project_binding_changed").isBool
        (before.field "project_fingerprint" != after.field "project_fingerprint")

def requiredPrinterFields : List String :=
  ["PrinterName", "PrintToFile", "CombinedFile", "PrintToFileName", "PrintRange", "CopyNumber",
    "PrintOrderReverse"]

def allowedPrinterFields : List String := requiredPrinterFields ++ ["Collate", "ViewSelection"]

def isJsonScalar : Json → Bool
  | .str _ | .bool _ | .num _ => true
  | _ => false

/-- One captured printer setting was read back unchanged. -/
def printerFieldRestored (row : Json) : Option String :=
  match (row.row.field "field").asString? with
  | some name =>
    if allowedPrinterFields.contains name && (row.row.field "read_succeeded").isBool true
        && (row.row.field "matches").isBool true && row.row.member? "error" == some .null
        && isJsonScalar (row.row.field "before") && isJsonScalar (row.row.field "after")
        && row.row.field "before" == row.row.field "after" then some name
    else none
  | none => none

def nativePrintSettingsRestorationVerifiedV1 (value : Json) : Bool :=
  let r := value.row
  match r.field "print_settings_restoration_readback" with
  | .arr rows =>
    (r.field "path").isText "/revit/print" && (r.field "print_settings_restored").isBool true
      && requiredPrinterFields.length ≤ rows.length && rows.length ≤ allowedPrinterFields.length
      && (match rows.mapM printerFieldRestored with
        | some names => decide names.Nodup && requiredPrinterFields.all names.contains
        | none => false)
  | _ => false

def artifactPaths : List String :=
  ["/revit/export-pdf", "/revit/print", "/revit/export-elements-xlsx", "/revit/save-as"]

/-- The receipt lists no planned path, export call or output. -/
def emptyExport (r : Json) : Bool :=
  r.field "expected_output_paths" == .arr [] && (r.field "expected_export_calls").isNumber 0
    && r.field "export_calls" == .arr [] && r.field "outputs" == .arr []

def isEffectPhase (value : Json) : Bool := value.isText "apply" || value.isText "preview"

/-- One written file matches its planned path and is complete. -/
def writtenOutput (path entry planned : Json) : Bool :=
  let file := entry.row
  file.field "path" == planned
    && (match (file.field "size_bytes").asSafeInt? with | some size => 0 < size | none => false)
    && isHash (file.field "sha256") && (file.field "fresh_output").isBool true
    && (!path.isText "/revit/save-as" || (file.field "stable_read").isBool true)

/-- The effect of a native file receipt: files written, none written, or no
    acceptable receipt. -/
def nativeArtifactReceiptEffectV1 (host : JavaScriptHost) (value method path requestedEffect : Json) :
    Option PersistentEffectV2 :=
  let r := value.row
  if !method.isText "POST" || !artifactPaths.any path.isText
      || !(r.field "schema").isText "revit-operator.native-artifact-receipt.v1"
      || r.member? "method" != some method || r.member? "path" != some path then none
  else if path.isText "/revit/save-as" && isEffectPhase requestedEffect
      && r.member? "phase" == some requestedEffect && (r.field "status").isText "not_started"
      && (r.field "save_io_not_started").isBool true
      && (r.field "not_started_reason").isText "save_preflight_failed" && r.isNullish "save_document"
      && emptyExport r then some .none
  else if path.isText "/revit/print" && isEffectPhase requestedEffect
      && r.member? "phase" == some requestedEffect && (r.field "status").isText "not_started"
      && (r.field "print_settings_untouched").isBool true
      && ["interactive_printer_destination", "printer_capability_unavailable", "printer_unavailable",
          "no_printer_configured"].any (r.field "not_started_reason").isText
      && emptyExport r then some .none
  else
    match (r.field "expected_output_paths").asArray?, (r.field "expected_export_calls").asSafeInt?,
        (r.field "export_calls").asArray?, (r.field "outputs").asArray? with
    | some paths, some expected, some calls, some outputs =>
      if paths.isEmpty || 2000 < paths.length || !paths.all isAbsolutePath
          || !decide ((paths.filterMap Json.asString?).map host.toLowerCase).Nodup
          || expected < 1 || (paths.length : Int) < expected then none
      else if requestedEffect.isText "preview" && (r.field "phase").isText "preview"
          && (r.field "status").isText "not_started" && calls.isEmpty && outputs.isEmpty then
        if path.isText "/revit/save-as"
            && (paths.length != 1 || expected != 1 || !r.isNullish "save_document") then none
        else some .none
      else if !requestedEffect.isText "apply" || !(r.field "phase").isText "apply"
          || !(r.field "status").isText "complete"
          || (path.isText "/revit/print" && !(r.field "print_settings_restored").isBool true)
          || (path.isText "/revit/print" && (r.member? "print_settings_restoration_readback").isSome
              && !nativePrintSettingsRestorationVerifiedV1 r)
          || (calls.length : Int) != expected || !calls.all (·.isBool true)
          || outputs.length != paths.length then none
      else if path.isText "/revit/save-as" && (paths.length != 1 || expected != 1
          || !savedDocument host (r.field "save_document") (paths.headD .null)) then none
      else if (outputs.zip paths).all fun pair => writtenOutput path pair.1 pair.2 then some .applied
      else none
    | _, _, _, _ => none

/-- The text of a JSON string, and `undefined` otherwise, as a template
    literal prints an absent member. -/
def pathText (identity : Option OperationRequestIdentityV2) : String :=
  ((identity.bind OperationRequestIdentityV2.path)).getD "undefined"

/-- The result schema a native POST result must carry. -/
def nativePostSchema (identity : Option OperationRequestIdentityV2) : String :=
  "operator-native/POST:" ++ pathText identity ++ "/v2"

/-- The authority a transaction-free artifact effect needs beyond its receipt. -/
def nativeArtifactResultEffectV2 (host : JavaScriptHost) (result : OperationResultV2) :
    Option PersistentEffectV2 :=
  let receipt := (result.native_artifact_receipt.getD .null).row
  let method := ((result.request_identity.bind OperationRequestIdentityV2.method).map
    fun m => Json.str m.toText).getD .null
  let path := ((result.request_identity.bind OperationRequestIdentityV2.path).map Json.str).getD .null
  if result.authority != "native-host" || result.dispatch_state != .dispatched
      || result.native_transaction_state != .not_applicable || !result.observation_required
      || !(match result.raw_payload_hash with | some hash => text.isHexText 64 hash | none => false)
      || result.result_schema_id != nativePostSchema result.request_identity then none
  else
    match nativeArtifactReceiptEffectV1 host receipt method path (receipt.field "phase") with
    | some effect => if result.persistent_effect = effect then some effect else none
    | none => none

/-- A successful native save of the same document. -/
def nativeDocumentCheckpointResultV2 (host : JavaScriptHost) (result : OperationResultV2) : Bool :=
  let receipt := (result.native_artifact_receipt.getD .null).row
  result.status == .succeeded && (receipt.field "path").isText "/revit/save-as"
    && ((receipt.field "save_document").row.field "same_document").isBool true
    && nativeArtifactResultEffectV2 host result == some .applied

def isNativeDocumentCheckpointRequestV2 (operation : OperationV2) : Bool :=
  (operation.input.field "method").isText "POST" && (operation.input.field "path").isText "/revit/save-as"
    && (operation.request_identity.bind OperationRequestIdentityV2.method) == some .POST
    && (operation.request_identity.bind OperationRequestIdentityV2.path) == some "/revit/save-as"

/-- A bounded native identity without surrounding space or control characters. -/
def isNativeAffectedTargetIdentityV2 (identity : String) : Bool :=
  identity == text.trim identity && identity != "" && text.length identity ≤ 500
    && !text.hasUnitIn 0 0x1F identity && !text.hasUnitIn 0x7F 0x7F identity

/-- Every identity comes strictly before the next one in ordinal order. -/
def strictlyOrdered : List String → Bool
  | first :: second :: rest =>
    text.ordinalLe first second && first != second && strictlyOrdered (second :: rest)
  | _ => true

def isCanonicalNativeAffectedTargetSetV2 (identities : List String) : Bool :=
  identities.length ≤ 4096 && identities.all isNativeAffectedTargetIdentityV2
    && strictlyOrdered identities

end revit_operator.contracts
