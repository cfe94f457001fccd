import RevitOperator.AssignmentKernel.WorkPlan

namespace revit_operator.assignment_kernel

/-! The selectors of a retained scope check. They stay the JSON they arrived
    as, so the validators read members the way the source does. -/

def MODEL_VIEW_TYPES_V1 : List String :=
  ["FloorPlan", "CeilingPlan", "EngineeringPlan", "Section", "Elevation", "ThreeD"]

def VIEW_DISCIPLINES_V1 : List String :=
  ["Architectural", "Structural", "Mechanical", "Electrical", "Plumbing", "Coordination"]

/-- A trimmed non-empty text of a bounded length. -/
def trimmedText (value : Json) (max : Nat) : Bool :=
  match value with
  | .str text_ => text.trim text_ == text_ && text_ != "" && text.length text_ ≤ max
  | _ => false

/-- Control characters other than the admitted ones are absent. -/
def withoutControls (value : Json) (admitted : List Nat) : Bool :=
  match value with
  | .str text_ => !text_.toList.any fun c => (c.toNat ≤ 0x1F || c.toNat == 0x7F) && c.toNat ∉ admitted
  | _ => false

def isWordChar (c : Char) : Bool := text.isLower c || text.isUpper c || text.isDigit c || c == '_'

/-- A category is a plain name or a well-formed built-in one. -/
def validCategory (value : Json) : Bool :=
  trimmedText value 256 && withoutControls value []
    && (match value with
      | .str text_ => !(["ost_", "osT_", "oSt_", "oST_", "Ost_", "OsT_", "OSt_", "OST_"].any (text.startsWith text_))
          || (text.startsWith text_ "OST_" && 4 < text_.toList.length
            && (text.dropFirst 4 text_).toList.all isWordChar)
      | _ => false)

/-- A non-empty list of distinct values, each accepted, up to a bound. -/
def distinctItems (value : Json) (max : Nat) (accept : Json → Bool) : Bool :=
  match value with
  | .arr items => !items.isEmpty && items.length ≤ max && decide items.Nodup && items.all accept
  | _ => false

def choices (value : Json) (allowed : List String) : Bool :=
  distinctItems value allowed.length fun item => allowed.any item.isText

def isPositiveId (value : Json) : Bool := value.asPositiveId?.isSome

/-- A member is absent or accepted. -/
def optionalMember (value : Json) (key : String) (accept : Json → Bool) : Bool :=
  match value.member? key with
  | none => true
  | some member => accept member

/-- The category and view domain the graphics and visibility checks share. -/
def validViewDomain (value : Json) : Bool :=
  validCategory (value.field "category") && choices (value.field "disciplines") VIEW_DISCIPLINES_V1
    && choices (value.field "view_types") MODEL_VIEW_TYPES_V1

def validFamilyStaticTextScopeV1 (value : Json) : Bool :=
  value.isObject && value.onlyKeys ["kind", "category", "expected_text"]
    && (value.field "kind").isText "family_static_text_v1" && validCategory (value.field "category")
    && trimmedText (value.field "expected_text") 2048
    && withoutControls (value.field "expected_text") [0x09, 0x0A, 0x0D]

def validCategoryGraphicsScopeV1 (value : Json) : Bool :=
  value.isObject
    && value.onlyKeys ["kind", "category", "disciplines", "view_types", "halftone", "hidden_policy"]
    && (value.field "kind").isText "category_graphics_v1" && validViewDomain value
    && (value.field "halftone").asBool?.isSome && (value.field "hidden_policy").isText "exclude_hidden"

def validCategoryVisibilityScopeV1 (value : Json) : Bool :=
  value.isObject
    && value.onlyKeys ["kind", "category", "disciplines", "view_types", "hidden", "sheet_ids"]
    && (value.field "kind").isText "category_visibility_v1" && (value.field "hidden").asBool?.isSome
    && validViewDomain value
    && optionalMember value "sheet_ids" fun ids => distinctItems ids 32 isPositiveId

/-- A built-in tag category. -/
def isTagCategory (value : Json) : Bool :=
  match value with
  | .str text_ => text.length text_ ≤ 100 && text.startsWith text_ "OST_" && text.endsWith text_ "Tags"
      && 8 < text_.toList.length
      && (text.dropFirst 4 text_).toList.all fun c => text.isLower c || text.isUpper c || text.isDigit c
  | _ => false

def validNames (value : Json) : Bool := distinctItems value 32 (trimmedText · 240)

def validTagScopeRequestV1 (value : Json) : Bool :=
  value.isObject
    && value.onlyKeys ["category", "view_ids", "family_names", "subject_family_names", "has_leader"]
    && isTagCategory (value.field "category") && (value.field "has_leader").asBool?.isSome
    && distinctItems (value.field "view_ids") 128 isPositiveId
    && optionalMember value "family_names" validNames
    && optionalMember value "subject_family_names" validNames

def validWorkPlanScopeV1 (value : Json) : Bool :=
  validTagScopeRequestV1 value || validCategoryGraphicsScopeV1 value
    || validCategoryVisibilityScopeV1 value || validFamilyStaticTextScopeV1 value

end revit_operator.assignment_kernel

open checked

namespace revit_operator.assignment_kernel

/-- A non-blank text within a byte bound and without control characters. -/
def locationText (value : String) (max : Nat) : Bool :=
  text.nonBlank value && text.utf8ByteLength value ≤ max && !text.hasUnitIn 0 0x1F value
    && !text.hasUnitIn 0x7F 0x7F value

/-- A member of a record under a key, left out when it is absent. -/
def optionalEntry (key : String) (value : Option Json) : List (String × Json) :=
  value.toList.map fun value => (key, value)

def LocationStatus.toText : LocationStatus → String
  | .unresolved => "unresolved"
  | .ambiguous => "ambiguous"
  | .candidate => "candidate"

def DraftingPass.toText : DraftingPass → String
  | .geometry => "geometry"
  | .sizes_properties => "sizes_properties"
  | .connections => "connections"
  | .elevation => "elevation"
  | .annotations => "annotations"
  | .coverage => "coverage"

def DraftingStage.toText : DraftingStage → String
  | .attempted => "attempted"
  | .drafted => "drafted"
  | .checked => "checked"
  | .blocked => "blocked"

def LocationRegion.toJson (region : LocationRegion) : Json :=
  .obj [("min_u", .num region.min_u), ("min_v", .num region.min_v), ("max_u", .num region.max_u),
    ("max_v", .num region.max_v)]

def LocationSource.toJson (source : LocationSource) : Json :=
  .obj ([("attachment_id", .str source.attachment_id), ("filename", .str source.filename),
      ("sha256", .str source.sha256), ("page", .num source.page), ("page_count", .num source.page_count)]
    ++ optionalEntry "sheet_label" (source.sheet_label.map .str)
    ++ optionalEntry "view_label" (source.view_label.map .str)
    ++ optionalEntry "region" (source.region.map LocationRegion.toJson))

def LocationNative.toJson (native : LocationNative) : Json :=
  .obj ([("document_fingerprint", .str native.document_fingerprint), ("view_id", .num native.view_id),
      ("view_name", .str native.view_name)]
    ++ optionalEntry "sheet_number" (native.sheet_number.map .str))

def DraftingProgressV1.toJson (drafting : DraftingProgressV1) : Json :=
  .obj ([("pass", .str drafting.pass.toText), ("stage", .str drafting.stage.toText),
      ("element_ids", .arr (drafting.element_ids.map fun id => .num id)),
      ("read_operation_ids", .arr (drafting.read_operation_ids.map .str))]
    ++ optionalEntry "source_image_sha256" (drafting.source_image_sha256.map .str)
    ++ optionalEntry "model_image_sha256" (drafting.model_image_sha256.map .str)
    ++ [("next_action", .str drafting.next_action), ("remaining", .str drafting.remaining)]
    ++ optionalEntry "boundary_context" (drafting.boundary_context.map .str))

def WorkPlanLocationHintV2.toJson (hint : WorkPlanLocationHintV2) : Json :=
  .obj ([("status", .str hint.status.toText), ("reason", .str hint.reason)]
    ++ optionalEntry "source" (hint.source.map LocationSource.toJson)
    ++ optionalEntry "native" (hint.native.map LocationNative.toJson)
    ++ optionalEntry "drafting" (hint.drafting.map DraftingProgressV1.toJson))

def sourceLocationValid (source : LocationSource) : Bool :=
  locationText source.attachment_id 160 && locationText source.filename 160
    && text.isHexText 64 source.sha256 && isSafeInteger source.page && isSafeInteger source.page_count
    && 1 ≤ source.page && source.page ≤ source.page_count && source.page_count ≤ 100000
    && source.sheet_label.all (locationText · 120) && source.view_label.all (locationText · 120)

/-- Positive normalized bounds of a crop. -/
def regionValid (region : LocationRegion) : Bool :=
  [region.min_u, region.min_v, region.max_u, region.max_v].all (fun v => 0 ≤ v && v ≤ 1)
    && region.min_u < region.max_u && region.min_v < region.max_v

def nativeLocationValid (snapshot : AssignmentSnapshotV2) (native : LocationNative) : Bool :=
  locationText native.document_fingerprint 240
    && some native.document_fingerprint == snapshot.current_binding.document_fingerprint
    && isSafeInteger native.view_id && 0 < native.view_id && locationText native.view_name 120
    && native.sheet_number.all (locationText · 40)

def draftingValid (hint : WorkPlanLocationHintV2) (drafting : DraftingProgressV1) : Bool :=
  (hint.source.bind LocationSource.region).isSome && hint.native.isSome
    && drafting.element_ids.length ≤ 64 && decide drafting.element_ids.Nodup
    && drafting.element_ids.all (fun id => isSafeInteger id && 0 < id)
    && drafting.read_operation_ids.length ≤ 8 && decide drafting.read_operation_ids.Nodup
    && drafting.read_operation_ids.all (locationText · 240) && locationText drafting.next_action 240
    && locationText drafting.remaining 400 && drafting.boundary_context.all (locationText · 400)
    && drafting.source_image_sha256.all (text.isHexText 64)
    && drafting.model_image_sha256.all (text.isHexText 64)

/-- The last instant at which an edit may have changed the model; `none` when
    an instant does not parse. -/
def lastEditInstant (host : JavaScriptHost) (snapshot : AssignmentSnapshotV2) : Option Int :=
  let edits := snapshot.operations.values.filter fun operation =>
    operation.requested_effect == .apply && operation.persistent_effect != .none
  (edits.mapM fun operation => host.parseDate
    ((operation.result.map OperationResultV2.completed_at).getD operation.opened_at)).map (·.foldl max 0)

/-- A settled current native read after the last edit. -/
def backcheckRead (host : JavaScriptHost) (snapshot : AssignmentSnapshotV2) (at_ id : String) : Bool :=
  match snapshot.operations.get? id with
  | none => false
  | some operation =>
    match operation.result, lastEditInstant host snapshot, host.parseDate operation.opened_at with
    | some result, some lastEdit, some opened => operation.requested_effect == .read
        && operation.persistent_effect == .none && operation.settlement_state == .settled
        && result.authority == "native-host" && result.status == .succeeded
        && sameAssignmentBindingV2 operation.binding snapshot.current_binding
        && sameAssignmentBindingV2 result.binding snapshot.current_binding
        && !snapshot.input_invalidated_operation_ids.contains id && lastEdit < opened
        && host.notAfter result.completed_at at_
    | _, _, _ => false

/-- A backcheck compares two different images and reads the model after the
    last edit. -/
def checkDrafting (host : JavaScriptHost) (snapshot : AssignmentSnapshotV2) (hint : WorkPlanLocationHintV2)
    (at_ : String) (drafting : DraftingProgressV1) : Except KernelFault Unit := do
  kernelAssertV2 (draftingValid hint drafting) "drafting_progress_invalid"
    "Use a bounded source crop, native view, drafting pass/stage, linked elements, remaining discrepancy and next useful action."
  onlyIf (drafting.stage = .checked) do
    kernelAssertV2 (truthy drafting.source_image_sha256 ∧ truthy drafting.model_image_sha256
        ∧ drafting.read_operation_ids ≠ [] ∧ drafting.source_image_sha256 ≠ drafting.model_image_sha256)
      "drafting_check_evidence_required"
      "Backchecking needs distinct reference/model images and native readback; execution success alone is not a check."
    kernelAssertV2 (snapshot.unresolved_unknown_operation_ids = [] ∧ snapshot.in_flight_operation_ids = []
        ∧ drafting.read_operation_ids.all (backcheckRead host snapshot at_))
      "drafting_check_readback_required"
      "Keep drafted work, but obtain current same-document native readback before recording an actor backcheck. This does not certify the whole assignment."

/-- Retain an interpreted location of an item. A location never verifies
    work. -/
def recordWorkPlanLocationV2 (host : JavaScriptHost) (snapshot : AssignmentSnapshotV2) (itemId : String)
    (hint : WorkPlanLocationHintV2) (at_ : String) : Except KernelFault AssignmentWorkPlanV2 :=
  match snapshot.work_plan, findPlanItem snapshot itemId with
  | some plan, some item => do
    kernelAssertV2 (locationText hint.reason 240
        ∧ text.utf8ByteLength (host.stringify hint.toJson) ≤ (if hint.drafting.isSome then 3000 else 1200))
      "work_plan_location_invalid"
      "Name an existing item and a bounded interpreted location; location never verifies work."
    kernelAssertV2 (hint.source.all sourceLocationValid) "work_plan_source_location_invalid"
      "Retain immutable source identity, page and page count; labels are hints, not native identities."
    kernelAssertV2 ((hint.source.bind LocationSource.region).all regionValid)
      "work_plan_crop_location_invalid" "Use positive normalized full-page crop bounds."
    kernelAssertV2 (hint.native.all (nativeLocationValid snapshot)) "work_plan_native_location_invalid"
      "Native view hints must retain the current document fingerprint, ID and name. Revalidate before acting."
    kernelAssertV2 (hint.status ≠ .candidate ∨ hint.source.isSome ∨ hint.native.isSome)
      "work_plan_location_empty" "A candidate location needs a source or native address."
    forEach hint.drafting.toList (checkDrafting host snapshot hint at_)
    let history := item.location_history.getD []
    kernelAssertV2 (history.length < (if hint.drafting.isSome then 128 else 16))
      "work_plan_location_history_limit"
      "Location history reached its bounded limit; prior interpretations remain retained."
    return replaceItem plan itemId fun candidate =>
      { candidate with location_history := some (history ++ [⟨hint, at_, snapshot.current_binding⟩]) }
  | _, _ => .error (.assertion "work_plan_location_invalid"
      "Name an existing item and a bounded interpreted location; location never verifies work.")

end revit_operator.assignment_kernel
