import RevitOperator.Library.Json
import Mathlib.Order.Basic

/-! The effect a request to the Revit host can have, as the packaged classifier
    reads it from the path, the method and the body. -/

namespace revit_operator.revit_action_effect

/-- What a request may do to the model, the weakest effect first. -/
inductive RevitActionEffect where
  | read
  | preview
  | apply
deriving DecidableEq, Repr

namespace RevitActionEffect

def rank : RevitActionEffect → Nat
  | .read => 0
  | .preview => 1
  | .apply => 2

theorem rank_injective : Function.Injective rank := by
  intro a b h
  cases a <;> cases b <;> first | rfl | cases h

instance : LinearOrder RevitActionEffect := LinearOrder.lift' rank rank_injective

theorem le_apply (effect : RevitActionEffect) : effect ≤ .apply := by
  cases effect <;> decide

theorem not_apply_le_preview : ¬ apply ≤ preview := by decide

theorem not_apply_le_read : ¬ apply ≤ read := by decide

end RevitActionEffect

/-- The parts of the language the classifier calls. Casing is the plain one on
    ASCII texts, and a trimmed lower-case text stays as it is. -/
structure JavaScriptHost where
  parseJson : String → Option Json
  toLowerCase : String → String
  toUpperCase : String → String
  lower_lower : ∀ s, toLowerCase (text.trim (toLowerCase (text.trim s))) = toLowerCase (text.trim s)
  lower_ascii : ∀ s, (∀ c ∈ s.toList, c.toNat < 128) → toLowerCase s = .ofList (s.toList.map Char.toLower)
  upper_ascii : ∀ s, (∀ c ∈ s.toList, c.toNat < 128) → toUpperCase s = .ofList (s.toList.map Char.toUpper)

def READ_ONLY_PATHS : List String :=
  ["/revit/dynamic-runtime/run-native-read-v1", "/revit/inspect-exported-files", "/revit/inspect-drawing-spec",
    "/revit/inspect-excel-source", "/revit/inspect-vector-detail", "/revit/inspect-excel-import",
    "/revit/ping", "/revit/context", "/revit/activate-view", "/revit/state-snapshot",
    "/revit/computer-use-observe", "/revit/views", "/revit/view-owned-detailing", "/revit/capabilities",
    "/revit/tool-registry", "/revit/tool-search", "/revit/tool-doc", "/revit/tool-examples",
    "/revit/native-api-catalog", "/revit/native-api-search", "/revit/native-api-call", "/revit/native-api-ops",
    "/revit/self-test", "/revit/regenerate", "/revit/rooms", "/revit/room-contents",
    "/revit/plan-dwelling-receptacles", "/revit/plan-room-receptacles-from-analog", "/revit/spatial-context",
    "/revit/linked-room-boundaries", "/revit/find-elements", "/revit/find-text-notes",
    "/revit/locate-elements", "/revit/resolve-mep-routing-context", "/revit/trace-connected-network",
    "/revit/find-elements-by-parameter", "/revit/find-duplicate-marks", "/revit/ducts-by-spatial-scope",
    "/revit/get-connectors", "/revit/get-placement-context", "/revit/model-health",
    "/revit/room_mep_intersect", "/revit/audit-hosted-instance-placement",
    "/revit/audit-electrical-circuit-loading", "/revit/audit-plumbing-fixture-services",
    "/revit/resolve-redline-target", "/revit/propose-fix", "/revit/resolve-room-wall",
    "/revit/rank-similar-devices-on-wall", "/revit/project-point-to-host-frame",
    "/revit/pick-candidate-cluster", "/revit/export-image", "/revit/capture-screenshare",
    "/revit/export-images", "/revit/export-view-frame", "/revit/export-view-region",
    "/revit/export-visible-elements", "/revit/highlight-and-export", "/revit/pick-at-pixel",
    "/revit/set-selection", "/revit/query", "/revit/resolve", "/revit/get-element-summary",
    "/revit/get-parameters", "/revit/quantify", "/revit/sheets", "/revit/schedules", "/revit/measure-gap",
    "/revit/get-lighting-data", "/revit/analyze-dimensions", "/revit/spatial-analysis",
    "/revit/fire-damper-audit", "/revit/lighting-audit", "/revit/query-zone-data", "/revit/list-element-types",
    "/revit/resolve-element-type", "/revit/resolve-room-plan-view", "/revit/get-titleblock-info",
    "/revit/titleblock-label-map", "/revit/titleblock-date-candidates", "/revit/verify-parameter-on-sheet",
    "/revit/capture-sheet-region", "/revit/get-family-file-path", "/revit/find-family-text-notes",
    "/revit/inspect-family-content", "/revit/inspect-family-label-styles", "/revit/warnings",
    "/revit/qa-checks", "/revit/print-sets", "/revit/revisions", "/revit/plan-family-evolution",
    "/revit/read-family-evolution"]

def REVIT_ACTION_PATH_ALIASES : List (String × String) :=
  [("/revit/list-views", "/revit/views"), ("/revit/query-views", "/revit/views"),
    ("/revit/list-sheets", "/revit/sheets"), ("/revit/list-schedules", "/revit/schedules"),
    ("/revit/query-elements", "/revit/query"), ("/revit/delete-elements", "/revit/delete"),
    ("/revit/set-parameters", "/revit/set-parameter")]

def ARTIFACT_PUBLICATION_PATHS : List String :=
  ["/revit/export-pdf", "/revit/export-dwg", "/revit/export-ifc", "/revit/export-elements-xlsx"]

variable (host : JavaScriptHost)

def canonicalRevitActionPath (pathname : String) : String :=
  let normalized := host.toLowerCase (text.trim pathname)
  (REVIT_ACTION_PATH_ALIASES.lookup normalized).getD normalized

/-- The object a body carries, itself or as text, and the empty object for any
    other body. A missing body is `none`. -/
def bodyRecord : Option Json → Json
  | some (.obj members) => .obj members
  | some (.str body) => if text.nonBlank body then ((host.parseJson body).getD .null).row else .obj []
  | _ => .obj []

/-- `row.key === value` for a Boolean value. -/
def flagged (row : Json) (key : String) (value : Bool) : Bool := (row.field key).isBool value

/-- The member under a key when it is a string. -/
def textMember? (row : Json) (key : String) : Option String := (row.member? key).bind Json.asString?

def genericConditionalIntentEffect (row : Json) : Option RevitActionEffect :=
  let transaction := bodyRecord host (row.member? "transaction")
  let modeValue :=
    ((textMember? transaction "mode").filter text.nonBlank).getD ((textMember? row "mode").getD "")
  let mode := host.toLowerCase (text.trim modeValue)
  let previewRequested := flagged row "dryRun" true || flagged row "dry_run" true || flagged row "preview" true
    || ["rollback", "preview", "dry_run", "dry-run"].contains mode
  let applyRequested := flagged row "apply" true || flagged row "dryRun" false || flagged row "dry_run" false
    || flagged row "commit" true || flagged row "execute" true || ["commit", "apply", "execute"].contains mode
  if applyRequested then some .apply
  else if previewRequested then some .preview
  else none

/-- The generic intent asks for a preview and nothing contradicts it. -/
def previewOnly (row : Json) : RevitActionEffect :=
  if genericConditionalIntentEffect host row = some .preview then .preview else .apply

/-- A preview when the handler's own flag asks for one, unless the generic
    intent is to apply. -/
def previewWhen (row : Json) (asked : Bool) : RevitActionEffect :=
  if genericConditionalIntentEffect host row = some .apply then .apply
  else if asked then .preview
  else .apply

/-- The lower-case text under a key, or a default for any other value. -/
def chosen (row : Json) (key fallback : String) : String :=
  match textMember? row key with
  | some value => host.toLowerCase (text.trim value)
  | none => fallback

/-- `row.a ?? row.b ?? … ?? false`. -/
def coalesce (row : Json) : List String → Json
  | [] => .bool false
  | key :: rest => if row.isNullish key then coalesce row rest else row.field key

/-- `Number.isInteger` and the closed range. -/
def isCountIn (low high : ℚ) : Json → Bool
  | .num value => value.den = 1 && low ≤ value && value ≤ high
  | _ => false

/-- `row.query === undefined` or a string of at most 120 code units. -/
def isParameterQuery : Option Json → Bool
  | none => true
  | some (.str query) => text.length query ≤ 120
  | some _ => false

def projectParametersEffect (row : Json) : RevitActionEffect :=
  let action := (row.member? "action").getD (.str "list")
  if action.isText "detail" && row.onlyKeys ["action", "parameterId"]
      && (row.field "parameterId").asPositiveId?.isSome then .read
  else if action.isText "list" && row.onlyKeys ["action", "query", "max"]
      && isParameterQuery (row.member? "query") && (row.member? "max").all (isCountIn 1 5000) then .read
  else (genericConditionalIntentEffect host row).getD .apply

def visibilityEffect (row : Json) : RevitActionEffect :=
  if chosen host row "action" "get" = "get" then .read else previewOnly host row

def listElementTypesEffect (row : Json) : RevitActionEffect :=
  let action := chosen host row "action" "list"
  if action ≠ "rename_types" ∧ action ≠ "purge_unused_in_family" then .read
  else if flagged row "dryRun" true then .preview
  else .apply

def createTextEffect (row : Json) : RevitActionEffect :=
  let action := chosen host row "action" "create"
  if action = "list_types" ∨ action = "inspect" then .read else previewOnly host row

/-- The rules of single handlers, in the order of the source. -/
def explicitConditionalActionPathEffect (normalized : String) (row : Json) : Option RevitActionEffect :=
  if normalized = "/revit/project-parameters" then some (projectParametersEffect host row)
  else if normalized = "/revit/assign-electrical-circuit" then
    some (if flagged row "dryRun" false then .apply else .preview)
  else if normalized = "/revit/existing-conditions-mep-draft-workflow" then
    some (previewWhen host row (flagged row "dryRun" true))
  else if normalized = "/revit/mep-route-workflow" ∨ normalized = "/revit/mep-branch-network-workflow" then
    some (previewWhen host row (flagged row "apply" false))
  else if normalized = "/revit/move-elements" then
    some (previewWhen host row (flagged row "dryRun" true))
  else if normalized ∈ ARTIFACT_PUBLICATION_PATHS then
    let dryRun :=
      if normalized = "/revit/export-pdf" then coalesce row ["dryRun", "preflightOnly", "preflight"]
      else coalesce row ["dryRun"]
    some (previewWhen host row (dryRun.isBool true))
  else if normalized = "/revit/print" then
    some (if genericConditionalIntentEffect host row = some .apply then .apply else .preview)
  else if normalized = "/revit/transaction-plan" then some .preview
  else if normalized = "/revit/visibility" then some (visibilityEffect host row)
  else if normalized = "/revit/duplicate-sheet" then some (previewOnly host row)
  else if normalized = "/revit/fire-damper-audit" then
    some (if (textMember? row "command").any fun command => host.toLowerCase (text.trim command) = "fix" then .apply
      else .read)
  else if normalized = "/revit/lighting-audit" then
    some (if flagged row "fix" true || flagged row "visualize" true then .apply else .read)
  else if normalized = "/revit/list-element-types" then some (listElementTypesEffect host row)
  else if normalized = "/revit/create-text" then some (createTextEffect host row)
  else none

/-- The body is an object, itself or as text. -/
def carriesObject : Option Json → Bool
  | some (.str body) => (host.parseJson body).any Json.isObject
  | some value => value.isObject
  | none => false

def conditionalActionPathEffect (pathname : String) (body : Option Json) : Option RevitActionEffect :=
  let normalized := canonicalRevitActionPath host pathname
  if normalized = "/revit/project-parameters" ∧ ¬ carriesObject host body then some .apply
  else
    let row := bodyRecord host body
    match explicitConditionalActionPathEffect host normalized row with
    | some explicit => some explicit
    | none =>
      if ¬ text.startsWith normalized "/revit/" ∨ normalized ∈ READ_ONLY_PATHS then none
      else genericConditionalIntentEffect host row

/-- `String(method || fallback).trim().toUpperCase()`. -/
def normalizedMethod (fallback : String) (method : Option String) : String :=
  host.toUpperCase (text.trim ((method.filter fun name => name ≠ "").getD fallback))

/-- The methods that never write. -/
def isReadMethod (method : String) : Bool := ["GET", "HEAD", "OPTIONS"].contains method

def pathLooksWrite (pathname : String) (body : Option Json) (method : Option String) : Bool :=
  let method := normalizedMethod host "POST" method
  if isReadMethod method then false
  else if method ≠ "POST" then true
  else
    let normalized := canonicalRevitActionPath host pathname
    match conditionalActionPathEffect host normalized body with
    | some effect => effect ≠ .read
    | none => text.startsWith normalized "/revit/" && !READ_ONLY_PATHS.contains normalized

/-- The effect of a path without a rule of its own. -/
def listedEffect (normalized : String) : RevitActionEffect :=
  if normalized ∈ READ_ONLY_PATHS then .read else .apply

def revitRouteEffect (pathname : String) (method : Option String) (body : Option Json) : RevitActionEffect :=
  let method := normalizedMethod host "GET" method
  if isReadMethod method then .read
  else if method ≠ "POST" then .apply
  else
    let normalized := canonicalRevitActionPath host pathname
    (conditionalActionPathEffect host normalized body).getD (listedEffect normalized)

def revitRouteCertificationEffect (pathname : String) (method : Option String) (body : Option Json) :
    RevitActionEffect :=
  let method := normalizedMethod host "GET" method
  if isReadMethod method then .read
  else if method ≠ "POST" then .apply
  else
    let normalized := canonicalRevitActionPath host pathname
    (explicitConditionalActionPathEffect host normalized (bodyRecord host body)).getD (listedEffect normalized)

def revitRouteEffectWhenBodyUnavailable (pathname : String) (method : Option String) : RevitActionEffect :=
  let method := normalizedMethod host "GET" method
  if isReadMethod method then .read
  else if method ≠ "POST" then .apply
  else
    let normalized := canonicalRevitActionPath host pathname
    match explicitConditionalActionPathEffect host normalized (.obj []) with
    | some .preview => .preview
    | some _ => .apply
    | none => listedEffect normalized

section ascii

theorem toLower_cases (c : Char) :
    c.toLower = c ∨ 65 ≤ c.toNat ∧ c.toNat ≤ 90 ∧ c.toLower.toNat = c.toNat + 32 := by
  delta Char.toLower
  split
  · next h =>
    refine .inr ?_
    simp [UInt32.le_iff_toNat_le] at h
    simp only [Char.toNat, UInt32.toNat_add]
    simp
    omega
  · exact .inl rfl

theorem isSpace_letter {c : Char} (hlow : 65 ≤ c.toNat) (hhigh : c.toNat ≤ 122) : text.isSpace c = false := by
  simp only [text.isSpace, List.mem_cons, List.not_mem_nil, or_false, Bool.or_eq_false_iff, decide_eq_false_iff_not,
    Bool.and_eq_false_iff]
  omega

theorem toLower_toLower (c : Char) : c.toLower.toLower = c.toLower := by
  obtain hsame | ⟨hlow, hhigh, hmoved⟩ := toLower_cases c
  · rw [hsame, hsame]
  · obtain hstays | ⟨hagain, hbelow, -⟩ := toLower_cases c.toLower
    · exact hstays
    · omega

theorem isSpace_toLower (c : Char) : text.isSpace c.toLower = text.isSpace c := by
  obtain hsame | ⟨hlow, hhigh, hmoved⟩ := toLower_cases c
  · rw [hsame]
  · rw [isSpace_letter (by omega) (by omega), isSpace_letter hlow (by omega)]

theorem trim_map {f : Char → Char} (hspace : ∀ c, text.isSpace (f c) = text.isSpace c) (s : String) :
    text.trim (.ofList (s.toList.map f)) = .ofList ((text.trim s).toList.map f) := by
  have hcomp : text.isSpace ∘ f = text.isSpace := funext hspace
  apply String.toList_injective
  simp only [text.trim, String.toList_ofList, List.dropWhile_map, hcomp, ← List.map_reverse]

/-- A host for ASCII texts that parses no body. -/
def asciiHost : JavaScriptHost where
  parseJson _ := none
  toLowerCase s := .ofList (s.toList.map Char.toLower)
  toUpperCase s := .ofList (s.toList.map Char.toUpper)
  lower_lower s := by
    have hagain : Char.toLower ∘ Char.toLower = Char.toLower := funext toLower_toLower
    rw [trim_map isSpace_toLower, text.trim_trim, String.toList_ofList, List.map_map, hagain]
  lower_ascii _ _ := rfl
  upper_ascii _ _ := rfl

end ascii

end revit_operator.revit_action_effect
