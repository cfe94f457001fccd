import RevitOperator.RevitActionEffect.RouteEffect

/-! How the entry points of the classifier agree: the effect of a request, its
    certified effect, its effect once the body is lost, and whether it writes. -/

namespace revit_operator.revit_action_effect

variable {host : JavaScriptHost} {pathname normalized fallback : String} {method : Option String}
  {body : Option Json} {row : Json} {effect : RevitActionEffect}

theorem ascii_of_all {word : String} (h : word.toList.all (fun c => c.toNat < 128) = true) :
    ∀ c ∈ word.toList, c.toNat < 128 := by
  simpa using h

variable (host) in
theorem alias_canonical (h : REVIT_ACTION_PATH_ALIASES.lookup normalized = some pathname) :
    host.toLowerCase (text.trim pathname) = pathname ∧ REVIT_ACTION_PATH_ALIASES.lookup pathname = none := by
  have hmem : pathname ∈ ["/revit/views", "/revit/sheets", "/revit/schedules", "/revit/query", "/revit/delete",
      "/revit/set-parameter"] := by
    simp only [REVIT_ACTION_PATH_ALIASES, List.lookup_cons, List.lookup_nil] at h
    repeat' split at h
    all_goals cases h <;> decide
  have hplain : ∀ path ∈ ["/revit/views", "/revit/sheets", "/revit/schedules", "/revit/query", "/revit/delete",
      "/revit/set-parameter"], (text.trim path).toList.all (fun c => c.toNat < 128) = true ∧
        String.ofList ((text.trim path).toList.map Char.toLower) = path ∧
        REVIT_ACTION_PATH_ALIASES.lookup path = none := by
    decide +kernel
  obtain ⟨hascii, hlower, hlookup⟩ := hplain pathname hmem
  exact ⟨(host.lower_ascii _ (ascii_of_all hascii)).trans hlower, hlookup⟩

@[simp] theorem canonicalRevitActionPath_canonical :
    canonicalRevitActionPath host (canonicalRevitActionPath host pathname) =
      canonicalRevitActionPath host pathname := by
  cases hlookup : REVIT_ACTION_PATH_ALIASES.lookup (host.toLowerCase (text.trim pathname)) with
  | none => simp [canonicalRevitActionPath, hlookup, host.lower_lower]
  | some path =>
    obtain ⟨hlower, hnone⟩ := alias_canonical host hlookup
    simp [canonicalRevitActionPath, hlookup, hlower, hnone]

theorem genericConditionalIntentEffect_empty : genericConditionalIntentEffect host (.obj []) = none := by
  have hlower : host.toLowerCase (text.trim "") = "" := by
    rw [show text.trim "" = "" from rfl, host.lower_ascii "" (by simp)]
    rfl
  simp [genericConditionalIntentEffect, textMember?, flagged, Json.member?, Json.members, Json.field, Json.isBool,
    bodyRecord, hlower]

variable (host row) in
theorem genericConditionalIntentEffect_ne_read : genericConditionalIntentEffect host row ≠ some .read := by
  unfold genericConditionalIntentEffect
  dsimp only
  split_ifs <;> simp

private theorem ite_some_eq_none {α : Type} {p : Prop} [Decidable p] {a : α} {rest : Option α} :
    (if p then some a else rest) = none ↔ ¬ p ∧ rest = none := by
  by_cases hp : p <;> simp [hp]

private theorem ite_some_eq_some {α : Type} {p : Prop} [Decidable p] {a b : α} {rest : Option α} :
    (if p then some a else rest) = some b ↔ p ∧ a = b ∨ ¬ p ∧ rest = some b := by
  by_cases hp : p <;> simp [hp]

theorem explicit_eq_none (row' : Json) (h : explicitConditionalActionPathEffect host normalized row = none) :
    explicitConditionalActionPathEffect host normalized row' = none := by
  simp only [explicitConditionalActionPathEffect, ite_some_eq_none] at h ⊢
  exact h

section emptyRequest

@[simp] theorem member?_empty (key : String) : (Json.obj []).member? key = none := rfl

@[simp] theorem flagged_empty (key : String) (value : Bool) : flagged (.obj []) key value = false := by
  cases value <;> rfl

@[simp] theorem previewOnly_empty : previewOnly host (.obj []) = .apply := by
  simp [previewOnly, genericConditionalIntentEffect_empty]

@[simp] theorem previewWhen_empty : previewWhen host (.obj []) false = .apply := by
  simp [previewWhen, genericConditionalIntentEffect_empty]

theorem chosen_empty (key : String) : chosen host (.obj []) key fallback = fallback := rfl

theorem projectParametersEffect_empty : projectParametersEffect host (.obj []) = .read := by
  simp [projectParametersEffect, Json.isText, Json.onlyKeys, Json.members, isParameterQuery]

theorem visibilityEffect_empty : visibilityEffect host (.obj []) = .read := by
  simp [visibilityEffect, chosen_empty]

theorem listElementTypesEffect_empty : listElementTypesEffect host (.obj []) = .read := by
  simp [listElementTypesEffect, chosen_empty]

theorem createTextEffect_empty : createTextEffect host (.obj []) = .apply := by
  simp [createTextEffect, chosen_empty]

end emptyRequest

theorem explicit_empty_eq_preview (h : explicitConditionalActionPathEffect host normalized (.obj []) = some .preview) :
    normalized = "/revit/assign-electrical-circuit" ∨ normalized = "/revit/print" ∨
      normalized = "/revit/transaction-plan" := by
  have hdry : (coalesce (.obj []) ["dryRun"]).isBool true = false := rfl
  have hpdf : (coalesce (.obj []) ["dryRun", "preflightOnly", "preflight"]).isBool true = false := rfl
  simp only [explicitConditionalActionPathEffect, ite_some_eq_some, projectParametersEffect_empty, flagged_empty,
    previewWhen_empty, apply_ite (Json.isBool · true), hdry, hpdf, ite_self, genericConditionalIntentEffect_empty,
    visibilityEffect_empty, previewOnly_empty, textMember?, member?_empty, Option.bind_none, Option.any_none,
    Bool.or_self, Bool.false_eq_true, if_false, listElementTypesEffect_empty, createTextEffect_empty, reduceCtorEq,
    and_false, and_true, false_or, or_false] at h
  tauto

/-- A parameter request whose body is no object. -/
def MalformedParameters (host : JavaScriptHost) (pathname : String) (body : Option Json) : Prop :=
  canonicalRevitActionPath host pathname = "/revit/project-parameters" ∧ ¬ carriesObject host body

/-- A request whose rule only reads, or a listed read without a rule. -/
def ReadsOnly (host : JavaScriptHost) (pathname : String) (body : Option Json) : Prop :=
  let normalized := canonicalRevitActionPath host pathname
  let explicit := explicitConditionalActionPathEffect host normalized (bodyRecord host body)
  ¬ MalformedParameters host pathname body ∧
    (explicit = some .read ∨ explicit = none ∧ normalized ∈ READ_ONLY_PATHS)

section post

/-- The effect of a `POST` request. -/
def postEffect (host : JavaScriptHost) (pathname : String) (body : Option Json) : RevitActionEffect :=
  let normalized := canonicalRevitActionPath host pathname
  (conditionalActionPathEffect host normalized body).getD (listedEffect normalized)

theorem postEffect_malformed (h : MalformedParameters host pathname body) : postEffect host pathname body = .apply := by
  have hguard : canonicalRevitActionPath host pathname = "/revit/project-parameters" ∧ ¬ carriesObject host body := h
  simp only [postEffect, conditionalActionPathEffect, canonicalRevitActionPath_canonical]
  rw [if_pos hguard, Option.getD_some]

theorem postEffect_explicit (hbody : ¬ MalformedParameters host pathname body)
    (h : explicitConditionalActionPathEffect host (canonicalRevitActionPath host pathname) (bodyRecord host body) =
      some effect) :
    postEffect host pathname body = effect := by
  have hguard : ¬ (canonicalRevitActionPath host pathname = "/revit/project-parameters" ∧ ¬ carriesObject host body) :=
    hbody
  simp only [postEffect, conditionalActionPathEffect, canonicalRevitActionPath_canonical, hguard, if_false, h,
    Option.getD_some]

/-- Without a rule the listed effect bounds the effect, and only a listed read
    reads. -/
theorem postEffect_listed (hbody : ¬ MalformedParameters host pathname body)
    (h : explicitConditionalActionPathEffect host (canonicalRevitActionPath host pathname) (bodyRecord host body) =
      none) :
    postEffect host pathname body ≤ listedEffect (canonicalRevitActionPath host pathname) ∧
      (postEffect host pathname body = .read ↔ canonicalRevitActionPath host pathname ∈ READ_ONLY_PATHS) := by
  have hguard : ¬ (canonicalRevitActionPath host pathname = "/revit/project-parameters" ∧ ¬ carriesObject host body) :=
    hbody
  have hgeneric := genericConditionalIntentEffect_ne_read host (bodyRecord host body)
  simp only [postEffect, conditionalActionPathEffect, canonicalRevitActionPath_canonical, hguard, if_false, h,
    listedEffect]
  by_cases hread : canonicalRevitActionPath host pathname ∈ READ_ONLY_PATHS
  · simp [hread]
  · cases hintent : genericConditionalIntentEffect host (bodyRecord host body) with
    | none => simp [hread]
    | some intent =>
      have hintended : intent ≠ .read := fun hintended => hgeneric (hintended ▸ hintent)
      by_cases hroute : text.startsWith (canonicalRevitActionPath host pathname) "/revit/" = true
      · simp [hread, hroute, hintended, RevitActionEffect.le_apply]
      · simp [hread, hroute]

theorem postEffect_eq_read : postEffect host pathname body = .read ↔ ReadsOnly host pathname body := by
  by_cases hbody : MalformedParameters host pathname body
  · simp [postEffect_malformed hbody, ReadsOnly, hbody]
  · cases hexplicit : explicitConditionalActionPathEffect host (canonicalRevitActionPath host pathname)
      (bodyRecord host body) with
    | none => simp [(postEffect_listed hbody hexplicit).2, ReadsOnly, hbody, hexplicit]
    | some effect => simp [postEffect_explicit hbody hexplicit, ReadsOnly, hbody, hexplicit]

end post

theorem revitRouteEffect_eq : revitRouteEffect host pathname method body =
    if isReadMethod (normalizedMethod host "GET" method) then .read
    else if normalizedMethod host "GET" method ≠ "POST" then .apply
    else postEffect host pathname body := rfl

section recovery

/-- What a `POST` request is taken for once its body is lost. -/
def bodilessEffect (host : JavaScriptHost) (pathname : String) : RevitActionEffect :=
  revitRouteEffectWhenBodyUnavailable host pathname (some "POST")

theorem normalizedMethod_post : normalizedMethod host fallback (some "POST") = "POST" := by
  have hupper : host.toUpperCase (text.trim "POST") = "POST" := by
    rw [host.upper_ascii _ (ascii_of_all rfl)]
    rfl
  exact hupper

theorem revitRouteEffectWhenBodyUnavailable_eq : revitRouteEffectWhenBodyUnavailable host pathname method =
    if isReadMethod (normalizedMethod host "GET" method) then .read
    else if normalizedMethod host "GET" method ≠ "POST" then .apply
    else bodilessEffect host pathname := by
  simp only [bodilessEffect, revitRouteEffectWhenBodyUnavailable, normalizedMethod_post]
  rfl

theorem bodilessEffect_eq : bodilessEffect host pathname =
    match explicitConditionalActionPathEffect host (canonicalRevitActionPath host pathname) (.obj []) with
    | some .preview => .preview
    | some _ => .apply
    | none => listedEffect (canonicalRevitActionPath host pathname) := by
  simp only [bodilessEffect, revitRouteEffectWhenBodyUnavailable, normalizedMethod_post]
  rfl

/-- The requests that apply behind a rule that previews an empty request. -/
def AppliesBehindPreview (host : JavaScriptHost) (pathname : String) (body : Option Json) : Prop :=
  let normalized := canonicalRevitActionPath host pathname
  normalized = "/revit/assign-electrical-circuit" ∧ flagged (bodyRecord host body) "dryRun" false ∨
    normalized = "/revit/print" ∧ genericConditionalIntentEffect host (bodyRecord host body) = some .apply

variable (host row) in
theorem explicit_assign : explicitConditionalActionPathEffect host "/revit/assign-electrical-circuit" row =
    some (if flagged row "dryRun" false then .apply else .preview) := by
  simp [explicitConditionalActionPathEffect]

variable (host row) in
theorem explicit_print : explicitConditionalActionPathEffect host "/revit/print" row =
    some (if genericConditionalIntentEffect host row = some .apply then .apply else .preview) := by
  simp [explicitConditionalActionPathEffect, ARTIFACT_PUBLICATION_PATHS]

variable (host row) in
theorem explicit_transactionPlan : explicitConditionalActionPathEffect host "/revit/transaction-plan" row =
    some .preview := by
  simp [explicitConditionalActionPathEffect, ARTIFACT_PUBLICATION_PATHS]

theorem not_malformed_of_ne (h : canonicalRevitActionPath host pathname ≠ "/revit/project-parameters") :
    ¬ MalformedParameters host pathname body := fun hmalformed => h hmalformed.1

/-- A lost body hides an effect exactly behind a rule that previews an empty
    request. -/
theorem postEffect_le_bodilessEffect :
    postEffect host pathname body ≤ bodilessEffect host pathname ↔ ¬ AppliesBehindPreview host pathname body := by
  rw [bodilessEffect_eq]
  cases hempty : explicitConditionalActionPathEffect host (canonicalRevitActionPath host pathname) (.obj []) with
  | none =>
    have hpath : ∀ path, explicitConditionalActionPathEffect host path (.obj []) ≠ none →
        canonicalRevitActionPath host pathname ≠ path := fun path hrule hpath => hrule (hpath ▸ hempty)
    have hassign := hpath "/revit/assign-electrical-circuit" (by simp [explicit_assign])
    have hprint := hpath "/revit/print" (by simp [explicit_print])
    have hparameters := hpath "/revit/project-parameters" (by simp [explicitConditionalActionPathEffect])
    have hlisted : postEffect host pathname body ≤ listedEffect (canonicalRevitActionPath host pathname) :=
      (postEffect_listed (not_malformed_of_ne hparameters) (explicit_eq_none _ hempty)).1
    simp [hlisted, AppliesBehindPreview, hassign, hprint]
  | some effect =>
    by_cases hpreview : effect = .preview
    · subst hpreview
      obtain hpath | hpath | hpath := explicit_empty_eq_preview hempty
      all_goals
        have hbody : ¬ MalformedParameters host pathname body := not_malformed_of_ne (by simp [hpath])
      · have hrule := explicit_assign host (bodyRecord host body)
        rw [← hpath] at hrule
        rw [postEffect_explicit hbody hrule]
        by_cases hdry : flagged (bodyRecord host body) "dryRun" false = true <;>
          simp [AppliesBehindPreview, hpath, hdry, RevitActionEffect.not_apply_le_preview]
      · have hrule := explicit_print host (bodyRecord host body)
        rw [← hpath] at hrule
        rw [postEffect_explicit hbody hrule]
        by_cases hintent : genericConditionalIntentEffect host (bodyRecord host body) = some .apply <;>
          simp [AppliesBehindPreview, hpath, hintent, RevitActionEffect.not_apply_le_preview]
      · have hrule := explicit_transactionPlan host (bodyRecord host body)
        rw [← hpath] at hrule
        rw [postEffect_explicit hbody hrule]
        simp [AppliesBehindPreview, hpath]
    · have hassign : canonicalRevitActionPath host pathname ≠ "/revit/assign-electrical-circuit" := by
        intro hpath
        rw [hpath, explicit_assign] at hempty
        simp_all
      have hprint : canonicalRevitActionPath host pathname ≠ "/revit/print" := by
        intro hpath
        rw [hpath, explicit_print] at hempty
        simp_all [genericConditionalIntentEffect_empty]
      simp [RevitActionEffect.le_apply, AppliesBehindPreview, hassign, hprint]

/-- Losing the body lowers the effect of a request exactly when a `POST` to the
    circuit assignment or the printer asks to apply: their rules preview an
    empty request and are kept for a lost one. -/
theorem recovery_conservative_iff (host : JavaScriptHost) (pathname : String) (method : Option String)
    (body : Option Json) :
    revitRouteEffect host pathname method body ≤ revitRouteEffectWhenBodyUnavailable host pathname method ↔
      ¬ (normalizedMethod host "GET" method = "POST" ∧ AppliesBehindPreview host pathname body) := by
  rw [revitRouteEffect_eq, revitRouteEffectWhenBodyUnavailable_eq]
  by_cases hread : isReadMethod (normalizedMethod host "GET" method) = true
  · have hpost : normalizedMethod host "GET" method ≠ "POST" := by
      intro hpost
      rw [hpost] at hread
      exact absurd hread (by decide)
    simp [hread, hpost]
  · by_cases hpost : normalizedMethod host "GET" method = "POST"
    · have hpostRead : isReadMethod "POST" = false := by decide
      simp [hpost, hpostRead, postEffect_le_bodilessEffect]
    · simp [hread, hpost]

/-- A print job that commits is recovered as a preview. -/
theorem committed_print_recovered_as_preview :
    ¬ revitRouteEffect asciiHost "/revit/print" (some "POST") (some (.obj [("commit", .bool true)])) ≤
      revitRouteEffectWhenBodyUnavailable asciiHost "/revit/print" (some "POST") := by
  decide +kernel

end recovery

section agreement

/-- No method, or the empty one. -/
def Unnamed (method : Option String) : Prop := method.filter (fun name => name ≠ "") = none

theorem normalizedMethod_named (h : ¬ Unnamed method) (other : String) :
    normalizedMethod host fallback method = normalizedMethod host other method := by
  obtain ⟨name, hname⟩ := Option.ne_none_iff_exists'.1 h
  simp only [normalizedMethod, hname, Option.getD_some]

variable (host) in
theorem normalizedMethod_unnamed (h : Unnamed method) :
    normalizedMethod host "GET" method = "GET" ∧ normalizedMethod host "POST" method = "POST" := by
  have hget : host.toUpperCase (text.trim "GET") = "GET" := by
    rw [host.upper_ascii _ (ascii_of_all rfl)]
    rfl
  have hpost : host.toUpperCase (text.trim "POST") = "POST" := by
    rw [host.upper_ascii _ (ascii_of_all rfl)]
    rfl
  have hnone : method.filter (fun name => name ≠ "") = none := h
  simp only [normalizedMethod, hnone, Option.getD_none]
  exact ⟨hget, hpost⟩

theorem pathLooksWrite_eq (hroute : text.startsWith (canonicalRevitActionPath host pathname) "/revit/" = true) :
    pathLooksWrite host pathname body method =
      if isReadMethod (normalizedMethod host "POST" method) then false
      else if normalizedMethod host "POST" method ≠ "POST" then true
      else decide (postEffect host pathname body ≠ .read) := by
  unfold pathLooksWrite
  dsimp only
  split
  · rfl
  split
  · rfl
  cases hconditional : conditionalActionPathEffect host (canonicalRevitActionPath host pathname) body with
  | some effect =>
    have hpost : postEffect host pathname body = effect := by simp [postEffect, hconditional]
    rw [hpost]
  | none =>
    have hpost : postEffect host pathname body = listedEffect (canonicalRevitActionPath host pathname) := by
      simp [postEffect, hconditional]
    rw [hpost]
    by_cases hread : canonicalRevitActionPath host pathname ∈ READ_ONLY_PATHS <;>
      simp [hroute, hread, listedEffect]

theorem bodyRecord_of_no_object (h : ¬ carriesObject host body) : bodyRecord host body = .obj [] := by
  match body, h with
  | none, _ => rfl
  | some (.str body), h =>
    by_cases hblank : text.nonBlank body = true
    · have hrow : ((host.parseJson body).getD .null).row = .obj [] := by
        cases hparsed : host.parseJson body with
        | none => rfl
        | some parsed =>
          have hobject : parsed.isObject = false := by simpa [carriesObject, hparsed] using h
          cases parsed <;> first | rfl | cases hobject
      simp [bodyRecord, hblank, hrow]
    · simp [bodyRecord, hblank]
  | some (.obj _), h => exact absurd rfl h
  | some .null, _ | some (.bool _), _ | some (.num _), _ | some (.arr _), _ => rfl

/-- Certification falls below the effect of a `POST` exactly for a parameter
    request without an object. -/
theorem postEffect_le_certified :
    postEffect host pathname body ≤ (explicitConditionalActionPathEffect host (canonicalRevitActionPath host pathname)
      (bodyRecord host body)).getD (listedEffect (canonicalRevitActionPath host pathname)) ↔
      ¬ MalformedParameters host pathname body := by
  by_cases hbody : MalformedParameters host pathname body
  · have hempty : bodyRecord host body = .obj [] := bodyRecord_of_no_object hbody.2
    have hrule : explicitConditionalActionPathEffect host "/revit/project-parameters" (.obj []) = some .read := by
      simp [explicitConditionalActionPathEffect, projectParametersEffect_empty]
    simp [postEffect_malformed hbody, hempty, hbody.1, hrule, hbody, RevitActionEffect.not_apply_le_read]
  · cases hexplicit : explicitConditionalActionPathEffect host (canonicalRevitActionPath host pathname)
      (bodyRecord host body) with
    | none => simp [(postEffect_listed hbody hexplicit).1, hbody]
    | some effect => simp [postEffect_explicit hbody hexplicit, hbody]

/-- The classifiers of one request agree exactly when it is no parameter request
    without an object, which certification takes for an empty list request, and
    when it names a method or only reads: without one `pathLooksWrite` assumes a
    `POST` and `revitRouteEffect` a `GET`. -/
theorem classifiers_agree_iff (host : JavaScriptHost) (pathname : String) (method : Option String)
    (body : Option Json) :
    (revitRouteEffect host pathname method body ≤ revitRouteCertificationEffect host pathname method body ∧
      (text.startsWith (canonicalRevitActionPath host pathname) "/revit/" = true →
        (pathLooksWrite host pathname body method = true ↔ revitRouteEffect host pathname method body ≠ .read))) ↔
      ¬ (normalizedMethod host "GET" method = "POST" ∧ MalformedParameters host pathname body) ∧
        ¬ (Unnamed method ∧ text.startsWith (canonicalRevitActionPath host pathname) "/revit/" = true ∧
          ¬ ReadsOnly host pathname body) := by
  refine and_congr ?_ ?_
  · rw [revitRouteEffect_eq]
    unfold revitRouteCertificationEffect
    by_cases hpost : normalizedMethod host "GET" method = "POST"
    · have hpostRead : isReadMethod "POST" = false := by decide
      simp [hpost, hpostRead, postEffect_le_certified]
    · simp [hpost]
  · rw [revitRouteEffect_eq]
    by_cases hroute : text.startsWith (canonicalRevitActionPath host pathname) "/revit/" = true
    · rw [pathLooksWrite_eq hroute]
      by_cases hunnamed : Unnamed method
      · obtain ⟨hget, hpost⟩ := normalizedMethod_unnamed host hunnamed
        have hgetRead : isReadMethod "GET" = true := by decide
        have hpostRead : isReadMethod "POST" = false := by decide
        simp [hget, hpost, hgetRead, hpostRead, hroute, hunnamed, postEffect_eq_read]
      · rw [normalizedMethod_named hunnamed "GET"]
        by_cases hread : isReadMethod (normalizedMethod host "GET" method) = true
        · simp [hread, hunnamed]
        · by_cases hpost : normalizedMethod host "GET" method = "POST"
          · have hpostRead : isReadMethod "POST" = false := by decide
            simp [hpost, hpostRead, hunnamed]
          · simp [hread, hpost, hunnamed]
    · simp [hroute]

/-- Text that is no JSON is certified as a read of the parameter list. -/
theorem malformed_parameters_certified_as_read :
    ¬ revitRouteEffect asciiHost "/revit/project-parameters" (some "POST") (some (.str "\x7b")) ≤
      revitRouteCertificationEffect asciiHost "/revit/project-parameters" (some "POST") (some (.str "\x7b")) := by
  decide +kernel

end agreement

end revit_operator.revit_action_effect
