import RevitOperator.Library.ParsedJson
import RevitOperator.Library.Record
import RevitOperator.Library.Checked
import Mathlib.Data.Nat.Cast.Order.Ring

open checked

/-! The postconditions of a task, evaluated on trusted facts, and the observation deltas that
    bind expanded facts to the snapshot they extend. -/

namespace revit_operator.mcp_server

/-- What the coordinator of dynamic code sessions takes from its runtime. -/
structure SessionHost where
  numbers : Json.NumberText
  /-- The hexadecimal digest of the UTF-8 bytes of a text. -/
  sha256Hex : String → String

/-- `HASH` -/
def isHash (value : String) : Bool := text.startsWith value "sha256:" && text.isHexText 64 (text.dropFirst 7 value)

/-- `ID` -/
def isId (value : String) : Bool := text.isStableIdentity 159 value

def SessionHost.sha256 (host : SessionHost) (value : String) : String := "sha256:" ++ host.sha256Hex value

/-- The hash of `JSON.stringify(value)`. -/
def SessionHost.jsonSha256 (host : SessionHost) (value : Json) : String :=
  host.sha256 (Json.stringify host.numbers value)

def requireHash (value name : String) : Except String Unit := require (isHash value = true) (name ++ " hash is invalid.")

def requireExactKeys (actual expected : List String) (name : String) : Except String Unit :=
  require (text.sorted actual = text.sorted expected) (name ++ " has an invalid exact shape.")

def strings (values : List String) : Json := .arr (values.map .str)

def canonicalSet (values : List String) : Except String (List String) := do
  require (values.length ≤ 4096 ∧ ∀ value ∈ values, 1 ≤ text.length value ∧ text.length value ≤ 256
    ∧ Char.ofNat 0 ∉ value.toList) "Bounded canonical set is invalid."
  let result := text.sortedUnique values
  require (result.length = values.length) "Canonical set contains duplicates."
  pure result

/-- The facts a verifier reports of an execution. `keys` are all the keys of the object. -/
structure TrustedTaskFactSet where
  keys : List String
  schema : String
  verifier_identity_sha256 : String
  execution_evidence_sha256 : String
  evidence_sha256 : String
  document_fingerprint : String
  document_session_id : String
  document_revision : Option ℚ
  fields : Record String
  sets : Record (List String)

/-- A revision is a safe integer that is not negative. -/
def isRevision (value : ℚ) : Bool := ((Json.num value).asSafeInt?.filter fun revision => 0 ≤ revision).isSome

def validateTrustedFacts (value : TrustedTaskFactSet) : Except String Unit := do
  require (value.schema = "revit-operator.trusted-task-facts.v1") "Trusted task facts schema is invalid."
  requireExactKeys value.keys ["document_fingerprint", "document_revision", "document_session_id", "evidence_sha256",
    "execution_evidence_sha256", "fields", "schema", "sets", "verifier_identity_sha256"] "trusted task facts"
  requireHash value.verifier_identity_sha256 "verifier"
  requireHash value.execution_evidence_sha256 "execution evidence"
  requireHash value.evidence_sha256 "evidence"
  requireHash value.document_fingerprint "document"
  require (isId value.document_session_id = true ∧ value.document_revision.all isRevision = true)
    "Trusted task document binding is invalid."
  require (value.fields.ids.length ≤ 256 ∧ value.sets.ids.length ≤ 256)
    "Trusted task facts exceed bounded field or set counts."
  forEach value.fields.entries fun entry => do
    require (isId entry.1 = true) "Trusted fact field is invalid."
    requireHash entry.2 "trusted fact"
  forEach value.sets.entries fun entry => do
    require (isId entry.1 = true) "Trusted fact set is invalid."
    let _ ← canonicalSet entry.2

inductive PostconditionKind where
  | field_hash_equals (expected_sha256 : String)
  | set_equals (expected : List String)
  | set_unchanged (baseline : List String)
  | count_between (minimum maximum : ℚ)
  | fact_absent

namespace PostconditionKind

def name : PostconditionKind → String
  | .field_hash_equals _ => "field_hash_equals"
  | .set_equals _ => "set_equals"
  | .set_unchanged _ => "set_unchanged"
  | .count_between _ _ => "count_between"
  | .fact_absent => "fact_absent"

/-- The members a postcondition of the kind has beside its identity. -/
def members : PostconditionKind → List (String × Json)
  | .field_hash_equals expected_sha256 => [("expected_sha256", .str expected_sha256)]
  | .set_equals expected => [("expected", strings expected)]
  | .set_unchanged baseline => [("baseline", strings baseline)]
  | .count_between minimum maximum => [("maximum", .num maximum), ("minimum", .num minimum)]
  | .fact_absent => []

/-- What the postcondition is called when its shape is wrong. -/
def shape : PostconditionKind → String
  | .field_hash_equals _ => "field-hash postcondition"
  | .set_equals _ => "set postcondition"
  | .set_unchanged _ => "set postcondition"
  | .count_between _ _ => "count postcondition"
  | .fact_absent => "absent-fact postcondition"

/-- The checks of a kind; a set is put in its canonical order. -/
def normalized : PostconditionKind → Except String PostconditionKind
  | .field_hash_equals expected_sha256 => do
    requireHash expected_sha256 "postcondition expected hash"
    pure (.field_hash_equals expected_sha256)
  | .set_equals expected => do
    let values ← canonicalSet expected
    pure (.set_equals values)
  | .set_unchanged baseline => do
    let values ← canonicalSet baseline
    pure (.set_unchanged values)
  | .count_between minimum maximum => do
    require (isRevision minimum = true ∧ (Json.num maximum).asSafeInt?.isSome = true ∧ minimum ≤ maximum ∧ maximum ≤ 50000)
      "Task postcondition count bound is invalid."
    pure (.count_between minimum maximum)
  | .fact_absent => pure .fact_absent

end PostconditionKind

/-- A postcondition. `keys` are all the keys of the object, in their order. -/
structure DynamicTaskPostcondition where
  keys : List String
  id : String
  field : String
  kind : PostconditionKind

namespace DynamicTaskPostcondition

def members (condition : DynamicTaskPostcondition) : List (String × Json) :=
  condition.kind.members ++ [("field", .str condition.field), ("id", .str condition.id), ("kind", .str condition.kind.name)]

def toJson (condition : DynamicTaskPostcondition) : Json :=
  .obj (condition.keys.filterMap fun key => condition.members.find? fun entry => entry.1 = key)

/-- A postcondition is checked after the ones with the identities in `ids`. -/
def normalized (ids : List String) (condition : DynamicTaskPostcondition) : Except String DynamicTaskPostcondition := do
  require (isId condition.id = true ∧ condition.id ∉ ids ∧ isId condition.field = true)
    "Task postcondition identity is invalid or duplicated."
  requireExactKeys condition.keys (condition.members.map Prod.fst) condition.kind.shape
  let kind ← condition.kind.normalized
  pure { condition with kind }

end DynamicTaskPostcondition

def normalizeConditions (ids : List String) :
    List DynamicTaskPostcondition → Except String (List DynamicTaskPostcondition)
  | [] => pure []
  | condition :: rest => do
    let first ← condition.normalized ids
    let others ← normalizeConditions (ids ++ [condition.id]) rest
    pure (first :: others)

/-- The functions every object inherits under a name that is an identity, and how many
    parameters each declares. -/
def inheritedFunctions : List (String × Nat) :=
  [("constructor", 1), ("hasOwnProperty", 1), ("isPrototypeOf", 1), ("propertyIsEnumerable", 1), ("toLocaleString", 0),
    ("toString", 0), ("valueOf", 0)]

/-- What a member access of a record finds. -/
inductive Looked (α : Type) where
  | own (value : α)
  | inherited (length : Nat)
  | undefined

/-- `record[key]` -/
def lookUp {α : Type} (record : Record α) (key : String) : Looked α :=
  match record.get? key with
  | some value => .own value
  | none =>
    match inheritedFunctions.find? fun entry => entry.1 = key with
    | some entry => .inherited entry.2
    | none => .undefined

/-- A function has no JSON text, and what has no text has no hash. -/
def notHashed : String := "The \"data\" argument must be of type string or an instance of Buffer, TypedArray, or DataView."

/-- The set a member access finds, as far as it is one. -/
def canonicalLooked : Looked (List String) → Except String (List String)
  | .own values => canonicalSet values
  | .inherited _ => .error "Bounded canonical set is invalid."
  | .undefined => canonicalSet []

/-- The length of what a member access finds, and of the empty list where it finds nothing. -/
def lookedLength : Looked (List String) → Nat
  | .own values => values.length
  | .inherited length => length
  | .undefined => 0

/-- What the facts show for a postcondition, and whether it passes. -/
def observedFact (facts : TrustedTaskFactSet) (condition : DynamicTaskPostcondition) : Except String (Json × Bool) :=
  match condition.kind with
  | .field_hash_equals expected_sha256 =>
    match lookUp facts.fields condition.field with
    | .own value => pure (.str value, value = expected_sha256)
    | .inherited _ => .error notHashed
    | .undefined => pure (.null, false)
  | .set_equals expected => observedSet expected
  | .set_unchanged baseline => observedSet baseline
  | .count_between minimum maximum =>
    let count := lookedLength (lookUp facts.sets condition.field)
    pure (.num count, minimum ≤ (count : ℚ) ∧ (count : ℚ) ≤ maximum)
  | .fact_absent =>
    match lookUp facts.fields condition.field, lookUp facts.sets condition.field with
    | .own value, _ => pure (.str value, false)
    | .undefined, .own values => pure (strings values, false)
    | .undefined, .undefined => pure (.null, true)
    | _, _ => .error notHashed
where
  observedSet (wanted : List String) : Except String (Json × Bool) := do
    let values ← canonicalLooked (lookUp facts.sets condition.field)
    pure (strings values, values = wanted)

structure PostconditionResult where
  id : String
  passed : Bool
  observed_sha256 : String

def PostconditionResult.toJson (result : PostconditionResult) : Json :=
  .obj [("id", .str result.id), ("passed", .bool result.passed), ("observed_sha256", .str result.observed_sha256)]

structure TrustedTaskPostconditionReceipt where
  postcondition_set_sha256 : String
  document_fingerprint : String
  document_session_id : String
  results : List PostconditionResult
  all_passed : Bool
  receipt_sha256 : String

variable (host : SessionHost)

def evaluateTrustedTaskPostconditions (facts : TrustedTaskFactSet) (conditions : List DynamicTaskPostcondition) :
    Except String TrustedTaskPostconditionReceipt := do
  validateTrustedFacts facts
  require (1 ≤ conditions.length ∧ conditions.length ≤ 128) "Task postconditions must be a bounded non-empty list."
  let normalized ← normalizeConditions [] conditions
  let postcondition_set_sha256 := host.jsonSha256 (.arr (normalized.map DynamicTaskPostcondition.toJson))
  let results ← normalized.mapM fun condition => do
    let observed ← observedFact facts condition
    pure { id := condition.id, passed := observed.2, observed_sha256 := host.jsonSha256 observed.1 }
  let all_passed := results.all fun result => result.passed
  let unsigned := Json.obj [("schema", .str "revit-operator.trusted-task-postconditions.v1"),
    ("postcondition_set_sha256", .str postcondition_set_sha256),
    ("verifier_identity_sha256", .str facts.verifier_identity_sha256),
    ("execution_evidence_sha256", .str facts.execution_evidence_sha256), ("evidence_sha256", .str facts.evidence_sha256),
    ("document_fingerprint", .str facts.document_fingerprint), ("document_session_id", .str facts.document_session_id),
    ("document_revision", (facts.document_revision.map Json.num).getD .null),
    ("results", .arr (results.map PostconditionResult.toJson)), ("all_passed", .bool all_passed),
    ("authorization_granted", .bool false)]
  pure {
    postcondition_set_sha256
    document_fingerprint := facts.document_fingerprint
    document_session_id := facts.document_session_id
    results
    all_passed
    receipt_sha256 := host.jsonSha256 unsigned }

/-- The facts meet a postcondition: about the facts recorded, whatever else an object has. -/
def Satisfies (facts : TrustedTaskFactSet) (condition : DynamicTaskPostcondition) : Prop :=
  let recorded := (facts.sets.get? condition.field).getD []
  match condition.kind with
  | .field_hash_equals expected_sha256 => facts.fields.get? condition.field = some expected_sha256
  | .set_equals expected => recorded.Perm expected
  | .set_unchanged baseline => recorded.Perm baseline
  | .count_between minimum maximum => minimum ≤ (recorded.length : ℚ) ∧ (recorded.length : ℚ) ≤ maximum
  | .fact_absent => facts.fields.get? condition.field = none ∧ facts.sets.get? condition.field = none

/-- No count is bounded below by one on a set that is not recorded and has the name of an
    inherited function with one parameter. -/
def CountsRecorded (facts : TrustedTaskFactSet) (condition : DynamicTaskPostcondition) : Prop :=
  ∀ maximum, condition.kind = .count_between 1 maximum → ∀ length, lookUp facts.sets condition.field ≠ .inherited (length + 1)

section evaluation

variable {host : SessionHost} {facts : TrustedTaskFactSet} {condition normalized : DynamicTaskPostcondition}

theorem canonicalSet_perm {values result : List String} (h : canonicalSet values = .ok result) : result.Perm values := by
  obtain ⟨-, h⟩ := check_bind_eq_ok.1 h
  obtain ⟨hlength, h⟩ := check_bind_eq_ok.1 h
  obtain rfl := pure_eq_ok.1 h
  have hsorted : (text.sortedUnique values).Perm values.dedup := text.sorted_perm _
  have hall : values.dedup = values :=
    (List.dedup_sublist values).eq_of_length (hsorted.length_eq.symm.trans (require_eq_ok.1 hlength))
  exact hsorted.trans (.of_eq hall)

theorem normalized_eq_ok {ids : List String} (h : condition.normalized ids = .ok normalized) :
    normalized.field = condition.field ∧ condition.kind.normalized = .ok normalized.kind := by
  obtain ⟨-, h⟩ := check_bind_eq_ok.1 h
  obtain ⟨-, h⟩ := check_bind_eq_ok.1 h
  obtain ⟨kind, hkind, h⟩ := bind_eq_ok.1 h
  obtain rfl := pure_eq_ok.1 h
  exact ⟨rfl, hkind⟩

theorem lookUp_cases {α : Type} (record : Record α) (key : String) :
    (∃ value, record.get? key = some value ∧ lookUp record key = .own value)
      ∨ (record.get? key = none ∧ ∃ length, lookUp record key = .inherited length)
      ∨ (record.get? key = none ∧ lookUp record key = .undefined) := by
  rw [lookUp]
  cases hown : record.get? key with
  | some value => exact .inl ⟨value, rfl, rfl⟩
  | none =>
    cases inheritedFunctions.find? fun entry => entry.1 = key with
    | some entry => exact .inr (.inl ⟨rfl, entry.2, rfl⟩)
    | none => exact .inr (.inr ⟨rfl, rfl⟩)

theorem inherited_length_le {α : Type} {record : Record α} {key : String} {length : Nat}
    (h : lookUp record key = .inherited length) : length ≤ 1 := by
  rw [lookUp] at h
  cases hown : record.get? key with
  | some value => simp [hown] at h
  | none =>
    cases hfound : inheritedFunctions.find? fun entry => entry.1 = key with
    | none => simp [hown, hfound] at h
    | some entry =>
      simp only [hown, hfound, Looked.inherited.injEq] at h
      have hall : ∀ entry ∈ inheritedFunctions, entry.2 ≤ 1 := by decide
      exact h ▸ hall entry (List.mem_of_find?_eq_some hfound)

private theorem observedSet_passed {wanted listed : List String} {observed : Json}
    (h : observedFact.observedSet facts condition wanted = .ok (observed, true)) (hlisted : canonicalSet listed = .ok wanted) :
    ((facts.sets.get? condition.field).getD []).Perm listed := by
  obtain ⟨values, hvalues, h⟩ := bind_eq_ok.1 h
  simp only [pure_eq_ok, Prod.mk.injEq, decide_eq_true_eq] at h
  obtain ⟨-, rfl⟩ := h
  have hperm := canonicalSet_perm hlisted
  rcases lookUp_cases facts.sets condition.field with ⟨own, hown, hlooked⟩ | ⟨hnone, length, hlooked⟩ | ⟨hnone, hlooked⟩
  · rw [hlooked] at hvalues
    rw [hown]
    exact (canonicalSet_perm hvalues).symm.trans hperm
  · rw [hlooked] at hvalues
    cases hvalues
  · rw [hlooked] at hvalues
    rw [hnone]
    exact (canonicalSet_perm hvalues).symm.trans hperm

theorem natural_of_isRevision {value : ℚ} (h : isRevision value = true) : ∃ n : ℕ, value = n := by
  obtain ⟨revision, hrevision⟩ := Option.isSome_iff_exists.1 h
  obtain ⟨hinteger, hpositive⟩ := Option.filter_eq_some_iff.1 hrevision
  rw [Json.asSafeInt?, Option.ite_none_right_eq_some] at hinteger
  obtain ⟨⟨hden, -⟩, hnum⟩ := hinteger
  obtain rfl := Option.some.inj hnum
  obtain ⟨n, hn⟩ := Int.eq_ofNat_of_zero_le (of_decide_eq_true hpositive)
  refine ⟨n, ?_⟩
  rw [← Rat.coe_int_num_of_den_eq_one hden, hn]
  rfl

theorem Satisfies.of_passed {ids : List String} {observed : Json} (hnormalized : condition.normalized ids = .ok normalized)
    (hpassed : observedFact facts normalized = .ok (observed, true)) (hcounts : CountsRecorded facts condition) :
    Satisfies facts condition := by
  obtain ⟨hfield, hkind⟩ := normalized_eq_ok hnormalized
  cases hcondition : condition.kind with
  | field_hash_equals expected_sha256 =>
    rw [hcondition] at hkind
    obtain ⟨-, hkind⟩ := check_bind_eq_ok.1 hkind
    have hsame := pure_eq_ok.1 hkind
    rw [observedFact, ← hsame, hfield] at hpassed
    simp only [Satisfies, hcondition]
    rcases lookUp_cases facts.fields condition.field with ⟨own, hown, hlooked⟩ | ⟨-, length, hlooked⟩ | ⟨-, hlooked⟩
    · simp only [hlooked, pure_eq_ok, Prod.mk.injEq, decide_eq_true_eq] at hpassed
      rw [hown, hpassed.2]
    · simp [hlooked] at hpassed
    · simp [hlooked, pure_eq_ok] at hpassed
  | set_equals expected =>
    rw [hcondition] at hkind
    obtain ⟨values, hvalues, hkind⟩ := bind_eq_ok.1 hkind
    rw [observedFact, ← pure_eq_ok.1 hkind] at hpassed
    have hperm := observedSet_passed hpassed hvalues
    rw [hfield] at hperm
    simpa only [Satisfies, hcondition] using hperm
  | set_unchanged baseline =>
    rw [hcondition] at hkind
    obtain ⟨values, hvalues, hkind⟩ := bind_eq_ok.1 hkind
    rw [observedFact, ← pure_eq_ok.1 hkind] at hpassed
    have hperm := observedSet_passed hpassed hvalues
    rw [hfield] at hperm
    simpa only [Satisfies, hcondition] using hperm
  | count_between minimum maximum =>
    rw [hcondition] at hkind
    obtain ⟨hbounds, hkind⟩ := check_bind_eq_ok.1 hkind
    rw [observedFact, ← pure_eq_ok.1 hkind, hfield] at hpassed
    simp only [pure_eq_ok, Prod.mk.injEq, decide_eq_true_eq] at hpassed
    simp only [Satisfies, hcondition]
    rcases lookUp_cases facts.sets condition.field with ⟨own, hown, hlooked⟩ | ⟨hnone, length, hlooked⟩ | ⟨hnone, hlooked⟩
    · rw [hlooked] at hpassed
      rw [hown]
      exact hpassed.2
    · -- an inherited function counts one or nothing: one passes a bound of zero, and a bound of one is excluded
      have hlength := inherited_length_le hlooked
      obtain ⟨least, rfl⟩ := natural_of_isRevision (require_eq_ok.1 hbounds).1
      rw [hlooked] at hpassed
      obtain ⟨-, hleast, hmost⟩ := hpassed
      rw [lookedLength, Nat.cast_le] at hleast
      have hzero : least = 0 := by
        by_contra hne
        obtain rfl : least = 1 := by omega
        obtain rfl : length = 0 + 1 := by omega
        exact hcounts maximum (by simpa using hcondition) 0 hlooked
      subst hzero
      rw [hnone]
      exact ⟨le_refl _, (Nat.cast_nonneg length).trans hmost⟩
    · rw [hlooked] at hpassed
      rw [hnone]
      exact hpassed.2
  | fact_absent =>
    rw [hcondition] at hkind
    rw [observedFact, ← pure_eq_ok.1 hkind, hfield] at hpassed
    simp only [Satisfies, hcondition]
    rcases lookUp_cases facts.fields condition.field with ⟨own, -, hlooked⟩ | ⟨-, length, hlooked⟩ | ⟨hnone, hlooked⟩
    · simp [hlooked, pure_eq_ok] at hpassed
    · simp [hlooked] at hpassed
    · rcases lookUp_cases facts.sets condition.field with ⟨own, -, hset⟩ | ⟨hempty, -⟩ | ⟨hempty, -⟩
      · simp [hlooked, hset, pure_eq_ok] at hpassed
      · exact ⟨hnone, hempty⟩
      · exact ⟨hnone, hempty⟩

theorem mem_normalizeConditions {conditions : List DynamicTaskPostcondition} {ids : List String}
    {normalized : List DynamicTaskPostcondition} (h : normalizeConditions ids conditions = .ok normalized) :
    ∀ condition ∈ conditions, ∃ earlier, ∃ own ∈ normalized, condition.normalized earlier = .ok own := by
  induction conditions generalizing ids normalized with
  | nil => exact List.forall_mem_nil _
  | cons first rest ih =>
    obtain ⟨own, hown, h⟩ := bind_eq_ok.1 h
    obtain ⟨others, hothers, h⟩ := bind_eq_ok.1 h
    obtain rfl := pure_eq_ok.1 h
    refine List.forall_mem_cons.2 ⟨⟨ids, own, List.mem_cons_self, hown⟩, fun condition hcondition => ?_⟩
    obtain ⟨earlier, found, hfound, hnormalized⟩ := ih hothers condition hcondition
    exact ⟨earlier, found, List.mem_cons_of_mem _ hfound, hnormalized⟩

theorem satisfies_of_all_passed {conditions : List DynamicTaskPostcondition} {receipt : TrustedTaskPostconditionReceipt}
    (h : evaluateTrustedTaskPostconditions host facts conditions = .ok receipt) (hpassed : receipt.all_passed = true)
    (hcounts : ∀ condition ∈ conditions, CountsRecorded facts condition) :
    conditions ≠ [] ∧ ∀ condition ∈ conditions, Satisfies facts condition := by
  obtain ⟨-, h⟩ := check_bind_eq_ok.1 h
  obtain ⟨hbounds, h⟩ := check_bind_eq_ok.1 h
  obtain ⟨normalized, hnormalized, h⟩ := bind_eq_ok.1 h
  obtain ⟨results, hresults, h⟩ := bind_eq_ok.1 h
  obtain rfl := pure_eq_ok.1 h
  refine ⟨List.length_pos_iff.1 (require_eq_ok.1 hbounds).1, fun condition hcondition => ?_⟩
  obtain ⟨earlier, own, hown, hsame⟩ := mem_normalizeConditions hnormalized condition hcondition
  obtain ⟨result, hresult, hobserved⟩ := exists_of_mapM_eq_ok hresults own hown
  obtain ⟨observed, hfact, hmade⟩ := bind_eq_ok.1 hobserved
  obtain rfl := pure_eq_ok.1 hmade
  have htrue : observed.2 = true := List.all_eq_true.1 hpassed _ hresult
  exact Satisfies.of_passed hsame (hfact.trans (by rw [← htrue])) (hcounts condition hcondition)

end evaluation

structure ObservationSelectorProjection where
  element_unique_ids : List String
  category_stable_ids : List String
  kinds : List String
  parameter_names : List String
  include_type_parameters : Bool

namespace ObservationSelectorProjection

def toJson (selector : ObservationSelectorProjection) : Json :=
  .obj [("element_unique_ids", strings selector.element_unique_ids),
    ("category_stable_ids", strings selector.category_stable_ids), ("kinds", strings selector.kinds),
    ("parameter_names", strings selector.parameter_names),
    ("include_type_parameters", .bool selector.include_type_parameters)]

end ObservationSelectorProjection

def normalizeSelector (value : ObservationSelectorProjection) : Except String ObservationSelectorProjection := do
  let element_unique_ids ← canonicalSet value.element_unique_ids
  let category_stable_ids ← canonicalSet value.category_stable_ids
  let kinds ← canonicalSet value.kinds
  let parameter_names ← canonicalSet value.parameter_names
  pure { value with element_unique_ids, category_stable_ids, kinds, parameter_names }

structure TrustedObservationBaseline where
  document_fingerprint : String
  document_session_id : String
  document_revision : ℚ
  snapshot_sha256 : String
  revision_sha256 : String
  scope_sha256 : String
  receipt_sha256 : String
  selector : ObservationSelectorProjection

def validateBaseline (value : TrustedObservationBaseline) : Except String Unit := do
  requireHash value.document_fingerprint "observation document"
  requireHash value.snapshot_sha256 "observation snapshot"
  requireHash value.revision_sha256 "observation revision"
  requireHash value.scope_sha256 "observation scope"
  requireHash value.receipt_sha256 "observation receipt"
  require (isId value.document_session_id = true ∧ isRevision value.document_revision = true)
    "Observation baseline binding is invalid."
  let _ ← normalizeSelector value.selector

/-- The receipt of a delta is the value as it is written, since its hash is over all its
    members. -/
def verifyObservationDelta (base : TrustedObservationBaseline) (delta : ParsedJson) (observed : TrustedObservationBaseline) :
    Except String Unit := do
  validateBaseline base
  validateBaseline observed
  require ((delta.field "delta_sha256").value.asString?.any isHash = true) "delta hash is invalid."
  require (Json.str (host.jsonSha256 (delta.without "delta_sha256").value) = (delta.field "delta_sha256").value
      ∧ (delta.field "schema").value = .str "revit-operator.dynamic-observation-delta.v1"
      ∧ (delta.field "authorization_granted").value = .bool false
      ∧ (delta.field "base_receipt_sha256").value = .str base.receipt_sha256
      ∧ (delta.field "document_fingerprint").value = .str base.document_fingerprint
      ∧ (delta.field "document_session_id").value = .str base.document_session_id
      ∧ (delta.field "document_revision").value = .num base.document_revision
      ∧ (delta.field "snapshot_sha256").value = .str base.snapshot_sha256
      ∧ (delta.field "base_revision_sha256").value = .str base.revision_sha256
      ∧ (delta.field "base_scope_sha256").value = .str base.scope_sha256)
    "Observation delta provenance is invalid or stale."
  require (observed.document_fingerprint = base.document_fingerprint ∧ observed.document_session_id = base.document_session_id
      ∧ observed.document_revision = base.document_revision ∧ observed.snapshot_sha256 = base.snapshot_sha256)
    "Observation delta cannot merge across a document, session, revision, or snapshot boundary."
  let cumulative ← normalizeSelector observed.selector
  require (Json.str (host.jsonSha256 cumulative.toJson) = (delta.field "cumulative_selector_sha256").value)
    "Observed delta does not cover the exact cumulative selector."

end revit_operator.mcp_server
