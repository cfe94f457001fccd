import RevitOperator.Contracts.EvidenceReparse
import RevitOperator.Library.BreadthFirst
import RevitOperator.Library.Record

open checked

/-! The selection of the rows, members and map entries of a payload that are bound to
    requested targets. -/

namespace revit_operator.contracts

section identities

/-- A field name without separators, in lower case. The characters outside ASCII with a
    lower case in it (the Kelvin sign, a dotted capital I) do not spell any of the words
    that are looked for. -/
def compact (value : String) : List Char := (value.toList.filter fun c => c ≠ '_' ∧ c ≠ '-').map Char.toLower

def identityWords : List String :=
  ["element", "target", "view", "sheet", "room", "space", "system", "circuit", "level", "host", "textnote", "connector",
    "fitting", "sourcescoped"]

def identityEndings : List String := ["", "id", "ids", "uniqueid", "uniqueids", "name", "names"]

/-- Returns true only for reviewed scalar/collection identity field names. -/
def isEvidenceTargetIdentityFieldV1 (value : String) : Bool :=
  (compact value = "uniqueid".toList ∨ compact value = "uniqueids".toList)
    || identityWords.any fun word => identityEndings.any fun ending =>
      (word.toList ++ ending.toList).isSuffixOf (compact value)

def identityMapWords : List String :=
  ["", "item", "items", "element", "elements", "target", "targets", "view", "views", "sheet", "sheets", "room", "rooms",
    "space", "spaces", "system", "systems", "circuit", "circuits", "level", "levels", "host", "hosts", "textnote",
    "textnotes", "connector", "connectors", "fitting", "fittings"]

def isEvidenceTargetIdentityMapFieldV1 (value : String) : Bool :=
  identityMapWords.any fun word => ["byid", "byuniqueid", "bytarget"].any fun ending =>
    compact value = word.toList ++ ending.toList

/-- The identity that a scalar stands for. -/
def identity? (candidate : Json) : Option String :=
  let identity := match candidate with
    | .str value => text.trim value
    | value => match value.asSafeInt? with
      | some value => toString value
      | none => ""
  if identity ≠ "" ∧ text.length identity ≤ 160 ∧ hasControl identity = false then some identity else none

def isArray : Json → Bool
  | .arr _ => true
  | _ => false

def evidenceTargetIdentityValuesV1 (value : Json) : List String :=
  let candidates := match value with
    | .arr items => items
    | value => [value]
  (candidates.filterMap identity?).eraseDups

/-- The targets among the scalar identity fields of a row, with repetitions. -/
def matchingScalarRecordTargets (value : Json) (targets : List String) : List String :=
  value.members.flatMap fun entry =>
    if isEvidenceTargetIdentityFieldV1 entry.1 = true ∧ isArray entry.2 = false then
      (evidenceTargetIdentityValuesV1 entry.2).filter fun identity => identity ∈ targets
    else []

end identities

section scan

/-- A place of the payload; the entries of an array keep the field of the array. -/
structure QueueItem where
  value : Json
  path : String
  field : String
deriving DecidableEq

/-- What is selected under a path, and the targets it was selected for. -/
structure Match where
  path : String
  value : Json
  identities : List String
deriving DecidableEq

/-- The first identity of a member of an identity array, where it is a target. -/
def memberTarget? (targets : List String) (item : Json) : Option String :=
  (evidenceTargetIdentityValuesV1 item).head?.filter fun identity => identity ∈ targets

/-- The members of an identity array that are targets. -/
def memberMatch (targets : List String) (current : QueueItem) (items : List Json) : List Match :=
  if isEvidenceTargetIdentityFieldV1 current.field = true ∧ items.filterMap (memberTarget? targets) ≠ [] then
    [⟨current.path, .arr (items.filter fun item => (memberTarget? targets item).isSome),
      items.filterMap (memberTarget? targets)⟩]
  else []

def selectedRows (targets : List String) (items : List Json) : List Json :=
  items.filter fun item => matchingScalarRecordTargets item targets ≠ []

def isCompound : Json → Bool
  | .arr _ | .obj _ => true
  | _ => false

/-- The key of an identity map is a target. -/
def isMapTarget (targets : List String) (current : QueueItem) (key : String) : Prop :=
  key ∈ targets ∧ isEvidenceTargetIdentityMapFieldV1 current.field = true

instance (targets : List String) (current : QueueItem) (key : String) : Decidable (isMapTarget targets current key) :=
  inferInstanceAs (Decidable (_ ∧ _))

/-- What a place is selected for, in the order of the source. -/
def matchesAt (targets : List String) (current : QueueItem) : List Match :=
  match current.value with
  | .arr items =>
    let rows := selectedRows targets items
    memberMatch targets current items ++ if rows = [] then [] else
      [⟨current.path, .arr rows, rows.flatMap fun item => matchingScalarRecordTargets item targets⟩]
  | .obj members =>
    let rowMatches := matchingScalarRecordTargets current.value targets
    if rowMatches ≠ [] then [⟨current.path, current.value, rowMatches⟩]
    else members.filterMap fun entry =>
      if isMapTarget targets current entry.1 then some ⟨current.path ++ "." ++ entry.1, entry.2, [entry.1]⟩ else none
  | _ => []

/-- The entries of an array, with the paths of their positions. -/
def itemPlaces (path field : String) (items : List Json) : List QueueItem :=
  items.zipIdx.map fun entry => ⟨entry.1, indexed path entry.2, field⟩

/-- The values of a record, with the paths of their keys. -/
def memberPlaces (path : String) (members : List (String × Json)) : List QueueItem :=
  members.map fun entry => ⟨entry.2, path ++ "." ++ entry.1, entry.1⟩

/-- The places below that the scan goes on with. -/
def below (targets : List String) (current : QueueItem) : List QueueItem :=
  match current.value with
  | .arr items =>
    if selectedRows targets items ≠ [] then []
    else (itemPlaces current.path current.field items).filter fun place => isCompound place.value
  | .obj members =>
    if matchingScalarRecordTargets current.value targets ≠ [] then []
    else memberPlaces current.path (members.filter fun entry =>
      ¬ isMapTarget targets current entry.1 ∧ isCompound entry.2 = true)
  | _ => []

/-- The targets that were matched, and what was selected for them. -/
structure Scan where
  matched : List String
  selections : Record Json

def Scan.select (scan : Scan) (found : Match) : Scan :=
  { matched := scan.matched ++ found.identities, selections := scan.selections.set found.path found.value }

/-- The loop over the queue, with so many visits left. -/
def scanLoop (targets : List String) : Nat → List QueueItem → Scan → Except String Scan
  | _, [], scan => .ok scan
  | 0, _ :: _, _ => evidenceSelectorInvalid "target_subset structural scan exceeds 100000 nodes"
  | visits + 1, current :: queue, scan =>
    scanLoop targets visits (queue ++ below targets current) ((matchesAt targets current).foldl Scan.select scan)

structure ExactEvidenceSelection where
  selection : Record Json
  matched_target_ids : List String

def root (payload : Json) : QueueItem := ⟨payload, "payload", "payload"⟩

def targetRequest (targetSubset : List String) : Json := .obj [("target_subset", .arr (targetSubset.map .str))]

/-- Selects complete rows and scalar identity-array members which are bound to every
    requested target. -/
def selectExactEvidenceTargetsV1 (payload : Json) (targetSubset : List String) :
    Except String ExactEvidenceSelection := do
  match ← parseEvidenceRetrievalSelectorV1 (targetRequest targetSubset) with
  | .target_subset requested =>
    let scan ← scanLoop requested 100000 [root payload] ⟨[], ∅⟩
    let missing := requested.filter fun identity => identity ∉ scan.matched
    valid (missing = []) ("target_subset did not match exact target identities: " ++ ", ".intercalate missing)
    return { selection := scan.selections, matched_target_ids := requested }
  | _ => evidenceSelectorInvalid "exactly one active selector is required"

end scan

section meaning

mutual

/-- A place and all the places in it. -/
def placesOf : Json → String → String → List QueueItem
  | .arr items, path, field => ⟨.arr items, path, field⟩ :: placesOfItems items path field 0
  | .obj members, path, field => ⟨.obj members, path, field⟩ :: placesOfMembers members path
  | value, path, field => [⟨value, path, field⟩]

def placesOfItems : List Json → String → String → Nat → List QueueItem
  | [], _, _, _ => []
  | item :: rest, path, field, index =>
    placesOf item (indexed path index) field ++ placesOfItems rest path field (index + 1)

def placesOfMembers : List (String × Json) → String → List QueueItem
  | [], _ => []
  | (key, value) :: rest, path => placesOf value (path ++ "." ++ key) key ++ placesOfMembers rest path

end

def QueueItem.places (place : QueueItem) : List QueueItem := placesOf place.value place.path place.field

/-- The number of values at a place and in it. -/
def QueueItem.nodes (place : QueueItem) : Nat := place.places.length

/-- The identities at a place: those of the scalar identity fields of a record, of the
    scalar members of an identity-named array, and the keys of an identity map. -/
def identitiesAt (place : QueueItem) : List String :=
  match place.value with
  | .arr items =>
    if isEvidenceTargetIdentityFieldV1 place.field = true then items.filterMap identity? else []
  | .obj members =>
    (members.filterMap fun entry =>
        if isEvidenceTargetIdentityFieldV1 entry.1 = true then identity? entry.2 else none)
      ++ if isEvidenceTargetIdentityMapFieldV1 place.field = true then members.map Prod.fst else []
  | _ => []

/-- A target occurs at a place or in it. -/
def QueueItem.Occurs (place : QueueItem) (target : String) : Prop :=
  ∃ inner ∈ place.places, target ∈ identitiesAt inner

/-- A value is that of a place, or holds some of the entries of an array there. -/
def Unmodified (value : Json) (place : QueueItem) : Prop :=
  value = place.value ∨ ∃ rows items, value = .arr rows ∧ place.value = .arr items ∧ rows.Sublist items

/-- What was selected under a path still bears a target: in it, or as the key of an
    identity map. -/
def Retains (payload : Json) (path : String) (value : Json) (target : String) : Prop :=
  ∃ place ∈ (root payload).places,
    (place.path = path ∧ Unmodified value place ∧ QueueItem.Occurs ⟨value, path, place.field⟩ target)
    ∨ (isEvidenceTargetIdentityMapFieldV1 place.field = true ∧ (target, value) ∈ place.value.members
      ∧ path = place.path ++ "." ++ target)

end meaning

section places

/-- The places directly below a place. -/
def QueueItem.inner (place : QueueItem) : List QueueItem :=
  match place.value with
  | .arr items => itemPlaces place.path place.field items
  | .obj members => memberPlaces place.path members
  | _ => []

theorem placesOfItems_eq (items : List Json) (path field : String) (index : Nat) :
    placesOfItems items path field index
      = (items.zipIdx index).flatMap fun entry => placesOf entry.1 (indexed path entry.2) field := by
  induction items generalizing index with
  | nil => rfl
  | cons item items ih => rw [placesOfItems, ih, List.zipIdx_cons, List.flatMap_cons]

theorem placesOfMembers_eq (members : List (String × Json)) (path : String) :
    placesOfMembers members path = members.flatMap fun entry => placesOf entry.2 (path ++ "." ++ entry.1) entry.1 := by
  induction members with
  | nil => rfl
  | cons entry members ih => rw [placesOfMembers, ih, List.flatMap_cons]

theorem places_eq (place : QueueItem) : place.places = place :: place.inner.flatMap QueueItem.places := by
  obtain ⟨value, path, field⟩ := place
  cases value with
  | arr items =>
    have hitems := placesOfItems_eq items path field 0
    simp only [QueueItem.places, QueueItem.inner, placesOf, itemPlaces, List.flatMap_map]
    rw [hitems]
  | obj members =>
    have hmembers := placesOfMembers_eq members path
    simp only [QueueItem.places, QueueItem.inner, placesOf, memberPlaces, List.flatMap_map]
    rw [hmembers]
  | _ => rfl

theorem mem_places_self (place : QueueItem) : place ∈ place.places := by
  rw [places_eq]
  exact List.mem_cons_self

theorem nodes_eq (place : QueueItem) : place.nodes = breadth_first.total QueueItem.nodes place.inner + 1 := by
  rw [QueueItem.nodes, places_eq, List.length_cons, List.length_flatMap]
  rfl

theorem nodes_lt {place inner : QueueItem} (h : inner ∈ place.inner) : inner.nodes < place.nodes := by
  rw [nodes_eq place]
  exact Nat.lt_succ_of_le (breadth_first.size_le_total h)

theorem inner_subset_places {place inner : QueueItem} (h : inner ∈ place.inner) : inner.places ⊆ place.places := by
  intro found hfound
  rw [places_eq place]
  exact List.mem_cons_of_mem _ (List.mem_flatMap.2 ⟨inner, h, hfound⟩)

theorem places_subset {place found : QueueItem} (h : found ∈ place.places) : found.places ⊆ place.places := by
  induction hsize : place.nodes using Nat.strong_induction_on generalizing place with
  | _ size ih =>
    rw [places_eq, List.mem_cons] at h
    rcases h with rfl | h
    · exact List.Subset.refl _
    · obtain ⟨inner, hinner, hfound⟩ := List.mem_flatMap.1 h
      have hsmaller := nodes_lt hinner
      have hinside := ih _ (hsize ▸ hsmaller) hfound rfl
      exact List.Subset.trans hinside (inner_subset_places hinner)

theorem below_sublist (targets : List String) (place : QueueItem) : (below targets place).Sublist place.inner := by
  unfold below QueueItem.inner
  split
  · split_ifs
    · exact List.nil_sublist _
    · exact List.filter_sublist
  · split_ifs
    · exact List.nil_sublist _
    · exact List.filter_sublist.map _
  · exact List.nil_sublist _

theorem below_total (targets : List String) (place : QueueItem) :
    breadth_first.total QueueItem.nodes (below targets place) < place.nodes := by
  rw [nodes_eq]
  exact Nat.lt_succ_of_le (breadth_first.total_le_of_sublist (below_sublist targets place))

end places

variable {item : Json} {field path : String} {items : List Json}

section matching

variable {payload : Json} {targets : List String} {place : QueueItem} {found : Match} {target : String}

theorem mem_values_iff {value : Json} (h : isArray value = false) :
    target ∈ evidenceTargetIdentityValuesV1 value ↔ identity? value = some target := by
  cases value with
  | arr _ => cases h
  | _ => simp [evidenceTargetIdentityValuesV1, List.mem_eraseDups]

theorem mem_matchingScalarRecordTargets {value : Json} :
    target ∈ matchingScalarRecordTargets value targets ↔ target ∈ targets ∧ ∃ entry ∈ value.members,
      isEvidenceTargetIdentityFieldV1 entry.1 = true ∧ identity? entry.2 = some target := by
  rw [matchingScalarRecordTargets, List.mem_flatMap]
  constructor
  · rintro ⟨entry, hentry, htarget⟩
    split_ifs at htarget with hfield
    · obtain ⟨hvalue, htarget⟩ := List.mem_filter.1 htarget
      exact ⟨of_decide_eq_true htarget, entry, hentry, hfield.1, (mem_values_iff hfield.2).1 hvalue⟩
    · cases htarget
  · rintro ⟨htarget, entry, hentry, hfield, hvalue⟩
    have harray : isArray entry.2 = false := by
      obtain ⟨key, value⟩ := entry
      cases value with
      | arr items => cases hvalue
      | _ => rfl
    refine ⟨entry, hentry, ?_⟩
    rw [if_pos ⟨hfield, harray⟩, List.mem_filter]
    exact ⟨(mem_values_iff harray).2 hvalue, decide_eq_true htarget⟩

theorem identitiesAt_arr (items : List Json) (path field : String) :
    identitiesAt ⟨.arr items, path, field⟩
      = if isEvidenceTargetIdentityFieldV1 field = true then items.filterMap identity? else [] :=
  rfl

theorem mem_identitiesAt_of_row (place : QueueItem) (h : target ∈ matchingScalarRecordTargets place.value targets) :
    target ∈ identitiesAt place := by
  obtain ⟨_, entry, hentry, hfield, hvalue⟩ := mem_matchingScalarRecordTargets.1 h
  obtain ⟨value, path, field⟩ := place
  cases value with
  | obj members =>
    refine List.mem_append_left _ (List.mem_filterMap.2 ⟨entry, hentry, ?_⟩)
    rw [if_pos hfield]
    exact hvalue
  | _ => cases hentry

theorem memberTarget?_eq_some (h : memberTarget? targets item = some target) :
    target ∈ targets ∧ (identity? item = some target ∨ ∃ items, item = .arr items ∧ target ∈ items.filterMap identity?) := by
  obtain ⟨hhead, htarget⟩ := Option.filter_eq_some_iff.1 h
  refine ⟨of_decide_eq_true htarget, ?_⟩
  have hmem := List.mem_of_head? hhead
  cases item with
  | arr items => exact .inr ⟨items, rfl, List.mem_eraseDups.1 hmem⟩
  | _ => exact .inl ((mem_values_iff rfl).1 hmem)

theorem occurs_of_item (hitem : item ∈ items)
    (hall : ∀ path, QueueItem.Occurs ⟨item, path, field⟩ target) : QueueItem.Occurs ⟨.arr items, path, field⟩ target := by
  obtain ⟨position, hposition⟩ := List.mem_iff_getElem?.1 hitem
  have hinner : (⟨item, indexed path position, field⟩ : QueueItem) ∈ QueueItem.inner ⟨.arr items, path, field⟩ :=
    List.mem_map.2 ⟨(item, position), List.mem_zipIdx_iff_getElem?.2 hposition, rfl⟩
  obtain ⟨bearer, hbearer, htarget⟩ := hall (indexed path position)
  exact ⟨bearer, inner_subset_places hinner hbearer, htarget⟩

theorem occurs_of_identitiesAt (h : target ∈ identitiesAt place) : place.Occurs target :=
  ⟨place, mem_places_self place, h⟩

theorem occurs_of_row (hitem : item ∈ items)
    (h : target ∈ matchingScalarRecordTargets item targets) : QueueItem.Occurs ⟨.arr items, path, field⟩ target :=
  occurs_of_item hitem fun path => occurs_of_identitiesAt (mem_identitiesAt_of_row ⟨item, path, field⟩ h)

theorem occurs_of_member (hitem : item ∈ items)
    (hfield : isEvidenceTargetIdentityFieldV1 field = true) (h : memberTarget? targets item = some target) :
    QueueItem.Occurs ⟨.arr items, path, field⟩ target := by
  rcases (memberTarget?_eq_some h).2 with hscalar | ⟨inner, rfl, hinner⟩
  · refine occurs_of_identitiesAt ?_
    rw [identitiesAt_arr, if_pos hfield]
    exact List.mem_filterMap.2 ⟨item, hitem, hscalar⟩
  · refine occurs_of_item hitem fun path => occurs_of_identitiesAt ?_
    rw [identitiesAt_arr, if_pos hfield]
    exact hinner

theorem mem_memberMatch {current : QueueItem} (h : found ∈ memberMatch targets current items) :
    isEvidenceTargetIdentityFieldV1 current.field = true ∧ found = ⟨current.path,
      .arr (items.filter fun item => (memberTarget? targets item).isSome), items.filterMap (memberTarget? targets)⟩ := by
  unfold memberMatch at h
  split_ifs at h with hmembers
  · exact ⟨hmembers.1, List.mem_singleton.1 h⟩
  · cases h

/-- What is selected at a place is not modified, and bears the targets it is selected
    for; so does the place. -/
theorem match_spec (hplace : place ∈ (root payload).places) (h : found ∈ matchesAt targets place) :
    (∃ origin ∈ (root payload).places, origin.path = found.path ∧ Unmodified found.value origin)
      ∧ ∀ target ∈ found.identities, target ∈ targets ∧ Retains payload found.path found.value target
        ∧ place.Occurs target := by
  obtain ⟨value, path, field⟩ := place
  unfold matchesAt at h
  cases value with
  | arr items =>
    rcases List.mem_append.1 h with hmember | hrows
    · obtain ⟨hfield, rfl⟩ := mem_memberMatch hmember
      have hkept : Unmodified (.arr (items.filter fun item => (memberTarget? targets item).isSome)) ⟨.arr items, path, field⟩ :=
        .inr ⟨_, _, rfl, rfl, List.filter_sublist⟩
      refine ⟨⟨_, hplace, rfl, hkept⟩, fun target htarget => ?_⟩
      obtain ⟨item, hitem, hfound⟩ := List.mem_filterMap.1 htarget
      have hselected : item ∈ items.filter fun item => (memberTarget? targets item).isSome :=
        List.mem_filter.2 ⟨hitem, by rw [hfound]; rfl⟩
      exact ⟨(memberTarget?_eq_some hfound).1, ⟨_, hplace, .inl ⟨rfl, hkept, occurs_of_member hselected hfield hfound⟩⟩,
        occurs_of_member hitem hfield hfound⟩
    · simp only at hrows
      split_ifs at hrows with hnone
      · cases hrows
      · obtain rfl := List.mem_singleton.1 hrows
        have hkept : Unmodified (.arr (selectedRows targets items)) ⟨.arr items, path, field⟩ :=
          .inr ⟨_, _, rfl, rfl, List.filter_sublist⟩
        refine ⟨⟨_, hplace, rfl, hkept⟩, fun target htarget => ?_⟩
        obtain ⟨item, hitem, hfound⟩ := List.mem_flatMap.1 htarget
        exact ⟨(mem_matchingScalarRecordTargets.1 hfound).1, ⟨_, hplace, .inl ⟨rfl, hkept, occurs_of_row hitem hfound⟩⟩,
          occurs_of_row (List.mem_of_mem_filter hitem) hfound⟩
  | obj members =>
    simp only at h
    split_ifs at h with hrow
    · obtain rfl := List.mem_singleton.1 h
      refine ⟨⟨_, hplace, rfl, .inl rfl⟩, fun target htarget => ?_⟩
      have hbears := occurs_of_identitiesAt (mem_identitiesAt_of_row ⟨.obj members, path, field⟩ htarget)
      exact ⟨(mem_matchingScalarRecordTargets.1 htarget).1, ⟨_, hplace, .inl ⟨rfl, .inl rfl, hbears⟩⟩, hbears⟩
    · obtain ⟨entry, hentry, hfound⟩ := List.mem_filterMap.1 h
      split_ifs at hfound with hmap
      · obtain rfl := Option.some.inj hfound
        have hinner : (⟨entry.2, path ++ "." ++ entry.1, entry.1⟩ : QueueItem)
            ∈ QueueItem.inner ⟨.obj members, path, field⟩ := List.mem_map.2 ⟨entry, hentry, rfl⟩
        have horigin := places_subset hplace (inner_subset_places hinner (mem_places_self _))
        refine ⟨⟨_, horigin, rfl, .inl rfl⟩, fun target htarget => ?_⟩
        obtain rfl := List.mem_singleton.1 htarget
        refine ⟨hmap.1, ⟨_, hplace, .inr ⟨hmap.2, hentry, rfl⟩⟩, occurs_of_identitiesAt ?_⟩
        refine List.mem_append_right _ ?_
        rw [if_pos hmap.2]
        exact List.mem_map_of_mem hentry
  | _ => cases h

end matching

section scanning

variable {payload : Json} {targets : List String}

/-- The places of the payload without a match above them, level by level. -/
def visible (targets : List String) (payload : Json) : List QueueItem :=
  breadth_first.levels (below targets) (root payload).nodes [root payload]

/-- Everything that is matched, in the order of the levels. -/
def matchesOf (targets : List String) (payload : Json) : List Match :=
  (visible targets payload).flatMap (matchesAt targets)

/-- The last match of a path. -/
def lastAt (found : List Match) (path : String) : Option Match := found.reverse.find? fun found => found.path = path

theorem visible_places : ∀ place ∈ visible targets payload, place ∈ (root payload).places := by
  refine breadth_first.forall_levels (fun place hplace => ?_) fun place hplace inner hinner => ?_
  · obtain rfl := List.mem_singleton.1 hplace
    exact mem_places_self _
  · have hbelow := (below_sublist targets place).subset hinner
    exact places_subset hplace (inner_subset_places hbelow (mem_places_self inner))

/-- The loop selects what the places of the queue are matched for, as long as it has
    visits for all of them. -/
theorem scanLoop_eq {visits : Nat} {queue : List QueueItem} (hvisits : breadth_first.total QueueItem.nodes queue ≤ visits)
    (scan : Scan) : scanLoop targets visits queue scan
      = .ok (((breadth_first.order (below targets) visits queue).flatMap (matchesAt targets)).foldl Scan.select scan) := by
  induction visits generalizing queue scan with
  | zero =>
    cases queue with
    | nil => rfl
    | cons current queue =>
      have hpos := nodes_eq current
      rw [breadth_first.total_cons] at hvisits
      omega
  | succ visits ih =>
    cases queue with
    | nil => rfl
    | cons current queue =>
      have hbelow := below_total targets current
      have hroom : breadth_first.total QueueItem.nodes (queue ++ below targets current) ≤ visits := by
        rw [breadth_first.total_cons] at hvisits
        rw [breadth_first.total_append]
        have hnodes : current.nodes = current.places.length := rfl
        omega
      rw [scanLoop, ih hroom, breadth_first.order, List.flatMap_cons, List.foldl_append]

theorem scanLoop_root {visits : Nat} (hvisits : (root payload).nodes ≤ visits) (scan : Scan) :
    scanLoop targets visits [root payload] scan = .ok ((matchesOf targets payload).foldl Scan.select scan) := by
  have htotal : breadth_first.total QueueItem.nodes [root payload] = (root payload).nodes := by
    rw [breadth_first.total_cons]
    rfl
  rw [scanLoop_eq (htotal.trans_le hvisits), breadth_first.order_eq_levels (below_total targets) (htotal.trans_le hvisits)
    htotal.le]
  rfl

theorem mem_matched {found : List Match} {scan : Scan} {target : String} :
    target ∈ (found.foldl Scan.select scan).matched ↔ target ∈ scan.matched ∨ ∃ one ∈ found, target ∈ one.identities := by
  induction found generalizing scan with
  | nil => simp
  | cons one found ih =>
    rw [List.foldl_cons, ih, Scan.select, List.mem_append, List.exists_mem_cons_iff, or_assoc]

theorem get?_selections (found : List Match) (path : String) :
    (found.foldl Scan.select ⟨[], ∅⟩).selections.get? path = (lastAt found path).map Match.value := by
  induction found using List.reverseRecOn with
  | nil => rfl
  | append_singleton found one ih =>
    rw [List.foldl_append, List.foldl_cons, List.foldl_nil, Scan.select, Record.get?_set, ih, lastAt, lastAt,
      List.reverse_append, List.reverse_singleton, List.singleton_append, List.find?_cons]
    by_cases hpath : path = one.path
    · simp [hpath]
    · simp [hpath, Ne.symm hpath]

end scanning

section exactness

variable {payload : Json} {targets : List String}

/-- The target lists that the selector contract accepts. -/
def Accepted (targets : List String) : Prop :=
  (1 ≤ targets.length ∧ targets.length ≤ 64) ∧ ∀ target ∈ targets,
    text.trim target ≠ "" ∧ text.length (text.trim target) ≤ 160 ∧ hasControl (text.trim target) = false

/-- The identities that are requested. -/
def requested (targets : List String) : List String := (targets.map text.trim).eraseDups

theorem collect_targets {label : Nat → String} {index : Nat} {values : List String} :
    collect (fun index entry => boundedSelectorString entry 160 (label index)) index (targets.map .str) = .ok values ↔
      values = targets.map text.trim ∧ ∀ target ∈ targets,
        text.trim target ≠ "" ∧ text.length (text.trim target) ≤ 160 ∧ hasControl (text.trim target) = false := by
  induction targets generalizing index values with
  | nil =>
    constructor
    · intro h
      exact ⟨(Except.ok.inj h).symm, fun _ hnone => absurd hnone List.not_mem_nil⟩
    · rintro ⟨rfl, _⟩
      rfl
  | cons target targets ih =>
    rw [List.map_cons, collect_cons_eq_ok, List.forall_mem_cons, List.map_cons]
    constructor
    · rintro ⟨value, others, hvalue, hothers, rfl⟩
      obtain ⟨raw, hraw, rfl, hbounds⟩ := boundedSelectorString_eq_ok.1 hvalue
      obtain rfl := Json.str.inj hraw
      obtain ⟨rfl, hrest⟩ := ih.1 hothers
      exact ⟨rfl, hbounds, hrest⟩
    · rintro ⟨rfl, hbounds, hrest⟩
      exact ⟨_, _, boundedSelectorString_eq_ok.2 ⟨target, rfl, rfl, hbounds⟩, ih.2 ⟨rfl, hrest⟩, rfl⟩

theorem parseTargetSubset_eq_ok {values : List String} :
    parseTargetSubset (.arr (targets.map .str)) = .ok values ↔ Accepted targets ∧ values = requested targets := by
  simp only [parseTargetSubset, bind_eq_ok, pure_eq_ok, boundedEntries_eq_ok]
  constructor
  · rintro ⟨entries, ⟨hentries, hlow, hhigh⟩, parsed, hparsed, rfl⟩
    obtain rfl := Json.arr.inj hentries
    obtain ⟨rfl, hbounds⟩ := collect_targets.1 hparsed
    rw [List.length_map] at hlow hhigh
    exact ⟨⟨⟨hlow, hhigh⟩, hbounds⟩, rfl⟩
  · rintro ⟨⟨⟨hlow, hhigh⟩, hbounds⟩, rfl⟩
    refine ⟨_, ⟨rfl, ?_, ?_⟩, _, collect_targets.2 ⟨rfl, hbounds⟩, rfl⟩
    · rwa [List.length_map]
    · rwa [List.length_map]

theorem parse_targetRequest {selector : EvidenceRetrievalSelectorV1} :
    parseEvidenceRetrievalSelectorV1 (targetRequest targets) = .ok selector ↔
      Accepted targets ∧ selector = .target_subset (requested targets) := by
  simp only [parseEvidenceRetrievalSelectorV1, bind_eq_ok, valid_eq_ok, exists_const]
  constructor
  · rintro ⟨_, fields, hfields, itemRange, hitemRange, textRange, htextRange, subset, hsubset, image, himage, hsole⟩
    cases hfields
    cases hitemRange
    cases htextRange
    cases himage
    rcases ifPresent_eq_ok.1 hsubset with ⟨hnone, _⟩ | ⟨member, parsed, hmember, hparsed, rfl⟩
    · cases hnone
    · cases hmember
      obtain ⟨haccepted, rfl⟩ := parseTargetSubset_eq_ok.1 hparsed
      cases soleSelector_eq_ok.1 hsole
      exact ⟨haccepted, rfl⟩
  · rintro ⟨haccepted, rfl⟩
    have hsubset : ifPresent (targetRequest targets) "target_subset" parseTargetSubset = .ok (some (requested targets)) :=
      ifPresent_eq_ok.2 (.inr ⟨_, _, rfl, parseTargetSubset_eq_ok.2 ⟨haccepted, rfl⟩, rfl⟩)
    exact ⟨rfl, none, rfl, none, rfl, none, rfl, _, hsubset, none, rfl, rfl⟩

theorem mem_requested {identity : String} : identity ∈ requested targets ↔ ∃ target ∈ targets, text.trim target = identity := by
  rw [requested, List.mem_eraseDups, List.mem_map]

/-- A match carries the identity. -/
def Found (targets : List String) (payload : Json) (identity : String) : Prop :=
  ∃ found ∈ matchesOf (requested targets) payload, identity ∈ found.identities

/-- A match that no later one of the same path replaces still bears the identity. -/
def Survives (targets : List String) (payload : Json) (identity : String) : Prop :=
  ∃ found, lastAt (matchesOf (requested targets) payload) found.path = some found
    ∧ Retains payload found.path found.value identity

/-- The selection succeeds exactly for the accepted lists whose every target is matched,
    and it is what was matched last under each path. -/
theorem select_eq_ok (hnodes : (root payload).nodes ≤ 100000) {selected : ExactEvidenceSelection} :
    selectExactEvidenceTargetsV1 payload targets = .ok selected ↔
      (Accepted targets ∧ ∀ target ∈ targets, Found targets payload (text.trim target))
        ∧ selected = ⟨((matchesOf (requested targets) payload).foldl Scan.select ⟨[], ∅⟩).selections, requested targets⟩ := by
  have hmissing : ((requested targets).filter fun identity =>
      identity ∉ ((matchesOf (requested targets) payload).foldl Scan.select ⟨[], ∅⟩).matched) = [] ↔
      ∀ target ∈ targets, Found targets payload (text.trim target) := by
    rw [List.filter_eq_nil_iff]
    constructor
    · intro h target htarget
      have hown := h _ (mem_requested.2 ⟨target, htarget, rfl⟩)
      simp only [decide_eq_true_eq, not_not, mem_matched, List.not_mem_nil, false_or] at hown
      exact hown
    · intro h identity hidentity
      obtain ⟨target, htarget, rfl⟩ := mem_requested.1 hidentity
      simp only [decide_eq_true_eq, not_not, mem_matched, List.not_mem_nil, false_or]
      exact h target htarget
  unfold selectExactEvidenceTargetsV1
  rw [bind_eq_ok]
  constructor
  · rintro ⟨selector, hparse, h⟩
    obtain ⟨haccepted, rfl⟩ := parse_targetRequest.1 hparse
    simp only [scanLoop_root hnodes, bind_eq_ok, valid_eq_ok, pure_eq_ok, exists_const] at h
    obtain ⟨scan, hscan, hnone, rfl⟩ := h
    obtain rfl := Except.ok.inj hscan
    exact ⟨⟨haccepted, hmissing.1 hnone⟩, rfl⟩
  · rintro ⟨⟨haccepted, hfound⟩, rfl⟩
    refine ⟨_, parse_targetRequest.2 ⟨haccepted, rfl⟩, ?_⟩
    simp only [scanLoop_root hnodes, bind_eq_ok, valid_eq_ok, pure_eq_ok, exists_const]
    exact ⟨_, rfl, hmissing.2 hfound, rfl⟩

theorem occurs_of_found {identity : String} (h : Found targets payload identity) : (root payload).Occurs identity := by
  obtain ⟨found, hfound, hidentity⟩ := h
  obtain ⟨place, hplace, hmatch⟩ := List.mem_flatMap.1 hfound
  have hinside := visible_places place hplace
  obtain ⟨bearer, hbearer, htarget⟩ := ((match_spec hinside hmatch).2 identity hidentity).2.2
  exact ⟨bearer, places_subset hinside hbearer, htarget⟩

/-- Every requested target occurs exactly when the selection succeeds, it then occurs in
    what is returned, and what is returned is not modified. -/
def ExactSelection (payload : Json) (targets : List String) : Prop :=
  ((∃ selected, selectExactEvidenceTargetsV1 payload targets = .ok selected) ↔
      ∀ target ∈ targets, (root payload).Occurs (text.trim target))
    ∧ ∀ selected, selectExactEvidenceTargetsV1 payload targets = .ok selected →
      (∀ target ∈ targets, ∃ path value, selected.selection.get? path = some value
        ∧ Retains payload path value (text.trim target))
      ∧ ∀ path value, selected.selection.get? path = some value →
        ∃ origin ∈ (root payload).places, origin.path = path ∧ Unmodified value origin

theorem lastAt_eq_some {found : List Match} {one : Match} (h : lastAt found path = some one) :
    one.path = path ∧ one ∈ found := by
  rw [lastAt] at h
  have hpath := List.find?_some h
  exact ⟨of_decide_eq_true hpath, List.mem_reverse.1 (List.mem_of_find?_eq_some h)⟩

/-- The selection is exact when, whenever all targets occur, the list is accepted, each
    target is matched at a place without a match above it, and some match that bears it
    is not replaced under its path by a later one. -/
theorem exact_selection_iff (payload : Json) (targets : List String) (hnodes : (root payload).nodes ≤ 100000) :
    ExactSelection payload targets ↔ ((∀ target ∈ targets, (root payload).Occurs (text.trim target)) →
      Accepted targets ∧ ∀ target ∈ targets,
        Found targets payload (text.trim target) ∧ Survives targets payload (text.trim target)) := by
  constructor
  · rintro ⟨hsucceeds, hselected⟩ hoccurs
    obtain ⟨selected, hselect⟩ := hsucceeds.2 hoccurs
    obtain ⟨⟨haccepted, hfound⟩, hvalue⟩ := (select_eq_ok hnodes).1 hselect
    refine ⟨haccepted, fun target htarget => ⟨hfound target htarget, ?_⟩⟩
    obtain ⟨path, value, hget, hretains⟩ := (hselected selected hselect).1 target htarget
    rw [hvalue, get?_selections] at hget
    obtain ⟨found, hlast, rfl⟩ := Option.map_eq_some_iff.1 hget
    obtain ⟨rfl, _⟩ := lastAt_eq_some hlast
    exact ⟨found, hlast, hretains⟩
  · intro hcondition
    have hoccurs : ∀ selected, selectExactEvidenceTargetsV1 payload targets = .ok selected →
        ∀ target ∈ targets, (root payload).Occurs (text.trim target) := fun selected hselect target htarget =>
      occurs_of_found (((select_eq_ok hnodes).1 hselect).1.2 target htarget)
    refine ⟨⟨fun ⟨selected, hselect⟩ => hoccurs selected hselect, fun hall => ?_⟩, fun selected hselect => ⟨?_, ?_⟩⟩
    · obtain ⟨haccepted, hfound⟩ := hcondition hall
      exact ⟨_, (select_eq_ok hnodes).2 ⟨⟨haccepted, fun target htarget => (hfound target htarget).1⟩, rfl⟩⟩
    · intro target htarget
      obtain ⟨found, hlast, hretains⟩ := ((hcondition (hoccurs selected hselect)).2 target htarget).2
      refine ⟨found.path, found.value, ?_, hretains⟩
      rw [((select_eq_ok hnodes).1 hselect).2, get?_selections, hlast, Option.map_some]
    · intro path value hget
      rw [((select_eq_ok hnodes).1 hselect).2, get?_selections] at hget
      obtain ⟨found, hlast, rfl⟩ := Option.map_eq_some_iff.1 hget
      obtain ⟨rfl, hmem⟩ := lastAt_eq_some hlast
      obtain ⟨place, hplace, hmatch⟩ := List.mem_flatMap.1 hmem
      exact (match_spec (visible_places place hplace) hmatch).1

def wallRow : Json := .obj [("elementId", .str "A"), ("name", .str "wall")]

def rowsPayload : Json :=
  .obj [("rows", .arr [wallRow, .obj [("elementId", .str "C")]]), ("elementIds", .arr [.str "B", .str "D"])]

/-- A row among others, and a member of an identity array. -/
theorem single_row_exact : ExactSelection rowsPayload ["A", "B"] := by
  have hmatches : matchesOf (requested ["A", "B"]) rowsPayload
      = [⟨"payload.rows", .arr [wallRow], ["A"]⟩, ⟨"payload.elementIds", .arr [.str "B"], ["B"]⟩] := by decide +kernel
  have htrim : text.trim "A" = "A" ∧ text.trim "B" = "B" := by decide +kernel
  have hretains : Retains rowsPayload "payload.rows" (.arr [wallRow]) "A"
      ∧ Retains rowsPayload "payload.elementIds" (.arr [.str "B"]) "B" := by
    constructor
    · refine ⟨⟨.arr [wallRow, .obj [("elementId", .str "C")]], "payload.rows", "rows"⟩, by decide +kernel, .inl ⟨rfl, ?_, ?_⟩⟩
      · exact .inr ⟨_, _, rfl, rfl, (List.nil_sublist _).cons_cons _⟩
      · exact (by decide +kernel : ∃ inner ∈ QueueItem.places ⟨.arr [wallRow], "payload.rows", "rows"⟩, "A" ∈ identitiesAt inner)
    · refine ⟨⟨.arr [.str "B", .str "D"], "payload.elementIds", "elementIds"⟩, by decide +kernel, .inl ⟨rfl, ?_, ?_⟩⟩
      · exact .inr ⟨_, _, rfl, rfl, (List.nil_sublist _).cons_cons _⟩
      · exact (by decide +kernel : ∃ inner ∈ QueueItem.places ⟨.arr [.str "B"], "payload.elementIds", "elementIds"⟩,
          "B" ∈ identitiesAt inner)
  refine (exact_selection_iff rowsPayload ["A", "B"] (by decide +kernel)).2 fun _ => ⟨⟨by decide, by decide +kernel⟩, ?_⟩
  rw [List.forall_mem_cons, List.forall_mem_singleton, htrim.1, htrim.2]
  unfold Found Survives
  rw [hmatches]
  refine ⟨⟨⟨_, List.mem_cons_self, List.mem_singleton_self _⟩, ⟨"payload.rows", .arr [wallRow], ["A"]⟩,
      by decide +kernel, hretains.1⟩, ⟨_, List.mem_cons_of_mem _ (List.mem_singleton_self _), List.mem_singleton_self _⟩,
    ⟨"payload.elementIds", .arr [.str "B"], ["B"]⟩, by decide +kernel, hretains.2⟩

def mixedPayload : Json := .obj [("elementIds", .arr [.str "A", .obj [("elementId", .str "B")]])]

/-- The matched rows of an identity array replace its matched members, which were
    counted as found. -/
theorem member_replaced_by_row :
    ¬ ∀ payload targets, (root payload).nodes ≤ 100000 → ExactSelection payload targets := by
  intro h
  obtain ⟨_, hselected⟩ := h mixedPayload ["A", "B"] (by decide +kernel)
  have hfound : matchesOf (requested ["A", "B"]) mixedPayload
      = [⟨"payload.elementIds", .arr [.str "A"], ["A"]⟩,
        ⟨"payload.elementIds", .arr [.obj [("elementId", .str "B")]], ["B"]⟩] := by decide +kernel
  have htrim : text.trim "A" = "A" ∧ text.trim "B" = "B" := by decide +kernel
  have hall : ∀ target ∈ ["A", "B"], Found ["A", "B"] mixedPayload (text.trim target) := by
    rw [List.forall_mem_cons, List.forall_mem_singleton, htrim.1, htrim.2]
    unfold Found
    rw [hfound]
    exact ⟨⟨_, List.mem_cons_self, List.mem_singleton_self _⟩,
      ⟨_, List.mem_cons_of_mem _ (List.mem_singleton_self _), List.mem_singleton_self _⟩⟩
  have haccepted : Accepted ["A", "B"] := by
    refine ⟨by decide, ?_⟩
    decide +kernel
  have hselect := (select_eq_ok (by decide +kernel)).2 ⟨⟨haccepted, hall⟩, rfl⟩
  obtain ⟨path, value, hget, place, hplace, hretains⟩ := (hselected _ hselect).1 "A" List.mem_cons_self
  rw [htrim.1] at hretains
  rw [get?_selections, hfound] at hget
  obtain ⟨found, hlast, rfl⟩ := Option.map_eq_some_iff.1 hget
  obtain ⟨rfl, hmem⟩ := lastAt_eq_some hlast
  have hmap : ∀ place ∈ (root mixedPayload).places, isEvidenceTargetIdentityMapFieldV1 place.field = false := by
    decide +kernel
  have hfield : ∀ place ∈ (root mixedPayload).places, place.path = "payload.elementIds" → place.field = "elementIds" := by
    decide +kernel
  have hlost : ∀ inner ∈ QueueItem.places ⟨.arr [.obj [("elementId", .str "B")]], "payload.elementIds", "elementIds"⟩,
      "A" ∉ identitiesAt inner := by decide +kernel
  rcases List.mem_cons.1 hmem with rfl | hmem
  · revert hlast
    decide +kernel
  · obtain rfl := List.mem_singleton.1 hmem
    rcases hretains with ⟨hpath, _, inner, hinner, htarget⟩ | ⟨hfieldMap, _⟩
    · rw [hfield place hplace hpath] at hinner
      exact hlost inner hinner htarget
    · rw [hmap place hplace] at hfieldMap
      cases hfieldMap

end exactness

end revit_operator.contracts
