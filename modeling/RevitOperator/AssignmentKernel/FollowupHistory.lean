import RevitOperator.AssignmentKernel.JournalBuilder
import RevitOperator.AssignmentKernel.Planning
import RevitOperator.AssignmentKernel.StateHistory
import RevitOperator.Library.JsonText

open checked checked_run

namespace revit_operator.assignment_kernel

/-- The sequence mentions come in: where each was stated, its kind and text. -/
abbrev FollowupMention : Type := FollowupSource × AdvisoryFollowupKind × String

/-- Mention one text after the other. -/
def mentionEach (mentions : List FollowupMention) (items : List AdvisoryFollowupV2) : List AdvisoryFollowupV2 :=
  mentions.foldl (fun items (source, kind, text) => mention source kind text items) items

/-- The texts of one field of a proposal, each where it was stated. -/
def fieldMentions (version : Nat) (kind : AdvisoryFollowupKind) (texts : List String) : List FollowupMention :=
  texts.zipIdx.map fun (text, index) => (⟨version, kind.toText, index, none⟩, kind, text)

/-- What a proposal leaves unfinished, each text where it was stated. -/
def proposalMentions (version : Nat) (proposal : AdvisoryCompletionProposalV1) : List FollowupMention :=
  fieldMentions version .remaining_work proposal.remaining_work
    ++ fieldMentions version .uncertainties proposal.uncertainties

/-- The replacements a supersession names, each where it was stated. -/
def replacementMentions (version : Nat) (item : AdvisoryFollowupV2) (replacements : List AdvisoryReplacement) :
    List FollowupMention :=
  replacements.zipIdx.map fun (replacement, index) =>
    (⟨version, "replacements", index, some item.item_id⟩, replacement.kind, replacement.text)

/-- The item as a disposition leaves it. -/
def AdvisoryFollowupV2.disposed (item : AdvisoryFollowupV2) (value : AdvisoryFollowupDispositionV2) (version : Nat) :
    AdvisoryFollowupV2 :=
  if item.item_id = value.item_id then
    { item with state := value.disposition.state, disposition_reason := some value.reason, version }
  else item

theorem mentionAll_eq (version : Nat) (kind : AdvisoryFollowupKind) (texts : List String)
    (items : List AdvisoryFollowupV2) :
    mentionAll version kind texts items = mentionEach (fieldMentions version kind texts) items := by
  rw [mentionAll, mentionEach, fieldMentions, List.foldl_map]

theorem retainAdvisoryFollowupsV2_eq (previous : List AdvisoryFollowupV2) (proposal : AdvisoryCompletionProposalV1)
    (version : Nat) :
    retainAdvisoryFollowupsV2 previous proposal version = mentionEach (proposalMentions version proposal) previous := by
  rw [retainAdvisoryFollowupsV2, mentionAll_eq, mentionAll_eq, proposalMentions, mentionEach, mentionEach, mentionEach,
    List.foldl_append]

/-- An accepted disposition closes or defers one unfinished item and mentions
    the replacements. -/
theorem dispositionAdvisoryFollowupV2_eq_ok {items next : List AdvisoryFollowupV2}
    {value : AdvisoryFollowupDispositionV2} {version : Nat}
    (h : dispositionAdvisoryFollowupV2 items value version = .ok next) :
    ∃ item ∈ items, item.item_id = value.item_id ∧ (item.state = .open_ ∨ item.state = .deferred)
      ∧ replacementsValid item value = true
      ∧ next = mentionEach (replacementMentions version item (value.replacements.getD []))
        (items.map fun other => other.disposed value version) := by
  simp only [dispositionAdvisoryFollowupV2, check_bind_eq_ok] at h
  obtain ⟨-, h⟩ := h
  split at h
  · cases h
  · next item hfind =>
    simp only [check_bind_eq_ok, pure_eq_ok, require_eq_ok] at h
    obtain ⟨-, hunfinished, hreplacements, rfl⟩ := h
    refine ⟨item, List.mem_of_find?_eq_some hfind, by simpa using List.find?_some hfind, hunfinished, hreplacements, ?_⟩
    rw [mentionEach, replacementMentions, List.foldl_map]
    rfl

section origins

/-- What an item keeps for good: its identity, kind and text and where it was
    stated. -/
structure FollowupOrigin where
  item_id : String
  kind : AdvisoryFollowupKind
  text : String
  source : FollowupSource

def AdvisoryFollowupV2.origin (item : AdvisoryFollowupV2) : FollowupOrigin :=
  ⟨item.item_id, item.kind, item.text,
    ⟨item.source_version, item.source_field, item.source_index, item.parent_item_id⟩⟩

/-- The place of a source: no two items are stated at one place. -/
def FollowupSource.place (source : FollowupSource) : Nat × String × Nat := (source.version, source.field, source.index)

/-- The identity of an item names its place. -/
def placeName (place : Nat × String × Nat) : String := s!"followup:{place.1}:{place.2.1}:{place.2.2}"

/-- The fields an item can be stated in. -/
def sourceFields : List String := ["remaining_work", "uncertainties", "replacements"]

@[simp]
theorem newFollowup_origin (source : FollowupSource) (kind : AdvisoryFollowupKind) (text : String) :
    (newFollowup source kind text).origin = ⟨placeName source.place, kind, text, source⟩ := rfl

@[simp]
theorem mentionedAgain_origin (item : AdvisoryFollowupV2) (version : Nat) :
    (item.mentionedAgain version).origin = item.origin := by
  unfold AdvisoryFollowupV2.mentionedAgain
  split <;> rfl

@[simp]
theorem disposed_origin (item : AdvisoryFollowupV2) (value : AdvisoryFollowupDispositionV2) (version : Nat) :
    (item.disposed value version).origin = item.origin := by
  unfold AdvisoryFollowupV2.disposed
  split <;> rfl

private theorem placeName_toList (version : Nat) (field : String) (index : Nat) :
    (placeName (version, field, index)).toList
      = "followup:".toList ++ (Nat.toDigits 10 version ++ ':' :: (field.toList ++ ':' :: Nat.toDigits 10 index)) := by
  have hdigits : ∀ n : Nat, (toString n).toList = Nat.toDigits 10 n := fun n => by
    rw [Nat.toString_eq_repr, Nat.repr, String.toList_ofList]
  have hshape : placeName (version, field, index)
      = "followup:" ++ toString version ++ ":" ++ field ++ ":" ++ toString index := rfl
  rw [hshape]
  simp only [String.toList_append, hdigits, List.append_assoc]
  rfl

private theorem field_append_inj {field other : String} {x y : List Char} (hfield : field ∈ sourceFields)
    (hother : other ∈ sourceFields) (h : field.toList ++ x = other.toList ++ y) : field = other ∧ x = y := by
  simp only [sourceFields, List.mem_cons, List.not_mem_nil, or_false] at hfield hother
  rcases hfield with rfl | rfl | rfl <;> rcases hother with rfl | rfl | rfl <;> simp at h ⊢ <;> exact h

theorem placeName_injective {place other : Nat × String × Nat} (hplace : place.2.1 ∈ sourceFields)
    (hother : other.2.1 ∈ sourceFields) (h : placeName place = placeName other) : place = other := by
  obtain ⟨version, field, index⟩ := place
  obtain ⟨version', field', index'⟩ := other
  have hchars := congrArg String.toList h
  rw [placeName_toList, placeName_toList] at hchars
  have hcolon : ∀ (rest : List Char) c tail, ':' :: rest = c :: tail → c.isDigit = false := by
    intro rest c tail hcons
    obtain ⟨rfl, -⟩ := List.cons.inj hcons
    rfl
  obtain ⟨rfl, hrest⟩ := Json.toDigits_append_inj (hcolon _) (hcolon _) (List.append_cancel_left hchars)
  obtain ⟨rfl, hindex⟩ := field_append_inj hplace hother (List.cons.inj hrest).2
  rw [Json.toDigits_injective (List.cons.inj hindex).2]

/-- No two items have one identity or one kind and text, and none comes from a
    later version. -/
structure OriginsSound (version : Nat) (origins : List FollowupOrigin) : Prop where
  named : ∀ origin ∈ origins, origin.item_id = placeName origin.source.place ∧ origin.source.field ∈ sourceFields
  earlier : ∀ origin ∈ origins, origin.source.version ≤ version
  places : (origins.map fun origin => origin.source.place).Nodup
  texts : (origins.map fun origin => (origin.kind, origin.text)).Nodup

variable {version : Nat} {origins : List FollowupOrigin}

theorem originsSound_nil (version : Nat) : OriginsSound version [] := ⟨nofun, nofun, List.nodup_nil, List.nodup_nil⟩

theorem OriginsSound.mono {later : Nat} (h : OriginsSound version origins) (hle : version ≤ later) :
    OriginsSound later origins :=
  ⟨h.named, fun origin horigin => (h.earlier origin horigin).trans hle, h.places, h.texts⟩

theorem OriginsSound.ids (h : OriginsSound version origins) : (origins.map FollowupOrigin.item_id).Nodup := by
  have hnames : origins.map FollowupOrigin.item_id
      = (origins.map fun origin => origin.source.place).map placeName := by
    rw [List.map_map]
    exact List.map_congr_left fun origin horigin => (h.named origin horigin).1
  rw [hnames]
  refine List.Nodup.map_on ?_ h.places
  intro place hplace other hother hsame
  obtain ⟨origin, horigin, rfl⟩ := List.mem_map.1 hplace
  obtain ⟨origin', horigin', rfl⟩ := List.mem_map.1 hother
  exact placeName_injective (h.named origin horigin).2 (h.named origin' horigin').2 hsame

theorem OriginsSound.append {origin : FollowupOrigin} (h : OriginsSound version origins)
    (hnamed : origin.item_id = placeName origin.source.place ∧ origin.source.field ∈ sourceFields)
    (hversion : origin.source.version ≤ version)
    (hplace : origin.source.place ∉ origins.map fun other => other.source.place)
    (htext : (origin.kind, origin.text) ∉ origins.map fun other => (other.kind, other.text)) :
    OriginsSound version (origins ++ [origin]) where
  named := by
    intro other hother
    rcases List.mem_append.1 hother with hother | hother
    · exact h.named other hother
    · exact List.mem_singleton.1 hother ▸ hnamed
  earlier := by
    intro other hother
    rcases List.mem_append.1 hother with hother | hother
    · exact h.earlier other hother
    · exact List.mem_singleton.1 hother ▸ hversion
  places := by
    rw [List.map_append]
    exact List.nodup_append_comm.1 (List.nodup_cons.2 ⟨hplace, h.places⟩)
  texts := by
    rw [List.map_append]
    exact List.nodup_append_comm.1 (List.nodup_cons.2 ⟨htext, h.texts⟩)

end origins

variable {item : AdvisoryFollowupV2}

section mention

variable {source : FollowupSource} {kind : AdvisoryFollowupKind} {text : String} {items : List AdvisoryFollowupV2}

/-- The text is retained, finished or not. -/
def Retained (kind : AdvisoryFollowupKind) (text : String) (items : List AdvisoryFollowupV2) : Prop :=
  ∃ item ∈ items, item.kind = kind ∧ item.text = text

theorem mention_origins (h : Retained kind text items) :
    (mention source kind text items).map AdvisoryFollowupV2.origin = items.map AdvisoryFollowupV2.origin := by
  induction items with
  | nil =>
    obtain ⟨item, hitem, _⟩ := h
    cases hitem
  | cons first rest ih =>
    unfold mention
    by_cases hfirst : first.kind = kind ∧ first.text = text
    · rw [if_pos hfirst, List.map_cons, List.map_cons, mentionedAgain_origin]
    · rw [if_neg hfirst, List.map_cons, List.map_cons, ih]
      obtain ⟨item, hitem, hsame⟩ := h
      rcases List.mem_cons.1 hitem with rfl | hitem
      · exact absurd hsame hfirst
      · exact ⟨item, hitem, hsame⟩

theorem mention_new (h : ¬ Retained kind text items) :
    mention source kind text items = items ++ [newFollowup source kind text] := by
  induction items with
  | nil => rfl
  | cons first rest ih =>
    have hfirst : ¬ (first.kind = kind ∧ first.text = text) := fun hsame => h ⟨first, List.mem_cons_self, hsame⟩
    have hrest : ¬ Retained kind text rest := fun ⟨item, hitem, hsame⟩ => h ⟨item, List.mem_cons_of_mem _ hitem, hsame⟩
    rw [mention, if_neg hfirst, ih hrest, List.cons_append]

theorem retained_iff : Retained kind text items ↔
    (kind, text) ∈ (items.map AdvisoryFollowupV2.origin).map fun origin => (origin.kind, origin.text) := by
  simp [Retained, AdvisoryFollowupV2.origin, List.mem_map]

theorem mention_extends : items.map AdvisoryFollowupV2.origin <+:
    (mention source kind text items).map AdvisoryFollowupV2.origin := by
  by_cases h : Retained kind text items
  · rw [mention_origins h]
  · rw [mention_new h, List.map_append]
    exact List.prefix_append _ _

theorem mention_sound {version : Nat} (h : OriginsSound version (items.map AdvisoryFollowupV2.origin))
    (hversion : source.version ≤ version) (hfield : source.field ∈ sourceFields)
    (hplace : source.place ∉ (items.map AdvisoryFollowupV2.origin).map fun origin => origin.source.place) :
    OriginsSound version ((mention source kind text items).map AdvisoryFollowupV2.origin) := by
  by_cases hretained : Retained kind text items
  · rwa [mention_origins hretained]
  · rw [mention_new hretained, List.map_append]
    exact h.append ⟨rfl, hfield⟩ hversion hplace fun htext => hretained (retained_iff.2 htext)

/-- An item is unfinished. -/
def AdvisoryFollowupV2.Unfinished (item : AdvisoryFollowupV2) : Prop := item.state = .open_ ∨ item.state = .deferred

theorem mentionedAgain_unfinished (item : AdvisoryFollowupV2) (version : Nat) :
    (item.mentionedAgain version).Unfinished := by
  unfold AdvisoryFollowupV2.mentionedAgain
  by_cases h : item.state = .deferred
  · rw [if_pos h]
    exact .inr h
  · rw [if_neg h]
    exact .inl rfl

theorem mention_unfinished :
    ∃ item ∈ mention source kind text items, (item.kind = kind ∧ item.text = text) ∧ item.Unfinished := by
  induction items with
  | nil => exact ⟨newFollowup source kind text, List.mem_singleton.2 rfl, ⟨rfl, rfl⟩, .inl rfl⟩
  | cons first rest ih =>
    unfold mention
    by_cases hfirst : first.kind = kind ∧ first.text = text
    · rw [if_pos hfirst]
      have horigin := mentionedAgain_origin first source.version
      refine ⟨first.mentionedAgain source.version, List.mem_cons_self, ⟨?_, ?_⟩, mentionedAgain_unfinished _ _⟩
      · exact (congrArg FollowupOrigin.kind horigin).trans hfirst.1
      · exact (congrArg FollowupOrigin.text horigin).trans hfirst.2
    · rw [if_neg hfirst]
      obtain ⟨item, hitem, hsame⟩ := ih
      exact ⟨item, List.mem_cons_of_mem _ hitem, hsame⟩

theorem mem_mention (h : item ∈ mention source kind text items) :
    item ∈ items ∨ item.Unfinished := by
  induction items with
  | nil =>
    obtain rfl := List.mem_singleton.1 h
    exact .inr (.inl rfl)
  | cons first rest ih =>
    unfold mention at h
    by_cases hfirst : first.kind = kind ∧ first.text = text
    · rw [if_pos hfirst] at h
      rcases List.mem_cons.1 h with rfl | hrest
      · exact .inr (mentionedAgain_unfinished _ _)
      · exact .inl (List.mem_cons_of_mem _ hrest)
    · rw [if_neg hfirst] at h
      rcases List.mem_cons.1 h with rfl | hrest
      · exact .inl List.mem_cons_self
      · exact (ih hrest).imp (List.mem_cons_of_mem _) id

theorem mention_keeps (hitem : item ∈ items) :
    ∃ kept ∈ mention source kind text items, kept.origin = item.origin ∧ (kept = item ∨ kept.Unfinished) := by
  induction items with
  | nil => cases hitem
  | cons first rest ih =>
    unfold mention
    by_cases hfirst : first.kind = kind ∧ first.text = text
    · rw [if_pos hfirst]
      rcases List.mem_cons.1 hitem with rfl | hrest
      · exact ⟨_, List.mem_cons_self, mentionedAgain_origin _ _, .inr (mentionedAgain_unfinished _ _)⟩
      · exact ⟨item, List.mem_cons_of_mem _ hrest, rfl, .inl rfl⟩
    · rw [if_neg hfirst]
      rcases List.mem_cons.1 hitem with rfl | hrest
      · exact ⟨_, List.mem_cons_self, rfl, .inl rfl⟩
      · obtain ⟨kept, hkept, hsame⟩ := ih hrest
        exact ⟨kept, List.mem_cons_of_mem _ hkept, hsame⟩

end mention

variable {mentioned : FollowupMention} {proposal : AdvisoryCompletionProposalV1}

section mentions

variable {version : Nat} {mentions : List FollowupMention} {items : List AdvisoryFollowupV2}

theorem mentionEach_cons (first : FollowupMention) (rest : List FollowupMention) (items : List AdvisoryFollowupV2) :
    mentionEach (first :: rest) items = mentionEach rest (mention first.1 first.2.1 first.2.2 items) := rfl

theorem mentionEach_extends : items.map AdvisoryFollowupV2.origin <+:
    (mentionEach mentions items).map AdvisoryFollowupV2.origin := by
  induction mentions generalizing items with
  | nil => exact List.prefix_rfl
  | cons first rest ih =>
    rw [mentionEach_cons]
    exact mention_extends.trans ih

private theorem mention_places {source : FollowupSource} {kind : AdvisoryFollowupKind} {text : String}
    {place : Nat × String × Nat}
    (h : place ∈ ((mention source kind text items).map AdvisoryFollowupV2.origin).map fun origin => origin.source.place) :
    place ∈ (items.map AdvisoryFollowupV2.origin).map (fun origin => origin.source.place) ∨ place = source.place := by
  by_cases hretained : Retained kind text items
  · rw [mention_origins hretained] at h
    exact .inl h
  · rw [mention_new hretained, List.map_append, List.map_append] at h
    exact (List.mem_append.1 h).imp id fun h => by simpa using h

theorem mentionEach_sound (h : OriginsSound version (items.map AdvisoryFollowupV2.origin))
    (hstated : ∀ mention ∈ mentions, mention.1.version = version ∧ mention.1.field ∈ sourceFields)
    (hdistinct : (mentions.map fun mention => mention.1.place).Nodup)
    (hnew : ∀ mention ∈ mentions,
      mention.1.place ∉ (items.map AdvisoryFollowupV2.origin).map fun origin => origin.source.place) :
    OriginsSound version ((mentionEach mentions items).map AdvisoryFollowupV2.origin) := by
  induction mentions generalizing items with
  | nil => exact h
  | cons first rest ih =>
    rw [mentionEach_cons]
    obtain ⟨hversion, hfield⟩ := hstated first List.mem_cons_self
    obtain ⟨hfirst, hrest⟩ := List.nodup_cons.1 hdistinct
    refine ih (mention_sound h hversion.le hfield (hnew first List.mem_cons_self))
      (fun mention hmention => hstated mention (List.mem_cons_of_mem _ hmention)) hrest ?_
    intro later hlater hplace
    rcases mention_places hplace with hold | hsame
    · exact hnew later (List.mem_cons_of_mem _ hlater) hold
    · exact hfirst (List.mem_map.2 ⟨later, hlater, hsame⟩)

theorem mentionEach_keeps (hitem : item ∈ items) :
    ∃ kept ∈ mentionEach mentions items, kept.origin = item.origin ∧ (kept = item ∨ kept.Unfinished) := by
  induction mentions generalizing items item with
  | nil => exact ⟨item, hitem, rfl, .inl rfl⟩
  | cons first rest ih =>
    rw [mentionEach_cons]
    obtain ⟨kept, hkept, horigin, hopen⟩ := mention_keeps hitem
    obtain ⟨later, hlater, hsame, hlast⟩ := ih hkept
    refine ⟨later, hlater, hsame.trans horigin, ?_⟩
    rcases hlast with rfl | hlast
    · exact hopen
    · exact .inr hlast

theorem mentionEach_unfinished (h : mentioned ∈ mentions) :
    ∃ item ∈ mentionEach mentions items, (item.kind = mentioned.2.1 ∧ item.text = mentioned.2.2) ∧ item.Unfinished := by
  induction mentions generalizing items with
  | nil => cases h
  | cons first rest ih =>
    rw [mentionEach_cons]
    rcases List.mem_cons.1 h with rfl | hrest
    · obtain ⟨item, hitem, hsame, hopen⟩ := mention_unfinished
      obtain ⟨kept, hkept, horigin, hlast⟩ := mentionEach_keeps hitem
      refine ⟨kept, hkept, ⟨?_, ?_⟩, ?_⟩
      · exact (congrArg FollowupOrigin.kind horigin).trans hsame.1
      · exact (congrArg FollowupOrigin.text horigin).trans hsame.2
      · rcases hlast with rfl | hlast
        · exact hopen
        · exact hlast
    · exact ih hrest

theorem mem_mentionEach (h : item ∈ mentionEach mentions items) :
    item ∈ items ∨ item.Unfinished := by
  induction mentions generalizing items with
  | nil => exact .inl h
  | cons first rest ih =>
    rw [mentionEach_cons] at h
    rcases ih h with hitem | hopen
    · exact mem_mention hitem
    · exact .inr hopen

theorem mem_fieldMentions (version : Nat) (kind : AdvisoryFollowupKind) {texts : List String} {text : String} (h : text ∈ texts) :
    ∃ mentioned ∈ fieldMentions version kind texts, mentioned.2.1 = kind ∧ mentioned.2.2 = text := by
  obtain ⟨index, hindex, rfl⟩ := List.mem_iff_getElem.1 h
  exact ⟨(⟨version, kind.toText, index, none⟩, kind, texts[index]), List.mem_map.2 ⟨(texts[index], index),
    List.mem_zipIdx_iff_getElem?.2 (List.getElem?_eq_getElem hindex), rfl⟩, rfl, rfl⟩

private theorem zipIdx_places_nodup {α : Type} (field : String) (entries : List α) (f : α × Nat → FollowupMention)
    (hf : ∀ entry, (f entry).1.place = (version, field, entry.2)) :
    ((entries.zipIdx.map f).map fun mention => mention.1.place).Nodup := by
  rw [List.map_map]
  have hplaces : (entries.zipIdx.map ((fun mention : FollowupMention => mention.1.place) ∘ f))
      = (entries.zipIdx.map Prod.snd).map fun index => (version, field, index) := by
    rw [List.map_map]
    exact List.map_congr_left fun entry _ => hf entry
  rw [hplaces, List.zipIdx_map_snd]
  refine List.Nodup.map ?_ List.nodup_range'
  intro index index' h
  exact (Prod.mk.inj (Prod.mk.inj h).2).2

theorem proposalMentions_nodup (version : Nat) (proposal : AdvisoryCompletionProposalV1) :
    ((proposalMentions version proposal).map fun mention => mention.1.place).Nodup := by
  rw [proposalMentions, List.map_append, List.nodup_append]
  refine ⟨zipIdx_places_nodup "remaining_work" _ _ fun _ => rfl, zipIdx_places_nodup "uncertainties" _ _ fun _ => rfl, ?_⟩
  intro place hplace other hother
  simp only [fieldMentions, List.map_map, List.mem_map] at hplace hother
  obtain ⟨entry, _, rfl⟩ := hplace
  obtain ⟨entry', _, rfl⟩ := hother
  simp [FollowupSource.place, AdvisoryFollowupKind.toText]

theorem proposalMentions_stated
    (h : mentioned ∈ proposalMentions version proposal) :
    mentioned.1.version = version ∧ mentioned.1.field ∈ sourceFields := by
  simp only [proposalMentions, fieldMentions, List.mem_append, List.mem_map] at h
  rcases h with ⟨entry, _, rfl⟩ | ⟨entry, _, rfl⟩
  · exact ⟨rfl, by simp [sourceFields, AdvisoryFollowupKind.toText]⟩
  · exact ⟨rfl, by simp [sourceFields, AdvisoryFollowupKind.toText]⟩

theorem map_disposed_origin (value : AdvisoryFollowupDispositionV2) (version : Nat) :
    (items.map fun other => other.disposed value version).map AdvisoryFollowupV2.origin
      = items.map AdvisoryFollowupV2.origin := by
  rw [List.map_map]
  exact List.map_congr_left fun item _ => disposed_origin item value version

theorem replacementMentions_nodup (item : AdvisoryFollowupV2) (replacements : List AdvisoryReplacement) :
    ((replacementMentions version item replacements).map fun mention => mention.1.place).Nodup :=
  zipIdx_places_nodup "replacements" _ _ fun _ => rfl

theorem replacementMentions_stated {replacements : List AdvisoryReplacement}
    (h : mentioned ∈ replacementMentions version item replacements) :
    mentioned.1.version = version ∧ mentioned.1.field ∈ sourceFields := by
  simp only [replacementMentions, List.mem_map] at h
  obtain ⟨entry, _, rfl⟩ := h
  exact ⟨rfl, by simp [sourceFields]⟩

end mentions

section step

/-- The event proposes completion or decides about a follow-up. -/
def AssignmentEventBodyV2.concernsFollowups : AssignmentEventBodyV2 → Bool
  | .advisory_followup_disposition_recorded _ => true
  | .review_requested _ _ (some _) => true
  | _ => false

/-- What one accepted event does to the follow-ups. -/
inductive FollowupStep (event : AssignmentEventV2) (items : List AdvisoryFollowupV2) : List AdvisoryFollowupV2 → Prop
  | kept (hbody : event.body.concernsFollowups = false) : FollowupStep event items items
  | proposed (reviewId : String) (workUnitIds : List String) (proposal : AdvisoryCompletionProposalV1)
      (hbody : event.body = .review_requested reviewId workUnitIds (some proposal)) :
      FollowupStep event items (mentionEach (proposalMentions event.assignment_version proposal) items)
  | disposed (value : AdvisoryFollowupDispositionV2) (item : AdvisoryFollowupV2)
      (hbody : event.body = .advisory_followup_disposition_recorded value) (hitem : item ∈ items)
      (hid : item.item_id = value.item_id) (hunfinished : item.Unfinished)
      (hreplacements : replacementsValid item value = true) :
      FollowupStep event items
        (mentionEach (replacementMentions event.assignment_version item (value.replacements.getD []))
          (items.map fun other => other.disposed value event.assignment_version))

/-- The follow-ups of the snapshot, none before there is one. -/
def ReducerStateV2.followups (state : ReducerStateV2) : List AdvisoryFollowupV2 :=
  (state.snapshot.map AssignmentSnapshotV2.advisory_followups).getD []

variable {host : JavaScriptHost} {state nextState : ReducerStateV2} {event : AssignmentEventV2}

private theorem planningEffect_followups {snapshot : AssignmentSnapshotV2} {next : PlanningRecord}
    (hversion : snapshot.assignment_version = event.assignment_version)
    (h : PlanningEffect host state snapshot event next) :
    FollowupStep event snapshot.advisory_followups next.advisory_followups := by
  cases h with
  | quiet hbody =>
    refine .kept ?_
    revert hbody
    cases event.body <;> simp [AssignmentEventBodyV2.plans, AssignmentEventBodyV2.concernsFollowups]
  | unit_changed id unitState hbody => exact .kept (by rw [hbody]; rfl)
  | requested variableId clarificationId question declaration hbody => exact .kept (by rw [hbody]; rfl)
  | supplied variableId clarificationId value freshness hbody =>
    have hsame : ∀ answered : AssignmentSnapshotV2,
        (invalidateDependentInputResultsV2 answered variableId).advisory_followups = answered.advisory_followups := by
      intro answered
      unfold invalidateDependentInputResultsV2
      dsimp only
      split <;> rfl
    dsimp only
    split
    · rw [AssignmentSnapshotV2.planning, hsame]
      exact .kept (by rw [hbody]; rfl)
    · exact .kept (by rw [hbody]; rfl)
  | admitted operation hbody => exact .kept (by rw [hbody]; rfl)
  | retained observation unitId useful hbody => exact .kept (by rw [hbody]; rfl)
  | evaluated evaluation hbody => exact .kept (by rw [hbody]; rfl)
  | planned plan hplan =>
    refine .kept ?_
    revert hplan
    unfold plannedBy
    cases event.body <;> simp [AssignmentEventBodyV2.concernsFollowups]
  | disposed disposition followups hbody hdisposed =>
    obtain ⟨item, hitem, hid, hunfinished, hreplacements, rfl⟩ := dispositionAdvisoryFollowupV2_eq_ok hdisposed
    rw [hversion]
    exact .disposed disposition item hbody hitem hid hunfinished hreplacements
  | reviewed reviewId workUnitIds hbody => exact .kept (by rw [hbody]; rfl)
  | proposed reviewId workUnitIds proposal hbody =>
    dsimp only
    rw [retainAdvisoryFollowupsV2_eq, hversion]
    exact .proposed reviewId workUnitIds proposal hbody
  | released reviewId decision continuation hbody => exact .kept (by rw [hbody]; rfl)
  | allocated reviewId decision continuation policy candidate hbody => exact .kept (by rw [hbody]; rfl)
  | ended outcome reason hbody => exact .kept (by rw [hbody]; rfl)

theorem applyEvent_followups (h : applyEvent host state event = .ok nextState) :
    FollowupStep event state.followups nextState.followups := by
  cases applyEvent_effect h with
  | created spec hbody hnone =>
    have hbefore : state.followups = [] := by simp [ReducerStateV2.followups, hnone]
    rw [hbefore]
    exact .kept (by rw [hbody]; rfl)
  | restarted snapshot hsome hopen hversion hbody =>
    have hbefore : state.followups = snapshot.advisory_followups := by simp [ReducerStateV2.followups, hsome]
    rw [hbefore]
    exact .kept (by rw [hbody]; rfl)
  | recorded snapshot next hsome hopen hversion hlive hbinding hbody hrecord =>
    have hbefore : state.followups = snapshot.advisory_followups := by simp [ReducerStateV2.followups, hsome]
    rw [hbefore]
    exact planningEffect_followups rfl (recordEvent_planning hrecord)

end step

section consequences

variable {event : AssignmentEventV2} {items next : List AdvisoryFollowupV2} {version : Nat}

theorem FollowupStep.extends (h : FollowupStep event items next) :
    items.map AdvisoryFollowupV2.origin <+: next.map AdvisoryFollowupV2.origin := by
  cases h with
  | kept => exact List.prefix_rfl
  | proposed => exact mentionEach_extends
  | disposed value item =>
    rw [← map_disposed_origin value event.assignment_version]
    exact mentionEach_extends

private theorem place_new (h : OriginsSound version (items.map AdvisoryFollowupV2.origin)) {source : FollowupSource}
    (hlater : version < source.version) :
    source.place ∉ (items.map AdvisoryFollowupV2.origin).map fun origin => origin.source.place := by
  intro hplace
  obtain ⟨origin, horigin, hsame⟩ := List.mem_map.1 hplace
  have hversion : origin.source.version = source.version := congrArg Prod.fst hsame
  have hearlier := h.earlier origin horigin
  omega

theorem FollowupStep.sound (h : FollowupStep event items next)
    (hsound : OriginsSound version (items.map AdvisoryFollowupV2.origin)) (hlater : version < event.assignment_version) :
    OriginsSound event.assignment_version (next.map AdvisoryFollowupV2.origin) := by
  cases h with
  | kept => exact hsound.mono hlater.le
  | proposed reviewId workUnitIds proposal =>
    refine mentionEach_sound (hsound.mono hlater.le) (fun mentioned h => proposalMentions_stated h)
      (proposalMentions_nodup _ _) fun mentioned h => place_new hsound ?_
    rw [(proposalMentions_stated h).1]
    exact hlater
  | disposed value item =>
    refine mentionEach_sound ?_ (fun mentioned h => replacementMentions_stated h) (replacementMentions_nodup _ _)
      fun mentioned h => ?_
    · rw [map_disposed_origin]
      exact hsound.mono hlater.le
    · rw [map_disposed_origin]
      refine place_new hsound ?_
      rw [(replacementMentions_stated h).1]
      exact hlater

/-- The event gives the item its state by a disposition. -/
def AssignmentEventV2.Disposes (event : AssignmentEventV2) (item : AdvisoryFollowupV2) : Prop :=
  ∃ value, event.body = .advisory_followup_disposition_recorded value ∧ value.item_id = item.item_id
    ∧ item.state = value.disposition.state

theorem FollowupStep.keeps (h : FollowupStep event items next) (hitem : item ∈ items) :
    ∃ kept ∈ next, kept.origin = item.origin ∧ (kept = item ∨ kept.Unfinished ∨ event.Disposes kept) := by
  cases h with
  | kept => exact ⟨item, hitem, rfl, .inl rfl⟩
  | proposed =>
    obtain ⟨kept, hkept, horigin, hsame | hopen⟩ := mentionEach_keeps hitem
    · exact ⟨kept, hkept, horigin, .inl hsame⟩
    · exact ⟨kept, hkept, horigin, .inr (.inl hopen)⟩
  | disposed value target hbody =>
    have hdisposed : item.disposed value event.assignment_version
        ∈ items.map fun other => other.disposed value event.assignment_version := List.mem_map_of_mem hitem
    obtain ⟨kept, hkept, horigin, hsame | hopen⟩ := mentionEach_keeps hdisposed
    · refine ⟨kept, hkept, horigin.trans (disposed_origin _ _ _), ?_⟩
      rw [hsame]
      unfold AdvisoryFollowupV2.disposed
      by_cases hid : item.item_id = value.item_id
      · rw [if_pos hid]
        exact .inr (.inr ⟨value, hbody, hid.symm, rfl⟩)
      · rw [if_neg hid]
        exact .inl rfl
    · exact ⟨kept, hkept, horigin.trans (disposed_origin _ _ _), .inr (.inl hopen)⟩

theorem FollowupStep.proposal_unfinished (h : FollowupStep event items next) {reviewId : String}
    {workUnitIds : List String}
    (hbody : event.body = .review_requested reviewId workUnitIds (some proposal))
    (hmentioned : mentioned ∈ proposalMentions event.assignment_version proposal) :
    ∃ item ∈ next, (item.kind = mentioned.2.1 ∧ item.text = mentioned.2.2) ∧ item.Unfinished := by
  cases h with
  | kept hquiet => simp [hbody, AssignmentEventBodyV2.concernsFollowups] at hquiet
  | proposed reviewId' workUnitIds' proposal' hbody' =>
    obtain ⟨_, _, rfl⟩ : reviewId = reviewId' ∧ workUnitIds = workUnitIds' ∧ proposal = proposal' := by
      simpa using hbody.symm.trans hbody'
    exact mentionEach_unfinished hmentioned
  | disposed value item hbody' => simp [hbody] at hbody'

private theorem not_unfinished (hstate : item.state = .superseded) :
    ¬ item.Unfinished := by
  rintro (hopen | hdeferred)
  · rw [hstate] at hopen
    cases hopen
  · rw [hstate] at hdeferred
    cases hdeferred

private theorem replacements_of_superseded {value : AdvisoryFollowupDispositionV2}
    (hvalid : replacementsValid item value = true) (hdisposition : value.disposition = .superseded) :
    ∃ replacements, value.replacements = some replacements ∧ replacements ≠ [] := by
  unfold replacementsValid at hvalid
  rw [hdisposition] at hvalid
  cases hreplacements : value.replacements with
  | none => simp [hreplacements] at hvalid
  | some replacements =>
    refine ⟨replacements, rfl, ?_⟩
    rintro rfl
    simp [hreplacements] at hvalid

/-- An item becomes superseded only by a disposition whose replacements are
    then unfinished other items. -/
theorem FollowupStep.superseded (h : FollowupStep event items next)
    (hids : (next.map AdvisoryFollowupV2.item_id).Nodup) (hitem : item ∈ next)
    (hstate : item.state = .superseded) (hbefore : item ∉ items) :
    ∃ value replacements, event.body = .advisory_followup_disposition_recorded value
      ∧ value.item_id = item.item_id ∧ value.disposition = .superseded
      ∧ value.replacements = some replacements ∧ replacements ≠ []
      ∧ ∀ replacement ∈ replacements, ∃ other ∈ next, other.kind = replacement.kind ∧ other.text = replacement.text
        ∧ other.Unfinished ∧ other.item_id ≠ item.item_id := by
  cases h with
  | kept => exact absurd hitem hbefore
  | proposed =>
    rcases mem_mentionEach hitem with hold | hopen
    · exact absurd hold hbefore
    · exact absurd hopen (not_unfinished hstate)
  | disposed value target hbody _ _ _ hvalid =>
    rcases mem_mentionEach hitem with hold | hopen
    · obtain ⟨before, hmem, hitemBefore⟩ := List.mem_map.1 hold
      unfold AdvisoryFollowupV2.disposed at hitemBefore
      by_cases hid : before.item_id = value.item_id
      · rw [if_pos hid] at hitemBefore
        subst hitemBefore
        have hdisposition : value.disposition = .superseded := by
          cases hkind : value.disposition <;> simp [hkind, AdvisoryDisposition.state] at hstate ⊢
        obtain ⟨replacements, hreplacements, hnonempty⟩ := replacements_of_superseded hvalid hdisposition
        refine ⟨value, replacements, hbody, hid.symm, hdisposition, hreplacements, hnonempty, ?_⟩
        intro replacement hreplacement
        obtain ⟨index, hindex, rfl⟩ := List.mem_iff_getElem.1 hreplacement
        have hmentioned : (⟨event.assignment_version, "replacements", index, some target.item_id⟩,
            replacements[index].kind, replacements[index].text)
            ∈ replacementMentions event.assignment_version target (value.replacements.getD []) := by
          rw [hreplacements]
          exact List.mem_map.2 ⟨(replacements[index], index),
            List.mem_zipIdx_iff_getElem?.2 (List.getElem?_eq_getElem hindex), rfl⟩
        obtain ⟨other, hother, ⟨hkind, htext⟩, hopen⟩ := mentionEach_unfinished hmentioned
        refine ⟨other, hother, hkind, htext, hopen, ?_⟩
        intro hsame
        have hequal := List.inj_on_of_nodup_map hids hother hitem hsame
        exact not_unfinished hstate (hequal ▸ hopen)
      · rw [if_neg hid] at hitemBefore
        exact absurd (hitemBefore ▸ hmem) hbefore
    · exact absurd hopen (not_unfinished hstate)

end consequences

section runs

variable {host : JavaScriptHost} {state nextState final : ReducerStateV2} {event : AssignmentEventV2}
  {events : List AssignmentEventV2}

theorem ReducerStateV2.followups_of_some {snapshot : AssignmentSnapshotV2} (hsome : state.snapshot = some snapshot) :
    state.followups = snapshot.advisory_followups := by
  simp [ReducerStateV2.followups, hsome]

/-- The follow-ups of the snapshot are sound at its version. -/
def ReducerStateV2.FollowupsSound (state : ReducerStateV2) : Prop :=
  state.Satisfies fun snapshot =>
    OriginsSound snapshot.assignment_version (snapshot.advisory_followups.map AdvisoryFollowupV2.origin)

theorem followupsSound_step (hstate : state.FollowupsSound) (h : applyEvent host state event = .ok nextState) :
    nextState.FollowupsSound := by
  intro next hnext
  have hversion := applyEvent_next_version h hnext
  rw [hversion, ← ReducerStateV2.followups_of_some hnext]
  have hstep := applyEvent_followups h
  cases hsome : state.snapshot with
  | none =>
    have hbefore : state.followups = [] := by simp [ReducerStateV2.followups, hsome]
    have hcreated : 0 < event.assignment_version := by
      cases applyEvent_effect h with
      | created spec hbody hnone hfirst =>
        rw [hfirst]
        exact Nat.one_pos
      | restarted snapshot hkept => simp [hsome] at hkept
      | recorded snapshot next hkept => simp [hsome] at hkept
    rw [hbefore] at hstep
    exact hstep.sound (originsSound_nil 0) hcreated
  | some snapshot =>
    rw [ReducerStateV2.followups_of_some hsome] at hstep
    refine hstep.sound (hstate snapshot hsome) ?_
    rw [applyEvent_version h hsome]
    exact Nat.lt_succ_self _

theorem feed_followupsSound (h : feed (applyEvent host) .initial events = .ok state) : state.FollowupsSound :=
  feed_invariant (fun _ _ _ hstate hstep => followupsSound_step hstate hstep)
    (ReducerStateV2.satisfies_initial _) h

theorem feed_extends (h : feed (applyEvent host) state events = .ok final) :
    state.followups.map AdvisoryFollowupV2.origin <+: final.followups.map AdvisoryFollowupV2.origin := by
  refine feed_invariant (I := fun middle =>
    state.followups.map AdvisoryFollowupV2.origin <+: middle.followups.map AdvisoryFollowupV2.origin) ?_
    List.prefix_rfl h
  intro middle input next hmiddle hstep
  exact hmiddle.trans (applyEvent_followups hstep).extends

/-- An unfinished item stays unfinished through a run unless one of its events
    disposes of it. -/
theorem feed_keeps (h : feed (applyEvent host) state events = .ok final)
    (hitem : item ∈ state.followups) (hunfinished : item.Unfinished) :
    ∃ kept ∈ final.followups, kept.origin = item.origin
      ∧ (kept.Unfinished ∨ ∃ disposing ∈ events, disposing.Disposes kept) := by
  induction events using List.reverseRecOn generalizing final with
  | nil =>
    obtain rfl : state = final := by simpa using h
    exact ⟨item, hitem, rfl, .inl hunfinished⟩
  | append_singleton first last ih =>
    obtain ⟨middle, hfirst, hlast⟩ := feed_snoc_eq_ok.1 h
    obtain ⟨before, hbefore, horigin, hstate⟩ := ih hfirst
    obtain ⟨kept, hkept, hsame, hchange⟩ := (applyEvent_followups hlast).keeps hbefore
    refine ⟨kept, hkept, hsame.trans horigin, ?_⟩
    rcases hchange with rfl | hopen | hdisposed
    · refine hstate.imp id ?_
      rintro ⟨disposing, hmem, hdisposes⟩
      exact ⟨disposing, List.mem_append_left _ hmem, hdisposes⟩
    · exact .inl hopen
    · exact .inr ⟨last, List.mem_append_right _ (List.mem_singleton.2 rfl), hdisposed⟩

/-- The texts a proposal states in one of its fields. -/
def AdvisoryCompletionProposalV1.texts (proposal : AdvisoryCompletionProposalV1) : AdvisoryFollowupKind → List String
  | .remaining_work => proposal.remaining_work
  | .uncertainties => proposal.uncertainties

private theorem mem_proposalMentions (version : Nat)
    {kind : AdvisoryFollowupKind} {text : String} (h : text ∈ proposal.texts kind) :
    ∃ mentioned ∈ proposalMentions version proposal, mentioned.2.1 = kind ∧ mentioned.2.2 = text := by
  cases kind with
  | remaining_work =>
    obtain ⟨mentioned, hmem, hsame⟩ := mem_fieldMentions version .remaining_work h
    exact ⟨mentioned, List.mem_append_left _ hmem, hsame⟩
  | uncertainties =>
    obtain ⟨mentioned, hmem, hsame⟩ := mem_fieldMentions version .uncertainties h
    exact ⟨mentioned, List.mem_append_right _ hmem, hsame⟩

/-- A text of a proposal is unfinished after it, until an event disposes of
    it. -/
theorem feed_proposal {earlier later : List AssignmentEventV2}
    (h : feed (applyEvent host) .initial (earlier ++ event :: later) = .ok final) {reviewId : String}
    {workUnitIds : List String}
    (hbody : event.body = .review_requested reviewId workUnitIds (some proposal)) {kind : AdvisoryFollowupKind}
    {text : String} (htext : text ∈ proposal.texts kind) :
    ∃ item ∈ final.followups, item.kind = kind ∧ item.text = text
      ∧ (item.Unfinished ∨ ∃ disposing ∈ later, disposing.Disposes item) := by
  rw [List.append_cons, feed_append, bind_eq_ok] at h
  obtain ⟨after, hafter, hlater⟩ := h
  obtain ⟨before, _, hstep⟩ := feed_snoc_eq_ok.1 hafter
  obtain ⟨mentioned, hmem, hkind, htext'⟩ := mem_proposalMentions event.assignment_version htext
  obtain ⟨item, hitem, ⟨hkind', htext''⟩, hopen⟩ := (applyEvent_followups hstep).proposal_unfinished hbody hmem
  obtain ⟨kept, hkept, horigin, hstate⟩ := feed_keeps hlater hitem hopen
  refine ⟨kept, hkept, ?_, ?_, hstate⟩
  · exact (congrArg FollowupOrigin.kind horigin).trans (hkind'.trans hkind)
  · exact (congrArg FollowupOrigin.text horigin).trans (htext''.trans htext')

private theorem state_of_reduced {snapshot : AssignmentSnapshotV2}
    (h : reduceAssignmentEventsV2 host events = .ok snapshot) :
    ∃ state, feed (applyEvent host) .initial events = .ok state ∧ state.snapshot = some snapshot
      ∧ state.followups = snapshot.advisory_followups := by
  obtain ⟨state, hrun, hsome⟩ := reduceAssignmentEventsV2_eq_ok.1 h
  exact ⟨state, hrun, hsome, ReducerStateV2.followups_of_some hsome⟩

private theorem ids_nodup {snapshot : AssignmentSnapshotV2} (h : reduceAssignmentEventsV2 host events = .ok snapshot) :
    OriginsSound snapshot.assignment_version (snapshot.advisory_followups.map AdvisoryFollowupV2.origin) := by
  obtain ⟨state, hrun, hsome, _⟩ := state_of_reduced h
  exact feed_followupsSound hrun snapshot hsome

/-- No follow-up is lost in an accepted journal: items stay as they were
    stated, identities and texts are unique, what a proposal leaves unfinished
    stays unfinished until the item is disposed of, and an item is superseded
    only by other unfinished items. -/
theorem followups_retained {snapshot : AssignmentSnapshotV2} (h : reduceAssignmentEventsV2 host events = .ok snapshot) :
    (snapshot.advisory_followups.map AdvisoryFollowupV2.item_id).Nodup
    ∧ (snapshot.advisory_followups.map fun item => (item.kind, item.text)).Nodup
    ∧ (∀ earlier before, earlier <+: events → reduceAssignmentEventsV2 host earlier = .ok before →
      before.advisory_followups.map AdvisoryFollowupV2.origin
        <+: snapshot.advisory_followups.map AdvisoryFollowupV2.origin)
    ∧ (∀ earlier event later reviewId workUnitIds proposal, events = earlier ++ event :: later →
      event.body = .review_requested reviewId workUnitIds (some proposal) →
      ∀ kind, ∀ text ∈ proposal.texts kind, ∃ item ∈ snapshot.advisory_followups, item.kind = kind ∧ item.text = text
        ∧ (item.Unfinished ∨ ∃ disposing ∈ later, disposing.Disposes item))
    ∧ (∀ earlier event before after, earlier ++ [event] <+: events →
      reduceAssignmentEventsV2 host earlier = .ok before →
      reduceAssignmentEventsV2 host (earlier ++ [event]) = .ok after →
      ∀ item ∈ after.advisory_followups, item.state = .superseded →
      (∀ old ∈ before.advisory_followups, old.item_id = item.item_id → old.state ≠ .superseded) →
      ∃ value replacements, event.body = .advisory_followup_disposition_recorded value
        ∧ value.item_id = item.item_id ∧ value.disposition = .superseded
        ∧ value.replacements = some replacements ∧ replacements ≠ []
        ∧ ∀ replacement ∈ replacements, ∃ other ∈ after.advisory_followups, other.kind = replacement.kind
          ∧ other.text = replacement.text ∧ other.Unfinished ∧ other.item_id ≠ item.item_id) := by
  have hsound := ids_nodup h
  obtain ⟨state, hrun, hsome, hfollowups⟩ := state_of_reduced h
  refine ⟨?_, ?_, ?_, ?_, ?_⟩
  · have hids := hsound.ids
    rwa [List.map_map] at hids
  · have htexts := hsound.texts
    rwa [List.map_map] at htexts
  · rintro earlier before ⟨rest, rfl⟩ hbefore
    obtain ⟨start, hstart, _, hstartFollowups⟩ := state_of_reduced hbefore
    rw [feed_append, hstart] at hrun
    rw [← hstartFollowups, ← hfollowups]
    exact feed_extends hrun
  · intro earlier event later reviewId workUnitIds proposal hsplit hbody kind text htext
    rw [hsplit] at hrun
    rw [← hfollowups]
    exact feed_proposal hrun hbody htext
  · intro earlier event before after _ hbefore hafter item hitem hstate hnew
    have hids := (ids_nodup hafter).ids
    rw [List.map_map] at hids
    obtain ⟨start, hstart, _, hstartFollowups⟩ := state_of_reduced hbefore
    obtain ⟨final, hfinal, _, hfinalFollowups⟩ := state_of_reduced hafter
    rw [feed_append, hstart] at hfinal
    have hstep : applyEvent host start event = .ok final := (feed_singleton start event).symm.trans hfinal
    have hfollowupStep := applyEvent_followups hstep
    rw [hstartFollowups, hfinalFollowups] at hfollowupStep
    exact hfollowupStep.superseded hids hitem hstate fun hmem => hnew item hmem rfl hstate

end runs

section sample

/-- A checkpoint with one unfinished item, the direction of the user and its
    continuation. -/
def continuedJournal (proposal : AdvisoryCompletionProposalV1) : List AssignmentEventV2 :=
  journalFrom sampleBinding sampleTime 1
    [("assignment-kernel", .assignment_created advisorySpec),
      ("operator-work-plan", .review_requested "review-1" [] (some proposal)),
      ("operator-work-plan", .input_requested sampleDirection "command-1" "What next?"
        (some ⟨⟨sampleDirection, .needs_input, none, true, false⟩, ["work-edit", "work-inspect", "work-preview"]⟩)),
      ("authenticated-user", .input_supplied sampleDirection "command-1" (some (.str "Go on.")) none),
      ("authenticated-user", .review_resolved "review-1" CONTINUE_ADVISORY_CHECKPOINT_V1
        (some ⟨"command-1", none, "document-1", sampleDirection, "Go on.", none⟩))]

def sampleProposal : AdvisoryCompletionProposalV1 := ⟨[], ["Check the door."], [], none⟩

/-- A decision of the work plan about a follow-up. -/
def dispositionEvent (version : Nat) (value : AdvisoryFollowupDispositionV2) : AssignmentEventV2 :=
  ⟨"advisory-followup:" ++ value.command_id, "assignment-1", version, sampleBinding, sampleTime, "operator-work-plan",
    .advisory_followup_disposition_recorded value⟩

def resolvedJournal : List AssignmentEventV2 :=
  continuedJournal sampleProposal
    ++ [dispositionEvent 6 ⟨"command-2", "followup:2:remaining_work:0", 2, .resolved, "Checked.", none⟩]

/-- The item of the proposal is resolved and still there. -/
theorem followups_retained_resolved :
    ∃ snapshot, reduceAssignmentEventsV2 asciiHost resolvedJournal = .ok snapshot
      ∧ (snapshot.advisory_followups.map AdvisoryFollowupV2.item_id).Nodup
      ∧ ∃ item ∈ snapshot.advisory_followups, item.kind = .remaining_work ∧ item.text = "Check the door."
        ∧ (item.Unfinished ∨ ∃ disposing ∈ resolvedJournal.drop 2, disposing.Disposes item) := by
  have haccepted : (reduceAssignmentEventsV2 asciiHost resolvedJournal).isOk = true := by decide +kernel
  obtain ⟨snapshot, hsnapshot⟩ := exists_of_isOk haccepted
  have hretained := followups_retained hsnapshot
  exact ⟨snapshot, hsnapshot, hretained.1, hretained.2.2.2.1 (resolvedJournal.take 1) _ (resolvedJournal.drop 2)
    "review-1" [] sampleProposal rfl rfl .remaining_work "Check the door." (List.mem_singleton.2 rfl)⟩

/-- The proposal an event brings, if it brings one. -/
def AssignmentEventBodyV2.proposal? : AssignmentEventBodyV2 → Option AdvisoryCompletionProposalV1
  | .review_requested _ _ proposal => proposal
  | _ => none

/-- A text of the latest proposal can be resolved, and then it is neither open
    nor deferred. -/
theorem followups_resolved_after_latest :
    ¬ ∀ (host : JavaScriptHost) (events : List AssignmentEventV2) (snapshot : AssignmentSnapshotV2),
      reduceAssignmentEventsV2 host events = .ok snapshot →
      ∀ earlier event later proposal, events = earlier ++ event :: later → event.body.proposal? = some proposal →
      (∀ other ∈ later, other.body.proposal? = none) →
      ∀ kind, ∀ text ∈ proposal.texts kind,
        ∃ item ∈ snapshot.advisory_followups, item.kind = kind ∧ item.text = text ∧ item.Unfinished := by
  intro h
  have hresolved : (reduceAssignmentEventsV2 asciiHost resolvedJournal).toOption.map (fun snapshot =>
      snapshot.advisory_followups.all fun item => item.state == .resolved) = some true := by decide +kernel
  simp only [Option.map_eq_some_iff, toOption_eq_some] at hresolved
  obtain ⟨snapshot, hsnapshot, hall⟩ := hresolved
  have hlater : ∀ other ∈ resolvedJournal.drop 2, other.body.proposal? = none := by decide
  obtain ⟨item, hitem, -, -, hopen⟩ := h asciiHost resolvedJournal snapshot hsnapshot (resolvedJournal.take 1) _
    (resolvedJournal.drop 2) sampleProposal rfl rfl hlater .remaining_work "Check the door." (List.mem_singleton.2 rfl)
  have hstate : item.state = .resolved := by simpa using List.all_eq_true.1 hall item hitem
  rcases hopen with hopen | hopen
  · rw [hstate] at hopen
    cases hopen
  · rw [hstate] at hopen
    cases hopen

end sample

end revit_operator.assignment_kernel
