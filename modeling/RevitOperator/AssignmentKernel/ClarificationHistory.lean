import RevitOperator.AssignmentKernel.JournalBuilder
import RevitOperator.AssignmentKernel.Planning

open checked checked_run

namespace revit_operator.assignment_kernel

/-- One of the events supplies an answer for the variable under the
    clarification. -/
def Answered (events : List AssignmentEventV2) (variableId clarificationId : String) : Prop :=
  ∃ event ∈ events, ∃ value freshness, event.body = .input_supplied variableId clarificationId value freshness

/-- The event asks under the identity of a clarification that is already
    recorded. -/
def ReusesClarification (state : ReducerStateV2) (event : AssignmentEventV2) : Prop :=
  ∃ snapshot variableId clarificationId question declaration asked, state.snapshot = some snapshot
    ∧ event.body = .input_requested variableId clarificationId question declaration
    ∧ snapshot.clarifications.get? clarificationId = some asked

/-- The clarifications of a snapshot tell what was asked and answered in a
    journal. -/
structure ClarificationsTrue (events : List AssignmentEventV2) (snapshot : AssignmentSnapshotV2) : Prop where
  resolved : ∀ id asked, snapshot.clarifications.get? id = some asked →
    (asked.resolved_at.isSome ↔ Answered events asked.variable_id id)
  pending : ∀ id asked, snapshot.clarifications.get? id = some asked → asked.resolved_at = none →
    asked.variable_id ∈ snapshot.pending_input_variable_ids

/-- A later snapshot has every clarification of an earlier one, about the same
    variable and with the same question. -/
def KeepsClarifications (earlier later : AssignmentSnapshotV2) : Prop :=
  ∀ id asked, earlier.clarifications.get? id = some asked →
    ∃ now, later.clarifications.get? id = some now ∧ now.variable_id = asked.variable_id
      ∧ now.question = asked.question

/-- Through a whole journal the clarifications are true and keep what they
    ask. -/
def ClarificationIdentity (host : JavaScriptHost) (events : List AssignmentEventV2) : Prop :=
  ∀ pre snapshot, pre <+: events → reduceAssignmentEventsV2 host pre = .ok snapshot →
    ClarificationsTrue pre snapshot
    ∧ ∀ earlier before, earlier <+: pre → reduceAssignmentEventsV2 host earlier = .ok before →
      KeepsClarifications before snapshot

section step

/-- What the questions of a state are: the records, the variables that wait and
    the question each of them waits for. -/
structure Questions where
  clarifications : Record Clarification
  pending : List String
  current : Record String

def ReducerStateV2.questions (state : ReducerStateV2) : Questions where
  clarifications := (state.snapshot.map AssignmentSnapshotV2.clarifications).getD ∅
  pending := (state.snapshot.map AssignmentSnapshotV2.pending_input_variable_ids).getD []
  current := state.clarificationByVariable

/-- The event asks a question or supplies an answer. -/
def AssignmentEventBodyV2.concernsQuestions : AssignmentEventBodyV2 → Bool
  | .input_requested .. | .input_supplied .. => true
  | _ => false

/-- What one accepted event does to the questions. -/
inductive QuestionStep (event : AssignmentEventV2) (questions : Questions) : Questions → Prop
  | kept (next : Questions) (hbody : event.body.concernsQuestions = false)
      (hclarifications : next.clarifications = questions.clarifications)
      (hcurrent : next.current = questions.current) (hpending : ∀ id ∈ questions.pending, id ∈ next.pending) :
      QuestionStep event questions next
  | requested (next : Questions) (variableId clarificationId question : String)
      (declaration : Option DiscoveredAssignmentInputV2)
      (hbody : event.body = .input_requested variableId clarificationId question declaration)
      (hfree : questions.current.get? variableId = none)
      (hclarifications : next.clarifications = questions.clarifications.set clarificationId
        ⟨clarificationId, variableId, question, event.occurred_at, none⟩)
      (hcurrent : next.current = questions.current.set variableId clarificationId)
      (hpending : ∀ id, id ∈ next.pending ↔ id ∈ questions.pending ∨ id = variableId) :
      QuestionStep event questions next
  | supplied (next : Questions) (variableId clarificationId : String) (value : Option Json)
      (freshness : Option String) (hbody : event.body = .input_supplied variableId clarificationId value freshness)
      (hcurrent : questions.current.get? variableId = some clarificationId)
      (hclarifications : ∀ id, next.clarifications.get? id = if id = clarificationId then
          (questions.clarifications.get? id).map fun asked => { asked with resolved_at := some event.occurred_at }
        else questions.clarifications.get? id)
      (hnext : next.current = questions.current.delete variableId)
      (hpending : ∀ id, id ∈ next.pending ↔ id ∈ questions.pending ∧ id ≠ variableId) :
      QuestionStep event questions next

variable {host : JavaScriptHost} {state nextState : ReducerStateV2} {event : AssignmentEventV2}

theorem ReducerStateV2.questions_of_some {snapshot : AssignmentSnapshotV2} (hsome : state.snapshot = some snapshot) :
    state.questions
      = ⟨snapshot.clarifications, snapshot.pending_input_variable_ids, state.clarificationByVariable⟩ := by
  simp [ReducerStateV2.questions, hsome]

private theorem remember_questions (state : ReducerStateV2) (h : event.body.concernsQuestions = false) :
    (remember state event).clarificationByVariable = state.clarificationByVariable := by
  unfold remember
  cases hbody : event.body <;> simp_all [AssignmentEventBodyV2.concernsQuestions]

private theorem invalidate_questions (snapshot : AssignmentSnapshotV2) (id : String) :
    (invalidateDependentInputResultsV2 snapshot id).clarifications = snapshot.clarifications
      ∧ (invalidateDependentInputResultsV2 snapshot id).pending_input_variable_ids
        = snapshot.pending_input_variable_ids := by
  unfold invalidateDependentInputResultsV2
  dsimp only
  split <;> exact ⟨rfl, rfl⟩

private theorem answered_clarifications (snapshot : AssignmentSnapshotV2)
    (occurredAt variableId clarificationId : String) (value : Option Json) (id : String) :
    (answeredSnapshot snapshot occurredAt variableId clarificationId value).clarifications.get? id
      = if id = clarificationId then
          (snapshot.clarifications.get? id).map fun asked => { asked with resolved_at := some occurredAt }
        else snapshot.clarifications.get? id := by
  unfold answeredSnapshot
  dsimp only
  by_cases hid : id = clarificationId
  · subst hid
    rw [if_pos rfl]
    cases hasked : snapshot.clarifications.get? id with
    | none => simp [hasked]
    | some asked => simp
  · rw [if_neg hid]
    cases hasked : snapshot.clarifications.get? clarificationId with
    | none => rfl
    | some asked => exact Record.get?_set_of_ne hid

private theorem planning_questions {snapshot : AssignmentSnapshotV2} {planning : PlanningRecord}
    (h : PlanningEffect host state snapshot event planning) (hquiet : event.body.concernsQuestions = false) :
    planning.clarifications = snapshot.clarifications
      ∧ planning.pending_input_variable_ids = snapshot.pending_input_variable_ids := by
  cases h with
  | requested variableId clarificationId question declaration hbody =>
    rw [hbody] at hquiet
    cases hquiet
  | supplied variableId clarificationId value freshness hbody =>
    rw [hbody] at hquiet
    cases hquiet
  | _ => exact ⟨rfl, rfl⟩

private theorem requested_questions {snapshot next : AssignmentSnapshotV2} (hsome : state.snapshot = some snapshot)
    {variableId clarificationId question : String} {declaration : Option DiscoveredAssignmentInputV2}
    (hbody : event.body = .input_requested variableId clarificationId question declaration)
    (h : requestInput host state (snapshot.atVersion event.assignment_version) event.occurred_at variableId
      clarificationId question declaration = .ok next) :
    QuestionStep event state.questions
      (ReducerStateV2.questions { remember state event with snapshot := some (withDerivedState host next) }) := by
  obtain ⟨hfree, hplanning⟩ := requestInput_planning h
  have hclarifications : next.clarifications = snapshot.clarifications.set clarificationId
      ⟨clarificationId, variableId, question, event.occurred_at, none⟩ :=
    congrArg PlanningRecord.clarifications hplanning
  have hpending : next.pending_input_variable_ids
      = text.sortedUnique (snapshot.pending_input_variable_ids ++ [variableId]) :=
    congrArg PlanningRecord.pending_input_variable_ids hplanning
  rw [ReducerStateV2.questions_of_some hsome, ReducerStateV2.questions_of_some rfl]
  refine .requested _ variableId clarificationId question declaration hbody ?_ hclarifications ?_ ?_
  · simpa [Record.has] using hfree
  · simp [remember, hbody]
  · intro id
    have hwaiting : id ∈ next.pending_input_variable_ids ↔ id ∈ snapshot.pending_input_variable_ids ∨ id = variableId := by
      rw [hpending, text.mem_sortedUnique, List.mem_append, List.mem_singleton]
    exact hwaiting

private theorem supplied_questions {snapshot next : AssignmentSnapshotV2} (hsome : state.snapshot = some snapshot)
    {actor variableId clarificationId : String} {value : Option Json} {freshness : Option String}
    (hbody : event.body = .input_supplied variableId clarificationId value freshness)
    (h : supplyInput state (snapshot.atVersion event.assignment_version) actor event.occurred_at variableId
      clarificationId value freshness = .ok next) :
    QuestionStep event state.questions
      (ReducerStateV2.questions { remember state event with snapshot := some (withDerivedState host next) }) := by
  obtain ⟨hcurrent, hnext⟩ := supplyInput_planning h
  have hanswered : next.clarifications
        = (answeredSnapshot (snapshot.atVersion event.assignment_version) event.occurred_at variableId clarificationId
          value).clarifications
      ∧ next.pending_input_variable_ids = snapshot.pending_input_variable_ids.filter (· != variableId) := by
    rw [hnext]
    split
    · exact ⟨(invalidate_questions _ _).1, (invalidate_questions _ _).2⟩
    · exact ⟨rfl, rfl⟩
  rw [ReducerStateV2.questions_of_some hsome, ReducerStateV2.questions_of_some rfl]
  refine .supplied _ variableId clarificationId value freshness hbody hcurrent ?_ ?_ ?_
  · intro id
    have hresolved := answered_clarifications (snapshot.atVersion event.assignment_version) event.occurred_at variableId
      clarificationId value id
    rw [← hanswered.1] at hresolved
    exact hresolved
  · simp [remember, hbody]
  · intro id
    have hwaiting : id ∈ next.pending_input_variable_ids ↔ id ∈ snapshot.pending_input_variable_ids ∧ id ≠ variableId := by
      rw [hanswered.2, List.mem_filter, bne_iff_ne]
    exact hwaiting

theorem applyEvent_questions (h : applyEvent host state event = .ok nextState) :
    QuestionStep event state.questions nextState.questions := by
  cases applyEvent_effect h with
  | created spec hbody hnone =>
    have hbefore : state.questions = ⟨∅, [], state.clarificationByVariable⟩ := by
      simp [ReducerStateV2.questions, hnone]
    rw [hbefore]
    exact .kept _ (by rw [hbody]; rfl) rfl rfl (fun id hid => absurd hid List.not_mem_nil)
  | restarted snapshot hsome hopen hversion hbody =>
    rw [ReducerStateV2.questions_of_some hsome]
    exact .kept _ (by rw [hbody]; rfl) rfl rfl (fun _ hid => hid)
  | recorded snapshot next hsome hopen hversion hlive hbinding hbody hrecord =>
    by_cases hquiet : event.body.concernsQuestions = false
    · obtain ⟨hsame, hwaiting⟩ := planning_questions (recordEvent_planning hrecord) hquiet
      rw [ReducerStateV2.questions_of_some hsome]
      refine .kept _ hquiet hsame (remember_questions state hquiet) ?_
      intro id hid
      exact (congrArg (id ∈ ·) hwaiting).mpr hid
    · cases hkind : event.body with
      | input_requested variableId clarificationId question declaration =>
        simp only [recordEvent, hkind] at hrecord
        exact requested_questions hsome hkind hrecord
      | input_supplied variableId clarificationId value freshness =>
        simp only [recordEvent, hkind] at hrecord
        exact supplied_questions hsome hkind hrecord
      | _ => exact absurd (by rw [hkind]; rfl) hquiet

end step

section answers

variable {events : List AssignmentEventV2} {event : AssignmentEventV2} {variableId clarificationId : String}

theorem Answered.mono (h : Answered events variableId clarificationId) (event : AssignmentEventV2) :
    Answered (events ++ [event]) variableId clarificationId := by
  obtain ⟨answer, hanswer, hsupplied⟩ := h
  exact ⟨answer, List.mem_append_left _ hanswer, hsupplied⟩

theorem answered_snoc : Answered (events ++ [event]) variableId clarificationId ↔
    Answered events variableId clarificationId
      ∨ ∃ value freshness, event.body = .input_supplied variableId clarificationId value freshness := by
  constructor
  · rintro ⟨answer, hanswer, hsupplied⟩
    rcases List.mem_append.1 hanswer with hearlier | hlast
    · exact .inl ⟨answer, hearlier, hsupplied⟩
    · obtain rfl := List.mem_singleton.1 hlast
      exact .inr hsupplied
  · rintro (hearlier | hsupplied)
    · exact hearlier.mono event
    · exact ⟨event, List.mem_append_right _ (List.mem_singleton.2 rfl), hsupplied⟩

theorem answered_snoc_of_quiet (h : event.body.concernsQuestions = false) :
    Answered (events ++ [event]) variableId clarificationId ↔ Answered events variableId clarificationId := by
  rw [answered_snoc, or_iff_left]
  rintro ⟨value, freshness, hbody⟩
  rw [hbody] at h
  cases h

theorem answered_snoc_of_request {asked id question : String} {declaration : Option DiscoveredAssignmentInputV2}
    (h : event.body = .input_requested asked id question declaration) :
    Answered (events ++ [event]) variableId clarificationId ↔ Answered events variableId clarificationId := by
  rw [answered_snoc, or_iff_left]
  rintro ⟨value, freshness, hbody⟩
  rw [h] at hbody
  cases hbody

end answers

section invariants

variable {events : List AssignmentEventV2} {event : AssignmentEventV2} {questions next : Questions}

/-- In every journal a recorded question is what its variable waits for, or it
    was answered. -/
def AskedOrAnswered (events : List AssignmentEventV2) (questions : Questions) : Prop :=
  ∀ id asked, questions.clarifications.get? id = some asked →
    questions.current.get? asked.variable_id = some id ∨ Answered events asked.variable_id id

theorem AskedOrAnswered.step (h : AskedOrAnswered events questions) (hstep : QuestionStep event questions next) :
    AskedOrAnswered (events ++ [event]) next := by
  intro id asked hasked
  cases hstep with
  | kept hbody hclarifications hcurrent =>
    rw [hclarifications] at hasked
    rw [hcurrent, answered_snoc_of_quiet hbody]
    exact h id asked hasked
  | requested variableId clarificationId question declaration hbody hfree hclarifications hcurrent =>
    rw [hclarifications, Record.get?_set] at hasked
    rw [hcurrent, answered_snoc_of_request hbody]
    split_ifs at hasked with hid
    · cases hasked
      exact .inl (hid ▸ Record.get?_set_self _ _ _)
    · refine (h id asked hasked).imp_left fun hwaits => ?_
      -- a variable that may be asked about waits for nothing
      rw [Record.get?_set_of_ne]
      · exact hwaits
      · rintro rfl
        rw [hfree] at hwaits
        cases hwaits
  | supplied variableId clarificationId value freshness hbody hcurrent hclarifications hnext =>
    have hbefore : ∃ before, questions.clarifications.get? id = some before ∧ before.variable_id = asked.variable_id := by
      rw [hclarifications] at hasked
      split_ifs at hasked with hid
      · obtain ⟨before, hbefore, rfl⟩ := Option.map_eq_some_iff.1 hasked
        exact ⟨before, hbefore, rfl⟩
      · exact ⟨asked, hasked, rfl⟩
    obtain ⟨before, hbefore, hvariable⟩ := hbefore
    rw [hnext, Record.get?_delete, answered_snoc]
    rcases h id before hbefore with hwaits | hanswered
    · rw [hvariable] at hwaits
      by_cases hsame : asked.variable_id = variableId
      · -- the answer is for the question the variable waits for
        rw [hsame] at hwaits ⊢
        rw [hcurrent] at hwaits
        cases hwaits
        exact .inr (.inr ⟨value, freshness, hbody⟩)
      · rw [if_neg hsame]
        exact .inl hwaits
    · exact .inr (.inl (hvariable ▸ hanswered))

/-- Without reuse the records, the waiting variables and the answers agree. -/
structure QuestionsAgree (events : List AssignmentEventV2) (questions : Questions) : Prop where
  current : ∀ variableId id, questions.current.get? variableId = some id →
    ∃ asked, questions.clarifications.get? id = some asked ∧ asked.variable_id = variableId
      ∧ asked.resolved_at = none ∧ variableId ∈ questions.pending
  waits : ∀ id asked, questions.clarifications.get? id = some asked → asked.resolved_at = none →
    questions.current.get? asked.variable_id = some id
  resolved : ∀ id asked, questions.clarifications.get? id = some asked →
    (asked.resolved_at.isSome ↔ Answered events asked.variable_id id)
  recorded : ∀ variableId id, Answered events variableId id → (questions.clarifications.get? id).isSome

/-- The event asks under no identity that is already recorded. -/
def AsksAnew (questions : Questions) (event : AssignmentEventV2) : Prop :=
  ∀ variableId id question declaration, event.body = .input_requested variableId id question declaration →
    questions.clarifications.get? id = none

theorem QuestionsAgree.step (h : QuestionsAgree events questions) (hanew : AsksAnew questions event)
    (hstep : QuestionStep event questions next) : QuestionsAgree (events ++ [event]) next := by
  cases hstep with
  | kept hbody hclarifications hcurrent hpending =>
    refine ⟨?_, ?_, ?_, ?_⟩
    · intro variableId id hwaits
      rw [hcurrent] at hwaits
      rw [hclarifications]
      obtain ⟨asked, hasked, hvariable, hopen, hmem⟩ := h.current variableId id hwaits
      exact ⟨asked, hasked, hvariable, hopen, hpending variableId hmem⟩
    · rw [hclarifications, hcurrent]
      exact h.waits
    · intro id asked hasked
      rw [hclarifications] at hasked
      rw [answered_snoc_of_quiet hbody]
      exact h.resolved id asked hasked
    · intro variableId id hanswered
      rw [answered_snoc_of_quiet hbody] at hanswered
      rw [hclarifications]
      exact h.recorded variableId id hanswered
  | requested variableId clarificationId question declaration hbody hfree hclarifications hcurrent hpending =>
    have hnew : questions.clarifications.get? clarificationId = none :=
      hanew variableId clarificationId question declaration hbody
    have hkept : ∀ {id asked}, questions.clarifications.get? id = some asked →
        next.clarifications.get? id = some asked := by
      intro id asked hasked
      rw [hclarifications, Record.get?_set_of_ne]
      · exact hasked
      · rintro rfl
        rw [hnew] at hasked
        cases hasked
    refine ⟨?_, ?_, ?_, ?_⟩
    · intro other id hwaits
      rw [hcurrent, Record.get?_set] at hwaits
      split_ifs at hwaits with hother
      · cases hwaits
        refine ⟨⟨clarificationId, variableId, question, event.occurred_at, none⟩, ?_, hother.symm, rfl,
          (hpending other).2 (.inr hother)⟩
        rw [hclarifications, Record.get?_set_self]
      · obtain ⟨asked, hasked, hvariable, hopen, hmem⟩ := h.current other id hwaits
        exact ⟨asked, hkept hasked, hvariable, hopen, (hpending other).2 (.inl hmem)⟩
    · intro id asked hasked hopen
      rw [hclarifications, Record.get?_set] at hasked
      rw [hcurrent]
      split_ifs at hasked with hid
      · cases hasked
        rw [Record.get?_set_self, hid]
      · have hwaits := h.waits id asked hasked hopen
        rw [Record.get?_set_of_ne]
        · exact hwaits
        · intro hsame
          rw [hsame, hfree] at hwaits
          cases hwaits
    · intro id asked hasked
      rw [answered_snoc_of_request hbody]
      rw [hclarifications, Record.get?_set] at hasked
      split_ifs at hasked with hid
      · cases hasked
        -- nothing was answered under an identity that is new
        refine iff_of_false (by simp) fun hanswered => ?_
        have hrecorded := h.recorded variableId id hanswered
        rw [hid, hnew] at hrecorded
        cases hrecorded
      · exact h.resolved id asked hasked
    · intro other id hanswered
      rw [answered_snoc_of_request hbody] at hanswered
      obtain ⟨asked, hasked⟩ := Option.isSome_iff_exists.1 (h.recorded other id hanswered)
      rw [hkept hasked]
      rfl
  | supplied variableId clarificationId value freshness hbody hcurrent hclarifications hnext hpending =>
    obtain ⟨target, htarget, hvariable, hopen, hmem⟩ := h.current variableId clarificationId hcurrent
    have hresolved : next.clarifications.get? clarificationId
        = some { target with resolved_at := some event.occurred_at } := by
      rw [hclarifications, if_pos rfl, htarget, Option.map_some]
    have hother : ∀ {id}, id ≠ clarificationId → next.clarifications.get? id = questions.clarifications.get? id :=
      fun hid => by rw [hclarifications, if_neg hid]
    refine ⟨?_, ?_, ?_, ?_⟩
    · intro other id hwaits
      rw [hnext, Record.get?_delete] at hwaits
      split_ifs at hwaits with hsame
      obtain ⟨asked, hasked, hasks, hunresolved, hpends⟩ := h.current other id hwaits
      refine ⟨asked, ?_, hasks, hunresolved, (hpending other).2 ⟨hpends, hsame⟩⟩
      rw [hother]
      · exact hasked
      · rintro rfl
        rw [htarget] at hasked
        cases hasked
        exact hsame (hasks.symm.trans hvariable)
    · intro id asked hasked hunresolved
      by_cases hid : id = clarificationId
      · rw [hid, hresolved] at hasked
        cases hasked
        cases hunresolved
      · rw [hother hid] at hasked
        have hwaits := h.waits id asked hasked hunresolved
        rw [hnext, Record.get?_delete, if_neg]
        · exact hwaits
        · intro hsame
          rw [hsame, hcurrent] at hwaits
          cases hwaits
          exact hid rfl
    · intro id asked hasked
      rw [answered_snoc]
      by_cases hid : id = clarificationId
      · rw [hid, hresolved] at hasked
        cases hasked
        rw [hid]
        exact iff_of_true rfl (.inr ⟨value, freshness, hvariable ▸ hbody⟩)
      · rw [hother hid] at hasked
        rw [h.resolved id asked hasked, or_iff_left]
        rintro ⟨value', freshness', hbody'⟩
        rw [hbody] at hbody'
        cases hbody'
        exact hid rfl
    · intro other id hanswered
      by_cases hid : id = clarificationId
      · rw [hid, hresolved]
        rfl
      · rw [hother hid]
        rcases answered_snoc.1 hanswered with hanswered | ⟨value', freshness', hbody'⟩
        · exact h.recorded other id hanswered
        · rw [hbody] at hbody'
          cases hbody'
          exact absurd rfl hid

theorem QuestionStep.keeps (hstep : QuestionStep event questions next) (hanew : AsksAnew questions event)
    {id : String} {asked : Clarification} (hasked : questions.clarifications.get? id = some asked) :
    ∃ now, next.clarifications.get? id = some now ∧ now.variable_id = asked.variable_id
      ∧ now.question = asked.question := by
  cases hstep with
  | kept hbody hclarifications => exact ⟨asked, by rw [hclarifications]; exact hasked, rfl, rfl⟩
  | requested variableId clarificationId question declaration hbody hfree hclarifications =>
    refine ⟨asked, ?_, rfl, rfl⟩
    rw [hclarifications, Record.get?_set_of_ne]
    · exact hasked
    · rintro rfl
      rw [hanew variableId id question declaration hbody] at hasked
      cases hasked
  | supplied variableId clarificationId value freshness hbody hcurrent hclarifications =>
    rw [hclarifications]
    split_ifs
    · exact ⟨{ asked with resolved_at := some event.occurred_at }, by rw [hasked]; rfl, rfl, rfl⟩
    · exact ⟨asked, hasked, rfl, rfl⟩

end invariants

section runs

variable {host : JavaScriptHost} {state final : ReducerStateV2} {event : AssignmentEventV2}
  {events : List AssignmentEventV2}

theorem not_reuses_iff : ¬ ReusesClarification state event ↔ AsksAnew state.questions event := by
  constructor
  · intro h variableId id question declaration hbody
    cases hsome : state.snapshot with
    | none => simp [ReducerStateV2.questions, hsome]
    | some snapshot =>
      rw [ReducerStateV2.questions_of_some hsome]
      by_contra hne
      obtain ⟨asked, hasked⟩ := Option.ne_none_iff_exists'.1 hne
      exact h ⟨snapshot, variableId, id, question, declaration, asked, hsome, hbody, hasked⟩
  · rintro h ⟨snapshot, variableId, id, question, declaration, asked, hsome, hbody, hasked⟩
    have hnone := h variableId id question declaration hbody
    rw [ReducerStateV2.questions_of_some hsome] at hnone
    rw [hasked] at hnone
    cases hnone

theorem feed_askedOrAnswered (h : feed (applyEvent host) .initial events = .ok final) :
    AskedOrAnswered events final.questions := by
  induction events using List.reverseRecOn generalizing final with
  | nil =>
    obtain rfl : ReducerStateV2.initial = final := by simpa using h
    intro id asked hasked
    cases hasked
  | append_singleton first last ih =>
    obtain ⟨middle, hfirst, hlast⟩ := feed_snoc_eq_ok.1 h
    exact (ih hfirst).step (applyEvent_questions hlast)

/-- The steps of a journal without reuse ask under new identities. -/
def AsksAnewThroughout (host : JavaScriptHost) (events : List AssignmentEventV2) : Prop :=
  StepsMeet (applyEvent host) .initial events fun state event => ¬ ReusesClarification state event

theorem AsksAnewThroughout.of_prefix {earlier : List AssignmentEventV2} (h : AsksAnewThroughout host events)
    (hstart : earlier <+: events) : AsksAnewThroughout host earlier :=
  fun pre input hpre => h pre input (hpre.trans hstart)

/-- Along a journal without reuse records, waiting variables and answers
    agree. -/
theorem feed_questionsAgree (hanew : AsksAnewThroughout host events)
    (h : feed (applyEvent host) .initial events = .ok final) : QuestionsAgree events final.questions := by
  induction events using List.reverseRecOn generalizing final with
  | nil =>
    obtain rfl : ReducerStateV2.initial = final := by simpa using h
    refine ⟨fun variableId id h => ?_, fun id asked h => ?_, fun id asked h => ?_, fun variableId id h => ?_⟩
    · cases h
    · cases h
    · cases h
    · obtain ⟨answer, hanswer, _⟩ := h
      cases hanswer
  | append_singleton first last ih =>
    obtain ⟨middle, hfirst, hlast⟩ := feed_snoc_eq_ok.1 h
    have hnew := not_reuses_iff.1 (hanew first last List.prefix_rfl middle hfirst)
    exact (ih (hanew.of_prefix (List.prefix_append _ _)) hfirst).step hnew (applyEvent_questions hlast)

theorem feed_keepsQuestions {earlier later : List AssignmentEventV2}
    (hanew : AsksAnewThroughout host (earlier ++ later)) (hearlier : feed (applyEvent host) .initial earlier = .ok state)
    (h : feed (applyEvent host) .initial (earlier ++ later) = .ok final) {id : String} {asked : Clarification}
    (hasked : state.questions.clarifications.get? id = some asked) :
    ∃ now, final.questions.clarifications.get? id = some now ∧ now.variable_id = asked.variable_id
      ∧ now.question = asked.question := by
  induction later using List.reverseRecOn generalizing final with
  | nil =>
    rw [List.append_nil, hearlier] at h
    cases h
    exact ⟨asked, hasked, rfl, rfl⟩
  | append_singleton first last ih =>
    rw [← List.append_assoc] at h hanew
    obtain ⟨middle, hfirst, hlast⟩ := feed_snoc_eq_ok.1 h
    obtain ⟨kept, hkept, hvariable, hquestion⟩ := ih (hanew.of_prefix (List.prefix_append _ _)) hfirst
    have hnew := not_reuses_iff.1 (hanew _ last List.prefix_rfl middle hfirst)
    obtain ⟨now, hnow, hvariable', hquestion'⟩ := (applyEvent_questions hlast).keeps hnew hkept
    exact ⟨now, hnow, hvariable'.trans hvariable, hquestion'.trans hquestion⟩

private theorem state_of_journal {snapshot : AssignmentSnapshotV2}
    (h : reduceAssignmentEventsV2 host events = .ok snapshot) :
    ∃ state, feed (applyEvent host) .initial events = .ok state ∧ state.snapshot = some snapshot
      ∧ state.questions
        = ⟨snapshot.clarifications, snapshot.pending_input_variable_ids, state.clarificationByVariable⟩ := by
  obtain ⟨state, hrun, hsome⟩ := reduceAssignmentEventsV2_eq_ok.1 h
  exact ⟨state, hrun, hsome, ReducerStateV2.questions_of_some hsome⟩

theorem clarificationIdentity_of_anew (hanew : AsksAnewThroughout host events) : ClarificationIdentity host events := by
  intro pre snapshot hpre hsnapshot
  have hpreAnew := hanew.of_prefix hpre
  obtain ⟨state, hrun, hsome, hquestions⟩ := state_of_journal hsnapshot
  have hagree := feed_questionsAgree hpreAnew hrun
  rw [hquestions] at hagree
  refine ⟨⟨hagree.resolved, ?_⟩, ?_⟩
  · intro id asked hasked hopen
    obtain ⟨_, _, _, _, hpending⟩ := hagree.current asked.variable_id id (hagree.waits id asked hasked hopen)
    exact hpending
  · rintro earlier before ⟨later, rfl⟩ hbefore id asked hasked
    obtain ⟨start, hstart, _, hstartQuestions⟩ := state_of_journal hbefore
    have hstartAsked : start.questions.clarifications.get? id = some asked := by
      rw [hstartQuestions]
      exact hasked
    have hkept := feed_keepsQuestions hpreAnew hstart hrun hstartAsked
    rwa [hquestions] at hkept

theorem anew_of_clarificationIdentity (h : feed (applyEvent host) .initial events = .ok final)
    (hidentity : ClarificationIdentity host events) : AsksAnewThroughout host events := by
  rintro pre event hpre state hstate ⟨snapshot, variableId, id, question, declaration, asked, hsome, hbody, hasked⟩
  obtain ⟨next, hnext⟩ := feed_prefix hpre h
  obtain ⟨_, hstate', hstep⟩ := feed_snoc_eq_ok.1 hnext
  rw [hstate] at hstate'
  cases hstate'
  have hnextSome : ∃ nextSnapshot, next.snapshot = some nextSnapshot := by
    cases applyEvent_effect hstep <;> exact ⟨_, rfl⟩
  obtain ⟨nextSnapshot, hnextSome⟩ := hnextSome
  have hbefore : reduceAssignmentEventsV2 host pre = .ok snapshot :=
    reduceAssignmentEventsV2_eq_ok.2 ⟨state, hstate, hsome⟩
  have hafter : reduceAssignmentEventsV2 host (pre ++ [event]) = .ok nextSnapshot :=
    reduceAssignmentEventsV2_eq_ok.2 ⟨next, hnext, hnextSome⟩
  obtain ⟨htrue, hkeeps⟩ := hidentity (pre ++ [event]) nextSnapshot hpre hafter
  obtain ⟨now, hnow, hvariable, _⟩ := hkeeps pre snapshot (List.prefix_append _ _) hbefore id asked hasked
  have hwaitsOrAnswered := feed_askedOrAnswered hstate id asked (by
    rw [ReducerStateV2.questions_of_some hsome]
    exact hasked)
  have hquestions := applyEvent_questions hstep
  rw [ReducerStateV2.questions_of_some hnextSome] at hquestions
  cases hquestions with
  | kept hquiet =>
    rw [hbody] at hquiet
    cases hquiet
  | supplied variableId' clarificationId value freshness hbody' =>
    rw [hbody] at hbody'
    cases hbody'
  | requested variableId' id' question' declaration' hbody' hfree hclarifications =>
    rw [hbody] at hbody'
    cases hbody'
    have hnew : nextSnapshot.clarifications.get? id = some ⟨id, variableId, question, event.occurred_at, none⟩ := by
      rw [show nextSnapshot.clarifications = _ from hclarifications, Record.get?_set_self]
    rw [hnew] at hnow
    cases hnow
    have hopen := htrue.resolved id _ hnew
    rcases hwaitsOrAnswered with hwaits | hanswered
    · rw [← hvariable, hfree] at hwaits
      cases hwaits
    · rw [← hvariable] at hanswered
      exact absurd (hopen.2 (hanswered.mono event)) (by simp)

/-- An accepted journal keeps the identity of its clarifications exactly when
    it asks no question under an identity that is already recorded. -/
theorem clarification_identity_iff {snapshot : AssignmentSnapshotV2}
    (h : reduceAssignmentEventsV2 host events = .ok snapshot) :
    ClarificationIdentity host events ↔ AsksAnewThroughout host events := by
  obtain ⟨final, hrun, _⟩ := reduceAssignmentEventsV2_eq_ok.1 h
  exact ⟨anew_of_clarificationIdentity hrun, clarificationIdentity_of_anew⟩

end runs

section sample

/-- An input the user still has to give. -/
def missingInput (variableId : String) : AssignmentInputVariableV2 := ⟨variableId, .needs_input, none, true, false⟩

/-- Two questions under one identity, and the answer to the first. -/
def reusedQuestionJournal : List AssignmentEventV2 :=
  journalFrom sampleBinding sampleTime 1
    [("assignment-kernel",
        .assignment_created { sampleSpec with input_variables := [missingInput "level", missingInput "phase"] }),
      ("operator", .input_requested "level" "clarification-1" "Which level?" none),
      ("operator", .input_requested "phase" "clarification-1" "Which phase?" none),
      ("authenticated-user", .input_supplied "level" "clarification-1" (some (.str "Level 2")) none)]

theorem clarification_identity_iff_reused :
    ∃ snapshot, reduceAssignmentEventsV2 asciiHost reusedQuestionJournal = .ok snapshot
      ∧ (ClarificationIdentity asciiHost reusedQuestionJournal ↔ AsksAnewThroughout asciiHost reusedQuestionJournal) := by
  have haccepted : (reduceAssignmentEventsV2 asciiHost reusedQuestionJournal).isOk = true := by decide +kernel
  obtain ⟨snapshot, hsnapshot⟩ := exists_of_isOk haccepted
  exact ⟨snapshot, hsnapshot, clarification_identity_iff hsnapshot⟩

/-- The answer for the level marks the question about the phase as
    answered. -/
theorem reused_clarification_misattributed :
    ¬ ∀ (host : JavaScriptHost) (events : List AssignmentEventV2) (snapshot : AssignmentSnapshotV2),
      reduceAssignmentEventsV2 host events = .ok snapshot → ClarificationIdentity host events := by
  intro h
  have hmarked : (reduceAssignmentEventsV2 asciiHost reusedQuestionJournal).toOption.map (fun snapshot =>
      snapshot.clarifications.get? "clarification-1")
      = some (some ⟨"clarification-1", "phase", "Which phase?", sampleTime, some sampleTime⟩) := by decide +kernel
  simp only [Option.map_eq_some_iff, toOption_eq_some] at hmarked
  obtain ⟨snapshot, hsnapshot, hasked⟩ := hmarked
  have htrue := (h asciiHost reusedQuestionJournal snapshot hsnapshot reusedQuestionJournal snapshot List.prefix_rfl
    hsnapshot).1
  obtain ⟨answer, hanswer, value, freshness, hbody⟩ := (htrue.resolved _ _ hasked).1 rfl
  simp only [reusedQuestionJournal, journalFrom, List.mem_cons, List.not_mem_nil, or_false] at hanswer
  rcases hanswer with rfl | rfl | rfl | rfl <;> simp at hbody

end sample

end revit_operator.assignment_kernel
