import RevitOperator.McpServer.NativeRun

open checked
open revit_operator.contracts

/-! What holds of the native calls of a run however they overlap, and when the
    children that are opened are told apart. -/

namespace revit_operator.mcp_server

open checked_run

namespace ToolRun

variable {host : KernelHost} {run next : ToolRun}

/-- The id of a request is made from the place of its call. -/
def Placed (host : KernelHost) (identities : List CallIdentity) : Prop :=
  ∀ index identity, identities[index]? = some identity →
    identity.request_id = sha256 host (requestValue host identity index)

/-- The request has its call at the place. -/
def Issued (identities : List CallIdentity) (request : AssignmentKernelNativeRequestV2) (index : Nat) : Prop :=
  ∃ identity, identities[index]? = some identity ∧ identity.request_id = request.request_id
    ∧ identity.operation_id = request.operation_id

/-- What holds of every run, whatever overlaps. -/
structure Sound (host : KernelHost) (run : ToolRun) : Prop where
  unclaimed : run.scope.parent_claimed = false → ∀ identity ∈ run.scope.identities, identity.operation_role ≠ .root
  parent : (run.scope.identities.filter fun identity => identity.operation_role = .root).length ≤ 1
  placed : Placed host run.scope.identities
  issued : ∀ request index, (request, index) ∈ run.issued → Issued run.scope.identities request index
  places : (run.issued.map Prod.snd).Nodup
  marking : ∀ ticket request index, run.suspended ticket = some (.marking request index) →
    Issued run.scope.identities request index
  settling : ∀ ticket request index, run.suspended ticket = some (.settling request index) →
    Issued run.scope.identities request index
  ordinals : ∀ admission ∈ run.admissions, admission.child_ordinal ≤ run.scope.native_calls.length

theorem initial_sound (context : Context) : Sound host (initial context) := by
  refine ⟨?_, ?_, ?_, ?_, ?_, ?_, ?_, ?_⟩ <;> simp [initial, Scope.identities, Placed]

variable {identities : List CallIdentity} {request : AssignmentKernelNativeRequestV2}

theorem Issued.unique (hsha : host.Tells) (hplaced : Placed host identities) {i j : Nat} (hi : Issued identities request i)
    (hj : Issued identities request j) : i = j := by
  obtain ⟨first, hfirst, hfirstId, -⟩ := hi
  obtain ⟨second, hsecond, hsecondId, -⟩ := hj
  exact requestValue_inj hsha
    ((hplaced i first hfirst).symm.trans ((hfirstId.trans hsecondId.symm).trans (hplaced j second hsecond)))

theorem Placed.nodup (hsha : host.Tells) (hplaced : Placed host identities) :
    (identities.map fun identity => identity.request_id).Nodup := by
  rw [List.nodup_iff_getElem?_ne_getElem?]
  intro i j hij hj hsame
  simp only [List.getElem?_map, List.length_map] at hsame hj
  obtain ⟨second, hsecond⟩ : ∃ second, identities[j]? = some second := ⟨_, List.getElem?_eq_getElem hj⟩
  rw [hsecond, Option.map_some, Option.map_eq_some_iff] at hsame
  obtain ⟨first, hfirst, hid⟩ := hsame
  have hplace := requestValue_inj hsha ((hplaced i first hfirst).symm.trans (hid.trans (hplaced j second hsecond)))
  omega

variable {index : Nat}

theorem getElem?_identities {scope : Scope} {identity : CallIdentity} :
    scope.identities[index]? = some identity ↔ ∃ call, scope.native_calls[index]? = some call ∧ call.identity = identity := by
  rw [Scope.identities, List.getElem?_map, Option.map_eq_some_iff]

theorem issued_of_nativeCall {scope : Scope}
    (h : nativeCall scope (some request) = .ok (some index)) : Issued scope.identities request index := by
  rw [nativeCall] at h
  split at h
  · cases h
  · next place hplace =>
    split_ifs at h with hoperation
    obtain rfl : place = index := by simpa using h
    obtain ⟨hlt, hid, -⟩ := List.findIdx?_eq_some_iff_getElem.1 hplace
    have hcall : scope.native_calls[place]? = some scope.native_calls[place] := List.getElem?_eq_getElem hlt
    rw [hcall] at hoperation
    exact ⟨_, getElem?_identities.2 ⟨_, hcall, rfl⟩, of_decide_eq_true hid, of_decide_eq_true hoperation⟩

theorem nativeCall_of_issued (hsha : host.Tells) {scope : Scope} (hplaced : Placed host scope.identities)
    (h : Issued scope.identities request index) :
    nativeCall scope (some request) = .ok (some index) := by
  obtain ⟨identity, hidentity, hid, hoperation⟩ := h
  obtain ⟨call, hcall, rfl⟩ := getElem?_identities.1 hidentity
  obtain ⟨hlt, hget⟩ := List.getElem?_eq_some_iff.1 hcall
  have hfound : scope.native_calls.findIdx? (fun candidate => candidate.request_id = request.request_id) = some index := by
    rw [List.findIdx?_eq_some_iff_getElem]
    refine ⟨hlt, by rw [hget]; exact decide_eq_true hid, fun earlier hearlier => ?_⟩
    intro hsame
    have hearlierCall : scope.native_calls[earlier]? = some scope.native_calls[earlier] :=
      List.getElem?_eq_getElem (hearlier.trans hlt)
    have hplace := requestValue_inj hsha ((hplaced earlier _ (getElem?_identities.2 ⟨_, hearlierCall, rfl⟩)).symm.trans
      (((of_decide_eq_true hsame : _ = request.request_id).trans hid.symm).trans (hplaced index _ hidentity)))
    omega
  simp only [nativeCall, hfound, hcall, Option.any_some]
  exact if_pos (decide_eq_true hoperation)

theorem Issued.append
    (h : Issued identities request index) (entered : CallIdentity) : Issued (identities ++ [entered]) request index := by
  obtain ⟨identity, hidentity, hrest⟩ := h
  obtain ⟨hlt, -⟩ := List.getElem?_eq_some_iff.1 hidentity
  exact ⟨identity, by rw [List.getElem?_append_left hlt, hidentity], hrest⟩

theorem Issued.lt_length
    (h : Issued identities request index) : index < identities.length := by
  obtain ⟨identity, hidentity, -⟩ := h
  exact (List.getElem?_eq_some_iff.1 hidentity).1

theorem length_identities (scope : Scope) : scope.identities.length = scope.native_calls.length :=
  List.length_map _

/-- A call that is entered has an id of its place, and its request finds it. -/
structure Enters (host : KernelHost) (scope : Scope) (reserved : Scope × AssignmentKernelNativeRequestV2)
    (entered : CallIdentity) : Prop where
  identities : reserved.1.identities = scope.identities ++ [entered]
  placed : entered.request_id = sha256 host (requestValue host entered scope.native_calls.length)
  request : entered.request_id = reserved.2.request_id ∧ entered.operation_id = reserved.2.operation_id

theorem reserve_enters (host : KernelHost) (scope : Scope) (lease : Context) (role : OperationRole) (effect : ClassifiedEffect)
    (method path : String) (body : Option Json) : ∃ entered : CallIdentity, entered.operation_role = role
      ∧ Enters host scope (scope.reserve host lease role effect method path body) entered := by
  refine ⟨_, rfl, ⟨by rw [Scope.reserve, Scope.identities, List.map_append]; rfl, rfl, ⟨rfl, rfl⟩⟩⟩

theorem Sound.issue (h : Sound host run) {reserved : Scope × AssignmentKernelNativeRequestV2} {entered : CallIdentity}
    (henters : Enters host run.scope reserved entered)
    (hclaimed : reserved.1.parent_claimed = run.scope.parent_claimed ∧ entered.operation_role ≠ .root
      ∨ reserved.1.parent_claimed = true ∧ run.scope.parent_claimed = false) : Sound host (run.issue reserved) := by
  have hids : (run.issue reserved).scope.identities = run.scope.identities ++ [entered] := henters.identities
  have hlength : (run.issue reserved).scope.native_calls.length = run.scope.native_calls.length + 1 := by
    rw [← length_identities, hids, List.length_append, length_identities]
    rfl
  have hnew : (run.scope.identities ++ [entered])[run.scope.native_calls.length]? = some entered := by
    rw [← length_identities, List.getElem?_concat_length]
  refine ⟨?_, ?_, ?_, ?_, ?_, ?_, ?_, ?_⟩
  · intro hunclaimed identity hidentity
    obtain ⟨hsame, hrole⟩ | ⟨hset, -⟩ := hclaimed
    · rw [hids, List.mem_append, List.mem_singleton] at hidentity
      obtain hold | rfl := hidentity
      · exact h.unclaimed (hsame ▸ hunclaimed) identity hold
      · exact hrole
    · exact absurd (hset.symm.trans hunclaimed) (by simp)
  · rw [hids, List.filter_append, List.length_append]
    obtain ⟨-, hrole⟩ | ⟨-, hunclaimed⟩ := hclaimed
    · simpa [hrole] using h.parent
    · have hnone : run.scope.identities.filter (fun identity => identity.operation_role = .root) = [] := by
        rw [List.filter_eq_nil_iff]
        intro identity hidentity hroot
        exact h.unclaimed hunclaimed identity hidentity (of_decide_eq_true hroot)
      rw [hnone, List.length_nil, Nat.zero_add]
      exact List.length_filter_le _ _
  · intro index identity hidentity
    rw [hids] at hidentity
    obtain hlt | hge := Nat.lt_or_ge index run.scope.identities.length
    · rw [List.getElem?_append_left hlt] at hidentity
      exact h.placed index identity hidentity
    · rw [List.getElem?_append_right hge] at hidentity
      obtain rfl : index = run.scope.native_calls.length := by
        obtain ⟨hlast, -⟩ := List.getElem?_eq_some_iff.1 hidentity
        rw [← length_identities]
        simp only [List.length_singleton] at hlast
        omega
      rw [← length_identities, Nat.sub_self] at hidentity
      obtain rfl : entered = identity := Option.some.inj hidentity
      exact henters.placed
  · intro request index hissued
    rw [hids]
    obtain hold | hlast := List.mem_append.1 hissued
    · exact (h.issued request index hold).append entered
    · obtain ⟨rfl, rfl⟩ : request = reserved.2 ∧ index = run.scope.native_calls.length := by
        simpa using List.mem_singleton.1 hlast
      exact ⟨entered, hnew, henters.request⟩
  · have hplaces : (run.issue reserved).issued.map Prod.snd
        = run.issued.map Prod.snd ++ [run.scope.native_calls.length] := by
      simp [ToolRun.issue]
    rw [hplaces, List.nodup_append]
    refine ⟨h.places, by simp, fun index hindex last hlast => ?_⟩
    obtain ⟨⟨request, place⟩, hmem, rfl⟩ := List.mem_map.1 hindex
    have hlt := (h.issued request place hmem).lt_length
    rw [length_identities] at hlt
    rw [List.mem_singleton.1 hlast]
    exact hlt.ne
  · intro ticket request index hwaiting
    rw [hids]
    exact (h.marking ticket request index hwaiting).append entered
  · intro ticket request index hwaiting
    rw [hids]
    exact (h.settling ticket request index hwaiting).append entered
  · intro admission hadmission
    have hle := h.ordinals admission hadmission
    omega

theorem Sound.rescope (h : Sound host run) {scope : Scope} (hids : scope.identities = run.scope.identities)
    (hclaimed : scope.parent_claimed = run.scope.parent_claimed) : Sound host { run with scope } := by
  have hlength : scope.native_calls.length = run.scope.native_calls.length := by
    rw [← length_identities, hids, length_identities]
  refine ⟨?_, ?_, ?_, ?_, h.places, ?_, ?_, ?_⟩
  · simpa only [hids, hclaimed] using h.unclaimed
  · simpa only [hids] using h.parent
  · simpa only [hids] using h.placed
  · simpa only [hids] using h.issued
  · simpa only [hids] using h.marking
  · simpa only [hids] using h.settling
  · simpa only [hlength] using h.ordinals

theorem Sound.suspend (h : Sound host run) (ticket : Nat) {call : Suspended}
    (hcall : ∀ request index, call = .marking request index ∨ call = .settling request index →
      Issued run.scope.identities request index) : Sound host (run.suspend ticket call) := by
  refine ⟨h.unclaimed, h.parent, h.placed, h.issued, h.places, ?_, ?_, h.ordinals⟩
  · intro other request index hother
    by_cases hsame : other = ticket
    · subst hsame
      simp only [ToolRun.suspend, Function.update_self, Option.some.injEq] at hother
      exact hcall request index (.inl hother)
    · simp only [ToolRun.suspend, Function.update_of_ne hsame] at hother
      exact h.marking other request index hother
  · intro other request index hother
    by_cases hsame : other = ticket
    · subst hsame
      simp only [ToolRun.suspend, Function.update_self, Option.some.injEq] at hother
      exact hcall request index (.inr hother)
    · simp only [ToolRun.suspend, Function.update_of_ne hsame] at hother
      exact h.settling other request index hother

theorem Sound.resume (h : Sound host run) (ticket : Nat) : Sound host (run.resume ticket) := by
  refine ⟨h.unclaimed, h.parent, h.placed, h.issued, h.places, ?_, ?_, h.ordinals⟩
  · intro other request index hother
    by_cases hsame : other = ticket
    · simp [ToolRun.resume, hsame] at hother
    · simp only [ToolRun.resume, Function.update_of_ne hsame] at hother
      exact h.marking other request index hother
  · intro other request index hother
    by_cases hsame : other = ticket
    · simp [ToolRun.resume, hsame] at hother
    · simp only [ToolRun.resume, Function.update_of_ne hsame] at hother
      exact h.settling other request index hother

theorem Sound.record (h : Sound host run) (ticket : Nat)
    {recorded : Recorded} (hrecords : Records run.scope request recorded) {waiting : Nat → Suspended}
    (hwaiting : ∀ place other index, waiting place = .marking other index ∨ waiting place = .settling other index →
      other = request ∧ index = place) : Sound host (run.record ticket recorded waiting) := by
  have hscope := h.rescope hrecords.identities hrecords.claimed
  rw [ToolRun.record]
  split
  · next place hplace =>
    refine hscope.suspend ticket fun other index hcall => ?_
    obtain ⟨rfl, rfl⟩ := hwaiting place other index hcall
    rw [show ({ run with scope := recorded.1 } : ToolRun).scope.identities = run.scope.identities from hrecords.identities]
    exact issued_of_nativeCall (hrecords.waits _ hplace)
  · exact hscope

section beginning

variable {scope : Scope} {method path : String} {body : Option Json} {options : NativeRequestOptions}

/-- A call that begins claims the parent, which no call claimed before, or opens a
    child under the length of the list. -/
theorem begin_cases {begun : Begun}
    (h : beginAssignmentKernelNativeRequestV2 host scope method path body options = .ok begun) :
    (scope.parent_claimed = false ∧ ∃ effect method path reserved,
        { scope with parent_claimed := true }.reserve host scope.context .root effect method path body = reserved
          ∧ begun = .reserved reserved.1 reserved.2)
      ∨ ∃ admission call, begun = .opening admission call
          ∧ admission.child_ordinal = scope.native_calls.length := by
  rw [beginAssignmentKernelNativeRequestV2, bind_eq_ok] at h
  obtain ⟨_, -, h⟩ := h
  rw [bind_eq_ok] at h
  obtain ⟨_, -, h⟩ := h
  cases heffect : classifiedEffect? (options.classified_effect.getD scope.context.requested_effect.name) with
  | none => simp [heffect, throw, throwThe, MonadExceptOf.throw] at h
  | some effect =>
    simp only [heffect] at h
    by_cases hclaims : options.operation_role.isNone ∧ ¬ scope.parent_claimed
        ∧ operationMatchesNativeRequest host scope.context
          (nativeRequestIdentity host (host.toUpperCase (text.trim method)) (text.trim path) body) body effect
    · rw [if_pos hclaims] at h
      simp only [pure, Except.pure, Except.ok.injEq] at h
      exact .inl ⟨by simpa using hclaims.2.1, effect, _, _, _, rfl, h.symm⟩
    · rw [if_neg hclaims] at h
      simp only [pure, Except.pure, Except.ok.injEq] at h
      exact .inr ⟨_, _, h.symm, rfl⟩

theorem begin_opening {admission : ChildAdmissionInput} {call : Opening}
    (h : beginAssignmentKernelNativeRequestV2 host scope method path body options = .ok (.opening admission call)) :
    admission.child_ordinal = scope.native_calls.length := by
  obtain ⟨-, _, _, _, _, -, hreserved⟩ | ⟨_, _, hopening, hordinal⟩ := begin_cases h
  · cases hreserved
  · cases hopening
    exact hordinal

theorem openedChild_enters {call : Opening} {answer : Except String Context}
    {reserved : Scope × AssignmentKernelNativeRequestV2}
    (h : (answer >>= openedChild host scope call) = .ok reserved) :
    reserved.1.parent_claimed = scope.parent_claimed ∧ ∃ entered : CallIdentity, entered.operation_role ≠ .root
      ∧ Enters host scope reserved entered := by
  rw [bind_eq_ok] at h
  obtain ⟨lease, -, h⟩ := h
  rw [openedChild, bind_eq_ok] at h
  obtain ⟨_, -, h⟩ := h
  rw [bind_eq_ok] at h
  obtain ⟨_, -, h⟩ := h
  obtain rfl : scope.reserve host lease (.of call.role) call.effect call.method call.path call.body = reserved := by
    simpa [pure, Except.pure] using h
  obtain ⟨entered, hrole, henters⟩ := reserve_enters host scope lease (.of call.role) call.effect call.method
    call.path call.body
  exact ⟨rfl, entered, by simp [hrole], henters⟩

end beginning

/-- What an accepted event does to a run. -/
inductive Does (host : KernelHost) (run : ToolRun) : RunEvent → ToolRun → Prop
  | refused {event : RunEvent} : Does host run event run
  | dropped {event : RunEvent} {ticket : Nat} : Does host run event (run.resume ticket)
  | claimed {event : RunEvent} {reserved : Scope × AssignmentKernelNativeRequestV2} {entered : CallIdentity}
      (hacts : run.actsFor event = none) (henters : Enters host run.scope reserved entered)
      (hclaims : reserved.1.parent_claimed = true ∧ run.scope.parent_claimed = false) :
      Does host run event (run.issue reserved)
  | opening {ticket : Nat} {method path : String} {body : Option Json} {options : NativeRequestOptions}
      {admission : ChildAdmissionInput} {call : Opening}
      (hbegin : beginAssignmentKernelNativeRequestV2 host run.scope method path body options
        = .ok (.opening admission call)) :
      Does host run (.begin ticket method path body options)
        ({ run with admissions := run.admissions ++ [admission] }.suspend ticket (.opening call))
  | entered {event : RunEvent} {ticket : Nat} {reserved : Scope × AssignmentKernelNativeRequestV2}
      {entered : CallIdentity} (hacts : run.actsFor event = none) (henters : Enters host run.scope reserved entered)
      (hclaims : reserved.1.parent_claimed = run.scope.parent_claimed ∧ entered.operation_role ≠ .root) :
      Does host run event ((run.issue reserved).resume ticket)
  | recorded {event : RunEvent} {ticket : Nat} {request : AssignmentKernelNativeRequestV2} {recorded : Recorded}
      {waiting : Nat → Suspended} (hacts : run.actsFor event = some request)
      (hrecords : Records run.scope request recorded)
      (hwaiting : ∀ place other index, waiting place = .marking other index ∨ waiting place = .settling other index →
        other = request ∧ index = place) :
      Does host run event (run.record ticket recorded waiting)
  | written {event : RunEvent} {ticket : Nat} {request : AssignmentKernelNativeRequestV2} {index : Nat}
      {change : NativeCall → NativeCall} (hacts : run.actsFor event = some request)
      (hwaits : run.suspended ticket = some (.marking request index)
        ∨ run.suspended ticket = some (.settling request index))
      (hidentity : ∀ call, (change call).identity = call.identity) :
      Does host run event ({ run with scope := run.scope.write index change }.resume ticket)

variable {ticket : Nat}

theorem begin_does {method path : String} {body : Option Json} {options : NativeRequestOptions}
    (h : step host run (.begin ticket method path body options) = .ok next) :
    Does host run (.begin ticket method path body options) next := by
  simp only [step] at h
  split at h
  · cases h
  · split at h
    · obtain rfl : run = next := Except.ok.inj h
      exact .refused
    · next scope request hbegin =>
      obtain rfl := Except.ok.inj h
      obtain ⟨hunclaimed, effect, method, path, reserved, hreserved, hbegun⟩ | ⟨_, _, hopening, -⟩ := begin_cases hbegin
      · obtain ⟨entered, -, henters⟩ := reserve_enters host { run.scope with parent_claimed := true }
          run.scope.context .root effect method path body
        rw [hreserved] at henters
        obtain ⟨rfl, rfl⟩ := Begun.reserved.inj hbegun
        refine .claimed rfl ⟨henters.identities, henters.placed, henters.request⟩ ⟨?_, hunclaimed⟩
        rw [← hreserved]
        rfl
      · cases hopening
    · next hbegin =>
      obtain rfl := Except.ok.inj h
      exact .opening hbegin

theorem opened_does {answer : Except String Context}
    (h : step host run (.opened ticket answer) = .ok next) : Does host run (.opened ticket answer) next := by
  simp only [step] at h
  split at h
  · split at h
    · obtain rfl := Except.ok.inj h
      exact .dropped
    · next hopened =>
      obtain rfl := Except.ok.inj h
      obtain ⟨hclaimed, entered, hrole, henters⟩ := openedChild_enters hopened
      exact .entered rfl henters ⟨hclaimed, hrole⟩
  · cases h

theorem marked_does {answer : Except String Unit}
    (h : step host run (.marked ticket answer) = .ok next) : Does host run (.marked ticket answer) next := by
  simp only [step] at h
  split at h
  · next request index hwaits =>
    split at h
    · obtain rfl := Except.ok.inj h
      exact .dropped
    · obtain rfl := Except.ok.inj h
      exact .written (by simp [actsFor, hwaits]) (.inl hwaits) fun _ => rfl
  · cases h

theorem settled_does {answer : Except String Json}
    (h : step host run (.settled ticket answer) = .ok next) : Does host run (.settled ticket answer) next := by
  simp only [step] at h
  split at h
  · next request index hwaits =>
    obtain rfl := Except.ok.inj h
    refine .written (by simp [actsFor, hwaits]) (.inr hwaits) fun call => ?_
    cases answer <;> rfl
  · cases h

variable {event : RunEvent}

/-- An accepted event enters a call, opens a child, or records what became of the
    call it acts for. -/
theorem step_does (h : step host run event = .ok next) : Does host run event next := by
  cases event with
  | begin => exact begin_does h
  | opened => exact opened_does h
  | marked => exact marked_does h
  | settled => exact settled_does h
  | mark ticket request =>
    simp only [step] at h
    split_ifs at h
    obtain rfl := Except.ok.inj h
    exact .recorded rfl mark_records fun place other index hcall => by simpa [eq_comm] using hcall
  | result ticket method path payload request =>
    simp only [step] at h
    split_ifs at h
    obtain rfl := Except.ok.inj h
    exact .recorded rfl result_records fun place other index hcall => by simpa [eq_comm] using hcall
  | failure ticket request error =>
    simp only [step] at h
    split_ifs at h
    obtain rfl := Except.ok.inj h
    exact .recorded rfl failure_records fun place other index hcall => by simpa [eq_comm] using hcall

theorem step_sound (h : Sound host run) (hstep : step host run event = .ok next) :
    Sound host next := by
  cases step_does hstep with
  | refused => exact h
  | dropped => exact h.resume _
  | claimed _ henters hclaims => exact h.issue henters (.inr hclaims)
  | opening hbegin =>
    have hopened : Sound host { run with admissions := run.admissions ++ [_] } :=
      ⟨h.unclaimed, h.parent, h.placed, h.issued, h.places, h.marking, h.settling, fun admission hadmission => by
        obtain hold | hlast := List.mem_append.1 hadmission
        · exact h.ordinals admission hold
        · rw [List.mem_singleton.1 hlast, begin_opening hbegin]⟩
    exact hopened.suspend _ (by simp)
  | entered _ henters hclaims => exact (h.issue henters (.inl hclaims)).resume _
  | recorded _ hrecords hwaiting => exact h.record _ hrecords hwaiting
  | written _ _ hidentity => exact (h.rescope (write_identities hidentity) rfl).resume _

theorem step_reachesOwn (hsha : host.Tells) (h : Sound host run)
    (hstep : step host run event = .ok next) : ReachesOwn run event next := by
  intro request index hacts hissued other hother
  have hown := h.issued request index hissued
  cases step_does hstep with
  | refused => rfl
  | dropped => rfl
  | claimed hnone => exact absurd (hacts.symm.trans hnone) (by simp)
  | opening => rfl
  | entered hnone => exact absurd (hacts.symm.trans hnone) (by simp)
  | recorded hsame hrecords =>
    obtain rfl := Option.some.inj (hacts.symm.trans hsame)
    have hfound := nativeCall_of_issued hsha h.placed hown
    rw [← hrecords.others index hfound other hother, ToolRun.record]
    split <;> rfl
  | written hsame hwaits =>
    obtain rfl := Option.some.inj (hacts.symm.trans hsame)
    have hwritten := hwaits.elim (h.marking _ _ _) (h.settling _ _ _)
    obtain rfl := hown.unique hsha h.placed hwritten
    exact write_other hother

theorem Sound.toldApart (hsha : host.Tells) (h : Sound host run)
    (hordinals : (run.admissions.map fun admission => admission.child_ordinal).Nodup) : ToldApart run where
  parent := by
    have hparent := h.parent
    rw [Scope.identities, List.filter_map, List.length_map] at hparent
    exact hparent
  ordinals := hordinals
  requests := by simpa [Scope.identities, Function.comp_def, NativeCall.identity] using h.placed.nodup hsha
  places := h.places
  found request index hissued := nativeCall_of_issued hsha h.placed (h.issued request index hissued)

theorem step_admissions (hstep : step host run event = .ok next) :
    next.admissions = run.admissions ∨ ∃ ticket method path body options admission call,
      event = .begin ticket method path body options
      ∧ beginAssignmentKernelNativeRequestV2 host run.scope method path body options = .ok (.opening admission call)
      ∧ next.admissions = run.admissions ++ [admission] := by
  cases step_does hstep with
  | refused => exact .inl rfl
  | dropped => exact .inl rfl
  | claimed => exact .inl rfl
  | opening hbegin => exact .inr ⟨_, _, _, _, _, _, _, rfl, hbegin, rfl⟩
  | entered => exact .inl rfl
  | recorded =>
    refine .inl ?_
    rw [ToolRun.record]
    split <;> rfl
  | written => exact .inl rfl

/-- The ordinal of a child differs from the earlier ones exactly where a call was
    entered since each of them. -/
theorem ordinals_nodup_append (h : Sound host run)
    (hordinals : (run.admissions.map fun admission => admission.child_ordinal).Nodup) {admission : ChildAdmissionInput}
    (hnew : admission.child_ordinal = run.scope.native_calls.length) :
    ((run.admissions ++ [admission]).map fun admission => admission.child_ordinal).Nodup ↔
      ∀ earlier ∈ run.admissions, earlier.child_ordinal < run.scope.native_calls.length := by
  rw [List.map_append, List.nodup_append]
  simp only [hordinals, List.map_cons, List.map_nil, List.nodup_singleton, List.mem_map, List.mem_singleton, true_and,
    forall_exists_index, and_imp, forall_apply_eq_imp_iff₂, forall_eq, hnew]
  refine forall₂_congr fun earlier hearlier => ?_
  have hle := h.ordinals earlier hearlier
  omega

theorem step_keeps (hsha : host.Tells) (h : Sound host run) (htold : ToldApart run)
    (hspaced : Spaced host run event) (hstep : step host run event = .ok next) : ToldApart next := by
  refine (step_sound h hstep).toldApart hsha ?_
  obtain hsame | ⟨ticket, method, path, body, options, admission, call, hevent, hbegin, happends⟩ := step_admissions hstep
  · exact hsame ▸ htold.ordinals
  · rw [happends, ordinals_nodup_append h htold.ordinals (begin_opening hbegin)]
    exact hspaced ticket method path body options admission call hevent hbegin

theorem step_breaks (h : Sound host run) (htold : ToldApart run)
    (hclose : ¬ Spaced host run event) (hstep : step host run event = .ok next) : ¬ ToldApart next := by
  intro hnext
  refine hclose fun ticket method path body options admission call hevent hbegin => ?_
  rw [← ordinals_nodup_append h htold.ordinals (begin_opening hbegin)]
  subst hevent
  obtain rfl : ({ run with admissions := run.admissions ++ [admission] }.suspend ticket (.opening call)) = next := by
    simp only [step, hbegin] at hstep
    split_ifs at hstep
    exact Except.ok.inj hstep
  exact hnext.ordinals

/-- In a run of native calls, however they overlap, the calls are told apart and
    what is done for a request reaches its own call, exactly when between any two
    children that are opened a call was entered. -/
theorem told_apart_iff_spaced (host : KernelHost) (hsha : host.Tells) (context : Context) (events : List RunEvent)
    (final : ToolRun) (hrun : feed (step host) (initial context) events = .ok final) :
    (AlongRun (step host) (initial context) events ToldApart
        ∧ AlongSteps (step host) (initial context) events ReachesOwn) ↔
      StepsMeet (step host) (initial context) events (Spaced host) :=
  alongRun_and_alongSteps_iff_stepsMeet (I := Sound host)
    (fun _ _ _ h hstep => step_sound h hstep)
    (fun _ _ _ h htold hspaced hstep => ⟨step_keeps hsha h htold hspaced hstep, step_reachesOwn hsha h hstep⟩)
    (fun _ _ _ h htold hclose hstep hboth => step_breaks h htold hclose hstep hboth.1)
    (initial_sound context) ((initial_sound context).toldApart hsha (by simp [initial])) hrun

section overlap

def overlapHost : KernelHost where
  numbers := Json.integerText
  sha256 := text.bytesAsText
  toUpperCase value := value
  operationResult _ _ := .ok .null
  retain _ _ := .ok ()
  failurePayload error := error

/-- The operation `operation`, opened for the parent given. -/
def readContext (operation : String) (parent : Option String) : Context where
  binding := .obj []
  operation_id := operation
  parent_operation_id := parent
  capability_id := "revit_list_rooms"
  requested_effect := .read
  delegation_authority_id := none
  eligible_criterion_ids := []
  request_identity := ⟨"revit_list_rooms", none, none, ""⟩

/-- A call that reads the rooms begins. -/
def beginsRead (ticket : Nat) : RunEvent := .begin ticket "GET" "/rooms" none ⟨none, none, none, none⟩

/-- Its child is opened. -/
def opensChild (ticket : Nat) (operation : String) : RunEvent :=
  .opened ticket (.ok (readContext operation (some "root")))

/-- Two reads, one after the other. -/
def readsInTurn : List RunEvent := [beginsRead 0, opensChild 0 "first", beginsRead 1, opensChild 1 "second"]

/-- Two reads that overlap. -/
def readsOverlapping : List RunEvent := [beginsRead 0, beginsRead 1]

theorem exists_feed_of_isSome (host : KernelHost) (context : Context) (events : List RunEvent)
    (h : (feed (step host) (initial context) events).toOption.isSome = true) :
    ∃ final, feed (step host) (initial context) events = .ok final := by
  obtain ⟨final, hfinal⟩ := Option.isSome_iff_exists.1 h
  exact ⟨final, toOption_eq_some.1 hfinal⟩

theorem reads_in_turn_told_apart : ∃ final,
    feed (step overlapHost) (initial (readContext "root" none)) readsInTurn = .ok final
      ∧ ((AlongRun (step overlapHost) (initial (readContext "root" none)) readsInTurn ToldApart
          ∧ AlongSteps (step overlapHost) (initial (readContext "root" none)) readsInTurn ReachesOwn)
        ↔ StepsMeet (step overlapHost) (initial (readContext "root" none)) readsInTurn (Spaced overlapHost)) := by
  obtain ⟨final, hfinal⟩ := exists_feed_of_isSome overlapHost (readContext "root" none) readsInTurn (by decide +kernel)
  exact ⟨final, hfinal, told_apart_iff_spaced overlapHost text.bytesAsText_injective _ _ final hfinal⟩

/-- Both of two overlapping reads send the ordinal 0. -/
theorem overlapping_reads_share_ordinal :
    ¬ ∀ (host : KernelHost), host.Tells → ∀ context events final, feed (step host) (initial context) events = .ok final →
      AlongRun (step host) (initial context) events ToldApart
        ∧ AlongSteps (step host) (initial context) events ReachesOwn := by
  intro hall
  have hordinals : (feed (step overlapHost) (initial (readContext "root" none)) readsOverlapping).toOption.map
      (fun run => run.admissions.map fun admission => admission.child_ordinal) = some [0, 0] := by decide +kernel
  obtain ⟨final, hfinal, hsame⟩ := Option.map_eq_some_iff.1 hordinals
  have hrun := toOption_eq_some.1 hfinal
  have htold := (hall overlapHost text.bytesAsText_injective _ _ final hrun).1 readsOverlapping (List.prefix_refl _) final hrun
  have hnodup := htold.ordinals
  rw [hsame] at hnodup
  simp at hnodup

end overlap

end ToolRun

end revit_operator.mcp_server
