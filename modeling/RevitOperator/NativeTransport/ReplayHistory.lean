import RevitOperator.NativeTransport.OpenRequest
import RevitOperator.Library.ReplayFence

open checked replay_fence
open text (isBlank)

/-! What the replay cache guarantees over any sequence of `OpenRequest` calls
    whose clock does not run backwards. -/

namespace revit_operator.native_transport

variable {host : TransportHost} {call : Call} {cache next : ReplayCache}
  {context : OperatorNativeTransportRequestContext} {fault : Fault} {id nonce : String} {issued now : Int}

/-- How long the cache remembers a request: the whole span of its freshness and
    one tick. -/
def hold : Int := MaximumMessageAge + MaximumFutureSkew + 1

/-- The key of a request in the cache. -/
def replayKey (requestId requestNonce : String) : String := requestId ++ ":" ++ requestNonce

/-- The identity, nonce and issue time of the request an envelope protects. -/
def identityOf (host : TransportHost) (call : Call) : Except Fault (String × String × Int) := do
  let fields ← openFields host call
  let id ← requireString fields "request_id" 64
  let nonce ← requireString fields "request_nonce" 64
  let issued ← requireInt64 fields "issued_at_unix_ms"
  return (id, nonce, issued)

/-- The envelope of a call protects a request with this identity, nonce and issue
    time. -/
def Carries (host : TransportHost) (call : Call) (id nonce : String) (issued : Int) : Prop :=
  (identityOf host call).toOption = some (id, nonce, issued)

theorem plus_eq_ok {time span result : Int} (h : plus time span = .ok result) : result = time + span := by
  unfold plus at h
  split at h
  · exact (Except.ok.inj h).symm
  · cases h

section accept

/-- What `accept` leaves behind: the entries that have not run out and, when the
    key is none of them and there is room, the new one. -/
theorem accept_cases {done : Except Fault Unit} (h : accept id nonce now cache = (done, next)) :
    (∃ fault, done = .error fault ∧ next = live now cache) ∨
      (done = .ok () ∧ next = live now cache ++ [(replayKey id nonce, now + hold)]
        ∧ (∀ entry ∈ live now cache, entry.1 ≠ replayKey id nonce)
        ∧ (live now cache).length < MaximumReplayEntries) := by
  have hlive : cache.filter (fun entry => ¬ entry.2 ≤ now) = live now cache := by simp [live]
  simp only [accept, hlive] at h
  split at h
  · obtain ⟨rfl, rfl⟩ := Prod.mk.inj h
    exact .inl ⟨_, rfl, rfl⟩
  · next hnew =>
    split at h
    · obtain ⟨rfl, rfl⟩ := Prod.mk.inj h
      exact .inl ⟨_, rfl, rfl⟩
    · next hroom =>
      split at h
      · obtain ⟨rfl, rfl⟩ := Prod.mk.inj h
        exact .inl ⟨_, rfl, rfl⟩
      · next expiry hexpiry =>
        obtain ⟨rfl, rfl⟩ := Prod.mk.inj h
        simp only [bind_eq_ok] at hexpiry
        obtain ⟨late, ⟨aged, haged, hlate⟩, hlast⟩ := hexpiry
        have hheld : expiry = now + hold := by
          rw [plus_eq_ok hlast, plus_eq_ok hlate, plus_eq_ok haged, hold]
          omega
        refine .inr ⟨rfl, by rw [hheld]; rfl, fun entry hentry hkey => hnew ?_, by omega⟩
        exact List.any_eq_true.2 ⟨entry, hentry, decide_eq_true hkey⟩

theorem accept_full (h : (accept id nonce now cache).1 = .error ReplayCacheFull) :
    MaximumReplayEntries ≤ (live now cache).length := by
  have hlive : cache.filter (fun entry => ¬ entry.2 ≤ now) = live now cache := by simp [live]
  have hplus : ∀ time span, plus time span ≠ .error ReplayCacheFull := by
    intro time span
    unfold plus
    split
    · simp
    · simp [ReplayCacheFull, Failure]
  simp only [accept, hlive] at h
  split at h
  · simp [RequestReplay, ReplayCacheFull, Failure] at h
  · split at h
    · assumption
    · split at h
      · next hexpiry =>
        obtain rfl := Except.error.inj h
        simp only [bind_eq_error] at hexpiry
        obtain (haged | ⟨_, _, hlate⟩) | ⟨_, _, hlast⟩ := hexpiry
        · exact absurd haged (hplus _ _)
        · exact absurd hlate (hplus _ _)
        · exact absurd hlast (hplus _ _)
      · cases h

end accept

section request

/-- What a checked request says about its call: it is fresh, and it is admitted
    under the identity it names. -/
theorem checkRequest_spec {fields : Fields} (h : checkRequest host call fields = .ok context)
    (hid : requireString fields "request_id" 64 = .ok id)
    (hnonce : requireString fields "request_nonce" 64 = .ok nonce)
    (hissued : requireInt64 fields "issued_at_unix_ms" = .ok issued) :
    context.RequestNonce = nonce ∧ (isBlank id = false → context.Request.RequestId = id)
      ∧ call.nowUtc - MaximumMessageAge ≤ 621355968000000000 + issued * 10000
      ∧ 621355968000000000 + issued * 10000 ≤ call.nowUtc + MaximumFutureSkew := by
  simp only [checkRequest, hid, hnonce, hissued, bind_eq_ok, ok_bind] at h
  obtain ⟨-, -, tick, htick, _, hfresh, _, -, _, -, _, -, _, -, _, -, _, -, _, -, -, -, request, hprepared, h⟩ := h
  have hcontext : context.RequestNonce = nonce ∧ context.Request = request := by
    split at h
    · simp only [bind_eq_ok, pure_eq_ok] at h
      obtain ⟨-, -, rfl⟩ := h
      exact ⟨rfl, rfl⟩
    · rw [pure_eq_ok] at h
      obtain rfl := h
      exact ⟨rfl, rfl⟩
  have htime : tick = 621355968000000000 + issued * 10000 := by
    unfold fromUnixMilliseconds at htick
    split at htick
    · exact (Except.ok.inj htick).symm
    · cases htick
  simp only [validateFreshness, bind_eq_ok, require_eq_ok] at hfresh
  obtain ⟨latest, hlatest, -, hissuedBy, earliest, hearliest, hissuedFrom⟩ := hfresh
  rw [plus_eq_ok hlatest, htime] at hissuedBy
  rw [plus_eq_ok hearliest, htime] at hissuedFrom
  refine ⟨hcontext.1, fun hnamed => ?_, by omega, hissuedBy⟩
  rw [hcontext.2]
  exact prepare_requestId host hnamed hprepared

theorem openRequest_ok (h : openRequest host call cache = (.ok context, next)) :
    (openFields host call >>= checkRequest host call) = .ok context ∧
      accept context.Request.RequestId context.RequestNonce call.nowUtc cache = (.ok (), next) := by
  unfold openRequest at h
  split at h
  · cases h
  · next checked hchecked =>
    split at h
    · cases h
    · next haccepted =>
      obtain ⟨hcontext, rfl⟩ := Prod.mk.inj h
      obtain rfl := Except.ok.inj hcontext
      exact ⟨hchecked, haccepted⟩

theorem openRequest_error (h : openRequest host call cache = (.error fault, next)) :
    next = cache ∨ next = live call.nowUtc cache := by
  unfold openRequest at h
  split at h
  · exact .inl (Prod.mk.inj h).2.symm
  · next checked _ =>
    split at h
    · next haccepted =>
      obtain ⟨-, rfl⟩ := Prod.mk.inj h
      obtain ⟨_, _, hlive⟩ | ⟨hdone, _⟩ := accept_cases haccepted
      · exact .inr hlive
      · cases hdone
    · cases h

end request

variable {clock : Int} {served : Served}

section history

/-- The cache and the calls it has accepted, the oldest first. -/
structure Served where
  cache : ReplayCache
  accepted : List Call

/-- One call against the cache. -/
def serve (host : TransportHost) (served : Served) (call : Call) : Served :=
  match openRequest host call served.cache with
  | (.ok _, cache) => ⟨cache, served.accepted ++ [call]⟩
  | (.error _, cache) => ⟨cache, served.accepted⟩

/-- The calls one after the other against a new cache. -/
def serveAll (host : TransportHost) (calls : List Call) : Served := calls.foldl (serve host) ⟨[], []⟩

/-- The key and time under which a call enters the cache. -/
def admission (host : TransportHost) (call : Call) : String × Int :=
  match openFields host call >>= checkRequest host call with
  | .ok context => (replayKey context.Request.RequestId context.RequestNonce, call.nowUtc)
  | .error _ => ("", call.nowUtc)

theorem admission_time (host : TransportHost) (call : Call) : (admission host call).2 = call.nowUtc := by
  unfold admission
  split <;> rfl

/-- The accepted calls came by the clock, the cache remembers them, and none was
    accepted while the cache held its key. -/
structure Served.Sound (host : TransportHost) (clock : Int) (served : Served) : Prop where
  passed : ∀ call ∈ served.accepted, call.nowUtc ≤ clock
  checked : ∀ call ∈ served.accepted, ∃ context, (openFields host call >>= checkRequest host call) = .ok context
  fences : Fences hold (served.accepted.map (admission host)) clock served.cache
  apart : served.accepted.Pairwise fun earlier later =>
    (admission host earlier).1 = (admission host later).1 → earlier.nowUtc + hold ≤ later.nowUtc
  bounded : served.cache.length ≤ MaximumReplayEntries

theorem Served.Sound.later (h : served.Sound host clock) (hclock : clock ≤ now) :
    served.Sound host now where
  passed call hmem := (h.passed call hmem).trans hclock
  checked := h.checked
  fences := ⟨h.fences.drawn, fun admitted hmem hlive => h.fences.kept admitted hmem (by omega)⟩
  apart := h.apart
  bounded := h.bounded

theorem live_length_le (now : Int) (cache : ReplayCache) : (live now cache).length ≤ cache.length :=
  List.length_filter_le _ _

theorem Served.Sound.serve (h : served.Sound host clock) (hclock : clock ≤ call.nowUtc) :
    (serve host served call).Sound host call.nowUtc := by
  have hpassed : ∀ earlier ∈ served.accepted, earlier.nowUtc ≤ call.nowUtc := fun earlier hmem =>
    (h.passed earlier hmem).trans hclock
  have hpurged := h.fences.purged hclock
  unfold native_transport.serve
  split
  · next context cache hopened =>
    obtain ⟨hchecked, haccepted⟩ := openRequest_ok hopened
    obtain ⟨_, hfault, _⟩ | ⟨-, rfl, hnew, hroom⟩ := accept_cases haccepted
    · cases hfault
    have hkey : admission host call = (replayKey context.Request.RequestId context.RequestNonce, call.nowUtc) := by
      simp only [admission, hchecked]
    refine ⟨?_, ?_, ?_, ?_, ?_⟩
    · intro earlier hmem
      obtain hearlier | hlast := List.mem_append.1 hmem
      · exact hpassed earlier hearlier
      · exact (List.mem_singleton.1 hlast) ▸ le_rfl
    · intro earlier hmem
      obtain hearlier | hlast := List.mem_append.1 hmem
      · exact h.checked earlier hearlier
      · exact (List.mem_singleton.1 hlast) ▸ ⟨context, hchecked⟩
    · rw [List.map_append, List.map_singleton, hkey]
      exact hpurged.recorded
    · refine List.pairwise_append.2 ⟨h.apart, List.pairwise_singleton _ _, fun earlier hearlier later hlater hsame => ?_⟩
      obtain rfl := List.mem_singleton.1 hlater
      rw [hkey] at hsame
      have hlong := hpurged.passed hnew (List.mem_map_of_mem hearlier) hsame
      rwa [admission_time] at hlong
    · simp only [List.length_append, List.length_singleton]
      omega
  · next cache hopened =>
    have hfences : Fences hold (served.accepted.map (admission host)) call.nowUtc cache ∧
        cache.length ≤ MaximumReplayEntries := by
      obtain rfl | rfl := openRequest_error hopened
      · exact ⟨⟨h.fences.drawn, fun admitted hmem hlive => h.fences.kept admitted hmem (by omega)⟩, h.bounded⟩
      · exact ⟨hpurged, (live_length_le _ _).trans h.bounded⟩
    exact ⟨hpassed, h.checked, hfences.1, h.apart, hfences.2⟩

theorem serveAll_sound {calls : List Call} (hclock : calls.Pairwise fun earlier later => earlier.nowUtc ≤ later.nowUtc) :
    ∀ clock, (∀ call ∈ calls, call.nowUtc ≤ clock) → (serveAll host calls).Sound host clock := by
  induction calls using List.reverseRecOn with
  | nil => exact fun clock _ =>
    ⟨fun _ hmem => (nomatch hmem), fun _ hmem => (nomatch hmem), Fences.initial, List.Pairwise.nil, Nat.zero_le _⟩
  | append_singleton calls call ih =>
    intro clock hlast
    obtain ⟨hcalls, -, hbefore⟩ := List.pairwise_append.1 hclock
    have hserved := ih hcalls call.nowUtc fun earlier hmem => hbefore earlier hmem call (List.mem_singleton.2 rfl)
    have hnow := hlast call (List.mem_append_right _ (List.mem_singleton.2 rfl))
    have hsound : (serve host (serveAll host calls) call).Sound host call.nowUtc := hserved.serve le_rfl
    simp only [serveAll, List.foldl_append, List.foldl_cons, List.foldl_nil]
    exact hsound.later hnow

/-- A checked call with a named identity enters under its key, within the
    window of its issue time. -/
theorem carried_key (hchecked : (openFields host call >>= checkRequest host call) = .ok context)
    (hcarries : Carries host call id nonce issued) (hnamed : isBlank id = false) :
    (admission host call).1 = replayKey id nonce
      ∧ call.nowUtc - MaximumMessageAge ≤ 621355968000000000 + issued * 10000
      ∧ 621355968000000000 + issued * 10000 ≤ call.nowUtc + MaximumFutureSkew := by
  have hkey : (admission host call).1 = replayKey context.Request.RequestId context.RequestNonce := by
    simp only [admission, hchecked]
  obtain ⟨fields, hfields, hrequest⟩ := bind_eq_ok.1 hchecked
  simp only [Carries, identityOf, toOption_eq_some, bind_eq_ok, pure_eq_ok] at hcarries
  obtain ⟨carried, hcarried, named, hid, drawn, hnonce, time, hissued, hidentity⟩ := hcarries
  simp only [Prod.mk.injEq] at hidentity
  obtain ⟨rfl, rfl, rfl⟩ := hidentity
  obtain rfl : carried = fields := Except.ok.inj (hcarried.symm.trans hfields)
  obtain ⟨hrequestNonce, hrequestId, hfrom, hby⟩ := checkRequest_spec hrequest hid hnonce hissued
  rw [hkey, hrequestNonce, hrequestId hnamed]
  exact ⟨rfl, hfrom, hby⟩

theorem Served.Sound.distinct (h : served.Sound host now) :
    served.accepted.Pairwise fun earlier later => ∀ id nonce issued, Carries host earlier id nonce issued →
      Carries host later id nonce issued → isBlank id = true := by
  refine List.Pairwise.imp_of_mem (fun {earlier later} hearlier hlater hapart => ?_) h.apart
  intro id nonce issued hfirst hsecond
  by_contra hnamed
  rw [Bool.not_eq_true] at hnamed
  obtain ⟨_, hearlierChecked⟩ := h.checked earlier hearlier
  obtain ⟨_, hlaterChecked⟩ := h.checked later hlater
  obtain ⟨hfirstKey, -, hlate⟩ := carried_key hearlierChecked hfirst hnamed
  obtain ⟨hsecondKey, hearly, -⟩ := carried_key hlaterChecked hsecond hnamed
  have hlong := hapart (hfirstKey.trans hsecondKey.symm)
  simp only [hold] at hlong
  omega

/-- A call is refused for capacity only while the cache holds its fill of requests
    accepted within the hold. -/
theorem Served.Sound.refused (h : served.Sound host clock) (hclock : clock ≤ call.nowUtc)
    (hchecked : (openFields host call >>= checkRequest host call) = .ok context)
    (hfull : (openRequest host call served.cache).1 = .error ReplayCacheFull) :
    MaximumReplayEntries ≤ served.accepted.countP fun earlier => call.nowUtc < earlier.nowUtc + hold := by
  have hrefused : (accept context.Request.RequestId context.RequestNonce call.nowUtc served.cache).1 =
      .error ReplayCacheFull := by
    simp only [openRequest, hchecked] at hfull
    split at hfull
    · next haccepted => rw [haccepted]; exact congrArg _ (Except.error.inj hfull)
    · cases hfull
  have hlength : (live call.nowUtc served.cache).length ≤
      (served.accepted.map (admission host)).countP fun entry => call.nowUtc < entry.2 + hold :=
    (h.fences.purged hclock).length_le fun entry hentry => of_decide_eq_true (List.mem_filter.1 hentry).2
  have hcount : (served.accepted.map (admission host)).countP (fun entry => call.nowUtc < entry.2 + hold) =
      served.accepted.countP fun earlier => call.nowUtc < earlier.nowUtc + hold := by
    rw [List.countP_map]
    congr 1
    funext earlier
    simp [admission_time]
  exact (accept_full hrefused).trans (hlength.trans_eq hcount)

theorem mem_of_accepted {calls : List Call} (hmem : call ∈ (serveAll host calls).accepted) : call ∈ calls := by
  induction calls using List.reverseRecOn with
  | nil => nomatch hmem
  | append_singleton calls latest ih =>
    simp only [serveAll, List.foldl_append, List.foldl_cons, List.foldl_nil, serve] at hmem
    split at hmem
    · obtain hearlier | hlast := List.mem_append.1 hmem
      · exact List.mem_append_left _ (ih hearlier)
      · exact List.mem_append_right _ hlast
    · exact List.mem_append_left _ (ih hmem)

theorem exists_clock (calls : List Call) : ∃ clock, ∀ call ∈ calls, call.nowUtc ≤ clock := by
  induction calls with
  | nil => exact ⟨0, fun _ hmem => nomatch hmem⟩
  | cons call calls ih =>
    obtain ⟨clock, hclock⟩ := ih
    refine ⟨max call.nowUtc clock, List.forall_mem_cons.2 ⟨le_max_left _ _, fun later hmem => ?_⟩⟩
    exact (hclock later hmem).trans (le_max_right _ _)

/-- Over every sequence of calls by a clock that does not run backwards, no
    request that names its identity is accepted twice, the cache keeps within its
    bound, and a checked request is refused for capacity only while that many
    were accepted within the hold. A request whose identity is white space is
    admitted under a new identity each time. -/
theorem accepted_at_most_once (host : TransportHost) (calls : List Call)
    (hclock : calls.Pairwise fun earlier later => earlier.nowUtc ≤ later.nowUtc)
    (hnamed : ∀ call ∈ calls, ∀ id nonce issued, Carries host call id nonce issued → isBlank id = false) :
    ((serveAll host calls).accepted.Pairwise fun earlier later => ¬ ∃ id nonce issued,
        Carries host earlier id nonce issued ∧ Carries host later id nonce issued)
      ∧ (serveAll host calls).cache.length ≤ MaximumReplayEntries
      ∧ ∀ call context, (∀ earlier ∈ calls, earlier.nowUtc ≤ call.nowUtc) →
        (openFields host call >>= checkRequest host call) = .ok context →
        (openRequest host call (serveAll host calls).cache).1 = .error ReplayCacheFull →
        MaximumReplayEntries ≤ (serveAll host calls).accepted.countP fun earlier =>
          call.nowUtc < earlier.nowUtc + (40 * ticksPerSecond + 1) := by
  obtain ⟨clock, hclocked⟩ := exists_clock calls
  have hsound : (serveAll host calls).Sound host clock := serveAll_sound hclock clock hclocked
  refine ⟨List.Pairwise.imp_of_mem (fun {earlier later} hearlier _ hdistinct => ?_) hsound.distinct, hsound.bounded,
    fun call context hlatest hchecked hfull => ?_⟩
  · rintro ⟨id, nonce, issued, hfirst, hsecond⟩
    have hblank := hdistinct id nonce issued hfirst hsecond
    rw [hnamed earlier (mem_of_accepted hearlier) id nonce issued hfirst] at hblank
    cases hblank
  · exact (serveAll_sound hclock call.nowUtc hlatest).refused le_rfl hchecked hfull

/-- A host whose envelopes are in plain text: it parses the one request it is
    built for. -/
def plainHost (root : JsonElement) : TransportHost where
  parse _ _ := some root
  normalizeFormC value := value
  openEnvelope _ _ envelope := .ok envelope
  verifyDirectEnvelope _ _ _ _ _ _ _ := .ok ()
  parseLaboratoryEvidence _ := .ok ()
  parseMoveEvidenceAdmission _ _ := .ok ()
  requireLaboratoryEvidenceAuthorized _ _ _ _ _ _ := .ok ()

/-- Thirty-two zero bytes. -/
def zeroBytes : String := .ofList (List.replicate 43 'A')

/-- A ping under an identity, issued at the Unix epoch. -/
def pingRequest (requestId : String) : JsonElement :=
  .object [(some "request_id", .string (some requestId)), (some "request_nonce", .string (some zeroBytes)),
    (some "issued_at_unix_ms", .number "0"), (some "method", .string (some "GET")),
    (some "path", .string (some "/revit/ping")), (some "body_present", .bool false),
    (some "body_json", .string (some "")), (some "channel", .string (some "generic_call")),
    (some "alias", .string (some "revit_call_tool")), (some "write_grant", .string (some ""))]

/-- A call made at the Unix epoch. -/
def pingCall (created : Char) : Call :=
  ⟨"token", zeroBytes, [0], TransportMethod, TransportPath, false, 621355968000000000,
    .ofList (List.replicate 32 created)⟩

/-- A named ping is accepted once. -/
theorem accepted_at_most_once_on_repeated_ping :
    let host := plainHost (pingRequest (.ofList (List.replicate 32 'a')))
    (serveAll host [pingCall '0', pingCall '1']).accepted = [pingCall '0']
      ∧ ((serveAll host [pingCall '0', pingCall '1']).accepted.Pairwise fun earlier later => ¬ ∃ id nonce issued,
          Carries host earlier id nonce issued ∧ Carries host later id nonce issued) := by
  have hidentity : ∀ call ∈ [pingCall '0', pingCall '1'],
      (identityOf (plainHost (pingRequest (.ofList (List.replicate 32 'a')))) call).toOption =
        some (.ofList (List.replicate 32 'a'), zeroBytes, 0) := by
    decide +kernel
  have hblank : isBlank (.ofList (List.replicate 32 'a')) = false := by decide +kernel
  refine ⟨by decide +kernel, (accepted_at_most_once _ [pingCall '0', pingCall '1'] (by decide) ?_).1⟩
  intro call hmem id nonce issued hcarries
  obtain ⟨rfl, -⟩ := Prod.mk.inj (Option.some.inj ((hidentity call hmem).symm.trans hcarries))
  exact hblank

/-- A ping whose identity is a blank is accepted twice. -/
theorem blank_identity_accepted_twice :
    ¬ (serveAll (plainHost (pingRequest " ")) [pingCall '0', pingCall '1']).accepted.Pairwise fun earlier later =>
      ¬ ∃ id nonce issued, Carries (plainHost (pingRequest " ")) earlier id nonce issued
        ∧ Carries (plainHost (pingRequest " ")) later id nonce issued := by
  have haccepted : (serveAll (plainHost (pingRequest " ")) [pingCall '0', pingCall '1']).accepted =
      [pingCall '0', pingCall '1'] := by
    decide +kernel
  have hfirst : (identityOf (plainHost (pingRequest " ")) (pingCall '0')).toOption = some (" ", zeroBytes, 0) := by
    decide +kernel
  have hsecond : (identityOf (plainHost (pingRequest " ")) (pingCall '1')).toOption = some (" ", zeroBytes, 0) := by
    decide +kernel
  rw [haccepted]
  intro hapart
  exact List.rel_of_pairwise_cons hapart (List.mem_singleton.2 rfl) ⟨" ", zeroBytes, 0, hfirst, hsecond⟩

end history

end revit_operator.native_transport
