import RevitOperator.ExistingConditions.RepairLedgerStore
import RevitOperator.Library.Run

open checked checked_run

/-! Any number of processes that append to the ledger of one session: the lock file, the
    reading, the appended line and the removal of the lock are steps of their own, and a
    process may crash between any two of them. -/

namespace revit_operator.existing_conditions

/-- Where an append of a process stands. -/
inductive AppendPoint where
  | idle
  | locked (prepared : PreparedAppend)
  | writing (entry : ExistingConditionsRepairLedgerEntry)
  | leaving (outcome : Except String Json)

/-- The files of the session, the processes, and the entries their appends returned. -/
structure SharedLedger (Process : Type) where
  lock : Bool
  lines : List LedgerLine
  point : Process → AppendPoint
  returned : List Json

inductive LedgerStep (Process : Type) where
  | openLock (process : Process) (args : AppendArgs)
  | read (process : Process) (ts : String)
  | append (process : Process) (succeeds : Bool)
  | unlock (process : Process) (removed : Bool)
  | crash (process : Process)

def LedgerStep.process {Process : Type} : LedgerStep Process → Process
  | .openLock process _ => process
  | .read process _ => process
  | .append process _ => process
  | .unlock process _ => process
  | .crash process => process

namespace SharedLedger

def initial {Process : Type} : SharedLedger Process := ⟨false, [], fun _ => .idle, []⟩

section steps

variable {Process : Type} [DecidableEq Process] (host : LedgerHost) (sessionId : String)

def moveTo (m : SharedLedger Process) (process : Process) (point : AppendPoint) : SharedLedger Process :=
  { m with point := Function.update m.point process point }

/-- Where the append goes after it has read the ledger. -/
def afterRead (prepared : PreparedAppend) (ts : String) (lines : List LedgerLine) : AppendPoint :=
  match readExistingConditionsRepairLedger host sessionId lines with
  | .error fault => .leaving (.error fault)
  | .ok existing =>
    match duplicate? existing prepared.eventKey with
    | some duplicate => .leaving (.ok duplicate)
    | none =>
      match newEntry host sessionId prepared ts existing with
      | .error fault => .leaving (.error fault)
      | .ok entry => .writing entry

/-- One step of a process. An append that finds the lock file, or whose arguments are
    refused, throws before it has changed anything. -/
def step (m : SharedLedger Process) : LedgerStep Process → Except String (SharedLedger Process)
  | .openLock process args =>
    match m.point process with
    | .idle =>
      match prepareAppend host sessionId args with
      | .error _ => .ok m
      | .ok prepared => if m.lock then .ok m else .ok ({ m with lock := true }.moveTo process (.locked prepared))
    | _ => .error "busy"
  | .read process ts =>
    match m.point process with
    | .locked prepared => .ok (m.moveTo process (afterRead host sessionId prepared ts m.lines))
    | _ => .error "not locked"
  | .append process succeeds =>
    match m.point process with
    | .writing entry =>
      if succeeds then
        .ok ({ m with lines := m.lines ++ [LedgerLine.parsed entry.line] }.moveTo process (.leaving (.ok entry.line)))
      else .ok (m.moveTo process (.leaving (.error "Failed to write JSONL line.")))
    | _ => .error "nothing to write"
  | .unlock process removed =>
    match m.point process with
    | .leaving outcome =>
      .ok ({ m with
        lock := m.lock && !removed
        returned := m.returned ++ outcome.toOption.toList }.moveTo process .idle)
    | _ => .error "not leaving"
  | .crash process => .ok (m.moveTo process .idle)

end steps

section properties

variable {Process : Type} [DecidableEq Process] (host : LedgerHost) (sessionId : String)

/-- The ledger can be read, its entries are chained, and what an append returned is among
    them. -/
def Readable (m : SharedLedger Process) : Prop :=
  ∃ entries, readExistingConditionsRepairLedger host sessionId m.lines = .ok entries ∧ WellChained entries
    ∧ ∀ entry ∈ m.returned, entry ∈ entries

/-- Some append that has yet to be called returns an entry. -/
def Appendable (m : SharedLedger Process) : Prop :=
  ∃ before process args own mid final, feed (step host sessionId) m before = .ok mid
    ∧ feed (step host sessionId) mid (.openLock process args :: own) = .ok final
    ∧ (∀ event ∈ own, event.process = process) ∧ mid.returned.length < final.returned.length

/-- The step does not leave the lock file behind: no process crashes while it holds the lock,
    and the file of a finished append is removed. -/
def ReleasesLock (m : SharedLedger Process) : LedgerStep Process → Prop
  | .crash process => m.point process = .idle
  | .unlock _ removed => removed = true
  | _ => True

end properties

section soundness

variable {Process : Type} [DecidableEq Process] {host : LedgerHost} {sessionId : String} {m next : SharedLedger Process}

/-- What a process in the middle of an append may rely on. -/
def PointSound (host : LedgerHost) (sessionId : String) (entries : List ExistingConditionsRepairLedgerEntry) :
    AppendPoint → Prop
  | .writing entry => Continues host sessionId entries entry
  | .leaving (.ok returned) => ∃ entry ∈ entries, entry.line = returned
  | _ => True

/-- The lines are those of chained entries, what was returned is one of them, and at most one
    process is between taking the lock and removing it. -/
structure Sound (host : LedgerHost) (sessionId : String) (m : SharedLedger Process)
    (entries : List ExistingConditionsRepairLedgerEntry) : Prop where
  lines : m.lines = entries.map fun entry => .parsed entry.line
  chained : Chained host sessionId entries
  returned : ∀ value ∈ m.returned, ∃ entry ∈ entries, entry.line = value
  point : ∀ process, PointSound host sessionId entries (m.point process)
  exclusive : ∀ first second, m.point first ≠ .idle → m.point second ≠ .idle → first = second
  locked : ∀ process, m.point process ≠ .idle → m.lock = true

@[simp]
theorem moveTo_point (m : SharedLedger Process) (process : Process) (point : AppendPoint) (other : Process) :
    (m.moveTo process point).point other = if other = process then point else m.point other := by
  simp only [moveTo, Function.update_apply]

@[simp]
theorem moveTo_lines (m : SharedLedger Process) (process : Process) (point : AppendPoint) :
    (m.moveTo process point).lines = m.lines :=
  rfl

@[simp]
theorem moveTo_lock (m : SharedLedger Process) (process : Process) (point : AppendPoint) :
    (m.moveTo process point).lock = m.lock :=
  rfl

@[simp]
theorem moveTo_returned (m : SharedLedger Process) (process : Process) (point : AppendPoint) :
    (m.moveTo process point).returned = m.returned :=
  rfl

omit [DecidableEq Process] in
theorem sound_initial : Sound host sessionId (initial : SharedLedger Process) [] where
  lines := rfl
  chained := chained_nil
  returned := List.forall_mem_nil _
  point := fun _ => trivial
  exclusive := fun _ _ hfirst => absurd rfl hfirst
  locked := fun _ hpoint => absurd rfl hpoint

variable {entries : List ExistingConditionsRepairLedgerEntry} {process : Process} {point : AppendPoint}

omit [DecidableEq Process] in
theorem Sound.alone (h : Sound host sessionId m entries) (hpoint : m.point process ≠ .idle) {other : Process}
    (hother : other ≠ process) : m.point other = .idle := by
  by_contra hmiddle
  exact hother (h.exclusive other process hmiddle hpoint)

theorem exclusive_moveTo (h : ∀ other, other ≠ process → m.point other = .idle) (first second : Process)
    (hfirst : (m.moveTo process point).point first ≠ .idle)
    (hsecond : (m.moveTo process point).point second ≠ .idle) : first = second := by
  have hsame : ∀ other, (m.moveTo process point).point other ≠ .idle → other = process := fun other hother => by
    by_contra hne
    rw [moveTo_point, if_neg hne] at hother
    exact hother (h other hne)
  rw [hsame first hfirst, hsame second hsecond]

theorem Sound.advance (h : Sound host sessionId m entries) (hpoint : m.point process ≠ .idle)
    (hnext : PointSound host sessionId entries point) : Sound host sessionId (m.moveTo process point) entries where
  lines := h.lines
  chained := h.chained
  returned := h.returned
  point := fun other => by
    rw [moveTo_point]
    split_ifs
    · exact hnext
    · exact h.point other
  exclusive := exclusive_moveTo fun _ hother => h.alone hpoint hother
  locked := fun _ _ => h.locked process hpoint

/-- Nobody is in the middle of an append. -/
def AllIdle (m : SharedLedger Process) : Prop := ∀ process, m.point process = .idle

theorem Sound.allIdle_of_stop (h : Sound host sessionId m entries) (hpoint : m.point process ≠ .idle) :
    AllIdle (m.moveTo process .idle) := by
  intro other
  rw [moveTo_point]
  split_ifs with hsame
  · rfl
  · exact h.alone hpoint hsame

omit [DecidableEq Process] in
theorem Sound.of_allIdle {next : SharedLedger Process} (h : Sound host sessionId m entries) (hidle : AllIdle next)
    (hlines : next.lines = m.lines) (hreturned : ∀ value ∈ next.returned, ∃ entry ∈ entries, entry.line = value) :
    Sound host sessionId next entries where
  lines := hlines.trans h.lines
  chained := h.chained
  returned := hreturned
  point := fun other => by
    rw [hidle other]
    trivial
  exclusive := fun first _ hfirst => absurd (hidle first) hfirst
  locked := fun other hother => absurd (hidle other) hother

omit [DecidableEq Process] in
theorem Sound.afterRead (h : Sound host sessionId m entries) (prepared : PreparedAppend) (ts : String) :
    PointSound host sessionId entries (afterRead host sessionId prepared ts m.lines) := by
  rw [SharedLedger.afterRead, h.lines, read_chained h.chained]
  cases hduplicate : duplicate? (entries.map ExistingConditionsRepairLedgerEntry.line) prepared.eventKey with
  | some duplicate =>
    obtain ⟨entry, hentry, hline⟩ := List.mem_map.1 (mem_of_duplicate? hduplicate)
    simp only [hduplicate]
    exact ⟨entry, hentry, hline⟩
  | none =>
    cases hnew : newEntry host sessionId prepared ts (entries.map ExistingConditionsRepairLedgerEntry.line) with
    | error fault =>
      simp only [hduplicate, hnew]
      trivial
    | ok entry =>
      simp only [hduplicate, hnew]
      exact newEntry_continues hnew hduplicate

theorem step_sound {event : LedgerStep Process} (h : Sound host sessionId m entries)
    (hstep : step host sessionId m event = .ok next) :
    ∃ added, Sound host sessionId next (entries ++ added) := by
  cases event with
  | openLock process args =>
    rw [step] at hstep
    split at hstep
    · next hidle =>
      split at hstep
      · cases hstep
        exact ⟨[], by simpa using h⟩
      · next prepared _ =>
        by_cases hlock : m.lock = true
        · rw [if_pos hlock] at hstep
          cases hstep
          exact ⟨[], by simpa using h⟩
        · rw [if_neg hlock] at hstep
          cases hstep
          have hall : AllIdle m := fun other => by
            by_contra hother
            exact hlock (h.locked other hother)
          refine ⟨[], ?_⟩
          rw [List.append_nil]
          exact {
            lines := h.lines
            chained := h.chained
            returned := h.returned
            point := fun other => by
              rw [moveTo_point]
              split_ifs
              · trivial
              · exact h.point other
            exclusive := exclusive_moveTo fun other _ => hall other
            locked := fun _ _ => rfl }
    · cases hstep
  | read process ts =>
    rw [step] at hstep
    split at hstep
    · next prepared hpoint =>
      cases hstep
      refine ⟨[], ?_⟩
      rw [List.append_nil]
      exact h.advance (by rw [hpoint]; exact nofun) (h.afterRead prepared ts)
    · cases hstep
  | append process succeeds =>
    rw [step] at hstep
    split at hstep
    · next entry hpoint =>
      have hmiddle : m.point process ≠ .idle := by rw [hpoint]; exact nofun
      have hcontinues : Continues host sessionId entries entry := by
        have hsound := h.point process
        rwa [hpoint] at hsound
      cases succeeds with
      | true =>
        cases hstep
        have hlonger : Sound host sessionId ({ m with
            lines := m.lines ++ [LedgerLine.parsed entry.line] }.moveTo process (.leaving (.ok entry.line))) (entries ++ [entry]) := {
          lines := by
            rw [moveTo_lines, h.lines, List.map_append]
            rfl
          chained := h.chained.snoc hcontinues
          returned := fun value hvalue => by
            obtain ⟨earlier, hearlier, hline⟩ := h.returned value hvalue
            exact ⟨earlier, List.mem_append_left _ hearlier, hline⟩
          point := fun other => by
            rw [moveTo_point]
            split_ifs with hsame
            · exact ⟨entry, by simp, rfl⟩
            · rw [show m.point other = .idle from h.alone hmiddle hsame]
              trivial
          exclusive := exclusive_moveTo fun _ hother => h.alone hmiddle hother
          locked := fun _ _ => h.locked process hmiddle }
        exact ⟨[entry], hlonger⟩
      | false =>
        cases hstep
        refine ⟨[], ?_⟩
        rw [List.append_nil]
        exact h.advance hmiddle trivial
    · cases hstep
  | unlock process removed =>
    rw [step] at hstep
    split at hstep
    · next outcome hpoint =>
      cases hstep
      have hmiddle : m.point process ≠ .idle := by rw [hpoint]; exact nofun
      refine ⟨[], ?_⟩
      rw [List.append_nil]
      refine h.of_allIdle (h.allIdle_of_stop hmiddle) rfl fun value hvalue => ?_
      rw [moveTo_returned, List.mem_append] at hvalue
      rcases hvalue with hearlier | hown
      · exact h.returned value hearlier
      · cases outcome with
        | error fault => cases hown
        | ok returned =>
          obtain rfl : value = returned := by simpa [Except.toOption] using hown
          have hsound := h.point process
          rwa [hpoint] at hsound
    · cases hstep
  | crash process =>
    cases hstep
    refine ⟨[], ?_⟩
    rw [List.append_nil]
    by_cases hidle : m.point process = .idle
    · have hsame : m.moveTo process .idle = m := by
        rw [moveTo, Function.update_eq_self_iff.2 hidle.symm]
      rwa [hsame]
    · exact h.advance hidle trivial

omit [DecidableEq Process] in
theorem Sound.readable (h : Sound host sessionId m entries) : Readable host sessionId m := by
  refine ⟨entries.map ExistingConditionsRepairLedgerEntry.line, ?_, h.chained.wellChained, fun value hvalue => ?_⟩
  · rw [h.lines, read_chained h.chained]
  · obtain ⟨entry, hentry, rfl⟩ := h.returned value hvalue
    exact List.mem_map_of_mem hentry

end soundness

section liveness

variable {Process : Type} [DecidableEq Process] {host : LedgerHost} {sessionId : String} {m next : SharedLedger Process}
  {entries : List ExistingConditionsRepairLedgerEntry} {process : Process}

/-- The lock file is there and no process is about to remove it. -/
structure Stuck (m : SharedLedger Process) : Prop where
  lock : m.lock = true
  idle : AllIdle m

/-- Who holds the lock can still remove it. -/
def Held (m : SharedLedger Process) : Prop := m.lock = true → ∃ process, m.point process ≠ .idle

omit [DecidableEq Process] in
theorem held_of_not_stuck (h : ¬ Stuck m) : Held m := by
  intro hlock
  by_contra hnone
  push Not at hnone
  exact h ⟨hlock, hnone⟩

theorem Stuck.step {event : LedgerStep Process} (h : Stuck m) (hstep : step host sessionId m event = .ok next) :
    next = m := by
  cases event with
  | openLock process args =>
    rw [SharedLedger.step, h.idle process] at hstep
    dsimp only at hstep
    split at hstep
    · exact (Except.ok.inj hstep).symm
    · rw [if_pos h.lock] at hstep
      exact (Except.ok.inj hstep).symm
  | read process ts =>
    rw [SharedLedger.step, h.idle process] at hstep
    cases hstep
  | append process succeeds =>
    rw [SharedLedger.step, h.idle process] at hstep
    cases hstep
  | unlock process removed =>
    rw [SharedLedger.step, h.idle process] at hstep
    cases hstep
  | crash process =>
    cases hstep
    rw [moveTo, Function.update_eq_self_iff.2 (h.idle process).symm]

theorem Stuck.not_appendable (h : Stuck m) : ¬ Appendable host sessionId m := by
  rintro ⟨before, process, args, own, mid, final, hbefore, hown, -, hlonger⟩
  have hkeep : ∀ (state : SharedLedger Process) (event : LedgerStep Process) (next : SharedLedger Process),
      state = m → SharedLedger.step host sessionId state event = .ok next → next = m := by
    rintro state event next rfl hnext
    exact h.step hnext
  have hmid : mid = m := feed_invariant (I := (· = m)) hkeep rfl hbefore
  have hfinal : final = m := feed_invariant (I := (· = m)) hkeep hmid hown
  rw [hmid, hfinal] at hlonger
  exact lt_irrefl _ hlonger

theorem step_openLock {args : AppendArgs} {prepared : PreparedAppend} (hidle : m.point process = .idle)
    (hlock : m.lock = false) (hprepared : prepareAppend host sessionId args = .ok prepared) :
    step host sessionId m (.openLock process args) = .ok ({ m with lock := true }.moveTo process (.locked prepared)) := by
  rw [step, hidle]
  simp [hprepared, hlock]

variable (host sessionId) in
theorem finish_leaving {outcome : Except String Json} (hpoint : m.point process = .leaving outcome) :
    ∃ final, feed (step host sessionId) m [.unlock process true] = .ok final ∧ final.lock = false
      ∧ final.returned = m.returned ++ outcome.toOption.toList := by
  rw [feed_singleton, step, hpoint]
  exact ⟨_, rfl, by simp, rfl⟩

variable (host sessionId) in
theorem finish_writing {entry : ExistingConditionsRepairLedgerEntry} (hpoint : m.point process = .writing entry) :
    ∃ final, feed (step host sessionId) m [.append process true, .unlock process true] = .ok final
      ∧ final.lock = false ∧ final.returned = m.returned ++ [entry.line] := by
  have happend : step host sessionId m (.append process true)
      = .ok ({ m with lines := m.lines ++ [LedgerLine.parsed entry.line] }.moveTo process (.leaving (.ok entry.line))) := by
    rw [step, hpoint]
    rfl
  have hleaving : ({ m with lines := m.lines ++ [LedgerLine.parsed entry.line] }.moveTo process
      (.leaving (.ok entry.line))).point process = .leaving (.ok entry.line) := by simp
  obtain ⟨final, hfinal, hlock, hreturned⟩ := finish_leaving host sessionId hleaving
  refine ⟨final, ?_, hlock, hreturned⟩
  rw [feed_cons happend, hfinal]

variable (host sessionId) in
theorem finish_read (hpoint : m.point process ≠ .idle) (hread : ∀ prepared, m.point process ≠ .locked prepared) :
    ∃ own final, feed (step host sessionId) m own = .ok final ∧ (∀ event ∈ own, event.process = process)
      ∧ final.lock = false
      ∧ ((∀ fault, m.point process ≠ .leaving (.error fault)) → m.returned.length < final.returned.length) := by
  cases hcase : m.point process with
  | idle => exact absurd hcase hpoint
  | locked prepared => exact absurd hcase (hread prepared)
  | writing entry =>
    obtain ⟨final, hfinal, hlock, hreturned⟩ := finish_writing host sessionId hcase
    refine ⟨_, final, hfinal, ?_, hlock, fun _ => ?_⟩
    · simp [LedgerStep.process]
    · simp [hreturned]
  | leaving outcome =>
    obtain ⟨final, hfinal, hlock, hreturned⟩ := finish_leaving host sessionId hcase
    refine ⟨_, final, hfinal, ?_, hlock, fun hfailed => ?_⟩
    · simp [LedgerStep.process]
    · cases outcome with
      | error fault => exact absurd rfl (hfailed fault)
      | ok value => simp [hreturned, Except.toOption]

variable (host sessionId) in
theorem afterRead_moves (prepared : PreparedAppend) (ts : String) (lines : List LedgerLine) :
    afterRead host sessionId prepared ts lines ≠ .idle
      ∧ ∀ other, afterRead host sessionId prepared ts lines ≠ .locked other := by
  unfold afterRead
  split
  · exact ⟨nofun, fun _ => nofun⟩
  · split
    · exact ⟨nofun, fun _ => nofun⟩
    · split
      · exact ⟨nofun, fun _ => nofun⟩
      · exact ⟨nofun, fun _ => nofun⟩

variable (host sessionId) in
theorem finish_locked {prepared : PreparedAppend} (hpoint : m.point process = .locked prepared) :
    ∃ own final, feed (step host sessionId) m own = .ok final ∧ (∀ event ∈ own, event.process = process)
      ∧ final.lock = false
      ∧ ((∀ fault, afterRead host sessionId prepared "" m.lines ≠ .leaving (.error fault)) →
        m.returned.length < final.returned.length) := by
  have hmoved : (m.moveTo process (afterRead host sessionId prepared "" m.lines)).point process
      = afterRead host sessionId prepared "" m.lines := by simp
  have hread : step host sessionId m (.read process "")
      = .ok (m.moveTo process (afterRead host sessionId prepared "" m.lines)) := by
    rw [step, hpoint]
  obtain ⟨hmiddle, hunlocked⟩ := afterRead_moves host sessionId prepared "" m.lines
  rw [← hmoved] at hmiddle hunlocked
  obtain ⟨own, final, hfinal, hown, hlock, hreturned⟩ :=
    finish_read host sessionId hmiddle hunlocked
  refine ⟨.read process "" :: own, final, ?_, ?_, hlock, ?_⟩
  · rw [feed_cons hread, hfinal]
  · exact List.forall_mem_cons.2 ⟨rfl, hown⟩
  · rw [hmoved] at hreturned
    exact hreturned

variable (host sessionId) in
theorem Held.unlocks (h : Held m) :
    ∃ before mid, feed (step host sessionId) m before = .ok mid ∧ mid.lock = false := by
  cases hlock : m.lock with
  | false => exact ⟨[], m, rfl, hlock⟩
  | true =>
    obtain ⟨process, hprocess⟩ := h hlock
    by_cases hlocked : ∃ prepared, m.point process = .locked prepared
    · obtain ⟨prepared, hprepared⟩ := hlocked
      obtain ⟨own, final, hfinal, -, hunlocked, -⟩ := finish_locked host sessionId hprepared
      exact ⟨own, final, hfinal, hunlocked⟩
    · obtain ⟨own, final, hfinal, -, hunlocked, -⟩ := finish_read host sessionId hprocess
        fun prepared hprepared => hlocked ⟨prepared, hprepared⟩
      exact ⟨own, final, hfinal, hunlocked⟩

omit [DecidableEq Process] in
theorem Sound.afterRead_succeeds (h : Sound host sessionId m entries) {prepared : PreparedAppend}
    (hpayload : ∃ text, canonicalExistingConditionsLedgerJson host prepared.args.payload.value = .ok text)
    (fault : String) : SharedLedger.afterRead host sessionId prepared "" m.lines ≠ .leaving (.error fault) := by
  rw [SharedLedger.afterRead, h.lines, read_chained h.chained]
  cases hduplicate : duplicate? (entries.map ExistingConditionsRepairLedgerEntry.line) prepared.eventKey with
  | some duplicate =>
    simp only [hduplicate]
    exact nofun
  | none =>
    obtain ⟨entry, hentry⟩ := newEntry_defined sessionId hpayload ""
      (entries.map ExistingConditionsRepairLedgerEntry.line)
    simp only [hduplicate, hentry]
    exact nofun

theorem Sound.appendable (h : Sound host sessionId m entries) (hheld : Held m) (hsession : text.trim sessionId ≠ "")
    (process : Process) : Appendable host sessionId m := by
  obtain ⟨before, mid, hbefore, hlock⟩ := hheld.unlocks host sessionId
  obtain ⟨present, hmid⟩ : ∃ present, Sound host sessionId mid present :=
    feed_invariant (I := fun state => ∃ present, Sound host sessionId state present)
      (fun _ _ _ hstate hnext => by
        obtain ⟨present, hpresent⟩ := hstate
        obtain ⟨added, hadded⟩ := step_sound hpresent hnext
        exact ⟨_, hadded⟩)
      ⟨entries, h⟩ hbefore
  have hidle : mid.point process = .idle := by
    by_contra hmiddle
    rw [hmid.locked process hmiddle] at hlock
    exact absurd hlock (by decide)
  obtain ⟨prepared, hprepared, hargs⟩ := prepareAppend_plainArgs host hsession
  have hopen := step_openLock hidle hlock hprepared
  have hlocked : ({ mid with lock := true }.moveTo process (.locked prepared)).point process = .locked prepared := by
    simp
  obtain ⟨own, final, hfinal, hown, -, hreturned⟩ := finish_locked host sessionId hlocked
  refine ⟨before, process, plainArgs, own, mid, final, hbefore, ?_, hown, hreturned fun fault => ?_⟩
  · rw [feed_cons hopen, hfinal]
  · exact hmid.afterRead_succeeds (by rw [hargs]; exact ⟨_, rfl⟩) fault

theorem Held.step {event : LedgerStep Process} (h : Held m)
    (hrelease : ReleasesLock m event) (hstep : step host sessionId m event = .ok next) : Held next := by
  cases event with
  | openLock process args =>
    rw [SharedLedger.step] at hstep
    split at hstep
    · split at hstep
      · exact Except.ok.inj hstep ▸ h
      · split_ifs at hstep
        · exact Except.ok.inj hstep ▸ h
        · cases hstep
          exact fun _ => ⟨process, by simp⟩
    · cases hstep
  | read process ts =>
    rw [SharedLedger.step] at hstep
    split at hstep
    · next prepared _ =>
      cases hstep
      refine fun _ => ⟨process, ?_⟩
      rw [moveTo_point, if_pos rfl]
      exact (afterRead_moves host sessionId prepared ts m.lines).1
    · cases hstep
  | append process succeeds =>
    rw [SharedLedger.step] at hstep
    split at hstep
    · split_ifs at hstep
      · cases hstep
        exact fun _ => ⟨process, by simp⟩
      · cases hstep
        exact fun _ => ⟨process, by simp⟩
    · cases hstep
  | unlock process removed =>
    obtain rfl : removed = true := hrelease
    rw [SharedLedger.step] at hstep
    split at hstep
    · cases hstep
      intro hlock
      simp at hlock
    · cases hstep
  | crash process =>
    cases hstep
    have hidle : m.point process = .idle := hrelease
    rwa [moveTo, Function.update_eq_self_iff.2 hidle.symm]

theorem stuck_of_not_releasesLock {event : LedgerStep Process} (hsound : Sound host sessionId m entries)
    (hkept : ¬ ReleasesLock m event) (hstep : step host sessionId m event = .ok next) : Stuck next := by
  cases event with
  | openLock process args => exact absurd trivial hkept
  | read process ts => exact absurd trivial hkept
  | append process succeeds => exact absurd trivial hkept
  | unlock process removed =>
    obtain rfl : removed = false := by simpa [ReleasesLock] using hkept
    rw [SharedLedger.step] at hstep
    split at hstep
    · next outcome hpoint =>
      cases hstep
      have hmiddle : m.point process ≠ .idle := by rw [hpoint]; exact nofun
      have hlock := hsound.locked process hmiddle
      exact ⟨by simp [hlock], hsound.allIdle_of_stop hmiddle⟩
    · cases hstep
  | crash process =>
    have hmiddle : m.point process ≠ .idle := hkept
    cases hstep
    exact ⟨hsound.locked process hmiddle, hsound.allIdle_of_stop hmiddle⟩

end liveness

end SharedLedger

open SharedLedger in
/-- The ledger of a session can always be read and is always chained. Some later append can
    succeed exactly as long as every process that took the lock removes its file. -/
theorem repair_ledger_appendable_iff_releasesLock {Process : Type} [DecidableEq Process] (first : Process)
    (host : LedgerHost) {sessionId : String} (hsession : text.trim sessionId ≠ "") {steps : List (LedgerStep Process)}
    {final : SharedLedger Process} (hrun : feed (step host sessionId) initial steps = .ok final) :
    AlongRun (step host sessionId) initial steps (Readable host sessionId)
      ∧ (AlongRun (step host sessionId) initial steps
          (fun m => Readable host sessionId m ∧ Appendable host sessionId m)
        ↔ StepsMeet (step host sessionId) initial steps ReleasesLock) := by
  have hinv : ∀ (state : SharedLedger Process) event next, (∃ entries, Sound host sessionId state entries) →
      step host sessionId state event = .ok next → ∃ entries, Sound host sessionId next entries := by
    rintro state event next ⟨entries, hstate⟩ hnext
    obtain ⟨added, hadded⟩ := step_sound hstate hnext
    exact ⟨_, hadded⟩
  have hstart : ∃ entries, Sound host sessionId (initial : SharedLedger Process) entries := ⟨[], sound_initial⟩
  constructor
  · intro pre _ state hstate
    obtain ⟨entries, hsound⟩ := feed_invariant hinv hstart hstate
    exact hsound.readable
  · refine alongRun_iff_stepsMeet hinv ?_ ?_ hstart ?_ hrun
    · rintro state event next ⟨entries, hsound⟩ ⟨-, happendable⟩ hrelease hnext
      obtain ⟨added, hadded⟩ := step_sound hsound hnext
      have hheld : Held state := held_of_not_stuck fun hstuck => hstuck.not_appendable happendable
      exact ⟨hadded.readable, hadded.appendable (hheld.step hrelease hnext) hsession first⟩
    · rintro state event next ⟨entries, hsound⟩ - hkept hnext ⟨-, happendable⟩
      exact (stuck_of_not_releasesLock hsound hkept hnext).not_appendable happendable
    · have hheld : Held (initial : SharedLedger Process) := fun hlock => absurd hlock Bool.false_ne_true
      exact ⟨sound_initial.readable, sound_initial.appendable hheld hsession first⟩

theorem sample_lower (s : String) (_ : ∀ c ∈ s.toList, c.toNat < 128) :
    String.ofList (s.toList.map Char.toLower) = .ofList (s.toList.map Char.toLower) := rfl

/-- A host whose texts are their own digests. -/
def sampleHost : LedgerHost where
  numbers := Json.integerText
  sha256 := id
  toLowerCase := fun s => .ofList (s.toList.map Char.toLower)
  stringOf := fun _ => ""
  lower_ascii := sample_lower

/-- A process appends an entry, and another one crashes meanwhile. -/
def crashBesideAppend : List (LedgerStep Bool) :=
  [.openLock true plainArgs, .crash false, .read true "", .append true true, .unlock true true]

theorem afterRead_nil {prepared : PreparedAppend} (hargs : prepared.args = plainArgs) :
    ∃ entry, SharedLedger.afterRead sampleHost "s" prepared "" [] = .writing entry := by
  have hpayload : ∃ text, canonicalExistingConditionsLedgerJson sampleHost prepared.args.payload.value = .ok text := by
    rw [hargs]
    exact ⟨_, rfl⟩
  obtain ⟨entry, hentry⟩ := newEntry_defined "s" hpayload "" []
  have hread : readExistingConditionsRepairLedger sampleHost "s" [] = .ok [] := rfl
  simp only [SharedLedger.afterRead, hread, duplicate?, List.find?_nil, hentry]
  exact ⟨entry, rfl⟩

open SharedLedger in
/-- A crash of a process that holds no lock leaves the append of another one to return its
    entry, and the ledger open to the next append. -/
theorem idle_crash_leaves_ledger_appendable :
    ∃ final, feed (step sampleHost "s") (initial : SharedLedger Bool) crashBesideAppend = .ok final
      ∧ final.returned.length = 1
      ∧ AlongRun (step sampleHost "s") initial crashBesideAppend
        (fun m => Readable sampleHost "s" m ∧ Appendable sampleHost "s" m) := by
  obtain ⟨prepared, hprepared, hargs⟩ := prepareAppend_plainArgs sampleHost (show text.trim "s" ≠ "" by decide)
  obtain ⟨entry, hentry⟩ := afterRead_nil hargs
  let locked := { (initial : SharedLedger Bool) with lock := true }.moveTo true (.locked prepared)
  let crashed := locked.moveTo false .idle
  have hopen : step sampleHost "s" (initial : SharedLedger Bool) (.openLock true plainArgs) = .ok locked :=
    step_openLock rfl rfl hprepared
  have hcrash : step sampleHost "s" locked (.crash false) = .ok crashed := rfl
  have hread : step sampleHost "s" crashed (.read true "") = .ok (crashed.moveTo true (.writing entry)) := by
    simp [step, crashed, locked, initial, hentry]
  have hwriting : (crashed.moveTo true (.writing entry)).point true = .writing entry := by simp
  obtain ⟨final, hfinal, -, hreturned⟩ := finish_writing sampleHost "s" hwriting
  have hrun : feed (step sampleHost "s") (initial : SharedLedger Bool) crashBesideAppend = .ok final := by
    rw [crashBesideAppend, feed_cons hopen, feed_cons hcrash, feed_cons hread, hfinal]
  refine ⟨final, hrun, by simp [hreturned, crashed, locked, initial], ?_⟩
  refine (repair_ledger_appendable_iff_releasesLock true sampleHost (by decide) hrun).2.2 ?_
  refine .cons trivial hopen (.cons (by simp [ReleasesLock, locked, initial]) hcrash (.cons trivial hread ?_))
  intro pre event hpre _ _
  have hevent : event ∈ [.append true true, .unlock true true] := hpre.subset (by simp)
  simp only [List.mem_cons, List.not_mem_nil, or_false] at hevent
  obtain rfl | rfl := hevent
  · trivial
  · rfl

open SharedLedger in
/-- A crash of the process that holds the lock ends every later append. -/
theorem crashed_append_blocks_ledger :
    ¬ ∀ steps : List (LedgerStep Bool), AlongRun (step sampleHost "s") initial steps
      fun m => Readable sampleHost "s" m ∧ Appendable sampleHost "s" m := by
  intro h
  obtain ⟨prepared, hprepared, -⟩ := prepareAppend_plainArgs sampleHost (show text.trim "s" ≠ "" by decide)
  have hopen : step sampleHost "s" (initial : SharedLedger Bool) (.openLock true plainArgs)
      = .ok ({ (initial : SharedLedger Bool) with lock := true }.moveTo true (.locked prepared)) :=
    step_openLock rfl rfl hprepared
  have hrun : feed (step sampleHost "s") (initial : SharedLedger Bool) [.openLock true plainArgs, .crash true]
      = .ok (({ (initial : SharedLedger Bool) with lock := true }.moveTo true (.locked prepared)).moveTo true .idle) := by
    rw [feed_cons hopen, feed_singleton]
    rfl
  have hstuck : Stuck (({ (initial : SharedLedger Bool) with lock := true }.moveTo true (.locked prepared)).moveTo true
      .idle) := by
    refine ⟨rfl, fun process => ?_⟩
    cases process <;> rfl
  exact hstuck.not_appendable (h _ _ (List.prefix_refl _) _ hrun).2

end revit_operator.existing_conditions
