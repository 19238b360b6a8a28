import Lifecycle.Proofs.Machine.Soundness
import Lifecycle.Proofs.Run.Office

/-!
# No update is lost

Executions and plain saves take their steps on one store in any order, and the recovery of an
execution is a second save, made after others may have saved. Still no save overwrites one that it
does not know of. The ledger is sound throughout, so that versions never return. An execution that
finds its version superseded at its commit therefore finds it superseded at its recovery as well.
-/

namespace Lifecycle

/-! ### The steps of one execution -/

namespace Request

variable {ε : Type} {request : Request} {world after : World Ledger} {phase : Phase ε}

/-- A commit offers one record. The execution returns what was stored, or goes on to the
recovery. -/
theorem commit_eq [OperationFault ε] {changed : Record}
    (h : request.commit changed world = (phase, after)) :
    (∃ stored, world.host.Saves after.host changed (.ok stored) ∧ phase = .done (.ok stored)) ∨
      ∃ storeError error, world.host.Saves after.host changed (.error storeError) ∧
        phase = .recovering error := by
  rw [commit] at h
  cases hsave : world.save changed with
  | mk answer between =>
    have hsaves := Ledger.saves_save hsave
    cases answer with
    | ok stored =>
      simp only [hsave, Prod.mk.injEq] at h
      obtain ⟨rfl, rfl⟩ := h
      exact .inl ⟨stored, hsaves, rfl⟩
    | error storeError =>
      simp only [hsave, fail, Prod.mk.injEq] at h
      obtain ⟨rfl, rfl⟩ := h
      exact .inr ⟨storeError, _, hsaves, rfl⟩

/-- A recovery offers a copy of the original record, or nothing. -/
theorem conclude_eq [Fault ε] {machine : Machine} {error : ε}
    (h : machine.conclude request error world = (phase, after)) :
    phase = .done (.error (.operationFailure request.transition error)) ∧
      (after.host = world.host ∨ ∃ diverted answer, diverted.id = request.record.id ∧
        diverted.version = request.record.version ∧
        world.host.Saves after.host diverted answer) := by
  simp only [Machine.conclude, Prod.mk.injEq] at h
  obtain ⟨rfl, rfl⟩ := h
  refine ⟨rfl, ?_⟩
  have hends := Machine.recovers_onFailure machine request.context request.record request.target
    error world
  generalize machine.onFailure request.context request.record request.target error world = ending
    at hends ⊢
  cases hends with
  | notConfigured hstate => exact .inl rfl
  | alreadyRecovering hstate hcontext => exact .inl rfl
  | refused hstate hcontext hedge hrejected => exact .inl rfl
  -- whatever becomes of it, what is offered is a diverted copy of the original record
  | unsaved hstate hcontext hedge hsave | recovered hstate hcontext hedge hsave =>
    have hsaves := Ledger.saves_save hsave
    exact .inr ⟨_, _, Record.id_diverted, Record.version_diverted, hsaves⟩

end Request

namespace Execution

variable {machine : Machine} {execution next : Execution} {before after : Ledger}

/-- The ways in which an execution may take its next step on the store. -/
inductive Advances (execution : Execution) (before after : Ledger) : Execution → Prop where
  /-- There is nothing to do. -/
  | idle (hledger : after = before) : Advances execution before after execution
  /-- The commit succeeds. -/
  | committed {changed stored : Record} (hphase : execution.phase = .committing changed)
      (hsaves : before.Saves after changed (.ok stored)) :
      Advances execution before after
        { execution with
          phase := .done (.ok stored)
          commits := execution.commits ++ [before.offer after changed (.ok stored)] }
  /-- The commit fails. -/
  | uncommitted {changed : Record} {storeError : StoreError} {error : execution.ε}
      (hphase : execution.phase = .committing changed)
      (hsaves : before.Saves after changed (.error storeError)) :
      Advances execution before after
        { execution with
          phase := .recovering error
          commits := execution.commits ++ [before.offer after changed (.error storeError)] }
  /-- No recovery is attempted. -/
  | unrecovered {error : execution.ε} (hphase : execution.phase = .recovering error)
      (hledger : after = before) :
      Advances execution before after
        { execution with
          phase := .done (.error (.operationFailure execution.request.transition error)) }
  /-- A recovery is attempted. -/
  | recovery {error : execution.ε} {diverted : Record} {answer : Except StoreError Record}
      (hphase : execution.phase = .recovering error)
      (hid : diverted.id = execution.request.record.id)
      (hversion : diverted.version = execution.request.record.version)
      (hsaves : before.Saves after diverted answer) :
      Advances execution before after
        { execution with
          phase := .done (.error (.operationFailure execution.request.transition error))
          recoveries := execution.recoveries ++ [before.offer after diverted answer] }

/-- The next step of an execution is one of these. -/
theorem advances_advance {world after : World Ledger}
    (h : execution.advance machine world = (next, after)) :
    execution.Advances world.host after.host next := by
  -- the phase has to be a variable: its type depends on the execution
  obtain ⟨ε, fault, request, phase, commits, recoveries⟩ := execution
  cases phase with
  | operating pending | done result =>
    simp only [advance, Machine.advance, Ledger.since, List.drop_length, List.append_nil,
      Prod.mk.injEq] at h
    obtain ⟨rfl, rfl⟩ := h
    exact .idle rfl
  | committing changed =>
    cases hcommit : (request.commit changed world : Phase ε × World Ledger) with
    | mk phase between =>
      simp only [advance, Machine.advance, hcommit, Prod.mk.injEq] at h
      obtain ⟨rfl, rfl⟩ := h
      rcases Request.commit_eq hcommit with ⟨stored, hsaves, rfl⟩ | ⟨storeError, error, hsaves, rfl⟩
      · rw [hsaves.since_eq]
        exact .committed rfl hsaves
      · rw [hsaves.since_eq]
        exact .uncommitted rfl hsaves
  | recovering error =>
    cases hconclude : (machine.conclude request error world : Phase ε × World Ledger) with
    | mk phase between =>
      simp only [advance, Machine.advance, hconclude, Prod.mk.injEq] at h
      obtain ⟨rfl, rfl⟩ := h
      obtain ⟨rfl, hledger | ⟨diverted, answer, hid, hversion, hsaves⟩⟩ :=
        Request.conclude_eq hconclude
      · simp only [hledger, Ledger.since, List.drop_length, List.append_nil]
        exact .unrecovered rfl rfl
      · rw [hsaves.since_eq]
        exact .recovery rfl hid hversion hsaves

/-! ### What is true of an execution at any time -/

/-- At the commit of the execution, the version of its record was not the stored one. -/
def IsSuperseded (execution : Execution) : Prop :=
  ∃ commit ∈ execution.commits,
    commit.before.version execution.request.record.id ≠ execution.request.record.version

/-- The execution committed once, on top of the version of its record, and stored a record. -/
def CommittedOnTop (execution : Execution) (stored : Record) : Prop :=
  ∃ commit, execution.commits = [commit] ∧ commit.answer = .ok stored ∧
    stored.id = execution.request.record.id ∧
    commit.before.version execution.request.record.id = execution.request.record.version ∧
    stored.version.toNat = execution.request.record.version.toNat + 1 ∧
    commit.after = commit.before.put stored

/-- The operation or the commit failed, and neither the commit nor the recovery changed the
store. -/
def LeftStore (execution : Execution) : Prop :=
  execution.phase.HasFailed execution.request.transition ∧
    ∀ offer ∈ execution.commits ++ execution.recoveries, offer.after = offer.before

/-- At its next step at the latest, the execution returns the failure. -/
def ReturnsFailure (machine : Machine) (execution : Execution) : Prop :=
  ∀ world, ∃ error, (execution.advance machine world).1.phase =
    .done (.error (.operationFailure execution.request.transition error))

theorem returnsFailure_of_hasFailed (h : execution.phase.HasFailed execution.request.transition) :
    execution.ReturnsFailure machine := by
  intro world
  obtain ⟨ε, fault, request, phase, commits, recoveries⟩ := execution
  obtain ⟨error, hphase⟩ : ∃ error : ε, phase = .recovering error ∨
    phase = .done (.error (.operationFailure request.transition error)) := h
  rcases hphase with rfl | rfl
  · exact ⟨error, rfl⟩
  · exact ⟨error, rfl⟩

/-- What is true of an execution at any time. -/
structure Sound (execution : Execution) (ledger : Ledger) : Prop where
  /-- The record was made or returned by the store. -/
  descends : ledger.memory.Descends execution.request.record
  /-- The record at work has the version of the original one, and was not offered yet. -/
  atWork : ∀ record, execution.phase.atWork? = some record →
    record.id = execution.request.record.id ∧ record.version = execution.request.record.version ∧
      execution.commits = [] ∧ execution.recoveries = []
  /-- What was returned is a copy like any other. -/
  returned : ∀ stored, execution.phase.returned? = some stored → ledger.memory.Descends stored
  /-- The ledger knows of all offers. -/
  noted : execution.commits ++ execution.recoveries ⊆ ledger.offers
  /-- What was returned was committed. -/
  committed : ∀ stored, execution.phase = .done (.ok stored) → execution.CommittedOnTop stored
  /-- A superseded version stays superseded. -/
  superseded : execution.IsSuperseded → execution.request.record.version.toNat <
    (ledger.memory.version execution.request.record.id).toNat
  /-- A superseded execution leaves the store alone. -/
  leftStore : execution.IsSuperseded → execution.LeftStore

/-- What others do keeps an execution sound. -/
theorem Sound.mono (h : execution.Sound before) (hcontinues : before.Continues after) :
    execution.Sound after where
  descends := hcontinues.descends _ h.descends
  atWork := h.atWork
  returned stored hstored := hcontinues.descends _ (h.returned stored hstored)
  noted := List.Subset.trans h.noted hcontinues.offers_subset
  committed := h.committed
  superseded hsuperseded :=
    Nat.lt_of_lt_of_le (h.superseded hsuperseded) (hcontinues.version_le _)
  leftStore := h.leftStore

/-- A successful commit keeps an execution sound. -/
theorem Sound.committed_on_top (h : execution.Sound before) (hledger : before.Sound)
    (hroom : after.offers.length < 2 ^ 64) {changed stored : Record}
    (hphase : execution.phase = .committing changed)
    (hsaves : before.Saves after changed (.ok stored)) :
    Sound { execution with
      phase := .done (.ok stored)
      commits := execution.commits ++ [before.offer after changed (.ok stored)] } after := by
  have hcontinues := hsaves.continues hledger hroom
  have hnoted := hsaves.noted h.noted
  obtain ⟨hid, hsame, hfirst, -⟩ := h.atWork changed (by rw [hphase, Phase.atWork?])
  rw [hsaves.offers_eq, List.length_append] at hroom
  cases hsaves with
  | accepted hversion hmemory hoffers =>
    have hassigned := Store.toNat_assigned hledger.counted hroom hversion
    -- the commit found the version of the original record
    have hontop : before.memory.version execution.request.record.id =
        execution.request.record.version := by
      rw [← hid, ← hsame, hversion]
    have hcurrent (hsuperseded : IsSuperseded { execution with
        phase := .done (.ok (changed.withVersion (changed.version + 1)))
        commits := execution.commits ++ [before.offer after changed
          (.ok (changed.withVersion (changed.version + 1)))] }) : False := by
      obtain ⟨commit, hcommit, hne⟩ := hsuperseded
      rw [hfirst, List.nil_append, List.mem_singleton] at hcommit
      subst hcommit
      exact hne hontop
    constructor
    case descends => exact hcontinues.descends _ h.descends
    case atWork => exact fun _ hrecord => nomatch hrecord
    case returned =>
      intro copy hcopy
      obtain rfl := Option.some.inj hcopy
      rw [hmemory]
      exact Store.descends_of_get? (Store.get?_put_self _ _ _)
    case noted =>
      rw [List.append_assoc]
      exact hnoted
    case committed =>
      intro copy hcopy
      obtain rfl := Except.ok.inj (Phase.done.inj hcopy)
      rw [CommittedOnTop, hfirst]
      refine ⟨_, rfl, rfl, hid, hontop, ?_, hmemory⟩
      rw [← hsame]
      exact hassigned
    case superseded => exact fun hsuperseded => (hcurrent hsuperseded).elim
    case leftStore => exact fun hsuperseded => (hcurrent hsuperseded).elim

/-- A failed commit keeps an execution sound. If it found another version than that of the original
record, this version is greater. -/
theorem Sound.uncommitted (h : execution.Sound before) (hledger : before.Sound)
    (hroom : after.offers.length < 2 ^ 64) {changed : Record} {storeError : StoreError}
    {error : execution.ε} (hphase : execution.phase = .committing changed)
    (hsaves : before.Saves after changed (.error storeError)) :
    Sound { execution with
      phase := .recovering error
      commits := execution.commits ++ [before.offer after changed (.error storeError)] } after := by
  have hcontinues := hsaves.continues hledger hroom
  have hnoted := hsaves.noted h.noted
  obtain ⟨-, -, hfirst, hlater⟩ := h.atWork changed (by rw [hphase, Phase.atWork?])
  cases hsaves with
  | refused hmemory hoffers =>
    constructor
    case descends => exact hcontinues.descends _ h.descends
    case atWork => exact fun _ hrecord => nomatch hrecord
    case returned => exact fun _ hstored => nomatch hstored
    case noted =>
      rw [List.append_assoc]
      exact hnoted
    case committed => exact fun _ hstored => nomatch hstored
    case superseded =>
      rintro ⟨commit, hcommit, hne⟩
      rw [hfirst, List.nil_append, List.mem_singleton] at hcommit
      subst hcommit
      -- a copy is never ahead of the store, so that another version is a greater one
      have hle := h.descends.version_le
      have hne : before.memory.version execution.request.record.id ≠
        execution.request.record.version := hne
      rw [hmemory]
      refine Nat.lt_of_le_of_ne hle fun heq => hne ?_
      exact (UInt64.toNat_inj.1 heq).symm
    case leftStore =>
      intro _
      refine ⟨⟨error, .inl rfl⟩, fun offer hoffer => ?_⟩
      rw [hfirst, hlater, List.nil_append, List.append_nil, List.mem_singleton] at hoffer
      rw [hoffer]
      exact hmemory

/-- A failure from which nothing recovers keeps an execution sound. -/
theorem Sound.unrecovered (h : execution.Sound before) {error : execution.ε} :
    Sound { execution with
      phase := .done (.error (.operationFailure execution.request.transition error)) } before where
  descends := h.descends
  atWork _ hrecord := nomatch hrecord
  returned _ hstored := nomatch hstored
  noted := h.noted
  committed _ hstored := nomatch hstored
  superseded := h.superseded
  leftStore hsuperseded := ⟨⟨error, .inr rfl⟩, (h.leftStore hsuperseded).2⟩

/-- A recovery keeps an execution sound. It is refused if the version was superseded at the commit,
because it still is. -/
theorem Sound.recovery (h : execution.Sound before) (hledger : before.Sound)
    (hroom : after.offers.length < 2 ^ 64) {error : execution.ε} {diverted : Record}
    {answer : Except StoreError Record} (hid : diverted.id = execution.request.record.id)
    (hversion : diverted.version = execution.request.record.version)
    (hsaves : before.Saves after diverted answer) :
    Sound { execution with
      phase := .done (.error (.operationFailure execution.request.transition error))
      recoveries := execution.recoveries ++ [before.offer after diverted answer] } after := by
  have hcontinues := hsaves.continues hledger hroom
  constructor
  case descends => exact hcontinues.descends _ h.descends
  case atWork => exact fun _ hrecord => nomatch hrecord
  case returned => exact fun _ hstored => nomatch hstored
  case noted =>
    have hknown := h.noted
    rw [← List.append_nil (_ ++ _)] at hknown
    rw [← List.append_assoc]
    exact hsaves.noted hknown
  case committed => exact fun _ hstored => nomatch hstored
  case superseded =>
    intro hsuperseded
    exact Nat.lt_of_lt_of_le (h.superseded hsuperseded) (hcontinues.version_le _)
  case leftStore =>
    intro hsuperseded
    refine ⟨⟨error, .inr rfl⟩, fun offer hoffer => ?_⟩
    rw [← List.append_assoc, List.mem_append, List.mem_singleton] at hoffer
    rcases hoffer with hoffer | rfl
    · exact (h.leftStore hsuperseded).2 offer hoffer
    · cases hsaves with
      | refused hmemory hoffers => exact hmemory
      | accepted hfound hmemory hoffers =>
        -- the stored version is greater than that of the original record
        have hlt := h.superseded hsuperseded
        rw [← hid, ← hversion, hfound] at hlt
        exact absurd hlt (Nat.lt_irrefl _)

/-- A step on the store keeps an execution sound. -/
theorem Sound.advances (h : execution.Sound before) (hledger : before.Sound)
    (hroom : after.offers.length < 2 ^ 64) (hadvances : execution.Advances before after next) :
    next.Sound after := by
  cases hadvances with
  | idle hsame =>
    rw [hsame]
    exact h
  | committed hphase hsaves => exact h.committed_on_top hledger hroom hphase hsaves
  | uncommitted hphase hsaves => exact h.uncommitted hledger hroom hphase hsaves
  | unrecovered hphase hsame =>
    rw [hsame]
    exact h.unrecovered
  | recovery hphase hid hversion hsaves => exact h.recovery hledger hroom hid hversion hsaves

theorem Advances.turn (hadvances : execution.Advances before after next) : before.Turn after := by
  cases hadvances with
  | idle hsame | unrecovered _ hsame =>
    rw [hsame]
    exact .idle rfl rfl
  | committed _ hsaves | uncommitted _ hsaves | recovery _ _ _ hsaves => exact .save hsaves

/-- The guard leaves the ledger as it is, and the execution has not returned a record. The pending
record has the version of the original one. -/
theorem start_eq {ε : Type} {request : Request} {world after : World Ledger} {phase : Phase ε}
    (h : machine.start request world = (phase, after)) :
    after.host = world.host ∧ phase.returned? = none ∧ ∀ record, phase.atWork? = some record →
      record.id = request.record.id ∧ record.version = request.record.version := by
  rw [Machine.start] at h
  cases hprepare : machine.prepare request.record request.transition request.target world.now with
  | ok pending =>
    simp only [hprepare, Prod.mk.injEq] at h
    obtain ⟨rfl, rfl⟩ := h
    obtain ⟨-, rfl⟩ := Machine.prepare_eq_ok hprepare
    refine ⟨rfl, rfl, fun record hrecord => ?_⟩
    rw [← Option.some.inj hrecord]
    exact ⟨rfl, rfl⟩
  | error rejected =>
    simp only [hprepare, Prod.mk.injEq] at h
    obtain ⟨rfl, rfl⟩ := h
    exact ⟨rfl, rfl, fun _ hrecord => nomatch hrecord⟩

/-- An execution that has offered nothing is sound if the record at work has the version of the
original one. -/
theorem sound_of_no_offers (hdescends : before.memory.Descends execution.request.record)
    (hreturned : execution.phase.returned? = none)
    (hatWork : ∀ record, execution.phase.atWork? = some record →
      record.id = execution.request.record.id ∧ record.version = execution.request.record.version)
    (hcommits : execution.commits = []) (hrecoveries : execution.recoveries = []) :
    execution.Sound before := by
  -- without a commit there is no version that it could have missed
  have hcurrent : ¬ execution.IsSuperseded := by
    rintro ⟨commit, hcommit, -⟩
    rw [hcommits] at hcommit
    exact nomatch hcommit
  constructor
  case descends => exact hdescends
  case atWork =>
    intro record hrecord
    obtain ⟨hid, hversion⟩ := hatWork record hrecord
    exact ⟨hid, hversion, hcommits, hrecoveries⟩
  case returned =>
    intro stored hstored
    rw [hreturned] at hstored
    exact nomatch hstored
  case noted =>
    rw [hcommits, hrecoveries]
    exact List.nil_subset _
  case committed =>
    intro stored hphase
    rw [hphase] at hreturned
    exact nomatch hreturned
  case superseded => exact fun hsuperseded => absurd hsuperseded hcurrent
  case leftStore => exact fun hsuperseded => absurd hsuperseded hcurrent

theorem sound_start {ε : Type} [OperationFault ε] {request : Request} {world after : World Ledger}
    {phase : Phase ε} (hrecord : world.host.memory.Descends request.record)
    (hstart : machine.start request world = (phase, after)) :
    Sound { ε, fault := inferInstance, request, phase } world.host := by
  obtain ⟨-, hreturned, hatWork⟩ := start_eq hstart
  exact sound_of_no_offers hrecord hreturned hatWork rfl rfl

/-- The end of an operation leaves the ledger as it is. -/
theorem host_answered {world after : World Ledger} {answer : Except execution.ε Record}
    (h : execution.answered answer world = (next, after)) : after.host = world.host := by
  cases answer with
  | ok changed | error error =>
    simp only [answered, Request.answered, Request.fail, Prod.mk.injEq] at h
    obtain ⟨-, rfl⟩ := h
    rfl

/-- The answer of an operation that sets attributes keeps an execution sound. -/
theorem Sound.answered {world after : World Ledger} (h : execution.Sound before)
    {pending : Record} {answer : Except execution.ε (List (String × String))}
    (hphase : execution.phase = .operating pending)
    (hanswered : execution.answered (answer.map pending.setAttributes) world = (next, after)) :
    next.Sound before := by
  obtain ⟨hid, hversion, hcommits, hrecoveries⟩ := h.atWork pending (by rw [hphase, Phase.atWork?])
  cases answer with
  | ok entries =>
    simp only [Execution.answered, Request.answered, Except.map, Prod.mk.injEq] at hanswered
    obtain ⟨rfl, -⟩ := hanswered
    refine sound_of_no_offers h.descends rfl (fun record hrecord => ?_) hcommits hrecoveries
    rw [← Option.some.inj hrecord, Record.setAttributes_eq]
    exact ⟨hid, hversion⟩
  | error error =>
    simp only [Execution.answered, Request.answered, Request.fail, Except.map, Prod.mk.injEq]
      at hanswered
    obtain ⟨rfl, -⟩ := hanswered
    refine sound_of_no_offers h.descends rfl (fun record hrecord => ?_) hcommits hrecoveries
    cases hrecord

end Execution

/-! ### What is true of an office at any time -/

namespace Office

variable {machine : Machine} {start before after office : Office}

/-- What is true of an office at any time. -/
structure Sound (office : Office) : Prop where
  /-- The ledger is sound. -/
  ledger : office.ledger.Sound
  /-- The copies were made or returned by the store. -/
  copies : ∀ copy ∈ office.copies, office.ledger.memory.Descends copy
  /-- The executions are sound. -/
  executions : ∀ execution ∈ office.executions, execution.Sound office.ledger

theorem Step.turn (hstep : Step machine before after) : before.ledger.Turn after.ledger := by
  cases hstep with
  | make hmade => exact .idle rfl rfl
  | save hrecord hsave => exact .save (Ledger.saves_save hsave)
  | load hload =>
    obtain ⟨hmemory, hoffers, -⟩ := Ledger.load_eq hload
    exact .idle hmemory hoffers
  | start hrecord hstart =>
    rw [ledger, ledger, (Execution.start_eq hstart).1]
    exact .idle rfl rfl
  | answer hphase answer hanswered =>
    rw [ledger, ledger, Execution.host_answered hanswered]
    exact .idle rfl rfl
  | advance hadvance => exact (Execution.advances_advance hadvance).turn
  | wait clock => exact .idle rfl rfl

theorem descends_of_saves {ledger later : Ledger} {record stored : Record}
    (hsaves : ledger.Saves later record (.ok stored)) : later.memory.Descends stored := by
  cases hsaves with
  | accepted hversion hmemory hoffers =>
    rw [hmemory]
    exact Store.descends_of_get? (Store.get?_put_self _ _ _)

/-- A step keeps an office sound, as long as there are fewer offers than versions. -/
theorem Step.sound (hstep : Step machine before after) (hsound : before.Sound)
    (hroom : after.ledger.offers.length < 2 ^ 64) : after.Sound := by
  obtain ⟨hledger, hcontinues⟩ := hstep.turn.sound hsound.ledger hroom
  -- whatever the step did not touch is as sound as before
  have hcopies (copy : Record) (hcopy : copy ∈ before.copies) : after.ledger.memory.Descends copy :=
    hcontinues.descends copy (hsound.copies copy hcopy)
  have hexecutions (execution : Execution) (hexecution : execution ∈ before.executions) :
      execution.Sound after.ledger :=
    (hsound.executions execution hexecution).mono hcontinues
  cases hstep with
  | @make copies executions world record hmade =>
    refine ⟨hledger, ?_, hexecutions⟩
    have hrecord := Desk.descends_of_made hsound.ledger.counted hsound.copies hmade
    exact List.forall_mem_cons.2 ⟨hrecord, hcopies⟩
  | @save copies executions world later record answer hrecord hsave =>
    refine ⟨hledger, ?_, hexecutions⟩
    cases answer with
    | error error => exact hcopies
    | ok stored =>
      exact List.forall_mem_cons.2 ⟨descends_of_saves (Ledger.saves_save hsave), hcopies⟩
  | @load copies executions world later id answer hload =>
    refine ⟨hledger, ?_, hexecutions⟩
    obtain ⟨hmemory, -, hfound⟩ := Ledger.load_eq hload
    cases answer with
    | error error => exact hcopies
    | ok stored =>
      have hstored := Store.descends_of_get? (hfound stored rfl)
      rw [← hmemory] at hstored
      exact List.forall_mem_cons.2 ⟨hstored, hcopies⟩
  | @start ε _ copies executions world later request phase hrecord hstart =>
    refine ⟨hledger, hcopies, List.forall_mem_append.2 ⟨hexecutions, ?_⟩⟩
    rw [List.forall_mem_singleton]
    exact (Execution.sound_start (hsound.copies _ hrecord) hstart).mono hcontinues
  -- in the last two kinds of steps, one execution changes and those around it do not
  | @answer copies earlier afterwards execution next world later pending hphase answer hanswered =>
    refine ⟨hledger, hcopies, ?_⟩
    have hexecution := hsound.executions execution
      (List.mem_append_right _ List.mem_cons_self)
    have hnext := (hexecution.answered hphase hanswered).mono hcontinues
    simp only [List.forall_mem_append, List.forall_mem_cons] at hexecutions ⊢
    exact ⟨hexecutions.1, hnext, hexecutions.2.2⟩
  | @advance copies earlier afterwards execution next world later hadvance =>
    have hexecution := hsound.executions execution
      (List.mem_append_right _ List.mem_cons_self)
    have hnext := hexecution.advances hsound.ledger hroom (Execution.advances_advance hadvance)
    refine ⟨hledger, List.forall_mem_append.2 ⟨fun copy hcopy => ?_, hcopies⟩, ?_⟩
    · exact hnext.returned copy (Option.mem_toList.1 hcopy)
    · simp only [List.forall_mem_append, List.forall_mem_cons] at hexecutions ⊢
      exact ⟨hexecutions.1, hnext, hexecutions.2.2⟩
  | wait clock => exact ⟨hledger, hcopies, hexecutions⟩

theorem IsFresh.sound (hfresh : office.IsFresh) : office.Sound := by
  constructor
  case ledger =>
    constructor
    · rw [hfresh.memory_eq]
      exact ⟨fun _ => Nat.zero_le _, fun _ _ => rfl⟩
    · rw [hfresh.offers_eq]
      exact fun _ hoffer => nomatch hoffer
    · rw [hfresh.offers_eq]
      exact .nil
  case copies =>
    rw [hfresh.copies_eq]
    exact fun _ hcopy => nomatch hcopy
  case executions =>
    rw [hfresh.executions_eq]
    exact fun _ hexecution => nomatch hexecution

/-- Every office that is reached is sound, as long as there are fewer offers than versions. -/
theorem sound_of_reaches (hsound : start.Sound) (hreaches : Reaches machine start office)
    (hroom : office.ledger.offers.length < 2 ^ 64) : office.Sound := by
  induction hreaches with
  | refl => exact hsound
  | tail hreaches hstep ih =>
    have hlength := hstep.turn.length_le
    exact hstep.sound (ih (by omega)) hroom

/-- No update is lost. Of all records that were offered to the store under one version of one
identifier, at most one was accepted. An execution that returned a record committed on top of the
version of the record that it was given. An execution that did not find this version at its commit
returns the failure, at its next step at the latest, and neither its commit nor its recovery changes
the store. -/
theorem no_lost_update (machine : Machine) (hfresh : start.IsFresh)
    (hreaches : Reaches machine start office) (hroom : office.ledger.offers.length < 2 ^ 64) :
    office.ledger.offers.Pairwise Offer.Excludes ∧
      ∀ execution ∈ office.executions,
        execution.commits ++ execution.recoveries ⊆ office.ledger.offers ∧
        (∀ stored, execution.phase = .done (.ok stored) → execution.CommittedOnTop stored) ∧
        (execution.IsSuperseded → execution.LeftStore ∧ execution.ReturnsFailure machine) := by
  have hsound := sound_of_reaches hfresh.sound hreaches hroom
  refine ⟨hsound.ledger.exclusive, fun execution hexecution => ?_⟩
  have hexecution := hsound.executions execution hexecution
  refine ⟨hexecution.noted, hexecution.committed, fun hsuperseded => ?_⟩
  have hleft := hexecution.leftStore hsuperseded
  exact ⟨hleft, Execution.returnsFailure_of_hasFailed hleft.1⟩

/-- A delivery was stored, and two couriers confirm it at the same time. The second commit is too
late, and so is the recovery after it: the delivery of the first courier stays. -/
theorem no_lost_update_delivery :
    let fresh : Office := { world := { host := { store := {} } } }
    ∃ office : Office, fresh.IsFresh ∧ Reaches .delivery fresh office ∧
      office.ledger.offers.length < 2 ^ 64 ∧
      (∃ loser ∈ office.executions, loser.IsSuperseded ∧ loser.recoveries.length = 1 ∧
        loser.LeftStore) ∧
      (office.ledger.memory.get? (.ofNat 1)).bind (·.attribute? "courier") = some "anna" := by
  intro fresh
  let record := Record.create .delivery (.ofNat 1)
  let saving := fresh.world.save record
  let stored := record.withVersion 1
  let request : Request :=
    { context := .root, record := stored, transition := "confirm", target := ⟨"confirmed"⟩ }
  let pending := stored.apply "confirm" ⟨"confirmed"⟩ false fresh.world.now
  let copies := [stored, record]
  let begun : Execution :=
    { ε := StoreError, fault := inferInstance, request, phase := .operating pending }
  let anna := begun.answered (.ok (pending.setAttributes [("courier", "anna")])) saving.2
  let berta := begun.answered (.ok (pending.setAttributes [("courier", "berta")])) saving.2
  let winner := anna.1.advance .delivery saving.2
  let late := berta.1.advance .delivery winner.2
  let loser := late.1.advance .delivery late.2
  let copies₁ := winner.1.phase.returned?.toList ++ copies
  let copies₂ := late.1.phase.returned?.toList ++ copies₁
  let office : Office :=
    { copies := loser.1.phase.returned?.toList ++ copies₂
      executions := [winner.1] ++ loser.1 :: []
      world := loser.2 }
  have hfresh : fresh.IsFresh := ⟨rfl, rfl, rfl, rfl⟩
  -- both executions are started on the same stored copy
  have hstarted : Reaches .delivery fresh
      { copies, executions := [begun, begun], world := saving.2 } := by
    have hcreated : Step .delivery fresh { fresh with copies := [record] } := .make (.create _)
    have hsaved : Step .delivery { fresh with copies := [record] } { copies, world := saving.2 } :=
      .save List.mem_cons_self rfl
    have hfirst : Step .delivery { copies, world := saving.2 }
        { copies, executions := [begun], world := saving.2 } := .start List.mem_cons_self rfl
    have hsecond : Step .delivery { copies, executions := [begun], world := saving.2 }
        { copies, executions := [begun, begun], world := saving.2 } := .start List.mem_cons_self rfl
    exact .tail (.tail (.tail (.single hcreated) hsaved) hfirst) hsecond
  -- both operations end before either commit
  have hanswered : Reaches .delivery { copies, executions := [begun, begun], world := saving.2 }
      { copies, executions := [anna.1, berta.1], world := saving.2 } := by
    have hanna : Step .delivery { copies, executions := [] ++ begun :: [begun], world := saving.2 }
        { copies, executions := [] ++ anna.1 :: [begun], world := saving.2 } :=
      .answer rfl (.ok [("courier", "anna")]) rfl
    have hberta : Step .delivery
        { copies, executions := [anna.1] ++ begun :: [], world := saving.2 }
        { copies, executions := [anna.1] ++ berta.1 :: [], world := saving.2 } :=
      .answer rfl (.ok [("courier", "berta")]) rfl
    exact .tail (.single hanna) hberta
  -- the commits, and the recovery of the later one
  have hcommitted : Reaches .delivery { copies, executions := [anna.1, berta.1], world := saving.2 }
      office := by
    have hwinner : Step .delivery
        { copies, executions := [] ++ anna.1 :: [berta.1], world := saving.2 }
        { copies := copies₁, executions := [] ++ winner.1 :: [berta.1], world := winner.2 } :=
      .advance rfl
    have hlate : Step .delivery
        { copies := copies₁, executions := [winner.1] ++ berta.1 :: [], world := winner.2 }
        { copies := copies₂, executions := [winner.1] ++ late.1 :: [], world := late.2 } :=
      .advance rfl
    have hloser : Step .delivery
        { copies := copies₂, executions := [winner.1] ++ late.1 :: [], world := late.2 } office :=
      .advance rfl
    exact .tail (.tail (.single hwinner) hlate) hloser
  have hreaches : Reaches .delivery fresh office := hstarted.trans (hanswered.trans hcommitted)
  have hroom : office.ledger.offers.length < 2 ^ 64 := by decide
  have hsafe := no_lost_update .delivery hfresh hreaches hroom
  have hloser : loser.1 ∈ office.executions := List.mem_cons_of_mem _ List.mem_cons_self
  have hsuperseded : loser.1.IsSuperseded := ⟨_, List.mem_cons_self, by decide⟩
  have hleft := ((hsafe.2 loser.1 hloser).2.2 hsuperseded).1
  exact ⟨office, hfresh, hreaches, hroom, ⟨loser.1, hloser, hsuperseded, by decide, hleft⟩,
    by decide⟩

end Office

end Lifecycle
