import CodingLlm.Scripts.CurationLease

/-!
# One client holds the lease

A client that has published its record, or is about to archive the record it
claimed, is the only one whom the canonical file concerns.  Every interleaving
keeps what each phase knows about the shared directory.
-/

namespace CodingLlm

namespace LeaseState

variable {Client : Type}

/-! ## What a phase knows -/

/-- A record whose owner is gone. -/
def Stale (owner : Client -> LeaseOwner) (state : LeaseState Client)
    (record : LeaseOwner) : Prop :=
  ∃ dead, record = owner dead ∧ (state.phase dead).Ended

/-- What the shared directory looks like to a client in a phase. -/
def Fits (owner : Client -> LeaseOwner) (state : LeaseState Client)
    (client : Client) : LeasePhase -> Prop
  | .checking token => ∀ other,
      (owner other).ownerToken = token -> (state.phase other).Ended
  | .reading token => ∀ other,
      (owner other).ownerToken = token -> (state.phase other).Ended
  | .probing previous => Stale owner state previous
  | .claiming previous => Stale owner state previous
  | .claimed previous => Stale owner state previous ∧
      state.claims previous.ownerToken = some client
  | .rereading previous => Stale owner state previous ∧
      state.claims previous.ownerToken = some client
  | .archiving previous => Stale owner state previous ∧
      state.claims previous.ownerToken = some client ∧
      state.lease = some previous
  | .published => state.lease = some (owner client)
  | .settling => state.lease = some (owner client)
  | .holding => state.lease = some (owner client)
  | .releasing => state.lease = some (owner client)
  | .moving => state.lease = some (owner client)
  | _ => True

/-- The record of an archive was the client's own, or the one of a gone owner
that the client has claimed. -/
def Rightful (owner : Client -> LeaseOwner) (state : LeaseState Client)
    (archive : Client × LeaseOwner) : Prop :=
  archive.2 = owner archive.1 ∨
    (Stale owner state archive.2 ∧
      state.claims archive.2.ownerToken = some archive.1)

/-- What every interleaving keeps. -/
structure Consistent (owner : Client -> LeaseOwner)
    (state : LeaseState Client) : Prop where
  fits : ∀ client, state.Fits owner client (state.phase client)
  lease : ∀ record ∈ state.lease, ∃ client, record = owner client ∧
    ((state.phase client).Owning ∨ (state.phase client).Ended)
  archives : ∀ archive ∈ state.archives, state.Rightful owner archive

theorem consistent_initial (owner : Client -> LeaseOwner) :
    (initial Client).Consistent owner where
  fits := fun _ => trivial
  lease := by
    intro record member
    cases member
  archives := List.forall_mem_nil _

theorem Fits.owning
    {owner : Client -> LeaseOwner} {state : LeaseState Client}
    {client : Client} {phase : LeasePhase}
    (fits : state.Fits owner client phase) (owning : phase.Owning) :
    state.lease = some (owner client) := by
  cases phase <;> first | exact fits | cases owning

theorem not_owning_of_ended {phase : LeasePhase} (ended : phase.Ended) :
    ¬phase.Owning := by
  cases phase <;> first | exact id | cases ended

/-! ## Frames -/

/-- A later state: ended clients stay ended and claims stay. -/
structure Extends (state next : LeaseState Client) : Prop where
  ended : ∀ client, (state.phase client).Ended -> (next.phase client).Ended
  claims : ∀ token client,
    state.claims token = some client -> next.claims token = some client

theorem Extends.stale
    {owner : Client -> LeaseOwner} {state next : LeaseState Client}
    (extends_ : state.Extends next) {record : LeaseOwner}
    (stale : state.Stale owner record) : next.Stale owner record := by
  obtain ⟨dead, same, ended⟩ := stale
  exact ⟨dead, same, extends_.ended dead ended⟩

theorem Extends.rightful
    {owner : Client -> LeaseOwner} {state next : LeaseState Client}
    (extends_ : state.Extends next) {archive : Client × LeaseOwner}
    (rightful : state.Rightful owner archive) :
    next.Rightful owner archive := by
  rcases rightful with own | ⟨stale, claimed⟩
  · exact .inl own
  · exact .inr ⟨extends_.stale stale, extends_.claims _ _ claimed⟩

/-- The phases that know what the canonical file holds. -/
def Concerned : LeasePhase -> Prop
  | .archiving _ => True
  | phase => phase.Owning

/-- What a client knows stays true while nobody touches the canonical file, or
if it does not know what it holds. -/
theorem Extends.fits
    {owner : Client -> LeaseOwner} {state next : LeaseState Client}
    (extends_ : state.Extends next) {client : Client} {phase : LeasePhase}
    (untouched : Concerned phase -> next.lease = state.lease)
    (fits : state.Fits owner client phase) :
    next.Fits owner client phase := by
  cases phase with
  | checking token => exact fun other same => extends_.ended _ (fits other same)
  | reading token => exact fun other same => extends_.ended _ (fits other same)
  | probing previous => exact extends_.stale fits
  | claiming previous => exact extends_.stale fits
  | claimed previous =>
      exact ⟨extends_.stale fits.1, extends_.claims _ _ fits.2⟩
  | rereading previous =>
      exact ⟨extends_.stale fits.1, extends_.claims _ _ fits.2⟩
  | archiving previous =>
      exact ⟨extends_.stale fits.1, extends_.claims _ _ fits.2.1,
        (untouched trivial).trans fits.2.2⟩
  | published => exact (untouched trivial).trans fits
  | settling => exact (untouched trivial).trans fits
  | holding => exact (untouched trivial).trans fits
  | releasing => exact (untouched trivial).trans fits
  | moving => exact (untouched trivial).trans fits
  | idle => trivial
  | publishing => trivial
  | released => trivial
  | failed => trivial
  | crashed => trivial

variable [DecidableEq Client]

theorem extends_goto
    {state : LeaseState Client} {client : Client} {phase : LeasePhase}
    (stays : (state.phase client).Ended -> phase.Ended) :
    state.Extends (state.goto client phase) where
  ended := by
    intro other ended
    by_cases same : other = client
    · subst same
      simp only [goto, Function.update_self]
      exact stays ended
    · simp only [goto, Function.update_of_ne same]
      exact ended
  claims := fun _ _ => id

/-! ## Exclusion -/

section Exclusion

omit [DecidableEq Client]

variable {owner : Client -> LeaseOwner} {state : LeaseState Client}

/-- The canonical file concerns one client only. -/
theorem Consistent.concerned_unique
    (consistent : state.Consistent owner)
    (unique : Function.Injective fun client => (owner client).ownerToken)
    {first second : Client}
    (firstConcerned : Concerned (state.phase first))
    (secondConcerned : Concerned (state.phase second)) : first = second := by
  have injective {left right : Client}
      (same : owner left = owner right) : left = right :=
    unique (congrArg LeaseOwner.ownerToken same)
  have knows (client : Client) (concerned : Concerned (state.phase client)) :
      ((state.phase client).Owning ∧ state.lease = some (owner client)) ∨
      ∃ previous, state.lease = some previous ∧
        state.Stale owner previous ∧
        state.claims previous.ownerToken = some client := by
    have fits := consistent.fits client
    cases phase : state.phase client with
    | archiving previous =>
        rw [phase] at fits
        exact .inr ⟨previous, fits.2.2, fits.1, fits.2.1⟩
    | _ =>
        rw [phase] at fits concerned
        exact .inl ⟨concerned, fits.owning concerned⟩
  rcases knows first firstConcerned with
    ⟨firstOwns, firstLease⟩ | ⟨previous, firstLease, stale, claimed⟩
  · rcases knows second secondConcerned with
      ⟨-, secondLease⟩ | ⟨previous, secondLease, stale, -⟩
    · rw [firstLease, Option.some.injEq] at secondLease
      exact injective secondLease
    · obtain ⟨dead, isDead, ended⟩ := stale
      rw [firstLease, Option.some.injEq, isDead] at secondLease
      rw [← injective secondLease] at ended
      exact absurd firstOwns (not_owning_of_ended ended)
  · rcases knows second secondConcerned with
      ⟨secondOwns, secondLease⟩ | ⟨other, secondLease, -, otherClaimed⟩
    · obtain ⟨dead, isDead, ended⟩ := stale
      rw [secondLease, Option.some.injEq, isDead] at firstLease
      rw [← injective firstLease] at ended
      exact absurd secondOwns (not_owning_of_ended ended)
    · rw [firstLease, Option.some.injEq] at secondLease
      rw [← secondLease, claimed, Option.some.injEq] at otherClaimed
      exact otherClaimed

end Exclusion

/-! ## Steps -/

section Steps

variable {setting : LeaseSetting} {owner : Client -> LeaseOwner}
variable {state next : LeaseState Client} {client : Client}

/-- A client moves to a phase that fits, and the canonical file stays. -/
theorem Consistent.goto
    (consistent : state.Consistent owner) {phase : LeasePhase}
    (stays : (state.phase client).Ended -> phase.Ended)
    (keeps : (state.phase client).Owning -> phase.Owning ∨ phase.Ended)
    (fits : state.Fits owner client phase) :
    (state.goto client phase).Consistent owner := by
  have later := extends_goto stays
  refine ⟨fun other => ?_, ?_, fun archive member =>
    later.rightful (consistent.archives archive member)⟩
  · by_cases same : other = client
    · subst same
      simp only [LeaseState.goto, Function.update_self]
      exact later.fits (fun _ => rfl) fits
    · simp only [LeaseState.goto, Function.update_of_ne same]
      exact later.fits (fun _ => rfl) (consistent.fits other)
  · intro record member
    obtain ⟨holder, isRecord, either⟩ := consistent.lease record member
    refine ⟨holder, isRecord, ?_⟩
    by_cases same : holder = client
    · subst same
      simp only [LeaseState.goto, Function.update_self]
      rcases either with owning | ended
      · exact keeps owning
      · exact .inr (stays ended)
    · simp only [LeaseState.goto, Function.update_of_ne same]
      exact either

/-- Failing or crashing keeps the record where it is. -/
theorem Consistent.ends
    (consistent : state.Consistent owner) {phase : LeasePhase}
    (ended : phase.Ended) : (state.goto client phase).Consistent owner := by
  refine consistent.goto (fun _ => ended) (fun _ => .inr ended) ?_
  cases phase <;> trivial

/-- The rename that archives the canonical file. -/
theorem Consistent.archive
    (consistent : state.Consistent owner)
    (unique : Function.Injective fun client => (owner client).ownerToken)
    {phase : LeasePhase}
    (concerned : Concerned (state.phase client))
    (running : ¬(state.phase client).Ended)
    (free : ∀ state : LeaseState Client, state.Fits owner client phase)
    (rightful : ∀ record, state.lease = some record ->
      state.Rightful owner (client, record)) :
    (state.archiveLease client phase).Consistent owner := by
  unfold archiveLease
  cases found : state.lease with
  | none => exact consistent.ends trivial
  | some record =>
      have later : state.Extends { state with
          lease := none
          archives := state.archives ++ [(client, record)]
          phase := Function.update state.phase client phase } := by
        have moved : state.Extends (state.goto client phase) :=
          extends_goto fun ended => absurd ended running
        exact ⟨moved.ended, moved.claims⟩
      refine ⟨fun other => ?_, ?_, ?_⟩
      · by_cases same : other = client
        · subst same
          simp only [Function.update_self]
          exact free _
        · simp only [Function.update_of_ne same]
          refine later.fits (fun otherConcerned => ?_) (consistent.fits other)
          exact absurd (consistent.concerned_unique unique otherConcerned
            concerned) same
      · intro record member
        cases member
      · intro archive member
        rcases List.mem_append.mp member with earlier | new
        · exact later.rightful (consistent.archives archive earlier)
        · rw [List.mem_singleton.mp new]
          exact later.rightful (rightful record found)

/-- The link that publishes the own record. -/
theorem Consistent.link
    (consistent : state.Consistent owner)
    (running : ¬(state.phase client).Ended) :
    (state.linkLease client (owner client)).Consistent owner := by
  unfold linkLease
  cases found : state.lease with
  | some record => exact consistent.ends trivial
  | none =>
      have later : state.Extends { state with
          lease := some (owner client)
          phase := Function.update state.phase client .published } := by
        have moved : state.Extends (state.goto client .published) :=
          extends_goto fun ended => absurd ended running
        exact ⟨moved.ended, moved.claims⟩
      refine ⟨fun other => ?_, ?_, fun archive member =>
        later.rightful (consistent.archives archive member)⟩
      · by_cases same : other = client
        · subst same
          simp only [Function.update_self]
          rfl
        · simp only [Function.update_of_ne same]
          have fits := consistent.fits other
          refine later.fits (fun concerned => ?_) fits
          cases phase : state.phase other with
          | archiving previous =>
              rw [phase] at fits
              rw [fits.2.2] at found
              cases found
          | _ =>
              rw [phase] at fits concerned
              rw [fits.owning concerned] at found
              cases found
      · intro record member
        refine ⟨client, (Option.some.inj member).symm, .inl ?_⟩
        simp only [Function.update_self]
        trivial

/-- The link that publishes a claim. -/
theorem Consistent.claim
    (consistent : state.Consistent owner) {previous : LeaseOwner}
    (claiming : state.phase client = .claiming previous) :
    (state.linkClaim client previous).Consistent owner := by
  have fits := consistent.fits client
  rw [claiming] at fits
  unfold linkClaim
  cases taken : state.claims previous.ownerToken with
  | some other => exact consistent.ends trivial
  | none =>
      have running : ¬(state.phase client).Ended := by
        rw [claiming]
        exact id
      have later : state.Extends { state with
          claims := Function.update state.claims previous.ownerToken
            (some client)
          phase := Function.update state.phase client (.claimed previous) } := by
        have moved : state.Extends (state.goto client (.claimed previous)) :=
          extends_goto fun ended => absurd ended running
        refine ⟨moved.ended, fun token other earlier => ?_⟩
        have different : token ≠ previous.ownerToken := by
          rintro rfl
          rw [taken] at earlier
          cases earlier
        simp only [Function.update_of_ne different]
        exact earlier
      refine ⟨fun other => ?_, ?_, fun archive member =>
        later.rightful (consistent.archives archive member)⟩
      · by_cases same : other = client
        · subst same
          simp only [Function.update_self]
          exact ⟨later.stale fits, Function.update_self ..⟩
        · simp only [Function.update_of_ne same]
          exact later.fits (fun _ => rfl) (consistent.fits other)
      · intro record member
        obtain ⟨holder, isRecord, either⟩ := consistent.lease record member
        refine ⟨holder, isRecord, ?_⟩
        have different : holder ≠ client := by
          rintro rfl
          rw [claiming] at either
          rcases either with impossible | impossible <;> cases impossible
        simp only [Function.update_of_ne different]
        exact either

omit [DecidableEq Client] in
/-- A read fails, or tells what is there. -/
theorem readLease_cases
    {expected : LeaseOwner -> LeasePhase} {holds : LeasePhase -> Prop}
    (failed : holds .failed)
    (found : ∀ record, state.lease = some record -> holds (expected record)) :
    holds (state.readLease setting expected) := by
  unfold readLease
  cases lease : state.lease with
  | none => exact failed
  | some record =>
      simp only
      cases valid : validateLeaseOwner setting record with
      | error error => exact failed
      | ok current =>
          have same : record = current := by
            simp only [validateLeaseOwner, checked_bind_eq_ok, exists_require,
              checked_pure_eq_ok] at valid
            exact valid.2.2
          exact same ▸ found record lease

/-- Before publishing there is no record to keep. -/
theorem Consistent.goto_before
    (consistent : state.Consistent owner) {phase : LeasePhase}
    (running : ¬(state.phase client).Ended)
    (before : ¬(state.phase client).Owning)
    (fits : state.Fits owner client phase) :
    (state.goto client phase).Consistent owner :=
  consistent.goto (fun ended => absurd ended running)
    (fun owning => absurd owning before) fits

/-- The next operation of a client. -/
theorem Consistent.advance
    (consistent : state.Consistent owner)
    (unique : Function.Injective fun client => (owner client).ownerToken)
    (advanced : state.advance setting client (owner client) = some next) :
    next.Consistent owner := by
  have fits := consistent.fits client
  unfold LeaseState.advance at advanced
  cases phase : state.phase client with
  | checking token =>
      rw [phase] at advanced fits
      obtain rfl := Option.some.inj advanced
      refine consistent.goto_before (by rw [phase]; exact id)
        (by rw [phase]; exact id) ?_
      split
      · exact fits
      · trivial
  | reading token =>
      rw [phase] at advanced fits
      obtain rfl := Option.some.inj advanced
      refine consistent.goto_before (by rw [phase]; exact id)
        (by rw [phase]; exact id) (readLease_cases trivial ?_)
      intro record found
      obtain ⟨holder, isRecord, -⟩ := consistent.lease record found
      unfold judgePrevious
      split
      · trivial
      · rename_i asked
        rw [ne_eq, not_not, isRecord] at asked
        have stale : state.Stale owner record :=
          ⟨holder, isRecord, fits holder asked⟩
        split
        · exact stale
        · exact stale
  | claiming previous =>
      rw [phase] at advanced
      obtain rfl := Option.some.inj advanced
      exact consistent.claim phase
  | claimed previous =>
      rw [phase] at advanced fits
      obtain rfl := Option.some.inj advanced
      refine consistent.goto_before (by rw [phase]; exact id)
        (by rw [phase]; exact id) ?_
      split
      · exact fits
      · trivial
  | rereading previous =>
      rw [phase] at advanced fits
      obtain rfl := Option.some.inj advanced
      refine consistent.goto_before (by rw [phase]; exact id)
        (by rw [phase]; exact id) (readLease_cases trivial ?_)
      intro record found
      split
      · rename_i same
        exact ⟨fits.1, fits.2, same ▸ found⟩
      · trivial
  | archiving previous =>
      rw [phase] at advanced fits
      obtain rfl := Option.some.inj advanced
      refine consistent.archive unique (by rw [phase]; trivial)
        (by rw [phase]; exact id) (fun _ => trivial) ?_
      intro record found
      rw [fits.2.2, Option.some.injEq] at found
      subst found
      exact .inr ⟨fits.1, fits.2.1⟩
  | publishing =>
      rw [phase] at advanced
      obtain rfl := Option.some.inj advanced
      exact consistent.link (by rw [phase]; exact id)
  | published =>
      rw [phase] at advanced fits
      obtain rfl := Option.some.inj advanced
      split
      · exact consistent.goto (by rw [phase]; exact False.elim)
          (fun _ => .inl trivial) fits
      · exact consistent.ends trivial
  | settling =>
      rw [phase] at advanced fits
      obtain rfl := Option.some.inj advanced
      exact consistent.goto (by rw [phase]; exact False.elim)
        (fun _ => .inl trivial) fits
  | releasing =>
      rw [phase] at advanced fits
      obtain rfl := Option.some.inj advanced
      have either : ∀ record, state.lease = some record ->
          (if record = owner client then LeasePhase.moving else .failed) =
              .moving ∨
            (if record = owner client then LeasePhase.moving else .failed) =
              .failed := by
        intro record _
        split
        · exact .inl rfl
        · exact .inr rfl
      rcases @readLease_cases Client setting state _
        (fun phase => phase = .moving ∨ phase = .failed) (.inr rfl) either with
        moves | fails
      · rw [moves]
        exact consistent.goto (by rw [phase]; exact False.elim)
          (fun _ => .inl trivial) fits
      · rw [fails]
        exact consistent.ends trivial
  | moving =>
      rw [phase] at advanced fits
      obtain rfl := Option.some.inj advanced
      refine consistent.archive unique (by rw [phase]; trivial)
        (by rw [phase]; exact id) (fun _ => trivial) ?_
      intro record found
      have own : state.lease = some (owner client) := fits
      rw [own, Option.some.injEq] at found
      exact .inl found.symm
  | _ =>
      rw [phase] at advanced
      cases advanced

/-- Any event of a client. -/
theorem Consistent.step
    (consistent : state.Consistent owner)
    (unique : Function.Injective fun client => (owner client).ownerToken)
    {event : LeaseEvent} (allowed : RecoveryAllowed owner state event)
    (stepped : state.step setting owner client event = some next) :
    next.Consistent owner := by
  cases event with
  | acquire token =>
      unfold LeaseState.step call at stepped
      simp only at stepped
      split at stepped
      · rename_i phase
        obtain rfl := Option.some.inj stepped
        refine consistent.goto_before (by rw [phase]; exact id)
          (by rw [phase]; exact id) ?_
        cases token with
        | none => trivial
        | some token =>
            simp only
            split
            · exact allowed
            · trivial
      · cases stepped
  | advance => exact consistent.advance unique stepped
  | probe result =>
      have fits := consistent.fits client
      unfold LeaseState.step answer at stepped
      simp only at stepped
      split at stepped
      · rename_i previous phase
        rw [phase] at fits
        obtain rfl := Option.some.inj stepped
        refine consistent.goto_before (by rw [phase]; exact id)
          (by rw [phase]; exact id) ?_
        split
        · exact fits
        · trivial
      · cases stepped
  | fault =>
      unfold LeaseState.step at stepped
      simp only at stepped
      split at stepped
      · obtain rfl := Option.some.inj stepped
        exact consistent.ends trivial
      · cases stepped
  | release =>
      have fits := consistent.fits client
      unfold LeaseState.step at stepped
      simp only at stepped
      split at stepped
      · rename_i phase
        rw [phase] at fits
        obtain rfl := Option.some.inj stepped
        exact consistent.goto (by rw [phase]; exact False.elim)
          (fun _ => .inl trivial) fits
      · cases stepped
  | crash =>
      unfold LeaseState.step at stepped
      simp only at stepped
      split at stepped
      · cases stepped
      · obtain rfl := Option.some.inj stepped
        exact consistent.ends trivial

end Steps

end LeaseState

/-! ## Any interleaving -/

section Reachable

variable {Client : Type} [DecidableEq Client]
variable {setting : LeaseSetting} {owner : Client -> LeaseOwner}
variable {state : LeaseState Client}

theorem LeaseReachable.consistent
    (reached : LeaseReachable setting owner state)
    (unique : Function.Injective fun client => (owner client).ownerToken) :
    state.Consistent owner := by
  induction reached with
  | initial => exact LeaseState.consistent_initial owner
  | step _ allowed stepped inductionHypothesis =>
      exact inductionHypothesis.step unique allowed stepped

end Reachable

/-- At any time at most one client is between a successful acquire and the
rename of its release, and a client has archived only its own record or that
of a gone owner which it claimed. -/
theorem lease_exclusive
    {Client : Type} [DecidableEq Client] {setting : LeaseSetting}
    {authority : Client -> LeaseAuthority} {state : LeaseState Client}
    (unique : Function.Injective fun client =>
      setting.digest (authority client))
    (reached : LeaseReachable setting (ownerRecord setting authority) state) :
    (∀ first second, (state.phase first).Holding ->
      (state.phase second).Holding -> first = second) ∧
    (∀ client record, (client, record) ∈ state.archives ->
      record = ownerRecord setting authority client ∨
      ((∃ dead, record = ownerRecord setting authority dead ∧
          (state.phase dead).Ended) ∧
        state.claims record.ownerToken = some client)) := by
  have consistent := reached.consistent unique
  constructor
  · intro first second firstHolds secondHolds
    have concerned {phase : LeasePhase} (holds : phase.Holding) :
        LeaseState.Concerned phase := by
      cases phase <;> trivial
    exact consistent.concerned_unique unique (concerned firstHolds)
      (concerned secondHolds)
  · intro client record member
    exact consistent.archives (client, record) member

/-- Two clients: the first crashes while it holds the lease. -/
def smallSetting : LeaseSetting where
  output := "/data"
  digest := fun authority =>
    if authority.hostname = "first" then
      "aaaaaaaaaaaaaaaaaaaaaaaaaaaaaaaaaaaaaaaaaaaaaaaaaaaaaaaaaaaaaaaa"
    else "bbbbbbbbbbbbbbbbbbbbbbbbbbbbbbbbbbbbbbbbbbbbbbbbbbbbbbbbbbbbbbbb"

/-- The authorities of the two clients. -/
def smallAuthority (second : Bool) : LeaseAuthority :=
  ⟨1, if second then "second" else "first", 7, 1, "/data"⟩

/-- The records of the two clients. -/
def smallOwner : Bool -> LeaseOwner := ownerRecord smallSetting smallAuthority

/-- The first client acquires and crashes, the second recovers the lease. -/
def smallLeaseEvents : List (Bool × LeaseEvent) :=
  [(false, .acquire none), (false, .advance), (false, .advance),
    (false, .advance), (false, .crash),
    (true, .acquire (some (smallOwner false).ownerToken)), (true, .advance),
    (true, .advance), (true, .advance), (true, .advance), (true, .advance),
    (true, .advance), (true, .advance), (true, .advance), (true, .advance)]

instance (phase : LeasePhase) : Decidable phase.Ended := by
  cases phase <;> first | exact isTrue trivial | exact isFalse id

instance (state : LeaseState Bool) (event : LeaseEvent) :
    Decidable (RecoveryAllowed smallOwner state event) :=
  match event with
  | .acquire (some token) => decidable_of_iff
      (((smallOwner false).ownerToken = token -> (state.phase false).Ended) ∧
        ((smallOwner true).ownerToken = token -> (state.phase true).Ended))
      ⟨fun both client => by cases client; exacts [both.1, both.2],
        fun all => ⟨all false, all true⟩⟩
  | .acquire none => isTrue trivial
  | .advance => isTrue trivial
  | .probe _ => isTrue trivial
  | .fault => isTrue trivial
  | .release => isTrue trivial
  | .crash => isTrue trivial

/-- Apply events that are allowed one after the other. -/
def runSmallLease :
    LeaseState Bool -> List (Bool × LeaseEvent) -> Option (LeaseState Bool)
  | state, [] => some state
  | state, (client, event) :: rest =>
      if RecoveryAllowed smallOwner state event then
        (state.step smallSetting smallOwner client event).bind fun next =>
          runSmallLease next rest
      else none

theorem reachable_runSmallLease
    {state final : LeaseState Bool} {events : List (Bool × LeaseEvent)}
    (reached : LeaseReachable smallSetting smallOwner state)
    (ran : runSmallLease state events = some final) :
    LeaseReachable smallSetting smallOwner final := by
  induction events generalizing state with
  | nil => exact Option.some.inj ran ▸ reached
  | cons event rest inductionHypothesis =>
      unfold runSmallLease at ran
      split at ran
      · rename_i allowed
        obtain ⟨next, stepped, continued⟩ := Option.bind_eq_some_iff.mp ran
        exact inductionHypothesis (reached.step allowed stepped) continued
      · cases ran

theorem smallAuthority_unique :
    Function.Injective fun client =>
      smallSetting.digest (smallAuthority client) := by
  intro first second same
  cases first <;> cases second
  · rfl
  · exact absurd same (by decide)
  · exact absurd same (by decide)
  · rfl

/-- After the recovery the second client holds the lease alone. -/
theorem lease_exclusive_small :
    ∃ state, LeaseReachable smallSetting smallOwner state ∧
      state.phase true = .holding ∧
      (∀ first second, (state.phase first).Holding ->
        (state.phase second).Holding -> first = second) ∧
      (∀ client record, (client, record) ∈ state.archives ->
        record = smallOwner client ∨
        ((∃ dead, record = smallOwner dead ∧ (state.phase dead).Ended) ∧
          state.claims record.ownerToken = some client)) := by
  have recovered : (runSmallLease (LeaseState.initial Bool)
      smallLeaseEvents).map (fun state => state.phase true) =
        some .holding := by
    decide +kernel
  obtain ⟨state, ran, holding⟩ := Option.map_eq_some_iff.mp recovered
  have reached := reachable_runSmallLease .initial ran
  exact ⟨state, reached, holding,
    lease_exclusive smallAuthority_unique reached⟩

end CodingLlm
