import CodingLlm.Pretrain.Values

/-!
# The cross-client curation lease

`acquire_cross_client_lease` and `release_cross_client_lease` as steps on the
shared directory, one for each operation whose result another client can
change.  A client is one call of acquire; the advisory lock excludes nobody.
Candidates have unique names and are read by nobody else, so that a file is
what the link or the rename of it makes visible.
-/

namespace CodingLlm

/-- `CurationError`. -/
def curationError (text : String) : PyError := .runtimeError text

/-! ## Owner records -/

/-- An owner record without its token. -/
structure LeaseAuthority where
  leaseVersion : Nat
  hostname : String
  pid : Int
  startedUnixNs : Int
  output : String
  deriving DecidableEq, Repr

/-- An owner record. -/
structure LeaseOwner where
  authority : LeaseAuthority
  ownerToken : String
  deriving DecidableEq, Repr

/-- `HEX64`. -/
def hexDigits : List Char := "0123456789abcdef".toList

/-- 64 lowercase hexadecimal digits. -/
def IsToken (token : String) : Prop :=
  token.length = 64 ∧ token.toList.all (fun character =>
    hexDigits.contains character) = true

instance (token : String) : Decidable (IsToken token) :=
  inferInstanceAs (Decidable (_ ∧ _))

/-- What all clients share: `str(output.resolve())`, and the digest of the
canonical JSON of an authority. -/
structure LeaseSetting where
  output : String
  digest : LeaseAuthority -> String

/-- `CURATION_LEASE_VERSION`. -/
def curationLeaseVersion : Nat := 1

/-- `validate_cross_client_lease_owner`. -/
def validateLeaseOwner (setting : LeaseSetting) (value : LeaseOwner) :
    Checked LeaseOwner := do
  let _ ← require (value.authority.leaseVersion = curationLeaseVersion ∧
      value.authority.hostname ≠ "" ∧ 1 ≤ value.authority.pid ∧
      1 ≤ value.authority.startedUnixNs ∧
      value.authority.output = setting.output ∧ IsToken value.ownerToken)
    (curationError "Cross-client curation lease owner is malformed")
  let _ ← require (setting.digest value.authority = value.ownerToken)
    (curationError "Cross-client curation lease owner token is invalid")
  return value

/-! ## Clients -/

/-- Where a client is, named by the operation that comes next. -/
inductive LeasePhase
  | idle
  | checking (token : String)
  | reading (token : String)
  | probing (previous : LeaseOwner)
  | claiming (previous : LeaseOwner)
  | claimed (previous : LeaseOwner)
  | rereading (previous : LeaseOwner)
  | archiving (previous : LeaseOwner)
  | publishing
  | published
  | settling
  | holding
  | releasing
  | moving
  | released
  | failed
  | crashed
  deriving DecidableEq

namespace LeasePhase

/-- The process is gone, or its call has raised. -/
def Ended : LeasePhase -> Prop
  | .failed => True
  | .crashed => True
  | _ => False

/-- From the publication of the own record to the rename that releases it. -/
def Owning : LeasePhase -> Prop
  | .published => True
  | .settling => True
  | .holding => True
  | .releasing => True
  | .moving => True
  | _ => False

/-- Between a successful acquire and the rename that releases. -/
def Holding : LeasePhase -> Prop
  | .holding => True
  | .releasing => True
  | .moving => True
  | _ => False

end LeasePhase

/-- `os.kill(pid, 0)`. -/
inductive ProcessProbe
  | gone
  | denied
  | alive
  deriving DecidableEq, Repr

/-- What happens to a client next: a call, its next operation, the answer of a
probe, an `OSError` of that operation, or a crash. -/
inductive LeaseEvent
  | acquire (recoverStaleOwnerToken : Option String)
  | advance
  | probe (result : ProcessProbe)
  | fault
  | release
  | crash
  deriving DecidableEq

/-- The shared directory, the phases of the clients, and who has archived
what. -/
structure LeaseState (Client : Type) where
  lease : Option LeaseOwner
  claims : String -> Option Client
  archives : List (Client × LeaseOwner)
  phase : Client -> LeasePhase

/-- An empty directory. -/
def LeaseState.initial (Client : Type) : LeaseState Client where
  lease := none
  claims := fun _ => none
  archives := []
  phase := fun _ => .idle

namespace LeaseState

variable {Client : Type} [DecidableEq Client]

/-- Move a client to a phase. -/
def goto (state : LeaseState Client) (client : Client) (phase : LeasePhase) :
    LeaseState Client :=
  { state with phase := Function.update state.phase client phase }

/-- Read and validate the canonical record; without one, or with another than
expected of it, the call fails. -/
def readLease (setting : LeaseSetting) (state : LeaseState Client)
    (next : LeaseOwner -> LeasePhase) : LeasePhase :=
  match state.lease with
  | none => .failed
  | some record =>
      match validateLeaseOwner setting record with
      | .error _ => .failed
      | .ok current => next current

/-- `os.replace(lease, archive)`: whatever is there is archived. -/
def archiveLease (state : LeaseState Client) (client : Client)
    (next : LeasePhase) : LeaseState Client :=
  match state.lease with
  | none => state.goto client .failed
  | some record =>
      { state with
        lease := none
        archives := state.archives ++ [(client, record)]
        phase := Function.update state.phase client next }

/-- `os.link(candidate, claim)` without replacement. -/
def linkClaim (state : LeaseState Client) (client : Client)
    (previous : LeaseOwner) : LeaseState Client :=
  match state.claims previous.ownerToken with
  | some _ => state.goto client .failed
  | none =>
      { state with
        claims := Function.update state.claims previous.ownerToken
          (some client)
        phase := Function.update state.phase client (.claimed previous) }

/-- `os.link(candidate, lease)` without replacement. -/
def linkLease (state : LeaseState Client) (client : Client)
    (owner : LeaseOwner) : LeaseState Client :=
  match state.lease with
  | some _ => state.goto client .failed
  | none =>
      { state with
        lease := some owner
        phase := Function.update state.phase client .published }

/-- After the previous owner has been read: the requested token, and a probe of
an owner on the same host. -/
def judgePrevious (owner : LeaseOwner) (token : String)
    (previous : LeaseOwner) : LeasePhase :=
  if previous.ownerToken ≠ token then .failed
  else if previous.authority.hostname = owner.authority.hostname then
    .probing previous
  else .claiming previous

/-- The next operation of a client with an owner record, if its phase has
one. -/
def advance (setting : LeaseSetting) (state : LeaseState Client)
    (client : Client) (owner : LeaseOwner) : Option (LeaseState Client) :=
  match state.phase client with
  | .checking token => some (state.goto client
      (if state.lease.isSome then .reading token else .failed))
  | .reading token => some (state.goto client
      (state.readLease setting (judgePrevious owner token)))
  | .claiming previous => some (state.linkClaim client previous)
  | .claimed previous => some (state.goto client
      (if state.claims previous.ownerToken = some client then
        .rereading previous else .failed))
  | .rereading previous => some (state.goto client
      (state.readLease setting fun current =>
        if current = previous then .archiving previous else .failed))
  | .archiving _ => some (state.archiveLease client .publishing)
  | .publishing => some (state.linkLease client owner)
  | .published => some (state.goto client
      (if state.lease = some owner then .settling else .failed))
  | .settling => some (state.goto client .holding)
  | .releasing => some (state.goto client
      (state.readLease setting fun current =>
        if current = owner then .moving else .failed))
  | .moving => some (state.archiveLease client .released)
  | _ => none

/-- The answer of a probe. -/
def answer (state : LeaseState Client) (client : Client)
    (result : ProcessProbe) : Option (LeaseState Client) :=
  match state.phase client with
  | .probing previous => some (state.goto client
      (if result = .gone then .claiming previous else .failed))
  | _ => none

/-- The call of acquire. -/
def call (state : LeaseState Client) (client : Client)
    (recoverStaleOwnerToken : Option String) : Option (LeaseState Client) :=
  match state.phase client with
  | .idle => some (state.goto client
      (match recoverStaleOwnerToken with
      | none => .publishing
      | some token => if IsToken token then .checking token else .failed))
  | _ => none

/-- Whether a client is in a call or holds the lease. -/
def Running : LeasePhase -> Bool
  | .released => false
  | .failed => false
  | .crashed => false
  | _ => true

/-- One event of a client. -/
def step (setting : LeaseSetting) (owner : Client -> LeaseOwner)
    (state : LeaseState Client) (client : Client) :
    LeaseEvent -> Option (LeaseState Client)
  | .acquire token => state.call client token
  | .advance => state.advance setting client (owner client)
  | .probe result => state.answer client result
  | .fault =>
      if Running (state.phase client) then some (state.goto client .failed)
      else none
  | .release =>
      if state.phase client = .holding then
        some (state.goto client .releasing)
      else none
  | .crash =>
      if state.phase client = .crashed then none
      else some (state.goto client .crashed)

end LeaseState

/-! ## Runs -/

/-- The record that a client writes. -/
def ownerRecord (setting : LeaseSetting) (authority : Client -> LeaseAuthority)
    (client : Client) : LeaseOwner :=
  ⟨authority client, setting.digest (authority client)⟩

/-- Recovery is only requested for a token whose owner is gone. -/
def RecoveryAllowed (owner : Client -> LeaseOwner) (state : LeaseState Client) :
    LeaseEvent -> Prop
  | .acquire (some token) => ∀ client,
      (owner client).ownerToken = token -> (state.phase client).Ended
  | _ => True

/-- The states of every interleaving of the events of the clients. -/
inductive LeaseReachable [DecidableEq Client] (setting : LeaseSetting)
    (owner : Client -> LeaseOwner) : LeaseState Client -> Prop
  | initial : LeaseReachable setting owner (LeaseState.initial Client)
  | step
      {state next : LeaseState Client}
      {client : Client}
      {event : LeaseEvent} :
      LeaseReachable setting owner state ->
      RecoveryAllowed owner state event ->
      state.step setting owner client event = some next ->
      LeaseReachable setting owner next

end CodingLlm
