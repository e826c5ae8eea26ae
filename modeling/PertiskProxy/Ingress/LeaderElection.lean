import Mathlib.Logic.Function.Basic
import PertiskProxy.Foundation

/-! The ingress replicas elect a leader through one `coordination.k8s.io` Lease. -/

namespace PertiskProxy.Ingress

/-! Timestamps are nanoseconds since the Unix epoch, with the bounds of `jiff::Timestamp`. -/

namespace Timestamp

def min : Int := -377705023201000000000

def max : Int := 253402207200999999999

def seconds (count : Nat) : Int := 1000000000 * count

def checkedAdd (time : Int) (count : Nat) : Option Int :=
  if time + seconds count ≤ max then some (time + seconds count) else none

def checkedSub (time : Int) (count : Nat) : Option Int :=
  if min ≤ time - seconds count then some (time - seconds count) else none

/-- A timestamp as a `MicroTime` is written: with six digits after the point. -/
def micro (time : Int) : Int := time - time % 1000

theorem micro_mono (before : first ≤ second) : micro first ≤ micro second := by
  unfold micro
  omega

end Timestamp

structure LeaderElectionConfig where
  holderId : Text
  leaseDurationSeconds : Nat
  renewIntervalSeconds : Nat
deriving DecidableEq

def LeaderElectionConfig.defaultLeaseDurationSeconds : Nat := 15

structure LeaseSpec where
  holderIdentity : Option Text
  leaseDurationSeconds : Option Nat
  acquireTime : Option Int
  renewTime : Option Int
deriving DecidableEq

structure Lease where
  resourceVersion : Nat
  spec : Option LeaseSpec
deriving DecidableEq

namespace Lease

def leaseDuration (lease : Lease) : Nat :=
  (lease.spec.bind LeaseSpec.leaseDurationSeconds).getD
    LeaderElectionConfig.defaultLeaseDurationSeconds

def holder (lease : Lease) : Option Text :=
  lease.spec.bind LeaseSpec.holderIdentity

def renewTime (lease : Lease) : Option Int :=
  lease.spec.bind LeaseSpec.renewTime

end Lease

def isExpired (renewTime : Option Int) (leaseDuration : Nat) (now : Int) : Bool :=
  let renew := renewTime.getD ((Timestamp.checkedSub now (leaseDuration * 2)).getD now)
  let expiry := (Timestamp.checkedAdd renew leaseDuration).getD now
  decide (expiry < now)

def Lease.expired (lease : Lease) (now : Int) : Bool :=
  isExpired lease.renewTime lease.leaseDuration now

/-- A create carries no resource version, a replace the one of the lease read. -/
structure LeaseWrite where
  resourceVersion : Option Nat
  spec : LeaseSpec
deriving DecidableEq

def newLease (config : LeaderElectionConfig) (now : Int) : LeaseWrite where
  resourceVersion := none
  spec :=
    { holderIdentity := some config.holderId
      leaseDurationSeconds := some config.leaseDurationSeconds
      acquireTime := some (Timestamp.micro now)
      renewTime := some (Timestamp.micro now) }

def nextLease (config : LeaderElectionConfig) (now : Int) (current : Lease) :
    LeaseWrite where
  resourceVersion := some current.resourceVersion
  spec :=
    { holderIdentity := some config.holderId
      leaseDurationSeconds := some config.leaseDurationSeconds
      acquireTime :=
        if current.holder = some config.holderId then current.renewTime else some (Timestamp.micro now)
      renewTime := some (Timestamp.micro now) }

/-- The write that `try_acquire_or_renew` sends after its read, if it sends one; without
one the round ends and the replica does not lead. -/
def tryAcquireOrRenew (config : LeaderElectionConfig) (now : Int) :
    Option Lease → Option LeaseWrite
  | none => some (newLease config now)
  | some current =>
    if current.expired now = false ∧ current.holder ≠ some config.holderId then none
    else some (nextLease config now current)

variable {ι : Type}

/-- A write on its way to the API server. The ticket tells the writes of a replica
apart: an answer belongs to one request. -/
structure Sent (ι : Type) where
  sender : ι
  ticket : Nat
  now : Int
  write : LeaseWrite
deriving DecidableEq

inductive Phase (ι : Type) where
  | asleep (wakes : Int)
  | reading (now : Int)
  | read (now : Int) (found : Option Lease)
  | writing (sent : Sent ι)
  | written (now : Int) (accepted : Bool)
deriving DecidableEq

/-- A replica. `since` is the clock reading of the round that last set the flag; the
code does not keep it. -/
structure Replica (ι : Type) where
  phase : Phase ι
  isLeader : Bool := false
  since : Int := 0
  tickets : Nat := 0

def Replica.enter (replica : Replica ι) (phase : Phase ι) : Replica ι :=
  { replica with phase := phase }

structure Election (ι : Type) where
  clock : Int
  version : Nat
  lease : Option Lease
  replica : ι → Replica ι
  network : List (Sent ι)

inductive ElectionMove (ι : Type) where
  /-- Time passes, counted in nanoseconds. -/
  | pass (duration : Nat)
  /-- A replica that has slept long enough begins a round. -/
  | wake (replica : ι)
  /-- The API server handles the read of a replica. -/
  | serveRead (replica : ι)
  /-- The answer to a read reaches the replica. -/
  | answerRead (replica : ι)
  /-- The API server handles the write at this place in the network. -/
  | serveWrite (place : Nat)
  /-- The answer to a write reaches the replica. -/
  | answerWrite (replica : ι)
  /-- The outstanding request of a replica fails for the replica. -/
  | fail (replica : ι)

namespace Election

variable [DecidableEq ι] (config : ι → LeaderElectionConfig)

def setReplica (state : Election ι) (index : ι) (replica : Replica ι) : Election ι :=
  { state with replica := Function.update state.replica index replica }

def finish (state : Election ι) (index : ι) (now : Int) (leader : Bool) : Election ι :=
  let replica := state.replica index
  state.setReplica index
    { replica with
      phase := .asleep (state.clock + Timestamp.seconds (config index).renewIntervalSeconds)
      isLeader := leader
      since := if leader then now else replica.since }

def send (state : Election ι) (index : ι) (now : Int) (write : LeaseWrite) :
    Election ι :=
  let replica := state.replica index
  let sent : Sent ι := ⟨index, replica.tickets, now, write⟩
  { state.setReplica index
      { replica.enter (.writing sent) with tickets := replica.tickets + 1 } with
    network := state.network ++ [sent] }

def Accepts (state : Election ι) (write : LeaseWrite) : Prop :=
  write.resourceVersion = state.lease.map Lease.resourceVersion

instance (state : Election ι) (write : LeaseWrite) : Decidable (state.Accepts write) :=
  inferInstanceAs (Decidable (_ = _))

def grant (state : Election ι) (write : LeaseWrite) : Election ι :=
  { state with
    version := state.version + 1
    lease := some ⟨state.version + 1, some write.spec⟩ }

def store (state : Election ι) (write : LeaseWrite) : Election ι :=
  if state.Accepts write then state.grant write else state

def take (state : Election ι) (place : Nat) : Election ι :=
  { state with network := state.network.eraseIdx place }

/-- The answer sets out to the sender, if it still waits for it. -/
def reply (state : Election ι) (sent : Sent ι) (accepted : Bool) : Election ι :=
  if (state.replica sent.sender).phase = .writing sent then
    state.setReplica sent.sender
      ((state.replica sent.sender).enter (.written sent.now accepted))
  else state

def step (state : Election ι) : ElectionMove ι → Election ι
  | .pass duration => { state with clock := state.clock + duration }
  | .wake index =>
    match (state.replica index).phase with
    | .asleep wakes =>
      if wakes ≤ state.clock then
        state.setReplica index ((state.replica index).enter (.reading state.clock))
      else state
    | _ => state
  | .serveRead index =>
    match (state.replica index).phase with
    | .reading now =>
      state.setReplica index ((state.replica index).enter (.read now state.lease))
    | _ => state
  | .answerRead index =>
    match (state.replica index).phase with
    | .read now found =>
      match tryAcquireOrRenew (config index) now found with
      | none => state.finish config index now false
      | some write => state.send index now write
    | _ => state
  | .serveWrite place =>
    match state.network[place]? with
    | none => state
    | some sent =>
      ((state.take place).store sent.write).reply sent
        (decide (state.Accepts sent.write))
  | .answerWrite index =>
    match (state.replica index).phase with
    | .written now accepted => state.finish config index now accepted
    | _ => state
  | .fail index =>
    match (state.replica index).phase with
    | .asleep _ => state
    | _ => state.finish config index state.clock false

/-- A group of replicas as it starts, over whatever lease is stored. -/
structure Fresh (state : Election ι) : Prop where
  asleep : ∀ index, ∃ wakes, (state.replica index).phase = .asleep wakes
  none_leads : ∀ index, (state.replica index).isLeader = false
  silent : state.network = []
  stored : ∀ lease, state.lease = some lease → lease.resourceVersion ≤ state.version

end Election

/-! A replica that has been granted the lease holds it until the lease runs out: that is
an invariant of every run. -/

open Option Timestamp

theorem isExpired_some (renew : Int) (leaseDuration : Nat) (now : Int) :
    isExpired (some renew) leaseDuration now = true ↔
      renew + seconds leaseDuration < now ∧
        renew + seconds leaseDuration ≤ max := by
  simp only [isExpired, checkedAdd, getD_some, decide_eq_true_eq]
  split
  next within => simp [within]
  next beyond => simp [beyond]

theorem spec_of_tryAcquireOrRenew (sends : tryAcquireOrRenew config now found = some write) :
    write.spec.holderIdentity = some config.holderId ∧
      write.spec.leaseDurationSeconds = some config.leaseDurationSeconds ∧
        write.spec.renewTime = some (micro now) ∧
          write.resourceVersion = found.map Lease.resourceVersion := by
  cases found with
  | none =>
    cases sends
    exact ⟨rfl, rfl, rfl, rfl⟩
  | some current =>
    rw [tryAcquireOrRenew] at sends
    split at sends
    · cases sends
    · cases sends
      exact ⟨rfl, rfl, rfl, rfl⟩

theorem expired_of_tryAcquireOrRenew
    (sends : tryAcquireOrRenew config now (some current) = some write)
    (foreign : current.holder ≠ some config.holderId) : current.expired now = true := by
  rw [tryAcquireOrRenew] at sends
  split at sends
  next => cases sends
  next may =>
    by_contra fresh
    exact may ⟨Bool.eq_false_iff.mpr fresh, foreign⟩

namespace Phase

def round {ι : Type} : Phase ι → Option Int
  | .reading now | .read now _ => some now
  | _ => none

end Phase

/-- A replica claims the lease for the round that set its flag, and for a round whose
success is on its way to it. -/
def Replica.Claims {ι : Type} (replica : Replica ι) (now : Int) : Prop :=
  (replica.isLeader = true ∧ replica.since = now) ∨ replica.phase = .written now true

theorem Replica.claims_of_enter {ι : Type} {replica : Replica ι} {phase : Phase ι} {now : Int}
    (claims : (replica.enter phase).Claims now) (unanswered : phase ≠ .written now true) :
    replica.Claims now := by
  rcases claims with leads | written
  · exact .inl leads
  · exact absurd written unanswered

namespace Election

variable {ι : Type} (config : ι → LeaderElectionConfig)

def expiry (index : ι) (now : Int) : Int :=
  Timestamp.micro now + Timestamp.seconds (config index).leaseDurationSeconds

def Exclusive (state : Election ι) : Prop :=
  ∀ first second, (state.replica first).isLeader = true →
    (state.replica second).isLeader = true → first = second

/-- The condition on a step: no flag is still set when the lease it stands for runs out,
and no success arrives after the lease it reports has run out. -/
def Punctual (state : Election ι) : ElectionMove ι → Prop
  | .pass duration => ∀ index, (state.replica index).isLeader = true →
      state.clock + duration ≤ expiry config index (state.replica index).since
  | .answerWrite index => ∀ now, (state.replica index).phase = .written now true →
      state.clock ≤ expiry config index now
  | _ => True

def Held (state : Election ι) (index : ι) (now : Int) : Prop :=
  ∃ lease renew, state.lease = some lease ∧
    lease.holder = some (config index).holderId ∧
      lease.leaseDuration = (config index).leaseDurationSeconds ∧
        lease.renewTime = some renew ∧ Timestamp.micro now ≤ renew

def Lapsed (state : Election ι) (index : ι) (now : Int) : Prop :=
  expiry config index now < state.clock

def Observed (state : Election ι) (found : Option Lease) : Prop :=
  (∀ lease, found = some lease → lease.resourceVersion ≤ state.version) ∧
    (found.map Lease.resourceVersion = state.lease.map Lease.resourceVersion →
      found = state.lease)

/-- What is known of a write on its way: if it can still be accepted, its sender has
decided on the lease that is stored, in a round no earlier than those it claims. -/
structure Grounded (state : Election ι) (sent : Sent ι) : Prop where
  past : sent.now ≤ state.clock
  known : ∀ version, sent.write.resourceVersion = some version → version ≤ state.version
  decided : state.Accepts sent.write →
    tryAcquireOrRenew (config sent.sender) sent.now state.lease = some sent.write
  latest : state.Accepts sent.write →
    ∀ now, (state.replica sent.sender).Claims now → now ≤ sent.now

structure Consistent (state : Election ι) (index : ι) : Prop where
  past : ∀ now, (state.replica index).phase.round = some now → now ≤ state.clock
  observed : ∀ now found, (state.replica index).phase = .read now found →
    state.Observed found
  claimed : ∀ now, (state.replica index).Claims now →
    now ≤ state.clock ∧ (state.Held config index now ∨ state.Lapsed config index now)
  ordered : ∀ claim now, (state.replica index).Claims claim →
    (state.replica index).phase.round = some now → claim ≤ now

structure Sound (state : Election ι) : Prop where
  stored : ∀ lease, state.lease = some lease → lease.resourceVersion ≤ state.version
  replicas : ∀ index, state.Consistent config index
  writes : ∀ sent ∈ state.network, state.Grounded config sent

def Timely (state : Election ι) : Prop :=
  ∀ index, (state.replica index).isLeader = true →
    ¬ state.Lapsed config index (state.replica index).since

variable [DecidableEq ι] in
/-- If the step gives the lease to another holder, the lease had expired by then. -/
def Orderly (state : Election ι) (move : ElectionMove ι) : Prop :=
  ∀ before after, state.lease = some before → (state.step config move).lease = some after →
    before.holder ≠ after.holder → ∃ instant ≤ state.clock, before.expired instant = true

variable {config}

variable {state : Election ι} {sent : Sent ι}

theorem Fresh.sound (fresh : state.Fresh) : state.Sound config := by
  have claimless : ∀ index now, ¬ (state.replica index).Claims now := by
    intro index now claims
    obtain ⟨wakes, asleep⟩ := fresh.asleep index
    rcases claims with ⟨leads, -⟩ | written
    · rw [fresh.none_leads index] at leads
      cases leads
    · rw [asleep] at written
      cases written
  refine ⟨fresh.stored, ?_, ?_⟩
  · intro index
    obtain ⟨wakes, asleep⟩ := fresh.asleep index
    refine ⟨?_, ?_, ?_, ?_⟩
    · intro now round
      rw [asleep] at round
      cases round
    · intro now found read
      rw [asleep] at read
      cases read
    · exact fun now claims => absurd claims (claimless index now)
    · exact fun claim now claims => absurd claims (claimless index claim)
  · intro sent member
    rw [fresh.silent] at member
    cases member

theorem Fresh.timely (fresh : state.Fresh) : state.Timely config := by
  intro index leads
  rw [fresh.none_leads index] at leads
  cases leads

open Function

theorem Sound.exclusive (sound : state.Sound config)
    (distinct : Injective fun index => (config index).holderId)
    (timely : state.Timely config) : state.Exclusive := by
  have holds : ∀ index, (state.replica index).isLeader = true →
      ∃ lease, state.lease = some lease ∧ lease.holder = some (config index).holderId := by
    intro index leads
    rcases ((sound.replicas index).claimed _ (.inl ⟨leads, rfl⟩)).2 with held | lapsed
    · obtain ⟨lease, renew, stored, holder, -⟩ := held
      exact ⟨lease, stored, holder⟩
    · exact absurd lapsed (timely index leads)
  intro first second firstLeads secondLeads
  obtain ⟨lease, stored, firstHolds⟩ := holds first firstLeads
  obtain ⟨other, otherStored, secondHolds⟩ := holds second secondLeads
  obtain rfl : lease = other := some.inj (stored.symm.trans otherStored)
  exact distinct (some.inj (firstHolds.symm.trans secondHolds))

theorem Sound.pass (sound : state.Sound config) (duration : Nat) :
    Sound config { state with clock := state.clock + duration } := by
  refine ⟨sound.stored, ?_, ?_⟩
  · intro index
    have consistent := sound.replicas index
    refine ⟨?_, consistent.observed, ?_, consistent.ordered⟩
    · intro now round
      have past := consistent.past now round
      dsimp only
      omega
    intro now claims
    obtain ⟨past, held | lapsed⟩ := consistent.claimed now claims
    · refine ⟨?_, .inl held⟩
      dsimp only
      omega
    · unfold Lapsed at lapsed ⊢
      refine ⟨?_, .inr ?_⟩ <;> dsimp only <;> omega
  intro sent member
  have grounded := sound.writes sent member
  refine ⟨?_, grounded.known, grounded.decided, grounded.latest⟩
  have past := grounded.past
  dsimp only
  omega

variable [DecidableEq ι]

section

variable (state : Election ι) (index : ι) (replica : Replica ι)

@[simp] theorem setReplica_clock :
    (state.setReplica index replica).clock = state.clock := rfl

@[simp] theorem setReplica_lease :
    (state.setReplica index replica).lease = state.lease := rfl

@[simp] theorem setReplica_same : (state.setReplica index replica).replica index = replica := by
  simp [setReplica]

end

theorem setReplica_other (state : Election ι) (replica : Replica ι) (apart : other ≠ index) :
    (state.setReplica index replica).replica other = state.replica other := by
  simp [setReplica, apart]

section

variable (sound : state.Sound config) (index : ι)

include sound

theorem Sound.setReplica
    (replica : Replica ι) (claims : ∀ now, replica.Claims now → (state.replica index).Claims now)
    (past : ∀ now, replica.phase.round = some now → now ≤ state.clock)
    (observed : ∀ now found, replica.phase = .read now found → state.Observed found)
    (ordered : ∀ claim now, replica.Claims claim → replica.phase.round = some now → claim ≤ now) :
    (state.setReplica index replica).Sound config := by
  have earlier : ∀ other now, ((state.setReplica index replica).replica other).Claims now →
      (state.replica other).Claims now := by
    intro other now claimed
    by_cases same : other = index
    · subst same
      rw [setReplica_same] at claimed
      exact claims now claimed
    · rwa [setReplica_other state replica same] at claimed
  refine ⟨sound.stored, ?_, ?_⟩
  · intro other
    have consistent := sound.replicas other
    have claimed : ∀ now, ((state.setReplica index replica).replica other).Claims now →
        now ≤ state.clock ∧ (state.Held config other now ∨ state.Lapsed config other now) :=
      fun now holds => consistent.claimed now (earlier other now holds)
    by_cases same : other = index
    · subst same
      refine ⟨?_, ?_, claimed, ?_⟩
      · simpa only [setReplica_same, setReplica_clock] using past
      · rw [setReplica_same]
        exact observed
      · simpa only [setReplica_same] using ordered
    · refine ⟨?_, ?_, claimed, ?_⟩
      · simpa only [setReplica_other state replica same, setReplica_clock] using consistent.past
      · rw [setReplica_other state replica same]
        exact consistent.observed
      · simpa only [setReplica_other state replica same] using consistent.ordered
  · intro sent member
    have grounded := sound.writes sent member
    exact ⟨grounded.past, grounded.known, grounded.decided, fun accepts now claimed =>
      grounded.latest accepts now (earlier sent.sender now claimed)⟩

theorem Sound.finish (now : Int)
    (leader : Bool) (granted : leader = true → (state.replica index).phase = .written now true) :
    (state.finish config index now leader).Sound config := by
  refine sound.setReplica index _ ?_ ?_ ?_ ?_
  · intro claim claims
    rcases claims with ⟨leads, since⟩ | written
    · dsimp only at leads since
      subst leads
      subst since
      exact .inr (granted rfl)
    · cases written
  · intro now round
    cases round
  · intro now found read
    cases read
  · intro claim now claims round
    cases round

theorem Sound.wake :
    (state.setReplica index
      ((state.replica index).enter (.reading state.clock))).Sound config := by
  refine sound.setReplica index _ ?_ ?_ ?_ ?_
  · intro now claims
    exact Replica.claims_of_enter claims (by intro same; cases same)
  · intro now round
    cases round
    exact Int.le_refl _
  · intro now found read
    cases read
  · intro claim now claims round
    cases round
    have claimed := Replica.claims_of_enter claims (by intro same; cases same)
    exact ((sound.replicas index).claimed claim claimed).1

theorem Sound.read (now : Int)
    (reading : (state.replica index).phase = .reading now) : (state.setReplica index
      ((state.replica index).enter (.read now state.lease))).Sound config := by
  have round : (state.replica index).phase.round = some now := by
    rw [reading]
    rfl
  refine sound.setReplica index _ ?_ ?_ ?_ ?_
  · intro claim claims
    exact Replica.claims_of_enter claims (by intro same; cases same)
  · intro instant same
    cases same
    exact (sound.replicas index).past now round
  · intro instant found read
    cases read
    exact ⟨sound.stored, fun _ => rfl⟩
  · intro claim instant claims same
    cases same
    have claimed := Replica.claims_of_enter claims (by intro same; cases same)
    exact (sound.replicas index).ordered claim now claimed round

end

omit [DecidableEq ι] in
theorem Sound.post (sound : state.Sound config) (sent : Sent ι)
    (grounded : state.Grounded config sent) :
    Sound config { state with network := state.network ++ [sent] } := by
  refine ⟨sound.stored, fun index => ?_, ?_⟩
  · have consistent := sound.replicas index
    exact ⟨consistent.past, consistent.observed, consistent.claimed, consistent.ordered⟩
  intro other member
  rcases List.mem_append.mp member with old | new
  · have known := sound.writes other old
    exact ⟨known.past, known.known, known.decided, known.latest⟩
  · rw [List.mem_singleton] at new
    subst new
    exact ⟨grounded.past, grounded.known, grounded.decided, grounded.latest⟩

theorem Sound.send (sound : state.Sound config) (index : ι) (now : Int)
    (found : Option Lease) (write : LeaseWrite)
    (read : (state.replica index).phase = .read now found)
    (sends : tryAcquireOrRenew (config index) now found = some write) :
    (state.send index now write).Sound config := by
  have round : (state.replica index).phase.round = some now := by rw [read]; rfl
  have version := (spec_of_tryAcquireOrRenew sends).2.2.2
  have consistent := sound.replicas index
  obtain ⟨bounded, same⟩ := consistent.observed now found read
  let sent : Sent ι := ⟨index, (state.replica index).tickets, now, write⟩
  let replica : Replica ι :=
    { (state.replica index).enter (.writing sent) with
      tickets := (state.replica index).tickets + 1 }
  have claims : ∀ claim, replica.Claims claim → (state.replica index).Claims claim := by
    rintro claim (leads | written)
    · exact .inl leads
    · cases written
  have waiting : (state.setReplica index replica).Sound config := by
    refine sound.setReplica index replica claims ?_ ?_ ?_
    · intro now round
      cases round
    · intro now found read
      cases read
    · intro claim now claims round
      cases round
  refine waiting.post sent ⟨consistent.past now round, ?_, ?_, ?_⟩
  · intro known carried
    rw [version] at carried
    obtain ⟨lease, isFound, rfl⟩ := map_eq_some_iff.mp carried
    exact bounded lease isFound
  · intro accepts
    have current : found = state.lease := same (version.symm.trans accepts)
    rw [setReplica_lease, ← current]
    exact sends
  · intro accepts claim claimed
    rw [setReplica_same] at claimed
    exact consistent.ordered claim now (claims claim claimed) round

omit [DecidableEq ι] in
theorem Sound.take (sound : state.Sound config) (place : Nat) :
    (state.take place).Sound config := by
  refine ⟨sound.stored, fun index => ?_, ?_⟩
  · have consistent := sound.replicas index
    exact ⟨consistent.past, consistent.observed, consistent.claimed, consistent.ordered⟩
  · intro sent member
    have known := sound.writes sent (List.mem_of_mem_eraseIdx member)
    exact ⟨known.past, known.known, known.decided, known.latest⟩

omit [DecidableEq ι] in
theorem Grounded.held
    (grounded : state.Grounded config sent) (accepts : state.Accepts sent.write) {claim : Int}
    (before : claim ≤ sent.now) : (state.grant sent.write).Held config sent.sender claim := by
  obtain ⟨holder, duration, renew, -⟩ := spec_of_tryAcquireOrRenew (grounded.decided accepts)
  refine ⟨_, micro sent.now, rfl, holder, ?_, renew, micro_mono before⟩
  simp [Lease.leaseDuration, duration]

omit [DecidableEq ι] in
/-- A claim survives a write: the sender's own renews it, and another replica's is only
accepted once the lease has run out. -/
theorem Grounded.claim_kept
    (distinct : Injective fun index => (config index).holderId)
    (grounded : state.Grounded config sent) (accepts : state.Accepts sent.write) {index : ι}
    {claim : Int} (claims : (state.replica index).Claims claim)
    (claimed : state.Held config index claim ∨ state.Lapsed config index claim) :
    (state.grant sent.write).Held config index claim ∨
      (state.grant sent.write).Lapsed config index claim := by
  rcases claimed with held | lapsed
  · by_cases own : index = sent.sender
    · subst own
      exact .inl (grounded.held accepts (grounded.latest accepts claim claims))
    right
    obtain ⟨lease, renew, stored, holder, duration, renewed, since⟩ := held
    have decided := grounded.decided accepts
    rw [stored] at decided
    have foreign : lease.holder ≠ some (config sent.sender).holderId := by
      rw [holder]
      exact fun same => own (distinct (some.inj same))
    have expired := expired_of_tryAcquireOrRenew decided foreign
    rw [Lease.expired, renewed, duration, isExpired_some] at expired
    have past := grounded.past
    change expiry config index claim < state.clock
    unfold expiry
    omega
  · exact .inr lapsed

omit [DecidableEq ι] in
theorem not_accepts_grant (write : LeaseWrite) {other : Sent ι}
    (grounded : state.Grounded config other) : ¬ (state.grant write).Accepts other.write := by
  intro accepts
  have known := grounded.known (state.version + 1) accepts
  omega

omit [DecidableEq ι] in
theorem Sound.grant (sound : state.Sound config)
    (distinct : Injective fun index => (config index).holderId)
    (grounded : state.Grounded config sent) (accepts : state.Accepts sent.write) :
    (state.grant sent.write).Sound config := by
  refine ⟨?_, ?_, ?_⟩
  · intro lease stored
    cases stored
    exact Nat.le_refl _
  · intro index
    have consistent := sound.replicas index
    refine ⟨consistent.past, ?_, ?_, consistent.ordered⟩
    · intro now found read
      obtain ⟨bounded, -⟩ := consistent.observed now found read
      refine ⟨fun lease isFound => Nat.le_succ_of_le (bounded lease isFound), ?_⟩
      intro same
      obtain ⟨lease, isFound, version⟩ := map_eq_some_iff.mp same
      have earlier := bounded lease isFound
      dsimp only at version
      omega
    · intro claim claims
      obtain ⟨past, claimed⟩ := consistent.claimed claim claims
      exact ⟨past, grounded.claim_kept distinct accepts claims claimed⟩
  · intro other member
    have known := sound.writes other member
    have stale := not_accepts_grant sent.write known
    exact ⟨known.past, fun version carried => Nat.le_succ_of_le (known.known version carried),
      fun accepted => absurd accepted stale, fun accepted => absurd accepted stale⟩

/-- A success sets out: the sender claims the lease it has been granted, and no other
write of its own can still be accepted. -/
theorem Sound.reply_granted (sound : state.Sound config) (sent : Sent ι)
    (past : sent.now ≤ state.clock) (held : state.Held config sent.sender sent.now)
    (stale : ∀ other ∈ state.network, ¬ state.Accepts other.write) : (state.setReplica sent.sender
      ((state.replica sent.sender).enter (.written sent.now true))).Sound config := by
  refine ⟨sound.stored, ?_, ?_⟩
  · intro index
    have consistent := sound.replicas index
    by_cases same : index = sent.sender
    · subst same
      refine ⟨?_, ?_, ?_, ?_⟩
      · intro now round
        rw [setReplica_same] at round
        cases round
      · intro now found read
        rw [setReplica_same] at read
        cases read
      · intro claim claims
        rw [setReplica_same] at claims
        rcases claims with leads | written
        · exact consistent.claimed claim (.inl leads)
        · cases written
          exact ⟨past, .inl held⟩
      · intro claim now claims round
        rw [setReplica_same] at round
        cases round
    · refine ⟨?_, ?_, ?_, ?_⟩ <;> rw [setReplica_other state _ same]
      · exact consistent.past
      · exact consistent.observed
      · exact consistent.claimed
      · exact consistent.ordered
  · intro other member
    have known := sound.writes other member
    exact ⟨known.past, known.known, known.decided,
      fun accepts => absurd accepts (stale other member)⟩

theorem Sound.reply_refused (sound : state.Sound config) (sent : Sent ι) :
    (state.setReplica sent.sender
      ((state.replica sent.sender).enter (.written sent.now false))).Sound config := by
  refine sound.setReplica sent.sender _ ?_ ?_ ?_ ?_
  · intro claim claims
    exact Replica.claims_of_enter claims (by intro same; cases same)
  · intro now round
    cases round
  · intro now found read
    cases read
  · intro claim now claims round
    cases round

theorem Sound.serveWrite (sound : state.Sound config)
    (distinct : Injective fun index => (config index).holderId) (place : Nat) :
    (state.step config (.serveWrite place)).Sound config := by
  rw [step]
  split
  next => exact sound
  next sent isSent =>
    have grounded := sound.writes sent (List.mem_of_getElem? isSent)
    have remaining := sound.take place
    have kept : (state.take place).Grounded config sent :=
      ⟨grounded.past, grounded.known, grounded.decided, grounded.latest⟩
    by_cases accepts : (state.take place).Accepts sent.write
    · have granted := remaining.grant distinct kept accepts
      rw [store, if_pos accepts, reply]
      split
      next =>
        rw [decide_eq_true (show state.Accepts sent.write from accepts)]
        refine granted.reply_granted sent grounded.past ?_ ?_
        · exact kept.held accepts (Int.le_refl _)
        · intro other member
          exact not_accepts_grant sent.write (remaining.writes other member)
      next => exact granted
    rw [store, if_neg accepts, reply]
    split
    next =>
      rw [decide_eq_false (show ¬ state.Accepts sent.write from accepts)]
      exact remaining.reply_refused sent
    next => exact remaining

theorem Sound.step (sound : state.Sound config)
    (distinct : Injective fun index => (config index).holderId)
    (move : ElectionMove ι) : (state.step config move).Sound config := by
  cases move with
  | pass duration => exact sound.pass duration
  | wake index =>
    rw [Election.step]
    split
    next =>
      split
      next => exact sound.wake index
      next => exact sound
    next => exact sound
  | serveRead index =>
    rw [Election.step]
    split
    next now reading => exact sound.read index now reading
    next => exact sound
  | answerRead index =>
    rw [Election.step]
    split
    next now found read =>
      split
      next => exact sound.finish index now false (by intro leads; cases leads)
      next write sends => exact sound.send index now found write read sends
    next => exact sound
  | serveWrite place => exact sound.serveWrite distinct place
  | answerWrite index =>
    rw [Election.step]
    split
    next now accepted written =>
      refine sound.finish index now accepted ?_
      rintro rfl
      exact written
    next => exact sound
  | fail index =>
    rw [Election.step]
    split
    next => exact sound
    next => exact sound.finish index state.clock false (by intro leads; cases leads)

@[simp] theorem reply_lease (state : Election ι) (sent : Sent ι) (accepted : Bool) :
    (state.reply sent accepted).lease = state.lease := by
  rw [reply]
  split <;> rfl

theorem step_lease (state : Election ι) (move : ElectionMove ι) :
    (state.step config move).lease = state.lease ∨
      ∃ sent ∈ state.network, state.Accepts sent.write ∧
        (state.step config move).lease = some ⟨state.version + 1, some sent.write.spec⟩ := by
  cases move with
  | pass duration => exact .inl rfl
  | wake index =>
    left
    rw [step]
    split
    next => split <;> rfl
    next => rfl
  | serveRead index =>
    left
    rw [step]
    split <;> rfl
  | answerRead index =>
    left
    rw [step]
    split
    next => split <;> rfl
    next => rfl
  | serveWrite place =>
    rw [step]
    split
    next => exact .inl rfl
    next sent isSent =>
      rw [reply_lease, store]
      split
      next accepts => exact .inr ⟨sent, List.mem_of_getElem? isSent, accepts, rfl⟩
      next => exact .inl rfl
  | answerWrite index | fail index =>
    left
    rw [step]
    split <;> rfl

/-- In every run the lease changes hands only after it has expired. -/
theorem Sound.orderly (sound : state.Sound config)
    (move : ElectionMove ι) : state.Orderly config move := by
  intro before after stored changed apart
  rcases @step_lease ι config _ state move with same | ⟨sent, member, accepts, granted⟩
  · rw [same, stored] at changed
    exact absurd (congrArg Lease.holder (some.inj changed)) apart
  have grounded := sound.writes sent member
  have decided := grounded.decided accepts
  rw [stored] at decided
  have holder : after.holder = some (config sent.sender).holderId := by
    obtain rfl := some.inj (granted.symm.trans changed)
    exact (spec_of_tryAcquireOrRenew decided).1
  rw [holder] at apart
  exact ⟨sent.now, grounded.past, expired_of_tryAcquireOrRenew decided apart⟩

section

variable (timely : state.Timely config)

include timely

theorem Timely.setReplica (index : ι)
    (replica : Replica ι)
    (kept : replica.isLeader = true → ¬ state.Lapsed config index replica.since) :
    (state.setReplica index replica).Timely config := by
  intro other leads
  by_cases same : other = index
  · subst same
    rw [setReplica_same] at leads ⊢
    exact kept leads
  · rw [setReplica_other state replica same] at leads ⊢
    exact timely other leads

theorem Timely.finish_false (index : ι)
    (now : Int) : (state.finish config index now false).Timely config :=
  timely.setReplica index _ fun leads => by cases leads

theorem Timely.enter (index : ι)
    (phase : Phase ι) :
    (state.setReplica index ((state.replica index).enter phase)).Timely config :=
  timely.setReplica index _ fun leads => timely index leads

theorem Timely.serveWrite (place : Nat) :
    (state.step config (.serveWrite place)).Timely config := by
  rw [step]
  split
  next => exact timely
  next sent _ =>
    have stored : ((state.take place).store sent.write).Timely config := by
      rw [store]
      split
      next => exact timely
      next => exact timely
    rw [reply]
    split
    next => exact stored.enter sent.sender _
    next => exact stored

theorem Timely.step
    (move : ElectionMove ι) (punctual : state.Punctual config move) :
    (state.step config move).Timely config := by
  cases move with
  | pass duration =>
    intro index leads
    exact Int.not_lt.mpr (punctual index leads)
  | wake index =>
    rw [Election.step]
    split
    next =>
      split
      next => exact timely.enter index _
      next => exact timely
    next => exact timely
  | serveRead index =>
    rw [Election.step]
    split
    next => exact timely.enter index _
    next => exact timely
  | answerRead index =>
    rw [Election.step]
    split
    next =>
      split
      next => exact timely.finish_false index _
      next => exact timely.setReplica index _ fun leads => timely index leads
    next => exact timely
  | serveWrite place => exact timely.serveWrite place
  | answerWrite index =>
    rw [Election.step]
    split
    next now accepted written =>
      cases accepted with
      | false => exact timely.finish_false index now
      | true =>
        exact timely.setReplica index _ fun _ => Int.not_lt.mpr (punctual now written)
    next => exact timely
  | fail index =>
    rw [Election.step]
    split
    next => exact timely
    next => exact timely.finish_false index _

end

/-- What is asked of a step: at most one flag is set after it, and it hands the lease
over only once the lease has expired. -/
def Safe (config : ι → LeaderElectionConfig) (state : Election ι) (move : ElectionMove ι) :
    Prop :=
  (state.step config move).Exclusive ∧ state.Orderly config move

/-- In a run in which no flag outlives its lease, at most one replica leads at any time,
and the lease is taken over only after it has expired. -/
theorem every_step_safe (distinct : Injective fun index => (config index).holderId)
    (state : Election ι) (fresh : state.Fresh) (moves : List (ElectionMove ι))
    (punctual : Run.Every (step config) (Punctual config) state moves) :
    state.Exclusive ∧ Run.Every (step config) (Safe config) state moves := by
  refine ⟨fresh.sound.exclusive distinct fresh.timely, ?_⟩
  refine Run.Every.of_invariant (fun state => state.Sound config ∧ state.Timely config)
    ?_ ?_ ⟨fresh.sound, fresh.timely⟩ punctual
  · intro state move invariant punctual
    exact ⟨invariant.1.step distinct move, invariant.2.step move punctual⟩
  · intro state move invariant punctual
    exact ⟨(invariant.1.step distinct move).exclusive distinct
      (invariant.2.step move punctual), invariant.1.orderly move⟩

def pair (second : Bool) : LeaderElectionConfig where
  holderId := if second then "pertisk-1".toList else "pertisk-0".toList
  leaseDurationSeconds := 15
  renewIntervalSeconds := 5

def pairStart : Election Bool where
  clock := 1700000000000000000
  version := 0
  lease := none
  replica _ := { phase := .asleep 1700000000000000000 }
  network := []

def pairRound (second : Bool) : List (ElectionMove Bool) :=
  [.wake second, .serveRead second, .answerRead second, .serveWrite 0, .answerWrite second]

theorem pairStart_fresh : pairStart.Fresh where
  asleep _ := ⟨_, rfl⟩
  none_leads _ := rfl
  silent := rfl
  stored _ stored := by cases stored

theorem pair_distinct : Injective fun second => (pair second).holderId := by
  intro first second
  revert first second
  decide

/-- A replica leads, fails to renew and steps down; the other takes over. -/
def handover : List (ElectionMove Bool) :=
  pairRound false ++ [.pass 5000000000, .wake false, .fail false, .pass 11000000000] ++
    pairRound true

theorem handover_punctual : Run.Every (step pair) (Punctual pair) pairStart handover := by
  refine ⟨trivial, trivial, trivial, trivial, ?_, ?_, trivial, trivial, ?_, trivial,
    trivial, trivial, trivial, ?_, trivial⟩
  · intro now written
    obtain rfl : now = 1700000000000000000 := by
      injection written with same
      exact same.symm
    decide +kernel
  · unfold Punctual
    decide +kernel
  · unfold Punctual
    decide +kernel
  · intro now written
    obtain rfl : now = 1700000016000000000 := by
      injection written with same
      exact same.symm
    decide +kernel

theorem handover_safe : Run.Every (step pair) (Punctual pair) pairStart handover ∧
      pairStart.Exclusive ∧ Run.Every (step pair) (Safe pair) pairStart handover :=
  ⟨handover_punctual,
    every_step_safe pair_distinct pairStart pairStart_fresh handover handover_punctual⟩

def stalled : List (ElectionMove Bool) :=
  pairRound false ++ [.pass 5000000000, .wake false, .pass 11000000000] ++ pairRound true

/-- The request with which the leader wants to renew hangs for eleven seconds. Its flag
stays set while the lease runs out and the other replica takes it over. -/
theorem stalled_leader_still_leads :
    Injective (fun second => (pair second).holderId) ∧ pairStart.Fresh ∧
      ¬ (stalled.foldl (step pair) pairStart).Exclusive := by
  refine ⟨pair_distinct, pairStart_fresh, ?_⟩
  intro exclusive
  have same : false = true := exclusive false true (by decide +kernel) (by decide +kernel)
  cases same

end Election

end PertiskProxy.Ingress
