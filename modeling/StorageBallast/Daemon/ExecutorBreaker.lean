import StorageBallast.Foundations.Runs
import StorageBallast.Scanner.FailureStreaks

/-! The executor thread as far as its circuit breaker goes: a batch that is halted by a streak
of failures keeps the thread from executing batches for a while, and longer each time.
-/

namespace StorageBallast

variable {F : Type}

def baseCircuitBreakerCooldown : Duration := .fromSecs 30

def maxCircuitBreakerCooldown : Duration := .fromMins 5

/-- A batch as the thread meets it: when it is received, what policy, dampening and plan leave
of it, its circumstances, and how long it takes.
-/
structure ReceivedBatch (F : Type) where
  receivedAfter : Duration
  plan : DeletionPlan F
  setup : BatchSetup F
  executedFor : Duration

/-- A batch that was executed: what each of its candidates would come to, the streak that halts
it, and the cooldown in force when it was done.
-/
structure BatchRecord where
  startedAt : Instant
  circuitBreakerThreshold : Nat
  outcomes : List TurnOutcome
  itemsDeleted : Nat
  circuitBreakerTripped : Bool
  finishedAt : Instant
  circuitBreakerCooldown : Duration
deriving DecidableEq, Repr

def BatchRecord.tried (self : BatchRecord) : List TurnOutcome :=
  TurnOutcome.tried self.circuitBreakerThreshold 0 self.outcomes

structure ExecutorThread where
  now : Instant
  lastCircuitBreakerTrip : Option Instant
  circuitBreakerCooldown : Duration
  history : List BatchRecord
deriving DecidableEq, Repr

namespace ExecutorThread

def start (now : Instant) : ExecutorThread := ⟨now, none, baseCircuitBreakerCooldown, []⟩

def wait (self : ExecutorThread) (duration : Duration) : ExecutorThread :=
  { self with now := self.now + duration }

def coolingDown (self : ExecutorThread) : Bool :=
  self.lastCircuitBreakerTrip.any fun trip =>
    decide (elapsed self.now trip < self.circuitBreakerCooldown)

def cooldownAfter (self : ExecutorThread) (report : DeletionReport F) : Duration :=
  if report.circuitBreakerTripped then
    min (self.circuitBreakerCooldown * 2) maxCircuitBreakerCooldown
  else if 0 < report.itemsDeleted then baseCircuitBreakerCooldown
  else self.circuitBreakerCooldown

def execute (self : ExecutorThread) (batch : ReceivedBatch F) : ExecutorThread :=
  let report := (batch.setup.execute batch.plan).report
  let done := self.wait batch.executedFor
  let cooldown := self.cooldownAfter report
  { done with
    lastCircuitBreakerTrip := if report.circuitBreakerTripped then some done.now else none
    circuitBreakerCooldown := cooldown
    history :=
      ⟨self.now, batch.setup.config.circuitBreakerThreshold,
        batch.setup.planOutcomes batch.plan, report.itemsDeleted,
        report.circuitBreakerTripped, done.now, cooldown⟩ :: self.history }

/-- One turn of `executor_thread_main`. -/
def turn (self : ExecutorThread) (batch : ReceivedBatch F) : ExecutorThread :=
  let received := self.wait batch.receivedAfter
  if received.coolingDown then received
  else
    let rested := { received with lastCircuitBreakerTrip := none }
    if batch.plan.candidates.isEmpty then rested else rested.execute batch

end ExecutorThread

def tripsInARow : List BatchRecord → Nat
  | [] => 0
  | record :: earlier =>
      if record.circuitBreakerTripped then tripsInARow earlier + 1
      else if 0 < record.itemsDeleted then 0
      else tripsInARow earlier

/-- Persistent failure within a batch pauses deletion, by the batches executed so far: a streak
with a candidate left halts its batch, no delete is attempted during the cooldown after a
halted batch, and the cooldowns grow from trip to trip up to five minutes.
-/
structure PausesDeletion (history : List BatchRecord) : Prop where
  halted : ∀ record ∈ history, ∀ front outcome back,
    record.outcomes = front ++ outcome :: back →
      record.circuitBreakerThreshold ≤ TurnOutcome.streak front →
        record.circuitBreakerTripped = true ∧ record.tried <+: front
  paused : history.Pairwise fun later earlier =>
    earlier.circuitBreakerTripped = true → later.tried.any TurnOutcome.attempt = true →
      earlier.finishedAt + earlier.circuitBreakerCooldown ≤ later.startedAt
  cooldowns : ∀ later record earlier, history = later ++ record :: earlier →
    record.circuitBreakerTripped = true →
      record.circuitBreakerCooldown
        = min (baseCircuitBreakerCooldown * 2 ^ (tripsInARow earlier + 1))
          maxCircuitBreakerCooldown

/-- The same with streaks counted from batch to batch, and with the base as the first cooldown:
after a streak of the given length no delete is attempted for the base time at least.
-/
structure PausesAcrossBatches (threshold : Nat) (history : List BatchRecord) : Prop where
  paused : ∀ later record latest earlier, history = later ++ record :: latest :: earlier →
    threshold ≤ TurnOutcome.streak
      ((latest :: earlier).reverse.flatMap BatchRecord.tried) →
      record.tried.any TurnOutcome.attempt = true →
        latest.finishedAt + baseCircuitBreakerCooldown ≤ record.startedAt
  firstTrip : ∀ later record earlier, history = later ++ record :: earlier →
    record.circuitBreakerTripped = true → tripsInARow earlier = 0 →
      record.circuitBreakerCooldown = baseCircuitBreakerCooldown

structure RemembersTrips (thread : ExecutorThread) : Prop where
  cooldown : thread.circuitBreakerCooldown
    = min (baseCircuitBreakerCooldown * 2 ^ tripsInARow thread.history) maxCircuitBreakerCooldown
  past : ∀ trip, thread.lastCircuitBreakerTrip = some trip → trip ≤ thread.now
  trips : ∀ record ∈ thread.history, record.circuitBreakerTripped = true →
    record.finishedAt + record.circuitBreakerCooldown ≤ thread.now
      ∨ thread.lastCircuitBreakerTrip = some record.finishedAt
        ∧ thread.circuitBreakerCooldown = record.circuitBreakerCooldown
  pauses : PausesDeletion thread.history

/-- A streak with a candidate left halts the batch that it is in. -/
theorem executed_halted (setup : BatchSetup F) (plan : DeletionPlan F)
    {front back : List TurnOutcome} {outcome : TurnOutcome}
    (split : setup.planOutcomes plan = front ++ outcome :: back)
    (full : setup.config.circuitBreakerThreshold ≤ TurnOutcome.streak front)
    : (setup.execute plan).report.circuitBreakerTripped = true
      ∧ TurnOutcome.tried setup.config.circuitBreakerThreshold 0 (setup.planOutcomes plan)
        <+: front := by
  rw [(setup.execute_counts plan).1, split]
  exact TurnOutcome.halts_of_streak full

/-- Doubling a capped cooldown and capping it again doubles it below the cap. -/
theorem doubled_cooldown (trips : Nat)
    : min (min (baseCircuitBreakerCooldown * 2 ^ trips) maxCircuitBreakerCooldown * 2)
        maxCircuitBreakerCooldown
      = min (baseCircuitBreakerCooldown * 2 ^ (trips + 1)) maxCircuitBreakerCooldown := by
  rw [Nat.pow_succ, ← Nat.mul_assoc]
  have roomy : maxCircuitBreakerCooldown ≤ maxCircuitBreakerCooldown * 2 :=
    Nat.le_mul_of_pos_right _ Nat.two_pos
  rcases Nat.le_total (baseCircuitBreakerCooldown * 2 ^ trips) maxCircuitBreakerCooldown
    with below | above
  · rw [Nat.min_eq_left below]
  · rw [Nat.min_eq_right above, Nat.min_eq_right roomy,
      Nat.min_eq_right (roomy.trans (Nat.mul_le_mul_right 2 above))]

namespace RemembersTrips

variable {thread : ExecutorThread}

theorem wait (remembers : RemembersTrips thread) (duration : Duration)
    : RemembersTrips (thread.wait duration) where
  cooldown := remembers.cooldown
  past trip last := (remembers.past trip last).trans (Nat.le_add_right _ _)
  trips record member tripped :=
    (remembers.trips record member tripped).imp_left
      fun finished => finished.trans (Nat.le_add_right _ _)
  pauses := remembers.pauses

theorem rest (remembers : RemembersTrips thread) (rested : thread.coolingDown = false)
    : RemembersTrips { thread with lastCircuitBreakerTrip := none } where
  cooldown := remembers.cooldown
  past _ none_left := by cases none_left
  trips record member tripped := by
    refine Or.inl ?_
    rcases remembers.trips record member tripped with ended | ⟨last, same⟩
    · exact ended
    · have long : thread.circuitBreakerCooldown ≤ elapsed thread.now record.finishedAt := by
        simpa [ExecutorThread.coolingDown, last] using rested
      rw [same] at long
      have past := remembers.past _ last
      rw [Nat.add_comm]
      exact Nat.add_le_of_le_sub past long
  pauses := remembers.pauses

/-- A batch executed while no cooldown runs is remembered. -/
theorem execute (remembers : RemembersTrips thread)
    (rested : thread.lastCircuitBreakerTrip = none) (batch : ReceivedBatch F)
    : RemembersTrips (thread.execute batch) := by
  have ended : ∀ record ∈ thread.history, record.circuitBreakerTripped = true →
      record.finishedAt + record.circuitBreakerCooldown ≤ thread.now := by
    intro record member tripped
    rcases remembers.trips record member tripped with finished | ⟨last, -⟩
    · exact finished
    · rw [rested] at last
      cases last
  have later : thread.now ≤ thread.now + batch.executedFor := Nat.le_add_right _ _
  have doubled : thread.cooldownAfter (batch.setup.execute batch.plan).report
      = min (baseCircuitBreakerCooldown * 2 ^ tripsInARow (thread.execute batch).history)
        maxCircuitBreakerCooldown := by
    unfold ExecutorThread.cooldownAfter ExecutorThread.execute
    simp only [tripsInARow]
    split
    · rw [remembers.cooldown, doubled_cooldown]
    · split
      · rfl
      · exact remembers.cooldown
  refine ⟨doubled, ?_, ?_, ?_, ?_, ?_⟩
  · intro trip last
    change (if _ then some (thread.now + batch.executedFor) else none) = some trip at last
    split at last
    · exact (Option.some.inj last).ge
    · cases last
  · intro record member tripped
    rcases List.mem_cons.mp member with rfl | earlier
    · exact Or.inr ⟨if_pos tripped, rfl⟩
    · exact Or.inl ((ended record earlier tripped).trans later)
  · intro record member front outcome back split full
    rcases List.mem_cons.mp member with rfl | earlier
    · exact executed_halted batch.setup batch.plan split full
    · exact remembers.pauses.halted record earlier front outcome back split full
  · refine List.pairwise_cons.mpr ⟨?_, remembers.pauses.paused⟩
    intro record earlier tripped _
    exact ended record earlier tripped
  · intro front record earlier split tripped
    cases front with
    | nil =>
        obtain ⟨rfl, rfl⟩ := List.cons_eq_cons.mp split
        change thread.cooldownAfter (batch.setup.execute batch.plan).report = _
        rw [doubled]
        unfold ExecutorThread.execute
        simp only [tripsInARow]
        rw [if_pos tripped]
    | cons head front =>
        obtain ⟨-, rest⟩ := List.cons_eq_cons.mp split
        exact remembers.pauses.cooldowns front record earlier rest tripped

theorem turn (remembers : RemembersTrips thread) (batch : ReceivedBatch F)
    : RemembersTrips (thread.turn batch) := by
  have received := remembers.wait batch.receivedAfter
  unfold ExecutorThread.turn
  dsimp only
  split
  · exact received
  · rename_i rested
    have calm := received.rest (Bool.eq_false_iff.mpr rested)
    split
    · exact calm
    · exact calm.execute rfl batch

end RemembersTrips

/-- In every run of the executor thread, over batches of any sizes at any times and whatever
their deletes come to, persistent failure within a batch pauses deletion. Witness: the step
lemma of a turn, carried along the run.
-/
theorem executor_pausesDeletion (now : Instant) (batches : List (ReceivedBatch F))
    : PausesDeletion (Runs.final ExecutorThread.turn (.start now) batches).history := by
  have first : RemembersTrips (.start now) := {
    cooldown := by
      change baseCircuitBreakerCooldown
        = min (baseCircuitBreakerCooldown * 2 ^ 0) maxCircuitBreakerCooldown
      decide
    past := fun _ last => by cases last
    trips := fun _ member => by cases member
    pauses := {
      halted := fun _ member => by cases member
      paused := List.Pairwise.nil
      cooldowns := fun later _ _ split => by cases later <;> cases split } }
  exact (Runs.invariant_of_kept (fun thread batch remembers => remembers.turn batch) first _
    (Runs.final_mem_states _ _)).pauses

def stubbornBatch (path : String) : ReceivedBatch ℚ where
  receivedAfter := 0
  plan := ⟨[candidateAt path], 5, 1⟩
  setup := ⟨DeletionConfig.default, fun _ => emptyDirectories, none⟩
  executedFor := 0

/-- Five failures in batches of one do not keep a sixth delete from being attempted at once. -/
theorem small_batches_unpaused
    : ¬ PausesAcrossBatches 5
        (Runs.final ExecutorThread.turn (.start 0)
          (List.replicate 6 (stubbornBatch "/tmp/build-cache"))).history := by
  intro pauses
  have paused := pauses.paused [] _ _ _ rfl
  exact absurd (paused (by decide) (by decide)) (by decide)

end StorageBallast
