import Mathlib.Data.List.Nodup
import StorageBallast.Daemon.ScanQueue

/-! What becomes of forced scans in the channel. Requests leave in the order in which they were
accepted, each once; a forced one is lost to a routine one exactly when that one makes room
while the forced one is the oldest.
-/

namespace StorageBallast

def ProducerPhase.held : ProducerPhase → Option QueuedRequest
  | idle => none
  | popping request | resending request | waiting request => some request

def PopFate.Spares (fate : PopFate) (request : QueuedRequest) : Prop :=
  request.request.forceFullScan → ∀ other, fate = .replacedFor other →
    other.request.forceFullScan

namespace ScanQueue

variable {capacity : Nat}

/-- The channel keeps its bound and holds no request twice, each accepted request comes to its
head when those before it have left, and no forced request left it for one that is not
forced.
-/
structure KeepsForced (scan : ScanQueue capacity) : Prop where
  bounded : scan.channel.queue.length ≤ capacity
  distinct : (scan.channel.queue.map (·.id)).Nodup
  reached : ∀ index request, scan.accepted[index]? = some request →
    index ≤ scan.popped.length →
      scan.channel.queue.head? = some request ∨ request ∈ scan.popped.map Prod.fst
  spared : ∀ request fate, (request, fate) ∈ scan.popped → fate.Spares request

def MakesRoomFairly (self : ScanQueue capacity) : QueueStep → Prop
  | .makeRoom producer =>
      ∀ request, self.producers producer = .popping request →
        ∀ oldest ∈ self.channel.queue.head?, oldest.request.forceFullScan →
          request.request.forceFullScan
  | _ => True

/-- Every request is told apart from all others, and requests leave in order. -/
structure Orderly (scan : ScanQueue capacity) : Prop where
  ordered : scan.accepted = scan.popped.map Prod.fst ++ scan.channel.queue
  distinct : (scan.accepted.map (·.id)).Nodup
  known : ∀ request ∈ scan.accepted, request.id < scan.nextId
  held : ∀ producer request, (scan.producers producer).held = some request →
    request.id < scan.nextId ∧ ∀ other ∈ scan.accepted, other.id ≠ request.id
  apart : ∀ producer other request held, (scan.producers producer).held = some request →
    (scan.producers other).held = some held → producer ≠ other → held.id ≠ request.id

variable {self : ScanQueue capacity}

theorem isFull_iff : self.isFull = false ↔ self.channel.queue.length < capacity := by
  simp [isFull]

theorem pop_queue (self : ScanQueue capacity) (fate : PopFate)
    : (self.pop fate).channel.queue = self.channel.queue.tail := by
  unfold pop
  cases received : self.channel.tryRecv with
  | none => simp [Channel.queue_tryRecv_none received]
  | some pair => simp [Channel.queue_tryRecv received]

theorem pop_popped (self : ScanQueue capacity) (fate : PopFate)
    : (self.pop fate).popped
        = self.popped ++ (self.channel.queue.head?.map (·, fate)).toList := by
  unfold pop
  cases received : self.channel.tryRecv with
  | none => simp [Channel.queue_tryRecv_none received]
  | some pair => simp [Channel.queue_tryRecv received]

theorem pop_frame (self : ScanQueue capacity) (fate : PopFate)
    : (self.pop fate).producers = self.producers ∧ (self.pop fate).nextId = self.nextId
      ∧ (self.pop fate).accepted = self.accepted := by
  unfold pop
  split <;> exact ⟨rfl, rfl, rfl⟩

theorem accept_queue {request : QueuedRequest} (room : self.channel.queue.length < capacity)
    : (self.accept request).channel.queue = self.channel.queue ++ [request] :=
  (Channel.queue_trySend request).trans (if_pos room)

namespace Orderly

theorem called (orderly : self.Orderly) : self.called.Orderly where
  ordered := orderly.ordered
  distinct := orderly.distinct
  known request member := Nat.lt_succ_of_lt (orderly.known request member)
  held producer request holds :=
    ⟨Nat.lt_succ_of_lt (orderly.held producer request holds).1,
      (orderly.held producer request holds).2⟩
  apart := orderly.apart

/-- The oldest request moves from the channel to those that left it. -/
theorem pop (orderly : self.Orderly) (fate : PopFate) : (self.pop fate).Orderly := by
  obtain ⟨producers, nextId, accepted⟩ := self.pop_frame fate
  constructor
  · rw [accepted, pop_popped, pop_queue, orderly.ordered]
    cases self.channel.queue <;> simp
  · rw [accepted]
    exact orderly.distinct
  · rw [accepted, nextId]
    exact orderly.known
  · rw [accepted, nextId, producers]
    exact orderly.held
  · rw [producers]
    exact orderly.apart

/-- A producer may drop the request it holds, or go on with it. -/
theorem setPhase (orderly : self.Orderly) {producer : Nat} {phase : ProducerPhase}
    (same : ∀ request, phase.held = some request →
      (self.producers producer).held = some request)
    : (self.setPhase producer phase).Orderly := by
  have holds : ∀ other request,
      ((self.setPhase producer phase).producers other).held = some request →
        (self.producers other).held = some request := by
    intro other request held
    by_cases here : other = producer
    · subst here
      exact same request (by simpa [ScanQueue.setPhase] using held)
    · simpa [ScanQueue.setPhase, here] using held
  exact {
    ordered := orderly.ordered
    distinct := orderly.distinct
    known := orderly.known
    held := fun other request held => orderly.held other request (holds other request held)
    apart := fun one other request held first second =>
      orderly.apart one other request held (holds one request first) (holds other held second) }

theorem hold (orderly : self.Orderly) {producer : Nat} {phase : ProducerPhase}
    {request : QueuedRequest} (holds : phase.held = some request)
    (known : request.id < self.nextId)
    (unsent : ∀ other ∈ self.accepted, other.id ≠ request.id)
    (unheld : ∀ other held, (self.producers other).held = some held → held.id ≠ request.id)
    : (self.setPhase producer phase).Orderly := by
  have cases_of : ∀ other held,
      ((self.setPhase producer phase).producers other).held = some held →
        (other = producer ∧ held = request) ∨
          (other ≠ producer ∧ (self.producers other).held = some held) := by
    intro other held found
    by_cases here : other = producer
    · subst here
      have phased : phase.held = some held := by simpa [ScanQueue.setPhase] using found
      rw [holds] at phased
      exact Or.inl ⟨rfl, (Option.some.inj phased).symm⟩
    · exact Or.inr ⟨here, by simpa [ScanQueue.setPhase, here] using found⟩
  refine ⟨orderly.ordered, orderly.distinct, orderly.known, ?_, ?_⟩
  · intro other held found
    rcases cases_of other held found with ⟨-, rfl⟩ | ⟨-, before⟩
    · exact ⟨known, unsent⟩
    · exact orderly.held other held before
  · intro one other first second foundFirst foundSecond different
    rcases cases_of one first foundFirst with ⟨rfl, rfl⟩ | ⟨-, beforeFirst⟩ <;>
      rcases cases_of other second foundSecond with ⟨rfl, rfl⟩ | ⟨-, beforeSecond⟩
    · exact absurd rfl different
    · exact unheld other second beforeSecond
    · exact (unheld one first beforeFirst).symm
    · exact orderly.apart one other first second beforeFirst beforeSecond different

theorem accept (orderly : self.Orderly) {request : QueuedRequest}
    (room : self.channel.queue.length < capacity) (known : request.id < self.nextId)
    (unsent : ∀ other ∈ self.accepted, other.id ≠ request.id)
    (unheld : ∀ other held, (self.producers other).held = some held → held.id ≠ request.id)
    : (self.accept request).Orderly where
  ordered := by
    rw [accept_queue room]
    change self.accepted ++ [request] = self.popped.map Prod.fst ++ _
    rw [orderly.ordered, List.append_assoc]
  distinct := by
    change ((self.accepted ++ [request]).map (·.id)).Nodup
    rw [List.map_append, List.nodup_append]
    refine ⟨orderly.distinct, List.nodup_singleton _, ?_⟩
    intro id member other last
    obtain ⟨earlier, listed, rfl⟩ := List.mem_map.mp member
    rw [List.mem_singleton.mp last]
    exact unsent earlier listed
  known other member := by
    rcases List.mem_append.mp member with earlier | last
    · exact orderly.known other earlier
    · rw [List.mem_singleton.mp last]
      exact known
  held producer held holds := by
    refine ⟨(orderly.held producer held holds).1, fun other member => ?_⟩
    rcases List.mem_append.mp member with earlier | last
    · exact (orderly.held producer held holds).2 other earlier
    · rw [List.mem_singleton.mp last]
      exact (unheld producer held holds).symm
  apart := orderly.apart

/-- The request of a new call is held by nobody and was never sent. -/
theorem fresh_unheld (orderly : self.Orderly) (request : RootScanRequest)
    : (∀ other ∈ self.accepted, other.id ≠ (self.fresh request).id)
      ∧ ∀ other held, (self.producers other).held = some held →
          held.id ≠ (self.fresh request).id :=
  ⟨fun other member => Nat.ne_of_lt (orderly.known other member),
    fun other held holds => Nat.ne_of_lt (orderly.held other held holds).1⟩

/-- A producer that held a request sends it and is done. -/
theorem sendHeld (orderly : self.Orderly) {producer : Nat} {request : QueuedRequest}
    (holds : (self.producers producer).held = some request)
    (room : self.channel.queue.length < capacity)
    : ((self.accept request).setPhase producer .idle).Orderly := by
  have dropped : (self.setPhase producer .idle).Orderly :=
    orderly.setPhase fun _ none_held => by cases none_held
  refine @Orderly.accept _ _ dropped request room (orderly.held producer request holds).1
    (orderly.held producer request holds).2 fun other held found => ?_
  by_cases here : other = producer
  · subst here
    simp [ScanQueue.setPhase, ProducerPhase.held] at found
  · have before : (self.producers other).held = some held := by
      simpa [ScanQueue.setPhase, here] using found
    exact orderly.apart producer other request held holds before (Ne.symm here)

theorem step (orderly : self.Orderly) (step : QueueStep) : (self.step step).Orderly := by
  have idle (producer : Nat) : (self.setPhase producer .idle).Orderly :=
    orderly.setPhase fun _ none_held => by cases none_held
  cases step with
  | enqueue producer request replaceOnFull =>
      obtain ⟨unsent, unheld⟩ := orderly.fresh_unheld request
      simp only [ScanQueue.step]
      split
      · split
        · rename_i room
          have roomy := isFull_iff.mp (by simpa using room)
          exact orderly.called.accept roomy (Nat.lt_succ_self _) unsent unheld
        · split
          · exact orderly.called
          · exact orderly.called.hold rfl (Nat.lt_succ_self _) unsent unheld
      · exact orderly
  | makeRoom producer =>
      simp only [ScanQueue.step]
      split
      · rename_i request phase
        split
        · exact idle producer
        · refine (orderly.pop _).setPhase fun held holds => ?_
          rw [(self.pop_frame _).1, phase]
          exact holds
      · exact orderly
  | enqueueAgain producer =>
      simp only [ScanQueue.step]
      split
      · rename_i request phase
        split
        · rename_i room
          exact orderly.sendHeld (by rw [phase]; rfl) (isFull_iff.mp (by simpa using room))
        · exact idle producer
      · exact orderly
  | triggerForcedScan producer request =>
      obtain ⟨unsent, unheld⟩ := orderly.fresh_unheld { request with forceFullScan := true }
      simp only [ScanQueue.step]
      split
      · exact orderly.called.hold rfl (Nat.lt_succ_self _) unsent unheld
      · exact orderly
  | sendDelivered producer =>
      simp only [ScanQueue.step]
      split
      · rename_i request phase
        split
        · rename_i room
          exact orderly.sendHeld (by rw [phase]; rfl) (isFull_iff.mp (by simpa using room))
        · exact orderly
      · exact orderly
  | sendTimedOut producer =>
      simp only [ScanQueue.step]
      split
      · exact idle producer
      · exact orderly
  | receive => exact orderly.pop .received

end Orderly

/-- In order, a request whose predecessors have left is the oldest one or has left itself. -/
theorem Orderly.keepsForced (orderly : self.Orderly)
    (spared : ∀ request fate, (request, fate) ∈ self.popped → fate.Spares request)
    : self.KeepsForced where
  bounded := self.channel.bounded
  distinct := by
    have distinct := orderly.distinct
    rw [orderly.ordered, List.map_append] at distinct
    exact (List.nodup_append.mp distinct).2.1
  reached index request found before := by
    rw [orderly.ordered] at found
    rcases Nat.lt_or_ge index self.popped.length with out | last
    · rw [List.getElem?_append_left (by simpa using out)] at found
      exact Or.inr (List.mem_of_getElem? found)
    · have here : index = (self.popped.map Prod.fst).length := by
        rw [List.length_map]
        exact Nat.le_antisymm before last
      rw [here, List.getElem?_append_right (Nat.le_refl _), Nat.sub_self] at found
      exact Or.inl (by rw [List.head?_eq_getElem?]; exact found)
  spared := spared

def Spared (self : ScanQueue capacity) : Prop :=
  ∀ request fate, (request, fate) ∈ self.popped → fate.Spares request

theorem spared_pop_iff (spared : self.Spared) (fate : PopFate)
    : (self.pop fate).Spared ↔ ∀ oldest ∈ self.channel.queue.head?, fate.Spares oldest := by
  unfold Spared
  simp only [pop_popped]
  constructor
  · intro after oldest head
    refine after oldest fate (List.mem_append_right _ ?_)
    simp [Option.mem_def.mp head]
  · intro spares request other member
    rcases List.mem_append.mp member with earlier | last
    · exact spared request other earlier
    · obtain ⟨oldest, head, same⟩ := Option.map_eq_some_iff.mp (Option.mem_toList.mp last)
      obtain ⟨rfl, rfl⟩ := Prod.mk.inj same
      exact spares oldest head

/-- One step spares the forced requests exactly if it makes room fairly. -/
theorem spared_step_iff (spared : self.Spared) (step : QueueStep)
    : (self.step step).Spared ↔ self.MakesRoomFairly step := by
  have unchanged (same : (self.step step).popped = self.popped) : (self.step step).Spared := by
    unfold Spared
    rw [same]
    exact spared
  cases step with
  | makeRoom producer =>
      simp only [MakesRoomFairly, ScanQueue.step]
      split
      · rename_i request phase
        simp only [phase, ProducerPhase.popping.injEq, forall_eq']
        split
        · rename_i empty
          have none_left : self.channel.queue = [] := List.isEmpty_iff.mp empty
          simp only [none_left, List.head?_nil, Option.not_mem_none, false_imp_iff,
            implies_true, iff_true]
          exact spared
        · change (self.pop (.replacedFor request)).Spared ↔ _
          rw [spared_pop_iff spared]
          refine forall₂_congr fun oldest _ => imp_congr_right fun _ => ?_
          simp
      · rename_i other
        constructor
        · intro _ request popping
          exact absurd popping (other request)
        · intro _
          exact spared
  | receive =>
      refine iff_of_true ((spared_pop_iff spared _).mpr fun oldest _ _ other same => ?_) trivial
      cases same
  | enqueue producer request replaceOnFull =>
      refine iff_of_true (unchanged ?_) trivial
      simp only [ScanQueue.step]
      split
      · split
        · rfl
        · split <;> rfl
      · rfl
  | enqueueAgain producer | sendDelivered producer =>
      refine iff_of_true (unchanged ?_) trivial
      simp only [ScanQueue.step]
      split
      · split <;> rfl
      · rfl
  | triggerForcedScan producer request =>
      refine iff_of_true (unchanged ?_) trivial
      simp only [ScanQueue.step]
      split <;> rfl
  | sendTimedOut producer =>
      refine iff_of_true (unchanged ?_) trivial
      simp only [ScanQueue.step]
      split <;> rfl

theorem orderly_start : (start : ScanQueue capacity).Orderly where
  ordered := rfl
  distinct := List.nodup_nil
  known _ member := by cases member
  held _ _ holds := by cases holds
  apart _ _ _ _ holds _ _ := by cases holds

end ScanQueue

/-- In every interleaving of producers and scanner, the channel keeps the forced requests in
all states exactly if room is made fairly in all steps. Witness: one step keeps the order,
and spares the forced requests exactly then.
-/
theorem keepsForced_iff {capacity : Nat} (steps : List QueueStep)
    : (∀ scan ∈ Runs.states ScanQueue.step (ScanQueue.start : ScanQueue capacity) steps,
        scan.KeepsForced)
      ↔ Runs.Guarded ScanQueue.step ScanQueue.MakesRoomFairly
          (ScanQueue.start : ScanQueue capacity) steps := by
  have orderly : ∀ scan ∈ Runs.states ScanQueue.step (ScanQueue.start : ScanQueue capacity)
      steps, scan.Orderly :=
    Runs.invariant_of_kept (fun scan step orderly => orderly.step step) ScanQueue.orderly_start
  have sharp : ∀ (scan : ScanQueue capacity) (step : QueueStep), scan.Spared →
      ((scan.step step).Spared ↔ scan.MakesRoomFairly step) :=
    fun scan step spared => ScanQueue.spared_step_iff spared step
  have first : (ScanQueue.start : ScanQueue capacity).Spared :=
    fun _ _ member => by cases member
  rw [← Runs.invariant_iff_guarded sharp first]
  refine forall₂_congr fun scan member => ?_
  exact ⟨fun keeps => keeps.spared, (orderly scan member).keepsForced⟩

/-- A forced scan that waits in a full channel makes room for a routine one. -/
theorem forced_scan_displaced
    : ¬ ∀ scan ∈ Runs.states ScanQueue.step (ScanQueue.start : ScanQueue 1)
        [.triggerForcedScan 0 ⟨[], .green, 0, true⟩, .sendDelivered 0,
          .enqueue 1 ⟨[], .red, 0, false⟩ true, .makeRoom 1, .enqueueAgain 1],
        scan.KeepsForced := by
  intro keeps
  have spared := (keeps _ (Runs.final_mem_states _ _)).spared
    ⟨0, ⟨[], .green, 0, true⟩⟩ (.replacedFor ⟨1, ⟨[], .red, 0, false⟩⟩) (by decide)
  exact absurd (spared rfl _ rfl) (by decide)

def ScanQueue.leftAs {capacity : Nat} (self : ScanQueue capacity) (received : Bool)
    : List QueuedRequest :=
  (self.popped.filter fun pair => decide (pair.2 = .received) = received).map Prod.fst

/-- What the scanner has received or will receive is what was accepted and made no room, each
request once and in order.
-/
theorem received_in_order {capacity : Nat} (steps : List QueueStep)
    : let scan := Runs.final ScanQueue.step (ScanQueue.start : ScanQueue capacity) steps
      (scan.accepted.map (·.id)).Nodup
        ∧ scan.leftAs true ++ scan.channel.queue
          = scan.accepted.filter (· ∉ scan.leftAs false) := by
  obtain ⟨ordered, distinct, -⟩ :=
    Runs.invariant_of_kept (fun scan step orderly => orderly.step step) ScanQueue.orderly_start
      _ (Runs.final_mem_states (ScanQueue.start : ScanQueue capacity) steps)
  generalize Runs.final ScanQueue.step ScanQueue.start steps = scan at ordered distinct ⊢
  refine ⟨distinct, ?_⟩
  -- Distinct requests leave the queue once, so each has one fate.
  have once := ordered ▸ distinct.of_map
  obtain ⟨left, -, apart⟩ := List.nodup_append.mp once
  rw [ordered, List.filter_append, List.filter_map]
  refine congrArg₂ _ (congrArg _ (List.filter_congr fun pair member => ?_))
    (List.filter_eq_self.mpr fun request waiting => ?_).symm
  · have single (other) (there : other ∈ scan.popped) (same : other.1 = pair.1) : other = pair :=
      List.inj_on_of_nodup_map left there member same
    have displaced : pair.1 ∈ scan.leftAs false ↔ pair.2 ≠ .received := by
      simp only [ScanQueue.leftAs, List.mem_map, List.mem_filter, decide_eq_true_eq,
        decide_eq_false_iff_not]
      exact ⟨fun ⟨other, ⟨there, fate⟩, same⟩ => single other there same ▸ fate,
        fun fate => ⟨pair, ⟨member, fate⟩, rfl⟩⟩
    simp [displaced]
  · refine decide_eq_true fun displaced => ?_
    obtain ⟨pair, there, same⟩ := List.mem_map.mp displaced
    have popped := List.mem_map_of_mem (f := Prod.fst) (List.mem_filter.mp there).1
    exact apart _ popped request waiting same

end StorageBallast
