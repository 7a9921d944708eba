import StorageBallast.Daemon.SpecialLocationChecks

/-! Episodes at a special location. Its last announced level is kept across healthy readings,
so an episode goes unannounced if it opens at the level at which the one before it ended.
-/

namespace StorageBallast

open Episodes Runs
open scoped Float64

variable {F : Type} [Float64 F]

def NotificationEvent.announces (path : Location) : NotificationEvent F → Bool
  | .pressureChanged _ _ mount _ => mount == path.text
  | _ => false

def SpecialEffect.announces (path : Location) : SpecialEffect F → Bool
  | .notified event => event.announces path
  | .logged .. | .requested _ => false

/-- No event is ever kept back. -/
structure NotificationManager.Unthrottled (manager : NotificationManager) : Prop where
  enabled : manager.enabled = true
  minInterval : manager.minInterval = 0
  urgentMinInterval : manager.urgentMinInterval = 0

/-- Notifications are enabled, and two of one type need no time between them. -/
def unthrottledConfig : NotificationConfig := ⟨true, 0, 0⟩

theorem fromConfig_unthrottled : (NotificationManager.fromConfig unthrottledConfig).Unthrottled :=
  ⟨rfl, rfl, rfl⟩

namespace NotificationManager.Unthrottled

variable {manager : NotificationManager}

theorem intervalFor (unthrottled : manager.Unthrottled) (event : NotificationEvent F)
    : manager.intervalFor event = 0 := by
  unfold NotificationManager.intervalFor
  split
  · exact unthrottled.urgentMinInterval
  · exact unthrottled.minInterval

theorem passes (unthrottled : manager.Unthrottled) (event : NotificationEvent F) (now : Instant)
    : (manager.notify event now).2 = true := by
  refine (notify_passes_iff manager event now).mpr ⟨unthrottled.enabled, ?_⟩
  simp [throttled, unthrottled.intervalFor event]

theorem notify (unthrottled : manager.Unthrottled) (event : NotificationEvent F) (now : Instant)
    : (manager.notify event now).1.Unthrottled := by
  unfold NotificationManager.notify
  split
  · exact unthrottled
  · split
    · exact unthrottled
    · exact ⟨unthrottled.enabled, unthrottled.minInterval, unthrottled.urgentMinInterval⟩

end NotificationManager.Unthrottled

namespace SpecialLocation

variable (F) in
def finds (self : SpecialLocation) (lastScan : Option Instant) (tick : SpecialTick)
    : Option (Option PressureLevel) :=
  if self.scanDue lastScan tick.now then (tick.visit self.path).stats.map (self.reading F)
  else none

variable (F) in
/-- What the due checks of the location find, given the time of the last one. -/
def readings (self : SpecialLocation)
    : Option Instant → List SpecialTick → List (Option PressureLevel)
  | _, [] => []
  | lastScan, tick :: rest =>
      match self.finds F lastScan tick with
      | none => self.readings lastScan rest
      | some level => level :: self.readings (some tick.now) rest

end SpecialLocation

namespace SpecialChecks

def remembered (self : SpecialChecks) (path : Location) : Option PressureLevel :=
  (self.lastSpecialNotify path).map (·.1)

variable (F) in
def step (self : SpecialChecks) (tick : SpecialTick) : SpecialChecks :=
  (self.checkSpecialLocations (F := F) tick).1

variable (F) in
/-- What a tick's check of a location found, and whether it was announced: nothing, if the check
was not due or had no statistics.
-/
def look (self : SpecialChecks) (location : SpecialLocation) (tick : SpecialTick)
    : Option (Look PressureLevel) :=
  (location.finds F (self.lastSpecialScan location.path) tick).map fun level =>
    ⟨level, (self.checkSpecialLocations (F := F) tick).2.any (·.announces location.path)⟩

variable (F) in
def looks (self : SpecialChecks) (location : SpecialLocation) (ticks : List SpecialTick)
    : List (Look PressureLevel) :=
  (steps (step F) self ticks).filterMap fun taken => taken.1.look F location taken.2

end SpecialChecks

/-- Nothing about a location changes, and it is not announced. -/
structure LeavesAlone (path : Location) (before : SpecialChecks)
    (done : SpecialChecks × List (SpecialEffect F)) : Prop where
  scan : done.1.lastSpecialScan path = before.lastSpecialScan path
  notified : done.1.lastSpecialNotify path = before.lastSpecialNotify path
  silent : done.2.any (·.announces path) = false

/-- The check of a location, from the time of its last one and the level remembered: what it
finds is remembered, and announced if it is another level.
-/
structure Attends (F : Type) [Float64 F] (location : SpecialLocation) (lastScan : Option Instant)
    (remembered : Option PressureLevel) (tick : SpecialTick)
    (done : SpecialChecks × List (SpecialEffect F)) : Prop where
  scan : done.1.lastSpecialScan location.path
    = if (location.finds F lastScan tick).isSome then some tick.now else lastScan
  remembers : (done.1.lastSpecialNotify location.path).map (·.1)
    = ((location.finds F lastScan tick).getD none).orElse fun _ => remembered
  announced : done.2.any (·.announces location.path) = true
    ↔ ∃ level, location.finds F lastScan tick = some (some level) ∧ remembered ≠ some level

structure KeepsOpen (before : SpecialChecks) (done : SpecialChecks × List (SpecialEffect F))
    : Prop where
  locations : done.1.specialLocations = before.specialLocations
  unthrottled : done.1.notificationManager.Unthrottled

namespace SpecialChecks

variable {self : SpecialChecks} {location : SpecialLocation}

theorem notify_eq (unthrottled : self.notificationManager.Unthrottled)
    (event : NotificationEvent F) (now : Instant)
    : self.notify event now
        = ({ self with notificationManager := (self.notificationManager.notify event now).1 },
            [.notified event]) := by
  simp [SpecialChecks.notify, unthrottled.passes event now]

/-- An announcement is made exactly if the level is not the remembered one. -/
theorem announce_eq (unthrottled : self.notificationManager.Unthrottled)
    (location : SpecialLocation) (level : PressureLevel) (stats : FsStats)
    (now notifiedAt : Instant)
    : self.announce (F := F) location level stats now notifiedAt
        = if self.remembered location.path = some level then (self, [])
          else
            let event : NotificationEvent F :=
              .pressureChanged "Green" level.debugText location.path.text stats.freePct
            ({ self with
                notificationManager := (self.notificationManager.notify event notifiedAt).1
                lastSpecialNotify :=
                  Function.update self.lastSpecialNotify location.path (some (level, now)) },
              [.notified event]) := by
  unfold announce remembered
  rw [notify_eq unthrottled]
  cases self.lastSpecialNotify location.path with
  | none => simp
  | some last =>
      obtain ⟨previous, time⟩ := last
      by_cases same : level = previous
      · simp [same]
      · simp [same, Ne.symm same]

theorem announce_remembered (unthrottled : self.notificationManager.Unthrottled)
    (location : SpecialLocation) (level : PressureLevel) (stats : FsStats)
    (now notifiedAt : Instant)
    : (self.announce (F := F) location level stats now notifiedAt).1.remembered location.path
        = some level := by
  rw [announce_eq unthrottled]
  split
  · assumption
  · simp [remembered]

theorem announce_announces (unthrottled : self.notificationManager.Unthrottled)
    (location : SpecialLocation) (level : PressureLevel) (stats : FsStats)
    (now notifiedAt : Instant)
    : (self.announce (F := F) location level stats now notifiedAt).2.any
        (·.announces location.path) = true
      ↔ self.remembered location.path ≠ some level := by
  rw [announce_eq unthrottled]
  split
  · simpa
  · simpa [SpecialEffect.announces, NotificationEvent.announces]

theorem announce_keepsOpen (unthrottled : self.notificationManager.Unthrottled)
    (location : SpecialLocation) (level : PressureLevel) (stats : FsStats)
    (now notifiedAt : Instant)
    : KeepsOpen self (self.announce (F := F) location level stats now notifiedAt) := by
  rw [announce_eq unthrottled]
  split
  · exact ⟨rfl, unthrottled⟩
  · exact ⟨rfl, unthrottled.notify _ _⟩

theorem announce_scan (unthrottled : self.notificationManager.Unthrottled)
    (location : SpecialLocation) (level : PressureLevel) (stats : FsStats)
    (now notifiedAt : Instant)
    : (self.announce (F := F) location level stats now notifiedAt).1.lastSpecialScan
        = self.lastSpecialScan := by
  rw [announce_eq unthrottled]
  split <;> rfl

variable {path : Location}

/-- Another location is left alone: its path has another text. -/
theorem announce_leavesAlone (unthrottled : self.notificationManager.Unthrottled)
    (location : SpecialLocation) (level : PressureLevel) (stats : FsStats)
    (now notifiedAt : Instant) (apart : path ≠ location.path)
    : LeavesAlone path self
        (self.announce (F := F) location level stats now notifiedAt) := by
  have texts : location.path.text ≠ path.text := by
    intro same
    apply apart
    rw [← Location.ofNames_toPathBuf path, ← Location.ofNames_toPathBuf location.path]
    exact congrArg (fun text => Location.ofNames ⟨text⟩) same.symm
  rw [announce_eq unthrottled]
  split
  · exact ⟨rfl, rfl, rfl⟩
  · refine ⟨rfl, Function.update_of_ne apart _ _, ?_⟩
    simpa [SpecialEffect.announces, NotificationEvent.announces] using texts

theorem release_leavesAlone (unthrottled : self.notificationManager.Unthrottled)
    (visit : SpecialVisit) (stats : FsStats) (level : PressureLevel) (urgency : F)
    (path : Location)
    : LeavesAlone path self (self.release visit stats level urgency)
      ∧ KeepsOpen self (self.release visit stats level urgency) := by
  unfold release
  split
  · exact ⟨⟨rfl, rfl, rfl⟩, rfl, unthrottled⟩
  · rename_i mount _
    let response : PressureResponse F := ⟨level, urgency, 0, mount⟩
    cases released : visit.releaseBallast mount response with
    | none => exact ⟨⟨rfl, rfl, rfl⟩, rfl, unthrottled⟩
    | some event =>
        dsimp only
        rw [notify_eq unthrottled]
        refine ⟨⟨rfl, rfl, ?_⟩, rfl, unthrottled.notify _ _⟩
        unfold SpecialVisit.releaseBallast at released
        split at released
        · cases released
        · dsimp only at released
          split at released
          · obtain ⟨report, _, rfl⟩ := Option.map_eq_some_iff.mp released
            rfl
          · cases released

/-- A level that was found is announced exactly if it is not the remembered one, and remembered
in any case.
-/
theorem attend_own (unthrottled : self.notificationManager.Unthrottled)
    (tick : SpecialTick) (location : SpecialLocation) (stats : FsStats)
    : (self.attend (F := F) tick location stats).1.lastSpecialScan location.path
        = self.lastSpecialScan location.path
      ∧ (self.attend (F := F) tick location stats).1.remembered location.path
          = some (location.pressureLevel F stats)
      ∧ ((self.attend (F := F) tick location stats).2.any (·.announces location.path) = true
        ↔ self.remembered location.path ≠ some (location.pressureLevel F stats)) := by
  have announced := announce_keepsOpen (F := F) unthrottled location
    (location.pressureLevel F stats) stats tick.now (tick.visit location.path).notifiedAt
  have leaves := (release_leavesAlone announced.unthrottled (tick.visit location.path) stats
    (location.pressureLevel F stats) (location.urgency : F) location.path).1
  refine ⟨?_, ?_, ?_⟩
  · exact leaves.scan.trans (congrFun (announce_scan unthrottled _ _ _ _ _) _)
  · rw [← announce_remembered (F := F) unthrottled location (location.pressureLevel F stats)
      stats tick.now (tick.visit location.path).notifiedAt]
    exact congrArg (Option.map (·.1)) leaves.notified
  · rw [← announce_announces (F := F) unthrottled location (location.pressureLevel F stats)
      stats tick.now (tick.visit location.path).notifiedAt]
    simp only [attend, List.cons_append, List.any_cons, List.any_append, leaves.silent]
    simp [SpecialEffect.announces]

theorem attend_others (unthrottled : self.notificationManager.Unthrottled)
    (tick : SpecialTick) (location : SpecialLocation) (stats : FsStats)
    (apart : path ≠ location.path)
    : LeavesAlone path self (self.attend (F := F) tick location stats) := by
  have announced := announce_keepsOpen (F := F) unthrottled location
    (location.pressureLevel F stats) stats tick.now (tick.visit location.path).notifiedAt
  have first := announce_leavesAlone (F := F) unthrottled location
    (location.pressureLevel F stats) stats tick.now (tick.visit location.path).notifiedAt apart
  have leaves := (release_leavesAlone announced.unthrottled (tick.visit location.path) stats
    (location.pressureLevel F stats) (location.urgency : F) path).1
  refine ⟨leaves.scan.trans first.scan, leaves.notified.trans first.notified, ?_⟩
  simp only [attend, List.cons_append, List.any_cons, List.any_append, leaves.silent,
    first.silent]
  simp [SpecialEffect.announces]

theorem attend_keepsOpen (unthrottled : self.notificationManager.Unthrottled)
    (tick : SpecialTick) (location : SpecialLocation) (stats : FsStats)
    : KeepsOpen self (self.attend (F := F) tick location stats) := by
  have announced := announce_keepsOpen (F := F) unthrottled location
    (location.pressureLevel F stats) stats tick.now (tick.visit location.path).notifiedAt
  have released := (release_leavesAlone announced.unthrottled (tick.visit location.path) stats
    (location.pressureLevel F stats) (location.urgency : F) location.path).2
  exact ⟨released.locations.trans announced.locations, released.unthrottled⟩

theorem checkLocation_others (unthrottled : self.notificationManager.Unthrottled)
    (tick : SpecialTick) (location : SpecialLocation) (apart : path ≠ location.path)
    : LeavesAlone path self (self.checkLocation (F := F) tick location) := by
  unfold checkLocation
  split
  · exact ⟨rfl, rfl, rfl⟩
  · split
    · exact ⟨rfl, rfl, rfl⟩
    · rename_i stats _
      have scan : Function.update self.lastSpecialScan location.path (some tick.now) path
          = self.lastSpecialScan path := Function.update_of_ne apart _ _
      dsimp only
      split
      · have open_ : ({ self with
            lastSpecialScan :=
              Function.update self.lastSpecialScan location.path (some tick.now) }
              : SpecialChecks).notificationManager.Unthrottled := unthrottled
        have others := attend_others (F := F) open_ tick location stats apart
        exact ⟨others.scan.trans scan, others.notified, others.silent⟩
      · exact ⟨scan, rfl, rfl⟩

theorem checkLocation_keepsOpen (unthrottled : self.notificationManager.Unthrottled)
    (tick : SpecialTick) (location : SpecialLocation)
    : KeepsOpen self (self.checkLocation (F := F) tick location) := by
  unfold checkLocation
  split
  · exact ⟨rfl, unthrottled⟩
  · split
    · exact ⟨rfl, unthrottled⟩
    · dsimp only
      split
      · have open_ : ({ self with
            lastSpecialScan :=
              Function.update self.lastSpecialScan location.path (some tick.now) }
              : SpecialChecks).notificationManager.Unthrottled := unthrottled
        have attended := attend_keepsOpen (F := F) open_ tick location
        exact ⟨(attended _).locations, (attended _).unthrottled⟩
      · exact ⟨rfl, unthrottled⟩

theorem checkLocations_keepsOpen (unthrottled : self.notificationManager.Unthrottled)
    (tick : SpecialTick) (locations : List SpecialLocation)
    : KeepsOpen self (self.checkLocations (F := F) tick locations) := by
  induction locations generalizing self with
  | nil => exact ⟨rfl, unthrottled⟩
  | cons location rest ih =>
      have first := checkLocation_keepsOpen (F := F) unthrottled tick location
      have others := ih first.unthrottled
      exact ⟨others.locations.trans first.locations, others.unthrottled⟩

variable {locations : List SpecialLocation}

/-- Locations at other paths leave this one alone, by induction on them. -/
theorem checkLocations_others (unthrottled : self.notificationManager.Unthrottled)
    (tick : SpecialTick) (apart : path ∉ locations.map (·.path))
    : LeavesAlone path self (self.checkLocations (F := F) tick locations) := by
  induction locations generalizing self with
  | nil => exact ⟨rfl, rfl, rfl⟩
  | cons location rest ih =>
      rw [List.map_cons, List.mem_cons, not_or] at apart
      have first := checkLocation_others (F := F) unthrottled tick location apart.1
      have kept := checkLocation_keepsOpen (F := F) unthrottled tick location
      have others := ih kept.unthrottled apart.2
      refine ⟨others.scan.trans first.scan, others.notified.trans first.notified, ?_⟩
      simp [checkLocations, first.silent, others.silent]

theorem checkLocation_own (unthrottled : self.notificationManager.Unthrottled)
    (tick : SpecialTick) (location : SpecialLocation)
    : Attends F location (self.lastSpecialScan location.path) (self.remembered location.path)
        tick (self.checkLocation (F := F) tick location) := by
  unfold checkLocation
  cases due : location.scanDue (self.lastSpecialScan location.path) tick.now with
  | false =>
      have nothing : location.finds F (self.lastSpecialScan location.path) tick = none := by
        simp [SpecialLocation.finds, due]
      constructor <;> simp [nothing, remembered]
  | true =>
      cases read : (tick.visit location.path).stats with
      | none =>
          have nothing : location.finds F (self.lastSpecialScan location.path) tick = none := by
            simp [SpecialLocation.finds, due, read]
          constructor <;> simp [nothing, remembered]
      | some stats =>
          have found : location.finds F (self.lastSpecialScan location.path) tick
              = some (location.reading F stats) := by
            simp [SpecialLocation.finds, due, read]
          cases low : location.needsAttention F stats with
          | false =>
              have healthy : location.reading F stats = none := by
                simp [SpecialLocation.reading, low]
              constructor <;> simp [found, healthy, remembered, low]
          | true =>
              have level : location.reading F stats = some (location.pressureLevel F stats) := by
                simp [SpecialLocation.reading, low]
              have open_ : ({ self with
                  lastSpecialScan :=
                    Function.update self.lastSpecialScan location.path (some tick.now) }
                    : SpecialChecks).notificationManager.Unthrottled := unthrottled
              have attended := attend_own (F := F) open_ tick location stats
              simp only [Bool.not_true, Bool.false_eq_true, if_false, low, if_true]
              refine ⟨?_, ?_, ?_⟩
              · simp [found, attended.1]
              · rw [found, level]
                exact attended.2.1
              · rw [attended.2.2, found, level]
                simp [remembered]

/-- In the loop a location's check is the same, by induction on the locations: the visits before
and after it leave the location alone.
-/
theorem checkLocations_own (unthrottled : self.notificationManager.Unthrottled)
    (tick : SpecialTick) {location : SpecialLocation}
    (member : location ∈ locations) (distinct : (locations.map (·.path)).Nodup)
    : Attends F location (self.lastSpecialScan location.path) (self.remembered location.path)
        tick (self.checkLocations (F := F) tick locations) := by
  induction locations generalizing self with
  | nil => cases member
  | cons first rest ih =>
      obtain ⟨apart, distinctRest⟩ := List.nodup_cons.mp distinct
      have kept := checkLocation_keepsOpen (F := F) unthrottled tick first
      rcases List.mem_cons.mp member with rfl | later
      · have own := checkLocation_own (F := F) unthrottled tick location
        have others := checkLocations_others (F := F) kept.unthrottled tick apart
        refine ⟨others.scan.trans own.scan, ?_, ?_⟩
        · exact (congrArg (Option.map (·.1)) others.notified).trans own.remembers
        · rw [← own.announced]
          simp [checkLocations, others.silent]
      · have other : location.path ≠ first.path := by
          intro same
          exact apart (List.mem_map.mpr ⟨location, later, same⟩)
        have alone := checkLocation_others (F := F) unthrottled tick first other
        have own := ih kept.unthrottled later distinctRest
        unfold remembered at own
        rw [alone.scan, alone.notified] at own
        refine ⟨own.scan, own.remembers, Iff.trans ?_ own.announced⟩
        simp [checkLocations, alone.silent]

/-- What ties the daemon to the looks at a location so far: the last level found is remembered,
and announcements went by it.
-/
structure Follows (specialLocations : SpecialLocationRegistry) (location : SpecialLocation)
    (looks : List (Look PressureLevel)) (now : SpecialChecks) : Prop where
  registry : now.specialLocations = specialLocations
  unthrottled : now.notificationManager.Unthrottled
  remembers : now.remembered location.path = lastRaised (looks.map (·.level))
  byLast : ByLastRaised looks

theorem registry_distinct (locations : List SpecialLocation)
    : ((SpecialLocationRegistry.new locations).locations.map (·.path)).Nodup := by
  have same := (Sorting.sortBy_perm (fun left right : SpecialLocation =>
      (compare right.priority left.priority).then (Location.order left.path right.path))
    (SpecialLocationRegistry.dedupe locations)).map (·.path)
  exact same.nodup_iff.mpr (SpecialLocationRegistry.dedupe_nodup locations)

theorem Follows.step {looks : List (Look PressureLevel)}
    (follows : Follows (.new locations) location looks self)
    (member : location ∈ (SpecialLocationRegistry.new locations).locations) (tick : SpecialTick)
    : Follows (.new locations) location (looks ++ (self.look F location tick).toList)
        (self.step F tick) := by
  have listed : location ∈ self.specialLocations.locations := follows.registry ▸ member
  have distinct : (self.specialLocations.locations.map (·.path)).Nodup :=
    follows.registry ▸ registry_distinct locations
  have kept := checkLocations_keepsOpen (F := F) follows.unthrottled tick
    self.specialLocations.locations
  have own := checkLocations_own (F := F) follows.unthrottled tick listed distinct
  have remembers : (self.step F tick).remembered location.path = _ := own.remembers
  have announced : (self.checkSpecialLocations (F := F) tick).2.any _ = true ↔ _ :=
    own.announced
  refine ⟨kept.locations.trans follows.registry, kept.unthrottled, ?_, ?_⟩
  · rw [remembers]
    cases found : location.finds F (self.lastSpecialScan location.path) tick with
    | none => simp [look, found, follows.remembers]
    | some level => simp [look, found, follows.remembers]
  · cases found : location.finds F (self.lastSpecialScan location.path) tick with
    | none => simpa [look, found] using follows.byLast
    | some level =>
        have looked : (self.look F location tick).toList
            = [⟨level, (self.checkSpecialLocations (F := F) tick).2.any
                (·.announces location.path)⟩] := by
          simp [look, found]
        rw [looked]
        refine follows.byLast.concat ?_
        rintro raised rfl
        rw [announced, found, follows.remembers]
        simp

theorem start_follows (specialLocations : SpecialLocationRegistry)
    (location : SpecialLocation)
    : Follows specialLocations location [] (.start specialLocations unthrottledConfig) :=
  ⟨rfl, fromConfig_unthrottled, rfl, by
    intro past level announced later split
    simp at split⟩

theorem looks_concat (self : SpecialChecks) (location : SpecialLocation)
    (past : List SpecialTick) (tick : SpecialTick)
    : self.looks F location (past ++ [tick])
        = self.looks F location past
          ++ ((final (step F) self past).look F location tick).toList := by
  unfold looks
  rw [steps_concat, List.filterMap_append, List.filterMap_cons, List.filterMap_nil]
  cases (final (step F) self past).look F location tick <;> rfl

/-- After every run the daemon is tied to what was looked at. -/
theorem run_follows (member : location ∈ (SpecialLocationRegistry.new locations).locations)
    (ticks : List SpecialTick)
    : let start := SpecialChecks.start (.new locations) unthrottledConfig
      Follows (.new locations) location (start.looks F location ticks)
        (final (step F) start ticks) := by
  intro start
  let tied (past : List SpecialTick) (now : SpecialChecks) : Prop :=
    Follows (.new locations) location (start.looks F location past) now
  have kept (past : List SpecialTick) (tick : SpecialTick)
      (follows : tied past (final (step F) start past))
      : tied (past ++ [tick]) (step F (final (step F) start past) tick) := by
    change Follows _ _ (start.looks F location (past ++ [tick])) _
    rw [looks_concat]
    exact follows.step member tick
  have first : tied [] start := start_follows _ location
  exact history_invariant first kept ticks

/-- The levels that were looked at are those that the readings of the ticks show, by induction on
the ticks.
-/
theorem looks_levels {looks : List (Look PressureLevel)}
    (follows : Follows (.new locations) location looks self)
    (member : location ∈ (SpecialLocationRegistry.new locations).locations)
    (ticks : List SpecialTick)
    : (self.looks F location ticks).map (·.level)
        = location.readings F (self.lastSpecialScan location.path) ticks := by
  induction ticks generalizing self looks with
  | nil => rfl
  | cons tick rest ih =>
      have listed : location ∈ self.specialLocations.locations := follows.registry ▸ member
      have distinct : (self.specialLocations.locations.map (·.path)).Nodup :=
        follows.registry ▸ registry_distinct locations
      have own := checkLocations_own (F := F) follows.unthrottled tick listed distinct
      have scan : (self.step F tick).lastSpecialScan location.path = _ := own.scan
      have later := ih (follows.step (F := F) member tick)
      rw [scan] at later
      unfold SpecialLocation.readings
      cases found : location.finds F (self.lastSpecialScan location.path) tick with
      | none =>
          rw [found] at later
          simpa [SpecialChecks.looks, steps, look, found] using later
      | some level =>
          rw [found] at later
          simpa [SpecialChecks.looks, steps, look, found] using later

end SpecialChecks

open SpecialChecks in
/-- At every location of a registry, in every run with open channels, episodes are announced as
they should be exactly if each opens at another level than the one before it ended at.
-/
theorem special_episodes_announced_iff (locations : List SpecialLocation)
    {location : SpecialLocation}
    (member : location ∈ (SpecialLocationRegistry.new locations).locations)
    (ticks : List SpecialTick)
    : AnnouncesChanges
          ((SpecialChecks.start (.new locations) unthrottledConfig).looks F location ticks)
        ↔ OpensElsewhere (location.readings F none ticks) := by
  rw [announcesChanges_iff (run_follows (F := F) member ticks).byLast,
    looks_levels (start_follows _ location) member ticks]
  rfl

def sharedMemory : SpecialLocation :=
  ⟨SpecialLocationRegistry.devShm, .devShm, 20, .fromSecs 3, 255⟩

/-- So many of a thousand bytes are free everywhere. -/
def specialTick (seconds availableBytes : Nat) : SpecialTick where
  now := Duration.fromSecs seconds
  visit _ := {
    stats := some ⟨1000, availableBytes, SpecialLocationRegistry.devShm⟩
    notifiedAt := Duration.fromSecs seconds
    releasedAt := Duration.fromSecs seconds
    pools := fun _ => none
    inventory := []
    releaseForMount := fun _ _ => none
  }
  rootPaths := []
  canonicalize := some

/-- The second episode opens at another level than the first, and is announced. -/
theorem second_episode_announced
    : AnnouncesChanges
        ((SpecialChecks.start (.new [sharedMemory]) unthrottledConfig).looks ℚ sharedMemory
          [specialTick 0 40, specialTick 5 500, specialTick 10 80]) := by
  refine (special_episodes_announced_iff (F := ℚ) [sharedMemory] (by decide +kernel) _).mpr ?_
  have readings : sharedMemory.readings ℚ none
      [specialTick 0 40, specialTick 5 500, specialTick 10 80]
      = [some .red, none, some .orange] := by decide +kernel
  rw [readings]
  intro past level later split calm
  match past with
  | [] => simp [lastRaised]
  | [first] => simp_all
  | [first, second] =>
      obtain ⟨rfl, rfl, rfl, rfl⟩
          : some .red = first ∧ none = second ∧ .orange = level ∧ [] = later := by
        simpa using split
      decide
  | first :: second :: third :: rest => simp at split

/-- A location full to the same level again after a recovery: the second episode is not announced
at all.
-/
theorem second_episode_unannounced
    : ∃ location ticks,
        location ∈ (SpecialLocationRegistry.new [location]).locations
        ∧ ¬ AnnouncesChanges
          ((SpecialChecks.start (.new [location]) unthrottledConfig).looks ℚ location ticks) := by
  refine ⟨sharedMemory, [specialTick 0 40, specialTick 5 500, specialTick 10 40],
    by decide +kernel, ?_⟩
  have looked : (SpecialChecks.start (.new [sharedMemory]) unthrottledConfig).looks ℚ
      sharedMemory [specialTick 0 40, specialTick 5 500, specialTick 10 40]
      = [⟨some .red, true⟩, ⟨none, false⟩, ⟨some .red, false⟩] := by decide +kernel
  rw [looked]
  intro law
  exact Bool.false_ne_true
    (law.opening [⟨some .red, true⟩, ⟨none, false⟩] .red false [] rfl rfl)

end StorageBallast
