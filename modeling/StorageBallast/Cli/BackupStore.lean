import StorageBallast.Cli.SelfUpdate
import StorageBallast.Foundations.Clock
import StorageBallast.Foundations.JsonValues
import StorageBallast.Foundations.Sorting

/-! Backups of the installed binary. A backup is a directory that is called by the second it was
made in, with the binary and a note of the same second. The list of the backups, newest first,
decides what is pruned and what a rollback restores.
-/

namespace StorageBallast

variable {F : Type}

/-- What the backup directory has under a name: a plain file, or a directory with its `sbh` and
with what its `backup.json` says where that can be read.
-/
inductive BackupEntry (F : Type) where
  | file
  | directory (binary : Option BinaryContent) (metadata : Option (JsonValue F))

structure BackupStore (F : Type) where
  dir : PathBuf
  entries : List (String × BackupEntry F)
  distinct : (entries.map Prod.fst).Nodup

structure BackupSnapshot where
  id : String
  version : String
  timestamp : UInt64
  binarySize : UInt64
  path : PathBuf
deriving DecidableEq, Repr

structure RollbackResult where
  success : Bool
  snapshotId : String
  restoredVersion : String
  installPath : PathBuf
  error : Option String
deriving DecidableEq, Repr

structure PruneResult where
  kept : Nat
  removed : Nat
  removedIds : List String
deriving DecidableEq, Repr

def unixSeconds (now : SystemTime) : UInt64 :=
  UInt64.ofNat (Duration.asSecs (systemTimeNanos now))

/-- `Value::get`: only an object has fields. -/
def JsonValue.field (key : String) : JsonValue F → Option (JsonValue F)
  | .object entries => JsonValue.get entries key
  | _ => none

namespace BackupStore

def others (store : BackupStore F) (id : String) : List (String × BackupEntry F) :=
  store.entries.filter fun entry => entry.1 ≠ id

/-- The store with an entry under a name, in place of what it may have there. -/
def put (store : BackupStore F) (id : String) (entry : BackupEntry F) : BackupStore F where
  dir := store.dir
  entries := store.others id ++ [(id, entry)]
  distinct := by
    have apart : ∀ earlier ∈ (store.others id).map Prod.fst, earlier ≠ id := by
      intro earlier member
      obtain ⟨entry, among, rfl⟩ := List.mem_map.mp member
      exact of_decide_eq_true (List.mem_filter.mp among).2
    have kept : ((store.others id).map Prod.fst).Nodup :=
      store.distinct.sublist (List.filter_sublist.map Prod.fst)
    rw [List.map_append, List.map_singleton, ← List.concat_eq_append]
    exact List.Nodup.concat (fun again => apart id again rfl) kept

/-- What `backup.json` is written with. -/
def metadata (version : String) (timestamp binarySize : UInt64) : JsonValue F :=
  .object [("version", .string version), ("timestamp", .number (.posInt timestamp)),
    ("binary_size", .number (.posInt binarySize))]

/-- `create`: a directory under the second of the clock, which may be there already, and the
installed binary in it.
-/
def create (store : BackupStore F) (install : BinaryContent) (version : String)
    (now : SystemTime) : Except String (BackupSnapshot × BackupStore F) :=
  let ts := unixSeconds now
  let id := toString ts.toNat
  match store.entries.find? fun entry => entry.1 = id with
  | some (_, .file) => .error "failed to create backup entry dir: File exists (os error 17)"
  | _ =>
      let binarySize := UInt64.ofNat install.length
      .ok (⟨id, version, ts, binarySize, (store.dir.join id).join "sbh"⟩,
        store.put id (.directory (some install) (some (metadata version ts binarySize))))

/-- One entry of the list: what the directory notes about itself, or else its name and size. A
plain file and a directory without a binary are passed over.
-/
def snapshot (dir : PathBuf) : String × BackupEntry F → Option BackupSnapshot
  | (id, .directory (some _) (some note)) => some {
      id
      version := ((note.field "version").bind JsonValue.asStr).getD "unknown"
      timestamp := ((note.field "timestamp").bind JsonValue.asU64).getD 0
      binarySize := ((note.field "binary_size").bind JsonValue.asU64).getD 0
      path := (dir.join id).join "sbh" }
  | (id, .directory (some binary) none) => some {
      id
      version := "unknown"
      timestamp := (parseU64 id).getD 0
      binarySize := UInt64.ofNat binary.length
      path := (dir.join id).join "sbh" }
  | _ => none

def newestFirst (left right : BackupSnapshot) : Ordering :=
  compare right.timestamp.toNat left.timestamp.toNat

/-- `list`, where the directory is read in some order. -/
def list (store : BackupStore F) (reading : List (String × BackupEntry F)) :
    List BackupSnapshot :=
  Sorting.sortBy newestFirst (reading.filterMap (snapshot store.dir))

def binaryOf (store : BackupStore F) (id : String) : Option BinaryContent :=
  match store.entries.find? fun entry => entry.1 = id with
  | some (_, .directory binary _) => binary
  | _ => none

/-- `rollback`, with what is then copied to the install path. -/
def rollback (store : BackupStore F) (reading : List (String × BackupEntry F))
    (installPath : PathBuf) (backupId : Option String)
    : Except String (RollbackResult × Option BinaryContent) := do
  let entries := store.list reading
  match entries with
  | [] => .error "no backups available for rollback"
  | newest :: _ =>
      let snap ← match backupId with
        | some id =>
            match entries.find? fun entry => entry.id = id with
            | some found => .ok found
            | none => .error ("backup '" ++ id ++ "' not found")
        | none => .ok newest
      match store.binaryOf snap.id with
      | none =>
          .ok (⟨false, snap.id, snap.version, installPath,
            some ("backup binary missing: " ++ snap.path.text)⟩, none)
      | some binary => .ok (⟨true, snap.id, snap.version, installPath, none⟩, some binary)

def without (store : BackupStore F) (ids : List String) : BackupStore F where
  dir := store.dir
  entries := store.entries.filter fun entry => entry.1 ∉ ids
  distinct := store.distinct.sublist (List.filter_sublist.map Prod.fst)

/-- `prune`: what is listed behind the newest backups is removed. -/
def prune (store : BackupStore F) (reading : List (String × BackupEntry F)) (keep : Nat)
    : PruneResult × BackupStore F :=
  let entries := store.list reading
  if entries.length ≤ keep then (⟨entries.length, 0, []⟩, store)
  else
    let removedIds := (entries.drop keep).map (·.id)
    (⟨keep, removedIds.length, removedIds⟩, store.without removedIds)

def snapshots (store : BackupStore F) : List BackupSnapshot :=
  store.entries.filterMap (snapshot store.dir)

def seconds (snap : BackupSnapshot) : Nat := snap.timestamp.toNat

theorem newestFirst_ne_gt {left right : BackupSnapshot}
    : newestFirst left right ≠ .gt ↔ seconds right ≤ seconds left :=
  Nat.compare_ne_gt

/-- A list of the backups is any order of them that puts later seconds first. -/
theorem list_iff (store : BackupStore F) (listing : List BackupSnapshot)
    : (∃ reading, reading.Perm store.entries ∧ store.list reading = listing)
      ↔ Sorting.Arranged seconds listing store.snapshots := by
  have sorts (found : List BackupSnapshot) : (Sorting.sortBy newestFirst found).Pairwise
      fun left right => newestFirst left right ≠ .gt := by
    have respects : Sorting.Respects newestFirst fun snap => OrderDual.toDual (seconds snap) :=
      Sorting.respects_descending seconds
    apply (Sorting.sortBy_pairwise respects found).imp
    intro left right below
    exact newestFirst_ne_gt.mpr below
  have found := @Sorting.exists_reading_iff _ newestFirst _ (snapshot store.dir) store.entries
    listing sorts
  simp only [newestFirst_ne_gt] at found
  exact found.trans ⟨fun ⟨perm, sorted⟩ => ⟨perm, sorted⟩, fun ⟨perm, sorted⟩ => ⟨perm, sorted⟩⟩

variable {store : BackupStore F}

theorem arranged_list {reading : List (String × BackupEntry F)} (perm : reading.Perm store.entries)
    : Sorting.Arranged seconds (store.list reading) store.snapshots :=
  (store.list_iff _).mp ⟨reading, perm, rfl⟩

/-- A backup is listed under the name of its directory, which has its binary. -/
theorem snapshot_eq_some {dir : PathBuf} {entry : String × BackupEntry F} {snap : BackupSnapshot}
    (found : snapshot dir entry = some snap)
    : snap.id = entry.1 ∧ ∃ binary note, entry.2 = .directory (some binary) note := by
  obtain ⟨id, kind⟩ := entry
  rcases kind with _ | ⟨_ | binary, _ | note⟩
  · cases found
  · cases found
  · cases found
  · cases found
    exact ⟨rfl, binary, none, rfl⟩
  · cases found
    exact ⟨rfl, binary, some note, rfl⟩

theorem find?_of_mem {id : String} {entry : BackupEntry F} (member : (id, entry) ∈ store.entries)
    : store.entries.find? (fun entry => entry.1 = id) = some (id, entry) := by
  cases found : store.entries.find? fun entry => entry.1 = id with
  | none => exact absurd (decide_eq_true rfl) (List.find?_eq_none.mp found _ member)
  | some other =>
      have named : other.1 = id := by simpa using List.find?_some found
      have same := List.inj_on_of_nodup_map store.distinct (List.mem_of_find?_eq_some found)
        member named
      rw [same]

theorem binaryOf_eq_some {id : String} {binary : BinaryContent}
    : store.binaryOf id = some binary
      ↔ ∃ note, (id, BackupEntry.directory (some binary) note) ∈ store.entries := by
  constructor
  · intro has
    unfold binaryOf at has
    split at has
    next other kept note found =>
      have named : other = id := by simpa using List.find?_some found
      rw [← named, ← has]
      exact ⟨note, List.mem_of_find?_eq_some found⟩
    next => cases has
  · intro ⟨note, member⟩
    unfold binaryOf
    rw [find?_of_mem member]

theorem binaryOf_of_snapshot {snap : BackupSnapshot}
    (listed : snap ∈ store.snapshots) : ∃ binary, store.binaryOf snap.id = some binary := by
  obtain ⟨⟨id, entry⟩, member, found⟩ := List.mem_filterMap.mp listed
  obtain ⟨named, binary, note, rfl⟩ := snapshot_eq_some found
  rw [named]
  exact ⟨binary, binaryOf_eq_some.mpr ⟨note, member⟩⟩

theorem snapshots_distinct (store : BackupStore F)
    : (store.snapshots.map BackupSnapshot.id).Nodup := by
  have apart : store.entries.Pairwise fun left right => left.1 ≠ right.1 :=
    List.pairwise_map.mp store.distinct
  refine List.pairwise_map.mpr (apart.filterMap (snapshot store.dir) ?_)
  intro left right differ first isFirst second isSecond same
  rw [(snapshot_eq_some isFirst).1, (snapshot_eq_some isSecond).1] at same
  exact differ same

/-- Of a list without repeated names, the names at its end cut off its end. -/
theorem filter_drop {listing : List BackupSnapshot} (keep : Nat)
    (distinct : (listing.map BackupSnapshot.id).Nodup)
    : listing.filter (fun snap => snap.id ∉ (listing.drop keep).map BackupSnapshot.id)
      = listing.take keep := by
  have apart : ((listing.take keep).map BackupSnapshot.id
      ++ (listing.drop keep).map BackupSnapshot.id).Nodup := by
    rwa [← List.map_append, List.take_append_drop]
  conv_lhs => arg 2; rw [← List.take_append_drop keep listing]
  rw [List.filter_append]
  have kept : (listing.take keep).filter
      (fun snap => snap.id ∉ (listing.drop keep).map BackupSnapshot.id)
      = listing.take keep := by
    refine List.filter_eq_self.mpr fun snap member => decide_eq_true fun again => ?_
    exact (List.nodup_append.mp apart).2.2 _ (List.mem_map_of_mem member) _ again rfl
  have removed : (listing.drop keep).filter
      (fun snap => snap.id ∉ (listing.drop keep).map BackupSnapshot.id) = [] := by
    refine List.filter_eq_nil_iff.mpr fun snap member left => ?_
    exact of_decide_eq_true left (List.mem_map_of_mem member)
  rw [kept, removed, List.append_nil]

def pruned (store : BackupStore F) (reading : List (String × BackupEntry F)) (keep : Nat)
    : List String :=
  ((store.list reading).drop keep).map BackupSnapshot.id

theorem prune_snd (store : BackupStore F) (reading : List (String × BackupEntry F)) (keep : Nat)
    : (store.prune reading keep).2 = store.without (store.pruned reading keep) := by
  unfold prune
  dsimp only
  split
  next short =>
    have nothing : store.pruned reading keep = [] := by
      unfold pruned
      rw [List.drop_eq_nil_of_le short, List.map_nil]
    have all : store.entries.filter (fun entry => entry.1 ∉ ([] : List String))
        = store.entries :=
      List.filter_eq_self.mpr fun _ _ => decide_eq_true List.not_mem_nil
    rw [nothing]
    unfold without
    simp only [all]
  next => rfl

theorem binaryOf_without {ids : List String} {id : String} {binary : BinaryContent}
    : (store.without ids).binaryOf id = some binary
      ↔ store.binaryOf id = some binary ∧ id ∉ ids := by
  rw [binaryOf_eq_some, binaryOf_eq_some]
  constructor
  · intro ⟨note, member⟩
    obtain ⟨among, left⟩ := List.mem_filter.mp member
    exact ⟨⟨note, among⟩, of_decide_eq_true left⟩
  · intro ⟨⟨note, among⟩, left⟩
    exact ⟨note, List.mem_filter.mpr ⟨among, decide_eq_true left⟩⟩

theorem snapshots_without (store : BackupStore F) (ids : List String)
    : (store.without ids).snapshots = store.snapshots.filter fun snap => snap.id ∉ ids := by
  unfold snapshots without
  rw [List.filterMap_filter, List.filter_filterMap]
  apply List.filterMap_congr
  intro entry _
  cases found : snapshot store.dir entry with
  | none => simp
  | some snap => by_cases removed : entry.1 ∈ ids <;>
      simp [Option.filter, removed, (snapshot_eq_some found).1]

theorem snapshots_prune {reading : List (String × BackupEntry F)}
    (perm : reading.Perm store.entries) (keep : Nat)
    : (store.prune reading keep).2.snapshots.Perm ((store.list reading).take keep) := by
  have listed := (arranged_list perm).perm
  have distinct : ((store.list reading).map BackupSnapshot.id).Nodup :=
    (listed.map BackupSnapshot.id).nodup_iff.mpr store.snapshots_distinct
  rw [prune_snd, snapshots_without, ← filter_drop keep distinct]
  exact (listed.filter _).symm

/-- A rollback to the most recent backup copies the binary of the first of the list. -/
theorem rollback_none_iff (store : BackupStore F) (reading : List (String × BackupEntry F))
    (installPath : PathBuf) (binary : BinaryContent)
    : (∃ result, store.rollback reading installPath none = .ok (result, some binary))
      ↔ ∃ first rest, store.list reading = first :: rest
        ∧ store.binaryOf first.id = some binary := by
  unfold rollback
  cases listed : store.list reading with
  | nil => simp
  | cons first rest =>
      cases has : store.binaryOf first.id with
      | none => simp [has, bind, Except.bind]
      | some found => simp [has, bind, Except.bind]

section Making

variable (store : BackupStore F) (install : BinaryContent) (version : String) (now : SystemTime)

def newId (now : SystemTime) : String := toString (unixSeconds now).toNat

def made : BackupSnapshot :=
  ⟨newId now, version, unixSeconds now, UInt64.ofNat install.length,
    (store.dir.join (newId now)).join "sbh"⟩

def madeEntry : BackupEntry F :=
  .directory (some install)
    (some (metadata version (unixSeconds now) (UInt64.ofNat install.length)))

def backedUp : BackupStore F := store.put (newId now) (madeEntry install version now)

theorem create_iff (snap : BackupSnapshot) (created : BackupStore F)
    : store.create install version now = .ok (snap, created)
      ↔ (newId now, BackupEntry.file) ∉ store.entries ∧ snap = store.made install version now
        ∧ created = store.backedUp install version now := by
  constructor
  · intro success
    unfold create at success
    dsimp only at success
    split at success
    next => cases success
    next noFile =>
      refine ⟨fun inTheWay => ?_, ?_⟩
      · exact noFile _ (find?_of_mem inTheWay)
      · have parts := Prod.mk.inj (Except.ok.inj success)
        exact ⟨parts.1.symm, parts.2.symm⟩
  · rintro ⟨noFile, rfl, rfl⟩
    unfold create
    dsimp only
    split
    next other found =>
      have held := List.find?_some found
      have named : other = newId now := of_decide_eq_true held
      rw [named] at found
      exact absurd (List.mem_of_find?_eq_some found) noFile
    next => rfl

def othersListed : List BackupSnapshot :=
  (store.others (newId now)).filterMap (snapshot store.dir)

theorem snapshots_backedUp
    : (store.backedUp install version now).snapshots.Perm
        (store.made install version now :: store.othersListed now) := by
  have same : (store.backedUp install version now).snapshots
      = store.othersListed now ++ [store.made install version now] := by
    unfold snapshots backedUp put othersListed
    rw [List.filterMap_append]
    rfl
  rw [same]
  exact List.perm_append_singleton _ _

theorem made_notMem : store.made install version now ∉ store.othersListed now := by
  intro again
  obtain ⟨entry, member, found⟩ := List.mem_filterMap.mp again
  have other := of_decide_eq_true (List.mem_filter.mp member).2
  exact other (snapshot_eq_some found).1.symm

variable {store install version now} in
theorem binaryOf_backedUp {id : String} {binary : BinaryContent}
    : (store.backedUp install version now).binaryOf id = some binary
      ↔ if id = newId now then install = binary else store.binaryOf id = some binary := by
  rw [binaryOf_eq_some]
  split
  next isNew =>
    subst isNew
    constructor
    · intro ⟨note, member⟩
      rcases List.mem_append.mp member with other | own
      · exact absurd rfl (of_decide_eq_true (List.mem_filter.mp other).2)
      · cases List.mem_singleton.mp own
        rfl
    · rintro rfl
      exact ⟨_, List.mem_append_right _ (List.mem_singleton.mpr rfl)⟩
  next differs =>
    rw [binaryOf_eq_some]
    constructor
    · intro ⟨note, member⟩
      rcases List.mem_append.mp member with other | own
      · exact ⟨note, (List.mem_filter.mp other).1⟩
      · cases List.mem_singleton.mp own
        exact absurd rfl differs
    · intro ⟨note, member⟩
      exact ⟨note, List.mem_append_left _ (List.mem_filter.mpr ⟨member, decide_eq_true differs⟩)⟩

end Making

section Recovery

variable (store : BackupStore F) (install : BinaryContent) (version : String) (now : SystemTime)
  (maxBackups : Nat)

/-- An update can be rolled back. When it has made its backup and pruned, in whatever orders the
directory is read, the backup has the binary as it was installed, every earlier backup that is
still there has the binary it had, and a rollback restores what was installed.
-/
def Recoverable : Prop :=
  ∀ snap created, store.create install version now = .ok (snap, created) →
    ∀ reading, reading.Perm created.entries →
      let kept := (created.prune reading maxBackups).2
      kept.binaryOf snap.id = some install
      ∧ (∀ id earlier binary, store.binaryOf id = some earlier →
          kept.binaryOf id = some binary → binary = earlier)
      ∧ ∀ rereading installPath, rereading.Perm kept.entries →
          ∃ result, kept.rollback rereading installPath none = .ok (result, some install)

/-- The clock gives a second that has no other binary under it yet. Of the other backups, fewer
than there is room for count as made in that second or later, and if there are any then the
latest of them have the binary that is installed.
-/
structure ClockServes : Prop where
  unwritten : ∀ earlier, store.binaryOf (newId now) = some earlier → install = earlier
  room : (store.othersListed now).countP
    (fun other => (unixSeconds now).toNat ≤ seconds other) < maxBackups
  latest : ∀ other ∈ store.othersListed now, (unixSeconds now).toNat ≤ seconds other →
    (∀ another ∈ store.othersListed now, seconds another ≤ seconds other) →
    store.binaryOf other.id = some install

variable {store install version now maxBackups}

theorem arranged_created {listing : List BackupSnapshot}
    : Sorting.Arranged seconds listing
        (store.backedUp install version now).snapshots
      ↔ Sorting.Arranged seconds listing
        (store.made install version now :: store.othersListed now) := by
  have perm := store.snapshots_backedUp install version now
  exact ⟨fun ⟨same, sorted⟩ => ⟨same.trans perm, sorted⟩,
    fun ⟨same, sorted⟩ => ⟨same.trans perm.symm, sorted⟩⟩

variable {reading : List (String × BackupEntry F)}

theorem notMem_pruned
    (perm : reading.Perm store.entries) {snap : BackupSnapshot} (listed : snap ∈ store.snapshots)
    : snap.id ∉ store.pruned reading maxBackups ↔ snap ∈ (store.list reading).take maxBackups := by
  have same := (arranged_list perm).perm
  have distinct : ((store.list reading).map BackupSnapshot.id).Nodup :=
    (same.map BackupSnapshot.id).nodup_iff.mpr store.snapshots_distinct
  rw [← filter_drop maxBackups distinct, List.mem_filter, decide_eq_true_iff]
  exact ⟨fun left => ⟨same.mem_iff.mpr listed, left⟩, fun both => both.2⟩

theorem binaryOf_prune {id : String} {binary : BinaryContent}
    : (store.prune reading maxBackups).2.binaryOf id = some binary
      ↔ store.binaryOf id = some binary ∧ id ∉ store.pruned reading maxBackups := by
  rw [prune_snd, binaryOf_without]

variable (store install version now) in
theorem binaryOf_made
    : (store.backedUp install version now).binaryOf (store.made install version now).id
      = some install := by
  rw [made, binaryOf_backedUp, if_pos rfl]

/-- The new backup outlasts the pruning exactly if it is among the first of the list. -/
theorem new_kept_iff (perm : reading.Perm (store.backedUp install version now).entries)
    : ((store.backedUp install version now).prune reading maxBackups).2.binaryOf (newId now)
        = some install
      ↔ store.made install version now
        ∈ ((store.backedUp install version now).list reading).take maxBackups := by
  have listed : store.made install version now ∈ (store.backedUp install version now).snapshots :=
    (store.snapshots_backedUp install version now).mem_iff.mpr List.mem_cons_self
  rw [← notMem_pruned perm listed, binaryOf_prune]
  exact ⟨fun both => both.2, fun left => ⟨store.binaryOf_made install version now, left⟩⟩

theorem binaryOf_other {other : BackupSnapshot} (among : other ∈ store.othersListed now)
    {binary : BinaryContent}
    : (store.backedUp install version now).binaryOf other.id = some binary
      ↔ store.binaryOf other.id = some binary := by
  obtain ⟨entry, member, found⟩ := List.mem_filterMap.mp among
  have differs : other.id ≠ newId now := by
    rw [(snapshot_eq_some found).1]
    exact of_decide_eq_true (List.mem_filter.mp member).2
  rw [binaryOf_backedUp, if_neg differs]

/-- Where there is room, what is listed first after pruning has the installed binary exactly if
the latest of the others have it that are not behind the new backup.
-/
theorem newest_iff (room : (store.othersListed now).countP
      (fun other => (unixSeconds now).toNat ≤ seconds other) < maxBackups)
    : (∀ listing, Sorting.Arranged seconds listing
          (store.made install version now :: store.othersListed now) →
        ∀ first rest, Sorting.Arranged seconds (first :: rest) (listing.take maxBackups) →
          (store.backedUp install version now).binaryOf first.id = some install)
      ↔ ∀ other ∈ store.othersListed now, (unixSeconds now).toNat ≤ seconds other →
        (∀ another ∈ store.othersListed now, seconds another ≤ seconds other) →
        store.binaryOf other.id = some install := by
  have leads := Sorting.leads_iff seconds
    (P := fun snap => (store.backedUp install version now).binaryOf snap.id = some install)
    (store.made_notMem install version now) room (store.binaryOf_made install version now)
  refine leads.trans (forall₂_congr fun other among => ?_)
  rw [binaryOf_other among]
  rfl

theorem ClockServes.recoverable (serves : store.ClockServes install now maxBackups)
    : store.Recoverable install version now maxBackups := by
  intro snap created success reading perm
  obtain ⟨-, rfl, rfl⟩ := (store.create_iff install version now snap created).mp success
  have arranged := arranged_created.mp (arranged_list perm)
  have newKept : store.made install version now
      ∈ ((store.backedUp install version now).list reading).take maxBackups :=
    (Sorting.kept_iff seconds (store.made_notMem install version now)).mpr serves.room _ arranged
  refine ⟨(new_kept_iff perm).mpr newKept, ?_, ?_⟩
  · intro id earlier binary before after
    have has := (binaryOf_prune.mp after).1
    rw [binaryOf_backedUp] at has
    split at has
    next isNew =>
      subst isNew
      exact has.symm.trans (serves.unwritten earlier before)
    next =>
      rw [before] at has
      exact (Option.some.inj has).symm
  · intro rereading installPath again
    have left := snapshots_prune perm maxBackups
    have relisted := arranged_list again
    rw [rollback_none_iff]
    cases listed
      : ((store.backedUp install version now).prune reading maxBackups).2.list rereading with
    | nil =>
        rw [listed] at relisted
        have member := (relisted.perm.trans left).mem_iff.mpr newKept
        exact absurd member List.not_mem_nil
    | cons first rest =>
        rw [listed] at relisted
        have leading := (newest_iff serves.room).mpr serves.latest _ arranged first rest
          ⟨relisted.perm.trans left, relisted.sorted⟩
        obtain ⟨binary, has⟩ := binaryOf_of_snapshot
          (relisted.perm.mem_iff.mp List.mem_cons_self)
        have same := (binaryOf_prune.mp has).1
        rw [leading] at same
        rw [← same] at has
        exact ⟨first, rest, rfl, has⟩

/-- An update that can be rolled back has made its backup by a clock that serves. -/
theorem Recoverable.clockServes (recoverable : store.Recoverable install version now maxBackups)
    (free : (newId now, BackupEntry.file) ∉ store.entries)
    : store.ClockServes install now maxBackups := by
  have after := recoverable (store.made install version now)
    (store.backedUp install version now)
    ((store.create_iff install version now _ _).mpr ⟨free, rfl, rfl⟩)
  have room : (store.othersListed now).countP
      (fun other => (unixSeconds now).toNat ≤ seconds other) < maxBackups := by
    refine (Sorting.kept_iff seconds (store.made_notMem install version now)).mp ?_
    intro listing arranged
    obtain ⟨reading, perm, rfl⟩ := (list_iff _ listing).mpr (arranged_created.mpr arranged)
    exact (new_kept_iff perm).mp (after reading perm).1
  refine ⟨?_, room, ?_⟩
  · intro earlier before
    obtain ⟨kept, unchanged, -⟩ := after _ (.refl _)
    exact unchanged _ earlier install before kept
  · apply (newest_iff room).mp
    intro listing arranged first rest kept
    obtain ⟨reading, perm, rfl⟩ := (list_iff _ listing).mpr (arranged_created.mpr arranged)
    have left := snapshots_prune perm maxBackups
    obtain ⟨rereading, again, listed⟩ :=
      (list_iff _ (first :: rest)).mpr ⟨kept.perm.trans left.symm, kept.sorted⟩
    have restored := (after reading perm).2.2 rereading store.dir again
    obtain ⟨leader, others, same, has⟩ := (rollback_none_iff _ _ _ _).mp restored
    rw [listed] at same
    rw [(List.cons.inj same).1]
    exact (binaryOf_prune.mp has).1

variable (store install version now maxBackups)

/-- An update can be rolled back exactly if it makes no backup or makes it by a clock that
serves.
-/
theorem recoverable_iff
    : store.Recoverable install version now maxBackups
      ↔ (newId now, BackupEntry.file) ∈ store.entries
        ∨ store.ClockServes install now maxBackups := by
  constructor
  · intro recoverable
    by_cases inTheWay : (newId now, BackupEntry.file) ∈ store.entries
    · exact .inl inTheWay
    · exact .inr (recoverable.clockServes inTheWay)
  · rintro (inTheWay | serves)
    · intro snap created success
      exact absurd inTheWay ((store.create_iff install version now snap created).mp success).1
    · exact serves.recoverable

end Recovery

def backedUpAt (second : UInt64) : BackupStore ℚ where
  dir := ⟨"/home/user/.local/share/sbh/backups"⟩
  entries := [(toString second.toNat,
    .directory (some [1]) (some (metadata "0.4.0" second 1)))]
  distinct := List.nodup_singleton _

/-- A second update within one second writes over the backup of the first. After the clock was
put back, the new backup is pruned at once or is not the one that a rollback takes.
-/
theorem updates_not_recoverable
    : ¬ (backedUpAt 1700000000).Recoverable [2] "0.4.1" 1700000000500000000 5
      ∧ ¬ (backedUpAt 1700000060).Recoverable [2] "0.4.1" 1700000000500000000 1
      ∧ ¬ (backedUpAt 1700000060).Recoverable [2] "0.4.1" 1700000000500000000 5 := by
  have second : newId 1700000000500000000 = "1700000000" := by decide +kernel
  have dated (n : UInt64) : (backedUpAt n).entries = [(toString n.toNat,
    .directory (some [1]) (some (metadata "0.4.0" n 1)))] := rfl
  have free (n : UInt64) : (newId 1700000000500000000, BackupEntry.file)
      ∉ (backedUpAt n).entries := by
    rw [dated, List.mem_singleton]
    intro same
    cases (Prod.mk.inj same).2
  have listed : (backedUpAt 1700000060).othersListed 1700000000500000000
      = [⟨"1700000060", "0.4.0", 1700000060, 1,
          ⟨"/home/user/.local/share/sbh/backups/1700000060/sbh"⟩⟩] := by
    decide +kernel
  refine ⟨fun recoverable => ?_, fun recoverable => ?_, fun recoverable => ?_⟩
  · have unwritten := (recoverable.clockServes (free _)).unwritten [1] (by decide +kernel)
    exact absurd unwritten (by decide)
  · have room := (recoverable.clockServes (free _)).room
    rw [listed] at room
    exact absurd room (by decide +kernel)
  · have latest := (recoverable.clockServes (free _)).latest _
      (by rw [listed]; exact List.mem_singleton_self _) (by decide +kernel)
      (by rw [listed]; decide +kernel)
    exact absurd latest (by decide +kernel)

end BackupStore

end StorageBallast
