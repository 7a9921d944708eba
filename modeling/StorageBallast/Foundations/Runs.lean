import Mathlib.Data.List.Basic
import Mathlib.Data.List.Induction
import Mathlib.Tactic.Common

/-! Finite runs of a deterministic step function, and the rules for invariants along them.
A guard restricts the inputs a state may take; an invariant that every guarded step keeps
holds in each state of a guarded run, and a guard that is exactly what one step needs is
exactly what the whole run needs.
-/

namespace StorageBallast.Runs

variable {σ ι : Type*}

def states (step : σ → ι → σ) : σ → List ι → List σ
  | s, [] => [s]
  | s, i :: rest => s :: states step (step s i) rest

def final (step : σ → ι → σ) (s : σ) (inputs : List ι) : σ :=
  inputs.foldl step s

def steps (step : σ → ι → σ) : σ → List ι → List (σ × ι)
  | _, [] => []
  | s, i :: rest => (s, i) :: steps step (step s i) rest

def Guarded (step : σ → ι → σ) (guard : σ → ι → Prop) : σ → List ι → Prop
  | _, [] => True
  | s, i :: rest => guard s i ∧ Guarded step guard (step s i) rest

variable {step : σ → ι → σ} {guard : σ → ι → Prop} {inv : σ → Prop}

@[simp] theorem final_nil (s : σ) : final step s [] = s := rfl

@[simp] theorem final_cons (s : σ) (i : ι) (rest : List ι)
    : final step s (i :: rest) = final step (step s i) rest := rfl

@[simp] theorem final_append (s : σ) (front back : List ι)
    : final step s (front ++ back) = final step (final step s front) back :=
  List.foldl_append

theorem start_mem_states (s : σ) (inputs : List ι) : s ∈ states step s inputs := by
  cases inputs <;> simp [states]

/-- The last state belongs to the run, by induction on its inputs. -/
theorem final_mem_states (s : σ) (inputs : List ι)
    : final step s inputs ∈ states step s inputs := by
  induction inputs generalizing s with
  | nil => simp [states]
  | cons i rest ih => exact List.mem_cons_of_mem _ (ih (step s i))

variable {inputs : List ι}

/-- A state of the run is where some prefix of its inputs ends. -/
theorem mem_states_iff {s t : σ}
    : t ∈ states step s inputs ↔ ∃ front back, inputs = front ++ back ∧ final step s front = t := by
  induction inputs generalizing s with
  | nil =>
      simp only [states, List.mem_singleton]
      constructor
      · rintro rfl
        exact ⟨[], [], rfl, rfl⟩
      · rintro ⟨front, back, split, rfl⟩
        obtain ⟨rfl, rfl⟩ := List.append_eq_nil_iff.mp split.symm
        rfl
  | cons i rest ih =>
      simp only [states, List.mem_cons, ih]
      constructor
      · rintro (rfl | ⟨front, back, rfl, rfl⟩)
        · exact ⟨[], i :: rest, rfl, rfl⟩
        · exact ⟨i :: front, back, rfl, rfl⟩
      · rintro ⟨front, back, split, rfl⟩
        cases front with
        | nil => exact Or.inl rfl
        | cons head front =>
            obtain ⟨rfl, rfl⟩ := List.cons_eq_cons.mp split
            exact Or.inr ⟨front, back, rfl, rfl⟩

/-- A step of the run is an input together with the state some prefix ends in. -/
theorem mem_steps_iff {s t : σ} {i : ι}
    : (t, i) ∈ steps step s inputs
      ↔ ∃ front back, inputs = front ++ i :: back ∧ final step s front = t := by
  induction inputs generalizing s with
  | nil => simp [steps]
  | cons j rest ih =>
      simp only [steps, List.mem_cons, Prod.mk.injEq, ih]
      constructor
      · rintro (⟨rfl, rfl⟩ | ⟨front, back, rfl, rfl⟩)
        · exact ⟨[], rest, rfl, rfl⟩
        · exact ⟨j :: front, back, rfl, rfl⟩
      · rintro ⟨front, back, split, rfl⟩
        cases front with
        | nil =>
            obtain ⟨rfl, rfl⟩ := List.cons_eq_cons.mp split
            exact Or.inl ⟨rfl, rfl⟩
        | cons head front =>
            obtain ⟨rfl, rfl⟩ := List.cons_eq_cons.mp split
            exact Or.inr ⟨front, back, rfl, rfl⟩

theorem mem_states_concat_iff {s t : σ} {past : List ι} {i : ι}
    : t ∈ states step s (past ++ [i])
      ↔ t ∈ states step s past ∨ t = step (final step s past) i := by
  induction past generalizing s with
  | nil => simp [states]
  | cons j rest ih =>
      rw [List.cons_append]
      simp only [states, List.mem_cons, ih, final_cons, or_assoc]

theorem steps_concat (s : σ) (past : List ι) (i : ι)
    : steps step s (past ++ [i]) = steps step s past ++ [(final step s past, i)] := by
  induction past generalizing s with
  | nil => rfl
  | cons j rest ih => simp [steps, ih]

theorem steps_append (s : σ) (front back : List ι)
    : steps step s (front ++ back) = steps step s front ++ steps step (final step s front) back := by
  induction front generalizing s with
  | nil => rfl
  | cons j rest ih => simp [steps, ih]

theorem step_mem_states {s t : σ} {i : ι} (taken : (t, i) ∈ steps step s inputs)
    : t ∈ states step s inputs ∧ step t i ∈ states step s inputs := by
  obtain ⟨front, back, rfl, rfl⟩ := mem_steps_iff.mp taken
  constructor
  · exact mem_states_iff.mpr ⟨front, i :: back, rfl, rfl⟩
  · exact mem_states_iff.mpr ⟨front ++ [i], back, by simp, by simp⟩

variable {s : σ}

/-- A guard holds along a run exactly when each of its steps meets it. -/
theorem guarded_iff_steps
    : Guarded step guard s inputs ↔ ∀ taken ∈ steps step s inputs, guard taken.1 taken.2 := by
  induction inputs generalizing s with
  | nil => simp [Guarded, steps]
  | cons i rest ih => simp [Guarded, steps, ih]

theorem guarded_append_iff {front back : List ι}
    : Guarded step guard s (front ++ back)
      ↔ Guarded step guard s front ∧ Guarded step guard (final step s front) back := by
  simp only [guarded_iff_steps, steps_append, List.forall_mem_append]

/-- An invariant that guarded steps keep holds in each state of a guarded run, by
induction on the inputs.
-/
theorem invariant_of_guarded (kept : ∀ s i, inv s → guard s i → inv (step s i))
    (start : inv s) (guarded : Guarded step guard s inputs)
    : ∀ t ∈ states step s inputs, inv t := by
  induction inputs generalizing s with
  | nil => simpa [states] using start
  | cons i rest ih =>
      intro t member
      rcases List.mem_cons.mp member with rfl | later
      · exact start
      · exact ih (kept s i start guarded.1) guarded.2 t later

/-- What each step needs to keep an invariant holds along the run, if it follows from something
known of each step together with the invariant. Witness: induction on the inputs.
-/
theorem guarded_of_each {known : σ → ι → Prop} (sharp : ∀ s i, inv s → known s i → guard s i)
    (kept : ∀ s i, inv s → guard s i → inv (step s i))
    (start : inv s) (each : Guarded step known s inputs)
    : Guarded step guard s inputs := by
  induction inputs generalizing s with
  | nil => trivial
  | cons i rest ih =>
      have here := sharp s i start each.1
      exact ⟨here, ih (kept s i start here) each.2⟩

/-- An invariant that every step keeps holds in each state of every run. -/
theorem invariant_of_kept (kept : ∀ s i, inv s → inv (step s i)) (start : inv s)
    : ∀ t ∈ states step s inputs, inv t := by
  have unguarded : Guarded step (fun _ _ => True) s inputs :=
    guarded_iff_steps.mpr fun _ _ => trivial
  exact invariant_of_guarded (fun s i h _ => kept s i h) start unguarded

/-- When one step keeps the invariant exactly if its guard holds, a run keeps it throughout
exactly if all its steps are guarded. Witness: induction on the inputs, reading the
invariant after the first step from the second state of the run.
-/
theorem invariant_iff_guarded (sharp : ∀ s i, inv s → (inv (step s i) ↔ guard s i)) (start : inv s)
    : (∀ t ∈ states step s inputs, inv t) ↔ Guarded step guard s inputs := by
  refine ⟨?_, invariant_of_guarded (fun s i h g => (sharp s i h).mpr g) start⟩
  intro holds
  induction inputs generalizing s with
  | nil => trivial
  | cons i rest ih =>
      have tail : ∀ t ∈ states step (step s i) rest, inv t :=
        fun t member => holds t (List.mem_cons_of_mem _ member)
      have next : inv (step s i) := tail _ (start_mem_states _ _)
      exact ⟨(sharp s i start).mp next, ih next tail⟩

/-- What ties a state to the inputs before it, and is kept by every further input, holds
after each list of inputs, by induction on the last one.
-/
theorem history_invariant {tied : List ι → σ → Prop} (start : tied [] s)
    (kept : ∀ past i, tied past (final step s past) →
      tied (past ++ [i]) (step (final step s past) i))
    (past : List ι)
    : tied past (final step s past) := by
  induction past using List.reverseRecOn with
  | nil => exact start
  | append_singleton past i ih =>
      rw [final_append]
      exact kept past i ih

/-- If each step either reaches a goal or lowers a rank, a run of more steps than the rank
reaches the goal within so many, by induction on the inputs.
-/
theorem reached_within_rank {goal : σ → ι → Prop} (rank : σ → Nat)
    (progress : ∀ s i, inv s → guard s i →
      goal s i ∨ (inv (step s i) ∧ rank (step s i) < rank s))
    (start : inv s) (guarded : Guarded step guard s inputs)
    (long : rank s < inputs.length)
    : ∃ taken ∈ (steps step s inputs).take (rank s + 1), goal taken.1 taken.2 := by
  induction inputs generalizing s with
  | nil => exact absurd long (Nat.not_lt_zero _)
  | cons i rest ih =>
      rcases progress s i start guarded.1 with reached | ⟨kept, lower⟩
      · exact ⟨(s, i), by simp [steps], reached⟩
      · have longRest : rank (step s i) < rest.length := by
          rw [List.length_cons] at long
          omega
        obtain ⟨taken, within, reached⟩ := ih kept guarded.2 longRest
        refine ⟨taken, ?_, reached⟩
        rw [steps, List.take_succ_cons]
        refine List.mem_cons_of_mem _ ?_
        exact (List.take_sublist_take_left (by omega)).subset within

end StorageBallast.Runs

/-! Looks at something that is calm or raised to a level, and the announcements made of it.
A row of raised looks without a calm one between them is an episode. Whoever announces by the
last raised level alone, across the calm, meets the law of episodes exactly if none opens at
the level at which the one before it ended.
-/

namespace StorageBallast.Episodes

variable {α : Type*}

structure Look (α : Type*) where
  level : Option α
  announced : Bool
deriving DecidableEq

def Calm (levels : List (Option α)) : Prop := levels.getLast?.getD none = none

def lastRaised (levels : List (Option α)) : Option α :=
  levels.foldl (fun last level => level.orElse fun _ => last) none

def lastAnnounced (looks : List (Look α)) : Option α :=
  looks.foldl (fun last look =>
    match look.level with
    | none => none
    | some level => if look.announced then some level else last) none

/-- The first look of an episode is announced, and a later one exactly if its level differs
from the last one announced in the episode.
-/
structure AnnouncesChanges (looks : List (Look α)) : Prop where
  opening : ∀ past level announced later, looks = past ++ ⟨some level, announced⟩ :: later →
    Calm (past.map (·.level)) → announced = true
  within : ∀ past level announced later, looks = past ++ ⟨some level, announced⟩ :: later →
    ¬ Calm (past.map (·.level)) → (announced = true ↔ lastAnnounced past ≠ some level)

def ByLastRaised (looks : List (Look α)) : Prop :=
  ∀ past level announced later, looks = past ++ ⟨some level, announced⟩ :: later →
    (announced = true ↔ lastRaised (past.map (·.level)) ≠ some level)

def OpensElsewhere (levels : List (Option α)) : Prop :=
  ∀ past level later, levels = past ++ some level :: later →
    Calm past → lastRaised past ≠ some level

@[simp] theorem calm_nil : Calm ([] : List (Option α)) := rfl

@[simp] theorem calm_concat (levels : List (Option α)) (level : Option α)
    : Calm (levels ++ [level]) ↔ level = none := by
  simp [Calm]

@[simp] theorem lastRaised_concat (levels : List (Option α)) (level : Option α)
    : lastRaised (levels ++ [level]) = level.orElse fun _ => lastRaised levels := by
  simp [lastRaised]

@[simp] theorem lastAnnounced_concat (looks : List (Look α)) (look : Look α)
    : lastAnnounced (looks ++ [look])
        = match look.level with
          | none => none
          | some level => if look.announced then some level else lastAnnounced looks := by
  simp [lastAnnounced]

variable {looks : List (Look α)}

theorem ByLastRaised.init {look : Look α} (byLast : ByLastRaised (looks ++ [look]))
    : ByLastRaised looks := by
  rintro past level announced later rfl
  exact byLast past level announced (later ++ [look]) (by simp)

theorem OpensElsewhere.init {levels : List (Option α)} {level : Option α}
    (elsewhere : OpensElsewhere (levels ++ [level]))
    : OpensElsewhere levels := by
  rintro past raised later rfl
  exact elsewhere past raised (later ++ [level]) (by simp)

/-- One more look is announced by the last raised level, if those before it were. -/
theorem ByLastRaised.concat (byLast : ByLastRaised looks) {look : Look α}
    (here : ∀ level, look.level = some level →
      (look.announced = true ↔ lastRaised (looks.map (·.level)) ≠ some level))
    : ByLastRaised (looks ++ [look]) := by
  intro past level announced later split
  rcases List.eq_nil_or_concat later with rfl | ⟨front, last, rfl⟩
  · obtain ⟨rfl, same⟩ := List.append_inj' split rfl
    obtain rfl : look = ⟨some level, announced⟩ := by simpa using same
    exact here level rfl
  · have longer : looks ++ [look] = (past ++ ⟨some level, announced⟩ :: front) ++ [last] := by
      simpa using split
    exact byLast past level announced front (List.append_inj' longer rfl).1

/-- In an open episode the last announced level is the last raised one, by induction on the
looks: where an episode opens elsewhere it is announced, and later looks without an
announcement repeat the level.
-/
theorem lastAnnounced_eq (byLast : ByLastRaised looks)
    (elsewhere : OpensElsewhere (looks.map (·.level))) (episode : ¬ Calm (looks.map (·.level)))
    : lastAnnounced looks = lastRaised (looks.map (·.level)) := by
  induction looks using List.reverseRecOn with
  | nil => exact absurd calm_nil episode
  | append_singleton past look ih =>
      rw [List.map_append, List.map_singleton] at elsewhere episode ⊢
      obtain ⟨level, announced⟩ := look
      cases level with
      | none => exact absurd ((calm_concat _ _).mpr rfl) episode
      | some level =>
          have here := byLast past level announced [] rfl
          rw [lastAnnounced_concat, lastRaised_concat]
          cases announced with
          | true => rfl
          | false =>
              have repeated : lastRaised (past.map (·.level)) = some level := by
                by_contra other
                exact Bool.false_ne_true (here.mpr other)
              have open_ : ¬ Calm (past.map (·.level)) := fun calm =>
                elsewhere _ level [] rfl calm repeated
              have before := ih byLast.init elsewhere.init open_
              simpa [repeated] using before

/-- The law of episodes holds exactly if each episode opens at a level of its own. -/
theorem announcesChanges_iff (byLast : ByLastRaised looks)
    : AnnouncesChanges looks ↔ OpensElsewhere (looks.map (·.level)) := by
  constructor
  · intro law past level later split calm
    obtain ⟨front, rest, rfl, rfl, tail⟩ := List.map_eq_append_iff.mp split
    obtain ⟨⟨raised, announced⟩, back, rfl, same, rfl⟩ := List.map_eq_cons_iff.mp tail
    obtain rfl : raised = some level := same
    have sent := law.opening front level announced back rfl calm
    exact (byLast front level announced back rfl).mp sent
  · intro elsewhere
    have before {past : List (Look α)} {look : Look α} {later : List (Look α)}
        (split : looks = past ++ look :: later)
        : ByLastRaised past ∧ OpensElsewhere (past.map (·.level)) := by
      subst split
      constructor
      · rintro front level announced back rfl
        exact byLast front level announced (back ++ look :: later) (by simp)
      · intro front level back split
        exact elsewhere front level (back ++ (look :: later).map (·.level)) (by simp [split])
    constructor
    · rintro past level announced later rfl calm
      have other : lastRaised (past.map (·.level)) ≠ some level :=
        elsewhere _ level (later.map (·.level)) (by simp) calm
      exact (byLast past level announced later rfl).mpr other
    · rintro past level announced later split episode
      obtain ⟨earlier, opened⟩ := before split
      rw [lastAnnounced_eq earlier opened episode]
      exact byLast past level announced later split

end StorageBallast.Episodes
