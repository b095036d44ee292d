import Mathlib.Data.Set.Basic
import Mathlib.Logic.Relation

/-!
# A broadcast, as its users see it

Messages are accepted, each with the channels that it asks for, and are meant for an audience that
changes over time. An accepted message is addressed as a whole: everyone in one of its audiences is
promised a delivery on each of its channels, and a promise is settled once.

The abstract machine takes any of these steps, in any order and as often as it likes. What users
can rely on follows from the steps: nothing that is accepted or settled is ever changed
(`Steps.accepted`, `Steps.settled`), and an audience is never addressed in part
(`Complete.steps`).
-/

namespace Broadcast

/-- What becomes of a promise. -/
inductive Fate
  | waiting
  | delivered
  | failed
deriving DecidableEq

/-- The channels of the accepted messages, the audiences they have had since, and what has been
promised to whom. -/
structure State (Id User Channel : Type) where
  channels : Id → Option (Set Channel)
  audiences : Id → Set (Set User)
  fate : Id → User → Channel → Option Fate

namespace State

variable {Id User Channel : Type}

/-- Before the first message. -/
def start : State Id User Channel where
  channels _ := none
  audiences _ := ∅
  fate _ _ _ := none

open Classical in
/-- The promises after a message has been addressed: who has been promised something before has
no second promise. -/
noncomputable def promise (s : State Id User Channel) (id : Id) (users : Set User)
    (channels : Set Channel) : Id → User → Channel → Option Fate := fun id' user channel =>
  if id' = id ∧ user ∈ users ∧ channel ∈ channels ∧ s.fate id' user channel = none then
    some .waiting
  else s.fate id' user channel

end State

/-- What can happen: any number of messages are accepted, or audiences observed, or promises
settled, or one message is addressed to an audience that it has had. -/
inductive Step {Id User Channel : Type} (s : State Id User Channel) :
    State Id User Channel → Prop
  | accept (channels : Id → Option (Set Channel))
      (h_final : ∀ id, s.channels id = none ∨ channels id = s.channels id) :
      Step s { s with channels := channels }
  | observe (audiences : Id → Set (Set User))
      (h_grow : ∀ id, s.audiences id ⊆ audiences id)
      (h_accepted : ∀ id, s.channels id = none → audiences id = s.audiences id) :
      Step s { s with audiences := audiences }
  | address (id : Id) (users : Set User) (channels : Set Channel)
      (h_accepted : s.channels id = some channels) (h_audience : users ∈ s.audiences id) :
      Step s { s with fate := s.promise id users channels }
  | settle (fate : Id → User → Channel → Option Fate)
      (h_fate : ∀ id user channel, fate id user channel = s.fate id user channel ∨
        (s.fate id user channel = some .waiting ∧ fate id user channel ≠ none)) :
      Step s { s with fate := fate }

/-- Any number of steps. -/
abbrev Steps {Id User Channel : Type} (s s' : State Id User Channel) : Prop :=
  Relation.ReflTransGen Step s s'

section Runs

variable {Id User Channel : Type} {s s' : State Id User Channel} {id : Id} {user : User}
  {channel : Channel}

open State

/-! ### What is final -/

theorem Step.accepted {channels : Set Channel} (h : Step s s')
    (h_accepted : s.channels id = some channels) : s'.channels id = some channels := by
  cases h with
  | accept channels' h_final =>
    rcases h_final id with h_none | h_same
    · exact absurd (h_none.symm.trans h_accepted) (by simp)
    · exact h_same.trans h_accepted
  | observe | address | settle => exact h_accepted

theorem Step.settled {fate : Fate} (h : Step s s') (h_fate : s.fate id user channel = some fate)
    (h_settled : fate ≠ .waiting) : s'.fate id user channel = some fate := by
  cases h with
  | accept | observe => exact h_fate
  | address id' users channels _ _ =>
    show s.promise id' users channels id user channel = some fate
    rw [promise, if_neg (by simp [h_fate]), h_fate]
  | settle fate' h_new =>
    rcases h_new id user channel with h_same | ⟨h_waiting, -⟩
    · exact h_same.trans h_fate
    · rw [h_fate] at h_waiting
      exact absurd (Option.some.inj h_waiting) h_settled

/-- A promise is not taken back. -/
theorem Step.promised (h : Step s s') (h_fate : s.fate id user channel ≠ none) :
    s'.fate id user channel ≠ none := by
  cases h with
  | accept | observe => exact h_fate
  | address id' users channels _ _ =>
    show s.promise id' users channels id user channel ≠ none
    rwa [promise, if_neg (by simp [h_fate])]
  | settle fate' h_new =>
    rcases h_new id user channel with h_same | ⟨-, h_some⟩
    · exact fun h_none => h_fate (h_same.symm.trans h_none)
    · exact h_some

/-- **What is accepted stays as it is.** -/
theorem Steps.accepted {channels : Set Channel} (h : Steps s s')
    (h_accepted : s.channels id = some channels) : s'.channels id = some channels := by
  induction h with
  | refl => exact h_accepted
  | tail _ h_step ih => exact h_step.accepted ih

/-- **What is settled stays settled.** -/
theorem Steps.settled {fate : Fate} (h : Steps s s') (h_fate : s.fate id user channel = some fate)
    (h_settled : fate ≠ .waiting) : s'.fate id user channel = some fate := by
  induction h with
  | refl => exact h_fate
  | tail _ h_step ih => exact h_step.settled ih h_settled

/-! ### Nobody is left out -/

/-- Everyone in the audience has been promised a delivery on every channel of the message. -/
def Addressed (s : State Id User Channel) (id : Id) (users : Set User) : Prop :=
  users ∈ s.audiences id ∧ ∃ channels, s.channels id = some channels ∧
    ∀ user ∈ users, ∀ channel ∈ channels, s.fate id user channel ≠ none

theorem Addressed.step {users : Set User} (h : Addressed s id users) (h_step : Step s s') :
    Addressed s' id users := by
  obtain ⟨h_seen, channels, h_accepted, h_all⟩ := h
  refine ⟨?_, channels, h_step.accepted h_accepted, fun user h_user channel h_channel => ?_⟩
  · cases h_step with
    | observe audiences h_grow _ => exact h_grow id h_seen
    | accept | address | settle => exact h_seen
  · exact h_step.promised (h_all user h_user channel h_channel)

/-- Every promise is one to someone in an audience that has been addressed as a whole, and on a
channel of the message. -/
def Complete (s : State Id User Channel) : Prop :=
  ∀ id user channel, s.fate id user channel ≠ none →
    (∃ channels, s.channels id = some channels ∧ channel ∈ channels) ∧
    ∃ users, Addressed s id users ∧ user ∈ users

theorem complete_start : Complete (start : State Id User Channel) :=
  fun _ _ _ h => absurd rfl h

/-- What is there before a step is there after it. -/
theorem Complete.kept (h : Complete s) (h_step : Step s s')
    (h_fate : s.fate id user channel ≠ none) :
    (∃ channels, s'.channels id = some channels ∧ channel ∈ channels) ∧
    ∃ users, Addressed s' id users ∧ user ∈ users := by
  obtain ⟨⟨channels, h_accepted, h_channel⟩, users, h_addressed, h_user⟩ := h id user channel h_fate
  exact ⟨⟨channels, h_step.accepted h_accepted, h_channel⟩, users, h_addressed.step h_step, h_user⟩

theorem Complete.step (h : Complete s) (h_step : Step s s') : Complete s' := by
  intro id user channel h_fate
  by_cases h_before : s.fate id user channel = none
  · -- a new promise: the message is being addressed
    cases h_step with
    | accept | observe => exact absurd h_before h_fate
    | settle fate h_new =>
      rcases h_new id user channel with h_same | ⟨h_waiting, -⟩
      · exact absurd (h_same.trans h_before) h_fate
      · exact absurd (h_before.symm.trans h_waiting) (by simp)
    | address id' users channels h_accepted h_audience =>
      by_cases h_new : id = id' ∧ user ∈ users ∧ channel ∈ channels
      · obtain ⟨rfl, h_user, h_channel⟩ := h_new
        refine ⟨⟨channels, h_accepted, h_channel⟩, users, ⟨h_audience, channels, h_accepted, ?_⟩,
          h_user⟩
        intro user' h_user' channel' h_channel'
        show s.promise id users channels id user' channel' ≠ none
        rw [promise]
        split
        · simp
        next h_not => exact fun h_none => h_not ⟨rfl, h_user', h_channel', h_none⟩
      · refine absurd ?_ h_fate
        show s.promise id' users channels id user channel = none
        rw [promise, if_neg fun h_all => h_new ⟨h_all.1, h_all.2.1, h_all.2.2.1⟩, h_before]
  · exact h.kept h_step h_before

/-- **No audience is addressed in part**, in any state that is reached from the start. -/
theorem Complete.steps (h : Steps start s) : Complete s := by
  induction h with
  | refl => exact complete_start
  | tail _ h_step ih => exact ih.step h_step

end Runs

end Broadcast
