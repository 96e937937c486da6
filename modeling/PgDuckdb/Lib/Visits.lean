import Mathlib.Data.List.Induction
import Mathlib.Logic.Function.Basic
import PgDuckdb.Lib.Run

/-!
# Work that is remembered by version

A process comes to keys, each time at some version of the key. It remembers the version at which it came to
each key last, and has nothing to do where the version is still the same. What it remembers is the version
that it came to, whether or not its work there was whole.

`Memory.Sound` says of a visit that only what was done as a whole is passed over, and `sound_iff_settled` in
which histories this is so at every visit.
-/

namespace PgDuckdb.Lib.Visits

/-- What happens to the memory. A visit says whether the work of the key can be done as a whole then. -/
inductive Event (κ ν : Type)
  | forget
  | visit (key : κ) (version : ν) (whole : Prop)

section
variable {κ ν : Type}

/-- The key is not come to, and nothing is forgotten. -/
def Event.Quiet (key : κ) : Event κ ν → Prop
  | .forget => False
  | .visit key' _ _ => key' ≠ key

/-- The process came to the key at this version last, and has not forgotten it since. -/
def Last (key : κ) (version : ν) (events : List (Event κ ν)) : Prop :=
  ∃ before whole between, events = before ++ .visit key version whole :: between ∧
    ∀ e ∈ between, e.Quiet key

/-- At some visit of the key at this version the work could be done as a whole. -/
def Whole (key : κ) (version : ν) (events : List (Event κ ν)) : Prop :=
  ∃ whole, .visit key version whole ∈ events ∧ whole

/-- Whenever the process comes to a key at the version at which it came to it last, the work could be done as
a whole at that version before. -/
def Settled (events : List (Event κ ν)) : Prop :=
  ∀ before key version whole after, events = before ++ .visit key version whole :: after →
    Last key version before → Whole key version before

/-- The versions that are remembered, and what was done as a whole. -/
structure Memory (κ ν : Type) where
  known : κ → Option ν
  done : κ → ν → Prop

/-- Nothing is remembered or done. -/
def Memory.empty : Memory κ ν := ⟨fun _ => none, fun _ _ => False⟩

variable [DecidableEq κ]

/-- One event. What is remembered is passed over. -/
def Memory.step (m : Memory κ ν) : Event κ ν → Memory κ ν
  | .forget => { m with known := fun _ => none }
  | .visit key version whole =>
    { known := Function.update m.known key (some version)
      done := fun k v => m.done k v ∨ (m.known key ≠ some version ∧ whole) ∧ k = key ∧ v = version }

/-- Only what was done as a whole is passed over. -/
def Memory.Sound (m : Memory κ ν) : Event κ ν → Prop
  | .forget => True
  | .visit key version _ => m.known key = some version → m.done key version

variable {key : κ} {version : ν} {events : List (Event κ ν)} {e : Event κ ν}

omit [DecidableEq κ] in
/-- The last visit after one more event. -/
theorem last_concat_iff : Last key version (events ++ [e]) ↔
    (∃ whole, e = .visit key version whole) ∨ Last key version events ∧ e.Quiet key := by
  constructor
  · rintro ⟨before, whole, between, heq, hquiet⟩
    obtain rfl | ⟨between, e', rfl⟩ := List.eq_nil_or_concat' between
    · exact .inl ⟨whole, List.head_eq_of_cons_eq (List.append_inj_right' heq rfl)⟩
    · have hsplit : events ++ [e] = (before ++ .visit key version whole :: between) ++ [e'] := by simpa using heq
      obtain ⟨rfl, rfl⟩ : events = before ++ .visit key version whole :: between ∧ e = e' := by
        simpa using List.append_inj' hsplit rfl
      refine .inr ⟨⟨before, whole, between, rfl, fun x hx => hquiet x (by simp [hx])⟩, hquiet e (by simp)⟩
  · rintro (⟨whole, rfl⟩ | ⟨⟨before, whole, between, rfl, hquiet⟩, he⟩)
    · exact ⟨events, whole, [], rfl, by simp⟩
    · refine ⟨before, whole, between ++ [e], by simp, fun x hx => ?_⟩
      obtain hx | hx := List.mem_append.1 hx
      · exact hquiet x hx
      · exact List.mem_singleton.1 hx ▸ he

/-- What is remembered is the version of the last visit. -/
theorem known_iff_last : (events.foldl Memory.step .empty).known key = some version ↔
    Last key version events := by
  induction events using List.reverseRecOn with
  | nil => simp [Memory.empty, Last]
  | append_singleton events e ih =>
    rw [List.foldl_append, last_concat_iff, ← ih]
    cases e with
    | forget => simp [Memory.step, Event.Quiet]
    | visit key' version' whole =>
      by_cases hkey : key' = key
      · subst hkey
        have hsame : (∃ w, (.visit key' version' whole : Event κ ν) = .visit key' version w) ↔ version' = version :=
          ⟨fun ⟨_, h⟩ => (Event.visit.inj h).2.1, fun h => ⟨whole, by rw [h]⟩⟩
        rw [hsame]
        simp [Memory.step, Event.Quiet]
      · simp [Memory.step, Event.Quiet, Function.update_of_ne (Ne.symm hkey), hkey]

/-- What was done could be done. -/
theorem whole_of_done (h : (events.foldl Memory.step .empty).done key version) : Whole key version events := by
  induction events using List.reverseRecOn with
  | nil => exact h.elim
  | append_singleton events e ih =>
    rw [List.foldl_append] at h
    have hbefore : Whole key version events → Whole key version (events ++ [e]) :=
      fun ⟨whole, hmem, hwhole⟩ => ⟨whole, List.mem_append_left _ hmem, hwhole⟩
    cases e with
    | forget => exact hbefore (ih h)
    | visit key' version' whole =>
      obtain hdone | ⟨⟨-, hwhole⟩, rfl, rfl⟩ := h
      · exact hbefore (ih hdone)
      · exact ⟨whole, by simp, hwhole⟩

/-- Where nothing else was passed over, what could be done was done. -/
theorem done_of_whole (hsound : StepsOk Memory.step Memory.Sound .empty events)
    (h : Whole key version events) : (events.foldl Memory.step .empty).done key version := by
  induction events using List.reverseRecOn with
  | nil => simp [Whole] at h
  | append_singleton events e ih =>
    rw [stepsOk_append] at hsound
    obtain ⟨hsound, hlast, -⟩ := hsound
    rw [List.foldl_append]
    obtain ⟨whole, hmem, hwhole⟩ := h
    obtain hmem | hmem := List.mem_append.1 hmem
    · have hdone := ih hsound ⟨whole, hmem, hwhole⟩
      cases e with
      | forget => exact hdone
      | visit key' version' whole' => exact .inl hdone
    · obtain rfl := List.mem_singleton.1 hmem
      by_cases hknown : (events.foldl Memory.step .empty).known key = some version
      · exact .inl (hlast hknown)
      · exact .inr ⟨⟨hknown, hwhole⟩, rfl, rfl⟩

/-- Only what was done as a whole is passed over if and only if the history is settled. -/
theorem sound_iff_settled :
    StepsOk Memory.step Memory.Sound .empty events ↔ Settled events := by
  constructor
  · rintro hsound before key version whole after rfl hlast
    exact whole_of_done (hsound.at (known_iff_last.2 hlast))
  · intro hsettled
    induction events using List.reverseRecOn with
    | nil => trivial
    | append_singleton events e ih =>
      have hbefore : StepsOk Memory.step Memory.Sound .empty events := ih fun before key version whole after heq =>
        hsettled before key version whole (after ++ [e]) (by simp [heq])
      refine stepsOk_append.2 ⟨hbefore, ?_, trivial⟩
      cases e with
      | forget => trivial
      | visit key version whole =>
        intro hknown
        exact done_of_whole hbefore (hsettled events key version whole [] rfl (known_iff_last.1 hknown))

end

end PgDuckdb.Lib.Visits
