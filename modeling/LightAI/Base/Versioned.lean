import Mathlib

/-!
# Versioned values

A source changes its value only together with a greater version. What has been read off it at different
times is then coherent, one value to a version, and whoever keeps the newest of what reaches him, in any
order and any number of times, holds the value of the greatest version that has reached him.
-/

/-- A value under its version. -/
structure Stamped (ν γ : Type*) where
  version : ν
  content : γ

namespace Stamped

variable {ν γ : Type*} [LinearOrder ν]

/-- From `a` to `b` the version has grown, or nothing has changed. -/
def Advances (a b : Stamped ν γ) : Prop := a.version < b.version ∨ a = b

theorem Advances.refl (a : Stamped ν γ) : a.Advances a := .inr rfl

theorem Advances.trans {a b c : Stamped ν γ} (h : a.Advances b) (h' : b.Advances c) :
    a.Advances c := by
  rcases h with h | rfl
  · rcases h' with h' | rfl
    · exact .inl (h.trans h')
    · exact .inl h
  · exact h'

theorem Advances.version_le {a b : Stamped ν γ} (h : a.Advances b) : a.version ≤ b.version := by
  rcases h with h | rfl
  · exact h.le
  · exact le_rfl

/-- Nothing can have changed under the same version. -/
theorem Advances.eq_of_version_eq {a b : Stamped ν γ} (h : a.Advances b)
    (hversion : a.version = b.version) : a = b := by
  rcases h with h | h
  · exact absurd hversion h.ne
  · exact h

/-! ### What has been read -/

/-- One value to a version. -/
def Coherent (read : List (Stamped ν γ)) : Prop :=
  ∀ a ∈ read, ∀ b ∈ read, a.version = b.version → a = b

/-- What has been read so far of a source that now stands at `current`. -/
structure ReadOff (current : Stamped ν γ) (read : List (Stamped ν γ)) : Prop where
  advances : ∀ a ∈ read, a.Advances current
  coherent : Coherent read

theorem readOff_nil (current : Stamped ν γ) : ReadOff current [] where
  advances := by simp
  coherent := by simp [Coherent]

theorem ReadOff.advance {current next : Stamped ν γ} {read : List (Stamped ν γ)}
    (h : ReadOff current read) (hnext : current.Advances next) : ReadOff next read where
  advances a ha := (h.advances a ha).trans hnext
  coherent := h.coherent

/-- Reading the source once more. -/
theorem ReadOff.read {current : Stamped ν γ} {read : List (Stamped ν γ)} (h : ReadOff current read) :
    ReadOff current (read ++ [current]) where
  advances a ha := by
    rcases List.mem_append.mp ha with ha | ha
    · exact h.advances a ha
    · rw [List.mem_singleton.mp ha]
      exact .refl current
  coherent a ha b hb hversion := by
    rcases List.mem_append.mp ha with ha | ha <;> rcases List.mem_append.mp hb with hb | hb
    · exact h.coherent a ha b hb hversion
    · rw [List.mem_singleton.mp hb] at hversion ⊢
      exact (h.advances a ha).eq_of_version_eq hversion
    · rw [List.mem_singleton.mp ha] at hversion ⊢
      exact ((h.advances b hb).eq_of_version_eq hversion.symm).symm
    · rw [List.mem_singleton.mp ha, List.mem_singleton.mp hb]

/-! ### Keeping the newest -/

/-- What is held after something has arrived: the arrival, unless it is older. -/
def newest (held arrival : Stamped ν γ) : Stamped ν γ :=
  if held.version ≤ arrival.version then arrival else held

theorem version_le_newest_left (held arrival : Stamped ν γ) :
    held.version ≤ (held.newest arrival).version := by
  unfold newest
  split
  · assumption
  · exact le_rfl

theorem version_le_newest_right (held arrival : Stamped ν γ) :
    arrival.version ≤ (held.newest arrival).version := by
  unfold newest
  split
  · exact le_rfl
  · exact (not_le.mp ‹_›).le

/-- `held` is among what has arrived, and nothing newer has. -/
structure Newest (held : Stamped ν γ) (arrived : List (Stamped ν γ)) : Prop where
  mem : held ∈ arrived
  version_le : ∀ a ∈ arrived, a.version ≤ held.version

/-- The first arrival is held if it is not older than what was there before. -/
theorem newest_first {fresh arrival : Stamped ν γ} (hle : fresh.version ≤ arrival.version) :
    Newest (fresh.newest arrival) [arrival] := by
  have hnewest : fresh.newest arrival = arrival := if_pos hle
  rw [hnewest]
  refine ⟨List.mem_singleton_self arrival, fun a ha => ?_⟩
  rw [List.mem_singleton.mp ha]

theorem Newest.newest {held : Stamped ν γ} {arrived : List (Stamped ν γ)} (h : Newest held arrived)
    (arrival : Stamped ν γ) : Newest (held.newest arrival) (arrived ++ [arrival]) where
  mem := by
    unfold Stamped.newest
    split
    · simp
    · exact List.mem_append_left _ h.mem
  version_le a ha := by
    rcases List.mem_append.mp ha with ha | ha
    · exact (h.version_le a ha).trans (version_le_newest_left held arrival)
    · rw [List.mem_singleton.mp ha]
      exact version_le_newest_right held arrival

/-- Of coherent arrivals, what is held is whatever has arrived under the greatest version. -/
theorem Newest.eq_of_greatest {held : Stamped ν γ} {arrived : List (Stamped ν γ)}
    (h : Newest held arrived) (hcoherent : Coherent arrived) {a : Stamped ν γ} (ha : a ∈ arrived)
    (hgreatest : ∀ b ∈ arrived, b.version ≤ a.version) : held = a :=
  hcoherent held h.mem a ha (le_antisymm (hgreatest held h.mem) (h.version_le a ha))

end Stamped
