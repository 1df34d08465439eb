import Mathlib

/-!
# Segments of a log

The entries of a log fill segments in their order: an entry goes to the newest segment if it fits there and
begins a new one otherwise. The segments are listed newest first. Nothing of the log is lost or repeated, and
only a segment of one entry can be too large.
-/

namespace Segments

variable {α : Type} (size : α → Nat) (limit : Nat)

def total (segment : List α) : Nat := (segment.map size).sum

def add (segments : List (List α)) (entry : α) : List (List α) :=
  match segments with
  | [] => [[entry]]
  | newest :: older =>
      if limit < total size newest + size entry then [entry] :: newest :: older
      else (newest ++ [entry]) :: older

variable {size limit} in
theorem add_of_full {newest : List α} {entry : α} (hfull : limit < total size newest + size entry)
    (older : List (List α)) :
    add size limit (newest :: older) entry = [entry] :: newest :: older := if_pos hfull

variable {size limit} in
theorem add_of_fitting {newest : List α} {entry : α} (hfull : ¬ limit < total size newest + size entry)
    (older : List (List α)) :
    add size limit (newest :: older) entry = (newest ++ [entry]) :: older := if_neg hfull

def ofEntries (entries : List α) : List (List α) := entries.foldl (add size limit) []

theorem ofEntries_concat (entries : List α) (entry : α) :
    ofEntries size limit (entries ++ [entry]) = add size limit (ofEntries size limit entries) entry :=
  List.foldl_append

theorem flatten_add (segments : List (List α)) (entry : α) :
    (add size limit segments entry).reverse.flatten = segments.reverse.flatten ++ [entry] := by
  cases segments with
  | nil => rfl
  | cons newest older =>
      by_cases hfull : limit < total size newest + size entry
      · rw [add_of_full hfull, List.reverse_cons, List.flatten_append, List.flatten_singleton]
      · rw [add_of_fitting hfull, List.reverse_cons, List.reverse_cons, List.flatten_append, List.flatten_append,
          List.flatten_singleton, List.flatten_singleton, List.append_assoc]

theorem flatten_ofEntries (entries : List α) : (ofEntries size limit entries).reverse.flatten = entries := by
  induction entries using List.reverseRecOn with
  | nil => rfl
  | append_singleton entries entry ih => rw [ofEntries_concat, flatten_add, ih]

/-- A segment is within the limit or holds one entry only. -/
def Fits (segment : List α) : Prop := total size segment ≤ limit ∨ segment.length = 1

theorem total_concat (segment : List α) (entry : α) :
    total size (segment ++ [entry]) = total size segment + size entry := by
  unfold total
  rw [List.map_append, List.sum_append, List.map_singleton, List.sum_singleton]

theorem fits_add {segments : List (List α)} (hfits : ∀ segment ∈ segments, Fits size limit segment)
    (entry : α) : ∀ segment ∈ add size limit segments entry, Fits size limit segment := by
  intro segment hsegment
  cases segments with
  | nil =>
      rw [List.mem_singleton.mp hsegment]
      exact Or.inr rfl
  | cons newest older =>
      by_cases hfull : limit < total size newest + size entry
      · rw [add_of_full hfull, List.mem_cons] at hsegment
        obtain rfl | holder := hsegment
        · exact Or.inr rfl
        · exact hfits segment holder
      · rw [add_of_fitting hfull, List.mem_cons] at hsegment
        obtain rfl | holder := hsegment
        · left
          rw [total_concat]
          omega
        · exact hfits segment (List.mem_cons_of_mem _ holder)

theorem fits_ofEntries (entries : List α) :
    ∀ segment ∈ ofEntries size limit entries, Fits size limit segment := by
  induction entries using List.reverseRecOn with
  | nil => exact fun segment h => by cases h
  | append_singleton entries entry ih =>
      rw [ofEntries_concat]
      exact fits_add size limit ih entry

/-- Entries that are each too large have segments of their own. -/
theorem ofEntries_of_large {entries : List α} (hlarge : ∀ entry ∈ entries, limit < size entry) :
    ofEntries size limit entries = entries.reverse.map fun entry => [entry] := by
  induction entries using List.reverseRecOn with
  | nil => rfl
  | append_singleton entries entry ih =>
      have hentry := hlarge entry (List.mem_append_right _ List.mem_cons_self)
      rw [ofEntries_concat, ih fun earlier h => hlarge earlier (List.mem_append_left _ h),
        List.reverse_append, List.map_append]
      cases entries.reverse.map fun entry => [entry] with
      | nil => rfl
      | cons newest older =>
          exact add_of_full (by omega) older

end Segments
