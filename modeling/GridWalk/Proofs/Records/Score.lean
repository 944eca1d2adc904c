import GridWalk.Records.Ledger
import Mathlib.Data.Finset.Card
import Mathlib.Data.List.Induction

/-! The score of a ledger. The count of points keeps the completed levels apart and holds the most points once it reaches
    them, so at every record it stands at ten points for each level completed so far, up to the most there are. -/

namespace GridWalk.Ledger
variable {l l' : Ledger} {r : Record} {level : Int}

/-- The levels that were completed. -/
def completed (l : Ledger) : Finset Int := ((l.filter (·.success)).map (·.level)).toFinset

theorem mem_completed_iff : level ∈ completed l ↔ ∃ r ∈ l, r.success = true ∧ r.level = level := by
  simp only [completed, List.mem_toFinset, List.mem_map, List.mem_filter, and_assoc]

theorem completed_mono (h : l ⊆ l') : completed l ⊆ completed l' := by
  intro level hlevel
  obtain ⟨r, hr, hsuccess⟩ := mem_completed_iff.mp hlevel
  exact mem_completed_iff.mpr ⟨r, h hr, hsuccess⟩

theorem completed_concat (hsuccess : r.success = true) : completed (l ++ [r]) = insert r.level (completed l) := by
  ext level
  simp only [mem_completed_iff, Finset.mem_insert, List.mem_append, List.mem_singleton]
  constructor
  · rintro ⟨q, hq | rfl, hrest⟩
    · exact .inr ⟨q, hq, hrest⟩
    · exact .inl hrest.2.symm
  · rintro (rfl | ⟨q, hq, hrest⟩)
    · exact ⟨r, .inr rfl, hsuccess, rfl⟩
    · exact ⟨q, .inl hq, hrest⟩

/-- A record that completes no further level adds none to those that were completed, wherever it stands. -/
theorem completed_insert (h : r.success = true → r.level ∈ completed (l ++ l')) :
    completed (l ++ r :: l') = completed (l ++ l') := by
  refine Finset.Subset.antisymm (fun level hlevel => ?_) (completed_mono ?_)
  · obtain ⟨q, hq, hsuccess, rfl⟩ := mem_completed_iff.mp hlevel
    rcases List.mem_cons.mp (List.perm_middle.mem_iff.mp hq) with rfl | hq
    · exact h hsuccess
    · exact mem_completed_iff.mpr ⟨q, hq, hsuccess, rfl⟩
  · exact (List.sublist_cons_self r l').append_left l |>.subset

/-! ### The count -/

/-- The count has each completed level once, and the points for them up to the most there are. -/
structure Tally.Counts (t : Tally) (l : Ledger) : Prop where
  nodup : t.completed.Nodup
  levels : t.completed.toFinset = Ledger.completed l
  points : t.points = min maxScore (levelPoints * t.completed.length)

theorem Tally.Counts.mem_iff {t : Tally} (h : t.Counts l) : level ∈ t.completed ↔ level ∈ Ledger.completed l := by
  rw [← h.levels, List.mem_toFinset]

/-- One more record. -/
theorem Tally.Counts.count {t : Tally} (h : t.Counts l) (r : Record) : (t.count r).Counts (l ++ [r]) := by
  rw [Tally.count]
  split
  · rename_i hnew
    obtain ⟨hsuccess, hnot⟩ : r.success = true ∧ r.level ∉ t.completed := by simpa using hnew
    exact {
      nodup := List.nodup_cons.mpr ⟨hnot, h.nodup⟩
      levels := by rw [List.toFinset_cons, h.levels, completed_concat hsuccess]
      points := by
        -- Points cut off before stay cut off.
        change min maxScore (t.points + levelPoints) = _
        rw [h.points, List.length_cons, maxScore, levelPoints]
        omega }
  · rename_i hold
    have hcompleted : r.success = true → r.level ∈ Ledger.completed (l ++ []) := by
      rw [List.append_nil]
      intro hsuccess
      rw [← h.mem_iff]
      simpa [hsuccess] using hold
    exact { h with levels := by rw [completed_insert hcompleted, List.append_nil, h.levels] }

theorem counts_foldl (l : Ledger) : (l.foldl Tally.count {}).Counts l := by
  induction l using List.reverseRecOn with
  | nil => exact ⟨.nil, rfl, rfl⟩
  | append_singleton l r ih =>
    rw [List.foldl_append]
    exact ih.count r

theorem score_eq (l : Ledger) : score l = min 150 (10 * (completed l).card) := by
  have hcounts := counts_foldl l
  rw [score, hcounts.points, ← hcounts.levels, List.toFinset_card_of_nodup hcounts.nodup]
  rfl

/-! ### What the score is -/

theorem score_mono (h : completed l ⊆ completed l') : score l ≤ score l' := by
  rw [score_eq, score_eq]
  have hcard := Finset.card_le_card h
  omega

/-- The score is ten points for each level that was completed, at most 150 in all. It depends neither on the order of the
    records nor on how often one is there, never falls with further records, and stays as it is where a record fails or
    completes a level again. -/
theorem score_counts_completed :
    (∀ l, score l = min 150 (10 * (completed l).card)) ∧
    (∀ l l' : Ledger, (∀ r, r ∈ l ↔ r ∈ l') → score l = score l') ∧
    (∀ l more : Ledger, score l ≤ score (l ++ more)) ∧
    ∀ (l l' : Ledger) r, (r.success = true → ∃ q ∈ l ++ l', q.success = true ∧ q.level = r.level) →
      score (l ++ r :: l') = score (l ++ l') := by
  refine ⟨score_eq, fun l l' h => ?_, fun l more => ?_, fun l l' r h => ?_⟩
  · exact Nat.le_antisymm (score_mono (completed_mono fun r => (h r).mp)) (score_mono (completed_mono fun r => (h r).mpr))
  · exact score_mono (completed_mono (List.subset_append_left l more))
  · rw [score_eq, score_eq, completed_insert fun hsuccess => mem_completed_iff.mpr (h hsuccess)]

/-- A level that failed, was completed and completed again, and another level that was completed. -/
def replayed : Ledger := [⟨2, 3, 9, false, false⟩, ⟨2, 3, 9, true, true⟩, ⟨-1, 1, 4, true, true⟩]

theorem replayed_counts_completed : score replayed = min 150 (10 * (completed replayed).card) ∧ score replayed = 20 ∧
    score replayed = score (replayed.reverse ++ replayed) ∧
    score (replayed ++ [⟨2, 1, 1, true, true⟩]) = score replayed := by
  obtain ⟨hscore, hsame, -, hkeep⟩ := score_counts_completed
  refine ⟨hscore replayed, by decide, hsame _ _ fun r => ?_, ?_⟩
  · rw [List.mem_append, List.mem_reverse, or_self]
  · refine (hkeep replayed [] _ fun _ => ?_).trans (by rw [List.append_nil])
    exact ⟨⟨2, 3, 9, true, true⟩, by decide, rfl, rfl⟩

end GridWalk.Ledger
