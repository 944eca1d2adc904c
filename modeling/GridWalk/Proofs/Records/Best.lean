import GridWalk.Records.Ledger
import Mathlib.Data.List.Basic
import Mathlib.Data.List.Induction
import Mathlib.Data.Prod.Lex

/-! The best record of a level. Records are compared by what they cost, the commands before the time. One pass through the
    ledger keeps a record that costs less than every one before it and no more than any one behind it, so what it ends
    with is the first of the records that no other one beats. -/

namespace GridWalk

namespace Record
variable {a b : Record}

/-- What a visit cost: the commands that it used and, after them, the time that it took. -/
def cost (r : Record) : Int ×ₗ Int := toLex (r.commandsUsed, r.timeTaken)

/-- The record says that the level was completed. -/
def Completes (level : Int) (r : Record) : Prop := r.level = level ∧ r.success = true

instance (level : Int) : DecidablePred (Completes level) := fun _ => inferInstanceAs (Decidable (_ ∧ _))

theorem cost_eq_iff : a.cost = b.cost ↔ a.commandsUsed = b.commandsUsed ∧ a.timeTaken = b.timeTaken := by
  rw [cost, cost, toLex_inj, Prod.mk.injEq]

/-- The better record is the one that costs less. -/
theorem beats_iff : a.beats b = true ↔ a.cost < b.cost := by
  rw [beats, cost, cost, Prod.Lex.toLex_lt_toLex]
  by_cases h : a.commandsUsed = b.commandsUsed
  · simp [h]
  · simp [h]

theorem beats_eq_false_iff : a.beats b = false ↔ b.cost ≤ a.cost := by
  rw [Bool.eq_false_iff, Ne, beats_iff, not_lt]

theorem isStrictWeakOrder_beats : IsStrictWeakOrder Record fun a b => a.beats b = true where
  irrefl a h := lt_irrefl a.cost (beats_iff.mp h)
  trans a b c hab hbc := beats_iff.mpr ((beats_iff.mp hab).trans (beats_iff.mp hbc))
  incomp_trans a b c hab hbc := by
    simp only [Bool.not_eq_true, beats_eq_false_iff] at hab hbc ⊢
    exact ⟨hbc.1.trans hab.1, hab.2.trans hbc.2⟩

end Record

namespace Ledger
variable {level : Int} {l : Ledger} {r : Record}

/-- The record completed the level, and none of the ledger that did beats it. -/
def Unbeaten (level : Int) (l : Ledger) (r : Record) : Prop :=
  r.Completes level ∧ ∀ q ∈ l, q.Completes level → q.beats r = false

instance (level : Int) (l : Ledger) : DecidablePred (Unbeaten level l) := fun _ => inferInstanceAs (Decidable (_ ∧ _))

/-- What a pass through the ledger ends with: nothing if no record completed the level, or a record that costs less than
    those before it that did and no more than those behind it. -/
inductive Passed (level : Int) (l : Ledger) : Option Record → Prop
  | nothing (h : ∀ r ∈ l, ¬r.Completes level) : Passed level l none
  | record {before after : Ledger} {r : Record} (hl : l = before ++ r :: after) (hr : r.Completes level)
      (hbefore : ∀ q ∈ before, q.Completes level → r.cost < q.cost)
      (hafter : ∀ q ∈ after, q.Completes level → r.cost ≤ q.cost) : Passed level l (some r)

theorem better_of_not_completes (h : ¬r.Completes level) (best : Option Record) : better level best r = best := by
  unfold better
  rw [if_pos]
  simpa [Record.Completes, imp_iff_not_or] using h

theorem better_none (h : r.Completes level) : better level none r = some r := by
  unfold better
  rw [if_neg (by simp [h.1, h.2])]

theorem better_some (h : r.Completes level) (b : Record) :
    better level (some b) r = if r.beats b then some r else some b := by
  unfold better
  rw [if_neg (by simp [h.1, h.2])]

/-- A record that is not better is passed over. -/
theorem Passed.over {b : Record} (h : Passed level l (some b)) (hle : r.Completes level → b.cost ≤ r.cost) :
    Passed level (l ++ [r]) (some b) := by
  cases h with
  | record hl hb hbefore hafter =>
    refine .record (by rw [hl, List.append_assoc, List.cons_append]) hb hbefore fun q hq hcompletes => ?_
    rcases List.mem_append.mp hq with hq | hq
    · exact hafter q hq hcompletes
    · obtain rfl := List.mem_singleton.mp hq
      exact hle hcompletes

/-- A better record is taken: what was not better than the old one is worse than the new one. -/
theorem Passed.taken {b : Record} (h : Passed level l (some b)) (hr : r.Completes level) (hlt : r.cost < b.cost) :
    Passed level (l ++ [r]) (some r) := by
  cases h with
  | record hl _ hbefore hafter =>
    refine .record rfl hr (fun q hq hcompletes => ?_) nofun
    rw [hl, List.mem_append, List.mem_cons] at hq
    rcases hq with hq | rfl | hq
    · exact hlt.trans (hbefore q hq hcompletes)
    · exact hlt
    · exact hlt.trans_le (hafter q hq hcompletes)

/-- One more record. -/
theorem Passed.concat {best : Option Record} (h : Passed level l best) (r : Record) :
    Passed level (l ++ [r]) (better level best r) := by
  by_cases hr : r.Completes level
  · cases best with
    | none =>
      cases h with
      | nothing hnone =>
        rw [better_none hr]
        exact .record rfl hr (fun q hq hcompletes => absurd hcompletes (hnone q hq)) nofun
    | some b =>
      rw [better_some hr]
      split
      · rename_i hbeats
        exact h.taken hr (Record.beats_iff.mp hbeats)
      · rename_i hbeats
        exact h.over fun _ => Record.beats_eq_false_iff.mp (Bool.eq_false_iff.mpr hbeats)
  · rw [better_of_not_completes hr]
    cases best with
    | none =>
      cases h with
      | nothing hnone => exact .nothing (List.forall_mem_append.mpr ⟨hnone, List.forall_mem_singleton.mpr hr⟩)
    | some b => exact h.over fun hcompletes => absurd hcompletes hr

theorem best_concat (level : Int) (l : Ledger) (r : Record) : best level (l ++ [r]) = better level (best level l) r :=
  List.foldl_concat _ _ _ _

theorem passed_best (level : Int) (l : Ledger) : Passed level l (best level l) := by
  induction l using List.reverseRecOn with
  | nil => exact .nothing nofun
  | append_singleton l r ih =>
    rw [best_concat]
    exact ih.concat r

/-! ### What the best record is -/

theorem Passed.mem (h : Passed level l (some r)) : r ∈ l ∧ r.Completes level := by
  cases h with
  | record hl hr => exact ⟨hl ▸ List.mem_append_right _ List.mem_cons_self, hr⟩

theorem Passed.cost_le (h : Passed level l (some r)) {q : Record} (hq : q ∈ l) (hcompletes : q.Completes level) :
    r.cost ≤ q.cost := by
  cases h with
  | record hl _ hbefore hafter =>
    rw [hl, List.mem_append, List.mem_cons] at hq
    rcases hq with hq | rfl | hq
    · exact (hbefore q hq hcompletes).le
    · exact le_refl _
    · exact hafter q hq hcompletes

theorem Passed.unbeaten (h : Passed level l (some r)) : Unbeaten level l r :=
  ⟨h.mem.2, fun _ hq hcompletes => Record.beats_eq_false_iff.mpr (h.cost_le hq hcompletes)⟩

theorem passed_of_best {best? : Option Record} (h : best level l = best?) : Passed level l best? :=
  h ▸ passed_best level l

theorem best_eq_none_iff : best level l = none ↔ ∀ r ∈ l, ¬r.Completes level := by
  cases hbest : best level l with
  | none =>
    cases passed_of_best hbest with
    | nothing hnone => exact iff_of_true rfl hnone
  | some r =>
    obtain ⟨hmem, hcompletes⟩ := (passed_of_best hbest).mem
    exact iff_of_false nofun fun hnone => hnone r hmem hcompletes

theorem Passed.find?_unbeaten {best? : Option Record} (h : Passed level l best?) :
    l.find? (Unbeaten level l) = best? := by
  cases best? with
  | none =>
    cases h with
    | nothing hnone => exact List.find?_eq_none.mpr fun r hr hunbeaten => hnone r hr (of_decide_eq_true hunbeaten).1
  | some r =>
    have hunbeaten := h.unbeaten
    have hmem := h.mem.1
    cases h with
    | record hl hr hbefore =>
      refine List.find?_eq_some_iff_append.mpr ⟨decide_eq_true hunbeaten, _, _, hl, fun q hq => ?_⟩
      -- What stands before it is beaten by it.
      rw [Bool.not_eq_true', decide_eq_false_iff_not]
      rintro ⟨hcompletes, hnot⟩
      have hbeats := Record.beats_iff.mpr (hbefore q hq hcompletes)
      rw [hnot r hmem hr] at hbeats
      cases hbeats

/-- In whatever order the records come, the best one costs the same. -/
theorem cost_best_of_perm {l' : Ledger} (h : l.Perm l') :
    (best level l).map Record.cost = (best level l').map Record.cost := by
  cases hbest : best level l with
  | none => rw [best_eq_none_iff.mpr fun r hr => best_eq_none_iff.mp hbest r (h.mem_iff.mpr hr)]
  | some r =>
    have hpassed := passed_of_best hbest
    cases hbest' : best level l' with
    | none => exact absurd hpassed.mem.2 (best_eq_none_iff.mp hbest' r (h.mem_iff.mp hpassed.mem.1))
    | some r' =>
      have hpassed' := passed_of_best hbest'
      refine congrArg some (le_antisymm ?_ ?_)
      · exact hpassed.cost_le (h.mem_iff.mpr hpassed'.mem.1) hpassed'.mem.2
      · exact hpassed'.cost_le (h.mem_iff.mp hpassed.mem.1) hpassed.mem.2

/-- Further records leave no worse best record. -/
theorem best_append (h : best level l = some r) (more : Ledger) :
    ∃ r', best level (l ++ more) = some r' ∧ r.beats r' = false := by
  obtain ⟨hmem, hcompletes⟩ := (passed_of_best h).mem
  have hmem : r ∈ l ++ more := List.mem_append_left _ hmem
  cases hbest : best level (l ++ more) with
  | none => exact absurd hcompletes (best_eq_none_iff.mp hbest r hmem)
  | some r' => exact ⟨r', rfl, Record.beats_eq_false_iff.mpr ((passed_of_best hbest).cost_le hmem hcompletes)⟩

/-- Records are ordered by what they cost, and the best record of a level is an optimum of that order: the first record of
    the ledger that completed the level and is beaten by none that did. Its cost is the least, does not depend on the
    order of the records, and does not grow with further ones. -/
theorem best_is_optimum :
    (IsStrictWeakOrder Record fun a b => a.beats b = true) ∧
    (∀ a b : Record, a.beats b = false ∧ b.beats a = false ↔
      a.commandsUsed = b.commandsUsed ∧ a.timeTaken = b.timeTaken) ∧
    ∀ level (l : Ledger),
      (best level l = none ↔ ∀ r ∈ l, r.level = level → r.success = false) ∧
      best level l = l.find? (Unbeaten level l) ∧
      (∀ r, best level l = some r → ∀ q ∈ l, q.Completes level → r.cost ≤ q.cost) ∧
      (∀ l', l.Perm l' → (best level l).map Record.cost = (best level l').map Record.cost) ∧
      ∀ more r, best level l = some r → ∃ r', best level (l ++ more) = some r' ∧ r.beats r' = false := by
  refine ⟨Record.isStrictWeakOrder_beats, fun a b => ?_, fun level l => ⟨?_, ?_, ?_, ?_, ?_⟩⟩
  · rw [Record.beats_eq_false_iff, Record.beats_eq_false_iff, ← le_antisymm_iff, eq_comm, Record.cost_eq_iff]
  · simp only [best_eq_none_iff, Record.Completes, not_and, Bool.not_eq_true]
  · exact (passed_best level l).find?_unbeaten.symm
  · exact fun r h q hq hcompletes => (passed_of_best h).cost_le hq hcompletes
  · exact fun l' h => cost_best_of_perm h
  · exact fun more r h => best_append h more

/-- Visits to two levels, with a failure that cost nothing and two records that cost the same. -/
def evening : Ledger := [⟨3, 5, 20, false, true⟩, ⟨3, 0, 0, false, false⟩, ⟨4, 1, 1, true, true⟩, ⟨3, 4, 30, true, true⟩,
  ⟨3, 4, 30, false, true⟩]

theorem evening_best_is_optimum : best 3 evening = some ⟨3, 4, 30, true, true⟩ ∧
    (∀ q ∈ evening, q.Completes 3 → (⟨3, 4, 30, true, true⟩ : Record).cost ≤ q.cost) ∧
    (best 3 evening).map Record.cost = (best 3 evening.reverse).map Record.cost ∧
    ∃ r, best 3 (evening ++ [⟨3, 4, -1, false, true⟩]) = some r ∧ Record.beats ⟨3, 4, 30, true, true⟩ r = false := by
  obtain ⟨-, -, h⟩ := best_is_optimum
  obtain ⟨-, -, hleast, hperm, happend⟩ := h 3 evening
  have hbest : best 3 evening = some ⟨3, 4, 30, true, true⟩ := by decide
  exact ⟨hbest, hleast _ hbest, hperm _ (List.reverse_perm _).symm, happend _ _ hbest⟩

end Ledger
end GridWalk
