import GridWalk.Proofs.Command.Recognition
import GridWalk.Proofs.Program.Unrolled

/-! Which texts are accepted. The checks look at the flags of a reading, at its terms and at the moves it
    makes, in a fixed order and also where the text is faulty; together they accept the texts of the
    grammar whose program fits the level. -/

namespace GridWalk.Command

/-- Options whose start and door are places. -/
def Options.ofPlaces (level : Option Int) (start door : Option Position) (requireComma allowsLoops : Bool) :
    Options where
  level := level
  start := start.map (·.coordinates)
  door := door.map (·.coordinates)
  requireComma := requireComma
  allowsLoops := allowsLoops

/-- The program has a term, its moves have one to fifteen steps, and there are loops only where they are
    allowed. From level 14 to level 20 each loop repeats at least twice, and where both places are given
    the moves lead from the start to the door. -/
structure Fits (level : Option Int) (start door : Option Position) (allowsLoops : Bool) (p : Program) : Prop where
  nonempty : p ≠ []
  steps : ∀ m ∈ p.writtenMoves, 1 ≤ m.steps ∧ m.steps ≤ 15
  loops : allowsLoops = false → ∀ t ∈ p, t.isLoop = false
  repeated : ∀ n, level = some n → 14 ≤ n → n ≤ 20 → ∀ body times, Term.loop body times ∈ p → 2 ≤ times
  arrives : ∀ n, level = some n → 14 ≤ n → n ≤ 20 →
    ∀ s d, start = some s → door = some d → Move.destination s p.unroll = d

variable {level : Option Int} {start door : Option Position} {requireComma allowsLoops : Bool}

/-! ### The pattern rules -/

theorem isAdvanced_iff : Level.isAdvanced level = true ↔ ∃ n, level = some n ∧ 14 ≤ n ∧ n ≤ 20 := by
  cases level with
  | none => simp [Level.isAdvanced]
  | some n => simp [Level.isAdvanced]

theorem repeatsTooFew_loop (body : List Move) (times : Int) :
    repeatsTooFew (.loop body times) = false ↔ 2 ≤ times := by
  rw [repeatsTooFew, decide_eq_false_iff_not, Int.not_lt]
  rfl

theorem any_repeatsTooFew_eq_false_iff {p : Program} :
    p.any repeatsTooFew = false ↔ ∀ body times, Term.loop body times ∈ p → 2 ≤ times := by
  simp only [List.any_eq_false, Bool.not_eq_true]
  constructor
  · exact fun h body times hmem => (repeatsTooFew_loop body times).mp (h _ hmem)
  · intro h t ht
    cases t with
    | move m => rfl
    | loop body times => exact (repeatsTooFew_loop body times).mpr (h body times ht)

theorem doorRejection?_eq_none_iff {s d : Position} {p : Program} :
    doorRejection? s.coordinates d.coordinates p = none ↔ Move.destination s p.unroll = d := by
  rw [doorRejection?, Position.ofCoordinates_coordinates, Program.destination_unroll]
  simp only [ite_eq_left_iff, reduceCtorEq, imp_false, not_not, Position.coordinates_inj]

theorem patternRejection?_eq_none_iff {p : Program} :
    (Options.ofPlaces level start door requireComma allowsLoops).patternRejection? p = none ↔
      ∀ n, level = some n → 14 ≤ n → n ≤ 20 →
        (∀ body times, Term.loop body times ∈ p → 2 ≤ times) ∧
          ∀ s d, start = some s → door = some d → Move.destination s p.unroll = d := by
  have hadv : (Options.ofPlaces level start door requireComma allowsLoops).isAdvanced = true ↔
      ∃ n, level = some n ∧ 14 ≤ n ∧ n ≤ 20 := isAdvanced_iff
  unfold Options.patternRejection?
  split
  · -- The level is not advanced, so nothing is asked.
    rename_i hplain
    refine ⟨fun _ n hn hlo hhi => ?_, fun _ => rfl⟩
    rw [hadv.mpr ⟨n, hn, hlo, hhi⟩] at hplain
    cases hplain
  · rename_i hadvanced
    obtain ⟨n, rfl, hlo, hhi⟩ := hadv.mp (by simpa using hadvanced)
    have hlevel : ∀ P : Prop, (∀ k, some n = some k → 14 ≤ k → k ≤ 20 → P) ↔ P :=
      fun P => ⟨fun h => h n rfl hlo hhi, fun h _ _ _ _ => h⟩
    rw [hlevel, ← any_repeatsTooFew_eq_false_iff]
    split
    · rename_i hfew
      simp [hfew]
    · rename_i henough
      rw [Bool.not_eq_true] at henough
      cases start with
      | none => simp [Options.ofPlaces, henough]
      | some s =>
        cases door with
        | none => simp [Options.ofPlaces, henough]
        | some d => simp [Options.ofPlaces, henough, doorRejection?_eq_none_iff]

/-! ### The rules of every level -/

theorem outOfRange_iff {m : Move} : outOfRange m = true ↔ 15 < m.steps := by
  have hpos := m.steps_pos
  have hlo : minSteps = 1 := rfl
  have hhi : maxSteps = 15 := rfl
  rw [outOfRange, Bool.or_eq_true, decide_eq_true_eq, decide_eq_true_eq]
  omega

theorem find?_outOfRange_eq_none_iff {moves : List Move} :
    moves.find? outOfRange = none ↔ ∀ m ∈ moves, 1 ≤ m.steps ∧ m.steps ≤ 15 := by
  rw [List.find?_eq_none]
  refine forall₂_congr fun m _ => ?_
  have hpos := m.steps_pos
  rw [outOfRange_iff]
  omega

/-- A chain of checks finds nothing where none of them does. -/
theorem ite_some_eq_none_iff {α : Type} {c : Prop} [Decidable c] {a : α} {x : Option α} :
    (if c then some a else x) = none ↔ ¬c ∧ x = none := by
  split <;> simp [*]

theorem loopsAllowed_iff {o : Options} {p : Program} :
    ¬(!o.allowsLoops && p.any Term.isLoop) = true ↔ (o.allowsLoops = false → ∀ t ∈ p, t.isLoop = false) := by
  rw [Bool.and_eq_true, Bool.not_eq_true', not_and, Bool.not_eq_true, List.any_eq_false]
  simp only [Bool.not_eq_true]

theorem commonRejection?_eq_none_iff {o : Options} {r : Reading} :
    o.commonRejection? r = none ↔ r.Clean o.requireComma ∧ r.terms ≠ [] ∧
      (o.allowsLoops = false → ∀ t ∈ r.terms, t.isLoop = false) ∧
      ∀ m ∈ r.terms.writtenMoves, 1 ≤ m.steps ∧ m.steps ≤ 15 := by
  rw [Options.commonRejection?, ite_some_eq_none_iff, Reading.clean_iff, Bool.not_eq_true, and_assoc]
  refine and_congr_right fun _ => ?_
  cases hfault : r.fault with
  | some fault => simp
  | none =>
    simp only [ite_some_eq_none_iff, Option.map_eq_none_iff, List.isEmpty_iff, loopsAllowed_iff,
      find?_outOfRange_eq_none_iff, true_and, ne_eq]

theorem rejection?_eq_none_iff {r : Reading} :
    (Options.ofPlaces level start door requireComma allowsLoops).rejection? r = none ↔
      r.Clean requireComma ∧ Fits level start door allowsLoops r.terms := by
  rw [Options.rejection?, Option.orElse_eq_orElse, Option.orElse_eq_or, Option.or_eq_none_iff,
    patternRejection?_eq_none_iff, commonRejection?_eq_none_iff]
  constructor
  · rintro ⟨hpattern, hclean, hne, hloops, hsteps⟩
    exact ⟨hclean, hne, hsteps, hloops, fun n hn hlo hhi => (hpattern n hn hlo hhi).1,
      fun n hn hlo hhi => (hpattern n hn hlo hhi).2⟩
  · rintro ⟨hclean, hfits⟩
    exact ⟨fun n hn hlo hhi => ⟨hfits.repeated n hn hlo hhi, hfits.arrives n hn hlo hhi⟩, hclean, hfits.nonempty,
      hfits.loops, hfits.steps⟩

/-! ### Accepted texts -/

theorem accepts_iff_clean {text : String} :
    (Options.ofPlaces level start door requireComma allowsLoops).accepts text = true ↔
      (read text).depth ≤ maxDepth ∧ (read text).Clean requireComma ∧
        Fits level start door allowsLoops (read text).terms := by
  rw [Options.accepts, Option.isNone_iff_eq_none, ← rejection?_eq_none_iff]
  unfold Options.validate
  simp only
  split
  · rename_i hdeep
    simp [Nat.not_le_of_lt hdeep]
  · rename_i hshallow
    simp [Nat.le_of_not_lt hshallow]

/-- A text is accepted exactly when it belongs to the grammar and means a program that fits, its loops
    being nested no deeper than any text may nest them. -/
theorem accepts_iff_derives (level : Option Int) (start door : Option Position) (requireComma allowsLoops : Bool)
    (text : String) :
    (Options.ofPlaces level start door requireComma allowsLoops).accepts text = true ↔
      (read text).depth ≤ maxDepth ∧
        ∃ p, Derives requireComma (normalize text) p ∧ Fits level start door allowsLoops p := by
  rw [accepts_iff_clean]
  refine and_congr_right fun _ => ?_
  constructor
  · rintro ⟨hclean, hfits⟩
    exact ⟨_, derives_iff.mpr ⟨hclean, rfl⟩, hfits⟩
  · rintro ⟨p, hp, hfits⟩
    obtain ⟨hclean, rfl⟩ := derives_iff.mp hp
    exact ⟨hclean, hfits⟩

end GridWalk.Command
