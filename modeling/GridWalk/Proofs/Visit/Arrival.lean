import GridWalk.Proofs.Command.Acceptance
import GridWalk.Proofs.Walk.Delivery
import GridWalk.Visit.Actions

/-! Where accepted texts lead. What is accepted on an advanced level leads to the door if nothing lies on
    the way, and the door stops a walk, so the walk of an accepted text never runs out of moves. -/

namespace GridWalk
open Command Walk

/-- A walk whose moves lead to the door stops there or before. -/
theorem Walk.Plain.firstStop?_ne_none {level : Level} {moves : List Move} (hne : moves ≠ [])
    (harrives : Move.destination level.start moves = level.door) :
    Plain.firstStop? level (Move.strides moves) ≠ none := by
  intro hnone
  have hclear := Plain.firstStop?_eq_none_iff.mp hnone (Move.unitSteps moves) (Move.unitSteps_pos hne)
    (Move.length_strides moves).ge
  have hdoor : level.terrain? level.door = some .door := level.door_terrain
  rw [Plain.place_strides, harrives, Plain.stops_of_terrain hdoor] at hclear
  cases hclear

namespace Visit

theorem options_eq (v : Visit) : v.options =
    Options.ofPlaces (some v.level.number) (some v.level.start) (some v.level.door) v.requireComma
      v.level.allowsLoops := rfl

/-- The moves of a text that is accepted on an advanced level lead to its door. -/
theorem arrives_of_accepts {v : Visit} {text : String} (hlo : 14 ≤ v.level.number) (hhi : v.level.number ≤ 20)
    (h : v.options.accepts text = true) :
    movesOf text ≠ [] ∧ Move.destination v.level.start (movesOf text) = v.level.door := by
  rw [options_eq] at h
  obtain ⟨-, hclean, hfits⟩ := accepts_iff_clean.mp h
  exact ⟨(derives_of_clean _ hclean).unroll_ne_nil hfits.nonempty, hfits.arrives _ rfl hlo hhi _ _ rfl rfl⟩

/-- From level 14 to level 20 the walk of an accepted text ends at a hazard or at a door, and its last event
    tells so. -/
theorem accepted_walk_not_running (level : Level) (requireComma : Bool) (text : String)
    (hlo : 14 ≤ level.number) (hhi : level.number ≤ 20)
    (h : ({ level, requireComma } : Visit).options.accepts text = true) :
    ∃ s, simulate level (movesOf text) = some s ∧ s.outcome ≠ .running ∧
      ∃ e, (events level (movesOf text)).getLast? = some e ∧ e.kind ≠ .exhausted := by
  obtain ⟨hne, harrives⟩ := arrives_of_accepts (v := { level, requireComma }) hlo hhi h
  have hout := Plain.outcome_ne_running (Plain.firstStop?_ne_none hne harrives)
  have hwhole := whole_eq level (movesOf text)
  refine ⟨Plain.state level (Move.strides (movesOf text)), ?_, hout, ?_⟩
  · rw [simulate, hwhole]
  · refine ⟨Plain.finalEvent level (Move.strides (movesOf text)), ?_, Plain.finalKind_ne_exhausted hout⟩
    rw [events, hwhole]
    exact Plain.getLast?_events

/-- The lane as a level of the advanced band. -/
def corridor : Level := { lane with number := 15 }

theorem corridor_walk_not_running :
    14 ≤ corridor.number ∧ corridor.number ≤ 20 ∧
      ({ level := corridor } : Visit).options.accepts "(d1)x2" = true ∧
      ∃ s, simulate corridor (movesOf "(d1)x2") = some s ∧ s.outcome ≠ .running ∧
        ∃ e, (events corridor (movesOf "(d1)x2")).getLast? = some e ∧ e.kind ≠ .exhausted :=
  have haccepts : ({ level := corridor } : Visit).options.accepts "(d1)x2" = true := by decide +kernel
  ⟨by decide, by decide, haccepts,
    accepted_walk_not_running corridor true "(d1)x2" (by decide) (by decide) haccepts⟩

end Visit
end GridWalk
