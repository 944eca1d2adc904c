import GridWalk.Desk
import GridWalk.Proofs.Visit.Alike
import GridWalk.Proofs.Walk.Delivery

/-! What beginning a visit anew comes to. The stepper of a visit that is begun anew still keeps the walk before, while
    that of a new visit was never used. No call can tell one from the other. -/

namespace GridWalk

open Walk (Stepper)

theorem Walk.Stepper.abortNotes_of_idle {st : Stepper} (level : Level) (h : st.inFlight = false) :
    st.abortNotes level = [] := by
  rw [Stepper.abortNotes, h]

namespace Visit

variable {σ : Type} {v u : Visit}

/-! ### What can be seen of a visit -/

/-- What a caller is answered. -/
inductive Answer
  | report (report : Report)
  | timeUp (late : Bool)
  | record (record : Option Record)
  | nothing

/-- What a call is answered. -/
def answer (env : Surroundings σ) (depth : Nat) : Request → Act σ Answer
  | .fail => Act.fail .displayLost
  | .submit text given => do return .report (← submit env depth text given)
  | .checkTime elapsed => do return .timeUp (← checkTime env elapsed)
  | .leave given => do return .record (← leave env given)
  | .restart => do
    restart env
    return .nothing

/-- What can be seen of a visit from outside. -/
structure View where
  position : Position
  completed : Bool
  timedOut : Bool
  lastCommands : Nat
  lastWalk : Option Walk.State
  inFlight : Bool

/-- What shows of a visit. -/
def view (v : Visit) : View where
  position := v.position
  completed := v.completed
  timedOut := v.timedOut
  lastCommands := v.lastCommands
  lastWalk := v.lastWalk
  inFlight := v.stepper.inFlight

/-- What comes of calls one after the other, whether they fail or not: each time the answer, what can then be seen of
    the visit, and the surroundings with all that they were shown and given to record. -/
def transcript (env : Surroundings σ) (depth : Nat) :
    List Request → Visit × σ → List (Except VisitError Answer × View × σ)
  | [], _ => []
  | call :: calls, s =>
    let out := answer env depth call s
    (out.1, out.2.1.view, out.2.2) :: transcript env depth calls out.2

/-! ### Visits that look the same -/

/-- Visits that are the same, but for what their steppers keep of walks that are over. -/
inductive Resembles : Visit → Visit → Prop
  | refl (v : Visit) : Resembles v v
  | idle (v : Visit) (st : Stepper) (hv : v.stepper.inFlight = false) (hst : st.inFlight = false) :
    Resembles { v with stepper := st } v

namespace Resembles
variable (h : v.Resembles u)
include h

theorem view_eq : v.view = u.view := by
  cases h with
  | refl => rfl
  | idle _ st hu hst => rw [view, view, hu, hst]

theorem completed_eq : v.completed = u.completed := congrArg (·.completed) h.view_eq

theorem lastWalk_eq : v.lastWalk = u.lastWalk := congrArg (·.lastWalk) h.view_eq

theorem lastCommands_eq : v.lastCommands = u.lastCommands := congrArg (·.lastCommands) h.view_eq

theorem level_eq : v.level = u.level := by
  cases h <;> rfl

theorem rejection?_eq (text : Option String) : v.rejection? text = u.rejection? text := by
  cases h <;> rfl

theorem renewed : v.renewed.Resembles u.renewed := by
  cases h with
  | refl => exact .refl _
  | idle _ st hu hst => exact .idle u.renewed st.abort u.stepper.inFlight_abort st.inFlight_abort

end Resembles

/-- Where no walk is in progress, none is broken off. -/
theorem abort_of_idle (env : Surroundings σ) (w : σ) (h : v.stepper.inFlight = false) :
    abort env (v, w) = (.ok (), v, w) := by
  have habort : abort env (v, w) = (.ok (), v.aborted, env.noted (v.stepper.abortNotes v.level) w) := rfl
  rw [habort, aborted_of_idle h, Stepper.abortNotes_of_idle v.level h]
  rfl

theorem checkTime_of_overdue_idle (env : Surroundings σ) {elapsed : Number} (w : σ) (htime : v.timedOut = false)
    (hlate : v.isOverdue elapsed = true) (h : v.stepper.inFlight = false) : checkTime env elapsed (v, w) =
      (.ok true, { v with timedOut := true, position := v.level.start }, env.noted v.overdueNotes w) := by
  rw [checkTime_of_overdue env w htime hlate, overdue_of_idle h, Stepper.abortNotes_of_idle v.level h]
  rfl

namespace Resembles

theorem abort (h : v.Resembles u) (env : Surroundings σ) (w : σ) :
    Alike Resembles (abort env (v, w)) (abort env (u, w)) := by
  cases h with
  | refl => exact .rfl_of (.refl _)
  | idle _ st hu hst =>
    rw [abort_of_idle env w hu, abort_of_idle env w hst]
    exact .done _ w (.idle u st hu hst)

theorem checkTime (h : v.Resembles u) (env : Surroundings σ) (elapsed : Number) (w : σ) :
    Alike Resembles (checkTime env elapsed (v, w)) (checkTime env elapsed (u, w)) := by
  cases h with
  | refl => exact .rfl_of (.refl _)
  | idle _ st hu hst =>
    let v : Visit := { u with stepper := st }
    rcases Bool.eq_false_or_eq_true u.timedOut with htime | htime
    · rw [checkTime_of_timedOut (v := v) env elapsed w htime, checkTime_of_timedOut (v := u) env elapsed w htime]
      exact .done _ w (.idle u st hu hst)
    · rcases Bool.eq_false_or_eq_true (u.isOverdue elapsed) with hlate | hlate
      · rw [checkTime_of_overdue_idle (v := v) env w htime hlate hst,
          checkTime_of_overdue_idle (v := u) env w htime hlate hu]
        exact .done _ _ (.idle { u with timedOut := true, position := u.level.start } st hu hst)
      · rw [checkTime_of_early (v := v) env w htime hlate, checkTime_of_early (v := u) env w htime hlate]
        exact .done _ w (.idle u st hu hst)

theorem leave (h : v.Resembles u) (env : Surroundings σ) (given : Option Number) (w : σ) :
    Alike Resembles (leave env given (v, w)) (leave env given (u, w)) := by
  rw [Visit.leave, Act.visit_bind_apply, Act.visit_bind_apply, h.lastWalk_eq]
  refine (h.abort env w).bind ?_ fun _ _ => id
  intro _ v₁ u₁ w₁ h₁
  refine (Alike.readElapsed env given w₁ h₁).bind ?_ fun _ _ => id
  intro elapsed v₂ u₂ w₂ h₂
  rw [Act.visit_bind_apply, Act.visit_bind_apply, h₂.lastCommands_eq]
  exact .keepRecord env false _ elapsed _ w₂ h₂ (congrArg (·.number) h₂.level_eq)

theorem restart (h : v.Resembles u) (env : Surroundings σ) (w : σ) :
    Alike Resembles (restart env (v, w)) (restart env (u, w)) := by
  refine (h.abort env w).bind ?_ fun _ _ => id
  intro _ v₁ u₁ w₁ h₁
  exact .done _ w₁ h₁.renewed

/-- A walk begins with a stepper of its own, so nothing is left of the ones before. -/
theorem walkProgram (h : v.Resembles u) (env : Surroundings σ) (serve : Request → Act σ Unit) (program : Program)
    (given : Option Number) (w : σ) : Alike Resembles (walkProgram env serve program given (v, w))
      (walkProgram env serve program given (u, w)) := by
  cases h with
  | refl => exact .rfl_of (.refl _)
  | idle _ st hu hst =>
    rw [walkProgram_of_idle (v := { u with stepper := st }) env serve program given w hst,
      walkProgram_of_idle (v := u) env serve program given w hu]
    exact .rfl_of (.refl _)

theorem submitServing (h : v.Resembles u) (env : Surroundings σ) (serve : Request → Act σ Unit) (text : Option String)
    (given : Option Number) (w : σ) : Alike Resembles (submitServing env serve text given (v, w))
      (submitServing env serve text given (u, w)) := by
  rw [Visit.submitServing, Act.visit_bind_apply, Act.visit_bind_apply, h.completed_eq]
  cases u.completed with
  | true => exact .done _ w h
  | false =>
    refine (Alike.readElapsed env given w h).bind ?_ fun _ _ => id
    intro elapsed v₁ u₁ w₁ h₁
    refine (h₁.checkTime env elapsed w₁).bind ?_ fun _ _ => id
    intro late v₂ u₂ w₂ h₂
    cases late with
    | true => exact .done _ w₂ h₂
    | false =>
      rw [if_neg Bool.false_ne_true, Act.visit_bind_apply, Act.visit_bind_apply, h₂.rejection?_eq]
      cases u₂.rejection? text with
      | some rejection => exact .done _ _ h₂
      | none => exact h₂.walkProgram env serve _ given w₂

/-- Visits that look the same answer every call in the same way and look the same afterwards. -/
theorem answer (h : v.Resembles u) (env : Surroundings σ) (depth : Nat) (call : Request) (w : σ) :
    Alike Resembles (answer env depth call (v, w)) (answer env depth call (u, w)) := by
  cases call with
  | fail => exact .done _ w h
  | submit text given =>
    exact (h.submitServing env (serve env depth) text given w).bind (fun _ _ _ w => .done _ w) fun _ _ => id
  | checkTime elapsed => exact (h.checkTime env elapsed w).bind (fun _ _ _ w => .done _ w) fun _ _ => id
  | leave given => exact (h.leave env given w).bind (fun _ _ _ w => .done _ w) fun _ _ => id
  | restart => exact (h.restart env w).bind (fun _ _ _ w => .done _ w) fun _ _ => id

theorem transcript_eq (h : v.Resembles u) (env : Surroundings σ) (depth : Nat) (calls : List Request) (w : σ) :
    transcript env depth calls (v, w) = transcript env depth calls (u, w) := by
  induction calls generalizing v u w with
  | nil => rfl
  | cons call calls ih =>
    rcases hv : Visit.answer env depth call (v, w) with ⟨result, v', w'⟩
    rcases hu : Visit.answer env depth call (u, w) with ⟨result', u', w''⟩
    have halike := h.answer env depth call w
    rw [hv, hu] at halike
    obtain ⟨rfl, hvisits, rfl⟩ := halike
    simp only [transcript, hv, hu]
    rw [hvisits.view_eq, ih hvisits w']

end Resembles

/-- A visit that is begun anew, in whatever state it was, cannot be told from a new visit to the same level: calls of
    any kind and number are answered in the same way, by the same events, records and looks at the clock, and the visit
    looks the same after each of them. -/
theorem restart_begins_anew (env : Surroundings σ) (depth : Nat) (v : Visit) (w : σ) (calls : List Request) :
    ∃ w', restart env (v, w) = (.ok (), v.renewed, w') ∧ env.Passage w [] [] [] w' ∧
      transcript env depth calls (v.renewed, w') =
        transcript env depth calls ({ level := v.level, requireComma := v.requireComma }, w') := by
  obtain ⟨w', hrestart, p⟩ := restart_passage env v w
  let fresh : Visit := { level := v.level, requireComma := v.requireComma }
  have hresembles : v.renewed.Resembles fresh :=
    .idle fresh v.stepper.abort rfl v.stepper.inFlight_abort
  exact ⟨w', hrestart, p, hresembles.transcript_eq env depth calls w'⟩

/-- In the lane the stepper of a visit that was begun anew still keeps the walk before. -/
example :
    let walked := (submit Desk.surroundings 0 (some "D1") (some (.whole 0)) ({ level := Walk.lane }, ({} : Desk))).2.1
    walked.renewed.stepper.state?.map (·.position) = some ⟨1, 0⟩ := by decide +kernel

end Visit
end GridWalk
