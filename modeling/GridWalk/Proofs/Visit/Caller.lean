import GridWalk.Proofs.Visit.Passage
import GridWalk.Proofs.Walk.Machine
import Mathlib.Control.Monad.Basic

/-! Callers of a visit, who are players outside and displays that call while they show an event. A caller may do
    one thing after the other, go on after a failure as it likes, decide by all that it sees what to do next, and
    break down. What a display asks for during a submission is answered by callers again, to any depth. -/

namespace GridWalk

open Walk (Stepper)

/-- What is done on a visit, by its callers and by itself. -/
inductive Deed
  /-- A caller is about to submit something. -/
  | submits (text : Option String)
  /-- The text just submitted was accepted, but not walked because of a walk in progress. -/
  | refused (text : String)
  /-- The text just submitted was accepted and its walk began. -/
  | begun (text : String)
  /-- Time was found to be up. -/
  | outOfTime
  /-- The walk in progress was broken off from within. -/
  | brokenOff
  /-- The walk of a text came to its end, and this came of recording it. -/
  | ended (text : String) (s : Walk.State) (recording : Except VisitError (Option Record))
  /-- A submission is over. -/
  | answered (text : Option String) (result : Except VisitError Report)
  /-- The time was checked for a caller. -/
  | timeChecked (result : Except VisitError Bool)
  /-- The player left, and this came of recording it. -/
  | left (recording : Except VisitError (Option Record))
  | renewed
  /-- The stepper was called behind the visit. -/
  | called (call : Walk.Call)

/-- What a caller of a visit does. Only a `direct` one gets at the stepper behind it. -/
inductive Caller (σ : Type) (direct : Prop)
  | done
  /-- Lets the visit and its surroundings decide what to do. -/
  | look (next : Visit × σ → Caller σ direct)
  | fail (e : VisitError)
  /-- Submits something; `serve` answers what the display asks for meanwhile. -/
  | submit (text : Option String) (given : Option Number) (serve : Request → Caller σ direct)
    (next : Except VisitError Report → Caller σ direct)
  | checkTime (elapsed : Number) (next : Except VisitError Bool → Caller σ direct)
  | leave (given : Option Number) (next : Except VisitError (Option Record) → Caller σ direct)
  | restart (next : Caller σ direct)
  | start (h : direct) (moves : List Move) (next : Except VisitError Walk.State → Caller σ direct)

variable {σ α β : Type} {direct : Prop}

namespace Act

/-- Does something and goes on with what came of it, also after a failure. -/
def attempt (act : Act σ α) (next : Except VisitError α → Act σ β) : Act σ β := fun s => next (act s).1 (act s).2

/-- Lets the surroundings hear of a deed. -/
def tell (hear : Deed → σ → σ) (d : Deed) : Act σ Unit := outside fun w => ((), hear d w)

/-- Does something and lets the surroundings hear what came of it, also of a failure. -/
def heard (hear : Deed → σ → σ) (deed : Except VisitError α → Deed) (act : Act σ α) : Act σ α := fun s =>
  match act s with
  | (result, v, w) => (result, v, hear (deed result) w)

end Act

/-- A submission that is heard of before and after. -/
def Visit.submission (env : Surroundings σ) (hear : Deed → σ → σ) (serve : Request → Act σ Unit)
    (text : Option String) (given : Option Number) : Act σ Report := do
  Act.tell hear (.submits text)
  Act.heard hear (.answered text) (submitServing env serve text given)

namespace Caller

/-- What a caller does among surroundings that hear of its calls. -/
def act (env : Surroundings σ) (hear : Deed → σ → σ) : Caller σ direct → Act σ Unit
  | done => pure ()
  | look next => fun s => (next s).act env hear s
  | fail e => Act.fail e
  | submit text given serve next =>
    Act.attempt (Visit.submission env hear (fun r => (serve r).act env hear) text given) fun result =>
      (next result).act env hear
  | checkTime elapsed next =>
    Act.attempt (Act.heard hear .timeChecked (Visit.checkTime env elapsed)) fun result => (next result).act env hear
  | leave given next =>
    Act.attempt (Act.heard hear .left (Visit.leave env given)) fun result => (next result).act env hear
  | restart next => Act.attempt (Act.heard hear (fun _ => .renewed) (Visit.restart env)) fun _ => next.act env hear
  | start _ moves next => Act.attempt (Visit.startWalk env moves) fun result => (next result).act env hear

/-- Lets a failure pass. -/
def passOn : Except VisitError α → Caller σ direct
  | .ok _ => done
  | .error e => fail e

/-- What a display asks for, as what a caller does that lets every failure pass. -/
def ofRequest (direct : Prop) : (depth : Nat) → Request → Caller σ direct
  | _, .fail => .fail .displayLost
  | 0, .submit _ _ => .fail .nestedTooDeep
  | depth + 1, .submit text given => .submit text given (ofRequest direct depth) passOn
  | _, .checkTime elapsed => .checkTime elapsed passOn
  | _, .leave given => .leave given passOn
  | _, .restart => .restart done

variable {env : Surroundings σ}

theorem heard_of_deaf (deed : Except VisitError α → Deed) (act : Act σ α) :
    Act.heard (fun _ w => w) deed act = act := by
  funext s
  rcases hact : act s with ⟨result, v, w⟩
  rw [Act.heard, hact]

theorem submission_of_deaf (serve : Request → Act σ Unit) (text : Option String) (given : Option Number) :
    Visit.submission env (fun _ w => w) serve text given = Visit.submitServing env serve text given := by
  rw [Visit.submission, heard_of_deaf]
  rfl

theorem attempt_passOn (act : Act σ α) (hear : Deed → σ → σ) :
    Act.attempt act (fun result => (passOn result : Caller σ direct).act env hear) = discard act := by
  funext s
  change (passOn (act s).1).act env hear (act s).2 = (act >>= fun _ => pure ()) s
  rw [Act.bind_apply]
  rcases act s with ⟨_ | _, v, w⟩
  · rfl
  · rfl

/-- The program serves requests as callers do who let every failure pass, where nobody hears of deeds. -/
theorem serve_eq_act (env : Surroundings σ) (direct : Prop) (depth : Nat) (r : Request) :
    Visit.serve env depth r = (ofRequest direct depth r).act env fun _ w => w := by
  have htime : ∀ elapsed, (discard (Visit.checkTime env elapsed) : Act σ Unit) =
      ((checkTime elapsed passOn : Caller σ direct).act env fun _ w => w) := by
    intro elapsed
    rw [act, heard_of_deaf, attempt_passOn]
  have hleave : ∀ given, (discard (Visit.leave env given) : Act σ Unit) =
      ((leave given passOn : Caller σ direct).act env fun _ w => w) := by
    intro given
    rw [act, heard_of_deaf, attempt_passOn]
  have hrestart : Visit.restart env = ((restart done : Caller σ direct).act env fun _ w => w) := by
    rw [act, heard_of_deaf]
    rfl
  induction depth generalizing r with
  | zero =>
    cases r with
    | fail | submit => rfl
    | checkTime elapsed => exact htime elapsed
    | leave given => exact hleave given
    | restart => exact hrestart
  | succ depth ih =>
    cases r with
    | fail => rfl
    | submit text given =>
      have hserve : Visit.serve env depth = fun r => (ofRequest direct depth r).act env fun _ w => w := funext ih
      rw [Visit.serve, ofRequest, act, ← hserve, submission_of_deaf, attempt_passOn]
    | checkTime elapsed => exact htime elapsed
    | leave given => exact hleave given
    | restart => exact hrestart

end Caller
end GridWalk
