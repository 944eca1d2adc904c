import GridWalk.Proofs.Visit.Caller
import GridWalk.Proofs.Visit.History
import GridWalk.Proofs.Walk.Leading

/-! Accounts of visits. An account tells by its deeds how a visit and its surroundings came to be as they are. What
    callers do is in it because the surroundings hear of it, and what the visit does by itself because nothing else
    explains the visit that is left. What the fields of a visit are can be read off its account. -/

namespace GridWalk

open Walk (Stepper Event simulate)
open Walk.Stepper (Proceeds OnWalk)

variable {σ : Type} {env : Surroundings σ} {hear : Deed → σ → σ} {direct : Prop}

/-! ### What deeds tell -/

/-- The number of terms of a text. -/
def Command.termCount (text : String) : Nat := (read text).terms.length

namespace Deed

/-- The text whose walk is in progress after a deed, where it was that of `text?` before. -/
def underway : (text? : Option String) → Deed → Option String
  | _, begun text => some text
  | _, outOfTime | _, brokenOff | _, ended .. | _, left _ | _, renewed => none
  | text?, _ => text?

/-- The text whose walk was begun last since the visit was begun anew. -/
def walked : (text? : Option String) → Deed → Option String
  | _, begun text => some text
  | _, renewed => none
  | text?, _ => text?

/-- The text that was refused last since a walk or the visit itself was begun. -/
def refusedSince : (text? : Option String) → Deed → Option String
  | _, refused text => some text
  | _, begun _ | _, renewed => none
  | text?, _ => text?

/-- Where the character is put by a deed. -/
def place (level : Level) : Position → Deed → Position
  | _, outOfTime | _, brokenOff | _, renewed => level.start
  | _, ended _ s _ => if s.outcome.isHazard then level.start else s.position
  | p, _ => p

/-- Whether a walk was won by a deed. -/
def isVictory : Deed → Bool
  | ended _ s _ => s.outcome = .victory
  | _ => false

/-- Whether the level is completed after a deed. -/
def completes : Bool → Deed → Bool
  | _, renewed => false
  | done, d => done || d.isVictory

/-- The record that was made. -/
def record? : Deed → Option Record
  | ended _ _ recording | left recording => recording.toOption.join
  | _ => none

end Deed

/-- The text whose walk is in progress. -/
def textUnderway (ds : List Deed) : Option String := ds.foldl Deed.underway none

/-- The text whose walk was begun last since the visit was begun anew. -/
def lastWalked (ds : List Deed) : Option String := ds.foldl Deed.walked none

/-- The text that was refused last since a walk or the visit itself was begun. -/
def lastRefused (ds : List Deed) : Option String := ds.foldl Deed.refusedSince none

/-- The commands counted last: those of the text that was refused last since the last walk was begun, or else those of
    the text of this walk. -/
def lastCounted (ds : List Deed) : Nat := ((lastRefused ds <|> lastWalked ds).map Command.termCount).getD 0

section
variable (ds : List Deed) (d : Deed)

@[simp] theorem textUnderway_concat : textUnderway (ds ++ [d]) = Deed.underway (textUnderway ds) d :=
  List.foldl_append ..

@[simp] theorem lastWalked_concat : lastWalked (ds ++ [d]) = Deed.walked (lastWalked ds) d :=
  List.foldl_append ..

@[simp] theorem lastRefused_concat : lastRefused (ds ++ [d]) = Deed.refusedSince (lastRefused ds) d :=
  List.foldl_append ..

theorem Deed.walked_of_underway {now last : Option String} (hkept : ∀ text, now = some text → last = some text)
    {text : String} (h : underway now d = some text) : walked last d = some text := by
  cases d with
  | begun => exact h
  | submits | refused | answered | timeChecked | called => exact hkept text h
  | outOfTime | brokenOff | ended | left | renewed => cases h

/-- The walk in progress is the one begun last. -/
theorem lastWalked_of_underway {text : String} (h : textUnderway ds = some text) : lastWalked ds = some text := by
  have hfold : ∀ {now last : Option String}, (∀ text, now = some text → last = some text) →
      ds.foldl Deed.underway now = some text → ds.foldl Deed.walked last = some text := by
    clear h
    induction ds with
    | nil => exact fun hkept => hkept text
    | cons d ds ih => exact fun hkept => ih fun _ => Deed.walked_of_underway d hkept
  exact hfold (fun _ hnone => absurd hnone.symm (Option.some_ne_none _)) h

end

namespace Visit
open Surroundings (Recording)

/-- Whether the character was charged when it was last walked. -/
def wasEnergized (v : Visit) : Bool := (v.lastWalk.map (·.energized)).getD false

/-- The visit when the walk of an accepted text begins. -/
def beginning (v : Visit) (text : String) : Visit :=
  { v with lastCommands := Command.termCount text }.walking
    (.ready { position := v.level.start } (Command.movesOf text))

/-- How a deed changes a visit and its surroundings, after the deeds `ds`. -/
inductive Does (env : Surroundings σ) (hear : Deed → σ → σ) (direct : Prop) (ds : List Deed) :
    Visit × σ → Deed → Visit × σ → Prop
  | submits (v : Visit) (w : σ) (text : Option String) :
    Does env hear direct ds (v, w) (.submits text) (v, hear (.submits text) w)
  | refused {v : Visit} (w : σ) {text : String} (hlast : ds.getLast? = some (.submits (some text)))
    (haccepts : v.options.accepts text = true) (hfly : v.stepper.inFlight = true) :
    Does env hear direct ds (v, w) (.refused text) ({ v with lastCommands := Command.termCount text }, w)
  | begun {v : Visit} (w : σ) {text : String} (hlast : ds.getLast? = some (.submits (some text)))
    (haccepts : v.options.accepts text = true) (hidle : v.stepper.inFlight = false) (hnew : v.completed = false)
    (hearly : v.timedOut = false) : Does env hear direct ds (v, w) (.begun text) (v.beginning text, w)
  | outOfTime {v : Visit} (w : σ) {now : Number} (hearly : v.timedOut = false) (hlate : v.isOverdue now = true) :
    Does env hear direct ds (v, w) .outOfTime (v.overdue, w)
  | brokenOff {v : Visit} (w : σ) (hfly : v.stepper.inFlight = true) :
    Does env hear direct ds (v, w) .brokenOff ({ v.aborted with position := v.level.start }, w)
  | landed {v : Visit} (w : σ) {text : String} {s : Walk.State} (hnow : textUnderway ds = some text)
    (hidle : v.stepper.inFlight = false) (hs : v.stepper.state? = some s) (hlost : s.outcome ≠ .victory) :
    Does env hear direct ds (v, w) (.ended text s (.ok none))
      ({ v with position := if s.outcome.isHazard then v.level.start else s.position }, w)
  | won {v : Visit} {w w' : σ} {text : String} {s : Walk.State} {elapsed : Number}
    {recording : Except VisitError (Option Record)} (hnow : textUnderway ds = some text)
    (hidle : v.stepper.inFlight = false) (hs : v.stepper.state? = some s) (hvictory : s.outcome = .victory)
    (h : Recording env (v.completion (Command.termCount text) · s) elapsed w recording w') :
    Does env hear direct ds (v, w) (.ended text s recording) ({ v with completed := true, position := s.position }, w')
  | answered (v : Visit) (w : σ) (text : Option String) (result : Except VisitError Report) :
    Does env hear direct ds (v, w) (.answered text result) (v, hear (.answered text result) w)
  | timeChecked (v : Visit) (w : σ) (result : Except VisitError Bool) :
    Does env hear direct ds (v, w) (.timeChecked result) (v, hear (.timeChecked result) w)
  | left {v : Visit} {w w' : σ} {elapsed : Number} {recording : Except VisitError (Option Record)}
    (h : Recording env (v.departure · v.wasEnergized) elapsed w recording w') :
    Does env hear direct ds (v, w) (.left recording) (v.aborted, hear (.left recording) w')
  | renewed (v : Visit) (w : σ) : Does env hear direct ds (v, w) .renewed (v.renewed, hear .renewed w)
  | called {v : Visit} (w : σ) {call : Walk.Call} {answer : Option Event} {st : Stepper} (hdirect : direct)
    (hnone : textUnderway ds = none) (h : v.stepper.call v.level call = .ok (answer, st)) :
    Does env hear direct ds (v, w) (.called call) ({ v with stepper := st }, w)

/-- How a visit begins: to which level, among what surroundings, what they hear, and whether the stepper behind the
    visit may be called. -/
structure Opening (σ : Type) where
  env : Surroundings σ
  hear : Deed → σ → σ
  direct : Prop
  level : Level
  requireComma : Bool
  surroundings : σ

/-- The visit that is opened. -/
def Opening.visit (o : Opening σ) : Visit := { level := o.level, requireComma := o.requireComma }

/-- An account of a visit since it was opened. Between deeds events are displayed, the clock is read and entries are
    made, and the walk of a text that is underway goes on. -/
inductive Account (o : Opening σ) : List Deed → Visit × σ → Prop
  | opened : Account o [] (o.visit, o.surroundings)
  | passed {ds : List Deed} {v : Visit} {w w' : σ} {es : List Event} {ts : List (Option Number)}
    (h : Account o ds (v, w)) (p : o.env.Passage w es [] ts w') : Account o ds (v, w')
  | proceeded {ds : List Deed} {v : Visit} {w : σ} {text : String} {st : Stepper} (h : Account o ds (v, w))
    (hnow : textUnderway ds = some text) (hst : v.stepper.Proceeds v.level st) : Account o ds (v.walking st, w)
  | did {ds : List Deed} {s s' : Visit × σ} {d : Deed} (h : Account o ds s)
    (hd : Does o.env o.hear o.direct ds s d s') : Account o (ds ++ [d]) s'

variable {o : Opening σ} {ds : List Deed} {v v' : Visit} {w w' : σ} {s s' : Visit × σ} {d : Deed}

/-! ### Walks that are underway -/

/-- The visit walks the text: it was accepted, its walk led to the stepper, and nothing else came of it so far. -/
structure Walks (v : Visit) (text : String) : Prop where
  accepts : v.options.accepts text = true
  onWalk : OnWalk v.level (Command.movesOf text) v.stepper
  tracked : v.lastWalk = v.stepper.state?
  new : v.completed = false
  early : v.timedOut = false

theorem Does.level_eq (hd : Does env hear direct ds s d s') :
    s'.1.level = s.1.level ∧ s'.1.requireComma = s.1.requireComma := by
  cases hd <;> exact ⟨rfl, rfl⟩

theorem Does.walks (hd : Does env hear direct ds s d s') (h : ∀ text, textUnderway ds = some text → s.1.Walks text)
    {text : String} (hnow : textUnderway (ds ++ [d]) = some text) : s'.1.Walks text := by
  rw [textUnderway_concat] at hnow
  cases hd with
  | submits | answered | timeChecked => exact h text hnow
  | refused =>
    obtain ⟨haccepts, honWalk, htracked, hnew, hearly⟩ := h text hnow
    exact ⟨haccepts, honWalk, htracked, hnew, hearly⟩
  | begun w hlast haccepts hidle hnew hearly =>
    cases hnow
    exact ⟨haccepts, .start, rfl, hnew, hearly⟩
  | outOfTime | brokenOff | landed | won | left | renewed => cases hnow
  | called w hdirect hnone =>
    rw [hnone] at hnow
    cases hnow

theorem Does.of_ended {text : String} {t : Walk.State} {recording : Except VisitError (Option Record)}
    (hd : Does env hear direct ds s (.ended text t recording) s') :
    textUnderway ds = some text ∧ s.1.stepper.inFlight = false ∧ s.1.stepper.state? = some t := by
  cases hd with
  | landed w hnow hidle hs => exact ⟨hnow, hidle, hs⟩
  | won hnow hidle hs => exact ⟨hnow, hidle, hs⟩

namespace Account

theorem level_eq (h : Account o ds s) : s.1.level = o.level ∧ s.1.requireComma = o.requireComma := by
  induction h with
  | opened => exact ⟨rfl, rfl⟩
  | passed _ _ ih => exact ih
  | proceeded _ _ _ ih => exact ih
  | did _ hd ih => exact ⟨hd.level_eq.1.trans ih.1, hd.level_eq.2.trans ih.2⟩

theorem options_eq (h : Account o ds s) : s.1.options = o.visit.options := by
  rw [options, options, h.level_eq.1, h.level_eq.2]
  rfl

/-- A text that is underway is walked. -/
theorem walks (h : Account o ds s) : ∀ text, textUnderway ds = some text → s.1.Walks text := by
  induction h with
  | opened => exact nofun
  | passed _ _ ih => exact ih
  | proceeded _ _ hst ih =>
    intro text hnow
    obtain ⟨haccepts, honWalk, -, hnew, hearly⟩ := ih text hnow
    exact ⟨haccepts, .proceed honWalk hst, rfl, hnew, hearly⟩
  | did _ hd ih => exact fun text => hd.walks ih

/-- Unless the stepper is called behind the visit, only the walk of a text that is underway is in progress. -/
theorem underway_of_inFlight (h : Account o ds s) (hdirect : ¬o.direct) (hfly : s.1.stepper.inFlight = true) :
    textUnderway ds ≠ none := by
  induction h with
  | opened => cases hfly
  | passed _ _ ih => exact ih hfly
  | proceeded _ hnow _ _ => exact hnow ▸ Option.some_ne_none _
  | did _ hd ih =>
    rw [textUnderway_concat]
    cases hd with
    | submits | refused | answered | timeChecked => exact ih hfly
    | begun => exact Option.some_ne_none _
    | outOfTime | brokenOff | left | renewed =>
      exact absurd ((Stepper.inFlight_abort _).symm.trans hfly) Bool.false_ne_true
    | landed w hnow hidle => exact absurd (hidle.symm.trans hfly) Bool.false_ne_true
    | won hnow hidle => exact absurd (hidle.symm.trans hfly) Bool.false_ne_true
    | called w hcalled => exact absurd hcalled hdirect

theorem idle_of_none (h : Account o ds s) (hdirect : ¬o.direct) (hnone : textUnderway ds = none) :
    s.1.stepper.inFlight = false :=
  Bool.eq_false_iff.mpr fun hfly => h.underway_of_inFlight hdirect hfly hnone

/-- Each deed was done to a visit that the deeds before it account for. -/
theorem exists_does (h : Account o ds s) : ∀ {past later : List Deed}, ds = past ++ d :: later →
    ∃ t t', Account o past t ∧ Does o.env o.hear o.direct past t d t' := by
  induction h with
  | opened => exact fun heq => absurd heq.symm (List.append_ne_nil_of_right_ne_nil _ (List.cons_ne_nil _ _))
  | passed _ _ ih => exact ih
  | proceeded _ _ _ ih => exact ih
  | @did ds s s' d' h hd ih =>
    intro past later heq
    rcases later.eq_nil_or_concat with rfl | ⟨init, last, rfl⟩
    · obtain ⟨rfl, hd'⟩ := List.append_inj' heq rfl
      cases hd'
      exact ⟨s, s', h, hd⟩
    · rw [List.concat_eq_append, ← List.cons_append, ← List.append_assoc] at heq
      exact ih (List.append_inj' heq rfl).1

theorem exists_does_of_mem (h : Account o ds s) (hmem : d ∈ ds) :
    ∃ past later t t', ds = past ++ d :: later ∧ Account o past t ∧ Does o.env o.hear o.direct past t d t' := by
  obtain ⟨past, later, heq⟩ := List.append_of_mem hmem
  obtain ⟨t, t', ht, hd⟩ := h.exists_does heq
  exact ⟨past, later, t, t', heq, ht, hd⟩

end Account

/-- The whole walk of an accepted text ends in the state `t`. -/
structure WalksTo (v : Visit) (text : String) (t : Walk.State) : Prop where
  accepts : v.options.accepts text = true
  simulate : simulate v.level (Command.movesOf text) = some t
  sound : t.Sound v.level
  charged : t.outcome = .victory → t.energized = true

/-- What ended is the whole walk of an accepted text. -/
theorem Account.walksTo (h : Account o ds s) {text : String} {t : Walk.State}
    {recording : Except VisitError (Option Record)} (hended : Deed.ended text t recording ∈ ds) :
    o.visit.WalksTo text t := by
  obtain ⟨past, later, u, u', -, hu, hdoes⟩ := h.exists_does_of_mem hended
  obtain ⟨hnow, hidle, ht⟩ := hdoes.of_ended
  have hwalks := hu.walks text hnow
  obtain ⟨hsound, hdoor⟩ := hwalks.onWalk.sound
  have hlevel : u.1.level = o.visit.level := hu.level_eq.1
  refine ⟨hu.options_eq ▸ hwalks.accepts, ?_, hlevel ▸ hsound.state t ht, fun hvictory => (hdoor t ht hvictory).2⟩
  rw [← hlevel, hwalks.onWalk.simulate_eq hidle, ht]

namespace Account

/-! ### Fields of the visit -/

theorem position_eq (h : Account o ds s) : s.1.position = ds.foldl (Deed.place o.level) o.level.start := by
  induction h with
  | opened => rfl
  | passed _ _ ih => exact ih
  | proceeded _ _ _ ih => exact ih
  | did h hd ih =>
    rw [List.foldl_append, ← ih, ← h.level_eq.1]
    cases hd with
    | won hnow hidle hs hvictory => simp [Deed.place, hvictory, Walk.Outcome.isHazard]
    | _ => rfl

theorem completed_eq (h : Account o ds s) : s.1.completed = ds.foldl Deed.completes false := by
  induction h with
  | opened => rfl
  | passed _ _ ih => exact ih
  | proceeded _ _ _ ih => exact ih
  | did h hd ih =>
    rw [List.foldl_append, ← ih]
    cases hd with
    | landed w hnow hidle hs hlost => simp [Deed.completes, Deed.isVictory, hlost]
    | won hnow hidle hs hvictory => simp [Deed.completes, Deed.isVictory, hvictory]
    | renewed => rfl
    | _ => exact (Bool.or_false _).symm

theorem lastCommands_eq (h : Account o ds s) : s.1.lastCommands = lastCounted ds := by
  induction h with
  | opened => rfl
  | passed _ _ ih => exact ih
  | proceeded _ _ _ ih => exact ih
  | did h hd ih =>
    rw [lastCounted, lastRefused_concat, lastWalked_concat]
    cases hd with
    | refused | begun | renewed => rfl
    | _ => exact ih

end Account

/-- What is known of the last walk: nothing where there was none, else a state that the walk of its text came to. -/
inductive Remembers (level : Level) : Option String → Option Walk.State → Prop
  | nothing : Remembers level none none
  | walk {text : String} {st : Stepper} (h : OnWalk level (Command.movesOf text) st) :
    Remembers level (some text) st.state?

theorem Account.remembers (h : Account o ds s) : Remembers o.level (lastWalked ds) s.1.lastWalk := by
  induction h with
  | opened => exact .nothing
  | passed _ _ ih => exact ih
  | @proceeded ds v w text st h hnow hst ih =>
    rw [lastWalked_of_underway ds hnow]
    have hwalk := OnWalk.proceed (h.walks text hnow).onWalk hst
    rw [h.level_eq.1] at hwalk
    exact .walk hwalk
  | did h hd ih =>
    rw [lastWalked_concat]
    cases hd with
    | renewed => exact .nothing
    | @begun v w text =>
      have hstart : OnWalk o.level (Command.movesOf text)
          (.ready { position := v.level.start } (Command.movesOf text)) := by
        rw [show v.level = o.level from h.level_eq.1]
        exact .start
      exact .walk hstart
    | _ => exact ih

end Visit

/-! ### What is heard -/

/-- Whether the surroundings hear of a deed. -/
def Deed.isHeard : Deed → Bool
  | submits _ | answered .. | timeChecked _ | left _ | renewed => true
  | refused _ | begun _ | outOfTime | brokenOff | ended .. | called _ => false

namespace Surroundings

/-- The deeds that are heard of are written down in a log, and nothing else is. -/
structure Overhears (env : Surroundings σ) (hear : Deed → σ → σ) (log : σ → List Deed) : Prop where
  hear : ∀ d w, log (hear d w) = log w ++ [d]
  display : ∀ e w, log (env.display e w).2 = log w
  record : ∀ r w, log (env.record r w).2 = log w
  clock : ∀ w, log (env.clock w).2 = log w
  note : ∀ n w, log (env.note n w) = log w

variable {log : σ → List Deed} {w w' : σ}

theorem Overhears.passage {es : List Event} {rs : List Record} {ts : List (Option Number)}
    (h : env.Overhears hear log) (p : env.Passage w es rs ts w') : log w' = log w := by
  induction p with
  | refl w => rfl
  | displayed e _ ih => exact ih.trans (h.display e _)
  | recorded r _ ih => exact ih.trans (h.record r _)
  | read _ ih => exact ih.trans (h.clock _)
  | noted n _ ih => exact ih.trans (h.note n _)

theorem Overhears.recording {record : Int → Record} {elapsed : Number} {recording : Except VisitError (Option Record)}
    (h : env.Overhears hear log) (hrecording : env.Recording record elapsed w recording w') : log w' = log w := by
  cases hrecording with
  | unkept | uncounted => rfl
  | taken | refused => exact h.record _ w

end Surroundings

namespace Visit
variable {o : Opening σ} {ds : List Deed} {s s' : Visit × σ} {d : Deed} {log : σ → List Deed}

theorem Does.heard (hd : Does env hear direct ds s d s') (h : env.Overhears hear log) :
    log s'.2 = log s.2 ++ [d].filter Deed.isHeard := by
  cases hd with
  | submits | answered | timeChecked | renewed => exact h.hear _ _
  | refused | begun | outOfTime | brokenOff | landed | called => exact (List.append_nil _).symm
  | won _ _ _ _ hrecording => exact (h.recording hrecording).trans (List.append_nil _).symm
  | left hrecording =>
    rw [h.hear, h.recording hrecording]
    rfl

/-- An account tells of the deeds that were heard of, and of no others of their kind. -/
theorem Account.heard (h : Account o ds s) (hlog : o.env.Overhears o.hear log) :
    log s.2 = log o.surroundings ++ ds.filter Deed.isHeard := by
  induction h with
  | opened => exact (List.append_nil _).symm
  | passed _ p ih => exact (hlog.passage p).trans ih
  | proceeded _ _ _ ih => exact ih
  | did _ hd ih => rw [hd.heard hlog, ih, List.filter_append, List.append_assoc]

end Visit
end GridWalk
