import GridWalk.Client.Game
import GridWalk.Proofs.Desk
import GridWalk.Proofs.Walk.Refinement
import GridWalk.Proofs.Visit.Renewal
import GridWalk.Proofs.Visit.Undisturbed

/-! What the window shows of a walk. An animated step leaves the figure on the cell that it leads to, every other
    event leaves it where it stands, so after a whole walk it stands where the walk ended. Besides the figure, the
    flash and the clock of the scene nothing changes, and the desk gets the records that are made. -/

namespace GridWalk
open Walk (Event)

/-- Where a figure stands once an event was shown. -/
def Walk.Event.standing (p : Position) (e : Event) : Position := if e.kind = .moved then e.position else p

/-! ### Where walks end -/

namespace Walk.Plain

variable (level : Level) (ds : List Direction)

theorem foldl_standing_stepEvents (n : Nat) :
    ((List.range' 1 n).flatMap (stepEvents level ds)).foldl Event.standing (place level ds 0) = place level ds n := by
  induction n with
  | zero => rfl
  | succ n ih =>
    rw [List.range'_1_concat, List.flatMap_append, List.foldl_append, ih, Nat.add_comm 1 n, List.flatMap_singleton,
      stepEvents]
    split
    · rfl
    · rfl

theorem foldl_standing_events :
    (events level ds).foldl Event.standing level.start = place level ds (stepsMade level ds) := by
  have hfinal (p : Position) : Event.standing p (finalEvent level ds) = p := if_neg (finalKind_ne_moved _)
  rw [events, List.foldl_append]
  exact (hfinal _).trans (foldl_standing_stepEvents level ds _)

end Walk.Plain

/-- The events of a walk lead a figure from the start to where the walk ends. -/
theorem Walk.foldl_standing {level : Level} {moves : List Move} {s : State} (h : simulate level moves = some s) :
    (events level moves).foldl Event.standing level.start = s.position := by
  obtain ⟨hevents, hsimulate⟩ := walk_refines_plain level moves
  obtain rfl := Option.some.inj (hsimulate.symm.trans h)
  rw [hevents, Plain.foldl_standing_events]
  rfl

/-- A walk that is won ends at a door. -/
theorem Walk.door_of_victory {level : Level} {moves : List Move} {s : State} (h : simulate level moves = some s)
    (hvictory : s.outcome = .victory) : level.terrain? s.position = some .door := by
  obtain ⟨-, hsimulate⟩ := walk_refines_plain level moves
  obtain rfl := Option.some.inj (hsimulate.symm.trans h)
  generalize Move.strides moves = ds at hvictory ⊢
  have houtcome : Plain.outcome level ds = .victory := hvictory
  cases hfirst : Plain.firstStop? level ds with
  | none =>
    rw [Plain.outcome, hfirst] at houtcome
    cases houtcome
  | some k =>
    have hdoor : level.terrain? (Plain.place level ds k) = some .door := by
      simp only [Plain.outcome, hfirst] at houtcome
      split at houtcome <;> first | assumption | cases houtcome
    -- The door is on the grid, so the step to it is made.
    have hmade : Plain.stepsMade level ds = k := by
      rw [Plain.stepsMade, hfirst]
      exact if_pos (Level.contains_of_terrain hdoor)
    change level.terrain? (Plain.place level ds (Plain.stepsMade level ds)) = some .door
    rw [hmade, hdoor]

namespace Client

/-! ### Animations -/

/-- The picture of the figure lies on its cell. -/
def Figure.Aligned (f : Figure) : Prop := f.corner = cornerOf f.cell

namespace Scene

variable {τ : Type} {draw : Scene → Ticker → τ → τ}

/-- What neither the preparation of a frame nor a tick changes of the scene, an animation leaves as it is. -/
theorem frames_scene {P : Scene → Prop} (draw : Scene → Ticker → τ → τ) {prepare : Int → Scene → Scene}
    (hprepare : ∀ elapsed s, P s → P (prepare elapsed s)) (htick : ∀ s n, P s → P { s with lastTick := n })
    (duration : Int) (fuel : Nat) (elapsed : Int) {s : Scene} (t : Ticker) (w : τ) (hs : P s) :
    P (frames draw prepare duration fuel elapsed s t w).1 := by
  induction fuel generalizing elapsed s t w with
  | zero => exact hs
  | succ fuel ih =>
    rw [frames]
    split
    · exact ih _ _ _ (htick _ _ (hprepare _ _ hs))
    · exact hs

/-- What no drawing changes, an animation leaves as it is. -/
theorem frames_drawn {R : τ → Prop} (hdraw : ∀ s t w, R w → R (draw s t w)) (prepare : Int → Scene → Scene)
    (duration : Int) (fuel : Nat) (elapsed : Int) (s : Scene) (t : Ticker) {w : τ} (hw : R w) :
    R (frames draw prepare duration fuel elapsed s t w).2.2 := by
  induction fuel generalizing elapsed s t w with
  | zero => exact hw
  | succ fuel ih =>
    rw [frames]
    split
    · exact ih _ _ _ (hdraw _ _ _ hw)
    · exact hw

/-- The scene shows the level with the figure on the cell. -/
structure Shows (s : Scene) (level : Level) (cell : Position) : Prop where
  level : s.level = level
  cell : s.figure.cell = cell
  aligned : s.figure.Aligned

theorem shows_reset (s : Scene) : (s.reset none).Shows s.level s.level.start := ⟨rfl, rfl, rfl⟩

variable {s : Scene} {level : Level} {cell : Position}

theorem Shows.reset (h : s.Shows level cell) : (s.reset none).Shows level level.start := h.level ▸ s.shows_reset

theorem Shows.of_flash (h : s.Shows level cell) (flash : Option (Position × Color)) :
    ({ s with flash } : Scene).Shows level cell := ⟨h.level, h.cell, h.aligned⟩

theorem Shows.of_tick (h : s.Shows level cell) (n : Int) : ({ s with lastTick := n } : Scene).Shows level cell :=
  ⟨h.level, h.cell, h.aligned⟩

theorem walkTo_shows (step : Int) (target : Position) (t : Ticker) (w : τ) (h : s.level = level) :
    (walkTo draw step target s t w).1.Shows level target := by
  let prepare (elapsed : Int) (s' : Scene) := stride s.figure.cell target elapsed step s'
  have hprepare (elapsed : Int) (s' : Scene) (h : s'.level = level) : (prepare elapsed s').level = level := h
  have hlevel := frames_scene draw hprepare (fun _ _ h => h) step (frameBound step t) 0 t w h
  exact ⟨hlevel, rfl, rfl⟩

theorem flashAt_shows (position : Position) (color : Color) (t : Ticker) (w : τ) (h : s.Shows level cell) :
    (flashAt draw position color s t w).1.Shows level cell := by
  have hprepare (_ : Int) (s' : Scene) (h : s'.Shows level cell) : s'.Shows level cell := h
  have hframes := frames_scene draw hprepare (fun _ n h => h.of_tick n) flashTime (frameBound flashTime t) 0 t w
    (h.of_flash (some (position, color)))
  exact (hframes.of_flash none).of_tick _

/-- An event that is animated leads the figure to where it stands afterwards. -/
theorem play_shows (step : Int) (e : Event) (t : Ticker) (w : τ) (h : s.Shows level cell) :
    (play draw step e s t w).1.Shows level (e.standing cell) := by
  unfold play
  rw [Event.standing]
  split
  · exact walkTo_shows step e.position t w h.level
  · have hcharged : (if e.kind = .collectedEnergy then
        { s with figure := { s.figure with energized := true } } else s : Scene).Shows level cell := by
      split
      · exact ⟨h.level, h.cell, h.aligned⟩
      · exact h
    dsimp only
    generalize (if e.kind = .collectedEnergy then
      { s with figure := { s.figure with energized := true } } else s : Scene) = s at hcharged ⊢
    split
    · exact hcharged
    · exact flashAt_shows e.position _ t w hcharged

theorem play_drawn {R : τ → Prop} (hdraw : ∀ s t w, R w → R (draw s t w)) (step : Int) (e : Event) (s : Scene)
    (t : Ticker) {w : τ} (hw : R w) : R (play draw step e s t w).2.2 := by
  have hwalk : R (walkTo draw step e.position s t w).2.2 := by
    have hframes := frames_drawn hdraw (stride s.figure.cell e.position · step) step (frameBound step t) 0 s t hw
    exact hdraw _ _ _ hframes
  have hflash (s : Scene) (color : Color) : R (flashAt draw e.position color s t w).2.2 := by
    have hframes := frames_drawn hdraw (fun _ s => s) flashTime (frameBound flashTime t) 0
      { s with flash := some (e.position, color) } t hw
    exact hdraw _ _ _ hframes
  unfold play
  split
  · exact hwalk
  · dsimp only
    split
    · exact hw
    · exact hflash _ _

end Scene

/-! ### Tables -/

namespace Table
open Surroundings

variable {w w' : Table} {es : List Event} {rs : List Record} {ts : List (Option Number)} {level : Level}
  {cell : Position}

theorem display_shows (e : Event) (h : w.scene.Shows level cell) : (w.display e).scene.Shows level (e.standing cell) :=
  Scene.play_shows standardStep e w.ticker w h

theorem display_desk (e : Event) (w : Table) : (w.display e).desk = w.desk := by
  have hdraw (s : Scene) (t : Ticker) (w' : Table) (h : w'.desk = w.desk) :
      (w'.addTrace (w'.screen s t)).desk = w.desk := h
  exact Scene.play_drawn (R := fun w' : Table => w'.desk = w.desk) hdraw standardStep e w.scene w.ticker rfl

theorem undisturbed : surroundings.Undisturbed := fun _ _ => rfl

/-- The figure ends where the events lead it, one after the other. -/
theorem passage_shows (p : surroundings.Passage w es rs ts w') (h : w.scene.Shows level cell) :
    w'.scene.Shows level (es.foldl Event.standing cell) := by
  induction p generalizing cell with
  | refl w => exact h
  | displayed e _ ih => exact ih (display_shows e h)
  | recorded r _ ih => exact ih h
  | read _ ih => exact ih h
  | noted n _ ih => exact ih h

/-- Where nothing is displayed the scene stays as it is. -/
theorem passage_scene (p : surroundings.Passage w [] rs ts w') : w'.scene = w.scene := by
  generalize hes : ([] : List Event) = es at p
  induction p with
  | refl w => rfl
  | displayed e _ _ => cases hes
  | recorded r _ ih => exact ih hes
  | read _ ih => exact ih hes
  | noted n _ ih => exact ih hes

/-- The desk gets the records made on the way. -/
theorem passage_gains (p : surroundings.Passage w es rs ts w') : w.desk.Gains rs w'.desk := by
  induction p with
  | refl w => exact .refl w.desk
  | @displayed e w _ _ _ _ _ ih =>
    have hdesk : (surroundings.display e w).2.desk = w.desk := display_desk e w
    exact hdesk ▸ ih
  | @recorded r w _ _ rs _ _ ih => exact (Desk.record_gains w.desk r).trans ih
  | read _ ih => exact ih
  | @noted n w _ _ _ _ _ ih => exact (Desk.noteAll_gains [n] w.desk).trans ih

/-- Where every record is taken nothing fails to be recorded, since the clock shows seconds. -/
theorem not_failsToRecord (h : w.desk.TakesRecords) : ¬surroundings.FailsToRecord w := by
  rintro ⟨es, ts, w', p, ⟨r, hrefused⟩ | ⟨error, htime⟩⟩
  · exact hrefused (Desk.record_ok ((passage_gains p).takes h) r)
  · cases htime

/-- A visit without a walk in progress is left with at most one record, and with it if records are taken. -/
theorem leave_of_idle {v : Visit} (w : Table) (h : v.stepper.inFlight = false) :
    ∃ left w' time energized, Visit.leave surroundings none (v, w) = (left, v, w') ∧ w'.scene = w.scene ∧
      w.desk.Gains [v.departure time energized] w'.desk ∧ (w.desk.TakesRecords → ∃ r, left = .ok r) := by
  let energized := (v.lastWalk.map (·.energized)).getD false
  have hread : Visit.readElapsed surroundings none (v, w) = (.ok (secondsOf w.elapsed), v, w) := rfl
  obtain ⟨left, w', hkeep, hrecording⟩ :=
    Visit.keepRecord_recording surroundings false v.lastCommands (secondsOf w.elapsed) energized v w
  have hleave : Visit.leave surroundings none (v, w) = (left, v, w') := by
    rw [Visit.leave, Act.visit_bind_apply, Act.bind_of_ok (Visit.abort_of_idle _ w h), Act.bind_of_ok hread]
    exact hkeep
  cases hrecording with
  | unkept hkeeps =>
    have hnone : w.desk.recorder = none := Option.isNone_iff_eq_none.mp (Option.isSome_eq_false_iff.mp hkeeps)
    exact ⟨_, w, 0, energized, hleave, rfl, .of_none hnone _, fun _ => ⟨_, rfl⟩⟩
  | uncounted _ htime => cases htime
  | @taken time => exact ⟨_, _, time, energized, hleave, rfl, Desk.record_gains _ _, fun _ => ⟨_, rfl⟩⟩
  | @refused time _ _ _ hrefused =>
    refine ⟨_, _, time, energized, hleave, rfl, Desk.record_gains _ _, fun htakes => ?_⟩
    cases hrefused.symm.trans (Desk.record_ok htakes _)

end Table
end Client
end GridWalk
