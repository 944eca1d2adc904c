import GridWalk.Proofs.Client.Showing

/-! What the main loop of the game does, one thing after the other: it begins a frame, it handles an event, it draws the
    screen. Each of these turns comes to one of a few things, and between them no walk is in progress, time is not up,
    and the window shows the character where the visit has it. -/

namespace GridWalk.Client
open Walk (Stepper simulate)

/-- The key that changes the level. -/
def WindowEvent.changesLevel : WindowEvent → Bool
  | .press k => k.key = .tab
  | _ => false

/-- The keys that give up the visit. -/
def WindowEvent.givesUp : WindowEvent → Bool
  | .press k => k.key = .tab || k.key = .f5
  | _ => false

/-- What the main loop does next. -/
inductive Beat
  | tick
  | event (e : WindowEvent)
  | draw
deriving DecidableEq

/-- The beats of a frame. -/
def Beat.ofFrame (events : List WindowEvent) : List Beat := .tick :: events.map .event ++ [.draw]

theorem Beat.event_mem_ofFrame {e : WindowEvent} {events : List WindowEvent} :
    .event e ∈ ofFrame events ↔ e ∈ events := by
  simp [ofFrame]

namespace Game

variable {g g' : Game} {beat : Beat} {result : Except GameError Unit} {rs : List Record}

/-! ### Runs -/

/-- The next beat of the main loop. -/
def turn : Beat → Game → Except GameError Unit × Game
  | .tick, g => { g.onTable fun w => { w with ticker := w.ticker.tick } with former := none }.checkTime
  | .event e, g => g.handle e
  | .draw, g => (.ok (), g.onTable Table.draw)

/-- Beats one after the other, until one fails. -/
def turns : List Beat → Game → Except GameError Unit × Game
  | [], g => (.ok (), g)
  | beat :: beats, g => andThen (g.turn beat) fun _ g => turns beats g

/-- The beats of a run: those of its frames up to the one in which the window is closed or something fails. -/
def beats : List (List WindowEvent) → Game → List Beat
  | [], _ => Beat.ofFrame [.quit]
  | events :: rest, g => Beat.ofFrame events ++ match turns (Beat.ofFrame events) g with
    | (.ok _, g) => if g.running then beats rest g else []
    | (.error _, _) => []

theorem beats_cons_of_ok {events : List WindowEvent} (h : turns (Beat.ofFrame events) g = (.ok (), g'))
    (rest : List (List WindowEvent)) :
    beats (events :: rest) g = Beat.ofFrame events ++ if g'.running then beats rest g' else [] := by
  rw [beats, h]

theorem andThen_assoc {α : Type} (r : Except GameError α × Game) (f : α → Game → Except GameError Unit × Game)
    (h : Unit → Game → Except GameError Unit × Game) :
    andThen (andThen r f) h = andThen r fun a g => andThen (f a g) h := by
  obtain ⟨result, g⟩ := r
  cases result with
  | ok => rfl
  | error => rfl

theorem turns_append (first rest : List Beat) (g : Game) :
    turns (first ++ rest) g = andThen (turns first g) fun _ g => turns rest g := by
  induction first generalizing g with
  | nil => rfl
  | cons beat first ih =>
    simp only [List.cons_append, turns, ih]
    exact (andThen_assoc _ _ _).symm

theorem turns_append_of_ok {first : List Beat} (h : turns first g = (.ok (), g')) (rest : List Beat) :
    turns (first ++ rest) g = turns rest g' := by
  rw [turns_append, h]
  rfl

theorem turns_append_of_error {first : List Beat} {e : GameError} (h : turns first g = (.error e, g'))
    (rest : List Beat) : turns (first ++ rest) g = (.error e, g') := by
  rw [turns_append, h]
  rfl

theorem turns_append_eq_ok {first rest : List Beat} (h : turns (first ++ rest) g = (.ok (), g')) :
    ∃ g₁, turns first g = (.ok (), g₁) ∧ turns rest g₁ = (.ok (), g') := by
  rcases hfirst : turns first g with ⟨_ | _, g₁⟩
  · rw [turns_append_of_error hfirst] at h
    cases h
  · rw [turns_append_of_ok hfirst] at h
    exact ⟨g₁, rfl, h⟩

theorem handleAll_eq_turns (events : List WindowEvent) (g : Game) :
    handleAll events g = turns (events.map .event) g := by
  induction events generalizing g with
  | nil => rfl
  | cons e events ih => simp only [handleAll, List.map_cons, turns, turn, ih]

theorem frame_eq_turns (events : List WindowEvent) (g : Game) : g.frame events = turns (Beat.ofFrame events) g := by
  rw [Beat.ofFrame, List.cons_append, turns]
  simp only [turns_append, ← handleAll_eq_turns]
  rfl

/-- The main loop goes on beat by beat. -/
theorem loop_eq_turns (frames : List (List WindowEvent)) (g : Game) :
    loop frames g = andThen (turns (beats frames g) g) fun _ g => (.ok (), g.onTable (·.addTrace .quit)) := by
  induction frames generalizing g with
  | nil => rw [loop, beats, frame_eq_turns]
  | cons events rest ih =>
    rw [loop, beats, frame_eq_turns, turns_append]
    rcases turns (Beat.ofFrame events) g with ⟨_ | _, g'⟩
    · rfl
    · dsimp only [andThen]
      split
      · exact ih g'
      · rfl

/-! ### Games between turns -/

/-- The window shows the visit to the level that was loaded last, and no walk is in progress. -/
structure InStep (g : Game) : Prop where
  loaded : ∃ before : Seeding, before.next = g.seeding ∧ Level.load g.playlist.current before = .ok g.visit.level
  shows : g.table.scene.Shows g.visit.level g.visit.position
  idle : g.visit.stepper.inFlight = false

/-- What holds of a game between turns: besides, time is not up, a completed level has the character at a door, and the
    visit that the frame began with has no walk in progress either. -/
structure Steady (g : Game) : Prop extends g.InStep where
  early : g.visit.timedOut = false
  atDoor : g.visit.completed = true → g.visit.level.terrain? g.visit.position = some .door
  former : ∀ v ∈ g.former, v.stepper.inFlight = false

/-- The visit that the frame began with, as it is now. -/
def held (g : Game) : Visit := g.former.getD g.visit

/-- The next frame finds that the time limit of the visit is reached. -/
def limitReached (g : Game) : Bool := g.visit.isOverdue (secondsOf (g.table.ticker.tick.now - g.table.begun))

/-- What a turn comes to while records are made: what it results in and the game that is left. -/
inductive Turned (g : Game) : Beat → List Record → Except GameError Unit → Game → Prop
  | stayed {beat : Beat} {w : Table} (htick : beat ≠ .tick) (hquit : beat ≠ .event .quit)
    (hscene : w.scene = g.table.scene) (hgains : g.table.desk.Gains [] w.desk) :
    Turned g beat [] (.ok ()) { g with table := w }
  | began {w : Table} (hscene : w.scene = g.table.scene) (hdesk : w.desk = g.table.desk) :
    Turned g .tick [] (.ok ()) { g with table := w, former := none }
  | timeUp {w : Table} (hlate : g.limitReached = true) (hscene : w.scene = g.table.scene.reset none)
    (hgains : g.table.desk.Gains [] w.desk) :
    Turned g .tick [] (.ok ()) { g with visit := g.visit.renewed, table := w, former := none }
  | entered {e : WindowEvent} {p : Playlist} {level : Level} {w : Table} (htab : e.changesLevel = true)
    (hload : Level.load p.current g.seeding = .ok level) (hscene : w.scene = { level })
    (hgains : g.table.desk.Gains [] w.desk) :
    Turned g (.event e) [] (.ok ())
      { g with playlist := p, seeding := g.seeding.next, visit := { level }, former := some g.held, table := w }
  | notEntered {e : WindowEvent} {p : Playlist} {error : LoadError} (htab : e.changesLevel = true)
    (hload : Level.load p.current g.seeding = .error error) :
    Turned g (.event e) [] (.error (.load error)) { g with playlist := p }
  | renewed {e : WindowEvent} {st : Stepper} {w : Table} (hquit : e ≠ .quit)
    (hwhy : e.givesUp = true ∨ g.visit.completed = false) (hidle : st.inFlight = false)
    (hscene : w.scene.Shows g.visit.level g.visit.level.start) (hgains : g.table.desk.Gains [] w.desk) :
    Turned g (.event e) [] (.ok ()) { g with visit := { g.visit.renewed with stepper := st }, table := w }
  | walked {e : WindowEvent} {moves : List Move} {s : Walk.State} {rs : List Record} {w : Table} (commandsUsed : Nat)
    (hquit : e ≠ .quit) (hnew : g.visit.completed = false) (hs : simulate g.visit.level moves = some s)
    (hrs : ∀ r ∈ rs, r.success = true)
    (hscene : w.scene.Shows g.visit.level (g.visit.walked commandsUsed s).position)
    (hgains : g.table.desk.Gains rs w.desk) :
    Turned g (.event e) rs (.ok ()) { g with visit := g.visit.walked commandsUsed s, table := w }
  | unrecorded {e : WindowEvent} {s : Walk.State} {rs : List Record} {w : Table} {error : VisitError}
    (commandsUsed : Nat) (hquit : e ≠ .quit) (hnew : g.visit.completed = false) (hrs : ∀ r ∈ rs, r.success = true)
    (hgains : g.table.desk.Gains rs w.desk) (hrefused : ¬g.table.desk.TakesRecords) :
    Turned g (.event e) rs (.error (.visit error)) { g with visit := g.visit.walked commandsUsed s, table := w }
  | closed (hdone : g.held.completed = true) : Turned g (.event .quit) [] (.ok ()) { g with running := false }
  | left {time : Int} {energized : Bool} {w : Table} (hnew : g.held.completed = false)
    (hscene : w.scene = g.table.scene) (hgains : g.table.desk.Gains [g.held.departure time energized] w.desk) :
    Turned g (.event .quit) [g.held.departure time energized] (.ok ()) { g with table := w, running := false }
  | notLeft {time : Int} {energized : Bool} {w : Table} {error : VisitError} (hnew : g.held.completed = false)
    (hscene : w.scene = g.table.scene) (hgains : g.table.desk.Gains [g.held.departure time energized] w.desk)
    (hrefused : ¬g.table.desk.TakesRecords) :
    Turned g (.event .quit) [g.held.departure time energized] (.error (.visit error)) { g with table := w }

/-! ### Closing the window -/

theorem Steady.held_idle (h : g.Steady) : g.held.stepper.inFlight = false := by
  rw [held]
  cases hformer : g.former with
  | none => exact h.idle
  | some v => exact h.former v hformer

/-- The visit that the frame began with stays as it is when it is left. -/
theorem close_of_left {left : Except VisitError (Option Record)} {w : Table}
    (hleft : (if g.held.completed then (.ok none, g.held, g.table) else
      Visit.leave Table.surroundings none (g.held, g.table)) = (left, g.held, w)) :
    g.close =
      andThen (left.mapError .visit, { g with table := w }) fun _ g => (.ok (), { g with running := false }) := by
  rw [held] at hleft
  rw [close, hleft]
  cases hformer : g.former with
  | none => simp
  | some v => simp

theorem close_turned (h : g.Steady) :
    ∃ rs result g', g.close = (result, g') ∧ g.Turned (.event .quit) rs result g' := by
  cases hdone : g.held.completed with
  | true => exact ⟨_, _, _, close_of_left (by rw [hdone]; rfl), .closed hdone⟩
  | false =>
    obtain ⟨left, w, time, energized, hleave, hscene, hgains, htaken⟩ := Table.leave_of_idle g.table h.held_idle
    have hclose := close_of_left (g := g) (by rw [hdone]; exact hleave)
    cases left with
    | ok => exact ⟨_, _, _, hclose, .left hdone hscene hgains⟩
    | error e => exact ⟨_, _, _, hclose, .notLeft hdone hscene hgains fun htakes => nomatch htaken htakes⟩

/-! ### Beginning anew -/

/-- Where no walk is in progress the visit is begun anew with the player put back. -/
theorem restart_of_idle (h : g.visit.stepper.inFlight = false) : g.restart =
    (.ok (), { g with
      visit := g.visit.renewed, table := { g.table.resetScene with begun := g.table.ticker.now } }) := by
  have hrestart : Visit.restart Table.surroundings (g.visit, g.table) = (.ok (), g.visit.renewed, g.table) := by
    rw [Visit.restart, Act.bind_of_ok (Visit.abort_of_idle _ _ h)]
    rfl
  rw [restart, act, hrestart]
  rfl

theorem tick_turned (h : g.Steady) : ∃ rs result g', g.turn .tick = (result, g') ∧ g.Turned .tick rs result g' := by
  let w : Table := { g.table with ticker := g.table.ticker.tick }
  rw [turn, checkTime, act]
  dsimp only [onTable]
  cases hlate : g.visit.isOverdue (secondsOf w.elapsed) with
  | false =>
    rw [Visit.checkTime_of_early _ w h.early hlate]
    exact ⟨_, _, _, rfl, .began rfl rfl⟩
  | true =>
    let late : Visit := { g.visit with timedOut := true, position := g.visit.level.start }
    let w' := Table.surroundings.noted g.visit.overdueNotes w
    have p : Table.surroundings.Passage w [] [] [] w' := .foldl_note _ w
    have hscene : w'.scene = w.scene := Table.passage_scene p
    have hgains : w.desk.Gains [] w'.desk := Table.passage_gains p
    have hrestart := restart_of_idle (g := { g with visit := late, table := w', former := none }) h.idle
    rw [Visit.checkTime_of_overdue_idle _ w h.early hlate h.idle]
    dsimp only [andThen, Except.mapError]
    rw [if_pos rfl, hrestart]
    exact ⟨_, _, _, rfl, .timeUp hlate (congrArg (Scene.reset none) hscene) hgains⟩

/-! ### Submitting -/

/-- The table as it is prepared for a text, with the player put back if the text will be walked. -/
def preparedTable (text : String) (g : Game) : Table :=
  if !g.visit.completed && (g.visit.rejection? (some text)).isNone then g.table.resetScene else g.table

/-- The table that presents a report, with the player put back if a walk left the visit at the start. -/
def presentedTable (report : Report) (g : Game) : Table :=
  let w := { g.table with message := report.message }
  if report.valid && g.visit.position = g.visit.level.start then w.resetScene else w

theorem prepare_eq (text : String) (g : Game) : g.prepare text = { g with table := g.preparedTable text } := by
  rw [prepare, preparedTable]
  split
  · rfl
  · rfl

theorem present_eq (report : Report) (g : Game) : g.present report = { g with table := g.presentedTable report } := by
  exact (apply_ite (fun w => ({ g with table := w } : Game)) _ _ _).symm

theorem preparedTable_desk (text : String) (g : Game) : (g.preparedTable text).desk = g.table.desk := by
  rw [preparedTable]
  split
  · rfl
  · rfl

/-- For a text that will be walked the player is put back. -/
theorem preparedTable_scene_of_accepted {text : String} (hnew : g.visit.completed = false)
    (haccepted : g.visit.rejection? (some text) = none) :
    (g.preparedTable text).scene = g.table.scene.reset none := by
  rw [preparedTable, hnew, haccepted]
  rfl

/-- For a text that will be turned away the player stays. -/
theorem preparedTable_scene_of_turnedAway {text : String}
    (h : g.visit.completed = true ∨ g.visit.rejection? (some text) ≠ none) :
    (g.preparedTable text).scene = g.table.scene := by
  have hunwalked : (!g.visit.completed && (g.visit.rejection? (some text)).isNone) = false := by
    rcases h with hdone | hrejected
    · rw [hdone, Bool.not_true, Bool.false_and]
    · rw [Option.isNone_eq_false_iff.mpr (Option.isSome_iff_ne_none.mpr hrejected), Bool.and_false]
  rw [preparedTable, hunwalked, if_neg Bool.false_ne_true]

/-- Either way it is the same level that is shown. -/
theorem preparedTable_shows {cell : Position} (text : String) (h : g.table.scene.Shows g.visit.level cell) :
    ∃ cell', (g.preparedTable text).scene.Shows g.visit.level cell' := by
  rw [preparedTable]
  split
  · exact ⟨_, h.reset⟩
  · exact ⟨_, h⟩

theorem presentedTable_desk (report : Report) (g : Game) : (g.presentedTable report).desk = g.table.desk := by
  rw [presentedTable]
  dsimp only
  split
  · rfl
  · rfl

theorem presentedTable_scene (report : Report) (g : Game) : (g.presentedTable report).scene =
    if report.valid && g.visit.position = g.visit.level.start then g.table.scene.reset none else g.table.scene :=
  apply_ite Table.scene _ _ _

theorem presentedTable_level (report : Report) (g : Game) :
    (g.presentedTable report).scene.level = g.table.scene.level := by
  rw [presentedTable_scene]
  split
  · rfl
  · rfl

/-- The player is shown where a walk ended, or at the start where the visit is back there. -/
theorem presentedTable_shows {report : Report} {cell : Position} (h : report.valid = true)
    (hscene : g.table.scene.Shows g.visit.level cell)
    (hcell : g.visit.position ≠ g.visit.level.start → g.visit.position = cell) :
    (g.presentedTable report).scene.Shows g.visit.level g.visit.position := by
  rw [presentedTable_scene, h, Bool.true_and]
  by_cases hback : g.visit.position = g.visit.level.start
  · rw [if_pos (decide_eq_true hback), hback]
    exact hscene.reset
  · rw [if_neg (mt of_decide_eq_true hback), hcell hback]
    exact hscene

/-- A submission that fails leaves the game with what it did to the visit. -/
theorem submit_of_error {v : Visit} {w : Table} {e : VisitError}
    (h : Visit.submit Table.surroundings 0 (some (String.ofList g.table.prompt.text)) none
      (g.visit, g.preparedTable (String.ofList g.table.prompt.text)) = (.error e, v, w)) :
    g.submit = (.error (.visit e), { g with visit := v, table := w }) := by
  rw [submit, prepare_eq, act]
  dsimp only
  rw [h]
  rfl

/-- A submission that is reported on is shown, and the visit is begun anew if time was up. -/
theorem submit_of_report {v : Visit} {w : Table} {report : Report}
    (h : Visit.submit Table.surroundings 0 (some (String.ofList g.table.prompt.text)) none
      (g.visit, g.preparedTable (String.ofList g.table.prompt.text)) = (.ok report, v, w)) :
    g.submit = if v.timedOut then (({ g with visit := v, table := w } : Game).present report).restart
      else (.ok (), ({ g with visit := v, table := w } : Game).present report) := by
  rw [submit, prepare_eq, act]
  dsimp only
  rw [h]
  dsimp only [andThen, Except.mapError]
  rw [present_eq]

/-- After a submission for which time was up the visit is begun anew with the player put back. -/
theorem submit_of_timedOut {v : Visit} {w : Table} {report : Report}
    (h : Visit.submit Table.surroundings 0 (some (String.ofList g.table.prompt.text)) none
      (g.visit, g.preparedTable (String.ofList g.table.prompt.text)) = (.ok report, v, w))
    (htime : v.timedOut = true) (hidle : v.stepper.inFlight = false) (hlevel : w.scene.level = v.level) :
    ∃ w', g.submit = (.ok (), { g with visit := v.renewed, table := w' }) ∧ w'.scene.Shows v.level v.level.start ∧
      w'.desk = w.desk := by
  let late : Game := { g with visit := v, table := w }
  have hsubmit := submit_of_report h
  rw [if_pos htime, present_eq, restart_of_idle hidle] at hsubmit
  refine ⟨_, hsubmit, ?_, presentedTable_desk report late⟩
  have hshows := (late.presentedTable report).scene.shows_reset
  rwa [presentedTable_level, show late.table.scene.level = v.level from hlevel] at hshows

/-- A submission comes to one of these things, whatever else the table is before it. -/
theorem submit_turned {w₀ : Table} (h : g.Steady) {e : WindowEvent} (hquit : e ≠ .quit)
    (hscene : w₀.scene = g.table.scene) (hdesk : w₀.desk = g.table.desk) : ∃ rs result g',
      ({ g with table := w₀ } : Game).submit = (result, g') ∧ g.Turned (.event e) rs result g' := by
  let before : Game := { g with table := w₀ }
  let text := String.ofList w₀.prompt.text
  obtain ⟨out, v, w, es, rs, ts, hsubmit, p, hsubmitted⟩ :=
    Visit.submit_submitted Table.undisturbed h.idle 0 (some text) (before.preparedTable text)
  have hbefore : (before.preparedTable text).desk = g.table.desk := (preparedTable_desk text before).trans hdesk
  have hgains : g.table.desk.Gains rs w.desk := hbefore ▸ Table.passage_gains p
  have hpresented (v : Visit) (report : Report) : g.table.desk.Gains rs
      (({ before with visit := v, table := w } : Game).presentedTable report).desk := by
    rw [presentedTable_desk]
    exact hgains
  have hshown : w₀.scene.Shows g.visit.level g.visit.position := hscene ▸ h.shows
  have hlevel : w.scene.level = g.visit.level := by
    obtain ⟨cell, hprepared⟩ := preparedTable_shows (g := before) text hshown
    exact (Table.passage_shows p hprepared).level
  cases hsubmitted with
  | @turnedAway report hreason hreport =>
    have hturnedAway : g.visit.completed = true ∨ g.visit.rejection? (some text) ≠ none :=
      hreason.imp_right (·.resolve_left (by rw [h.early]; exact Bool.false_ne_true))
    have hstays : (before.preparedTable text).scene = w₀.scene := preparedTable_scene_of_turnedAway hturnedAway
    have hanswer := submit_of_report (g := before) hsubmit
    rw [h.early, if_neg Bool.false_ne_true, present_eq] at hanswer
    refine ⟨_, _, _, hanswer, .stayed nofun (fun heq => hquit (Beat.event.inj heq)) ?_ (hpresented _ report)⟩
    rw [presentedTable_scene, hreport, Bool.false_and, if_neg Bool.false_ne_true]
    exact (Table.passage_scene p).trans (hstays.trans hscene)
  | late hnew hreport =>
    obtain ⟨w', hsubmit, hstart, hsame⟩ :=
      submit_of_timedOut (g := before) hsubmit rfl g.visit.stepper.inFlight_abort hlevel
    have hidle := g.visit.overdue.stepper.inFlight_abort
    exact ⟨_, _, _, hsubmit, .renewed hquit (.inr hnew) hidle hstart (hsame ▸ hgains)⟩
  | cut n s hnew hreport =>
    obtain ⟨w', hsubmit, hstart, hsame⟩ := submit_of_timedOut (g := before) hsubmit rfl rfl hlevel
    exact ⟨_, _, _, hsubmit, .renewed hquit (.inr hnew) rfl hstart (hsame ▸ hgains)⟩
  | @walked moves s rs report n hnew htime haccepted hs hrs hreport =>
    have hreset : (before.preparedTable text).scene = w₀.scene.reset none :=
      preparedTable_scene_of_accepted hnew haccepted
    have hwalked : w.scene.Shows g.visit.level s.position :=
      Walk.foldl_standing hs ▸ Table.passage_shows p (hreset ▸ hshown.reset)
    have hanswer := submit_of_report (g := before) hsubmit
    rw [show (g.visit.walked n s).timedOut = false from h.early, if_neg Bool.false_ne_true, present_eq] at hanswer
    refine ⟨_, _, _, hanswer, .walked n hquit hnew hs hrs ?_ (hpresented _ report)⟩
    refine presentedTable_shows (g := { before with visit := g.visit.walked n s, table := w }) hreport hwalked ?_
    exact fun haway => if_neg fun hhazard => haway (if_pos hhazard)
  | unrecorded n hnew hs hrs hfails =>
    exact ⟨_, _, _, submit_of_error (g := before) hsubmit, .unrecorded n hquit hnew hrs hgains fun htakes =>
      Table.not_failsToRecord (hbefore.symm ▸ htakes) hfails⟩

/-! ### Turns -/

/-- Loading a level only makes entries. -/
theorem settle_gains (name : String) (level : Level) (w : Table) : w.desk.Gains [] (settle name level w).desk :=
  (Desk.noteAll_gains _ _).trans (Desk.noteAll_gains [loadedNote name] _)

theorem changeLevel_turned {e : WindowEvent} (htab : e.changesLevel = true) (offset : Int) (g : Game) :
    ∃ rs result g', g.changeLevel offset = (result, g') ∧ g.Turned (.event e) rs result g' := by
  rw [changeLevel]
  dsimp only
  split
  · rename_i error hload
    exact ⟨_, _, _, rfl, .notEntered htab hload⟩
  · rename_i level hload
    exact ⟨_, _, _, rfl, .entered htab hload rfl (settle_gains _ level _)⟩

theorem press_turned (h : g.Steady) (k : KeyPress) :
    ∃ rs result g', g.press k = (result, g') ∧ g.Turned (.event (.press k)) rs result g' := by
  rw [press]
  split
  · rename_i hkey
    exact changeLevel_turned (e := .press k) (decide_eq_true hkey) _ g
  · rename_i hkey
    have hgivesUp : (WindowEvent.press k).givesUp = true := by
      rw [WindowEvent.givesUp, hkey]
      rfl
    rw [restart_of_idle h.idle]
    exact ⟨_, _, _, rfl, .renewed nofun (.inl hgivesUp) g.visit.stepper.inFlight_abort h.shows.reset (.refl _)⟩
  · split
    · exact ⟨_, _, _, rfl, .stayed nofun nofun rfl (.of_same rfl rfl)⟩
    · dsimp only
      split
      · exact submit_turned h nofun rfl rfl
      · exact ⟨_, _, _, rfl, .stayed nofun nofun rfl (.refl _)⟩

/-- Every turn comes to one of these things. -/
theorem turn_turned (h : g.Steady) (beat : Beat) :
    ∃ rs result g', g.turn beat = (result, g') ∧ g.Turned beat rs result g' := by
  cases beat with
  | tick => exact tick_turned h
  | draw => exact ⟨_, _, _, rfl, .stayed nofun nofun rfl (.refl _)⟩
  | event e =>
    cases e with
    | quit => exact close_turned h
    | press k => exact press_turned h k
    | ignored => exact ⟨_, _, g, rfl, .stayed (w := g.table) nofun nofun rfl (.refl _)⟩

/-- What holds of a game between turns holds after every turn that does not fail. -/
theorem Turned.steady (h : g.Turned beat rs (.ok ()) g') (hg : g.Steady) : g'.Steady := by
  have hnone (v : Visit) (hv : v ∈ (none : Option Visit)) : v.stepper.inFlight = false := nomatch hv
  have hnew {P : Prop} (hdone : false = true) : P := absurd hdone Bool.false_ne_true
  cases h with
  | stayed _ _ hscene => exact { hg with shows := hscene ▸ hg.shows }
  | began hscene => exact { hg with shows := hscene ▸ hg.shows, former := hnone }
  | timeUp _ hscene =>
    exact ⟨⟨hg.loaded, hscene ▸ hg.shows.reset, g.visit.stepper.inFlight_abort⟩, rfl, hnew, hnone⟩
  | entered _ hload hscene =>
    refine ⟨⟨⟨g.seeding, rfl, hload⟩, hscene ▸ ⟨rfl, rfl, rfl⟩, rfl⟩, rfl, hnew, ?_⟩
    rintro v ⟨⟩
    exact hg.held_idle
  | renewed _ _ hidle hscene => exact ⟨⟨hg.loaded, hscene, hidle⟩, rfl, hnew, hg.former⟩
  | walked n _ _ hs _ hscene =>
    refine ⟨⟨hg.loaded, hscene, rfl⟩, hg.early, fun hdone => ?_, hg.former⟩
    have hvictory : _ = Walk.Outcome.victory := of_decide_eq_true hdone
    have hwhere : (g.visit.walked n _).position = _ := if_neg (by rw [hvictory]; nofun)
    exact (congrArg _ hwhere).trans (Walk.door_of_victory hs hvictory)
  | closed => exact { hg with }
  | left _ hscene => exact { hg with shows := hscene ▸ hg.shows }

/-- The level that the player goes to does not load. -/
def FailsToLoad (g : Game) (error : GameError) : Prop :=
  ∃ e, error = .load e ∧ Level.load g.playlist.current g.seeding = .error e

/-- Where every record is taken, a turn fails only since a level does not load. -/
theorem Turned.failsToLoad {error : GameError} (h : g.Turned beat rs (.error error) g')
    (htakes : g.table.desk.TakesRecords) : g'.FailsToLoad error := by
  cases h with
  | notEntered _ hload => exact ⟨_, rfl, hload⟩
  | unrecorded _ _ _ _ _ hrefused => exact absurd htakes hrefused
  | notLeft _ _ _ hrefused => exact absurd htakes hrefused

/-- The desk gets the records that are made. -/
theorem Turned.gains (h : g.Turned beat rs result g') : g.table.desk.Gains rs g'.table.desk := by
  cases h with
  | stayed _ _ _ hgains | timeUp _ _ hgains | entered _ _ _ hgains | renewed _ _ _ _ hgains | walked _ _ _ _ _ _ hgains
  | unrecorded _ _ _ _ hgains | left _ _ hgains | notLeft _ _ hgains => exact hgains
  | began _ hdesk => exact .of_same (congrArg _ hdesk) (congrArg _ hdesk)
  | notEntered | closed => exact .refl _

end Game
end GridWalk.Client
