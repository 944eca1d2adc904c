import GridWalk.Proofs.Client.Turning
import Mathlib.Data.List.Basic

/-! Runs of the game, from the level that is loaded first to the closing of the window. Whatever the player does and
    however time goes on, between any two turns the window shows the character where the visit has it. -/

namespace GridWalk.Client

/-- Every playlist begins at the level that it was asked for. -/
theorem Playlist.current_startingAt (name : String) : (startingAt name).current = name := by
  have hmem (names : List String) (h : name ∈ names) : (names[names.idxOf name]?).getD "" = name := by
    rw [List.getElem?_idxOf h]
    rfl
  rw [current, startingAt]
  dsimp only
  split
  · rename_i hcontains
    exact hmem _ (List.contains_iff_mem.mp hcontains)
  · exact hmem _ List.mem_cons_self

namespace Game

variable {g g' : Game} {bs : List Beat} {rs : List Record} {result : Except GameError Unit} {name : String}
  {level : Level} {desk : Desk}

/-! ### Beginning and end -/

/-- The game once the first level was loaded. -/
def opening (name : String) (seeding : Seeding) (level : Level) (desk : Desk) (deltas : List Int) : Game where
  seeding := seeding.next
  playlist := .startingAt name
  visit := { level }
  table := settle name level { desk, ticker := { deltas }, scene := { level } }

theorem execute_of_load {seeding : Seeding} (hload : Level.load name seeding = .ok level) (desk : Desk)
    (deltas : List Int) (frames : List (List WindowEvent)) : execute name seeding desk deltas frames =
      let out := loop frames (opening name seeding level desk deltas)
      (out.1, ⟨out.2.table.desk, out.2.table.trace⟩) := by
  rw [execute, Playlist.current_startingAt, hload]
  rfl

theorem exists_of_execute {seeding : Seeding} {deltas : List Int} {frames : List (List WindowEvent)} {left : Remains}
    (h : execute name seeding desk deltas frames = (.ok (), left)) : ∃ level, Level.load name seeding = .ok level := by
  rw [execute, Playlist.current_startingAt] at h
  cases hload : Level.load name seeding with
  | ok level => exact ⟨level, rfl⟩
  | error e =>
    rw [hload] at h
    cases h

theorem steady_opening {seeding : Seeding} (hload : Level.load name seeding = .ok level) (desk : Desk)
    (deltas : List Int) : (opening name seeding level desk deltas).Steady where
  loaded := by
    refine ⟨seeding, rfl, ?_⟩
    rw [opening, Playlist.current_startingAt]
    exact hload
  shows := ⟨rfl, rfl, rfl⟩
  idle := rfl
  early := rfl
  atDoor hdone := absurd hdone Bool.false_ne_true
  former v hv := nomatch hv

theorem opening_gains (seeding : Seeding) (level : Level) (deltas : List Int) :
    desk.Gains [] (opening name seeding level desk deltas).table.desk :=
  settle_gains name level { desk, ticker := { deltas }, scene := { level } }

/-- A run comes to what its beats come to. -/
theorem execute_eq_turns {seeding : Seeding} (hload : Level.load name seeding = .ok level) (desk : Desk)
    (deltas : List Int) (frames : List (List WindowEvent)) :
    let start := opening name seeding level desk deltas
    let run := execute name seeding desk deltas frames
    let out := turns (beats frames start) start
    run.1 = out.1 ∧ run.2.desk = out.2.table.desk := by
  let start := opening name seeding level desk deltas
  rw [execute_of_load hload]
  dsimp only
  rw [loop_eq_turns]
  rcases turns (beats frames start) start with ⟨_ | _, g⟩
  · exact ⟨rfl, rfl⟩
  · exact ⟨rfl, rfl⟩

/-! ### What a run comes to -/

/-- Turns one after the other while records are made, until one fails. -/
inductive Ran : Game → List Beat → List Record → Except GameError Unit → Game → Prop
  | done (g : Game) : Ran g [] [] (.ok ()) g
  | failed {g g' : Game} {beat : Beat} {rs : List Record} {e : GameError} (bs : List Beat)
    (h : g.Turned beat rs (.error e) g') : Ran g (beat :: bs) rs (.error e) g'
  | turned {g g₁ g' : Game} {beat : Beat} {bs : List Beat} {rs rs' : List Record} {result : Except GameError Unit}
    (hturn : g.turn beat = (.ok (), g₁)) (h : g.Turned beat rs (.ok ()) g₁) (hrest : Ran g₁ bs rs' result g') :
    Ran g (beat :: bs) (rs ++ rs') result g'

theorem turns_ran (h : g.Steady) (bs : List Beat) :
    ∃ rs result g', turns bs g = (result, g') ∧ Ran g bs rs result g' := by
  induction bs generalizing g with
  | nil => exact ⟨_, _, g, rfl, .done g⟩
  | cons beat bs ih =>
    obtain ⟨rs, result, g₁, hturn, hturned⟩ := turn_turned h beat
    cases result with
    | error e =>
      refine ⟨rs, _, g₁, ?_, .failed bs hturned⟩
      rw [turns, hturn]
      rfl
    | ok =>
      obtain ⟨rs', result, g', hturns, hran⟩ := ih (hturned.steady h)
      refine ⟨rs ++ rs', result, g', ?_, .turned hturn hturned hran⟩
      rw [turns, hturn]
      exact hturns

theorem ran_of_turns (hg : g.Steady) (h : turns bs g = (result, g')) : ∃ rs, Ran g bs rs result g' := by
  obtain ⟨rs, result', g'', hturns, hran⟩ := turns_ran hg bs
  obtain ⟨rfl, rfl⟩ := Prod.mk.inj (h.symm.trans hturns)
  exact ⟨rs, hran⟩

namespace Ran

/-- What a turn without a failure keeps, turns without a failure keep. -/
theorem keeps {P : Game → Prop} (h : Ran g bs rs (.ok ()) g')
    (hturn : ∀ {g g' : Game} {beat : Beat} {rs : List Record}, g.Turned beat rs (.ok ()) g' → P g → P g') (hg : P g) :
    P g' := by
  generalize hresult : (Except.ok () : Except GameError Unit) = result at h
  induction h with
  | done g => exact hg
  | failed => cases hresult
  | turned _ h _ ih => exact ih (hturn h hg) hresult

theorem steady (h : Ran g bs rs (.ok ()) g') (hg : g.Steady) : g'.Steady := h.keeps Turned.steady hg

/-- The desk gets the records that are made. -/
theorem gains (h : Ran g bs rs result g') : g.table.desk.Gains rs g'.table.desk := by
  induction h with
  | done g => exact .refl _
  | failed _ h => exact h.gains
  | turned _ h _ ih => exact h.gains.trans ih

/-- Where every record is taken, a run fails only since a level does not load. -/
theorem failsToLoad {error : GameError} (h : Ran g bs rs (.error error) g') (htakes : g.table.desk.TakesRecords) :
    g'.FailsToLoad error := by
  generalize hresult : (Except.error error : Except GameError Unit) = result at h
  induction h with
  | done g => cases hresult
  | failed _ h =>
    cases hresult
    exact h.failsToLoad htakes
  | turned _ h _ ih => exact ih (h.gains.takes htakes) hresult

end Ran

/-- Whatever is done at the window and however long it takes: once the first level is loaded and after each turn of the
    main loop, at the end of each frame among them, the scene and the visit are those of the level that was loaded, no
    walk is in progress, and the player is drawn on the cell where the visit has the character. Only a level of the
    playlist that does not load breaks the game off. -/
theorem drawn_where_visit_stands (seeding : Seeding) (deltas : List Int) (frames : List (List WindowEvent))
    (hload : Level.load name seeding = .ok level) (htakes : desk.TakesRecords) :
    let start := opening name seeding level desk deltas
    (execute name seeding desk deltas frames).1 = (turns (beats frames start) start).1 ∧
      ∀ past later, beats frames start = past ++ later →
        (∃ g, turns past start = (.ok (), g) ∧ g.InStep) ∨
          ∃ error g, turns past start = (.error error, g) ∧ g.FailsToLoad error := by
  have hstart := steady_opening hload desk deltas
  refine ⟨(execute_eq_turns hload desk deltas frames).1, fun past later _ => ?_⟩
  obtain ⟨rs, result, g, hturns, hran⟩ := turns_ran hstart past
  cases result with
  | ok => exact .inl ⟨g, hturns, (hran.steady hstart).toInStep⟩
  | error error => exact .inr ⟨error, g, hturns, hran.failsToLoad ((opening_gains seeding level deltas).takes htakes)⟩

/-- No seed, and draws for the levels that are loaded. -/
def unseeded : Seeding := { fresh := fun load draw => load + draw }

theorem load_eq_getD {seeding : Seeding} (h : (Level.load name seeding).isOk = true) :
    Level.load name seeding = .ok ((Level.load name seeding).toOption.getD level) := by
  cases hload : Level.load name seeding with
  | ok level => rfl
  | error e =>
    rw [hload] at h
    cases h

/-- The first built-in level. -/
def firstSteps : Level := (Level.load "first-steps" unseeded).toOption.getD Walk.lane

theorem load_firstSteps : Level.load "first-steps" unseeded = .ok firstSteps := load_eq_getD (by decide +kernel)

/-- The game that begins at the first built-in level with a recorder, where each tick takes 300 milliseconds. -/
def firstGame : Game := opening "first-steps" unseeded firstSteps { recorder := some {} } [300]

/-- With the door reached in the first frame the player is drawn there. -/
theorem first_win_drawn :
    let desk : Desk := { recorder := some {} }
    let line := typingLine "D3,S3,D1"
    let past := Beat.ofFrame line
    Level.load "first-steps" unseeded = .ok firstSteps ∧ desk.TakesRecords ∧
      beats [line] firstGame = past ++ Beat.ofFrame [.quit] ∧
      (execute "first-steps" unseeded desk [300] [line]).1 = (turns (beats [line] firstGame) firstGame).1 ∧
      ∃ g, turns past firstGame = (.ok (), g) ∧ g.visit.completed = true ∧ g.InStep := by
  intro desk line past
  have hbeats : beats [line] firstGame = past ++ Beat.ofFrame [.quit] := by decide +kernel
  have hwon : (turns past firstGame).1 = .ok () ∧ (turns past firstGame).2.visit.completed = true := by decide +kernel
  obtain ⟨hrun, hturns⟩ := drawn_where_visit_stands unseeded [300] [line] load_firstSteps Desk.takesRecords_memory
  refine ⟨load_firstSteps, Desk.takesRecords_memory, hbeats, hrun, ?_⟩
  rcases hturns _ _ hbeats with ⟨g, hg, hstep⟩ | ⟨error, g, hg, -⟩
  · have hfirst : turns past firstGame = (.ok (), g) := hg
    rw [hfirst] at hwon
    exact ⟨g, hfirst, hwon.2, hstep⟩
  · have hfirst : turns past firstGame = (.error error, g) := hg
    rw [hfirst] at hwon
    cases hwon.1

end Game
end GridWalk.Client
