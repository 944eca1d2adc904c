import GridWalk.Proofs.Client.Running
import GridWalk.Proofs.Visit.Arrival

/-! What becomes of a win. Until the player goes to another level or begins the visit anew, every turn keeps a completed
    visit as it is, with the character shown at the door and no further record of success. Only the main loop itself
    gives it up: it checks the time of a completed visit too, and begins the visit anew once the limit is reached. -/

namespace GridWalk.Client.Game

variable {g g' g'' : Game} {beat : Beat} {bs : List Beat} {rs : List Record} {result : Except GameError Unit}
  {name : String} {level : Level}

/-- A game keeps the visit of another and shows it where that one did, and no record of success was made since. -/
structure KeepsWin (g g' : Game) : Prop where
  visit : g'.visit = g.visit
  shows : g'.table.scene.Shows g.visit.level g.visit.position
  records : ∃ rs, g.table.desk.Gains rs g'.table.desk ∧ ∀ r ∈ rs, r.success = false

theorem KeepsWin.refl (h : g.Steady) : g.KeepsWin g where
  visit := rfl
  shows := h.shows
  records := ⟨[], .refl _, nofun⟩

theorem KeepsWin.trans (h : g.KeepsWin g') (h' : g'.KeepsWin g'') : g.KeepsWin g'' where
  visit := h'.visit.trans h.visit
  shows := h.visit ▸ h'.shows
  records := by
    obtain ⟨rs, hgains, hrs⟩ := h.records
    obtain ⟨rs', hgains', hrs'⟩ := h'.records
    refine ⟨rs ++ rs', hgains.trans hgains', fun r hr => ?_⟩
    rcases List.mem_append.mp hr with hr | hr
    · exact hrs r hr
    · exact hrs' r hr

/-- A turn that is no giving up keeps a win, unless it begins a frame when the limit is reached. -/
theorem Turned.keepsWin (h : g.Turned beat rs result g') (hg : g.Steady) (hdone : g.visit.completed = true)
    (hkeeps : ∀ e, beat = .event e → e.givesUp = false) :
    g.KeepsWin g' ∨ beat = .tick ∧ result = .ok () ∧ g.limitReached = true ∧ g'.visit = g.visit.renewed := by
  have hstays {e : WindowEvent} (hbeat : beat = .event e) : ¬e.changesLevel = true := by
    have hkept := hkeeps e hbeat
    cases e with
    | press k => exact Bool.eq_false_iff.mp (Bool.or_eq_false_iff.mp hkept).1
    | quit | ignored => nofun
  have hnotNew : ¬g.visit.completed = false := by
    rw [hdone]
    nofun
  cases h with
  | stayed _ _ hscene hgains => exact .inl ⟨rfl, hscene ▸ hg.shows, [], hgains, nofun⟩
  | began hscene hdesk => exact .inl ⟨rfl, hscene ▸ hg.shows, [], .of_same (by rw [hdesk]) (by rw [hdesk]), nofun⟩
  | timeUp hlate => exact .inr ⟨rfl, rfl, hlate, rfl⟩
  | entered htab | notEntered htab => exact absurd htab (hstays rfl)
  | renewed _ hwhy =>
    rcases hwhy with hgivesUp | hnew
    · exact absurd hgivesUp (Bool.eq_false_iff.mp (hkeeps _ rfl))
    · exact absurd hnew hnotNew
  | walked _ _ hnew | unrecorded _ _ hnew => exact absurd hnew hnotNew
  | closed => exact .inl ⟨rfl, hg.shows, [], .refl _, nofun⟩
  | left _ hscene hgains | notLeft _ hscene hgains =>
    refine .inl ⟨rfl, hscene ▸ hg.shows, _, hgains, fun r hr => ?_⟩
    rw [List.mem_singleton.mp hr]
    rfl

/-- So do turns one after the other, unless one of them begins a frame when the limit is reached. -/
theorem Ran.keepsWin (h : Ran g bs rs result g') (hg : g.Steady) (hdone : g.visit.completed = true)
    (hkeeps : ∀ e, .event e ∈ bs → e.givesUp = false) :
    g.KeepsWin g' ∨ ∃ mid rest g₁ g₂, bs = mid ++ .tick :: rest ∧ turns mid g = (.ok (), g₁) ∧ g.KeepsWin g₁ ∧
      g₁.limitReached = true ∧ g₁.turn .tick = (.ok (), g₂) ∧ g₂.visit = g.visit.renewed := by
  induction h with
  | done g => exact .inl (.refl hg)
  | failed bs h =>
    refine (h.keepsWin hg hdone fun e hbeat => hkeeps e (hbeat ▸ List.mem_cons_self)).imp_right ?_
    rintro ⟨-, hok, -⟩
    cases hok
  | @turned g g₁ g' beat bs _ _ _ hturn h _ ih =>
    rcases h.keepsWin hg hdone fun e hbeat => hkeeps e (hbeat ▸ List.mem_cons_self) with hkept | ⟨rfl, -, hlate, hnew⟩
    · have hdone₁ : g₁.visit.completed = true := hkept.visit ▸ hdone
      rcases ih (h.steady hg) hdone₁ fun e he => hkeeps e (List.mem_cons_of_mem _ he) with
        hrest | ⟨mid, rest, g₂, g₃, rfl, hmid, hkept', hlate, htick, hnew⟩
      · exact .inl (hkept.trans hrest)
      · refine .inr ⟨beat :: mid, rest, g₂, g₃, rfl, ?_, hkept.trans hkept', hlate, htick, hkept.visit ▸ hnew⟩
        rw [turns, hturn]
        exact hmid
    · exact .inr ⟨[], bs, g, g₁, rfl, rfl, .refl hg, hlate, hturn, hnew⟩

/-- Whenever the loaded level is completed in a run, the character is at a door. From there on the visit stays as it is,
    with the player drawn there and no further record of success, for as long as the player neither goes to another
    level nor begins the visit anew, and no frame begins when the limit is reached: there the visit is begun anew. -/
theorem win_kept_unless_limit_reached (seeding : Seeding) (desk : Desk) (deltas : List Int)
    (frames : List (List WindowEvent)) (hload : Level.load name seeding = .ok level) :
    let start := opening name seeding level desk deltas
    (execute name seeding desk deltas frames).1 = (turns (beats frames start) start).1 ∧
      ∀ past later rest g, beats frames start = past ++ later ++ rest → turns past start = (.ok (), g) →
        g.visit.completed = true → (∀ e, .event e ∈ later → e.givesUp = false) →
        g.visit.level.terrain? g.visit.position = some .door ∧ g.InStep ∧
          ∃ result g', turns later g = (result, g') ∧ (g.KeepsWin g' ∨
            ∃ mid rest' g₁ g₂, later = mid ++ .tick :: rest' ∧ turns mid g = (.ok (), g₁) ∧ g.KeepsWin g₁ ∧
              g₁.limitReached = true ∧ g₁.turn .tick = (.ok (), g₂) ∧ g₂.visit = g.visit.renewed) := by
  have hstart := steady_opening hload desk deltas
  refine ⟨(execute_eq_turns hload desk deltas frames).1, ?_⟩
  intro past later rest g _ hpast hdone hkeeps
  obtain ⟨rs, hran⟩ := ran_of_turns hstart hpast
  have hg := hran.steady hstart
  obtain ⟨rs', result, g', hturns, hlater⟩ := turns_ran hg later
  exact ⟨hg.atDoor hdone, hg.toInStep, result, g', hturns, hlater.keepsWin hg hdone hkeeps⟩

theorem first_win_kept :
    let past := Beat.ofFrame (typingLine "D3,S3,D1")
    let later : List Beat := [.tick, .event .ignored, .draw]
    ∃ g, Level.load "first-steps" unseeded = .ok firstSteps ∧
      beats [typingLine "D3,S3,D1", [.ignored]] firstGame = past ++ later ++ Beat.ofFrame [.quit] ∧
      turns past firstGame = (.ok (), g) ∧ g.visit.completed = true ∧ (∀ e, .event e ∈ later → e.givesUp = false) ∧
      g.visit.level.terrain? g.visit.position = some .door ∧ g.InStep ∧
        ∃ result g', turns later g = (result, g') ∧ (g.KeepsWin g' ∨
          ∃ mid rest g₁ g₂, later = mid ++ .tick :: rest ∧ turns mid g = (.ok (), g₁) ∧ g.KeepsWin g₁ ∧
            g₁.limitReached = true ∧ g₁.turn .tick = (.ok (), g₂) ∧ g₂.visit = g.visit.renewed) := by
  let frames := [typingLine "D3,S3,D1", [.ignored]]
  let past := Beat.ofFrame (typingLine "D3,S3,D1")
  let later : List Beat := [.tick, .event .ignored, .draw]
  have hbeats : beats frames firstGame = past ++ later ++ Beat.ofFrame [.quit] := by decide +kernel
  have hwon : (turns past firstGame).1 = .ok () ∧ (turns past firstGame).2.visit.completed = true := by decide +kernel
  have hkeeps (e : WindowEvent) (he : .event e ∈ later) : e.givesUp = false := by
    rcases List.mem_cons.mp he with heq | he
    · cases heq
    · rcases List.mem_cons.mp he with heq | he
      · rw [Beat.event.inj heq]
        rfl
      · cases List.mem_singleton.mp he
  have hpast : turns past firstGame = (.ok (), (turns past firstGame).2) := Prod.ext hwon.1 rfl
  exact ⟨_, load_firstSteps, hbeats, hpast, hwon.2, hkeeps,
    (win_kept_unless_limit_reached unseeded { recorder := some {} } [300] frames load_firstSteps).2 past later _ _ hbeats
      hpast hwon.2 hkeeps⟩

/-- Draws for a level ten with three energy cells above its start and all obstacles at the top. -/
def clearDraws : List Nat := [0, 12, 1, 12, 2, 12] ++ (List.range 25).flatMap fun k => [k % 14, k / 14]

/-- No seed, and such draws for each load. -/
def clear : Seeding := { fresh := fun _ draw => clearDraws.getD draw 0 }

/-- The level ten with all obstacles at the top. -/
def tenth : Level := (Level.load "10" clear).toOption.getD Walk.lane

theorem load_tenth : Level.load "10" clear = .ok tenth := load_eq_getD (by decide +kernel)

/-- The tenth level allows a minute. It is won after twenty-six seconds, and with the first frame that begins after the
    minute the character is back at the start, on a level that is no longer completed. Closing the window then records a
    failure. -/
theorem tenth_win_lost_at_limit :
    let desk : Desk := { recorder := some {} }
    let deltas := List.replicate 65 400 ++ [40000]
    let frames := [typingLine "S1,D14,S13", []]
    let start := opening "10" clear tenth desk deltas
    let won := turns (Beat.ofFrame (typingLine "S1,D14,S13")) start
    let later := won.2.turn .tick
    let run := execute "10" clear desk deltas frames
    Level.load "10" clear = .ok tenth ∧ desk.TakesRecords ∧
      beats frames start = Beat.ofFrame (typingLine "S1,D14,S13") ++ [.tick, .draw] ++ Beat.ofFrame [.quit] ∧
      (won.1 = .ok () ∧ won.2.visit.completed = true ∧ won.2.visit.position = tenth.door) ∧
      (later.1 = .ok () ∧ later.2.visit.completed = false ∧ later.2.visit.position = tenth.start) ∧
      tenth.start ≠ tenth.door ∧ run.1 = .ok () ∧ run.2.desk.records.map (·.success) = [true, false] :=
  ⟨load_tenth, Desk.takesRecords_memory, by decide +kernel⟩

end GridWalk.Client.Game
