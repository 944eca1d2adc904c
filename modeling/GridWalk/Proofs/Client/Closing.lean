import GridWalk.Proofs.Client.Running

/-! What closing the window records. The main loop leaves the visit that the frame began with, once for each time that
    the window is closed in the frame, and knows nothing of a level that was loaded since. -/

namespace GridWalk

/-- The levels of the records that are not of success. -/
def failedLevels (rs : List Record) : List Int := (rs.filter (!·.success)).map (·.level)

theorem failedLevels_append (rs rs' : List Record) :
    failedLevels (rs ++ rs') = failedLevels rs ++ failedLevels rs' := by
  rw [failedLevels, List.filter_append, List.map_append]
  rfl

theorem failedLevels_of_success {rs : List Record} (h : ∀ r ∈ rs, r.success = true) : failedLevels rs = [] := by
  have hnone : rs.filter (!·.success) = [] := by
    refine List.filter_eq_nil_iff.mpr fun r hr => ?_
    rw [h r hr]
    exact Bool.false_ne_true
  rw [failedLevels, hnone]
  rfl

namespace Client.Game

variable {g g' : Game} {beat : Beat} {bs : List Beat} {rs : List Record} {result : Except GameError Unit}

/-! ### Closings -/

/-- The visit that the frame began with, as it is each time that the window is closed. -/
def closings : List Beat → Game → List Visit
  | [], _ => []
  | beat :: bs, g => (if beat = .event .quit then [g.held] else []) ++ match g.turn beat with
    | (.ok _, g) => closings bs g
    | (.error _, _) => []

/-- The levels of the visits that are not completed. -/
def unfinishedLevels (vs : List Visit) : List Int := (vs.filter (!·.completed)).map (·.level.number)

theorem closings_append {first : List Beat} (h : turns first g = (.ok (), g')) (rest : List Beat) :
    closings (first ++ rest) g = closings first g ++ closings rest g' := by
  induction first generalizing g with
  | nil =>
    obtain ⟨-, rfl⟩ := Prod.mk.inj h
    rfl
  | cons beat first ih =>
    rw [turns] at h
    rw [List.cons_append, closings, closings]
    rcases hturn : g.turn beat with ⟨_ | _, g₁⟩
    · rw [hturn] at h
      cases h
    · rw [hturn] at h
      dsimp only
      rw [ih h, List.append_assoc]

theorem closings_of_not_mem (h : .event .quit ∉ bs) (g : Game) : closings bs g = [] := by
  induction bs generalizing g with
  | nil => rfl
  | cons beat bs ih =>
    have hbeat : beat ≠ .event .quit := fun heq => h (heq ▸ List.mem_cons_self)
    rw [closings, if_neg hbeat, List.nil_append]
    split
    · exact ih (fun hmem => h (List.mem_cons_of_mem _ hmem)) _
    · rfl

/-- A turn records that a visit was left where it closes the window on a visit that is not completed. -/
theorem Turned.failedLevels_eq (h : g.Turned beat rs (.ok ()) g') :
    failedLevels rs = unfinishedLevels (if beat = .event .quit then [g.held] else []) := by
  cases h with
  | stayed _ hquit => rw [if_neg hquit]; rfl
  | began | timeUp => rfl
  | entered htab =>
    rw [if_neg]
    · rfl
    · rintro ⟨⟩
      cases htab
  | renewed hquit => rw [if_neg fun heq => hquit (Beat.event.inj heq)]; rfl
  | walked _ hquit _ _ hrs => rw [if_neg fun heq => hquit (Beat.event.inj heq), failedLevels_of_success hrs]; rfl
  | closed hdone => rw [if_pos rfl, unfinishedLevels, List.filter_singleton, hdone]; rfl
  | left hnew => rw [if_pos rfl, unfinishedLevels, List.filter_singleton, hnew]; rfl

/-- So a run records them for its closings. -/
theorem Ran.failedLevels_eq (h : Ran g bs rs (.ok ()) g') : failedLevels rs = unfinishedLevels (closings bs g) := by
  generalize hresult : (Except.ok () : Except GameError Unit) = result at h
  induction h with
  | done g => rfl
  | failed => cases hresult
  | turned hturn h _ ih =>
    rw [failedLevels_append, h.failedLevels_eq, ih hresult, closings, hturn]
    simp only [unfinishedLevels, List.filter_append, List.map_append]

/-! ### The frame in which the window is closed -/

theorem Turned.running_iff (h : g.Turned beat rs (.ok ()) g') :
    g'.running = true ↔ g.running = true ∧ beat ≠ .event .quit := by
  cases h with
  | stayed _ hquit => exact (and_iff_left hquit).symm
  | began | timeUp => exact (and_iff_left nofun).symm
  | entered htab =>
    refine (and_iff_left ?_).symm
    rintro ⟨⟩
    cases htab
  | renewed hquit | walked _ hquit => exact (and_iff_left fun heq => hquit (Beat.event.inj heq)).symm
  | closed | left => simp

theorem Ran.running_iff (h : Ran g bs rs (.ok ()) g') :
    g'.running = true ↔ g.running = true ∧ .event .quit ∉ bs := by
  generalize hresult : (Except.ok () : Except GameError Unit) = result at h
  induction h with
  | done g => exact (and_iff_left List.not_mem_nil).symm
  | failed => cases hresult
  | turned _ h _ ih => rw [ih hresult, h.running_iff, List.mem_cons, not_or, and_assoc, ne_comm]

/-- The visit that the frame began with stays one to the same level. -/
theorem Turned.held_level {e : WindowEvent} (h : g.Turned (.event e) rs (.ok ()) g') :
    g'.held.level = g.held.level := by
  cases h with
  | stayed | entered | closed | left => rfl
  | renewed | walked =>
    rw [held, held]
    cases g.former with
    | none => rfl
    | some v => rfl

/-- While the player goes to no other level, it is the visit itself. -/
theorem Turned.former_eq {e : WindowEvent} (h : g.Turned (.event e) rs (.ok ()) g') (he : e.changesLevel = false) :
    g'.former = g.former := by
  cases h with
  | stayed | renewed | walked | closed | left => rfl
  | entered htab => exact absurd (he.symm.trans htab) Bool.false_ne_true

/-- A frame begins with the visit that it is then held to have begun with. -/
theorem Turned.former_of_tick (h : g.Turned .tick rs (.ok ()) g') : g'.former = none := by
  cases h with
  | stayed htick => exact absurd rfl htick
  | began | timeUp => rfl

/-- Closings in a frame are of visits to the level that the frame began with. -/
theorem closings_level {events : List WindowEvent} (h : Ran g (events.map .event) rs (.ok ()) g') :
    ∀ v ∈ closings (events.map .event) g, v.level = g.held.level := by
  induction events generalizing g rs with
  | nil => exact fun v hv => absurd hv List.not_mem_nil
  | cons e events ih =>
    cases h with
    | @turned _ g₁ _ _ _ _ _ _ hturn h hrest =>
      intro v hv
      rw [List.map_cons, closings, hturn] at hv
      rcases List.mem_append.mp hv with hv | hv
      · split at hv
        · rw [List.mem_singleton.mp hv]
        · cases hv
      · exact (ih hrest v hv).trans h.held_level

theorem former_eq_of_ran {events : List WindowEvent} (h : Ran g (events.map .event) rs (.ok ()) g')
    (hevents : ∀ e ∈ events, e.changesLevel = false) : g'.former = g.former := by
  induction events generalizing g rs with
  | nil =>
    cases h
    rfl
  | cons e events ih =>
    cases h with
    | turned _ h hrest =>
      obtain ⟨he, hevents⟩ := List.forall_mem_cons.mp hevents
      exact (ih hrest hevents).trans (h.former_eq he)

/-- The frame in which a run closes the window: the ones before it, its events and the game once it has begun. -/
structure Closes (start : Game) (frames past : List (List WindowEvent)) (quitting : List WindowEvent) (began : Game) :
    Prop where
  played : past ++ [quitting] <+: frames ++ [[.quit]]
  notBefore : ∀ events ∈ past, .quit ∉ events
  closes : .quit ∈ quitting
  begins : turns (past.flatMap Beat.ofFrame ++ [.tick]) start = (.ok (), began)
  ends : beats frames start = past.flatMap Beat.ofFrame ++ Beat.ofFrame quitting

theorem exists_closes {frames : List (List WindowEvent)} (hg : g.Steady) (hrunning : g.running = true)
    (h : turns (beats frames g) g = (.ok (), g')) : ∃ past quitting began, Closes g frames past quitting began := by
  induction frames generalizing g with
  | nil =>
    have hsplit : turns ([.tick] ++ ([.event .quit] ++ [.draw])) g = (.ok (), g') := h
    obtain ⟨began, hbegins, -⟩ := turns_append_eq_ok hsplit
    exact ⟨[], [.quit], began, List.prefix_refl _, nofun, List.mem_cons_self, hbegins, rfl⟩
  | cons events rest ih =>
    have hfirst : ∃ g₁, turns (Beat.ofFrame events) g = (.ok (), g₁) := by
      rw [beats] at h
      obtain ⟨g₁, hframe, -⟩ := turns_append_eq_ok h
      exact ⟨g₁, hframe⟩
    obtain ⟨g₁, hframe⟩ := hfirst
    obtain ⟨rs, hran⟩ := ran_of_turns hg hframe
    have hrunning₁ := hran.running_iff
    have hbeats := beats_cons_of_ok hframe rest
    cases hgoes : g₁.running with
    | true =>
      rw [hgoes, if_pos rfl] at hbeats
      rw [hbeats, turns_append_of_ok hframe] at h
      obtain ⟨past, quitting, began, hcloses⟩ := ih (hran.steady hg) hgoes h
      have hopen : .quit ∉ events := fun hmem => (hrunning₁.mp hgoes).2 (Beat.event_mem_ofFrame.mpr hmem)
      refine ⟨events :: past, quitting, began, ?_, ?_, hcloses.closes, ?_, ?_⟩
      · exact (List.prefix_cons_inj events).mpr hcloses.played
      · exact List.forall_mem_cons.mpr ⟨hopen, hcloses.notBefore⟩
      · rw [List.flatMap_cons, List.append_assoc, turns_append_of_ok hframe]
        exact hcloses.begins
      · rw [hbeats, hcloses.ends, List.flatMap_cons, List.append_assoc]
    | false =>
      rw [hgoes, if_neg Bool.false_ne_true, List.append_nil] at hbeats
      have hquits : .quit ∈ events := by
        by_contra hopen
        have hgoes' := hrunning₁.mpr ⟨hrunning, fun hmem => hopen (Beat.event_mem_ofFrame.mp hmem)⟩
        exact Bool.false_ne_true (hgoes.symm.trans hgoes')
      have hsplit : turns ([.tick] ++ (events.map .event ++ [.draw])) g = (.ok (), g₁) := hframe
      obtain ⟨began, hbegins, -⟩ := turns_append_eq_ok hsplit
      exact ⟨[], events, began, List.prefix_append _ _, nofun, hquits, hbegins, hbeats⟩

/-! ### What is recorded -/

namespace Closes
variable {start began : Game} {frames past : List (List WindowEvent)} {quitting : List WindowEvent}

/-- A game that a frame has begun holds to no other visit than its own. -/
theorem held_began (h : Closes start frames past quitting began) (hstart : start.Steady) :
    began.Steady ∧ began.former = none := by
  obtain ⟨g, hpast, htick⟩ := turns_append_eq_ok h.begins
  obtain ⟨rs, hran⟩ := ran_of_turns hstart hpast
  have hg := hran.steady hstart
  obtain ⟨rs', hran'⟩ := ran_of_turns hg htick
  refine ⟨hran'.steady hg, ?_⟩
  cases hran' with
  | turned _ h hrest =>
    cases hrest
    exact h.former_of_tick

/-- Besides the events of the closing frame no beat closes the window. -/
theorem closings_eq (h : Closes start frames past quitting began)
    (hturns : turns (beats frames start) start = (.ok (), g')) : ∃ closed,
      turns (quitting.map .event) began = (.ok (), closed) ∧
        closings (beats frames start) start = closings (quitting.map .event) began := by
  have hsplit : beats frames start =
      (past.flatMap Beat.ofFrame ++ [.tick]) ++ (quitting.map .event ++ [.draw]) := by
    rw [h.ends, Beat.ofFrame, List.append_assoc]
    rfl
  rw [hsplit, turns_append_of_ok h.begins] at hturns
  obtain ⟨closed, hclosed, -⟩ := turns_append_eq_ok hturns
  have hopen : .event .quit ∉ past.flatMap Beat.ofFrame ++ [Beat.tick] := by
    intro hmem
    rcases List.mem_append.mp hmem with hmem | hmem
    · obtain ⟨events, hevents, hquits⟩ := List.mem_flatMap.mp hmem
      exact h.notBefore events hevents (Beat.event_mem_ofFrame.mp hquits)
    · cases List.mem_singleton.mp hmem
  have hdrawn : closings [.draw] closed = [] := closings_of_not_mem (by simp) closed
  refine ⟨closed, hclosed, ?_⟩
  rw [hsplit, closings_append h.begins, closings_of_not_mem hopen, List.nil_append, closings_append hclosed, hdrawn,
    List.append_nil]

end Closes

/-- Where no other closing is in a frame and no other level was gone to before, it leaves the visit of that moment. -/
theorem closings_of_once {before after : List WindowEvent} (hbefore : .quit ∉ before) (hafter : .quit ∉ after)
    (hran : Ran g (before.map .event) rs (.ok ()) g') (hturns : turns (before.map .event) g = (.ok (), g'))
    (hformer : g.former = none) (hstays : ∀ e ∈ before, e.changesLevel = false) :
    closings ((before ++ .quit :: after).map .event) g = [g'.visit] := by
  have hheld : g'.held = g'.visit := by
    rw [held, former_eq_of_ran hran hstays, hformer]
    rfl
  have hnone {events : List WindowEvent} (h : .quit ∉ events) (g : Game) : closings (events.map .event) g = [] := by
    refine closings_of_not_mem (fun hmem => ?_) g
    obtain ⟨e, he, heq⟩ := List.mem_map.mp hmem
    exact h (Beat.event.inj heq ▸ he)
  rw [List.map_append, closings_append hturns, hnone hbefore, List.map_cons, closings, if_pos rfl, hheld]
  split
  · rw [hnone hafter]
    rfl
  · rfl

/-- The records of a run that are not of success: each time that the window is closed, in the frame in which it is
    closed first, one for the level that the frame began with, unless its visit is completed by then. That is one record
    for the level on the screen where the window is closed once in this frame and no other level was gone to before. -/
theorem exits_recorded_for_level_of_frame {name : String} {desk : Desk} {left : Remains} (seeding : Seeding)
    (deltas : List Int) (frames : List (List WindowEvent))
    (hrun : execute name seeding desk deltas frames = (.ok (), left)) (htakes : desk.TakesRecords)
    (hkeeps : desk.recorder.isSome = true) : ∃ level past quitting began rs, Level.load name seeding = .ok level ∧
      Closes (opening name seeding level desk deltas) frames past quitting began ∧ left.desk.records = desk.records ++ rs ∧
      failedLevels rs = unfinishedLevels (closings (quitting.map .event) began) ∧
      (∀ v ∈ closings (quitting.map .event) began, v.level = began.visit.level) ∧
      ∀ before after, quitting = before ++ .quit :: after → .quit ∉ before → .quit ∉ after →
        (∀ e ∈ before, e.changesLevel = false) → ∃ closed, turns (before.map .event) began = (.ok (), closed) ∧
          failedLevels rs = if closed.visit.completed then [] else [closed.visit.level.number] := by
  obtain ⟨level, hload⟩ := exists_of_execute hrun
  let start := opening name seeding level desk deltas
  have hstart : start.Steady := steady_opening hload desk deltas
  obtain ⟨hresult, hdesk⟩ := execute_eq_turns hload desk deltas frames
  rcases hturns : turns (beats frames start) start with ⟨result, g'⟩
  rw [hrun, hturns] at hresult hdesk
  obtain rfl := hresult
  obtain ⟨past, quitting, began, hcloses⟩ := exists_closes hstart rfl hturns
  obtain ⟨hbegan, hformer⟩ := hcloses.held_began hstart
  obtain ⟨closed, hclosed, hclosings⟩ := hcloses.closings_eq hturns
  obtain ⟨rs, hran⟩ := ran_of_turns hstart hturns
  obtain ⟨rs', hranClosed⟩ := ran_of_turns hbegan hclosed
  have hfailed : failedLevels rs = unfinishedLevels (closings (quitting.map .event) began) := by
    rw [hran.failedLevels_eq, hclosings]
  have hrecords : left.desk.records = desk.records ++ rs := by
    rw [hdesk]
    exact ((opening_gains seeding level deltas).trans hran.gains).all htakes hkeeps
  refine ⟨level, past, quitting, began, rs, hload, hcloses, hrecords, hfailed, fun v hv => ?_, ?_⟩
  · rw [closings_level hranClosed v hv, held, hformer]
    rfl
  · rintro before after rfl hbefore hafter hstays
    rw [List.map_append] at hclosed
    obtain ⟨g, hturns, -⟩ := turns_append_eq_ok hclosed
    obtain ⟨rs'', hran⟩ := ran_of_turns hbegan hturns
    refine ⟨g, hturns, ?_⟩
    rw [hfailed, closings_of_once hbefore hafter hran hturns hformer hstays, unfinishedLevels, List.filter_singleton]
    cases g.visit.completed with
    | true => rfl
    | false => rfl

theorem first_exit_recorded :
    let desk : Desk := { recorder := some {} }
    let run := execute "first-steps" unseeded desk [300] [[.ignored, .quit]]
    run = (.ok (), run.2) ∧ desk.TakesRecords ∧ desk.recorder.isSome = true ∧
      ∃ level past quitting began rs, Level.load "first-steps" unseeded = .ok level ∧
        Closes (opening "first-steps" unseeded level desk [300]) [[.ignored, .quit]] past quitting began ∧
        run.2.desk.records = desk.records ++ rs ∧
        failedLevels rs = unfinishedLevels (closings (quitting.map .event) began) ∧
        (∀ v ∈ closings (quitting.map .event) began, v.level = began.visit.level) ∧
        ∀ before after, quitting = before ++ .quit :: after → .quit ∉ before → .quit ∉ after →
          (∀ e ∈ before, e.changesLevel = false) → ∃ closed, turns (before.map .event) began = (.ok (), closed) ∧
            failedLevels rs = if closed.visit.completed then [] else [closed.visit.level.number] :=
  let run := execute "first-steps" unseeded { recorder := some {} } [300] [[.ignored, .quit]]
  have hok : run.1 = .ok () := by decide +kernel
  have hrun : run = (.ok (), run.2) := Prod.ext hok rfl
  ⟨hrun, Desk.takesRecords_memory, rfl,
    exits_recorded_for_level_of_frame unseeded [300] _ hrun Desk.takesRecords_memory rfl⟩

/-- Where the player goes from the first level to the second one and closes the window in the same frame, a departure
    from the first level is recorded, while the second one is on the screen. -/
theorem exit_recorded_for_level_gone_from :
    let tab : WindowEvent := .press { key := .tab }
    let closed := turns [.tick, .event tab] firstGame
    let run := execute "first-steps" unseeded { recorder := some {} } [300] [[tab, .quit]]
    beats [[tab, .quit]] firstGame = [.tick, .event tab, .event .quit, .draw] ∧
      (closed.1 = .ok () ∧ closed.2.visit.level.number = 6 ∧ closed.2.visit.completed = false) ∧
      run.1 = .ok () ∧ failedLevels run.2.desk.records = [1] := by decide +kernel

end Client.Game
end GridWalk
