import GridWalk.Proofs.Level.Loading
import GridWalk.Proofs.Script.Sequence

/-! Loading a level forgets the past: what a script does from there on is what a script does that begins on the level. -/

namespace GridWalk

open Text

variable {s t : Script.State} {level : Level} {x : String}

theorem Desk.noteAll_print (entries : List Journal.Entry) (text : String) (d : Desk) :
    (d.print text).noteAll entries = (d.noteAll entries).print text := by
  induction entries generalizing d with
  | nil => rfl
  | cons e entries ih => exact ih (d.note e)

namespace Script

/-! ### The command that loads a level -/

theorem words_of_isWord {cs : List Char} (h : Level.IsWord cs) : words cs = [cs] := by
  rw [words, pieces_of_forall fun c hc => (h.2 c hc).1]
  simp [h.1]

theorem not_separates_of_isWord {cs : List Char} (h : Level.IsWord cs) : ∀ c ∈ cs, endsLine c = false ∧ c ≠ ';' := by
  intro c hc
  refine ⟨?_, (h.2 c hc).2⟩
  rw [Bool.eq_false_iff]
  intro hends
  have hblank := isBlank_of_endsLine hends
  rw [(h.2 c hc).1] at hblank
  cases hblank

/-- What loads a level is the only argument of the command that loads it. -/
theorem commands_level (h : Level.IsWord x.toList) : commands ("level " ++ x) = [["level", x]] := by
  let line := "level".toList ++ ' ' :: x.toList
  have htext : ("level " ++ x).toList = line := String.toList_append
  have hlevel : Level.IsWord "level".toList := by decide
  have hinner : ∀ c ∈ line, endsLine c = false ∧ c ≠ ';' := by
    intro c hc
    simp only [line, List.mem_append, List.mem_cons] at hc
    rcases hc with hc | rfl | hc
    · exact not_separates_of_isWord hlevel c hc
    · decide
    · exact not_separates_of_isWord h c hc
  have hline : ¬IsComment line := by
    have hhead : (trim line).head? = some 'l' :=
      (head?_trim_eq_some_iff rfl).mpr ⟨[], "evel".toList ++ ' ' :: x.toList, rfl, by simp⟩
    rw [IsComment, hhead]
    decide
  have hwords : words line = ["level".toList, x.toList] := by
    have hx := words_of_isWord h
    rw [words] at hx ⊢
    rw [pieces_append_cons rfl, List.filter_append, hx]
    exact congrArg (· ++ [x.toList]) (words_of_isWord hlevel)
  rw [commands_eq_flatMap, htext, pieces_of_forall fun c hc => (hinner c hc).1, List.flatMap_singleton,
    lineCommands_of_not_comment hline, pieces_of_notMem fun hmem => (hinner _ hmem).2 rfl, List.map_singleton, commandOf,
    hwords]
  simp

/-- A script that begins without a seed has to draw: the level that it begins on is generated, or it comes to generate
    another one while no seed is given. -/
def DrawsFresh (text name : String) (seeding : Seeding) (desk : Desk) : Prop :=
  Level.isNumberName name = true ∨ ∃ s, opening name seeding desk = .ok s ∧ drawsFresh (commands text) s = true

/-- Once it has announced the level, a script that loads one goes on as a script does that begins on it, at a desk where
    nothing was printed or recorded before. -/
theorem carryOut_level {suffix : String} {seeding : Seeding} (hload : Level.load x seeding = .ok level)
    (hseeding : seeding.Alike (DrawsFresh suffix x seeding s.desk.blank) s.seeding) (htakes : s.desk.TakesRecords) :
    let begun := execute suffix x seeding s.desk.blank
    let rest := carryOut (commands ("level " ++ x ++ "\n" ++ suffix)) s
    rest.1 = begun.1 ∧ (s.desk.print level.title).Continues begun.2 rest.2 := by
  let notes := level.loadingNotes x
  let past := s.desk.print level.title
  let fresh : State := { visit := { level }, seeding := seeding.next, desk := s.desk.blank.noteAll notes }
  let loaded : State :=
    { s with visit := { level }, elapsed := .whole 0, seeding := s.seeding.next, desk := past.noteAll notes }
  have hlevel : perform ["level", x] s = (.ok (), loaded) := by
    have hagain : load x s.seeding = .ok ({ level }, notes) := by
      rw [load, hseeding.load fun hnumber _ => .inl hnumber, hload]
    change loadLevel x s = _
    rw [loadLevel, hagain]
    simp only [loaded, past, Desk.noteAll_print]
    rfl
  have hresumes : State.Resumes (DrawsFresh suffix x seeding s.desk.blank) past fresh loaded :=
    ⟨rfl, rfl, hseeding.next, (Desk.continues_blank (d := past) htakes).noteAll notes⟩
  have hopening : opening x seeding s.desk.blank = .ok fresh := by
    rw [opening, load, hload]
    rfl
  have hrest : carryOut (commands ("level " ++ x ++ "\n" ++ suffix)) s = carryOut (commands suffix) loaded := by
    rw [commands_append, commands_level (Level.isWord_of_load hload)]
    exact carryOut_append_of_ok (by rw [performAll, hlevel]; rfl) _
  dsimp only
  rw [execute_of_opening hopening, hrest]
  exact carryOut_resumed hresumes fun hdraws => .inr ⟨fresh, hopening, hdraws⟩

/-- Loading a level forgets the past. Two scripts with recorders, or two without any, that end with the same seed and the
    same tracing go on alike once they load a level, whatever they did on other levels and recorded before: both go on as
    a script does that begins on the level. Where a level is generated from there on without a seed, the same has to be
    drawn for both. -/
theorem loading_forgets_past (suffix : String) {first second name name' : String} {seeding seeding' : Seeding}
    {desk desk' : Desk} (htakes : desk.TakesRecords) (htakes' : desk'.TakesRecords)
    (hrecorder : desk.recorder.isSome = desk'.recorder.isSome)
    (hs : reached? first name seeding desk = some s) (ht : reached? second name' seeding' desk' = some t)
    (hseed : s.seeding.seed = t.seeding.seed)
    (hfresh : s.seeding.seed = none → DrawsFresh suffix x s.seeding s.desk.blank → s.seeding.fresh = t.seeding.fresh)
    (hmoves : s.desk.showsMoves = t.desk.showsMoves) (hload : Level.load x s.seeding = .ok level) :
    let later := "level " ++ x ++ "\n" ++ suffix
    let run := execute (first ++ "\n" ++ later) name seeding desk
    let run' := execute (second ++ "\n" ++ later) name' seeding' desk'
    let begun := execute suffix x s.seeding s.desk.blank
    (run.1 = begun.1 ∧ run'.1 = begun.1) ∧
      (run.2.out = s.desk.out ++ #[level.title] ++ begun.2.out ∧
        run'.2.out = t.desk.out ++ #[level.title] ++ begun.2.out) ∧
      run.2.records = s.desk.records ++ begun.2.records ∧ run'.2.records = t.desk.records ++ begun.2.records := by
  obtain ⟨hstakes, hsrecorder⟩ := reached_desk htakes hs
  obtain ⟨httakes, htrecorder⟩ := reached_desk htakes' ht
  have hblank : t.desk.blank = s.desk.blank := by
    have hsome : t.desk.recorder.isSome = s.desk.recorder.isSome := by rw [htrecorder, hsrecorder, hrecorder]
    have hfresh : (t.desk.recorder.map fun _ => ({} : Recorder)) = s.desk.recorder.map fun _ => {} := by
      revert hsome
      rcases t.desk.recorder with _ | k <;> rcases s.desk.recorder with _ | k' <;> simp
    rw [Desk.blank, Desk.blank, hmoves, hfresh]
  have hseeding : s.seeding.Alike (DrawsFresh suffix x s.seeding t.desk.blank) t.seeding := by
    rw [hblank]
    exact ⟨hseed.symm, fun hdraws hnone => (hfresh hnone hdraws).symm⟩
  obtain ⟨hresult, hdesk⟩ := carryOut_level hload (.refl _ _) hstakes
  obtain ⟨hresult', hdesk'⟩ := carryOut_level hload hseeding httakes
  rw [hblank] at hresult' hdesk'
  dsimp only
  rw [execute_append_of_reached hs, execute_append_of_reached ht]
  exact ⟨⟨hresult, hresult'⟩, ⟨hdesk.out, hdesk'.out⟩, hdesk.records, hdesk'.records⟩

/-- Two scripts without a seed for which other draws are made. They go on alike, since no level is generated any more. -/
theorem snakePit_forgets_past :
    let won := "run D3,S3,D1; exit"
    let wandered := "level 2\ntrace off\ntime 4\nrun D2\ntrace on"
    let x := "snake-pit"
    let suffix := "run D2; exit"
    let seeding : Seeding := { fresh := fun load draw => load + draw }
    let seeding' : Seeding := { fresh := fun _ draw => 3 * draw }
    let desk : Desk := { recorder := some {} }
    desk.TakesRecords ∧ ∃ s t level, reached? won "first-steps" seeding desk = some s ∧
      reached? wandered "stairs" seeding' desk = some t ∧ s.seeding.seed = t.seeding.seed ∧
      ¬DrawsFresh suffix x s.seeding s.desk.blank ∧ s.desk.showsMoves = t.desk.showsMoves ∧
      Level.load x s.seeding = .ok level ∧
      let later := "level " ++ x ++ "\n" ++ suffix
      let run := execute (won ++ "\n" ++ later) "first-steps" seeding desk
      let run' := execute (wandered ++ "\n" ++ later) "stairs" seeding' desk
      let begun := execute suffix x s.seeding s.desk.blank
      (run.1 = begun.1 ∧ run'.1 = begun.1) ∧
        (run.2.out = s.desk.out ++ #[level.title] ++ begun.2.out ∧
          run'.2.out = t.desk.out ++ #[level.title] ++ begun.2.out) ∧
        run.2.records = s.desk.records ++ begun.2.records ∧ run'.2.records = t.desk.records ++ begun.2.records := by
  intro won wandered x suffix seeding seeding' desk
  have htakes : desk.TakesRecords := Desk.takesRecords_memory
  have hwon : (reached? won "first-steps" seeding desk).map (fun s => (s.seeding.seed, s.desk.showsMoves)) =
      some (none, true) := by decide +kernel
  have hwandered : (reached? wandered "stairs" seeding' desk).map (fun s => (s.seeding.seed, s.desk.showsMoves)) =
      some (none, true) := by decide +kernel
  obtain ⟨s, hs, hsreached⟩ := Option.map_eq_some_iff.mp hwon
  obtain ⟨t, ht, htreached⟩ := Option.map_eq_some_iff.mp hwandered
  obtain ⟨hsseed, hsmoves⟩ := Prod.mk.inj hsreached
  obtain ⟨htseed, htmoves⟩ := Prod.mk.inj htreached
  have hseed := hsseed.trans htseed.symm
  have hmoves := hsmoves.trans htmoves.symm
  have hnothing : ¬DrawsFresh suffix x s.seeding s.desk.blank := by
    have hcommands : ∀ c ∈ commands suffix, generates c = false := by decide +kernel
    rintro (hnumber | ⟨u, -, hdraws⟩)
    · exact absurd hnumber (by decide +kernel)
    · rw [drawsFresh_of_forall hcommands] at hdraws
      cases hdraws
  have hbuiltIn : x ∈ Catalog.names := by decide +kernel
  obtain ⟨level, hlevel⟩ := Level.loadWithin_of_mem_names hbuiltIn
  have hload : Level.load x s.seeding = .ok level := hlevel _ _
  exact ⟨htakes, s, t, level, hs, ht, hseed, hnothing, hmoves, hload,
    loading_forgets_past suffix htakes htakes rfl hs ht hseed (fun _ hdraws => absurd hdraws hnothing) hmoves hload⟩

end Script
end GridWalk
