import GridWalk.CommandLine.Execution
import GridWalk.Proofs.Level.Loading

/-! A program that works without a window loads its level first. If the level is refused the program returns two; if the
    level fails to load in any other way the program breaks off. -/

namespace GridWalk

section
variable {name : String} {seeding : Seeding} {e : LoadError} (h : Level.load name seeding = .error e) (desk : Desk)
include h

theorem Script.execute_of_load_error (text : String) :
    Script.execute text name seeding desk = (.error (.load e), desk) := by
  rw [Script.execute, Script.load, h]

theorem Headless.execute_of_load_error (text : Option (Option String)) :
    Headless.execute name text seeding desk = (.error (.load e), desk) := by
  rw [Headless.execute, Script.load, h]

end

namespace CommandLine

/-- How a program ends that has no level. -/
def endingWithout : LoadError → Ending
  | .level _ => .returned 2
  | e => .failed (.script (.load e))

theorem ending_concluding (j : JournalSetup) (e : LoadError) (desk : Desk) :
    (concluding j (.error (.load e)) desk).ending = endingWithout e := by
  cases e <;> rfl

/-- Arguments by which a program comes to load its level without a window. -/
structure ReachesLevel (arguments : List String) (files : Files) (s : Settings) : Prop where
  settings : Settings.ofArguments arguments = .ok s
  no_reference : s.helpCommands = false
  no_window : s.opensWindow = false
  prepared : ∃ j prepared recorder script, setUpJournal s files = .ok (j, prepared) ∧
    openRecorder s prepared = .ok recorder ∧ scriptText s prepared = .ok script

/-- Settings that give no script text ask for a single submission or a window. -/
theorem given_none_of_scriptText {s : Settings} {files : Files} (h : scriptText s files = .ok none) :
    given? s.script = none ∧ given? s.scriptFile = none := by
  unfold scriptText at h
  split at h
  · cases h
  · split at h <;> cases h
  · rename_i hscript hfile
    exact ⟨hscript, hfile⟩

variable {arguments : List String} {files : Files} {s : Settings} {e : LoadError}

theorem ending_of_load_error (h : ReachesLevel arguments files s) {fresh : Nat → Nat → Nat}
    (hload : Level.load s.level { seed := s.seed, fresh } = .error e) (deltas : List Int)
    (events : List (List Client.WindowEvent)) :
    (execute arguments files fresh deltas events).ending = endingWithout e := by
  obtain ⟨hsettings, hreference, hwindow, j, prepared, recorder, script, hjournal, hrecorder, hscript⟩ := h
  rw [execute, hsettings]
  simp only
  rw [executeSettings, hjournal]
  simp only
  rw [hreference, if_neg Bool.false_ne_true, hrecorder]
  simp only
  rw [hscript]
  cases script with
  | some text =>
    simp only [work, Script.execute_of_load_error hload]
    exact ending_concluding j e _
  | none =>
    obtain ⟨hnoScript, hnoFile⟩ := given_none_of_scriptText hscript
    have hheadless : s.headless = true := by simpa [Settings.opensWindow, hreference, hnoScript, hnoFile] using hwindow
    simp only [work, hheadless, if_true, Headless.execute_of_load_error hload]
    exact ending_concluding j e _

open Level in
/-- What becomes of the name of a level, however often it is drawn again where a draw does not fit. It loads a level or is
    refused, and when it is refused a program without a window returns two, but for the names of digits that write no
    number: by these no level is refused, and the program breaks off. A number loads the same level wherever more may be
    drawn than was. -/
theorem name_loads_or_is_refused (name : String) (hshort : name.length ≤ 300) :
    (∀ seeding : Seeding,
      (name ∈ Catalog.names → ∃ l, ∀ bound, loadWithin bound name seeding = .ok l) ∧
      (NamesLevel name → ∀ bound, (∃ l, ∀ more, bound ≤ more → loadWithin more name seeding = .ok l) ∨
        loadWithin bound name seeding = .error .outOfDraws) ∧
      (¬NamesLevel name → ¬Undecimal name → ∀ bound,
        loadWithin bound name seeding = .error (.level (refusal name))) ∧
      (Undecimal name → ¬NamesLevel name ∧ ∀ bound,
        loadWithin bound name seeding = .error (.number (.notWhole name)))) ∧
    ∀ arguments files s fresh deltas events, ReachesLevel arguments files s → s.level = name → ¬NamesLevel name →
      (¬Undecimal name → (execute arguments files fresh deltas events).ending = .returned 2) ∧
      (Undecimal name → (execute arguments files fresh deltas events).ending =
        .failed (.script (.load (.number (.notWhole name))))) := by
  constructor
  · intro seeding
    refine ⟨fun hbuiltIn => ?_, fun hname bound => ?_, fun hname hdecimal bound => ?_, fun hundecimal => ?_⟩
    · obtain ⟨l, hl⟩ := loadWithin_of_mem_names hbuiltIn
      exact ⟨l, fun bound => hl bound seeding⟩
    · exact loadWithin_of_namesLevel hshort seeding bound hname
    · exact loadWithin_of_unknown hshort seeding bound hname hdecimal
    · exact ⟨hundecimal.not_namesLevel, fun bound => loadWithin_of_undecimal hshort seeding bound hundecimal⟩
  · rintro arguments files s fresh deltas events hreach rfl hname
    constructor
    · intro hdecimal
      exact ending_of_load_error hreach (loadWithin_of_unknown hshort _ _ hname hdecimal) deltas events
    · intro hundecimal
      exact ending_of_load_error hreach (loadWithin_of_undecimal hshort _ _ hundecimal) deltas events

open Level in
/-- A built-in level is loaded, a number in Arabic digits too unless the draws run out, a misspelt number is refused, and
    a superscript breaks a script off. -/
theorem misspelt_name_is_refused :
    let seeding : Seeding := { seed := some 1, fresh := fun _ _ => 0 }
    "first-steps".length ≤ 300 ∧ (∃ l, ∀ bound, loadWithin bound "first-steps" seeding = .ok l) ∧
    (∀ bound, (∃ l, ∀ more, bound ≤ more → loadWithin more "١٢" seeding = .ok l) ∨
      loadWithin bound "١٢" seeding = .error .outOfDraws) ∧
    loadWithin 0 "7x" seeding = .error (.level (.unknownName "7x")) ∧
    (execute ["--headless", "--level", "7x"] {} seeding.fresh [] []).ending = .returned 2 ∧
    (execute ["--script", "show", "--level", "²"] {} seeding.fresh [] []).ending =
      .failed (.script (.load (.number (.notWhole "²")))) := by
  intro seeding
  obtain ⟨hbuiltIn, -⟩ := name_loads_or_is_refused "first-steps" (by decide)
  obtain ⟨hnumber, -⟩ := name_loads_or_is_refused "١٢" (by decide)
  obtain ⟨hmisspelt, hmisspelt'⟩ := name_loads_or_is_refused "7x" (by decide)
  obtain ⟨-, hdigit⟩ := name_loads_or_is_refused "²" (by decide)
  have hheadless : ReachesLevel ["--headless", "--level", "7x"] {} { headless := true, level := "7x" } :=
    ⟨by decide +kernel, rfl, rfl, { threshold := .warning }, {}, none, none, by decide +kernel, by rfl, by rfl⟩
  have hscript : ReachesLevel ["--script", "show", "--level", "²"] {} { script := some "show", level := "²" } :=
    ⟨by decide +kernel, rfl, by decide +kernel, { threshold := .warning }, {}, none, some "show", by decide +kernel,
      by rfl, by decide +kernel⟩
  refine ⟨by decide, (hbuiltIn seeding).1 (by decide +kernel), (hnumber seeding).2.1 (by decide +kernel),
    (hmisspelt seeding).2.2.1 (by decide +kernel) (by decide +kernel) 0, ?_, ?_⟩
  · exact (hmisspelt' _ _ _ _ [] [] hheadless rfl (by decide +kernel)).1 (by decide +kernel)
  · exact (hdigit _ _ _ _ [] [] hscript rfl (by decide +kernel)).2 (by decide +kernel)

open Level in
/-- A superscript names no level, but is not refused: it loads nothing, and a program does not return two. -/
theorem superscript_is_not_refused :
    let seeding : Seeding := { seed := some 1, fresh := fun _ _ => 0 }
    "²".length ≤ 300 ∧ (∀ l, Level.load "²" seeding ≠ .ok l) ∧ (∀ e, Level.load "²" seeding ≠ .error (.level e)) ∧
    ¬NamesLevel "²" ∧ (execute ["--headless", "--level", "²"] {} seeding.fresh [] []).ending ≠ .returned 2 := by
  intro seeding
  have hload : Level.load "²" seeding = .error (.number (.notWhole "²")) :=
    loadWithin_of_undecimal (by decide) _ _ (by decide +kernel)
  refine ⟨by decide, fun l hl => ?_, fun e he => ?_, by decide +kernel, by decide +kernel⟩
  · rw [hload] at hl
    cases hl
  · rw [hload] at he
    cases he

end CommandLine
end GridWalk
