import GridWalk.Proofs.Script.Commands
import GridWalk.Proofs.Script.Resuming

/-! Scripts one after the other. Commands are carried out in order until one fails, so a script goes on from where
    another one ended, and it does so as it would at a desk of its own. -/

namespace GridWalk.Script

open State (Resumes)

/-! ### Scripts -/

/-- Commands and, unless one of them fails, the end of a script. -/
def carryOut (commands : List Command) (s : State) : Except Error Unit × Desk :=
  match performAll commands s with
  | (.ok _, s) => (.ok (), (close s).desk)
  | (.error error, s) => (.error error, s.desk)

/-- The state in which a script begins on the level of a name. -/
def opening (name : String) (seeding : Seeding) (desk : Desk) : Except Error State :=
  (load name seeding).map fun (visit, notes) => { visit, seeding := seeding.next, desk := desk.noteAll notes }

/-- The state that a script reaches with its last command, unless it fails. -/
def reached? (text name : String) (seeding : Seeding) (desk : Desk) : Option State :=
  match opening name seeding desk with
  | .error _ => none
  | .ok s =>
    match performAll (commands text) s with
    | (.ok _, s) => some s
    | (.error _, _) => none

variable {s t : State} {text name : String} {seeding : Seeding} {desk left : Desk} {cs : List Command} {e : Error}

/-! ### Commands in order -/

theorem performAll_append_of_ok (h : performAll cs s = (.ok (), t)) (ds : List Command) :
    performAll (cs ++ ds) s = performAll ds t := by
  induction cs generalizing s with
  | nil =>
    cases h
    rfl
  | cons command rest ih =>
    rw [performAll] at h
    rw [List.cons_append, performAll]
    split at h
    · exact ih h
    · cases h

theorem performAll_append_of_error (h : performAll cs s = (.error e, t)) (ds : List Command) :
    performAll (cs ++ ds) s = (.error e, t) := by
  induction cs generalizing s with
  | nil => cases h
  | cons command rest ih =>
    rw [performAll] at h
    rw [List.cons_append, performAll]
    split at h
    · exact ih h
    · exact h

theorem carryOut_append_of_ok (h : performAll cs s = (.ok (), t)) (ds : List Command) :
    carryOut (cs ++ ds) s = carryOut ds t := by
  rw [carryOut, performAll_append_of_ok h, carryOut]

theorem carryOut_append_of_error (h : carryOut cs s = (.error e, left)) (ds : List Command) :
    carryOut (cs ++ ds) s = (.error e, left) := by
  rw [carryOut] at h ⊢
  split at h
  · cases h
  · rename_i hall
    rw [performAll_append_of_error hall]
    exact h

theorem exists_performAll_of_carryOut (h : carryOut cs s = (.ok (), left)) : ∃ t, performAll cs s = (.ok (), t) := by
  rw [carryOut] at h
  split at h
  · rename_i t hall
    exact ⟨t, hall⟩
  · cases h

/-- What a resumed script prints and records is what it prints and records at a desk of its own. -/
theorem carryOut_resumed {generating : Prop} {past : Desk} (h : Resumes generating past s t)
    (hdraws : drawsFresh cs s = true → generating) :
    (carryOut cs t).1 = (carryOut cs s).1 ∧ past.Continues (carryOut cs s).2 (carryOut cs t).2 := by
  obtain ⟨result, s', t', hs, ht, h'⟩ := performAll_forgetful h hdraws
  rw [carryOut, carryOut, hs, ht]
  cases result with
  | error e => exact ⟨rfl, h'.desk⟩
  | ok => exact ⟨rfl, ((h'.print _).showBoard).desk⟩

/-! ### Beginning -/

theorem execute_of_opening (h : opening name seeding desk = .ok s) (text : String) :
    execute text name seeding desk = carryOut (commands text) s := by
  rw [opening] at h
  rw [execute]
  cases hload : load name seeding with
  | error e =>
    rw [hload] at h
    cases h
  | ok loaded =>
    rw [hload] at h
    cases h
    rfl

theorem execute_of_opening_error (h : opening name seeding desk = .error e) (text : String) :
    execute text name seeding desk = (.error e, desk) := by
  rw [opening] at h
  rw [execute]
  cases hload : load name seeding with
  | error e' =>
    rw [hload] at h
    cases h
    rfl
  | ok loaded =>
    rw [hload] at h
    cases h

theorem opening_gains (h : opening name seeding desk = .ok s) : desk.Gains [] s.desk := by
  rw [opening] at h
  cases hload : load name seeding with
  | error e =>
    rw [hload] at h
    cases h
  | ok loaded =>
    rw [hload] at h
    cases h
    exact Desk.noteAll_gains loaded.2 desk

/-! ### Scripts one after the other -/

theorem reached?_eq_some_iff : reached? text name seeding desk = some t ↔
    ∃ s, opening name seeding desk = .ok s ∧ performAll (commands text) s = (.ok (), t) := by
  rw [reached?]
  cases hopening : opening name seeding desk with
  | error e => simp
  | ok s =>
    simp only [Except.ok.injEq, exists_eq_left']
    split
    · rename_i hall
      simp [hall]
    · rename_i hall
      simp [hall]

/-- Where every record is taken, every record is taken from then on, and records are kept if they were kept before. -/
theorem reached_desk (htakes : desk.TakesRecords) (h : reached? text name seeding desk = some t) :
    t.desk.TakesRecords ∧ t.desk.recorder.isSome = desk.recorder.isSome := by
  obtain ⟨s, hopening, hall⟩ := reached?_eq_some_iff.mp h
  have hgains := opening_gains hopening
  obtain ⟨_, _, t', -, ht', h'⟩ :=
    performAll_forgetful (State.resumes_anew True (hgains.takes htakes)) fun _ => trivial
  rw [hall] at ht'
  cases ht'
  exact ⟨h'.desk.takes, h'.desk.recorder.trans hgains.recorder⟩

theorem execute_of_reached (h : reached? text name seeding desk = some t) :
    execute text name seeding desk = (.ok (), (close t).desk) := by
  obtain ⟨s, hopening, hall⟩ := reached?_eq_some_iff.mp h
  rw [execute_of_opening hopening, carryOut, hall]

theorem execute_append_of_reached (h : reached? text name seeding desk = some t) (rest : String) :
    execute (text ++ "\n" ++ rest) name seeding desk = carryOut (commands rest) t := by
  obtain ⟨s, hopening, hall⟩ := reached?_eq_some_iff.mp h
  rw [execute_of_opening hopening, commands_append, carryOut_append_of_ok hall]

theorem execute_append_of_error (h : execute text name seeding desk = (.error e, left)) (rest : String) :
    execute (text ++ "\n" ++ rest) name seeding desk = (.error e, left) := by
  cases hopening : opening name seeding desk with
  | error e' =>
    rw [execute_of_opening_error hopening] at h ⊢
    exact h
  | ok s =>
    rw [execute_of_opening hopening] at h ⊢
    rw [commands_append, carryOut_append_of_error h]

/-- A script reaches a state unless it fails. -/
theorem exists_reached_of_execute (h : execute text name seeding desk = (.ok (), left)) :
    ∃ t, reached? text name seeding desk = some t := by
  cases hopening : opening name seeding desk with
  | error e =>
    rw [execute_of_opening_error hopening] at h
    cases h
  | ok s =>
    rw [execute_of_opening hopening] at h
    obtain ⟨t, hall⟩ := exists_performAll_of_carryOut h
    exact ⟨t, reached?_eq_some_iff.mpr ⟨s, hopening, hall⟩⟩

theorem execute_onLines (h : CommentsApart text) (name : String) (seeding : Seeding) (desk : Desk) :
    execute (onLines text) name seeding desk = execute text name seeding desk := by
  cases hopening : opening name seeding desk with
  | error e => rw [execute_of_opening_error hopening, execute_of_opening_error hopening]
  | ok s => rw [execute_of_opening hopening, execute_of_opening hopening, commands_onLines h]

/-- A script is its commands one after the other. Where no command begins like a comment, it makes no difference whether
    semicolons or line ends separate them. A script that goes on after one that fails fails with it; after one that does
    not, it goes on from the visit, the elapsed time, the seed and the tracing that were reached, and prints and records
    what its commands do at a desk of their own. Without a seed it draws what is drawn for the loads to come. -/
theorem execute_sequence (name : String) (seeding : Seeding) {desk : Desk} (htakes : desk.TakesRecords) :
    (∀ text, CommentsApart text → execute (onLines text) name seeding desk = execute text name seeding desk) ∧
    ∀ first second : String,
      (∀ e left, execute first name seeding desk = (.error e, left) →
        execute (first ++ "\n" ++ second) name seeding desk = (.error e, left)) ∧
      ∀ left, execute first name seeding desk = (.ok (), left) → ∃ s, reached? first name seeding desk = some s ∧
        left.out = s.desk.out ++ #["Script complete", Picture.text s.level (some s.visit.position)] ∧
        left.records = s.desk.records ∧
        let whole := execute (first ++ "\n" ++ second) name seeding desk
        let rest := carryOut (commands second) s.anew
        whole.1 = rest.1 ∧ whole.2.out = s.desk.out ++ rest.2.out ∧
          whole.2.records = s.desk.records ++ rest.2.records := by
  refine ⟨fun text h => execute_onLines h name seeding desk,
    fun first second => ⟨fun e left h => execute_append_of_error h second, fun left h => ?_⟩⟩
  obtain ⟨s, hreached⟩ := exists_reached_of_execute h
  obtain ⟨-, rfl⟩ := Prod.mk.inj ((execute_of_reached hreached).symm.trans h)
  obtain ⟨hresult, hdesk⟩ :=
    carryOut_resumed (State.resumes_anew True (reached_desk htakes hreached).1) fun _ => trivial
  refine ⟨s, hreached, rfl, rfl, ?_⟩
  dsimp only
  rw [execute_append_of_reached hreached]
  exact ⟨hresult, hdesk.out, hdesk.records⟩

theorem firstSteps_sequence :
    let desk : Desk := { recorder := some {} }
    let seeding : Seeding := { fresh := fun load draw => load + draw }
    let walked := "time 5; run D3,S3,D1; exit"
    let failing := "level 2; fly"
    let name := "first-steps"
    desk.TakesRecords ∧ CommentsApart walked ∧
      execute (onLines walked) name seeding desk = execute walked name seeding desk ∧
      (∃ left, execute failing name seeding desk = (.error (.unknownCommand "fly"), left) ∧
        execute (failing ++ "\n" ++ walked) name seeding desk = (.error (.unknownCommand "fly"), left)) ∧
      ∃ left s, execute walked name seeding desk = (.ok (), left) ∧ reached? walked name seeding desk = some s ∧
        left.out = s.desk.out ++ #["Script complete", Picture.text s.level (some s.visit.position)] ∧
        left.records = s.desk.records ∧
        let whole := execute (walked ++ "\n" ++ failing) name seeding desk
        let rest := carryOut (commands failing) s.anew
        whole.1 = rest.1 ∧ whole.2.out = s.desk.out ++ rest.2.out ∧
          whole.2.records = s.desk.records ++ rest.2.records := by
  intro desk seeding walked failing name
  have htakes : desk.TakesRecords := Desk.takesRecords_memory
  obtain ⟨hlines, happend⟩ := execute_sequence name seeding htakes
  have hwalked : execute walked name seeding desk = (.ok (), (execute walked name seeding desk).2) :=
    Prod.ext (by decide +kernel) rfl
  have hfailing : execute failing name seeding desk =
      (.error (.unknownCommand "fly"), (execute failing name seeding desk).2) := Prod.ext (by decide +kernel) rfl
  have hapart : CommentsApart walked := by
    unfold CommentsApart IsComment
    decide +kernel
  obtain ⟨s, hreached⟩ := (happend walked failing).2 _ hwalked
  exact ⟨htakes, hapart, hlines walked hapart, ⟨_, hfailing, (happend failing walked).1 _ _ hfailing⟩, _, s, hwalked,
    hreached⟩

end GridWalk.Script
