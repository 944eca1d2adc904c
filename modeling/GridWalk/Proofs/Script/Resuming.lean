import GridWalk.Proofs.Desk
import GridWalk.Proofs.Visit.Twins
import GridWalk.Script

/-! Commands that go on where others ended. What commands print and record depends on the visit, the elapsed time, the
    seed and the tracing when they begin, and on nothing that was printed or recorded before. What is drawn for levels
    without a seed matters only to commands that generate one. -/

namespace GridWalk

/-! ### Desks with a past -/

namespace Desk
variable {past fresh d : Desk}

/-- A desk at which nothing has happened yet, with a recorder if this one has any. -/
def blank (d : Desk) : Desk := { recorder := d.recorder.map fun _ => {}, showsMoves := d.showsMoves }

/-- What the fresh desk has got, the desk has got after what it had in the past. -/
structure Continues (past fresh d : Desk) : Prop where
  out : d.out = past.out ++ fresh.out
  records : d.records = past.records ++ fresh.records
  showsMoves : d.showsMoves = fresh.showsMoves
  recorder : d.recorder.isSome = past.recorder.isSome
  recorderFresh : fresh.recorder.isSome = past.recorder.isSome
  takes : d.TakesRecords
  takesFresh : fresh.TakesRecords

theorem takesRecords_blank (d : Desk) : d.blank.TakesRecords := by
  intro k hk
  obtain ⟨k', -, rfl⟩ := Option.map_eq_some_iff.mp hk
  trivial

theorem continues_blank (h : d.TakesRecords) : d.Continues d.blank d where
  out := (Array.append_empty).symm
  records := by
    have hblank : d.blank.records = [] := by
      rw [records, blank]
      cases d.recorder <;> rfl
    rw [hblank, List.append_nil]
  showsMoves := rfl
  recorder := rfl
  recorderFresh := Option.isSome_map
  takes := h
  takesFresh := takesRecords_blank d

theorem noteAll_prints (entries : List Journal.Entry) (d : Desk) :
    (d.noteAll entries).out = d.out ∧ (d.noteAll entries).showsMoves = d.showsMoves := by
  induction entries generalizing d with
  | nil => exact ⟨rfl, rfl⟩
  | cons e entries ih => exact ih (d.note e)

theorem record_prints (d : Desk) (r : Record) : (d.record r).2.out = d.out ∧ (d.record r).2.showsMoves = d.showsMoves := by
  rw [record]
  split
  · exact ⟨rfl, rfl⟩
  · dsimp only
    split
    · exact noteAll_prints _ _
    · exact ⟨rfl, rfl⟩

theorem record_of_none (h : d.recorder.isSome = false) (r : Record) : (d.record r).2 = d := by
  rw [Option.isSome_eq_false_iff, Option.isNone_iff_eq_none] at h
  rw [record, h]

namespace Continues

theorem print (h : past.Continues fresh d) (text : String) : past.Continues (fresh.print text) (d.print text) where
  out := by
    simp only [Desk.print, h.out]
    exact Array.push_append
  records := h.records
  showsMoves := h.showsMoves
  recorder := h.recorder
  recorderFresh := h.recorderFresh
  takes := h.takes
  takesFresh := h.takesFresh

theorem note (h : past.Continues fresh d) (entry : Journal.Entry) :
    past.Continues (fresh.note entry) (d.note entry) where
  out := h.out
  records := h.records
  showsMoves := h.showsMoves
  recorder := h.recorder
  recorderFresh := h.recorderFresh
  takes := h.takes
  takesFresh := h.takesFresh

theorem noteAll (h : past.Continues fresh d) (entries : List Journal.Entry) :
    past.Continues (fresh.noteAll entries) (d.noteAll entries) := by
  induction entries generalizing fresh d with
  | nil => exact h
  | cons e entries ih => exact ih (h.note e)

theorem display (h : past.Continues fresh d) (event : Walk.Event) :
    past.Continues (fresh.display event) (d.display event) := by
  rw [Desk.display, Desk.display, h.showsMoves]
  induction event.printed fresh.showsMoves generalizing fresh d with
  | nil => exact h
  | cons line rest ih => exact ih (h.print line)

theorem record (h : past.Continues fresh d) (r : Record) : (fresh.record r).1 = (d.record r).1 ∧
    past.Continues (fresh.record r).2 (d.record r).2 := by
  have hgains := record_gains d r
  have hgains' := record_gains fresh r
  refine ⟨(record_ok h.takesFresh r).trans (record_ok h.takes r).symm, ?_, ?_, ?_, hgains.recorder.trans h.recorder,
    hgains'.recorder.trans h.recorderFresh, hgains.takes h.takes, hgains'.takes h.takesFresh⟩
  · rw [(record_prints d r).1, (record_prints fresh r).1, h.out]
  · cases hrecorder : past.recorder.isSome with
    | true =>
      rw [hgains.all h.takes (h.recorder.trans hrecorder), hgains'.all h.takesFresh (h.recorderFresh.trans hrecorder),
        h.records, List.append_assoc]
    | false =>
      rw [record_of_none (h.recorder.trans hrecorder), record_of_none (h.recorderFresh.trans hrecorder), h.records]
  · rw [(record_prints d r).2, (record_prints fresh r).2, h.showsMoves]

end Continues

theorem surroundings_twins (past : Desk) : surroundings.Twins surroundings past.Continues where
  display e _ _ h := ⟨rfl, h.display e⟩
  clock h := ⟨rfl, h⟩
  keepsRecords h := h.recorderFresh.trans h.recorder.symm
  record r _ _ h := h.record r
  note n _ _ h := h.note n

end Desk

/-! ### Seedings that generate the same -/

/-- Seedings with the same seed, which draw the same where they have none and levels are generated. -/
structure Seeding.Alike (generating : Prop) (s t : Seeding) : Prop where
  seed : t.seed = s.seed
  fresh : generating → s.seed = none → t.fresh = s.fresh

namespace Seeding.Alike
variable {generating : Prop} {s t : Seeding}

theorem refl (generating : Prop) (s : Seeding) : s.Alike generating s := ⟨rfl, fun _ _ => rfl⟩

theorem next (h : s.Alike generating t) : s.next.Alike generating t.next where
  seed := h.seed
  fresh hgenerating hnone := congrArg (fun fresh load => fresh (load + 1)) (h.fresh hgenerating hnone)

theorem mono {generating' : Prop} (h : s.Alike generating t) (himp : generating' → generating) :
    s.Alike generating' t := ⟨h.seed, fun hgenerating => h.fresh (himp hgenerating)⟩

/-- Where a seed is given it does not matter what would have been drawn. -/
theorem of_given {seed : Int} (h : s.Alike generating t) (hseed : s.seed = some seed) (generating' : Prop) :
    s.Alike generating' t := by
  refine ⟨h.seed, fun _ hnone => ?_⟩
  rw [hseed] at hnone
  cases hnone

theorem given (generating : Prop) (s t : Seeding) (seed : Int) :
    Alike generating { s with seed := some seed } { t with seed := some seed } := ⟨rfl, nofun⟩

theorem load (h : s.Alike generating t) {name : String}
    (hname : Level.isNumberName name = true → s.seed = none → generating) : Level.load name t = Level.load name s := by
  rw [Level.load, Level.load, Level.loadWithin, Level.loadWithin]
  split
  · rename_i hnumber
    congr 1
    funext number
    rw [Level.numberedWithin, Level.numberedWithin, Level.generatedWithin, Level.generatedWithin, h.seed]
    cases hseed : s.seed with
    | some seed => rfl
    | none => rw [h.fresh (hname hnumber hseed) hseed]
  · rfl

end Seeding.Alike

namespace Script

/-! ### Commands of a resumed script -/

/-- Whether a command loads a level by its number. -/
def generates : Command → Bool
  | name :: x :: _ => ["level", "load"].contains (String.ofList (Text.lower name.toList)) && Level.isNumberName x
  | _ => false

/-- Whether commands that are carried out come to load a level by its number while no seed is given. -/
def drawsFresh : List Command → State → Bool
  | [], _ => false
  | command :: rest, s =>
    generates command && s.seeding.seed.isNone || match perform command s with
      | (.ok _, s) => drawsFresh rest s
      | (.error _, _) => false

/-- Nothing is drawn where no level is loaded by its number. -/
theorem drawsFresh_of_forall {commands : List Command} (h : ∀ c ∈ commands, generates c = false) (s : State) :
    drawsFresh commands s = false := by
  induction commands generalizing s with
  | nil => rfl
  | cons command rest ih =>
    rw [drawsFresh, h command List.mem_cons_self, Bool.false_and, Bool.false_or]
    split
    · exact ih (fun c hc => h c (List.mem_cons_of_mem _ hc)) _
    · rfl

namespace State
variable {generating : Prop} {past : Desk} {s t : State}

/-- The state at a desk where nothing has happened yet. -/
def anew (s : State) : State := { s with desk := s.desk.blank }

/-- The two states differ only in what was printed and recorded before, and in what would be drawn if no level is
    generated any more. -/
structure Resumes (generating : Prop) (past : Desk) (s t : State) : Prop where
  visit : t.visit = s.visit
  elapsed : t.elapsed = s.elapsed
  seeding : s.seeding.Alike generating t.seeding
  desk : past.Continues s.desk t.desk

theorem resumes_anew (generating : Prop) (h : s.desk.TakesRecords) : Resumes generating s.desk s.anew s :=
  ⟨rfl, rfl, .refl generating s.seeding, s.desk.continues_blank h⟩

namespace Resumes

theorem reseed {generating' : Prop} (h : Resumes generating past s t)
    (hseeding : s.seeding.Alike generating' t.seeding) : Resumes generating' past s t :=
  ⟨h.visit, h.elapsed, hseeding, h.desk⟩

theorem print (h : Resumes generating past s t) (text : String) : Resumes generating past (s.print text) (t.print text) :=
  ⟨h.visit, h.elapsed, h.seeding, h.desk.print text⟩

theorem printAll (h : Resumes generating past s t) (lines : List String) :
    Resumes generating past (lines.foldl (fun s line => s.print line) s) (lines.foldl (fun s line => s.print line) t) := by
  induction lines generalizing s t with
  | nil => exact h
  | cons line rest ih => exact ih (h.print line)

theorem level (h : Resumes generating past s t) : t.level = s.level := congrArg Visit.level h.visit

theorem showBoard (h : Resumes generating past s t) : Resumes generating past s.showBoard t.showBoard := by
  rw [State.showBoard, State.showBoard, h.level, h.visit]
  exact h.print _

theorem act {α : Type} {action : Act Desk α} (haction : Act.Twins past.Continues action action)
    (h : Resumes generating past s t) :
    ∃ result s' t', s.act action = (result, s') ∧ t.act action = (result, t') ∧ Resumes generating past s' t' := by
  obtain ⟨result, v, d, d', hs, ht, hd⟩ := haction s.visit s.desk t.desk h.desk
  refine ⟨result.mapError .visit, { s with visit := v, desk := d }, { t with visit := v, desk := d' }, ?_, ?_,
    rfl, h.elapsed, h.seeding, hd⟩
  · rw [State.act, hs]
  · rw [State.act, h.visit, ht]

end Resumes
end State

open State (Resumes)

/-- Whether and how the command fails, and what it does, does not depend on what was printed and recorded before. -/
def Forgetful (generating : Prop) (command : State → Except Error Unit × State) : Prop :=
  ∀ past s t, Resumes generating past s t →
    ∃ result s' t', command s = (result, s') ∧ command t = (result, t') ∧ Resumes generating past s' t'

variable {generating : Prop}

theorem loadLevel_forgetful {name : String} (hname : Level.isNumberName name = true → generating) :
    Forgetful generating (loadLevel name) := by
  intro past s t h
  have hload : load name t.seeding = load name s.seeding := by rw [load, load, h.seeding.load fun hnumber _ => hname hnumber]
  rw [loadLevel, loadLevel, hload]
  cases load name s.seeding with
  | error e => exact ⟨_, _, _, rfl, rfl, h⟩
  | ok loaded => exact ⟨_, _, _, rfl, rfl, ⟨rfl, rfl, h.seeding.next, (h.desk.noteAll _).print _⟩⟩

theorem setSeed_forgetful (text : String) : Forgetful generating (setSeed text) := by
  intro past s t h
  rw [setSeed, setSeed]
  cases readInt text with
  | error e => exact ⟨_, _, _, rfl, rfl, h⟩
  | ok seed => exact ⟨_, _, _, rfl, rfl, ⟨h.visit, h.elapsed, .given generating _ _ seed, h.desk⟩⟩

theorem setTime_forgetful (text : String) : Forgetful generating (setTime text) := by
  intro past s t h
  rw [setTime, setTime]
  cases readReal text with
  | error e => exact ⟨_, _, _, rfl, rfl, h⟩
  | ok elapsed =>
    have htimed : Resumes generating past { s with elapsed := .real elapsed } { t with elapsed := .real elapsed } :=
      ⟨h.visit, rfl, h.seeding, h.desk⟩
    obtain ⟨result, s', t', hs, ht, h'⟩ := htimed.act (Visit.checkTime_twins (Desk.surroundings_twins past) _)
    dsimp only
    rw [hs, ht]
    rcases result with e | _ | _
    · exact ⟨_, _, _, rfl, rfl, h'⟩
    · exact ⟨_, _, _, rfl, rfl, h'⟩
    · dsimp only
      rw [h'.level]
      exact ⟨_, _, _, rfl, rfl, h'.print _⟩

theorem validate_forgetful (text : String) : Forgetful generating fun s => (.ok (), validate text s) := by
  intro past s t h
  refine ⟨_, _, _, rfl, rfl, ?_⟩
  rw [validate, validate, h.level]
  split
  · exact h.print _
  · exact h.print _

theorem run_forgetful (text : String) : Forgetful generating (run text) := by
  intro past s t h
  obtain ⟨result, s', t', hs, ht, h'⟩ :=
    h.act (Visit.submit_twins (Desk.surroundings_twins past) 0 (some text) (some s.elapsed))
  rw [run, run, h.elapsed, hs, ht]
  cases result with
  | error e => exact ⟨_, _, _, rfl, rfl, h'⟩
  | ok report => exact ⟨_, _, _, rfl, rfl, h'.printAll _⟩

theorem leave_forgetful : Forgetful generating leave := by
  intro past s t h
  obtain ⟨result, s', t', hs, ht, h'⟩ := h.act (Visit.leave_twins (Desk.surroundings_twins past) (some s.elapsed))
  rw [leave, leave, h.elapsed, hs, ht]
  rcases result with e | _ | record
  · exact ⟨_, _, _, rfl, rfl, h'⟩
  · exact ⟨_, _, _, rfl, rfl, h'⟩
  · exact ⟨_, _, _, rfl, rfl, h'.print _⟩

theorem restart_forgetful : Forgetful generating restart := by
  intro past s t h
  obtain ⟨result, s', t', hs, ht, h'⟩ := h.act (Visit.restart_twins (Desk.surroundings_twins past))
  rw [restart, restart, hs, ht]
  cases result with
  | error e => exact ⟨_, _, _, rfl, rfl, h'⟩
  | ok => exact ⟨_, _, _, rfl, rfl, ⟨h'.visit, rfl, h'.seeding, h'.desk⟩⟩

theorem trace_forgetful (arguments : List String) : Forgetful generating (trace arguments) := by
  intro past s t h
  rw [trace, trace]
  split
  · exact ⟨_, _, _, rfl, rfl, ⟨h.visit, h.elapsed, h.seeding, { h.desk with showsMoves := rfl }⟩⟩
  · exact ⟨_, _, _, rfl, rfl, ⟨h.visit, h.elapsed, h.seeding, { h.desk with showsMoves := rfl }⟩⟩
  · exact ⟨_, _, _, rfl, rfl, h⟩

theorem withArgument_forgetful {act : String → State → Except Error Unit × State} {arguments : List String}
    (h : ∀ first ∈ arguments.head?, Forgetful generating (act first)) (expected : String) :
    Forgetful generating (withArgument expected act arguments) := by
  intro past s t hst
  cases arguments with
  | nil => exact ⟨_, _, _, rfl, rfl, hst⟩
  | cons first _ => exact h first rfl past s t hst

theorem withText_forgetful {act : String → State → Except Error Unit × State}
    (h : ∀ text, Forgetful generating (act text)) (expected : String) (arguments : List String) :
    Forgetful generating (withText expected act arguments) := by
  intro past s t hst
  rw [withText, withText]
  split
  · exact ⟨_, _, _, rfl, rfl, hst⟩
  · exact h _ past s t hst

theorem performNamed_forgetful {name : String} {arguments : List String}
    (h : ∀ first ∈ arguments.head?, ["level", "load"].contains name = true → Level.isNumberName first = true →
      generating) : Forgetful generating (performNamed name arguments) := by
  intro past s t hst
  unfold performNamed
  split
  -- A case for each name; two names of one command go together.
  case h_1 | h_2 =>
    exact withArgument_forgetful (fun first hfirst => loadLevel_forgetful (h first hfirst rfl)) _ past s t hst
  case h_3 => exact withArgument_forgetful (fun first _ => setSeed_forgetful first) _ past s t hst
  case h_4 | h_5 => exact withArgument_forgetful (fun first _ => setTime_forgetful first) _ past s t hst
  case h_6 | h_7 => exact withText_forgetful validate_forgetful _ arguments past s t hst
  case h_8 | h_9 => exact withText_forgetful run_forgetful _ arguments past s t hst
  case h_10 | h_11 => exact ⟨_, _, _, rfl, rfl, hst.showBoard⟩
  case h_12 => exact trace_forgetful arguments past s t hst
  case h_13 | h_14 => exact restart_forgetful past s t hst
  case h_15 | h_16 => exact leave_forgetful past s t hst
  case h_17 => exact ⟨_, _, _, rfl, rfl, hst.print _⟩
  case h_18 => exact ⟨_, _, _, rfl, rfl, hst⟩

theorem perform_forgetful {command : Command} (h : generates command = true → generating) :
    Forgetful generating (perform command) := by
  cases command with
  | nil => exact fun past s t hst => ⟨_, _, _, rfl, rfl, hst⟩
  | cons name arguments =>
    refine performNamed_forgetful fun first hfirst hname hnumber => h ?_
    cases arguments with
    | nil => cases hfirst
    | cons x rest =>
      cases hfirst
      exact Bool.and_eq_true_iff.mpr ⟨hname, hnumber⟩

theorem performAll_forgetful {commands : List Command} {past : Desk} {s t : State} (hst : Resumes generating past s t)
    (h : drawsFresh commands s = true → generating) :
    ∃ result s' t', performAll commands s = (result, s') ∧ performAll commands t = (result, t') ∧
      Resumes generating past s' t' := by
  induction commands generalizing s t with
  | nil => exact ⟨_, _, _, rfl, rfl, hst⟩
  | cons command rest ih =>
    have hfirst : ∃ result s' t', perform command s = (result, s') ∧ perform command t = (result, t') ∧
        Resumes generating past s' t' := by
      cases hseed : s.seeding.seed with
      | some seed =>
        have hgiven := hst.reseed (hst.seeding.of_given hseed True)
        obtain ⟨result, s', t', hs, ht, hst'⟩ := perform_forgetful (fun _ => trivial) past s t hgiven
        exact ⟨result, s', t', hs, ht, hst'.reseed (hst'.seeding.mono fun _ => trivial)⟩
      | none =>
        refine perform_forgetful (fun hgenerates => h ?_) past s t hst
        rw [drawsFresh, hgenerates, hseed]
        rfl
    obtain ⟨result, s', t', hs, ht, hst'⟩ := hfirst
    rw [performAll, performAll, hs, ht]
    cases result with
    | error e => exact ⟨_, _, _, rfl, rfl, hst'⟩
    | ok =>
      refine ih hst' fun hrest => h ?_
      rw [drawsFresh, hs]
      exact Bool.or_eq_true_iff.mpr (.inr hrest)

end Script
end GridWalk
