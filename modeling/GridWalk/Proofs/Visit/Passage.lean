import GridWalk.Visit.Actions

/-! What happens to the surroundings of a visit. A passage leads from one state of the surroundings to
    another by events that were displayed, records that were made, readings of the clock and journal entries,
    and by nothing else. Surroundings are calm where displays ask for nothing and every record is taken. -/

namespace GridWalk

open Walk (Stepper Event)

variable {σ α β : Type} {env : Surroundings σ}

namespace Surroundings

/-- From one state of the surroundings to another, with the events displayed, the records made and the
    readings taken on the way, each in order. -/
inductive Passage (env : Surroundings σ) : σ → List Event → List Record → List (Option Number) → σ → Prop
  | refl (w : σ) : Passage env w [] [] [] w
  | displayed (e : Event) {w w' : σ} {es : List Event} {rs : List Record} {ts : List (Option Number)}
    (h : Passage env (env.display e w).2 es rs ts w') : Passage env w (e :: es) rs ts w'
  | recorded (r : Record) {w w' : σ} {es : List Event} {rs : List Record} {ts : List (Option Number)}
    (h : Passage env (env.record r w).2 es rs ts w') : Passage env w es (r :: rs) ts w'
  | read {w w' : σ} {es : List Event} {rs : List Record} {ts : List (Option Number)}
    (h : Passage env (env.clock w).2 es rs ts w') : Passage env w es rs ((env.clock w).1 :: ts) w'
  | noted (n : Journal.Entry) {w w' : σ} {es : List Event} {rs : List Record} {ts : List (Option Number)}
    (h : Passage env (env.note n w) es rs ts w') : Passage env w es rs ts w'

/-- The surroundings once entries were made. -/
def noted (env : Surroundings σ) (entries : List Journal.Entry) (w : σ) : σ := entries.foldl (fun w n => env.note n w) w

/-- Surroundings that stay within some states, where displays ask for nothing and, if records are kept, every
    record is taken. -/
structure Calm (env : Surroundings σ) (keeps : Bool) (within : σ → Prop) : Prop where
  unasking : ∀ e w, within w → (env.display e w).1 = []
  keepsRecords : ∀ w, within w → env.keepsRecords w = keeps
  taken : ∀ r w, within w → keeps = true → (env.record r w).1 = .ok ()
  display : ∀ e w, within w → within (env.display e w).2
  record : ∀ r w, within w → within (env.record r w).2
  clock : ∀ w, within w → within (env.clock w).2
  note : ∀ n w, within w → within (env.note n w)

/-- There is no clock. -/
def Timeless (env : Surroundings σ) (within : σ → Prop) : Prop := ∀ w, within w → (env.clock w).1 = none

namespace Passage
variable {w w' w'' : σ} {es es' : List Event} {rs rs' : List Record} {ts ts' : List (Option Number)}
  {keeps : Bool} {within : σ → Prop}

theorem trans (h : Passage env w es rs ts w') (h' : Passage env w' es' rs' ts' w'') :
    Passage env w (es ++ es') (rs ++ rs') (ts ++ ts') w'' := by
  induction h with
  | refl w => exact h'
  | displayed e h ih => exact .displayed e (ih h')
  | recorded r h ih => exact .recorded r (ih h')
  | read h ih => exact .read (ih h')
  | noted n h ih => exact .noted n (ih h')

theorem stays (h : Passage env w es rs ts w') (hcalm : Calm env keeps within) (hw : within w) : within w' := by
  induction h with
  | refl w => exact hw
  | displayed e h ih => exact ih (hcalm.display e _ hw)
  | recorded r h ih => exact ih (hcalm.record r _ hw)
  | read h ih => exact ih (hcalm.clock _ hw)
  | noted n h ih => exact ih (hcalm.note n _ hw)

/-- What the clock always shows holds of every reading taken. -/
theorem forall_readings {P : Option Number → Prop} (h : Passage env w es rs ts w') (hcalm : Calm env keeps within)
    (hclock : ∀ w, within w → P (env.clock w).1) (hw : within w) : ∀ t ∈ ts, P t := by
  induction h with
  | refl w =>
    intro t ht
    cases ht
  | displayed e h ih => exact ih (hcalm.display e _ hw)
  | recorded r h ih => exact ih (hcalm.record r _ hw)
  | noted n h ih => exact ih (hcalm.note n _ hw)
  | @read w _ _ _ _ h ih =>
    intro t ht
    rcases List.mem_cons.mp ht with rfl | ht
    · exact hclock w hw
    · exact ih (hcalm.clock _ hw) t ht

theorem foldl_note (entries : List Journal.Entry) (w : σ) :
    Passage env w [] [] [] (entries.foldl (fun w n => env.note n w) w) := by
  induction entries generalizing w with
  | nil => exact .refl w
  | cons n entries ih => exact .noted n (ih _)

end Passage
end Surroundings

namespace Act

theorem bind_of_ok {act : Act σ α} {next : α → Act σ β} {s s' : Visit × σ} {a : α} (h : act s = (.ok a, s')) :
    (act >>= next) s = next a s' := by
  rw [bind_apply, h]

theorem bind_of_error {act : Act σ α} {next : α → Act σ β} {s s' : Visit × σ} {e : VisitError}
    (h : act s = (.error e, s')) : (act >>= next) s = (.error e, s') := by
  rw [bind_apply, h]

@[simp] theorem pure_bind_apply (a : α) (next : α → Act σ β) (s : Visit × σ) :
    ((pure a : Act σ α) >>= next) s = next a s := rfl

@[simp] theorem visit_bind_apply (next : Visit → Act σ β) (v : Visit) (w : σ) :
    ((visit : Act σ Visit) >>= next) (v, w) = next v (v, w) := rfl

@[simp] theorem modify_bind_apply (f : Visit → Visit) (next : Unit → Act σ β) (v : Visit) (w : σ) :
    ((modify f : Act σ Unit) >>= next) (v, w) = next () (f v, w) := rfl

@[simp] theorem outside_bind_apply (f : σ → α × σ) (next : α → Act σ β) (v : Visit) (w : σ) :
    (outside f >>= next) (v, w) = next (f w).1 (v, (f w).2) := rfl

@[simp] theorem note_bind_apply (env : Surroundings σ) (entries : List Journal.Entry) (next : Unit → Act σ β)
    (v : Visit) (w : σ) : (note env entries >>= next) (v, w) = next () (v, env.noted entries w) := rfl

theorem note_passage (env : Surroundings σ) (entries : List Journal.Entry) (v : Visit) (w : σ) :
    ∃ w', note env entries (v, w) = (.ok (), v, w') ∧ env.Passage w [] [] [] w' :=
  ⟨_, rfl, .foldl_note entries w⟩

end Act

end GridWalk
