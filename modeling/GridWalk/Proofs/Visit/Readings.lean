import GridWalk.Proofs.Visit.Answers
import GridWalk.Proofs.Visit.History
import Mathlib.Data.Stream.Init

/-! What a clock shows. The readings that are to come are a stream, and each look at the clock takes the first of them,
    while nothing else does. So the readings taken on a passage are those that came first. -/

namespace GridWalk

open Walk (Event)

variable {σ : Type} {env : Surroundings σ} {keeps : Bool} {within : σ → Prop} {readings : σ → Stream' Number} {w w' : σ}
  {es : List Event} {rs : List Record} {ts : List (Option Number)}

/-- What holds of the first readings taken. -/
theorem forall_taken {P : Option Number → Prop} {coming : Stream' Number} {n : Nat} :
    (∀ t ∈ (coming.take n).map some, P t) ↔ ∀ k < n, P (some (coming.get k)) := by
  induction n with
  | zero => exact ⟨fun _ _ hk => absurd hk (Nat.not_lt_zero _), fun _ _ ht => nomatch ht⟩
  | succ n ih =>
    rw [Stream'.take_succ', List.map_append, List.forall_mem_append, ih, Nat.forall_lt_succ_right]
    exact and_congr_right fun _ => List.forall_mem_singleton

namespace Surroundings

/-- There is a clock, and only looks at it take its readings. -/
structure Ticks (env : Surroundings σ) (within : σ → Prop) (readings : σ → Stream' Number) : Prop where
  shows : ∀ w, within w → (env.clock w).1 = some (readings w).head
  clock : ∀ w, within w → readings (env.clock w).2 = (readings w).tail
  display : ∀ e w, within w → readings (env.display e w).2 = readings w
  record : ∀ r w, within w → readings (env.record r w).2 = readings w
  note : ∀ n w, within w → readings (env.note n w) = readings w

theorem Ticks.mono {within' : σ → Prop} (h : env.Ticks within readings) (himp : ∀ w, within' w → within w) :
    env.Ticks within' readings where
  shows w hw := h.shows w (himp w hw)
  clock w hw := h.clock w (himp w hw)
  display e w hw := h.display e w (himp w hw)
  record r w hw := h.record r w (himp w hw)
  note n w hw := h.note n w (himp w hw)

/-- The readings taken on a passage are the first ones, and the others are still to come. -/
theorem Ticks.passage (h : env.Ticks within readings) (hcalm : Calm env keeps within) (p : env.Passage w es rs ts w')
    (hw : within w) : ts = ((readings w).take ts.length).map some ∧ readings w' = (readings w).drop ts.length := by
  induction p with
  | refl => exact ⟨rfl, rfl⟩
  | displayed e _ ih => exact h.display e _ hw ▸ ih (hcalm.display e _ hw)
  | recorded r _ ih => exact h.record r _ hw ▸ ih (hcalm.record r _ hw)
  | noted n _ ih => exact h.note n _ hw ▸ ih (hcalm.note n _ hw)
  | @read w w' es rs ts _ ih =>
    obtain ⟨hts, hrest⟩ := ih (hcalm.clock w hw)
    rw [h.clock w hw] at hts hrest
    constructor
    · rw [List.length_cons, Stream'.take_succ, List.map_cons, ← hts, h.shows w hw]
    · rw [hrest, List.length_cons, Stream'.drop_succ]

/-- The surroundings keep what they are in. -/
structure Keeps (env : Surroundings σ) (P : σ → Prop) : Prop where
  display : ∀ e w, P w → P (env.display e w).2
  record : ∀ r w, P w → P (env.record r w).2
  clock : ∀ w, P w → P (env.clock w).2
  note : ∀ n w, P w → P (env.note n w)

/-- Calm surroundings may be looked at within less. -/
theorem Calm.and {P : σ → Prop} (h : Calm env keeps within) (hP : env.Keeps P) :
    Calm env keeps fun w => within w ∧ P w where
  unasking e w hw := h.unasking e w hw.1
  keepsRecords w hw := h.keepsRecords w hw.1
  taken r w hw := h.taken r w hw.1
  display e w hw := ⟨h.display e w hw.1, hP.display e w hw.2⟩
  record r w hw := ⟨h.record r w hw.1, hP.record r w hw.2⟩
  clock w hw := ⟨h.clock w hw.1, hP.clock w hw.2⟩
  note n w hw := ⟨h.note n w hw.1, hP.note n w hw.2⟩

end Surroundings

namespace Rehearsal

/-- There is a clock. -/
def HasClock (r : Rehearsal) : Prop := ∃ now later, r.readings = some (now :: later)

/-- The readings of a list, of which the last one stays. -/
def lasting (planned : List Number) : Stream' Number := fun n => planned[n]?.getD (planned.getLast?.getD (.whole 0))

/-- The readings that are to come. -/
def toCome (r : Rehearsal) : Stream' Number := lasting (r.readings.getD [])

theorem toCome_of_readings {r : Rehearsal} {planned : List Number} (h : r.readings = some planned) :
    r.toCome = lasting planned := by
  rw [toCome, h]
  rfl

theorem tail_lasting_singleton (now : Number) : (lasting [now]).tail = lasting [now] := by
  funext n
  cases n <;> rfl

theorem tail_lasting_cons (now next : Number) (later : List Number) :
    (lasting (now :: next :: later)).tail = lasting (next :: later) := rfl

theorem readings_display (e : Event) (r : Rehearsal) : (r.display e).2.readings = r.readings := by
  rw [Rehearsal.display]
  cases r.plan <;> rfl

theorem clock_of_hasClock {r : Rehearsal} (h : r.HasClock) :
    r.clock.1 = some r.toCome.head ∧ r.clock.2.toCome = r.toCome.tail ∧ r.clock.2.HasClock := by
  obtain ⟨now, later, hreadings⟩ := h
  rw [toCome_of_readings hreadings, clock]
  cases later with
  | nil =>
    simp only [hreadings]
    exact ⟨rfl, (toCome_of_readings hreadings).trans (tail_lasting_singleton now).symm, now, [], hreadings⟩
  | cons next later =>
    simp only [hreadings]
    exact ⟨rfl, tail_lasting_cons now next later, next, later, rfl⟩

theorem keeps_hasClock : surroundings.Keeps HasClock where
  display e r h := by
    obtain ⟨now, later, hreadings⟩ := h
    exact ⟨now, later, (readings_display e r).trans hreadings⟩
  record _ _ h := h
  clock _ h := (clock_of_hasClock h).2.2
  note _ _ h := h

theorem ticks_hasClock : surroundings.Ticks HasClock toCome where
  shows _ h := (clock_of_hasClock h).1
  clock _ h := (clock_of_hasClock h).2.1
  display e r _ := congrArg (fun planned : Option (List Number) => lasting (planned.getD [])) (readings_display e r)
  record _ _ _ := rfl
  note _ _ _ := rfl

/-- Nothing is planned, records are remembered and there is a clock. -/
def Timed (r : Rehearsal) : Prop := r.Quiet ∧ r.HasClock

theorem calm_timed : surroundings.Calm true Timed := calm.and keeps_hasClock

theorem ticks : surroundings.Ticks Timed toCome := ticks_hasClock.mono fun _ h => h.2

end Rehearsal
end GridWalk
