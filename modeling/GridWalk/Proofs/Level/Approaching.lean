import GridWalk.Proofs.Level.Guide
import Mathlib.Logic.Basic

/-! A guide path as the way of someone who goes to its end one step after the other: across as long as the column of the
    end is not reached, and then up or down. Every step brings the end nearer by one, so the way ends, no position comes
    twice, and no other way of unit steps is shorter. -/

namespace GridWalk.Guide
variable {a b : Int} {d : Direction} {start stop p q : Position} {ps qs : List Position}

/-- The columns and the rows from one position to another. -/
def distance (p q : Position) : Nat := (q.x - p.x).natAbs + (q.y - p.y).natAbs

/-- Where the next step to the end goes: across until its column is reached, and then up or down. -/
def heading? (stop p : Position) : Option Direction :=
  if p.x ≠ stop.x then some (if p.x < stop.x then .right else .left)
  else if p.y ≠ stop.y then some (if p.y < stop.y then .down else .up)
  else none

/-- Going on to the end, step by step until none is left, leads over the positions. -/
inductive Goes (stop : Position) : Position → List Position → Prop
  | done {p : Position} (h : heading? stop p = none) : Goes stop p []
  | step {p : Position} {d : Direction} {ps : List Position} (h : heading? stop p = some d)
      (rest : Goes stop (p + d.step) ps) : Goes stop p ((p + d.step) :: ps)

/-! ### One step -/

theorem heading?_eq_none_iff : heading? stop p = none ↔ p = stop := by
  rw [heading?, Position.ext_iff]
  split
  · rename_i hx
    exact iff_of_false nofun fun h => hx h.1
  · rename_i hx
    split
    · rename_i hy
      exact iff_of_false nofun fun h => hy h.2
    · rename_i hy
      exact iff_of_true rfl ⟨not_not.mp hx, not_not.mp hy⟩

theorem heading?_eq_some_iff : heading? stop p = some d ↔
    d = .right ∧ p.x < stop.x ∨ d = .left ∧ stop.x < p.x ∨
      d = .down ∧ p.x = stop.x ∧ p.y < stop.y ∨ d = .up ∧ p.x = stop.x ∧ stop.y < p.y := by
  rw [heading?]
  cases d <;> grind

/-- Each step lowers the distance by one. -/
theorem distance_of_heading (h : heading? stop p = some d) : distance p stop = distance (p + d.step) stop + 1 := by
  rw [distance, distance, Position.add_x, Position.add_y]
  rcases heading?_eq_some_iff.mp h with ⟨rfl, hx⟩ | ⟨rfl, hx⟩ | ⟨rfl, hx, hy⟩ | ⟨rfl, hx, hy⟩
  all_goals
    simp only [Direction.step]
    omega

/-- No step changes the distance by more than one. -/
theorem distance_le_step (p q : Position) (d : Direction) : distance p q ≤ distance (p + d.step) q + 1 := by
  rw [distance, distance, Position.add_x, Position.add_y]
  cases d <;> simp only [Direction.step] <;> omega

/-! ### The path taken step by step -/

theorem stretch_self (a : Int) : stretch a a = [] := by
  rw [stretch, Int.sub_self]
  rfl

/-- A stretch goes on behind its first number as the stretch from there. -/
theorem stretch_of_step {k : Int} (h : k = 1 ∧ a < b ∨ k = -1 ∧ b < a) :
    stretch a b = (a + k) :: stretch (a + k) b := by
  have hlength : (b - a).natAbs = (b - (a + k)).natAbs + 1 := by omega
  rw [stretch, hlength, List.range_succ_eq_map, List.map_cons, List.map_map, stretch]
  congr 1
  · split <;> omega
  · refine List.map_congr_left fun i hi => ?_
    have hlt := List.mem_range.mp hi
    rw [Function.comp_apply]
    split <;> split <;> omega

theorem path_self (p : Position) : path p p = [] := by
  rw [path, stretch_self, stretch_self]
  rfl

theorem path_across {k : Int} (h : k = 1 ∧ p.x < stop.x ∨ k = -1 ∧ stop.x < p.x) :
    path p stop = (p + ⟨k, 0⟩) :: path (p + ⟨k, 0⟩) stop := by
  have hrow : (p + ⟨k, 0⟩).y = p.y := Int.add_zero p.y
  rw [path, stretch_of_step h, List.map_cons, List.cons_append, path, hrow]
  congr 1
  rw [← hrow]
  rfl

theorem path_upright {k : Int} (hx : p.x = stop.x) (h : k = 1 ∧ p.y < stop.y ∨ k = -1 ∧ stop.y < p.y) :
    path p stop = (p + ⟨0, k⟩) :: path (p + ⟨0, k⟩) stop := by
  have hcolumn : (p + ⟨0, k⟩).x = stop.x := (Int.add_zero p.x).trans hx
  rw [path, hx, stretch_self, stretch_of_step h, path, hcolumn, stretch_self, List.map_nil, List.nil_append,
    List.map_cons, List.map_nil, List.nil_append]
  congr 1
  rw [← hcolumn]
  rfl

/-- A path goes on behind its first step as the path from there. -/
theorem path_of_heading (h : heading? stop p = some d) : path p stop = (p + d.step) :: path (p + d.step) stop := by
  rcases heading?_eq_some_iff.mp h with ⟨rfl, hx⟩ | ⟨rfl, hx⟩ | ⟨rfl, hx, hy⟩ | ⟨rfl, hx, hy⟩
  · exact path_across (.inl ⟨rfl, hx⟩)
  · exact path_across (.inr ⟨rfl, hx⟩)
  · exact path_upright hx (.inl ⟨rfl, hy⟩)
  · exact path_upright hx (.inr ⟨rfl, hy⟩)

theorem goes_path (start stop : Position) : Goes stop start (path start stop) := by
  -- By the distance, which the next step lowers.
  induction hn : distance start stop using Nat.strongRecOn generalizing start with
  | ind n ih =>
    cases hheading : heading? stop start with
    | none =>
      obtain rfl := heading?_eq_none_iff.mp hheading
      rw [path_self]
      exact .done hheading
    | some d =>
      have hnear := distance_of_heading hheading
      rw [path_of_heading hheading]
      exact .step hheading (ih _ (by omega) _ rfl)

/-! ### What going on to the end keeps -/

namespace Goes

theorem unique (h : Goes stop p ps) (h' : Goes stop p qs) : ps = qs := by
  induction h generalizing qs with
  | done hnone =>
    cases h' with
    | done => rfl
    | step hsome =>
      rw [hnone] at hsome
      cases hsome
  | step hsome _ ih =>
    cases h' with
    | done hnone =>
      rw [hnone] at hsome
      cases hsome
    | step hsome' rest =>
      obtain rfl := Option.some.inj (hsome.symm.trans hsome')
      rw [ih rest]

theorem length_eq (h : Goes stop p ps) : ps.length = distance p stop := by
  induction h with
  | done hnone =>
    obtain rfl := heading?_eq_none_iff.mp hnone
    simp [distance]
  | step hsome _ ih => rw [List.length_cons, ih, distance_of_heading hsome]

theorem distance_lt (h : Goes stop p ps) : ∀ q ∈ ps, distance q stop < distance p stop := by
  induction h with
  | done => exact List.forall_mem_nil _
  | step hsome _ ih =>
    have hnear := distance_of_heading hsome
    refine List.forall_mem_cons.mpr ⟨by omega, fun q hq => ?_⟩
    have hlt := ih q hq
    omega

/-- No position comes twice, for all later ones are nearer to the end. -/
theorem nodup (h : Goes stop p ps) : ps.Nodup := by
  induction h with
  | done => exact List.nodup_nil
  | step _ rest ih => exact List.nodup_cons.mpr ⟨fun hmem => Nat.lt_irrefl _ (rest.distance_lt _ hmem), ih⟩

/-- In the column of the end all steps go to another row. -/
theorem upright (h : Goes stop p ps) (hx : p.x = stop.x) : ∀ t ∈ (p :: ps).zip ps, t.1.y ≠ t.2.y := by
  induction h with
  | done => exact List.forall_mem_nil _
  | @step p d ps hsome _ ih =>
    rw [List.zip_cons_cons]
    rcases heading?_eq_some_iff.mp hsome with ⟨-, hlt⟩ | ⟨-, hlt⟩ | ⟨rfl, -⟩ | ⟨rfl, -⟩
    · omega
    · omega
    · refine List.forall_mem_cons.mpr ⟨?_, ih ((Int.add_zero p.x).trans hx)⟩
      simp only [Position.add_y, Direction.step]
      omega
    · refine List.forall_mem_cons.mpr ⟨?_, ih ((Int.add_zero p.x).trans hx)⟩
      simp only [Position.add_y, Direction.step]
      omega

/-- A step across has only steps across before it. -/
theorem across_first (h : Goes stop p ps) :
    ((p :: ps).zip ps).Pairwise fun s t => t.1.y = t.2.y → s.1.y = s.2.y := by
  induction h with
  | done => exact List.Pairwise.nil
  | @step p d ps hsome rest ih =>
    rw [List.zip_cons_cons]
    refine List.pairwise_cons.mpr ⟨fun t ht hacross => ?_, ih⟩
    rcases heading?_eq_some_iff.mp hsome with ⟨rfl, -⟩ | ⟨rfl, -⟩ | ⟨rfl, hx, -⟩ | ⟨rfl, hx, -⟩
    · exact (Int.add_zero p.y).symm
    · exact (Int.add_zero p.y).symm
    · exact absurd hacross (rest.upright ((Int.add_zero p.x).trans hx) t ht)
    · exact absurd hacross (rest.upright ((Int.add_zero p.x).trans hx) t ht)

end Goes

theorem Leads.beside (h : Leads p q ps) : ∀ t ∈ (p :: ps).zip ps, ∃ d : Direction, t.2 = t.1 + d.step := by
  induction h with
  | here => exact List.forall_mem_nil _
  | step d _ ih =>
    rw [List.zip_cons_cons]
    exact List.forall_mem_cons.mpr ⟨⟨d, rfl⟩, ih⟩

theorem Leads.distance_le (h : Leads p q ps) : distance p q ≤ ps.length := by
  induction h with
  | here => simp [distance]
  | @step d p q ps _ ih =>
    have hstep := distance_le_step p q d
    rw [List.length_cons]
    omega

/-- Going on to the end step by step comes to an end, after the path and nothing else. The path has as many positions as
    there are columns and rows between its ends, and no unit steps lead there over fewer. No position comes twice, that
    of the start never, and the last one is the end. Each is a unit step from the one before it, the steps across before
    those up or down, and none lies outside the columns and rows of the ends. -/
theorem path_shortest (start stop : Position) :
    let ps := path start stop
    (∀ qs, Goes stop start qs ↔ qs = ps) ∧
    ps.length = (stop.x - start.x).natAbs + (stop.y - start.y).natAbs ∧
    (∀ qs, Leads start stop qs → ps.length ≤ qs.length) ∧
    ps.Nodup ∧ start ∉ ps ∧ (∀ p ∈ ps.getLast?, p = stop) ∧
    (∀ t ∈ (start :: ps).zip ps, ∃ d : Direction, t.2 = t.1 + d.step) ∧
    ((start :: ps).zip ps).Pairwise (fun s t => t.1.y = t.2.y → s.1.y = s.2.y) ∧
    ∀ p ∈ ps, min start.x stop.x ≤ p.x ∧ p.x ≤ max start.x stop.x ∧
      min start.y stop.y ≤ p.y ∧ p.y ≤ max start.y stop.y := by
  intro ps
  have hgoes : Goes stop start ps := goes_path start stop
  have hleads : Leads start stop ps := (leg_path start stop).leads
  refine ⟨fun qs => ⟨fun h => h.unique hgoes, fun h => h ▸ hgoes⟩, hgoes.length_eq,
    fun qs h => Nat.le_trans (Nat.le_of_eq hgoes.length_eq) h.distance_le, hgoes.nodup, start_notMem_path start stop,
    fun p hp => ?_, hleads.beside, hgoes.across_first, fun p => between_of_mem_path⟩
  have hlast := hleads.getLast?_cons
  rw [List.getLast?_cons, Option.mem_def.mp hp] at hlast
  exact Option.some.inj hlast

example : path ⟨0, 2⟩ ⟨2, 0⟩ = [⟨1, 2⟩, ⟨2, 2⟩, ⟨2, 1⟩, ⟨2, 0⟩] := by decide

end GridWalk.Guide
