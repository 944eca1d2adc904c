import GridWalk.Direction
import GridWalk.Level.Generator

/-! The positions of a guide path: those beside its start as far as the column of its end, and those above or below
    them in that column. Where it starts it does not run. They are the unit steps of a leg, straight across and then
    straight up or down, so each is beside the one before it. -/

namespace GridWalk.Guide
variable {a b i : Int} {start stop p : Position}

theorem mem_stretch_iff : i ∈ stretch a b ↔ a < i ∧ i ≤ b ∨ b ≤ i ∧ i < a := by
  simp only [stretch, List.mem_map, List.mem_range]
  constructor
  · rintro ⟨k, hk, rfl⟩
    split <;> omega
  · rintro (⟨ha, hb⟩ | ⟨hb, ha⟩)
    · exact ⟨(i - a - 1).toNat, by omega, by rw [if_pos (by omega)]; omega⟩
    · exact ⟨(a - i - 1).toNat, by omega, by rw [if_neg (by omega)]; omega⟩

theorem mem_path_iff : p ∈ path start stop ↔
    p.x ∈ stretch start.x stop.x ∧ p.y = start.y ∨ p.x = stop.x ∧ p.y ∈ stretch start.y stop.y := by
  obtain ⟨x, y⟩ := p
  simp only [path, List.mem_append, List.mem_map, Position.mk.injEq]
  constructor
  · rintro (⟨i, hi, rfl, rfl⟩ | ⟨i, hi, rfl, rfl⟩)
    · exact .inl ⟨hi, rfl⟩
    · exact .inr ⟨rfl, hi⟩
  · rintro (⟨hi, rfl⟩ | ⟨rfl, hi⟩)
    · exact .inl ⟨x, hi, rfl, rfl⟩
    · exact .inr ⟨y, hi, rfl, rfl⟩

theorem start_notMem_path (start stop : Position) : start ∉ path start stop := by
  rw [mem_path_iff, mem_stretch_iff, mem_stretch_iff]
  omega

/-- A path stays between the columns and between the rows of its ends. -/
theorem between_of_mem_path (h : p ∈ path start stop) : min start.x stop.x ≤ p.x ∧ p.x ≤ max start.x stop.x ∧
    min start.y stop.y ≤ p.y ∧ p.y ≤ max start.y stop.y := by
  rw [mem_path_iff, mem_stretch_iff, mem_stretch_iff] at h
  omega

/-! ### Steps -/

/-- Unit steps lead from one position to another over a list of positions, the last one included. -/
inductive Leads : Position → Position → List Position → Prop
  | here (p : Position) : Leads p p []
  | step (d : Direction) {p q : Position} {ps : List Position} (h : Leads (p + d.step) q ps) :
      Leads p q ((p + d.step) :: ps)

/-- The positions that the next steps in a direction lead to. -/
def straight (d : Direction) : Position → Nat → List Position
  | _, 0 => []
  | p, n + 1 => (p + d.step) :: straight d (p + d.step) n

/-- The positions lead straight across to the column of a position and then straight up or down to it. -/
def Leg (start stop : Position) (ps : List Position) : Prop :=
  ∃ d ∈ [Direction.right, .left], ∃ e ∈ [Direction.down, .up], ∃ m n : Nat,
    ps = straight d start m ++ straight e (start + d.step.scale m) n ∧
      start + d.step.scale m + e.step.scale n = stop

section
variable {q r : Position} {ps qs : List Position}

theorem Leads.append (h : Leads p q ps) (h' : Leads q r qs) : Leads p r (ps ++ qs) := by
  induction h with
  | here => exact h'
  | step d _ ih => exact .step d (ih h')

theorem Leads.getLast?_cons (h : Leads p q ps) : (p :: ps).getLast? = some q := by
  induction h with
  | here => rfl
  | step d _ ih =>
    rw [List.getLast?_cons_cons]
    exact ih

/-- A list that leads elsewhere ends there. -/
theorem Leads.getLast? (h : Leads p q ps) (hne : p ≠ q) : ps.getLast? = some q := by
  have hlast := h.getLast?_cons
  rw [List.getLast?_cons, Option.some.injEq] at hlast
  cases hps : ps.getLast? with
  | none =>
    rw [hps] at hlast
    exact absurd hlast hne
  | some r =>
    rw [hps] at hlast
    exact congrArg some hlast

theorem leads_straight (d : Direction) (p : Position) (n : Nat) : Leads p (p + d.step.scale n) (straight d p n) := by
  induction n generalizing p with
  | zero =>
    rw [Int.natCast_zero, Position.scale_zero, Position.add_origin]
    exact .here p
  | succ n ih =>
    have hplace : p + d.step + d.step.scale n = p + d.step.scale (n + 1 : Nat) := by
      rw [Position.add_assoc, Int.natCast_succ, Int.add_comm, Position.scale_add, Position.scale_one]
    exact .step d (hplace ▸ ih (p + d.step))

theorem Leg.leads (h : Leg p q ps) : Leads p q ps := by
  obtain ⟨d, -, e, -, m, n, rfl, rfl⟩ := h
  exact (leads_straight d p m).append (leads_straight e _ n)

end

/-! ### The path as steps -/

theorem straight_eq_map (d : Direction) (p : Position) (n : Nat) :
    straight d p n = (List.range n).map fun (i : Nat) => p + d.step.scale ((i : Int) + 1) := by
  induction n generalizing p with
  | zero => rfl
  | succ n ih =>
    rw [straight, ih, List.range_succ_eq_map, List.map_cons, List.map_map]
    congr 1
    · rw [Int.natCast_zero, Int.zero_add, Position.scale_one]
    · refine List.map_congr_left fun i _ => ?_
      have hnext : ((i + 1 : Nat) : Int) + 1 = 1 + ((i : Int) + 1) := by omega
      rw [Function.comp_apply, Position.add_assoc, hnext, Position.scale_add 1, Position.scale_one]

/-- A stretch of the numbers of rows or columns is made of steps forth or of steps back. -/
theorem exists_map_stretch (place : Int → Position) {forth back : Direction}
    (hforth : ∀ i k, place (i + k) = place i + forth.step.scale k)
    (hback : ∀ i k, place (i - k) = place i + back.step.scale k) (a b : Int) :
    ∃ d ∈ [forth, back], ∃ n : Nat, (stretch a b).map place = straight d (place a) n ∧
      place a + d.step.scale n = place b := by
  rcases Int.le_total a b with hab | hab
  · refine ⟨forth, List.mem_cons_self, (b - a).natAbs, ?_, ?_⟩
    · rw [straight_eq_map, stretch, List.map_map]
      refine List.map_congr_left fun i hi => ?_
      have hlt := List.mem_range.mp hi
      rw [Function.comp_apply, if_pos (by omega), hforth]
    · rw [← hforth]
      congr 1
      omega
  · refine ⟨back, List.mem_cons_of_mem _ List.mem_cons_self, (b - a).natAbs, ?_, ?_⟩
    · rw [straight_eq_map, stretch, List.map_map]
      refine List.map_congr_left fun i hi => ?_
      rw [Function.comp_apply, if_neg (by omega), hback]
    · rw [← hback]
      congr 1
      omega

theorem exists_across (a b y : Int) : ∃ d ∈ [Direction.right, .left], ∃ n : Nat,
    (stretch a b).map (⟨·, y⟩) = straight d ⟨a, y⟩ n ∧ (⟨a, y⟩ : Position) + d.step.scale n = ⟨b, y⟩ := by
  refine exists_map_stretch (⟨·, y⟩) (fun i k => ?_) (fun i k => ?_) a b
  · simp [Position.ext_iff, Direction.step]
  · simp [Position.ext_iff, Direction.step, Int.sub_eq_add_neg]

theorem exists_upright (a b x : Int) : ∃ d ∈ [Direction.down, .up], ∃ n : Nat,
    (stretch a b).map (⟨x, ·⟩) = straight d ⟨x, a⟩ n ∧ (⟨x, a⟩ : Position) + d.step.scale n = ⟨x, b⟩ := by
  refine exists_map_stretch (⟨x, ·⟩) (fun i k => ?_) (fun i k => ?_) a b
  · simp [Position.ext_iff, Direction.step]
  · simp [Position.ext_iff, Direction.step, Int.sub_eq_add_neg]

theorem leg_path (start stop : Position) : Leg start stop (path start stop) := by
  obtain ⟨d, hd, m, hacross, hturn⟩ := exists_across start.x stop.x start.y
  obtain ⟨e, he, n, hupright, hend⟩ := exists_upright start.y stop.y stop.x
  refine ⟨d, hd, e, he, m, n, ?_, ?_⟩
  · rw [path, hacross, hupright, hturn]
  · rw [hturn, hend]

end GridWalk.Guide
