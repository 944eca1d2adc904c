import GridWalk.Proofs.Visit.Serving

/-! Actions on two visits among the same surroundings. They come out alike where they have the same result and leave the
    same surroundings, while the visits that are left are related. -/

namespace GridWalk.Visit

variable {σ α β : Type} {R Q : Visit → Visit → Prop} {v u : Visit}

/-- Two outcomes with the same result and the same surroundings, and visits that are related. -/
structure Alike (R : Visit → Visit → Prop) (out out' : Except VisitError α × Visit × σ) : Prop where
  result : out.1 = out'.1
  visits : R out.2.1 out'.2.1
  surroundings : out.2.2 = out'.2.2

namespace Alike

theorem done (result : Except VisitError α) (w : σ) (h : R v u) : Alike R (result, v, w) (result, u, w) := ⟨rfl, h, rfl⟩

theorem rfl_of {out : Except VisitError α × Visit × σ} (h : R out.2.1 out.2.1) : Alike R out out := ⟨rfl, h, rfl⟩

/-- Actions in sequence: the second ones begin with what the first ones leave. -/
theorem bind {act act' : Act σ α} {next next' : α → Act σ β} {s s' : Visit × σ} (h : Alike Q (act s) (act' s'))
    (hok : ∀ a v u w, Q v u → Alike R (next a (v, w)) (next' a (u, w))) (herror : ∀ v u, Q v u → R v u) :
    Alike R ((act >>= next) s) ((act' >>= next') s') := by
  rw [Act.bind_apply, Act.bind_apply]
  rcases hact : act s with ⟨result, v, w⟩
  rcases hact' : act' s' with ⟨result', u, w'⟩
  rw [hact, hact'] at h
  obtain ⟨rfl, hvisits, rfl⟩ := h
  cases result with
  | error e => exact done _ w (herror v u hvisits)
  | ok a => exact hok a v u w hvisits

variable {w : σ}

theorem readElapsed (env : Surroundings σ) (given : Option Number) (w : σ) (h : R v u) :
    Alike R (readElapsed env given (v, w)) (readElapsed env given (u, w)) := by
  cases given with
  | some now => exact done _ w h
  | none => exact done _ _ h

/-- A record tells of a visit only to which level it is. -/
theorem keepRecord (env : Surroundings σ) (success : Bool) (commandsUsed : Nat) (elapsed : Number) (energized : Bool)
    (w : σ) (h : R v u) (hnumber : v.level.number = u.level.number) :
    Alike R (keepRecord env success commandsUsed elapsed energized (v, w))
      (keepRecord env success commandsUsed elapsed energized (u, w)) := by
  rw [Visit.keepRecord, Act.outside_bind_apply, Act.outside_bind_apply]
  cases env.keepsRecords w with
  | false => exact done _ w h
  | true =>
    rw [if_pos rfl, Act.visit_bind_apply, Act.visit_bind_apply, hnumber]
    refine bind (Q := R) ?_ ?_ fun _ _ => id
    · cases elapsed.truncate with
      | ok time => exact done _ w h
      | error e => exact done _ w h
    · intro time v' u' w' h'
      rw [Act.outside_bind_apply, Act.outside_bind_apply]
      refine bind (Q := R) ?_ (fun _ _ _ w => done _ w) fun _ _ => id
      cases (env.record _ w').1 with
      | ok => exact done _ _ h'
      | error e => exact done _ _ h'

end Alike
end GridWalk.Visit
