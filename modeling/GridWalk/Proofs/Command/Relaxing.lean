import GridWalk.Proofs.Command.Acceptance
import GridWalk.Proofs.Command.Noting

/-! Relaxed options. Where commas are optional a text is read as where they are required, and only the missing comma goes
    unnoticed; each further check asks less where the options ask less. So what is accepted stays accepted. -/

namespace GridWalk.Command

/-- The options ask for less: for commas only where the others do, for loops to be absent only where the others do, for
    the patterns of advanced levels only where the others do, and for a way from the same start to the same door unless
    one of them is not given. -/
structure Options.Relaxes (o' o : Options) : Prop where
  requireComma : o'.requireComma = true → o.requireComma = true
  allowsLoops : o.allowsLoops = true → o'.allowsLoops = true
  isAdvanced : o'.isAdvanced = true → o.isAdvanced = true
  start : o'.start = o.start ∨ o'.start = none
  door : o'.door = o.door ∨ o'.door = none

namespace Options.Relaxes
variable {o o' : Options} {p : Program} {r : Reading} {text : String}

theorem patternRejection? (h : o'.Relaxes o) (hp : o.patternRejection? p = none) : o'.patternRejection? p = none := by
  rw [Options.patternRejection?] at hp ⊢
  cases hadvanced : o'.isAdvanced with
  | false => rfl
  | true =>
    rw [h.isAdvanced hadvanced, Bool.not_true, if_neg Bool.false_ne_true, ite_some_eq_none_iff] at hp
    obtain ⟨henough, hp⟩ := hp
    rw [Bool.not_true, if_neg Bool.false_ne_true, if_neg henough]
    rcases h.start with hstart | hstart
    · rcases h.door with hdoor | hdoor
      · rw [hstart, hdoor]
        exact hp
      · rw [hdoor]
        split
        · rename_i hnone
          cases hnone
        · rfl
    · rw [hstart]

theorem commonRejection? (h : o'.Relaxes o) (hr : o.commonRejection? r = none) : o'.commonRejection? r = none := by
  rw [commonRejection?_eq_none_iff] at hr ⊢
  obtain ⟨⟨hcomma, hfault⟩, hne, hloops, hsteps⟩ := hr
  refine ⟨⟨?_, hfault⟩, hne, fun hnone => hloops ?_, hsteps⟩
  · cases hrequire : o'.requireComma with
    | false => rfl
    | true => rwa [h.requireComma hrequire] at hcomma
  · rw [Bool.eq_false_iff] at hnone ⊢
    exact fun hallows => hnone (h.allowsLoops hallows)

theorem accepts (h : o'.Relaxes o) (haccepts : o.accepts text = true) : o'.accepts text = true := by
  rw [Options.accepts, Option.isNone_iff_eq_none, Options.validate] at haccepts ⊢
  split
  · rename_i hdeep
    rw [if_pos hdeep] at haccepts
    cases haccepts
  · rename_i hdepth
    rw [if_neg hdepth, rejection?, Option.orElse_eq_orElse, Option.orElse_eq_or, Option.or_eq_none_iff] at haccepts
    rw [rejection?, Option.orElse_eq_orElse, Option.orElse_eq_or, Option.or_eq_none_iff]
    exact ⟨h.patternRejection? haccepts.1, h.commonRejection? haccepts.2⟩

end Options.Relaxes

/-- Reading a text in either way yields the same program and notes down the same but for missing commas, which go unnoticed
    where commas are optional. Something cannot be read exactly where there is a message. So options that ask for less
    reject no text that was accepted. -/
theorem relaxing_rejects_no_more (text : String) :
    (∀ requireComma, noted requireComma text = ((read text).terms, (read text).notes requireComma)) ∧
    (let strict := noted true text
      let lenient := noted false text
      strict.1 = lenient.1 ∧ strict.2.invalid = lenient.2.invalid ∧ strict.2.message = lenient.2.message ∧
        lenient.2.missingComma = false) ∧
    (∀ requireComma, (noted requireComma text).2.invalid = true ↔ (noted requireComma text).2.message ≠ none) ∧
    ∀ o o' : Options, o'.Relaxes o → o.accepts text = true → o'.accepts text = true := by
  refine ⟨fun requireComma => noted_eq requireComma text, ?_, fun requireComma => ?_,
    fun o o' h haccepts => h.accepts haccepts⟩
  · dsimp only
    rw [noted_eq, noted_eq]
    exact ⟨rfl, rfl, rfl, rfl⟩
  · rw [noted_eq]
    simp [Reading.notes, Flags.notes, Option.isSome_iff_ne_none]

theorem relaxed_stairs_accepted :
    let o : Options := { level := some 15, start := some [0, 0], door := some [4, 0], allowsLoops := true }
    let o' : Options := { level := some 3, requireComma := false }
    let text := "(D1,S1,B1,D1)x2"
    o'.Relaxes o ∧ o.accepts text = true ∧ o'.accepts text = true := by
  intro o o' text
  have hrelaxes : o'.Relaxes o := ⟨nofun, id, nofun, .inr rfl, .inr rfl⟩
  have haccepts : o.accepts text = true := by decide +kernel
  exact ⟨hrelaxes, haccepts, (relaxing_rejects_no_more text).2.2.2 o o' hrelaxes haccepts⟩

end GridWalk.Command
