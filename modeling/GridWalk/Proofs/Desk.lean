import GridWalk.Desk
import GridWalk.Proofs.Records.Recorder

/-! The records of a desk. Entries and printed texts leave them alone; a record is appended by a recorder that takes
    every record, and by any other at most that record is. -/

namespace GridWalk.Desk

variable {d d' d'' : Desk} {rs rs' : List Record}

/-- The records in the ledger of the recorder, none where there is no recorder. -/
def records (d : Desk) : List Record := (d.recorder.map (·.ledger)).getD []

/-- The recorder, if there is one, takes every record. -/
def TakesRecords (d : Desk) : Prop := ∀ k ∈ d.recorder, k.Takes d.files

/-- A recorder that keeps its ledger in memory does. -/
theorem takesRecords_memory : ({ recorder := some {} } : Desk).TakesRecords := by
  rintro _ ⟨⟩
  trivial

/-- The desk gets records: all of them if its recorder takes every record, and none but them in any case. -/
structure Gains (d : Desk) (rs : List Record) (d' : Desk) : Prop where
  takes : d.TakesRecords → d'.TakesRecords
  recorder : d'.recorder.isSome = d.recorder.isSome
  all : d.TakesRecords → d.recorder.isSome = true → d'.records = d.records ++ rs
  kept : ∃ kept, kept.Sublist rs ∧ d'.records = d.records ++ kept

theorem Gains.refl (d : Desk) : d.Gains [] d where
  takes := id
  recorder := rfl
  all _ _ := (List.append_nil _).symm
  kept := ⟨[], .slnil, (List.append_nil _).symm⟩

theorem Gains.trans (h : d.Gains rs d') (h' : d'.Gains rs' d'') : d.Gains (rs ++ rs') d'' where
  takes htakes := h'.takes (h.takes htakes)
  recorder := h'.recorder.trans h.recorder
  all htakes hsome := by
    rw [h'.all (h.takes htakes) (h.recorder.trans hsome), h.all htakes hsome, List.append_assoc]
  kept := by
    obtain ⟨kept, hkept, hrecords⟩ := h.kept
    obtain ⟨kept', hkept', hrecords'⟩ := h'.kept
    exact ⟨kept ++ kept', hkept.append hkept', by rw [hrecords', hrecords, List.append_assoc]⟩

/-- A desk with the same recorder and the same files has the same records. -/
theorem Gains.of_same (hrecorder : d'.recorder = d.recorder) (hfiles : d'.files = d.files) : d.Gains [] d' := by
  have hrecords : d'.records = d.records := by
    rw [records, hrecorder]
    rfl
  refine ⟨fun htakes => ?_, congrArg _ hrecorder, fun _ _ => ?_, [], .slnil, ?_⟩
  · rw [TakesRecords, hrecorder, hfiles]
    exact htakes
  · rw [hrecords, List.append_nil]
  · rw [hrecords, List.append_nil]

/-- Where there is no recorder no record is kept. -/
theorem Gains.of_none (h : d.recorder = none) (rs : List Record) : d.Gains rs d where
  takes := id
  recorder := rfl
  all _ hsome := by
    rw [h] at hsome
    cases hsome
  kept := ⟨[], List.nil_sublist rs, (List.append_nil _).symm⟩

theorem noteAll_gains (entries : List Journal.Entry) (d : Desk) : d.Gains [] (d.noteAll entries) := by
  have hsame : (d.noteAll entries).recorder = d.recorder ∧ (d.noteAll entries).files = d.files := by
    induction entries generalizing d with
    | nil => exact ⟨rfl, rfl⟩
    | cons e entries ih => exact ih (d.note e)
  exact .of_same hsame.1 hsame.2

/-- A recorder that takes every record takes this one. -/
theorem record_ok (htakes : d.TakesRecords) (r : Record) : (d.record r).1 = .ok () := by
  cases hrecorder : d.recorder with
  | none => rw [record, hrecorder]
  | some k =>
    obtain ⟨files, htaken, -⟩ := Recorder.record_of_takes (htakes k hrecorder) r
    rw [record, hrecorder]
    dsimp only
    rw [htaken]

theorem record_gains (d : Desk) (r : Record) : d.Gains [r] (d.record r).2 := by
  cases hrecorder : d.recorder with
  | none =>
    have hsame : (d.record r).2 = d := by rw [record, hrecorder]
    rw [hsame]
    exact .of_none hrecorder [r]
  | some k =>
    -- The recorder and the files are what the recorder leaves; entries are all that is added to them.
    let d₁ : Desk := { d with recorder := some (k.record r d.files).2.1, files := (k.record r d.files).2.2 }
    have hnotes : d₁.Gains [] (d.record r).2 := by
      rw [record, hrecorder]
      dsimp only
      split
      · exact noteAll_gains _ d₁
      · exact .refl d₁
    have hledger : d.records = k.ledger := by rw [records, hrecorder]; rfl
    have hkept : d.Gains [r] d₁ := by
      refine ⟨fun htakes => ?_, by rw [hrecorder]; rfl, fun htakes _ => ?_, ?_⟩
      · obtain ⟨files, htaken, htakes'⟩ := Recorder.record_of_takes (htakes k hrecorder) r
        rintro k' ⟨⟩
        change (k.record r d.files).2.1.Takes (k.record r d.files).2.2
        rw [htaken]
        exact htakes'
      · obtain ⟨files, htaken, -⟩ := Recorder.record_of_takes (htakes k hrecorder) r
        change (k.record r d.files).2.1.ledger = _
        rw [htaken, hledger]
        rfl
      · change ∃ kept, kept.Sublist [r] ∧ (k.record r d.files).2.1.ledger = d.records ++ kept
        rw [hledger]
        rcases Recorder.record_ledger k r d.files with hk | hk
        · exact ⟨[], List.nil_sublist _, by rw [hk, List.append_nil]⟩
        · exact ⟨[r], .refl _, by rw [hk]; rfl⟩
    exact List.append_nil [r] ▸ hkept.trans hnotes

end GridWalk.Desk
