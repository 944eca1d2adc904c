import GridWalk.Proofs.Files
import GridWalk.Records.Recorder

/-! What recorders take. A recorder that keeps its ledger in memory, or in a file that nothing stands in the way of,
    takes every record; the records of a file are then those of the ledger. Whatever the recorder, it only appends. -/

namespace GridWalk.Recorder

variable {k : Recorder} {files : Files} {path : Path}

/-- The recorder takes every record. -/
def Takes (k : Recorder) (files : Files) : Prop :=
  match k.keeping with
  | .memory => True
  | .file path => files.CanWrite path
  | .failing => False

/-- The recorder with further records in its ledger. -/
def extended (k : Recorder) (rs : List Record) : Recorder := { k with ledger := k.ledger ++ rs }

@[simp] theorem extended_nil (k : Recorder) : k.extended [] = k := by
  rw [extended, List.append_nil]

@[simp] theorem extended_extended (k : Recorder) (rs ss : List Record) :
    (k.extended rs).extended ss = k.extended (rs ++ ss) := by
  rw [extended, extended, extended, List.append_assoc]

theorem record_of_file (hkeeping : k.keeping = .file path) (hfiles : files.CanWrite path) (r : Record) :
    k.record r files = (.ok (), k.extended [r], files.put path (fileText (k.ledger ++ [r]))) := by
  obtain ⟨keeping, ledger⟩ := k
  obtain rfl := hkeeping
  unfold record
  dsimp only
  rw [Files.write_of_canWrite hfiles]
  rfl

/-- A recorder that takes every record appends the record and takes every other one afterwards. -/
theorem record_of_takes (h : k.Takes files) (r : Record) :
    ∃ files', k.record r files = (.ok (), k.extended [r], files') ∧ (k.extended [r]).Takes files' := by
  obtain ⟨keeping, ledger⟩ := k
  cases keeping with
  | memory => exact ⟨files, rfl, trivial⟩
  | file path => exact ⟨_, record_of_file rfl h r, Files.CanWrite.put h _⟩
  | failing => exact h.elim

/-- Whatever a recorder does with a record, the ledger keeps what it has and gets no other record. -/
theorem record_ledger (k : Recorder) (r : Record) (files : Files) :
    (k.record r files).2.1 = k ∨ (k.record r files).2.1 = k.extended [r] := by
  unfold record
  split
  · exact .inl rfl
  · exact .inr rfl
  · dsimp only
    split <;> exact .inr rfl

/-! ### Several records -/

/-- Takes records one after the other, up to one that is not taken. -/
def recordAll (k : Recorder) (files : Files) : List Record → Except RecorderError Unit × Recorder × Files
  | [] => (.ok (), k, files)
  | r :: rs =>
    match k.record r files with
    | (.ok (), k', files') => k'.recordAll files' rs
    | failed => failed

/-- In a file that can be written stand all the records, once there is one. -/
theorem recordAll_of_file (hkeeping : k.keeping = .file path) (hfiles : files.CanWrite path) (rs : List Record) :
    ∃ files', k.recordAll files rs = (.ok (), k.extended rs, files') ∧ files'.CanWrite path ∧
      (rs = [] → files' = files) ∧ (rs ≠ [] → files'.text? path = some (fileText (k.ledger ++ rs))) := by
  induction rs generalizing k files with
  | nil => exact ⟨files, by rw [extended_nil]; rfl, hfiles, fun _ => rfl, fun h => absurd rfl h⟩
  | cons r rs ih =>
    have hput := hfiles.put (fileText (k.ledger ++ [r]))
    obtain ⟨files', hall, hcan, hnone, hsome⟩ := ih (k := k.extended [r]) hkeeping hput
    have hledger : (k.extended [r]).ledger ++ rs = k.ledger ++ r :: rs := by
      rw [extended, List.append_assoc, List.singleton_append]
    refine ⟨files', ?_, hcan, nofun, fun _ => ?_⟩
    · rw [recordAll, record_of_file hkeeping hfiles]
      rw [extended_extended] at hall
      exact hall
    · by_cases hrs : rs = []
      · rw [hnone hrs, hrs, Files.text?_put]
      · rw [hsome hrs, hledger]

end GridWalk.Recorder
