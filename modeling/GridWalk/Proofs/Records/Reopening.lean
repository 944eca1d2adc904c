import GridWalk.Proofs.Json.Reading
import GridWalk.Proofs.Level.Layout
import GridWalk.Proofs.Records.Recorder

/-! Ledgers that are kept in files. What a recorder wrote is read again as the ledger that it was, so a recorder
    that is opened anew goes on like the one before, whatever file the first one began with. -/

namespace GridWalk

/-! ### Line ends -/

namespace Json

variable {level : Nat}

theorem escaped_no_return (c : Char) : '\r' ∉ escaped c := by
  unfold escaped
  split
  case isTrue h =>
    rw [Bool.or_eq_true, decide_eq_true_eq, decide_eq_true_eq] at h
    rcases h with rfl | rfl <;> decide
  case isFalse =>
    split
    · decide
    · split
      case isTrue h =>
        have hdigits : ∀ n < 32, '\r' ∉ ['\\', 'u'] ++ Text.hexDigits 4 n := by decide
        exact hdigits _ h
      case isFalse h =>
        rintro hc
        rw [← List.mem_singleton.mp hc] at h
        exact h (by decide)

theorem textChars_no_return (s : String) : '\r' ∉ textChars s := by
  simp [textChars, escaped_no_return]

theorem lineStart_no_return (level : Nat) : '\r' ∉ lineStart level := by
  simp [lineStart, List.mem_replicate]

theorem items_no_return {items : List Json} (h : ∀ v ∈ items, ∀ level, '\r' ∉ indented level v) (level : Nat) :
    '\r' ∉ indentedItems level items := by
  induction items with
  | nil => exact List.not_mem_nil
  | cons v vs ih =>
    obtain ⟨hv, hvs⟩ := List.forall_mem_cons.mp h
    cases vs with
    | nil => simp [indentedItems, lineStart_no_return, hv]
    | cons u us => simp [indentedItems, lineStart_no_return, hv, ih hvs]

theorem fields_no_return {fields : List (String × Json)} (h : ∀ f ∈ fields, ∀ level, '\r' ∉ indented level f.2)
    (level : Nat) : '\r' ∉ indentedFields level fields := by
  induction fields with
  | nil => exact List.not_mem_nil
  | cons f fs ih =>
    obtain ⟨hf, hfs⟩ := List.forall_mem_cons.mp h
    cases fs with
    | nil => simp [indentedFields, lineStart_no_return, textChars_no_return, hf]
    | cons g gs => simp [indentedFields, lineStart_no_return, textChars_no_return, hf, ih hfs]

/-- The text of a value has no carriage return. -/
theorem indented_no_return {v : Json} (h : Legible v) (level : Nat) : '\r' ∉ indented level v := by
  unfold Legible at h
  induction h generalizing level with
  | null => simp [indented]
  | bool b => cases b <;> simp [indented]
  | number x hx =>
    obtain ⟨n, rfl, -⟩ := hx
    have hdigits : '\r' ∉ Nat.toDigits 10 n.natAbs := fun hmem =>
      absurd (Text.isPlainDigit_of_mem_toDigits hmem) (by decide)
    rw [indented, toList_text_whole]
    split
    · simp [hdigits]
    · exact hdigits
  | text s => exact textChars_no_return s
  | list items _ ih =>
    cases items with
    | nil => simp [indented]
    | cons v vs => simp [indented, lineStart_no_return, items_no_return ih]
  | object fields _ ih =>
    cases fields with
    | nil => simp [indented]
    | cons f fs => simp [indented, lineStart_no_return, fields_no_return ih]

end Json

theorem Text.unifyLineEnds_of_no_return {cs : List Char} (h : '\r' ∉ cs) : unifyLineEnds cs = cs := by
  induction cs using unifyLineEnds.induct with
  | case1 => rfl
  | case2 cs ih => exact absurd List.mem_cons_self h
  | case3 c cs hpair ih =>
    rw [List.mem_cons, not_or] at h
    rw [unifyLineEnds.eq_3 c cs hpair, ih h.2, if_neg fun heq => h.1 heq.symm]

/-! ### Records -/

theorem mapError_eq_ok {ε ε' α : Type} {f : ε → ε'} {x : Except ε α} {a : α} (h : x.mapError f = .ok a) :
    x = .ok a := by
  cases x with
  | error e => cases h
  | ok b => exact congrArg Except.ok (Except.ok.inj h)

namespace Record

/-- The numbers of the record are short. -/
structure IsShort (r : Record) : Prop where
  level : Short r.level
  commandsUsed : Short r.commandsUsed
  timeTaken : Short r.timeTaken

theorem legible_json {r : Record} (h : r.IsShort) : r.json.Legible := by
  have hint {n : Int} (hn : Short n) : (Json.int n).Legible := .number _ ⟨n, rfl, hn⟩
  refine .object _ ?_
  simp only [List.forall_mem_cons]
  exact ⟨hint h.level, hint h.commandsUsed, hint h.timeTaken, .bool _, .bool _, List.forall_mem_nil _⟩

theorem ofJson_eq_ok_iff {data : Json} {r : Record} : ofJson data = .ok r ↔ (∃ fields, data = .object fields) ∧
    (∃ v, required data "level" = .ok v ∧ intOf v = .ok r.level) ∧
    intOf ((data.field? "commandsUsed").getD (.int 0)) = .ok r.commandsUsed ∧
    intOf ((data.field? "timeTaken").getD (.int 0)) = .ok r.timeTaken ∧
    ((data.field? "energized").getD (.bool false)).isTruthy = r.energized ∧
    ∃ v, required data "success" = .ok v ∧ v.isTruthy = r.success := by
  cases data with
  | object fields =>
    unfold ofJson
    simp only [Layout.bind_eq_ok_iff]
    constructor
    · rintro ⟨v, hv, level, hlevel, commands, hcommands, time, htime, w, hw, hr⟩
      obtain rfl := Except.ok.inj hr
      exact ⟨⟨fields, rfl⟩, ⟨v, hv, hlevel⟩, hcommands, htime, rfl, w, hw, rfl⟩
    · rintro ⟨-, ⟨v, hv, hlevel⟩, hcommands, htime, henergized, w, hw, hsuccess⟩
      refine ⟨v, hv, _, hlevel, _, hcommands, _, htime, w, hw, ?_⟩
      rw [henergized, hsuccess]
      rfl
  | null | bool | number | text | list => exact ⟨nofun, fun ⟨⟨_, h⟩, _⟩ => nomatch h⟩

theorem intOf_int (n : Int) : intOf (.int n) = .ok n := by
  change (Except.ok (wholePart n)).mapError FormatError.number = _
  rw [wholePart_intCast]
  rfl

/-- The object of a record describes that record. -/
theorem ofJson_json (r : Record) : ofJson r.json = .ok r :=
  ofJson_eq_ok_iff.mpr ⟨⟨_, rfl⟩, ⟨.int r.level, rfl, intOf_int _⟩, intOf_int _, intOf_int _, rfl, .bool r.success,
    rfl, rfl⟩

theorem short_of_intOf {v : Json} (hv : v.Readable) {n : Int} (h : intOf v = .ok n) : Short n := by
  cases hv with
  | bool b =>
    obtain rfl := Except.ok.inj h
    cases b <;> exact short_of_digit (by decide)
  | number x hx => exact hx n (mapError_eq_ok h)
  | text s => exact short_of_readInt (mapError_eq_ok h)
  | null | list | object => cases h

theorem readable_field {data v : Json} {key : String} (hdata : data.Readable) (h : data.field? key = some v) :
    v.Readable := by
  cases hdata with
  | object fields hfields =>
    obtain ⟨f, hf, rfl⟩ := Option.map_eq_some_iff.mp h
    exact hfields f (List.mem_reverse.mp (List.mem_of_find?_eq_some hf))
  | null | bool | number | text | list => cases h

theorem readable_getD {data : Json} (hdata : data.Readable) (key : String) :
    ((data.field? key).getD (.int 0)).Readable := by
  cases hfield : data.field? key with
  | none => exact .number _ (Number.shortWhole_whole (short_of_digit (by decide)))
  | some v => exact readable_field hdata hfield

theorem isShort_of_ofJson {data : Json} {r : Record} (hdata : data.Readable) (h : ofJson data = .ok r) : r.IsShort := by
  obtain ⟨-, ⟨v, hv, hlevel⟩, hcommands, htime, -, -⟩ := ofJson_eq_ok_iff.mp h
  refine ⟨short_of_intOf ?_ hlevel, short_of_intOf (readable_getD hdata _) hcommands,
    short_of_intOf (readable_getD hdata _) htime⟩
  unfold required at hv
  split at hv
  · rename_i hfield
    exact Except.ok.inj hv ▸ readable_field hdata hfield
  · cases hv

end Record

/-! ### Ledgers -/

namespace Recorder

variable {path : Path} {files : Files} {k : Recorder} {l : Ledger}

theorem mapM_json (l : Ledger) : (l.map Record.json).mapM Record.ofJson = .ok l := by
  induction l with
  | nil => rfl
  | cons r rs ih =>
    rw [List.map_cons, List.mapM_cons, Record.ofJson_json, ih]
    rfl

theorem isShort_of_mapM {items : List Json} (hitems : ∀ v ∈ items, v.Readable) (h : items.mapM Record.ofJson = .ok l) :
    ∀ r ∈ l, r.IsShort := by
  induction items generalizing l with
  | nil =>
    obtain rfl := Except.ok.inj h
    nofun
  | cons v vs ih =>
    obtain ⟨hv, hvs⟩ := List.forall_mem_cons.mp hitems
    simp only [List.mapM_cons, Layout.bind_eq_ok_iff] at h
    obtain ⟨r, hr, rs, hrs, hl⟩ := h
    obtain rfl := Except.ok.inj hl
    exact List.forall_mem_cons.mpr ⟨Record.isShort_of_ofJson hv hr, ih hvs hrs⟩

/-- The text of a file is read as the ledger that it keeps. -/
theorem readLedger_fileText (path : Path) (h : ∀ r ∈ l, r.IsShort) : readLedger path (fileText l) = .ok l := by
  have hlegible : (Json.list (l.map Record.json)).Legible := .list _ fun v hv => by
    obtain ⟨r, hr, rfl⟩ := List.mem_map.mp hv
    exact Record.legible_json (h r hr)
  have hunify : Text.unifyLineEnds (fileText l).toList = (fileText l).toList := by
    rw [fileText, Json.manyLines, String.toList_ofList]
    exact Text.unifyLineEnds_of_no_return (Json.indented_no_return hlegible 0)
  have hmark : (fileText l).toList.head? ≠ some byteOrderMark := by
    rw [fileText, Json.manyLines, String.toList_ofList]
    have hhead : (Json.indented 0 (.list (l.map Record.json))).head? = some '[' := by cases l <;> rfl
    rw [hhead]
    decide
  have hread : Json.read (fileText l) = .ok (.list (l.map Record.json)) := Json.read_manyLines hlegible
  unfold readLedger
  dsimp only
  rw [hunify, if_neg hmark, String.ofList_toList, hread]
  change ((l.map Record.json).mapM Record.ofJson).mapError RecorderError.format = _
  rw [mapM_json]
  rfl

theorem isShort_of_readLedger {text : String} (h : readLedger path text = .ok l) : ∀ r ∈ l, r.IsShort := by
  unfold readLedger at h
  dsimp only at h
  split at h
  · cases h
  · simp only [Layout.bind_eq_ok_iff] at h
    obtain ⟨v, hv, hitems⟩ := h
    have hreadable := Json.readable_of_read (mapError_eq_ok hv)
    cases hreadable with
    | list items hlist => exact isShort_of_mapM hlist (mapError_eq_ok hitems)
    | null | bool | number | text | object => cases hitems

theorem openAt_of_text {text : String} (h : files.text? path = some text) (hread : readLedger path text = .ok l) :
    openAt path files = .ok { keeping := .file path, ledger := l } := by
  have hfile : files.isFile path = true := by rw [Files.isFile, h]; rfl
  unfold openAt
  rw [hfile, Bool.true_or, if_pos rfl, Files.read, h]
  change (readLedger path text >>= fun ledger => pure (Recorder.mk (.file path) ledger)) = _
  rw [hread]
  rfl

/-- A recorder that was opened keeps its ledger in the file, and the records that it begins with are short. -/
theorem opened_of_openAt (h : openAt path files = .ok k) : k.keeping = .file path ∧ ∀ r ∈ k.ledger, r.IsShort := by
  unfold openAt at h
  split at h
  · simp only [Layout.bind_eq_ok_iff] at h
    obtain ⟨text, -, l, hl, hk⟩ := h
    obtain rfl := Except.ok.inj hk
    exact ⟨rfl, isShort_of_readLedger hl⟩
  · obtain rfl := Except.ok.inj h
    exact ⟨rfl, nofun⟩

/-- A recorder that is opened on the file of another one that took records has the same ledger, those it began
    with first, and goes on as the other one does: the file gets the same text from both. -/
theorem reopened_goes_on (hopen : openAt path files = .ok k) (hfiles : files.CanWrite path) {rs : List Record}
    (hrs : ∀ r ∈ rs, r.IsShort) : ∃ kept files', k.recordAll files rs = (.ok (), kept, files') ∧
      kept.ledger = k.ledger ++ rs ∧ ∃ again, openAt path files' = .ok again ∧ again.ledger = k.ledger ++ rs ∧
        ∀ more, again.recordAll files' more = kept.recordAll files' more ∧
          ∃ last files'', kept.recordAll files' more = (.ok (), last, files'') ∧
            (more ≠ [] → files''.text? path = some (fileText (k.ledger ++ rs ++ more))) := by
  obtain ⟨hkeeping, hshort⟩ := opened_of_openAt hopen
  obtain ⟨files', hall, hcan, hnone, hsome⟩ := recordAll_of_file hkeeping hfiles rs
  have hagain : openAt path files' = .ok (k.extended rs) := by
    by_cases hempty : rs = []
    · rw [hnone hempty, hempty, extended_nil]
      exact hopen
    · have hledger : ∀ r ∈ k.ledger ++ rs, r.IsShort := List.forall_mem_append.mpr ⟨hshort, hrs⟩
      rw [openAt_of_text (hsome hempty) (readLedger_fileText path hledger), extended, hkeeping]
  refine ⟨_, files', hall, rfl, _, hagain, rfl, fun more => ⟨rfl, ?_⟩⟩
  obtain ⟨files'', hmore, -, -, htext⟩ := recordAll_of_file (k := k.extended rs) hkeeping hcan more
  exact ⟨_, files'', hmore, htext⟩

/-- A file written by hand, with a level given by a text, a flag by a number and a time that is not whole. -/
def handWritten : Files where
  entries := [(["progress.json"],
    "[\x7b\"level\": \"07\", \"commandsUsed\": true, \"timeTaken\": 2.5, \"success\": 1, \"by\": null\x7d]")]

/-- What is read from the file written by hand. -/
def firstRecord : Record where
  level := 7
  commandsUsed := 1
  timeTaken := 2
  energized := false
  success := true

theorem hand_written_goes_on : ∃ k, openAt ["progress.json"] handWritten = .ok k ∧ k.ledger = [firstRecord] ∧
    ∃ kept files', k.recordAll handWritten [firstRecord] = (.ok (), kept, files') ∧
      ∃ again, openAt ["progress.json"] files' = .ok again ∧ again.ledger = [firstRecord, firstRecord] := by
  have hopen : openAt ["progress.json"] handWritten = .ok ⟨.file ["progress.json"], [firstRecord]⟩ := by
    decide +kernel
  have hcan : handWritten.CanWrite ["progress.json"] := ⟨rfl, rfl, rfl⟩
  have hshort : ∀ r ∈ [firstRecord], r.IsShort := by
    rintro r hr
    rw [List.mem_singleton.mp hr]
    exact ⟨short_of_digit (by decide), short_of_digit (by decide), short_of_digit (by decide)⟩
  obtain ⟨kept, files', hall, -, again, hagain, hledger, -⟩ := reopened_goes_on hopen hcan hshort
  exact ⟨_, hopen, rfl, kept, files', hall, again, hagain, hledger⟩

end Recorder
end GridWalk
