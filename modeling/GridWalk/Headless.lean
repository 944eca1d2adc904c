import GridWalk.Script

/-! # Single submissions

Without a window a level can be shown, or a single command text submitted to it. -/

namespace GridWalk

namespace Headless

/-- Shows a level and, if a command text is given, submits it once. -/
def execute (name : String) (text : Option (Option String)) (seeding : Seeding) (desk : Desk) :
    Except Script.Error Bool × Desk :=
  match Script.load name seeding with
  | .error error => (.error error, desk)
  | .ok (visit, notes) =>
    let desk := ((desk.noteAll notes).print visit.level.title).print (Picture.text visit.level none)
    match text with
    | none => (.ok true, desk)
    | some text =>
      match Visit.submit Desk.surroundings 0 text none (visit, desk) with
      | (.error error, _, desk) => (.error (.visit error), desk)
      | (.ok report, _, desk) =>
        match report.valid, report.outcome, report.walk with
        | true, some outcome, some walk =>
          let desk := (desk.print s!"outcome: {outcome.text}").print report.message
          (.ok report.success, desk.print (Picture.text visit.level (some walk.position)))
        | _, _, _ => (.ok false, desk.print s!"rejected: {report.message}")

end Headless
end GridWalk
