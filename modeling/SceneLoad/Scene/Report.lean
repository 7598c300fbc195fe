import SceneLoad.Scene.Load

/-!
# Reports as text

A report is printed as one summary line, one line a record and one line a skipped seed. Names are
quoted, so that no name breaks a line.
-/

namespace SceneLoad

namespace Record

/-- The line of a record. -/
def render (record : Record) : String :=
  "entity=" ++ record.persistentId ++ " runtime=" ++ record.runtimeId.render ++ " name=" ++
    Text.quoted record.name ++ " parent=" ++ record.parentPersistentId.getD "-" ++
    " components=[" ++ String.intercalate "," record.kinds ++ "]"

/-- The record as JSON, with the kinds of its components. -/
def toJson (record : Record) : Json :=
  .obj
    [("runtimeId", .num (.int record.runtimeId.value.toNat)),
      ("persistentId", .str record.persistentId),
      ("parentPersistentId", (record.parentPersistentId.map Json.str).getD .null),
      ("name", .str record.name),
      ("tags", .arr (record.tags.map Json.str)),
      ("components", .arr (record.kinds.map Json.str))]

end Record

namespace Report

/-- The first line of a report. -/
def summary (report : Report) : String :=
  "records=" ++ toString report.records.length ++ " prefabs=" ++
    toString report.registeredPrefabs.length ++ " instantiated_seeds=" ++
    toString report.instantiatedSeeds ++ " skipped_seeds=" ++ toString report.skippedSeeds.length

/-- The parts of a report, each meant for a line. -/
def lines (report : Report) : List String :=
  report.summary :: report.records.map Record.render ++
    report.skippedSeeds.map fun seed => "skipped_seed=" ++ seed

/-- The report for people. -/
def render (report : Report) : String := String.intercalate "\n" report.lines

/-- The report and the log as JSON. -/
def toJson (report : Report) (diagnostics : List Diagnostic) : Json :=
  .obj
    [("records", .arr (report.records.map Record.toJson)),
      ("registeredPrefabs", .arr (report.registeredPrefabs.map Json.str)),
      ("instantiatedSeeds", .num (.int report.instantiatedSeeds)),
      ("skippedSeeds", .arr (report.skippedSeeds.map Json.str)),
      ("diagnostics", .arr (diagnostics.map fun diagnostic => .str diagnostic.render))]

end Report

end SceneLoad
