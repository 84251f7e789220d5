import ProjectLint.Report.Basic
import ProjectLint.Text.JsonString

/-!
# Reports as JSON

The document that an editor reads: one object whose list holds an object for every problem, in
order. Each level is indented by two spaces.

## Main definitions

* `Problem.jsonLines`: the lines of a problem's object.
* `Report.json`: the document of a report.
-/

namespace ProjectLint

open Text

/-- The lines of a problem's object, without a line break after the last one. -/
def Problem.jsonLines (p : Problem) : List String :=
  ["    \x7b",
   "      \"type\": " ++ jsonString p.type ++ ",",
   "      \"message\": " ++ jsonString p.message ++ ",",
   "      \"pos\": \x7b",
   "        \"line\": " ++ toString p.position.line ++ ",",
   "        \"ch\": " ++ toString p.position.ch,
   "      \x7d",
   "    \x7d"]

/-- The object of a problem. -/
def Problem.json (p : Problem) : String := "\n".intercalate p.jsonLines

/-- The document of problems. -/
def problemsJson (ps : List Problem) : String :=
  if ps = [] then "\x7b\n  \"errors\": []\n\x7d"
  else "\x7b\n  \"errors\": [\n" ++ ",\n".intercalate (ps.map Problem.json) ++ "\n  ]\n\x7d"

/-- The document of a report. -/
def Report.json (r : Report) : String := problemsJson r.problems

/-- The document of a report without a finding. -/
@[simp] theorem Report.json_empty : Report.empty.json = "\x7b\n  \"errors\": []\n\x7d" := rfl

end ProjectLint
