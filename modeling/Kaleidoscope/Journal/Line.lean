import Kaleidoscope.Journal.Filter
import Kaleidoscope.Text.Quoted

/-!
The lines of a journal: one for each note that a filter shows.
-/

namespace Kaleidoscope.Journal

/-- Names of sources come from outside and are quoted. -/
def Content.line : Content → String
  | count n => toString n
  | source name => Quoted.encode name
  | text t => t

def Detail.line (d : Detail) : String :=
  d.key ++ "=" ++ d.content.line

def detailLine (details : List Detail) : String :=
  " ".intercalate (details.map Detail.line)

/-- Notes name their stage only if its opening is shown. -/
def Stage.context (filter : Filter) (stage : Stage) : String :=
  if filter.opens stage then stage.name ++ "\x7b" ++ detailLine stage.details ++ "\x7d: " else ""

/-- A note as a line that starts with a time stamp, the level being right-aligned. -/
def Note.line (filter : Filter) (stamp : String) (note : Note) : String :=
  stamp ++ " " ++ String.ofList (note.level.name.toList.leftpad 5 ' ') ++ " " ++
    note.stage.context filter ++ note.stage.target ++ ": " ++ note.text ++ " " ++
    detailLine note.details

def Filter.lines (filter : Filter) (stamp : String) (notes : List Note) : List String :=
  (notes.filter filter.shows).map (·.line filter stamp)

end Kaleidoscope.Journal
