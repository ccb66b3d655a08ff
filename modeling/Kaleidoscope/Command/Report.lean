import Kaleidoscope.Command.Arguments
import Kaleidoscope.Command.Source
import Kaleidoscope.Journal.Line

/-!
What the command reports: the tokens if asked for and one line for each node on the standard
output; journal lines and one line for each fault on the other output; and a status that is
zero only if nothing went wrong. The faults are counted on a last line.
-/

namespace Kaleidoscope.Command

open Journal (Filter)

structure Report where
  status : Nat
  output : String
  errors : String
  deriving DecidableEq

def lines (texts : List String) : String :=
  String.join (texts.map (· ++ "\n"))

/-- The name under which a source is read. -/
def Options.sourceName (options : Options) : String :=
  options.input.getD "stdin"

/-- A step on the error output: its note, then its fault. -/
def stepLines (filter : Filter) (stamp : String) (stage : Journal.Stage) (step : Step) :
    List String :=
  filter.lines stamp (Journal.ofStep stage step).toList ++
    match step with
    | .fault d _ => ["error: " ++ d.display]
    | _ => []

def tally (faults : Nat) : List String :=
  if faults = 0 then [] else ["Error: " ++ toString faults ++ " statement(s) failed to parse"]

/-- The report on a source that could be read. -/
def reportText (filter : Filter) (stamp : String) (tokens : Bool) (name : String)
    (text : List Char) : Report :=
  match Token.Stream.ofText name text with
  | .error d => ⟨1, "", lines ["Error: " ++ d.display]⟩
  | .ok s =>
    let r := s.run
    let shown := if tokens then ["Tokens: " ++ String.ofList (Token.render s.toList)] else []
    let tokenizing := (Journal.ofText name text).filterMap fun
      | .opened _ => none
      | .noted note => some note
    ⟨if r.faults.isEmpty then 0 else 1, lines (shown ++ r.nodes.map Node.display),
      lines (filter.lines stamp tokenizing ++
        r.steps.flatMap (stepLines filter stamp (Journal.running s.toList.length)) ++
        tally r.faults.length)⟩

def reportUnreadable (name : String) (fault : SourceFault) : Report :=
  ⟨1, "", lines ["Error: failed to read " ++ name, "", "Caused by:", "    " ++ fault.text]⟩

/-- The report on a source of bytes, or on the fault that hides them. -/
def reportSource (filter : Filter) (stamp : String) (options : Options)
    (source : Except SourceFault Contents) : Report :=
  match source with
  | .error fault => reportUnreadable options.sourceName fault
  | .ok bytes => reportText filter stamp options.tokens options.sourceName (Utf8.decode bytes)

/-- The report on arguments, given what each source would yield: the standard input or a file
by its name. -/
def report (filter : Filter) (stamp : String) (arguments : List String)
    (read : Option String → Except SourceFault Contents) : Report :=
  match Request.ofArguments arguments with
  | .error fault => ⟨1, "", fault.text⟩
  | .ok .help => ⟨0, helpText, ""⟩
  | .ok .version => ⟨0, versionText, ""⟩
  | .ok (.parse options) => reportSource filter stamp options (read options.input)

/-- The filter that the environment asks for: warnings, unless it holds another filter. -/
def filterOf (asked : Option String) : Filter :=
  (asked.bind Filter.ofText?).getD (.upTo (some .warn))

end Kaleidoscope.Command
