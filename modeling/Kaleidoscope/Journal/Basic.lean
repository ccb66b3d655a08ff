import Kaleidoscope.Program

/-!
The journal of a reading: a record when a stage opens and one for each thing that it did. The
journal of a run follows its steps, one note for each statement and each fault.
-/

namespace Kaleidoscope.Journal

inductive Level where
  | error
  | warn
  | info
  | debug
  | trace
  deriving DecidableEq

namespace Level

/-- The more a level tells, the higher it ranks. -/
def rank : Level → Nat
  | error => 0
  | warn => 1
  | info => 2
  | debug => 3
  | trace => 4

def name : Level → String
  | error => "ERROR"
  | warn => "WARN"
  | info => "INFO"
  | debug => "DEBUG"
  | trace => "TRACE"

end Level

/-- What a record tells besides its text: how many there are of something, the name of a
source, or a text. -/
inductive Content where
  | count (n : Nat)
  | source (name : String)
  | text (t : String)
  deriving DecidableEq

def Content.display : Content → String
  | count n => toString n
  | source name => name
  | text t => t

structure Detail where
  key : String
  content : Content
  deriving DecidableEq

def Detail.position (location : Location) : Detail :=
  ⟨"position", .text location.display⟩

/-- A stage of the work, and the part of the program it belongs to. -/
structure Stage where
  name : String
  target : String
  details : List Detail
  deriving DecidableEq

/-- Something that a stage did. -/
structure Note where
  stage : Stage
  level : Level
  text : String
  details : List Detail
  deriving DecidableEq

inductive Record where
  | opened (stage : Stage)
  | noted (note : Note)
  deriving DecidableEq

/-! ### The stages -/

def tokenizing (name : String) (text : List Char) : Stage :=
  ⟨"tokenize", "kaleidoscope::lexer",
    [⟨"source_name", .source name⟩, ⟨"source_len", .count (Utf8.size text)⟩]⟩

def running (tokenCount : Nat) : Stage :=
  ⟨"run", "kaleidoscope::driver", [⟨"token_count", .count tokenCount⟩]⟩

/-- What tokenizing a text records. A text that has no tokens leaves only the opening. -/
def ofText (name : String) (text : List Char) : List Record :=
  .opened (tokenizing name text) ::
    match Token.Stream.ofText name text with
    | .error _ => []
    | .ok s => [.noted ⟨tokenizing name text, .trace, "tokenized",
        [⟨"token_count", .count s.toList.length⟩]⟩]

/-- The note on a statement: its kind, its name if it has one, and where it is. -/
def ofStatement (stage : Stage) : Statement → Note
  | .definition f => ⟨stage, .debug, "parsed definition",
      [⟨"name", .text f.prototype.name⟩, .position f.location]⟩
  | .external p => ⟨stage, .debug, "parsed extern",
      [⟨"name", .text p.name⟩, .position p.location]⟩
  | .expression f => ⟨stage, .debug, "parsed top-level expression", [.position f.location]⟩

def ofStep (stage : Stage) : Step → Option Note
  | .separator => none
  | .statement s => some (ofStatement stage s)
  | .fault d skipped => some ⟨stage, .warn, d.text ++ ", skipping to next statement",
      [.position d.location, ⟨"skipped", .count skipped⟩]⟩

/-- What running a stream of tokens records. -/
def ofStream (s : Token.Stream) : List Record :=
  let stage := running s.toList.length
  .opened stage :: (s.run.steps.filterMap (ofStep stage)).map .noted

end Kaleidoscope.Journal
