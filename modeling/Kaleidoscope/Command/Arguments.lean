import Kaleidoscope.Text.Similarity

/-!
The arguments of the command: at most one source file, and flags in any order, short ones also
joined. Help and version answer as soon as they are met; a repeated flag is a fault only once
all arguments are read. For a long flag that is unknown, the known one most like it is
suggested.
-/

namespace Kaleidoscope.Command

inductive Flag where
  | tokens
  | help
  | version
  deriving DecidableEq

namespace Flag

def all : List Flag :=
  [tokens, help, version]

def name : Flag → List Char
  | tokens => "tokens".toList
  | help => "help".toList
  | version => "version".toList

def ofLong? (name : List Char) : Option Flag :=
  all.find? (·.name = name)

/-- The flag that a long flag of an unknown name may have been meant for. -/
def suggested? (name : List Char) : Option Flag :=
  Similarity.closest? Flag.name name all

def ofShort? (c : Char) : Option Flag :=
  if c = 't' then some tokens
  else if c = 'h' then some help
  else if c = 'V' then some version
  else none

end Flag

structure Options where
  /-- Whether to show the tokens before the nodes. -/
  tokens : Bool
  /-- The source file, or nothing for the standard input. -/
  input : Option String
  deriving DecidableEq

inductive Request where
  | help
  | version
  | parse (options : Options)
  deriving DecidableEq

inductive ArgumentFault where
  /-- An unknown flag or a second file, whether the flag for tokens came before it, and the
  flag that is suggested instead. -/
  | unexpected (argument : String) (tokensSeen : Bool) (suggestion : Option Flag)
  | repeatedTokens
  deriving DecidableEq

/-- A flag as it is spelled, with its meaning if it has one and else what is suggested. -/
structure Spelling where
  text : List Char
  flag : Option Flag
  suggestion : Option Flag

def isDash (c : Char) : Bool :=
  c = '-'

/-- The flags that an argument spells, if it is no file name. What follows the sign `=` of a
long flag is ignored. -/
def spellings? (argument : List Char) : Option (List Spelling) :=
  match argument with
  | '-' :: '-' :: rest =>
    let name := (rest.dropWhile isDash).takeWhile (· ≠ '=')
    some [⟨'-' :: '-' :: name, Flag.ofLong? name, Flag.suggested? name⟩]
  | '-' :: c :: rest => some ((c :: rest).map fun c => ⟨['-', c], Flag.ofShort? c, none⟩)
  | _ => none

/-- What has been read so far. -/
structure Progress where
  tokens : Nat
  input : Option String

/-- Take the flags of one argument, up to one that answers at once. -/
def Progress.flags (p : Progress) : List Spelling → Except ArgumentFault (Progress ⊕ Request)
  | [] => .ok (.inl p)
  | s :: rest =>
    match s.flag with
    | some .tokens => Progress.flags { p with tokens := p.tokens + 1 } rest
    | some .help => .ok (.inr .help)
    | some .version => .ok (.inr .version)
    | none => .error (.unexpected (String.ofList s.text) (p.tokens != 0) s.suggestion)

def Progress.file (p : Progress) (argument : String) : Except ArgumentFault Progress :=
  match p.input with
  | none => .ok { p with input := some argument }
  | some _ => .error (.unexpected argument (p.tokens != 0) none)

def Progress.finish (p : Progress) : Except ArgumentFault Request :=
  if 1 < p.tokens then .error .repeatedTokens else .ok (.parse ⟨p.tokens = 1, p.input⟩)

/-- Arguments behind the separator `--` are files, whatever they look like. -/
def Progress.files (p : Progress) : List String → Except ArgumentFault Request
  | [] => p.finish
  | argument :: rest =>
    match p.file argument with
    | .error fault => .error fault
    | .ok p' => p'.files rest

def Progress.arguments (p : Progress) : List String → Except ArgumentFault Request
  | [] => p.finish
  | argument :: rest =>
    if argument = "--" then p.files rest
    else
      match spellings? argument.toList with
      | none =>
        match p.file argument with
        | .error fault => .error fault
        | .ok p' => p'.arguments rest
      | some spellings =>
        match p.flags spellings with
        | .error fault => .error fault
        | .ok (.inr request) => .ok request
        | .ok (.inl p') => p'.arguments rest

/-- What the arguments ask for. -/
def Request.ofArguments (arguments : List String) : Except ArgumentFault Request :=
  Progress.arguments ⟨0, none⟩ arguments

/-! ### Texts -/

def Flag.text (flag : Flag) : String :=
  "--" ++ String.ofList flag.name

/-- How the command is used: with the flags that matter, or in general if there are none. -/
def usage (flags : List Flag) : String :=
  "USAGE:\n    kaleidoscope " ++
    if flags.isEmpty then "[FLAGS] [INPUT]" else " ".intercalate (flags.map Flag.text)

/-- A suggestion names its flag in green. -/
def suggestionText : Option Flag → String
  | none => ""
  | some flag =>
    "\n\tDid you mean \x1b[32m--\x1b[0m\x1b[32m" ++ String.ofList flag.name ++ "\x1b[0m?"

/-- What is said about arguments that ask for nothing. -/
def ArgumentFault.text : ArgumentFault → String
  | unexpected argument tokensSeen suggestion =>
    let used (flag : Flag) : Bool := (flag = .tokens && tokensSeen) || suggestion = some flag
    "error: Found argument '" ++ argument ++
      "' which wasn't expected, or isn't valid in this context" ++ suggestionText suggestion ++
      "\n\n" ++ usage ([.help, .tokens, .version].filter used) ++
      "\n\nFor more information try --help\n"
  | repeatedTokens =>
    "error: The argument '--tokens' was provided more than once, but cannot be used multiple " ++
      "times\n\n" ++ usage [.tokens] ++ "\n\nFor more information try --help\n"

def versionText : String :=
  "kaleidoscope 0.1.0\n"

def helpText : String :=
  versionText ++
    "parses kaleidoscope source and prints its syntax tree\n\n" ++
    usage [] ++ "\n\n" ++
    "FLAGS:\n" ++
    "    -h, --help       Prints help information\n" ++
    "    -t, --tokens     print the token stream before parsing\n" ++
    "    -V, --version    Prints version information\n\n" ++
    "ARGS:\n" ++
    "    <INPUT>    source file to parse, standard input when omitted\n"

end Kaleidoscope.Command
