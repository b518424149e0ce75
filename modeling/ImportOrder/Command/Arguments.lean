import ImportOrder.Text.Digits
import ImportOrder.Text.Quoted

/-! The arguments of the command line. -/

namespace ImportOrder.Command

/-- The format of the report. -/
inductive Format
  | text
  | json
deriving DecidableEq, Repr

/-- What the arguments ask for. -/
structure Arguments where
  files : List String := []
  stdin : Bool := false
  filename : Option String := none
  config : Option String := none
  check : Bool := false
  format : Format := .text
deriving DecidableEq, Repr

/-- The options of the command. -/
inductive Flag
  | help
  | stdin
  | filename
  | config
  | check
  | format
  | version
deriving DecidableEq, Repr

/-- The spellings of the options, in the order they are told in. -/
def spellings : List (String × Flag) :=
  [("-h", .help), ("--help", .help), ("--stdin", .stdin), ("--filename", .filename),
    ("--config", .config), ("--check", .check), ("--format", .format), ("--version", .version)]

/-- The name of an option in messages. -/
def Flag.name (flag : Flag) : String :=
  "/".intercalate ((spellings.filter fun (_, known) => known == flag).map Prod.fst)

/-- Whether an option takes a value. -/
def Flag.takesValue : Flag → Bool
  | .filename => true
  | .config => true
  | .format => true
  | _ => false

/-- Why arguments are refused. -/
inductive Refusal
  | ambiguous (argument : String) (candidates : List String)
  | missingValue (flag : Flag)
  | unwantedValue (flag : Flag) (value : String)
  | badChoice (flag : Flag) (value : String) (choices : List String)
  | unrecognized (arguments : List String)
  | noInput
deriving DecidableEq, Repr

/-- The wording of a refusal. -/
def Refusal.message : Refusal → String
  | .ambiguous argument candidates =>
    s!"ambiguous option: {argument} could match " ++ ", ".intercalate candidates
  | .missingValue flag => s!"argument {flag.name}: expected one argument"
  | .unwantedValue flag value =>
    s!"argument {flag.name}: ignored explicit argument {quote value}"
  | .badChoice flag value choices =>
    s!"argument {flag.name}: invalid choice: {quote value} (choose from " ++
      ", ".intercalate (choices.map quote) ++ ")"
  | .unrecognized arguments => "unrecognized arguments: " ++ " ".intercalate arguments
  | .noInput => "Pass one or more files, or --stdin"

/-- What is written to an option: a value behind an equals sign, or letters right behind a short
one. -/
inductive Tail
  | equals (value : String)
  | letters (text : String)
deriving DecidableEq, Repr

/-- The text of a tail. -/
def Tail.text : Tail → String
  | .equals value => value
  | .letters text => text

/-- An argument by its looks: a value, the mark behind which everything is a value, an option with
what is written to it, or an option that is not known. -/
inductive Token
  | value (text : String)
  | separator
  | flag (flag : Flag) (tail : Option Tail)
  | unknown (text : String)
deriving DecidableEq, Repr

/-- A text cut at its first equals sign. -/
def cutAtEquals (text : String) : String × Option String :=
  let front := text.toList.takeWhile (· != '=')
  -- Without an equals sign there is nothing to cut, which is not the same as an empty value.
  match text.toList.drop front.length with
  | [] => (text, none)
  | _ :: rest => (String.ofList front, some (String.ofList rest))

/-- A decimal digit of any script. -/
def isDecimal (c : Char) : Bool := (decimalValue? c).isSome

/-- Whether an argument looks like a negative number; a line feed may follow it. -/
def isNegativeNumber (text : String) : Bool :=
  match text.toList with
  | '-' :: rest =>
    let rest := if rest.getLast? == some '\n' then rest.dropLast else rest
    let whole := rest.takeWhile isDecimal
    -- A point needs a digit behind it, but none in front.
    match rest.drop whole.length with
    | [] => !whole.isEmpty
    | '.' :: fraction => !fraction.isEmpty && fraction.all isDecimal
    | _ => false
  | _ => false

/-- The options that the start of a spelling may mean, each with what is written to it. -/
def candidates (text : String) : List (String × Flag × Option Tail) :=
  -- A long option may be cut short, and its value follows an equals sign.
  if Text.startsWith text.toList ['-', '-'] then
    let (start, value) := cutAtEquals text
    (spellings.filter fun (spelling, _) => Text.startsWith spelling.toList start.toList).map
      fun (spelling, flag) => (spelling, flag, value.map .equals)
  else
    -- A short option may have letters right behind it.
    let short := String.ofList (text.toList.take 2)
    spellings.filterMap fun (spelling, flag) =>
      if spelling == short then
        some (spelling, flag, some (.letters (String.ofList (text.toList.drop 2))))
      else if Text.startsWith spelling.toList text.toList then some (spelling, flag, none)
      else none

/-- What an argument is by its looks. -/
def classify (text : String) : Except Refusal Token :=
  if text.toList.head? != some '-' then .ok (.value text)
  else
    -- A full spelling is meant even where it starts a longer one.
    match spellings.lookup text with
    | some flag => .ok (.flag flag none)
    | none =>
      -- A dash alone is the name of a file.
      if text == "-" then .ok (.value text)
      else
        let (start, value) := cutAtEquals text
        match value, spellings.lookup start with
        | some value, some flag => .ok (.flag flag (some (.equals value)))
        | _, _ =>
          match candidates text with
          | [(_, flag, tail)] => .ok (.flag flag tail)
          | _ :: _ :: _ => .error (.ambiguous text ((candidates text).map Prod.fst))
          | [] =>
            -- No option looks like a number or has a space in it.
            if isNegativeNumber text || text.toList.contains ' ' then .ok (.value text)
            else .ok (.unknown text)

/-- The tokens of arguments; behind the separator all are values. -/
def tokens : List String → Except Refusal (List Token)
  | [] => .ok []
  | text :: rest =>
    -- Behind the mark nothing is an option any more.
    if text == "--" then .ok (.separator :: rest.map .value)
    else do
      let token ← classify text
      let others ← tokens rest
      return token :: others

/-- What reading arguments comes to when nothing is refused. -/
inductive Request
  | run (arguments : Arguments)
  | help
  | version
deriving DecidableEq, Repr

/-- The state of the reading: what was asked for so far, the values left over, and whether the files
have been taken. -/
structure Reading where
  arguments : Arguments := {}
  extras : List String := []
  filesTaken : Bool := false

/-- A reading goes on, or ends at once with a request. -/
inductive Step
  | next (reading : Reading) (rest : List Token)
  | stop (request : Request)

/-- The choices of the format. -/
def formats : List (String × Format) := [("text", .text), ("json", .json)]

/-- Give an option its value. -/
def assign (arguments : Arguments) (flag : Flag) (value : String) : Except Refusal Arguments :=
  match flag with
  | .filename => .ok { arguments with filename := some value }
  | .config => .ok { arguments with config := some value }
  | .format =>
    match formats.lookup value with
    | some format => .ok { arguments with format }
    | none => .error (.badChoice flag value (formats.map Prod.fst))
  | _ => .ok arguments

/-- Set an option without a value. -/
def turnOn (reading : Reading) (flag : Flag) (rest : List Token) : Step :=
  let arguments := reading.arguments
  match flag with
  | .help => .stop .help
  | .version => .stop .version
  | .stdin => .next { reading with arguments := { arguments with stdin := true } } rest
  | .check => .next { reading with arguments := { arguments with check := true } } rest
  | _ => .next reading rest

/-- The value that follows an option; a separator is none. -/
def followingValue : List Token → Option (String × List Token)
  | .value text :: rest => some (text, rest)
  | _ => none

/-- Short options may be written together. Letters behind the last one that is known are left alone,
unless they are written as a value. -/
def checkLetters (flag : Flag) : Text → Except Refusal Unit
  | [] => .ok ()
  | c :: rest =>
    if c == '-' then .error (.unwantedValue flag (String.ofList (c :: rest)))
    else if spellings.lookup (String.ofList ['-', c]) != some flag then .ok ()
    else if rest.head? == some '=' then .error (.unwantedValue flag (String.ofList (rest.drop 1)))
    else checkLetters flag rest

/-- Take an option. -/
def takeFlag (reading : Reading) (flag : Flag) (tail : Option Tail) (rest : List Token) :
    Except Refusal Step :=
  match flag.takesValue, tail with
  | true, some tail => do
    let arguments ← assign reading.arguments flag tail.text
    return .next { reading with arguments } rest
  | true, none =>
    -- What looks like an option is never a value.
    match followingValue rest with
    | none => .error (.missingValue flag)
    | some (value, rest) => do
      let arguments ← assign reading.arguments flag value
      return .next { reading with arguments } rest
  | false, none => .ok (turnOn reading flag rest)
  | false, some (.equals value) => .error (.unwantedValue flag value)
  -- The letters are checked before anything is set.
  | false, some (.letters text) => do
    checkLetters flag text.toList
    return turnOn reading flag rest

/-- The text of a token that is a value or the separator. -/
def Token.plain? : Token → Option String
  | .value text => some text
  | .separator => some "--"
  | _ => none

/-- The values in front, as long as no option comes between. -/
def leadingValues (tokens : List Token) : List String :=
  (tokens.takeWhile fun token => token.plain?.isSome).filterMap Token.plain?

/-- Take the values in front: the first ones are the files, later ones are left over. -/
def takeValues (reading : Reading) (tokens : List Token) : Reading × List Token :=
  -- The values are taken together, up to the next option.
  let values := leadingValues tokens
  let rest := tokens.drop values.length
  if reading.filesTaken then ({ reading with extras := reading.extras ++ values }, rest)
  else
    -- The first separator is dropped from the files, later ones are names.
    let files := values.erase "--"
    ({ reading with arguments := { reading.arguments with files }, filesTaken := true }, rest)

/-- Read tokens from left to right. -/
def readTokens : (fuel : Nat) → Reading → List Token → Except Refusal Request
  | 0, reading, _ => .ok (.run reading.arguments)
  | fuel + 1, reading, tokens =>
    match tokens with
    -- What was left over is told at the end, all of it at once.
    | [] =>
      if reading.extras.isEmpty then .ok (.run reading.arguments)
      else .error (.unrecognized reading.extras)
    | .unknown text :: rest =>
      readTokens fuel { reading with extras := reading.extras ++ [text] } rest
    | .flag flag tail :: rest => do
      match ← takeFlag reading flag tail rest with
      | .stop request => return request
      | .next reading rest => readTokens fuel reading rest
    | tokens =>
      let (reading, rest) := takeValues reading tokens
      readTokens fuel reading rest

/-- Read arguments; some files or the standard input have to be asked for. -/
def parseArguments (arguments : List String) : Except Refusal Request := do
  let tokens ← tokens arguments
  -- Each step takes a token at least, so there are rounds enough.
  match ← readTokens (tokens.length + 1) {} tokens with
  | .run parsed =>
    if !parsed.stdin && parsed.files.isEmpty then throw .noInput else return .run parsed
  | request => return request

/-- How the command is used. -/
def usage : String :=
  "usage: importsorter [-h] [--stdin] [--filename FILENAME] [--config CONFIG]\n" ++
  "                    [--check] [--format \x7btext,json\x7d] [--version]\n" ++
  "                    [files ...]\n"

/-- The help of the command. -/
def help : String :=
  usage ++ "\n" ++
  "Sort and group import statements in TypeScript and JavaScript files\n" ++ "\n" ++
  "positional arguments:\n" ++
  "  files                 Files to sort in place\n" ++ "\n" ++
  "options:\n" ++
  "  -h, --help            show this help message and exit\n" ++
  "  --stdin               Read source from stdin, write to stdout\n" ++
  "  --filename FILENAME   Path to assume for stdin input\n" ++
  "  --config CONFIG       Options file (default: nearest .importsorter.yaml)\n" ++
  "  --check               Report files that would change without writing them\n" ++
  "  --format \x7btext,json\x7d  Report format\n" ++
  "  --version             show program's version number and exit\n"

/-- The version of the command. -/
def version : String := "importsorter 0.1.0\n"

/-- The message about refused arguments. -/
def refusalText (refusal : Refusal) : String :=
  usage ++ s!"importsorter: error: {refusal.message}\n"

end ImportOrder.Command
