import Scaffold.Text.Numeral
import Scaffold.Text.Quoted

/-!
# Options

`Options.parse` reads the arguments of a command line. An option may be spelled in short or in full,
a full spelling also by its start as long as no other option starts so; its value is the next
argument, or what follows an equals sign, or what follows a short spelling directly. Short options
without a value may share one dash. Everything behind a double dash is an argument, and arguments
are refused.

First every argument is classified, so that an ambiguous spelling is reported before anything else;
then the options take effect from the left, and the first fault ends the reading.
-/

namespace Scaffold.CommandLine

/-- The options of the command line. -/
inductive Flag where
  | help
  | version
  | schema
  | output
  | config
  | validateOnly
  | dryRun
  | frontendOnly
  | backendOnly
  | frontendRoot
  | backendRoot
  | adminRole
  | tokenKey
  | workers
  | noOverwrite
  | failOnWarnings
  | verbose
  | quiet
deriving Repr, DecidableEq

namespace Flag

/-- All options, in the order in which they are listed. -/
def all : List Flag :=
  [help, version, schema, output, config, validateOnly, dryRun, frontendOnly, backendOnly,
    frontendRoot, backendRoot, adminRole, tokenKey, workers, noOverwrite, failOnWarnings, verbose,
    quiet]

/-- The spellings of an option, a short one first. -/
def spellings : Flag → List String
  | help => ["-h", "--help"]
  | version => ["--version"]
  | schema => ["-s", "--schema"]
  | output => ["-o", "--output"]
  | config => ["--config"]
  | validateOnly => ["--validate-only"]
  | dryRun => ["--dry-run"]
  | frontendOnly => ["--frontend-only"]
  | backendOnly => ["--backend-only"]
  | frontendRoot => ["--frontend-root"]
  | backendRoot => ["--backend-root"]
  | adminRole => ["--admin-role"]
  | tokenKey => ["--token-key"]
  | workers => ["--workers"]
  | noOverwrite => ["--no-overwrite"]
  | failOnWarnings => ["--fail-on-warnings"]
  | verbose => ["-v", "--verbose"]
  | quiet => ["-q", "--quiet"]

/-- The word for the value of an option, if it takes one. -/
def valueWord? : Flag → Option String
  | schema => some "PATH"
  | output => some "DIR"
  | config => some "PATH"
  | frontendRoot => some "DIR"
  | backendRoot => some "DIR"
  | adminRole => some "ROLE"
  | tokenKey => some "KEY"
  | workers => some "N"
  | _ => none

def takesValue (f : Flag) : Bool := f.valueWord?.isSome

def label (f : Flag) : String := "/".intercalate f.spellings

def table : List (String × Flag) :=
  all.flatMap fun f => f.spellings.map fun s => (s, f)

def ofSpelling? (s : String) : Option Flag :=
  (table.find? (·.1 == s)).map (·.2)

/-- The option that must not stand beside an option. -/
def excluded? : Flag → Option Flag
  | frontendOnly => some backendOnly
  | backendOnly => some frontendOnly
  | _ => none

end Flag

/-- Why arguments are refused. -/
inductive UsageError where
  | ambiguous (given : String) (candidates : List String)
  | conflict (flag other : Flag)
  | badInteger (flag : Flag) (value : String)
  | expectedValue (flag : Flag)
  | ignoredValue (flag : Flag) (value : String)
  | missing (flag : Flag)
  | unrecognized (arguments : List String)
deriving Repr, DecidableEq

def UsageError.message : UsageError → String
  | ambiguous given candidates =>
    "ambiguous option: " ++ given ++ " could match " ++ ", ".intercalate candidates
  | conflict flag other =>
    "argument " ++ flag.label ++ ": not allowed with argument " ++ other.label
  | badInteger flag value =>
    "argument " ++ flag.label ++ ": invalid int value: " ++ Text.quoted value
  | expectedValue flag => "argument " ++ flag.label ++ ": expected one argument"
  | ignoredValue flag value =>
    "argument " ++ flag.label ++ ": ignored explicit argument " ++ Text.quoted value
  | missing flag => "the following arguments are required: " ++ flag.label
  | unrecognized arguments => "unrecognized arguments: " ++ " ".intercalate arguments

/-! ### Classifying arguments -/

/-- What an argument is. -/
inductive Word where
  | plain
  /-- A double dash. -/
  | terminator
  /-- An option, perhaps with a value in the same argument. -/
  | option (flag : Flag) (isShort : Bool) (attached : Option String)
  /-- It looks like an option, but is none. -/
  | unknown
deriving Repr, DecidableEq

/-- Whether a text is a number with a minus sign; a line end behind it does not count. -/
def isNegativeNumber (cs : List Char) : Bool :=
  let isDecimal (c : Char) : Bool := (Text.decimalValue? c).isSome
  let isDigits (ds : List Char) : Bool := !ds.isEmpty && ds.all isDecimal
  let body := match cs.reverse with
    | '\n' :: rest => rest.reverse
    | _ => cs
  match body with
  | '-' :: number =>
    isDigits number || (match number.dropWhile isDecimal with
      | '.' :: fraction => isDigits fraction
      | _ => false)
  | _ => false

/-- The part of an argument in front of its first equals sign, and what follows that sign. -/
def splitEquals (s : String) : String × Option String :=
  let cs := s.toList
  let before := cs.takeWhile (· != '=')
  match cs.drop before.length with
  | _ :: after => (String.ofList before, some (String.ofList after))
  | [] => (s, none)

/-- The options whose full spelling starts like an argument, or whose short spelling does the
argument start with. -/
def candidates (s : String) : List (String × Word) :=
  let (before, attached) := splitEquals s
  if s.startsWith "--" then
    (Flag.table.filter fun e => e.1.startsWith before).map fun e =>
      (e.1, .option e.2 false attached)
  else
    let short := String.ofList (s.toList.take 2)
    let value := String.ofList (s.toList.drop 2)
    (Flag.table.filter fun e => e.1 == short).map fun e =>
      (e.1, .option e.2 true (some value))

/-- Classifies an argument that starts with a dash and is more than a dash, but no spelling. -/
def classifyDashed (s : String) : Except UsageError Word :=
  let (before, attached) := splitEquals s
  match attached, Flag.ofSpelling? before with
  | some a, some flag => .ok (.option flag (!before.startsWith "--") (some a))
  | _, _ =>
    match candidates s with
    -- what could be a number or a phrase is no option
    | [] => .ok (if isNegativeNumber s.toList || s.contains ' ' then .plain else .unknown)
    | [c] => .ok c.2
    | cs => .error (.ambiguous s (cs.map (·.1)))

def classify (s : String) : Except UsageError Word :=
  if !s.startsWith "-" then .ok .plain
  else match Flag.ofSpelling? s with
    | some flag => .ok (.option flag (!s.startsWith "--") none)
    | none => if s = "-" then .ok .plain else classifyDashed s

def classifyAll : List String → Except UsageError (List (String × Word))
  | [] => .ok []
  | s :: rest =>
    if s = "--" then .ok ((s, .terminator) :: rest.map fun r => (r, .plain))
    else do
      let word ← classify s
      return (s, word) :: (← classifyAll rest)

/-! ### Short options that share a dash -/

/-- Options that share a dash: those without a value, and the last one. -/
structure Cluster where
  flags : List Flag
  last : Flag
  /-- The value of the last option, as far as it is attached. -/
  value : Option String

/-- Takes an option apart from what is attached to it. An option without a value is followed by
further short options, also behind an equals sign. -/
def cluster (flag : Flag) (isShort : Bool) : List Char → Except UsageError Cluster
  | [] =>
    if flag.takesValue then .ok ⟨[], flag, some ""⟩ else .error (.ignoredValue flag "")
  | c :: rest =>
    let value := String.ofList (c :: rest)
    if flag.takesValue then .ok ⟨[], flag, some value⟩
    else if !isShort then .error (.ignoredValue flag value)
    else match Flag.ofSpelling? (String.ofList ['-', c]), rest with
      | none, _ => .error (.ignoredValue flag value)
      | some next, [] => .ok ⟨[flag], next, none⟩
      | some next, more => (cluster next true more).map fun k => { k with flags := flag :: k.flags }

/-! ### Options -/

/-- What the options of a command line ask for. -/
structure Options where
  schemas : List String := []
  output : Option String := none
  config : Option String := none
  validateOnly : Bool := false
  dryRun : Bool := false
  frontendOnly : Bool := false
  backendOnly : Bool := false
  frontendRoot : Option String := none
  backendRoot : Option String := none
  adminRole : Option String := none
  tokenKey : Option String := none
  workers : Option Int := none
  noOverwrite : Bool := false
  failOnWarnings : Bool := false
  verbosity : Nat := 0
  quiet : Bool := false
deriving Repr, DecidableEq, Inhabited

/-- Why the reading of arguments ends without options. -/
inductive Stop where
  | usage (error : UsageError)
  | help
  | version
deriving Repr, DecidableEq

/-- The state of the reading: the options so far, those that were seen, and the arguments that are
refused at the end. -/
structure Reading where
  options : Options := {}
  seen : List Flag := []
  extras : List String := []

namespace Options

/-- The effect of an option without a value. -/
def switchOn (o : Options) : Flag → Options
  | .validateOnly => { o with validateOnly := true }
  | .dryRun => { o with dryRun := true }
  | .frontendOnly => { o with frontendOnly := true }
  | .backendOnly => { o with backendOnly := true }
  | .noOverwrite => { o with noOverwrite := true }
  | .failOnWarnings => { o with failOnWarnings := true }
  | .verbose => { o with verbosity := o.verbosity + 1 }
  | .quiet => { o with quiet := true }
  | _ => o

def setValue (o : Options) (flag : Flag) (value : String) : Except UsageError Options :=
  match flag with
  | .schema => .ok { o with schemas := o.schemas ++ [value] }
  | .output => .ok { o with output := some value }
  | .config => .ok { o with config := some value }
  | .frontendRoot => .ok { o with frontendRoot := some value }
  | .backendRoot => .ok { o with backendRoot := some value }
  | .adminRole => .ok { o with adminRole := some value }
  | .tokenKey => .ok { o with tokenKey := some value }
  | .workers =>
    match Text.integer? value with
    | some n => .ok { o with workers := some n }
    | none => .error (.badInteger flag value)
  | _ => .ok o

end Options

namespace Reading

/-- Sees an option without a value. -/
def switchOn (r : Reading) (flag : Flag) : Except Stop Reading :=
  match flag with
  | .help => .error .help
  | .version => .error .version
  | flag =>
    match flag.excluded?.filter r.seen.contains with
    | some other => .error (.usage (.conflict flag other))
    | none => .ok { r with options := r.options.switchOn flag, seen := flag :: r.seen }

/-- Sees several options without a value, one after another. -/
def switchAllOn (r : Reading) (flags : List Flag) : Except Stop Reading :=
  flags.foldlM switchOn r

def setValue (r : Reading) (flag : Flag) (value : String) : Except Stop Reading :=
  match r.options.setValue flag value with
  | .ok o => .ok { r with options := o, seen := flag :: r.seen }
  | .error e => .error (.usage e)

/-- Keeps an argument that is refused at the end. -/
def refuse (r : Reading) (argument : String) : Reading :=
  { r with extras := r.extras ++ [argument] }

def clusterOf (flag : Flag) (isShort : Bool) : Option String → Except Stop Cluster
  | none => .ok ⟨[], flag, none⟩
  | some value => (cluster flag isShort value.toList).mapError .usage

/-- Sees one argument after another. -/
def run (r : Reading) : List (String × Word) → Except Stop Reading
  | [] => .ok r
  | (_, .option flag isShort attached) :: rest =>
    match clusterOf flag isShort attached with
    | .error e => .error e
    | .ok k =>
      match k.value with
      | some value =>
        match (r.switchAllOn k.flags).bind (·.setValue k.last value) with
        | .error e => .error e
        | .ok r => run r rest
      | none =>
        -- the value is the next argument, unless that looks like an option
        if k.last.takesValue then
          match rest with
          | (value, .plain) :: rest =>
            match (r.switchAllOn k.flags).bind (·.setValue k.last value) with
            | .error e => .error e
            | .ok r => run r rest
          | _ => .error (.usage (.expectedValue k.last))
        else
          match r.switchAllOn (k.flags ++ [k.last]) with
          | .error e => .error e
          | .ok r => run r rest
  | (s, _) :: rest => run (r.refuse s) rest

/-- The options, if nothing is missing and nothing is left over. -/
def options? (r : Reading) : Except Stop Options :=
  -- what is missing is reported before what is left over
  if r.options.schemas.isEmpty then .error (.usage (.missing .schema))
  else if r.extras.isEmpty then .ok r.options
  else .error (.usage (.unrecognized r.extras))

end Reading

def Options.parse (arguments : List String) : Except Stop Options :=
  match classifyAll arguments with
  | .error e => .error (.usage e)
  | .ok words => (Reading.run {} words).bind Reading.options?

end Scaffold.CommandLine
