/-
Reading the arguments of the program.

Options may stand on either side of what they belong to, short ones may be joined together, and a
value may be joined to its option.  After `--` nothing is an option.
-/
namespace FileTriage

/-- The name and the version of the program. -/
def versionText : String := "triageset 1.0.0"

/-- The options of a scan. -/
structure ScanOptions where
  paths : List String := []
  selections : List String := []
  filter : Option String := none
  workers : Option Nat := none
  json : Bool := false
  quiet : Bool := false
deriving DecidableEq, Repr

/-- What the program is asked to do. -/
inductive Command where
  | scan (options : ScanOptions)
  | listSets (json : Bool)
  | reconcileSets
  | listFilters (json : Bool)
deriving DecidableEq, Repr

/-- A command, and the path of the configuration if one is named. -/
structure Invocation where
  configuration : Option String
  command : Command
deriving DecidableEq, Repr

/-- What arguments say. -/
inductive Arguments where
  | invocation (i : Invocation)
  /-- The version of the program is asked for. -/
  | version
  /-- The arguments make no sense. -/
  | misused
deriving DecidableEq, Repr

namespace Arguments

/-! ## Options -/

/-- The options that exist. -/
inductive Opt where
  | configuration
  | set
  | filter
  | threads
  | json
  | quiet
  | version
deriving DecidableEq, Repr

namespace Opt

/-- The letter of an option. -/
def letter : Opt → Char
  | configuration => 'c'
  | set => 's'
  | filter => 'f'
  | threads => 't'
  | json => 'j'
  | quiet => 'q'
  | version => 'V'

/-- The long name of an option. -/
def name : Opt → String
  | configuration => "config"
  | set => "set"
  | filter => "filter"
  | threads => "threads"
  | json => "json"
  | quiet => "quiet"
  | version => "version"

/-- Whether the option has a value. -/
def hasValue : Opt → Bool
  | json | quiet | version => false
  | _ => true

end Opt

/-- The parts of the command line: the program, and the commands below it. -/
inductive Level where
  | top
  | sets
  | filters
  | scan
  | listSets
  | reconcileSets
  | listFilters
deriving DecidableEq, Repr

namespace Level

/-- The options of a level. -/
def options : Level → List Opt
  | top => [.configuration, .version]
  | scan => [.configuration, .set, .filter, .threads, .json, .quiet]
  | listSets | listFilters => [.configuration, .json]
  | _ => [.configuration]

/-- The levels below a level, under their names. -/
def below : Level → List (String × Level)
  | top => [("scan", scan), ("sets", sets), ("filters", filters)]
  | sets => [("list", listSets), ("reconcile", reconcileSets)]
  | filters => [("list", listFilters)]
  | _ => []

end Level

/-! ## Reading -/

/-- What has been read so far. -/
structure State where
  level : Level := .top
  /-- Whether options may still come. -/
  optionsOver : Bool := false
  /-- The options that have been given at this level and may be given only once. -/
  given : List Opt := []
  configuration : Option String := none
  scan : ScanOptions := {}

/-- The value of decimal digits, which may have a plus sign before them. -/
def readNumber (text : String) : Option Nat :=
  let digits := match text.toList with
    | '+' :: rest => rest
    | cs => cs
  if digits.isEmpty || !digits.all Char.isDigit then none
  else
    let n := digits.foldl (fun n c => n * 10 + (c.toNat - '0'.toNat)) 0
    if n < UInt64.size then some n else none

/-- Takes an option; nothing where it is given twice, or where its value makes no sense. -/
def State.take (s : State) (o : Opt) (value : String) : Option State :=
  if s.given.contains o then none
  else
    let once : State := { s with given := o :: s.given }
    match o with
    | .configuration => if value.isEmpty then none else some { once with configuration := some value }
    | .set => some { s with scan.selections := s.scan.selections ++ [value] }
    | .filter => some { once with scan.filter := some value }
    | .threads => (readNumber value).map fun n => { once with scan.workers := some n }
    | .json => some { once with scan.json := true }
    | .quiet => some { once with scan.quiet := true }
    | .version => none

/-- Takes what is neither an option nor the value of one. -/
def State.takeWord (s : State) (word : String) : Option State :=
  if s.level = .scan then
    if word.isEmpty then none else some { s with scan.paths := s.scan.paths ++ [word] }
  else if s.optionsOver then none
  else (s.level.below.lookup word).map fun level => { s with level, given := [] }

/-- What reading one argument comes to: a new state, a state in which an option waits for its
value, or the end of reading. -/
inductive Outcome where
  | go (s : State)
  | awaiting (o : Opt) (s : State)
  | stop (a : Arguments)

/-- A state, or misuse where there is none. -/
def Outcome.ofState : Option State → Outcome
  | some s => .go s
  | none => .stop .misused

/-- Reads a long option, after its hyphens. -/
def State.readLong (s : State) (text : String) : Outcome :=
  let name := String.ofList (text.toList.takeWhile (· ≠ '='))
  let value := match text.toList.dropWhile (· ≠ '=') with
    | _ :: rest => some (String.ofList rest)
    | [] => none
  match s.level.options.find? fun o => o.name = name with
  | none => .stop .misused
  | some .version => .stop (if value.isNone then .version else .misused)
  | some o =>
    match o.hasValue, value with
    | true, some value => .ofState (s.take o value)
    | true, none => .awaiting o s
    | false, none => .ofState (s.take o "")
    | false, some _ => .stop .misused

/-- Reads joined short options, after their hyphen. -/
def State.readShort (s : State) : List Char → Outcome
  | [] => .go s
  | c :: rest =>
    match s.level.options.find? fun o => o.letter = c with
    | none => .stop .misused
    | some .version => .stop .version
    | some o =>
      if o.hasValue then
        match rest with
        | [] => .awaiting o s
        | '=' :: value => .ofState (s.take o (String.ofList value))
        | value => .ofState (s.take o (String.ofList value))
      else
        match s.take o "" with
        | some s => s.readShort rest
        | none => .stop .misused

/-- Reads one argument. -/
def State.read (s : State) (argument : String) : Outcome :=
  if s.optionsOver then .ofState (s.takeWord argument)
  else
    match argument.toList with
    | ['-', '-'] => .go { s with optionsOver := true }
    | '-' :: '-' :: rest => s.readLong (String.ofList rest)
    | '-' :: c :: rest => s.readShort (c :: rest)
    | _ => .ofState (s.takeWord argument)

/-- The command of a level that has none below it. -/
def State.command? (s : State) : Option Command :=
  match s.level with
  | .scan => some (.scan s.scan)
  | .listSets => some (.listSets s.scan.json)
  | .reconcileSets => some .reconcileSets
  | .listFilters => some (.listFilters s.scan.json)
  | _ => none

/-- Whether an argument can be the value of an option. -/
def canBeValue (argument : String) : Bool := argument = "-" || !argument.startsWith "-"

/-- Reads arguments from a state on; `waiting` is an option that waits for its value. -/
def readFrom (s : State) (waiting : Option Opt) : List String → Arguments
  | [] =>
    match waiting, s.command? with
    | none, some command => .invocation ⟨s.configuration, command⟩
    | _, _ => .misused
  | argument :: rest =>
    match waiting with
    | some o =>
      if canBeValue argument then
        match s.take o argument with
        | some s => readFrom s none rest
        | none => .misused
      else .misused
    | none =>
      match s.read argument with
      | .go s => readFrom s none rest
      | .awaiting o s => readFrom s (some o) rest
      | .stop a => a

/-- What the arguments of the program say. -/
def ofList (arguments : List String) : Arguments := readFrom {} none arguments

end Arguments

end FileTriage
