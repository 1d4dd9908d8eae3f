import SuiteLint.Path.Basic
import SuiteLint.Report.Output

/-!
# Command-line arguments

The commands and their options.  An option may be written long or short, with its value in the same
argument or in the next one, and short options without a value may share an argument.  What is not
understood is refused as a whole; but an option that asks for information ends the reading, so that
what follows it does not count.
-/

namespace SuiteLint.Cli

/-! ### Invocations -/

/-- What a check is asked to do. -/
structure CheckRequest where
  /-- What to check. -/
  target : Path := ⟨"."⟩
  /-- How to print the result. -/
  format : OutputFormat := .text
  /-- The rules asked for, as written. -/
  rules : Option String := none
  /-- Patterns of paths to leave out. -/
  exclude : List String := []
  deriving DecidableEq, Repr

/-- **Command** of the program. -/
inductive Command where
  /-- Checks files. -/
  | check (request : CheckRequest)
  /-- Lists the rules. -/
  | listRules
  deriving DecidableEq, Repr

/-- **Invocation** of the program: a command, and what holds for every command. -/
structure Invocation where
  /-- The configuration file asked for. -/
  config : Option Path
  /-- Whether to log more. -/
  verbose : Bool
  /-- The command. -/
  command : Command
  deriving DecidableEq, Repr

/-- What help can be about. -/
inductive Topic where
  /-- The program as a whole. -/
  | program
  /-- The command that checks files. -/
  | check
  /-- The command that lists the rules. -/
  | listRules
  deriving DecidableEq, Repr

/-- **Demand** on the program: a run, or information about it. -/
inductive Demand where
  /-- Do what an invocation says. -/
  | run (invocation : Invocation)
  /-- Tell the version. -/
  | version
  /-- Tell how to call the program, in full or in short. -/
  | help (topic : Topic) (full : Bool)
  deriving DecidableEq, Repr

/-! ### Options -/

/-- The options. -/
inductive Flag where
  | verbose | config | format | rules | exclude | help | summary | version
  deriving DecidableEq, Repr

namespace Flag

/-- Whether an option takes a value. -/
def takesValue : Flag → Bool
  | config | format | rules | exclude => true
  | verbose | help | summary | version => false

/-- Whether an option asks for information in place of a run. -/
def asks : Flag → Bool
  | help | summary | version => true
  | _ => false

/-- Whether an option may be given more than once. -/
def mayRepeat : Flag → Bool
  | exclude => true
  | _ => false

/-- The long spellings. -/
def ofLong? : List Char → Option Flag := fun name =>
  match String.ofList name with
  | "verbose" => some .verbose
  | "config" => some .config
  | "format" => some .format
  | "rules" => some .rules
  | "exclude" => some .exclude
  | "help" => some .help
  | "version" => some .version
  | _ => none

/-- The short spellings. -/
def ofShort? : Char → Option Flag
  | 'v' => some .verbose
  | 'c' => some .config
  | 'f' => some .format
  | 'e' => some .exclude
  | 'h' => some .summary
  | 'V' => some .version
  | _ => none

/-- Whether an option is known where a topic is at issue. -/
def isKnown (topic : Topic) : Flag → Bool
  | verbose | config | help | summary => true
  | version => topic = .program
  | format | rules | exclude => topic = .check

end Flag

/-- **Item** of a command line: an option with its value, or an argument by its place. -/
inductive Item where
  | flag (flag : Flag) (value : String)
  | place (text : String)
  deriving DecidableEq, Repr

/-- Whether an argument has the form of an option; a lone hyphen has not. -/
def looksLikeFlag (arg : List Char) : Bool :=
  match arg with
  | '-' :: _ :: _ => true
  | _ => false

/-- Gives an option the value in its own argument, or else the next argument, which must not look
like an option. -/
def withValue (flag : Flag) (attached : Option (List Char)) (rest : List String) :
    Option (Item × List String) :=
  match attached, rest with
  | some value, _ => some (.flag flag (String.ofList value), rest)
  | none, [] => none
  | none, next :: rest =>
    if looksLikeFlag next.toList then none else some (.flag flag next, rest)

/-- Reads a long option, whose value may follow a `=`. -/
def readLong (known : Flag → Bool) (body : List Char) (rest : List String) :
    Option (Item × List String) :=
  let (name, attached) := match Text.cutAt? '=' body with
    | some (name, value) => (name, some value)
    | none => (body, none)
  match (Flag.ofLong? name).filter known with
  | none => none
  | some flag =>
    if flag.takesValue then withValue flag attached rest
    else if attached.isSome then none
    else some (.flag flag "", rest)

/-- Reads an argument of short options: the first one that takes a value takes all that follows, and
one that asks for information ends the argument. -/
def readShort (known : Flag → Bool) (rest : List String) :
    List Char → Option (List Item × List String)
  | [] => some ([], rest)
  | c :: more =>
    match (Flag.ofShort? c).filter known with
    | none => none
    | some flag =>
      if flag.takesValue then
        let attached := match more with
          | [] => none
          | '=' :: value => some value
          | value => some value
        (withValue flag attached rest).map (fun (item, rest) => ([item], rest))
      else if flag.asks then some ([.flag flag ""], rest)
      else (readShort known rest more).map (fun (items, rest) => (.flag flag "" :: items, rest))

/-- Reads one argument. -/
def readArgument (known : Flag → Bool) (arg : String) (rest : List String) :
    Option (List Item × List String) :=
  match arg.toList with
  | '-' :: '-' :: body => (readLong known body rest).map (fun (item, rest) => ([item], rest))
  | '-' :: c :: body => readShort known rest (c :: body)
  | _ => some ([.place arg], rest)

/-- The first option among items that asks for information. -/
def asked? (items : List Item) : Option Flag :=
  items.findSome? (fun item => match item with
    | .flag flag _ => if flag.asks then some flag else none
    | .place _ => none)

/-- **Items** of a list of arguments, up to one that asks for information; after `--` every argument
goes by its place.  Each step takes an argument, so their number bounds the steps. -/
def readItems (known : Flag → Bool) : (fuel : Nat) → List String → Option (List Item)
  | 0, _ => none
  | _ + 1, [] => some []
  | fuel + 1, arg :: rest =>
    if arg = "--" then some (rest.map Item.place)
    else
      match readArgument known arg rest with
      | none => none
      | some (items, rest) =>
        if (asked? items).isSome then some items
        else (readItems known fuel rest).map (fun more => items ++ more)

/-! ### Commands -/

/-- The values of an option, in order. -/
def valuesOf (flag : Flag) (items : List Item) : List String :=
  items.filterMap (fun item => match item with
    | .flag f value => if f = flag then some value else none
    | .place _ => none)

/-- The arguments that go by their place. -/
def places (items : List Item) : List String :=
  items.filterMap (fun item => match item with
    | .flag _ _ => none
    | .place text => some text)

/-- Whether an option is given more often than it may be. -/
def repeats (items : List Item) : Bool :=
  [Flag.verbose, .config, .format, .rules, .exclude].any (fun flag =>
    !flag.mayRepeat && 1 < (valuesOf flag items).length)

/-- A path that is not empty. -/
def pathOf? (text : String) : Option Path :=
  if text.isEmpty then none else some ⟨text⟩

/-- Applies a reader to an optional value; an absent value is fine. -/
def optionally {α : Type} (read : String → Option α) : Option String → Option (Option α)
  | none => some none
  | some text => (read text).map some

/-- The request of a check. -/
def checkRequest (items : List Item) : Option CheckRequest := do
  let target ← match places items with
    | [] => some ⟨"."⟩
    | [text] => pathOf? text
    | _ => none
  let format ← optionally OutputFormat.ofName? (valuesOf .format items).head?
  some
    { target := target, format := format.getD .text, rules := (valuesOf .rules items).head?
      exclude := valuesOf .exclude items }

/-- The command that a topic stands for, from its items. -/
def commandOf : Topic → List Item → Option Command
  | .check, items => (checkRequest items).map Command.check
  | .listRules, items => if (places items).isEmpty then some .listRules else none
  | .program, _ => none

/-- The topic of the name of a command. -/
def topicOf? : String → Option Topic
  | "check" => some .check
  | "list-rules" => some .listRules
  | _ => none

/-- Splits the arguments before the command from its name and the rest; the name is absent if an
option asks for information before it. -/
def splitCommand : (fuel : Nat) → List String → Option (List Item × Option String × List String)
  | 0, _ => none
  | _ + 1, [] => none
  | fuel + 1, arg :: rest =>
    if arg = "--" then none
    else
      match readArgument (Flag.isKnown .program) arg rest with
      | none => none
      | some ([.place name], rest) => some ([], some name, rest)
      | some (items, rest) =>
        if (asked? items).isSome then some (items, none, rest)
        else (splitCommand fuel rest).map (fun (more, name, rest) => (items ++ more, name, rest))

/-- The information that an option asks for about a topic. -/
def informationOf (topic : Topic) : Flag → Demand
  | .version => .version
  | .summary => .help topic false
  | _ => .help topic true

/-- The demand of the command `help`, which may name another command. -/
def helpDemand : List String → Option Demand
  | [] => some (.help .program true)
  | [name] => (topicOf? name).map (fun topic => .help topic true)
  | _ => none

/-- **Reading the arguments**, `configured` being the configuration file that the environment asks
for.  It stands in wherever no file is named, before the command or after it, and has to be a path
there.  What stands after the command counts before what stands in front of it. -/
def Demand.read (configured : Option String) (args : List String) : Option Demand := do
  let (before, name, rest) ← splitCommand (args.length + 1) args
  let outer ← (valuesOf .config before).mapM pathOf?
  if repeats before then none
  else
    match asked? before, name with
    | some flag, _ => some (informationOf .program flag)
    | none, some "help" => helpDemand rest
    | none, some name =>
      let topic ← topicOf? name
      let after ← readItems (Flag.isKnown topic) (rest.length + 1) rest
      let command ← commandOf topic after
      let inner ← (valuesOf .config after).mapM pathOf?
      if repeats after then none
      else
        match asked? after with
        | some flag => some (informationOf topic flag)
        | none =>
          let standIn ← optionally pathOf?
            (if outer.isEmpty || inner.isEmpty then configured else none)
          some (.run
            { config := (inner.head?.or outer.head?).or standIn
              verbose := !(valuesOf .verbose (before ++ after)).isEmpty
              command := command })
    | none, none => none

end SuiteLint.Cli
