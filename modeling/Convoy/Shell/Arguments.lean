import Convoy.Decimal.Reading
import Convoy.TaskGroup

/-!
# Arguments

The words of a command line: options of the whole program before or behind the name of a command,
and the options of that command behind it.
-/
namespace Convoy.Shell

inductive OptionShape where
  /-- Nothing: the option is on. -/
  | flag
  | text
  | path
  | number
deriving Repr, DecidableEq

def OptionShape.accepts (shape : OptionShape) (word : String) : Bool :=
  match shape with
  | .flag => false
  | .text => true
  | .path => word != ""
  | .number => (Decimal.parseFloat? word).isSome

inductive Refused where
  | misused
  | help
  | version
deriving Repr, DecidableEq

/-- What can stand on one level of a command line. -/
structure Grammar where
  options : List (String × OptionShape)
  /-- The commands that lead to a level below. -/
  commands : List String := []
  /-- Whether a file may be named. -/
  takesFile : Bool := false
  hasVersion : Bool := false

/-- What stands on one level of a command line. A flag has an empty value. -/
structure Level where
  values : List (String × String) := []
  file : Option String := none
  /-- The command, and the words behind it. -/
  command : Option (String × List String) := none

namespace Level

def value? (level : Level) (name : String) : Option String :=
  level.values.lookup name

def has (level : Level) (name : String) : Bool :=
  (level.value? name).isSome

/-- Gives an option its value; it can have one only. -/
def give (level : Level) (name value : String) : Except Refused Level :=
  if level.has name then .error .misused
  else .ok { level with values := level.values ++ [(name, value)] }

/-- Names the file; there can be one only. -/
def giveFile (grammar : Grammar) (level : Level) (path : String) : Except Refused Level :=
  if !grammar.takesFile || level.file.isSome || path = "" then .error .misused
  else .ok { level with file := some path }

/-- Names files with words that stand behind `--`. -/
def giveFiles (grammar : Grammar) (level : Level) : List String → Except Refused Level
  | [] => .ok level
  | path :: rest =>
    match giveFile grammar level path with
    | .ok level => giveFiles grammar level rest
    | .error refused => .error refused

end Level

/-- Whether a word can only be the name of an option. -/
def looksLikeOption (word : String) : Bool :=
  word.startsWith "-" && word != "-"

/-- The name of a long option, and the value attached to it. -/
def splitOption (word : String) : String × Option String :=
  let body := word.toList.drop 2
  let name := String.ofList (body.takeWhile (· != '='))
  match body.dropWhile (· != '=') with
  | [] => (name, none)
  | _ :: value => (name, some (String.ofList value))

def shortOption (grammar : Grammar) (word : String) : Refused :=
  match word.toList.drop 1 with
  | 'h' :: _ => .help
  | 'V' :: _ => if grammar.hasVersion then .version else .misused
  | _ => .misused

def unknownOption (grammar : Grammar) (name : String) (value : Option String) : Refused :=
  if value.isSome then .misused
  else if name = "help" then .help
  else if name = "version" ∧ grammar.hasVersion then .version
  else .misused

/-- What the words behind `help` ask for: they name a command, if anything. -/
def helpOn (grammar : Grammar) : List String → Refused
  | [] => .help
  | [name] => if name = "help" ∨ name ∈ grammar.commands then .help else .misused
  | _ => .misused

/-- Reads the words of a level, up to a command. -/
def readLevel (grammar : Grammar) : List String → Level → Except Refused Level
  | [], level => .ok level
  | "--" :: rest, level => level.giveFiles grammar rest
  | word :: rest, level =>
    if word.startsWith "--" then
      let (name, attached) := splitOption word
      match grammar.options.lookup name, attached with
      | none, _ => .error (unknownOption grammar name attached)
      | some .flag, some _ => .error .misused
      | some .flag, none =>
        match level.give name "" with
        | .ok level => readLevel grammar rest level
        | .error refused => .error refused
      | some shape, some value =>
        match if shape.accepts value then level.give name value else .error .misused with
        | .ok level => readLevel grammar rest level
        | .error refused => .error refused
      | some shape, none =>
        match rest with
        | [] => .error .misused
        | value :: rest =>
          match
            if !looksLikeOption value && shape.accepts value then level.give name value
            else .error .misused with
          | .ok level => readLevel grammar rest level
          | .error refused => .error refused
    else if looksLikeOption word then .error (shortOption grammar word)
    else if word ∈ grammar.commands then .ok { level with command := some (word, rest) }
    else if word = "help" ∧ grammar.commands ≠ [] then .error (helpOn grammar rest)
    else
      match level.giveFile grammar word with
      | .ok level => readLevel grammar rest level
      | .error refused => .error refused

def sharedOptions : List (String × OptionShape) :=
  [("config", .path), ("profile", .text), ("master", .text), ("format", .text),
   ("log-json", .flag)]

def planOptions : List (String × OptionShape) :=
  [("cmd", .text), ("name", .text), ("cpus", .number), ("mem", .number), ("disk", .number),
   ("docker-image", .text), ("user", .text), ("no-shell", .flag), ("docker", .flag)]

def topGrammar : Grammar where
  options := sharedOptions
  commands := ["plan", "profile", "version"]
  hasVersion := true

def planGrammar : Grammar where
  options := sharedOptions ++ planOptions
  takesFile := true

def plainGrammar : Grammar where
  options := sharedOptions

structure PlanRequest where
  file : Option String := none
  command : Option String := none
  name : String := defaultTaskName
  cpus : Float := defaultCpus
  mem : Float := defaultMem
  disk : Float := defaultDisk
  image : Option String := none
  user : Option String := none
  shell : Bool := true
  /-- Whether every task is to be run by Docker. -/
  docker : Bool := false

inductive Request where
  | plan (request : PlanRequest)
  | profile
  | version

structure Arguments where
  /-- The profile book; where none is named, the one in the home directory. -/
  config : Option String
  profile : Option String
  master : Option String
  /-- Whether answers are data rather than tables. -/
  asData : Bool
  logJson : Bool
  request : Request

namespace Arguments

/-- The value of a number option, or its value where it is not given. -/
def numberOf (level : Level) (name : String) (standard : Float) : Float :=
  ((level.value? name).bind Decimal.parseFloat?).getD standard

def planRequest (level : Level) : PlanRequest where
  file := level.file
  command := level.value? "cmd"
  name := (level.value? "name").getD defaultTaskName
  cpus := numberOf level "cpus" defaultCpus
  mem := numberOf level "mem" defaultMem
  disk := numberOf level "disk" defaultDisk
  image := level.value? "docker-image"
  user := level.value? "user"
  shell := !level.has "no-shell"
  docker := level.has "docker"

/-- The level behind a command, and what the command asks for. -/
def readCommand (name : String) (words : List String) : Except Refused (Level × Request) :=
  match name with
  | "plan" => (readLevel planGrammar words {}).map fun level => (level, .plan (planRequest level))
  | "profile" => (readLevel plainGrammar words {}).map fun level => (level, .profile)
  | _ => (readLevel plainGrammar words {}).map fun level => (level, .version)

/-- Reads a command line. The environment names the profile book and the profile where the command
line does not; an option behind the command goes before the same one in front of it. -/
def read (lookup : String → Option String) (words : List String) : Except Refused Arguments := do
  let top ← readLevel topGrammar words {}
  match top.command with
  | none => throw .misused
  | some (name, rest) =>
    let (below, request) ← readCommand name rest
    let shared (name : String) : Option String := (below.value? name).or (top.value? name)
    let config := lookup "MESOS_CLI_CONFIG"
    if config = some "" ∧ ¬ (top.has "config" ∧ below.has "config") then throw .misused
    return {
      config := (shared "config").or config
      profile := (shared "profile").or (lookup "MESOS_CLI_PROFILE")
      master := shared "master"
      asData := shared "format" == some "json"
      logJson := (shared "log-json").isSome
      request := request }

end Arguments
end Convoy.Shell
