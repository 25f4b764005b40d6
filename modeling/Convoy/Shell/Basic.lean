import Convoy.Profile.Book
import Convoy.Shell.Arguments
import Convoy.Shell.Plan

/-!
# The command line

The program shows the plan of groups, or the settings of a profile. Nothing is sent to a master.
-/
namespace Convoy.Shell

open Data Text

/-- What the program needs of its surroundings. -/
structure World (m : Type → Type) where
  files : Files m
  /-- The text of the standard input. -/
  input : m (Option String)
  environment : String → Option String

structure Response where
  code : UInt32 := 0
  output : String := ""
  complaint : String := ""

inductive Complaint where
  | noHome
  | book (error : ProfileBook.Error)
  | override (error : Profile.OverrideError)
  /-- There is nothing to plan. -/
  | noTasks
  /-- There are two things to plan. -/
  | twoSources
  | groupFile (error : GroupFile.LoadError)

namespace Complaint

def message : Complaint → String
  | .noHome => "Could not determine home directory"
  | .book error => error.message
  | .override error => error.message
  | .noTasks => "Nothing to plan: pass a Mesosfile or --cmd"
  | .twoSources => "Both a Mesosfile and --cmd were given"
  | .groupFile error => String.intercalate ": " error.chain

def hint? : Complaint → Option String
  | .noTasks => some "Hint: Run \x60mcli plan Mesosfile\x60 or \x60mcli plan --cmd 'echo hello'\x60."
  | .twoSources => some "Hint: Use one of FILE or --cmd."
  | .groupFile (.unparsable _ (.invalidGroup _ _)) =>
    some "Hint: Every group in a Mesosfile needs at least one task."
  | _ => none

def text (complaint : Complaint) : String :=
  "Error: " ++ complaint.message ++ "\n" ++
    match complaint.hint? with
    | some hint => "\n" ++ hint ++ "\n"
    | none => ""

def response (complaint : Complaint) : Response where
  code := 1
  complaint := complaint.text

end Complaint

def versionLine : String := "mcli 0.1.0"

def usage : String :=
  "Usage: mcli [OPTIONS] <COMMAND>\n\nCommands: plan, profile, version"

/-- What is said about words that were not understood, or that ask about the program itself. -/
def Refused.response : Refused → Response
  | .misused => { code := 2, complaint := usage ++ "\n" }
  | .help => { output := usage ++ "\n" }
  | .version => { output := versionLine ++ "\n" }

/-- A profile in use, under the name by which it was chosen. -/
structure Chosen where
  name : String
  profile : Profile

namespace Chosen

def settings (chosen : Chosen) : List (List String) :=
  let profile := chosen.profile
  let limit := match profile.maxRestarts with
    | some limit => Decimal.integerText limit.toNat
    | none => "unlimited"
  [["profile", chosen.name],
   ["scheduler", profile.schedulerEndpoint],
   ["framework", profile.registration.name],
   ["user", profile.registration.user],
   ["role", profile.registration.role],
   ["restart", profile.restart.name],
   ["max_restarts", limit],
   ["sync", toString profile.sync],
   ["teardown", toString profile.teardown],
   ["log_level", profile.logLevel]]

def table (chosen : Chosen) : String :=
  Grid.render { heading := ["SETTING", "VALUE"], rows := chosen.settings }

def footer (chosen : Chosen) (groups : Nat) : String :=
  "Info: " ++ Decimal.integerText groups ++ " group(s) for " ++ chosen.profile.schedulerEndpoint ++
    " (profile " ++ chosen.name ++ ", role " ++ chosen.profile.registration.role ++
    ", restart " ++ chosen.profile.restart.name ++ ")"

end Chosen

def inHome (home file : String) : String :=
  if home.endsWith "/" then home ++ file else home ++ "/" ++ file

variable {m : Type → Type} [Monad m]

def groupsOf (world : World m) (request : PlanRequest) (mint : Mint) :
    m (Except Complaint (List TaskGroup)) := do
  match request.file, request.command with
  | some _, some _ => return .error .twoSources
  | none, none => return .error .noTasks
  | some path, none =>
    match ← GroupFile.load world.files world.input path mint with
    | .ok (groups, _) => return .ok groups
    | .error error => return .error (.groupFile error)
  | none, some command =>
    let spec : CommandSpec :=
      { name := request.name, command := command, shell := request.shell, user := request.user
        cpus := request.cpus, mem := request.mem, disk := request.disk, image := request.image }
    return .ok [(TaskGroup.ofCommand spec mint).1]

/-- Loads the profile that is to be used, with all that overrides it. -/
def choose (world : World m) (arguments : Arguments) : m (Except Complaint Chosen) := do
  let home := (world.environment "HOME").filter (· ≠ "")
  match arguments.config.or (home.map (inHome · ProfileBook.fileName)) with
  | none => return .error .noHome
  | some path =>
    let name := arguments.profile.getD ProfileBook.defaultName
    match ← ProfileBook.load world.files path with
    | .error error => return .error (.book error)
    | .ok (book, _) =>
      match book.profile name with
      | .error error => return .error (.book error)
      | .ok profile =>
        match profile.withOverrides world.environment with
        | .error error => return .error (.override error)
        | .ok profile =>
          let master := arguments.master.getD profile.master
          return .ok { name := name, profile := { profile with master := master } }

def plan (world : World m) (asData : Bool) (chosen : Chosen) (request : PlanRequest) (mint : Mint) :
    m Response := do
  match ← groupsOf world request mint with
  | .error complaint => return complaint.response
  | .ok groups =>
    let plan := Plan.ofGroups groups request.docker chosen.profile.registration.role
    if asData then return { output := plan.data ++ "\n" }
    else return { output := plan.table ++ "\n" ++ chosen.footer groups.length ++ "\n" }

def answer (world : World m) (arguments : Arguments) (mint : Mint) : m Response := do
  match arguments.request with
  | .version => return { output := versionLine ++ "\n" }
  | .profile =>
    match ← choose world arguments with
    | .error complaint => return complaint.response
    | .ok chosen =>
      let text := if arguments.asData then Json.pretty chosen.profile.write else chosen.table
      return { output := text ++ "\n" }
  | .plan request =>
    match ← choose world arguments with
    | .error complaint => return complaint.response
    | .ok chosen => plan world arguments.asData chosen request mint

/-- Runs the program on the words of a command line. -/
def run (world : World m) (words : List String) (mint : Mint) : m Response :=
  match Arguments.read world.environment words with
  | .error refused => return refused.response
  | .ok arguments => answer world arguments mint

end Convoy.Shell
