import Convoy.Refusal
import Convoy.Schedule.Rules
import Convoy.Wire.Framework

/-!
# Profiles

A profile holds the settings of a run. Every setting has a value of its own where a profile says
nothing, and some can be overridden from the environment.
-/
namespace Convoy

open Data Text

structure Registration where
  name : String := "mesos-cli"
  user : String := "root"
  role : String := defaultRole
  hostname : Option String := none
  principal : Option String := none
  checkpoint : Bool := false
  failoverTimeout : Option Float := none

namespace Registration

def fieldNames : List String :=
  ["name", "user", "role", "hostname", "principal", "checkpoint", "failover_timeout"]

def write (registration : Registration) : Datum :=
  record
    [field "name" (.text registration.name),
     field "user" (.text registration.user),
     field "role" (.text registration.role),
     fieldIfSome "hostname" .text registration.hostname,
     fieldIfSome "principal" .text registration.principal,
     field "checkpoint" (.bool registration.checkpoint),
     fieldIfSome "failover_timeout" .float registration.failoverTimeout]

def read : Reader Registration :=
  readRecord fieldNames fun fields => do
    let standard : Registration := {}
    return { name := ← fields.defaulted "name" readText (pure standard.name)
             user := ← fields.defaulted "user" readText (pure standard.user)
             role := ← fields.defaulted "role" readText (pure standard.role)
             hostname := ← fields.optional "hostname" readText
             principal := ← fields.optional "principal" readText
             checkpoint := ← fields.defaulted "checkpoint" readBool (pure standard.checkpoint)
             failoverTimeout := ← fields.optional "failover_timeout" readFloat }

end Registration

structure Profile where
  /-- Host and port of the master. -/
  master : String := "localhost:5050"
  scheme : String := "http"
  registration : Registration := {}
  restart : Restart := .never
  sync : Bool := false
  maxRestarts : Option UInt32 := none
  restartBackoff : Backoff := .immediate
  reconnectBackoff : Backoff := .reconnect
  refusal : Refusal := .standard
  /-- Whether the framework is torn down when the run ends. -/
  teardown : Bool := false
  logLevel : String := "info"

namespace Profile

def fieldNames : List String :=
  ["master", "scheme", "framework", "restart", "sync", "max_restarts", "restart_backoff",
   "reconnect_backoff", "refuse", "teardown", "log_level"]

def write (profile : Profile) : Datum :=
  record
    [field "master" (.text profile.master),
     field "scheme" (.text profile.scheme),
     field "framework" profile.registration.write,
     field "restart" profile.restart.write,
     field "sync" (.bool profile.sync),
     fieldIfSome "max_restarts" (fun limit : UInt32 => .int limit.toNat) profile.maxRestarts,
     field "restart_backoff" profile.restartBackoff.write,
     field "reconnect_backoff" profile.reconnectBackoff.write,
     field "refuse" profile.refusal.write,
     field "teardown" (.bool profile.teardown),
     field "log_level" (.text profile.logLevel)]

def read : Reader Profile :=
  readRecord fieldNames fun fields => do
    let standard : Profile := {}
    return { master := ← fields.defaulted "master" readText (pure standard.master)
             scheme := ← fields.defaulted "scheme" readText (pure standard.scheme)
             registration := ← fields.defaulted "framework" Registration.read (pure {})
             restart := ← fields.defaulted "restart" Restart.read (pure standard.restart)
             sync := ← fields.defaulted "sync" readBool (pure standard.sync)
             maxRestarts := ← fields.optional "max_restarts" readUInt32
             restartBackoff :=
               ← fields.defaulted "restart_backoff" Backoff.read (pure standard.restartBackoff)
             reconnectBackoff :=
               ← fields.defaulted "reconnect_backoff" Backoff.read (pure standard.reconnectBackoff)
             refusal := ← fields.defaulted "refuse" Refusal.read (pure standard.refusal)
             teardown := ← fields.defaulted "teardown" readBool (pure standard.teardown)
             logLevel := ← fields.defaulted "log_level" readText (pure standard.logLevel) }

inductive OverrideError where
  | restart (word : String)
  | sync (word : String)
deriving Repr, DecidableEq

def OverrideError.message : OverrideError → String
  | .restart word => "MESOS_CLI_RESTART: " ++ Restart.unknownWord word
  | .sync word => "MESOS_CLI_SYNC: expected a boolean, got " ++ quoted (lowerAscii word)

def flagOfWord? (word : String) : Option Bool :=
  match lowerAscii word with
  | "1" | "true" | "yes" | "on" => some true
  | "0" | "false" | "no" | "off" => some false
  | _ => none

def overridden {α : Type} (old : α) (understand : String → Option α)
    (complaint : String → OverrideError) : Option String → Except OverrideError α
  | none => .ok old
  | some word =>
    match understand word with
    | some value => .ok value
    | none => .error (complaint word)

/-- The profile with the settings that the environment overrides. The restart policy is looked at
before the flag. -/
def withOverrides (profile : Profile) (lookup : String → Option String) :
    Except OverrideError Profile := do
  let restart ←
    overridden profile.restart Restart.ofWord? .restart (lookup "MESOS_CLI_RESTART")
  let sync ← overridden profile.sync flagOfWord? .sync (lookup "MESOS_CLI_SYNC")
  return { profile with
    master := (lookup "MESOS_CLI_MASTER").getD profile.master
    scheme := (lookup "MESOS_CLI_SCHEME").getD profile.scheme
    restart := restart
    sync := sync
    logLevel := (lookup "MESOS_CLI_LOG_LEVEL").getD profile.logLevel }

variable (profile : Profile)

def operatorEndpoint : String :=
  profile.scheme ++ "://" ++ profile.master ++ "/api/v1"

def schedulerEndpoint : String :=
  profile.operatorEndpoint ++ "/scheduler"

/-- The framework to register. An unset checkpoint is left out. -/
def framework : Framework where
  user := profile.registration.user
  name := profile.registration.name
  role := profile.registration.role
  hostname := profile.registration.hostname
  failoverTimeout := profile.registration.failoverTimeout
  checkpoint := if profile.registration.checkpoint then some true else none
  principal := profile.registration.principal

def rules : Rules where
  restart := profile.restart
  sync := profile.sync
  maxRestarts := profile.maxRestarts
  backoff := profile.restartBackoff

end Profile
end Convoy
