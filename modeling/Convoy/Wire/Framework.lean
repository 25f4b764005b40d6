import Convoy.Wire.Identifier
import Convoy.Wire.Resource
import Convoy.Decimal.Notation

/-!
# Frameworks and masters

What a framework says of itself when it subscribes, and what the master says of itself in return.
-/
namespace Convoy

open Data

/-- The description of a framework. Its identity is known from the first subscription on. -/
structure Framework where
  id : Option FrameworkId := none
  user : String
  name : String
  role : String := defaultRole
  hostname : Option String := none
  failoverTimeout : Option Float := none
  checkpoint : Option Bool := none
  principal : Option String := none

namespace Framework

def fieldNames : List String :=
  ["id", "user", "name", "role", "hostname", "failover_timeout", "checkpoint", "principal"]

def write (framework : Framework) : Datum :=
  record
    [fieldIfSome "id" Identifier.write framework.id,
     field "user" (.text framework.user),
     field "name" (.text framework.name),
     field "role" (.text framework.role),
     fieldIfSome "hostname" .text framework.hostname,
     fieldIfSome "failover_timeout" .float framework.failoverTimeout,
     fieldIfSome "checkpoint" .bool framework.checkpoint,
     fieldIfSome "principal" .text framework.principal]

def read : Reader Framework :=
  readRecord fieldNames fun fields => do
    return { id := ← fields.optional "id" Identifier.read
             user := ← fields.required "user" readText
             name := ← fields.required "name" readText
             role := ← fields.defaulted "role" readText (pure defaultRole)
             hostname := ← fields.optional "hostname" readText
             failoverTimeout := ← fields.optional "failover_timeout" readFloat
             checkpoint := ← fields.optional "checkpoint" readBool
             principal := ← fields.optional "principal" readText }

end Framework

structure Address where
  hostname : Option String := none
  ip : Option String := none
  port : UInt32
deriving Repr, DecidableEq

namespace Address

def write (address : Address) : Datum :=
  record
    [fieldIfSome "hostname" .text address.hostname,
     fieldIfSome "ip" .text address.ip,
     field "port" (.int address.port.toNat)]

def read : Reader Address :=
  readRecord ["hostname", "ip", "port"] fun fields => do
    return { hostname := ← fields.optional "hostname" readText
             ip := ← fields.optional "ip" readText
             port := ← fields.required "port" readUInt32 }

end Address

/-- The leading master. Its `ip` holds the four parts of an address, lowest byte first. -/
structure Master where
  id : MasterId
  ip : UInt32 := 0
  port : UInt32 := 0
  hostname : Option String := none
  address : Option Address := none
deriving Repr, DecidableEq

namespace Master

def dotted (ip : UInt32) : String :=
  let part (shift : Nat) : String := Decimal.integerText (ip.toNat / Nat.pow 2 shift % 256)
  String.intercalate "." [part 0, part 8, part 16, part 24]

/-- Host and port: those of the address if there is one, else the host name, else the packed
address. -/
def endpoint (master : Master) : String :=
  let (host, port) :=
    match master.address with
    | some address => ((address.hostname.or address.ip).getD "", address.port)
    | none => (master.hostname.getD (dotted master.ip), master.port)
  host ++ ":" ++ Decimal.integerText port.toNat

def fieldNames : List String := ["id", "ip", "port", "hostname", "address"]

def write (master : Master) : Datum :=
  record
    [field "id" master.id.write,
     field "ip" (.int master.ip.toNat),
     field "port" (.int master.port.toNat),
     fieldIfSome "hostname" .text master.hostname,
     fieldIfSome "address" Address.write master.address]

def read : Reader Master :=
  readRecord fieldNames fun fields => do
    return { id := ← fields.required "id" Identifier.read
             ip := ← fields.defaulted "ip" readUInt32 (pure 0)
             port := ← fields.defaulted "port" readUInt32 (pure 0)
             hostname := ← fields.optional "hostname" readText
             address := ← fields.optional "address" Address.read }

end Master
end Convoy
