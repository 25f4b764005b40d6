import Convoy.Data.Decode

/-!
# Containers and networks

How a task is isolated: by the agent's own containerizer or by Docker, on which networks and with
which volumes. Volumes and images are carried through as they were written.
-/
namespace Convoy

open Data

/-- A key with an optional value, attached to a task or a network. -/
structure Label where
  key : String
  value : Option String
deriving Repr, DecidableEq

namespace Label

def write (label : Label) : Datum :=
  record [field "key" (.text label.key), fieldIfSome "value" .text label.value]

def read : Reader Label :=
  readRecord ["key", "value"] fun fields => do
    return { key := ← fields.required "key" readText
             value := ← fields.optional "value" readText }

end Label

def writeLabels (labels : List Label) : Datum :=
  record [field "labels" (listOf Label.write labels)]

def readLabels : Reader (List Label) :=
  readRecord ["labels"] fun fields => fields.defaulted "labels" (readList Label.read) (pure [])

/-- A port of the agent that leads to a port of the container. -/
structure PortMapping where
  hostPort : UInt32
  containerPort : UInt32
  protocol : Option String
deriving Repr, DecidableEq

namespace PortMapping

def write (mapping : PortMapping) : Datum :=
  record
    [field "host_port" (.int mapping.hostPort.toNat),
     field "container_port" (.int mapping.containerPort.toNat),
     fieldIfSome "protocol" .text mapping.protocol]

def read : Reader PortMapping :=
  readRecord ["host_port", "container_port", "protocol"] fun fields => do
    return { hostPort := ← fields.required "host_port" readUInt32
             containerPort := ← fields.required "container_port" readUInt32
             protocol := ← fields.optional "protocol" readText }

end PortMapping

structure Network where
  name : Option String := none
  groups : List String := []
  labels : Option (List Label) := none
  portMappings : List PortMapping := []
deriving Repr, DecidableEq

namespace Network

def write (network : Network) : Datum :=
  record
    [fieldIfSome "name" .text network.name,
     fieldUnlessEmpty "groups" .text network.groups,
     fieldIfSome "labels" writeLabels network.labels,
     fieldUnlessEmpty "port_mappings" PortMapping.write network.portMappings]

def read : Reader Network :=
  readRecord ["name", "groups", "labels", "port_mappings"] fun fields => do
    return { name := ← fields.optional "name" readText
             groups := ← fields.defaulted "groups" (readList readText) (pure [])
             labels := ← fields.optional "labels" readLabels
             portMappings :=
               ← fields.defaulted "port_mappings" (readList PortMapping.read) (pure []) }

end Network

inductive ContainerKind where
  | mesos | docker
deriving Repr, DecidableEq

namespace ContainerKind

def names : List (String × ContainerKind) := [("MESOS", .mesos), ("DOCKER", .docker)]

def name : ContainerKind → String
  | .mesos => "MESOS"
  | .docker => "DOCKER"

def write (kind : ContainerKind) : Datum := .text kind.name

def read : Reader ContainerKind := readName names

end ContainerKind

inductive DockerNetwork where
  | host | bridge | none | user
deriving Repr, DecidableEq

namespace DockerNetwork

def names : List (String × DockerNetwork) :=
  [("HOST", .host), ("BRIDGE", .bridge), ("NONE", .none), ("USER", .user)]

def name : DockerNetwork → String
  | .host => "HOST"
  | .bridge => "BRIDGE"
  | .none => "NONE"
  | .user => "USER"

def write (network : DockerNetwork) : Datum := .text network.name

def read : Reader DockerNetwork := readName names

end DockerNetwork

structure DockerSection where
  image : String := ""
  network : Option DockerNetwork := none
  portMappings : List PortMapping := []
  privileged : Option Bool := none
  forcePullImage : Option Bool := none
deriving Repr, DecidableEq

namespace DockerSection

def write (docker : DockerSection) : Datum :=
  record
    [field "image" (.text docker.image),
     fieldIfSome "network" DockerNetwork.write docker.network,
     fieldUnlessEmpty "port_mappings" PortMapping.write docker.portMappings,
     fieldIfSome "privileged" .bool docker.privileged,
     fieldIfSome "force_pull_image" .bool docker.forcePullImage]

def read : Reader DockerSection :=
  let names := ["image", "network", "port_mappings", "privileged", "force_pull_image"]
  readRecord names fun fields => do
    return { image := ← fields.defaulted "image" readText (pure "")
             network := ← fields.optional "network" DockerNetwork.read
             portMappings :=
               ← fields.defaulted "port_mappings" (readList PortMapping.read) (pure [])
             privileged := ← fields.optional "privileged" readBool
             forcePullImage := ← fields.optional "force_pull_image" readBool }

end DockerSection

/-- The section of a container run by the agent's own containerizer. -/
structure MesosSection where
  image : Option Datum := none

namespace MesosSection

def write (mesos : MesosSection) : Datum :=
  record [fieldIfSome "image" id mesos.image]

def read : Reader MesosSection :=
  readRecord ["image"] fun fields => do
    return { image := ← fields.optional "image" readFreeForm }

end MesosSection

structure Container where
  kind : ContainerKind := .mesos
  docker : Option DockerSection := none
  mesos : Option MesosSection := none
  networks : List Network := []
  volumes : List Datum := []
  hostname : Option String := none

namespace Container

def fieldNames : List String :=
  ["type", "docker", "mesos", "network_infos", "volumes", "hostname"]

def write (container : Container) : Datum :=
  record
    [field "type" container.kind.write,
     fieldIfSome "docker" DockerSection.write container.docker,
     fieldIfSome "mesos" MesosSection.write container.mesos,
     fieldUnlessEmpty "network_infos" Network.write container.networks,
     fieldUnlessEmpty "volumes" id container.volumes,
     fieldIfSome "hostname" .text container.hostname]

def read : Reader Container :=
  readRecord fieldNames fun fields => do
    return { kind := ← fields.defaulted "type" ContainerKind.read (pure .mesos)
             docker := ← fields.optional "docker" DockerSection.read
             mesos := ← fields.optional "mesos" MesosSection.read
             networks := ← fields.defaulted "network_infos" (readList Network.read) (pure [])
             volumes := ← fields.defaulted "volumes" (readList readFreeForm) (pure [])
             hostname := ← fields.optional "hostname" readText }

end Container
end Convoy
