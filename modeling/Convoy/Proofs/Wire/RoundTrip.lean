import Convoy.Proofs.Wire.Messages

/-!
# The round trip of the protocol

Every kind of message has a reader and a writer. Whatever a reader gives is written as a datum that
gives it again: absent fields, nulls, defaults, minted identities, tags and free forms included.
-/
namespace Convoy

open Data

/-- How the values of one type are read and written. -/
structure Codec where
  Value : Type
  read : Reader Value
  write : Value → Datum

/-- The messages of the protocol and their parts. What stands under the tag of an event, a call or
an operation is a part of it. -/
inductive MessageType where
  | identifier (kind : IdKind)
  | label | labels | portMapping | network | containerKind | dockerNetwork | dockerSection
  | mesosSection | container
  | resourceKind | span | amount | spans | items | resource
  | variable | environment | command | task | executorKind | executor | taskGroup
  | taskState | status
  | framework | address | master
  | operation | filters | callBody | call
  | offer | inverseOffer | event
deriving Repr, DecidableEq

namespace MessageType

def codec : MessageType → Codec
  | .identifier kind => ⟨Identifier kind, Identifier.read, Identifier.write⟩
  | .label => ⟨Label, Label.read, Label.write⟩
  | .labels => ⟨List Label, readLabels, writeLabels⟩
  | .portMapping => ⟨PortMapping, PortMapping.read, PortMapping.write⟩
  | .network => ⟨Network, Network.read, Network.write⟩
  | .containerKind => ⟨ContainerKind, ContainerKind.read, ContainerKind.write⟩
  | .dockerNetwork => ⟨DockerNetwork, DockerNetwork.read, DockerNetwork.write⟩
  | .dockerSection => ⟨DockerSection, DockerSection.read, DockerSection.write⟩
  | .mesosSection => ⟨MesosSection, MesosSection.read, MesosSection.write⟩
  | .container => ⟨Container, Container.read, Container.write⟩
  | .resourceKind => ⟨ResourceKind, ResourceKind.read, ResourceKind.write⟩
  | .span => ⟨Span, Span.read, Span.write⟩
  | .amount => ⟨Float, readAmount, writeAmount⟩
  | .spans => ⟨List Span, readSpans, writeSpans⟩
  | .items => ⟨List String, readItems, writeItems⟩
  | .resource => ⟨Resource, Resource.read, Resource.write⟩
  | .variable => ⟨Variable, Variable.read, Variable.write⟩
  | .environment => ⟨List Variable, readEnvironment, writeEnvironment⟩
  | .command => ⟨Command, Command.read, Command.write⟩
  | .task => ⟨Task, Task.read, Task.write⟩
  | .executorKind => ⟨ExecutorKind, ExecutorKind.read, ExecutorKind.write⟩
  | .executor => ⟨Executor, Executor.read, Executor.write⟩
  | .taskGroup => ⟨List Task, readTaskGroup, writeTaskGroup⟩
  | .taskState => ⟨TaskState, TaskState.read, TaskState.write⟩
  | .status => ⟨Status, Status.read, Status.write⟩
  | .framework => ⟨Framework, Framework.read, Framework.write⟩
  | .address => ⟨Address, Address.read, Address.write⟩
  | .master => ⟨Master, Master.read, Master.write⟩
  | .operation => ⟨Operation, Operation.read, Operation.write⟩
  | .filters => ⟨Filters, Filters.read, Filters.write⟩
  | .callBody => ⟨CallBody, CallBody.read, CallBody.write⟩
  | .call => ⟨Call, Call.read, Call.write⟩
  | .offer => ⟨Offer, Offer.read, Offer.write⟩
  | .inverseOffer => ⟨InverseOffer, InverseOffer.read, InverseOffer.write⟩
  | .event => ⟨Event, Event.read, Event.write⟩

theorem saves_codec {admits : Float → Prop} (type : MessageType) :
    Saves admits type.codec.read type.codec.write :=
  match type with
  | .identifier _ => Identifier.savesAll_read.saves
  | .label => Label.saves_read
  | .labels => saves_readLabels
  | .portMapping => PortMapping.saves_read
  | .network => Network.saves_read
  | .containerKind => ContainerKind.savesAll_read.saves
  | .dockerNetwork => DockerNetwork.savesAll_read.saves
  | .dockerSection => DockerSection.saves_read
  | .mesosSection => MesosSection.saves_read
  | .container => Container.saves_read
  | .resourceKind => ResourceKind.savesAll_read.saves
  | .span => Span.saves_read
  | .amount => saves_readAmount
  | .spans => saves_readSpans
  | .items => saves_readItems
  | .resource => Resource.saves_read
  | .variable => Variable.saves_read
  | .environment => saves_readEnvironment
  | .command => Command.saves_read
  | .task => Task.saves_read
  | .executorKind => ExecutorKind.savesAll_read.saves
  | .executor => Executor.saves_read
  | .taskGroup => saves_readTaskGroup
  | .taskState => TaskState.savesAll_read.saves
  | .status => Status.saves_read
  | .framework => Framework.saves_read
  | .address => Address.saves_read
  | .master => Master.saves_read
  | .operation => Operation.saves_read
  | .filters => Filters.saves_read
  | .callBody => CallBody.saves_read
  | .call => Call.saves_read
  | .offer => Offer.saves_read
  | .inverseOffer => InverseOffer.saves_read
  | .event => Event.saves_read

end MessageType

/-- What is written of a value that was read from a datum. -/
structure Codec.Faithful (codec : Codec) (source : Datum) (value : codec.Value) : Prop where
  /-- It reads back as the value, on its own or held, and mints nothing. -/
  back : ∀ reading mint, codec.read (codec.write value) reading mint = .ok (value, mint)
  /-- What is read back is written as it was. -/
  stable : ∀ reading mint again after,
    codec.read (codec.write value) reading mint = .ok (again, after) →
      codec.write again = codec.write value
  /-- Every part of it denotes a value. -/
  readable : (codec.write value).isReadable = true
  /-- It holds no floats but numbers of the source. -/
  floats : ∀ number ∈ (codec.write value).floats, number ∈ source.numbers

/-- Whatever is read of a datum without infinite numbers is written so that it reads back. -/
theorem MessageType.faithful_write (type : MessageType) {source : Datum} {reading : Reading}
    {mint after : Mint} {value : type.codec.Value}
    (finite : ∀ number ∈ source.floats, number.isFinite = true)
    (done : type.codec.read source reading mint = .ok (value, after)) :
    type.codec.Faithful source value := by
  have survives := type.saves_codec.survives (Datum.source_numbers finite) done
  have back : ∀ reading mint,
      type.codec.read (type.codec.write value) reading mint = .ok (value, mint) :=
    fun reading mint => by
      rw [survives.1]
      rfl
  refine ⟨back, ?_, survives.2.isReadable, fun number => survives.2.floats⟩
  intro reading mint again after found
  rw [back] at found
  cases found
  rfl

/-- An infinite number for an image is carried through as a null, which does not read back. -/
example :
    (do
      let (mesos, mint) ← MesosSection.read.run (.map [(.text "image", .float (1 / 0))]) ⟨0⟩
      MesosSection.read.run mesos.write mint) = .ok ({ image := none }, ⟨0⟩) := by
  rfl

/-- An operation as another hand might write it: its tag last, a task without an identity, a null, a
whole number for an amount, and a volume with a name given twice. -/
def looseLaunch : Datum :=
  let amount : Datum :=
    .map [(.text "name", .text "cpus"), (.text "type", .text "SCALAR"),
      (.text "scalar", .map [(.text "value", .int 2)])]
  let volume : Datum :=
    .map [(.text "mode", .text "RW"), (.text "size", .float 0.5), (.text "mode", .text "RO")]
  let task : Datum :=
    .map [(.text "command", .null), (.text "resources", .list [amount]),
      (.text "container", .map [(.text "volumes", .list [volume])])]
  .map [(.text "launch", .map [(.text "task_infos", .list [task])]), (.text "type", .text "LAUNCH")]

theorem MessageType.faithful_looseLaunch :
    ∃ value, MessageType.operation.codec.read looseLaunch .direct ⟨7⟩ = .ok (value, ⟨8⟩) ∧
      MessageType.operation.codec.Faithful looseLaunch value := by
  have finite : ∀ number ∈ looseLaunch.floats, number.isFinite = true := by
    intro number member
    obtain rfl := List.mem_singleton.1 member
    decide +kernel
  have done : MessageType.operation.codec.read looseLaunch .direct ⟨7⟩ = .ok (_, ⟨8⟩) := rfl
  exact ⟨_, done, MessageType.faithful_write .operation finite done⟩
end Convoy
