import Convoy.Proofs.Data.Decode
import Convoy.Wire.Task

/-!
# Messages that read alike under every mint

Each reader is put together from steady ones, so it is steady itself.
-/
namespace Convoy

open Data

@[simp]
theorem Identifier.steady_read {kind : IdKind} :
    (Identifier.read : Reader (Identifier kind)).Steady :=
  .record fun fields => by
    -- Whether the identifier is well formed depends on the text that was read.
    simp only [Record.required]
    split
    · rename_i datum _
      cases datum with
      | text text =>
        simp only [readText, pure_bind]
        cases Identifier.parse kind text with
        | ok id => exact Agree.of_pure rfl
        | error reason => exact Agree.of_throw _ _
      | _ => exact Agree.of_throw _ _
    · exact Agree.of_throw _ _

@[simp]
theorem Label.steady_read : Label.read.Steady :=
  .record fun fields => by
    repeat refine Agree.of_same_bind (by simp) fun _ => ?_
    exact Agree.of_pure rfl

@[simp]
theorem steady_readLabels : readLabels.Steady :=
  .record fun fields => by simp

@[simp]
theorem PortMapping.steady_read : PortMapping.read.Steady :=
  .record fun fields => by
    repeat refine Agree.of_same_bind (by simp) fun _ => ?_
    exact Agree.of_pure rfl

@[simp]
theorem Network.steady_read : Network.read.Steady :=
  .record fun fields => by
    repeat refine Agree.of_same_bind (by simp) fun _ => ?_
    exact Agree.of_pure rfl

@[simp]
theorem ContainerKind.steady_read : ContainerKind.read.Steady := .name names

@[simp]
theorem DockerNetwork.steady_read : DockerNetwork.read.Steady := .name names

@[simp]
theorem DockerSection.steady_read : DockerSection.read.Steady :=
  .record fun fields => by
    repeat refine Agree.of_same_bind (by simp) fun _ => ?_
    exact Agree.of_pure rfl

@[simp]
theorem MesosSection.steady_read : MesosSection.read.Steady :=
  .record fun fields => Agree.of_same_bind (by simp) fun _ => Agree.of_pure rfl

@[simp]
theorem Container.steady_read : Container.read.Steady :=
  .record fun fields => by
    repeat refine Agree.of_same_bind (by simp) fun _ => ?_
    exact Agree.of_pure rfl

@[simp]
theorem ResourceKind.steady_read : ResourceKind.read.Steady := .name names

@[simp]
theorem Span.steady_read : Span.read.Steady :=
  .record fun fields => by
    repeat refine Agree.of_same_bind (by simp) fun _ => ?_
    exact Agree.of_pure rfl

@[simp]
theorem steady_readAmount : readAmount.Steady :=
  .record fun fields => by simp

@[simp]
theorem steady_readSpans : readSpans.Steady :=
  .record fun fields => by simp

@[simp]
theorem steady_readItems : readItems.Steady :=
  .record fun fields => by simp

@[simp]
theorem Resource.steady_read : Resource.read.Steady :=
  .record fun fields => by
    repeat refine Agree.of_same_bind (by simp) fun _ => ?_
    exact Agree.of_pure rfl

@[simp]
theorem Variable.steady_read : Variable.read.Steady :=
  .record fun fields => by
    repeat refine Agree.of_same_bind (by simp) fun _ => ?_
    exact Agree.of_pure rfl

@[simp]
theorem steady_readEnvironment : readEnvironment.Steady :=
  .record fun fields => by simp

@[simp]
theorem Command.steady_read : Command.read.Steady :=
  .record fun fields => by
    repeat refine Agree.of_same_bind (by simp) fun _ => ?_
    exact Agree.of_pure rfl

/-- The tasks are the same but for their identities and their agents. -/
def Task.Resembles (task other : Task) : Prop :=
  ∃ id agent, other = { task with id := id, agent := agent }

/-- A task that does not name its identity gets another one under another mint. -/
theorem Task.agrees_read : Task.read.Agrees Task.Resembles :=
  .record fun fields => by
    have fresh : Agree (fun _ _ => True) mintTask mintTask := fun _ _ _ => .read _ _ trivial
    have named : Reader.Agrees (fun _ _ : TaskId => True) Identifier.read := fun datum =>
      (Identifier.steady_read datum).mono fun _ _ _ => trivial
    refine Agree.of_same_bind (by simp) fun _ => ?_
    refine (Record.agree_defaulted named fresh).of_bind fun _ _ _ => ?_
    repeat refine Agree.of_same_bind (by simp) fun _ => ?_
    exact Agree.of_pure ⟨_, _, rfl⟩

end Convoy
