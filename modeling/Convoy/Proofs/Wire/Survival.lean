import Convoy.Proofs.Data.Writing
import Convoy.Wire.Task
import Convoy.Wire.Status
import Convoy.Wire.Framework

/-!
# Messages that survive the wire

The parts of which calls and events are made, each with its reader and its writer. Every proof
follows the reader field by field: a field was read from a record that may be read, so it survives,
and with all of its fields the whole does.
-/
namespace Convoy

open Data Data.Decode Data.Record

variable {admits : Float → Prop}

theorem Identifier.savesAll_read {kind : IdKind} :
    SavesAll admits (Identifier.read : Reader (Identifier kind)) Identifier.write := fun id => by
  refine lasts_record rfl ?laid ?distinct ?again ?fits
  case again => simp [Identifier.parse_text]
  all_goals simp

theorem Label.saves_read : Saves admits Label.read Label.write :=
  saves_record fun fields source => by
    refine ensures_bind (ensures_required source savesAll_text.saves) fun key _ => ?_
    refine ensures_bind (ensures_optional source savesAll_text.saves) fun value _ => ?_
    refine ensures_pure (lasts_record rfl ?_ ?_ ?_ ?_) <;> simp [*]

theorem saves_readLabels : Saves admits readLabels writeLabels :=
  saves_record fun fields source => by
    refine (ensures_list source Label.saves_read).imp fun labels _ => ?_
    refine lasts_record rfl ?_ ?_ ?_ ?_ <;> simp [*]

theorem PortMapping.saves_read : Saves admits PortMapping.read PortMapping.write :=
  saves_record fun fields source => by
    refine ensures_bind (ensures_required source savesAll_uint32.saves) fun hostPort _ => ?_
    refine ensures_bind (ensures_required source savesAll_uint32.saves) fun containerPort _ => ?_
    refine ensures_bind (ensures_optional source savesAll_text.saves) fun protocol _ => ?_
    refine ensures_pure (lasts_record rfl ?_ ?_ ?_ ?_) <;> simp [*]

theorem Network.saves_read : Saves admits Network.read Network.write :=
  saves_record fun fields source => by
    refine ensures_bind (ensures_optional source savesAll_text.saves) fun name _ => ?_
    refine ensures_bind (ensures_list source savesAll_text.saves) fun groups _ => ?_
    refine ensures_bind (ensures_optional source saves_readLabels) fun labels _ => ?_
    refine ensures_bind (ensures_list source PortMapping.saves_read) fun portMappings _ => ?_
    refine ensures_pure (lasts_record rfl ?_ ?_ ?_ ?_) <;> simp [*]

theorem ContainerKind.savesAll_read : SavesAll admits ContainerKind.read ContainerKind.write :=
  savesAll_name fun kind => by cases kind <;> rfl

theorem DockerNetwork.savesAll_read : SavesAll admits DockerNetwork.read DockerNetwork.write :=
  savesAll_name fun network => by cases network <;> rfl

theorem DockerSection.saves_read : Saves admits DockerSection.read DockerSection.write :=
  saves_record fun fields source => by
    refine ensures_bind (ensures_preset source savesAll_text) fun image _ => ?_
    refine ensures_bind (ensures_optional source DockerNetwork.savesAll_read.saves)
      fun network _ => ?_
    refine ensures_bind (ensures_list source PortMapping.saves_read) fun portMappings _ => ?_
    refine ensures_bind (ensures_optional source savesAll_bool.saves) fun privileged _ => ?_
    refine ensures_bind (ensures_optional source savesAll_bool.saves) fun forcePullImage _ => ?_
    refine ensures_pure (lasts_record rfl ?_ ?_ ?_ ?_) <;> simp [*]

theorem MesosSection.saves_read : Saves admits MesosSection.read MesosSection.write :=
  saves_record fun fields source => by
    refine ensures_bind (ensures_optional source saves_freeForm) fun image keeps => ?_
    rw [Keeps, Option.map_id_apply] at keeps
    refine ensures_pure (lasts_record rfl ?_ ?_ ?_ ?_) <;> simp [keeps]

theorem Container.saves_read : Saves admits Container.read Container.write :=
  saves_record fun fields source => by
    refine ensures_bind (ensures_preset source ContainerKind.savesAll_read) fun kind _ => ?_
    refine ensures_bind (ensures_optional source DockerSection.saves_read) fun docker _ => ?_
    refine ensures_bind (ensures_optional source MesosSection.saves_read) fun mesos _ => ?_
    refine ensures_bind (ensures_list source Network.saves_read) fun networks _ => ?_
    refine ensures_bind (ensures_list source saves_freeForm) fun volumes _ => ?_
    refine ensures_bind (ensures_optional source savesAll_text.saves) fun hostname _ => ?_
    refine ensures_pure (lasts_record rfl ?_ ?_ ?_ ?_) <;> simp [Container.fieldNames, *]

theorem ResourceKind.savesAll_read : SavesAll admits ResourceKind.read ResourceKind.write :=
  savesAll_name fun kind => by cases kind <;> rfl

theorem Span.saves_read : Saves admits Span.read Span.write :=
  saves_record fun fields source => by
    refine ensures_bind (ensures_required source savesAll_uint64.saves) fun first _ => ?_
    refine ensures_bind (ensures_required source savesAll_uint64.saves) fun last _ => ?_
    refine ensures_pure (lasts_record rfl ?_ ?_ ?_ ?_) <;> simp [*]

theorem saves_readAmount : Saves admits readAmount writeAmount :=
  saves_record fun fields source => by
    refine (ensures_required source saves_float).imp fun amount _ => ?_
    refine lasts_record rfl ?_ ?_ ?_ ?_ <;> simp_all

theorem saves_readSpans : Saves admits readSpans writeSpans :=
  saves_record fun fields source => by
    refine (ensures_list source Span.saves_read).imp fun spans _ => ?_
    refine lasts_record rfl ?_ ?_ ?_ ?_ <;> simp [*]

theorem saves_readItems : Saves admits readItems writeItems :=
  saves_record fun fields source => by
    refine (ensures_list source savesAll_text.saves).imp fun items _ => ?_
    refine lasts_record rfl ?_ ?_ ?_ ?_ <;> simp [*]

theorem Resource.saves_read : Saves admits Resource.read Resource.write :=
  saves_record fun fields source => by
    refine ensures_bind (ensures_required source savesAll_text.saves) fun name _ => ?_
    refine ensures_bind (ensures_required source ResourceKind.savesAll_read.saves) fun kind _ => ?_
    refine ensures_bind (ensures_optional source saves_readAmount) fun amount _ => ?_
    refine ensures_bind (ensures_optional source saves_readSpans) fun spans _ => ?_
    refine ensures_bind (ensures_optional source saves_readItems) fun items _ => ?_
    refine ensures_bind (ensures_optional source savesAll_text.saves) fun role _ => ?_
    refine ensures_pure (lasts_record rfl ?_ ?_ ?_ ?_) <;> simp [Resource.fieldNames, *]

theorem Variable.saves_read : Saves admits Variable.read Variable.write :=
  saves_record fun fields source => by
    refine ensures_bind (ensures_required source savesAll_text.saves) fun name _ => ?_
    refine ensures_bind (ensures_preset source savesAll_text) fun value _ => ?_
    refine ensures_pure (lasts_record rfl ?_ ?_ ?_ ?_) <;> simp [*]

theorem saves_readEnvironment : Saves admits readEnvironment writeEnvironment :=
  saves_record fun fields source => by
    refine (ensures_list source Variable.saves_read).imp fun environment _ => ?_
    refine lasts_record rfl ?_ ?_ ?_ ?_ <;> simp [*]

theorem Command.saves_read : Saves admits Command.read Command.write :=
  saves_record fun fields source => by
    refine ensures_bind (ensures_optional source savesAll_bool.saves) fun shell _ => ?_
    refine ensures_bind (ensures_optional source savesAll_text.saves) fun value _ => ?_
    refine ensures_bind (ensures_optional source savesAll_text.saves) fun user _ => ?_
    refine ensures_bind (ensures_list source savesAll_text.saves) fun arguments _ => ?_
    refine ensures_bind (ensures_optional source saves_readEnvironment) fun environment _ => ?_
    refine ensures_pure (lasts_record rfl ?_ ?_ ?_ ?_) <;> simp [*]

/-- A task survives with the identity that was minted for it, if it named none. -/
theorem Task.saves_read : Saves admits Task.read Task.write :=
  saves_record fun fields source => by
    refine ensures_bind (ensures_preset source savesAll_text) fun name _ => ?_
    refine ensures_bind (ensures_preset source Identifier.savesAll_read) fun id _ => ?_
    refine ensures_bind (ensures_optional source Identifier.savesAll_read.saves) fun agent _ => ?_
    refine ensures_bind (ensures_list source Resource.saves_read) fun resources _ => ?_
    refine ensures_bind (ensures_optional source Command.saves_read) fun command _ => ?_
    refine ensures_bind (ensures_optional source Container.saves_read) fun container _ => ?_
    refine ensures_bind (ensures_optional source saves_readLabels) fun labels _ => ?_
    refine ensures_pure (lasts_record rfl ?_ ?_ ?_ ?_) <;> simp [Task.fieldNames, *]

theorem ExecutorKind.savesAll_read : SavesAll admits ExecutorKind.read ExecutorKind.write :=
  savesAll_name fun kind => by cases kind <;> rfl

theorem Executor.saves_read : Saves admits Executor.read Executor.write :=
  saves_record fun fields source => by
    refine ensures_bind (ensures_preset source ExecutorKind.savesAll_read) fun kind _ => ?_
    refine ensures_bind (ensures_required source Identifier.savesAll_read.saves) fun id _ => ?_
    refine ensures_bind (ensures_optional source Identifier.savesAll_read.saves)
      fun framework _ => ?_
    refine ensures_bind (ensures_list source Resource.saves_read) fun resources _ => ?_
    refine ensures_bind (ensures_optional source Container.saves_read) fun container _ => ?_
    refine ensures_pure (lasts_record rfl ?_ ?_ ?_ ?_) <;> simp [Executor.fieldNames, *]

theorem TaskState.savesAll_read : SavesAll admits TaskState.read TaskState.write :=
  savesAll_name fun state => by cases state <;> rfl

theorem Status.saves_read : Saves admits Status.read Status.write :=
  saves_record fun fields source => by
    refine ensures_bind (ensures_required source Identifier.savesAll_read.saves) fun task _ => ?_
    refine ensures_bind (ensures_required source TaskState.savesAll_read.saves) fun state _ => ?_
    refine ensures_bind (ensures_optional source savesAll_text.saves) fun message _ => ?_
    refine ensures_bind (ensures_optional source savesAll_text.saves) fun origin _ => ?_
    refine ensures_bind (ensures_optional source savesAll_text.saves) fun reason _ => ?_
    refine ensures_bind (ensures_optional source Identifier.savesAll_read.saves) fun agent _ => ?_
    refine ensures_bind (ensures_optional source Identifier.savesAll_read.saves)
      fun executor _ => ?_
    refine ensures_bind (ensures_optional source savesAll_text.saves) fun uuid _ => ?_
    refine ensures_bind (ensures_optional source saves_float) fun timestamp _ => ?_
    refine ensures_pure (lasts_record rfl ?_ ?_ ?_ ?_) <;> simp [Status.fieldNames, *]

theorem Framework.saves_read : Saves admits Framework.read Framework.write :=
  saves_record fun fields source => by
    refine ensures_bind (ensures_optional source Identifier.savesAll_read.saves) fun id _ => ?_
    refine ensures_bind (ensures_required source savesAll_text.saves) fun user _ => ?_
    refine ensures_bind (ensures_required source savesAll_text.saves) fun name _ => ?_
    refine ensures_bind (ensures_preset source savesAll_text) fun role _ => ?_
    refine ensures_bind (ensures_optional source savesAll_text.saves) fun hostname _ => ?_
    refine ensures_bind (ensures_optional source saves_float) fun failoverTimeout _ => ?_
    refine ensures_bind (ensures_optional source savesAll_bool.saves) fun checkpoint _ => ?_
    refine ensures_bind (ensures_optional source savesAll_text.saves) fun principal _ => ?_
    refine ensures_pure (lasts_record rfl ?_ ?_ ?_ ?_) <;> simp [Framework.fieldNames, *]

theorem Address.saves_read : Saves admits Address.read Address.write :=
  saves_record fun fields source => by
    refine ensures_bind (ensures_optional source savesAll_text.saves) fun hostname _ => ?_
    refine ensures_bind (ensures_optional source savesAll_text.saves) fun ip _ => ?_
    refine ensures_bind (ensures_required source savesAll_uint32.saves) fun port _ => ?_
    refine ensures_pure (lasts_record rfl ?_ ?_ ?_ ?_) <;> simp [*]

theorem Master.saves_read : Saves admits Master.read Master.write :=
  saves_record fun fields source => by
    refine ensures_bind (ensures_required source Identifier.savesAll_read.saves) fun id _ => ?_
    refine ensures_bind (ensures_preset source savesAll_uint32) fun ip _ => ?_
    refine ensures_bind (ensures_preset source savesAll_uint32) fun port _ => ?_
    refine ensures_bind (ensures_optional source savesAll_text.saves) fun hostname _ => ?_
    refine ensures_bind (ensures_optional source Address.saves_read) fun address _ => ?_
    refine ensures_pure (lasts_record rfl ?_ ?_ ?_ ?_) <;> simp [Master.fieldNames, *]

end Convoy
