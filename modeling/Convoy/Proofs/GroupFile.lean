import Convoy.GroupFile
import Convoy.Proofs.Wire.Steady
import Mathlib

/-!
# What a group file declares and what becomes of it

Each entry makes one group. An entry that reads as a group keeps every task that it lists, and any
other entry is one task, whatever tasks it lists.
-/
namespace Convoy

open Data

namespace GroupEntry

def fieldNames : List String := ["networks", "tasks"]

/-- The tasks that an entry lists. -/
def listed (entry : Datum) : List Datum :=
  match entry.field? fieldNames "tasks" with
  | some (.list tasks) => tasks
  | _ => []

/-- The name of a task as it is declared, or the one for a task without a name. -/
def declaredName (task : Datum) : String :=
  match task.field? Task.fieldNames "name" with
  | some (.text name) => if name = "" then defaultTaskName else name
  | _ => defaultTaskName

/-- A map with a list of tasks, all of which can be read, as can its networks if it has any. -/
structure IsGroup (entry : Datum) : Prop where
  isRecord : ∃ entries fields,
    entry = .map entries ∧ Record.ofEntries fieldNames entries = .ok fields
  networks : ∀ value, entry.field? fieldNames "networks" = some value →
    ∃ items, value = .list items ∧ ∀ item ∈ items, Network.read.Reads item
  tasks : ∃ items, entry.field? fieldNames "tasks" = some (.list items) ∧
    ∀ item ∈ items, Task.read.Reads item

/-- The names of the tasks that an entry declares: of all that it lists, in order, if it is a group,
and its own one if not. -/
inductive Declares (entry : Datum) : List String → Prop
  | together (isGroup : IsGroup entry) : Declares entry ((listed entry).map declaredName)
  | alone (isTask : ¬ IsGroup entry) : Declares entry [declaredName entry]

variable {entry : Datum} {mint after : Mint}

theorem name_of_read {task : Task} (done : Task.read.run entry mint = .ok (task, after)) :
    task.normalize.name = declaredName entry := by
  obtain ⟨record, start, lifted, done⟩ := Decode.bind_eq_ok.1 done
  obtain ⟨found, -⟩ := Decode.lift_eq_ok.1 lifted
  have field : record.fields.lookup "name" = entry.field? Task.fieldNames "name" :=
    Record.lookup_ofDatum (by decide) found
  obtain ⟨name, _, named, done⟩ := Decode.bind_eq_ok.1 done
  have kept : task.name = name := by
    iterate 6 obtain ⟨_, _, -, done⟩ := Decode.bind_eq_ok.1 done
    obtain ⟨rfl, -⟩ := Decode.pure_eq_ok.1 done
    rfl
  simp only [Task.normalize, declaredName, ← field, kept]
  simp only [Record.defaulted] at named
  cases given : record.fields.lookup "name" with
  | none =>
    simp only [given] at named
    obtain ⟨rfl, -⟩ := Decode.pure_eq_ok.1 named
    rfl
  | some value =>
    simp only [given] at named
    cases value with
    | text text =>
      obtain ⟨rfl, -⟩ := Decode.pure_eq_ok.1 named
      rfl
    | _ => exact absurd named Decode.throw_ne_ok

theorem isGroup_of_read {result : GroupEntry}
    (done : readGroup.run entry mint = .ok (result, after)) :
    IsGroup entry ∧ ∃ networks tasks, result = .together networks tasks ∧
      List.Forall₂ (fun item task => ∃ mint after, Task.read.run item mint = .ok (task, after))
        (listed entry) tasks := by
  cases entry with
  | map entries =>
    obtain ⟨fields, start, lifted, done⟩ := Decode.bind_eq_ok.1 done
    obtain ⟨found, -⟩ := Decode.lift_eq_ok.1 lifted
    have field {name : String} (known : name ∈ fieldNames) :
        fields.lookup name = (Datum.map entries).field? fieldNames name :=
      Record.lookup_ofEntries known found
    obtain ⟨networks, middle, first, done⟩ := Decode.bind_eq_ok.1 done
    obtain ⟨tasks, last, second, done⟩ := Decode.bind_eq_ok.1 done
    obtain ⟨rfl, -⟩ := Decode.pure_eq_ok.1 done
    simp only [Record.defaulted, field (show "networks" ∈ fieldNames by decide)] at first
    simp only [Record.required, field (show "tasks" ∈ fieldNames by decide)] at second
    have tasksRead : ∃ items, (Datum.map entries).field? fieldNames "tasks" = some (.list items) ∧
        List.Forall₂ (fun item task => ∃ mint after, Task.read.run item mint = .ok (task, after))
          items tasks := by
      cases given : (Datum.map entries).field? fieldNames "tasks" with
      | none => exact absurd (given ▸ second) Decode.throw_ne_ok
      | some value =>
        simp only [given] at second
        obtain ⟨items, rfl, each⟩ := Reader.list_eq_ok second
        exact ⟨items, rfl, each⟩
    have networksRead : ∀ value, (Datum.map entries).field? fieldNames "networks" = some value →
        ∃ items, value = .list items ∧ ∀ item ∈ items, Network.read.Reads item := by
      intro value given
      simp only [given] at first
      obtain ⟨items, rfl, each⟩ := Reader.list_eq_ok first
      exact ⟨items, rfl, Reader.reads_of_forall₂ each⟩
    obtain ⟨items, given, each⟩ := tasksRead
    refine ⟨⟨⟨entries, fields, rfl, found⟩, networksRead, items, given,
      Reader.reads_of_forall₂ each⟩, networks, tasks, rfl, ?_⟩
    simpa only [listed, given] using each
  | _ => exact absurd done Decode.throw_ne_ok

theorem read_of_isGroup (isGroup : IsGroup entry) (mint : Mint) :
    ∃ result, readGroup.run entry mint = .ok result := by
  obtain ⟨⟨entries, fields, rfl, found⟩, networksRead, items, given, each⟩ := isGroup
  have field {name : String} (known : name ∈ fieldNames) :
      fields.lookup name = (Datum.map entries).field? fieldNames name :=
    Record.lookup_ofEntries known found
  have networks : ∃ result, (Record.mk fields).defaulted "networks" (readList Network.read)
      (pure []) .direct mint = .ok result := by
    simp only [Record.defaulted, field (show "networks" ∈ fieldNames by decide)]
    cases given : (Datum.map entries).field? fieldNames "networks" with
    | none => exact ⟨([], mint), rfl⟩
    | some value =>
      obtain ⟨items, rfl, each⟩ := networksRead value given
      exact ((Reader.reads_list Network.steady_read).2 each).run (.list Network.steady_read) mint
  obtain ⟨⟨networks, middle⟩, first⟩ := networks
  obtain ⟨⟨tasks, after⟩, second⟩ :=
    ((Reader.reads_list Task.agrees_read).2 each).run (.list Task.agrees_read) middle
  refine ⟨(.together networks tasks, after), ?_⟩
  refine Decode.bind_eq_ok.2 ⟨fields, mint, Decode.lift_eq_ok.2 ⟨found, rfl⟩, ?_⟩
  refine Decode.bind_eq_ok.2 ⟨networks, middle, first, ?_⟩
  refine Decode.bind_eq_ok.2 ⟨tasks, after, ?_, Decode.pure_eq_ok.2 ⟨rfl, rfl⟩⟩
  simp only [Record.required, field (show "tasks" ∈ fieldNames by decide), given]
  exact second

/-- The names that the tasks of an entry's group have. -/
def taskNames : GroupEntry → List String
  | .together _ tasks => tasks.map (·.normalize.name)
  | .alone task => [task.normalize.name]

theorem names_of_forall₂ {items : List Datum} {tasks : List Task}
    (each : List.Forall₂ (fun item task => ∃ mint after, Task.read.run item mint = .ok (task, after))
      items tasks) : tasks.map (·.normalize.name) = items.map declaredName := by
  induction each with
  | nil => rfl
  | cons head _ ih =>
    obtain ⟨mint, after, found⟩ := head
    rw [List.map_cons, List.map_cons, ih, name_of_read found]

theorem declares_of_read {result : GroupEntry}
    (done : read.run entry mint = .ok (result, after)) : Declares entry result.taskNames := by
  change read entry .direct mint = .ok (result, after) at done
  simp only [read] at done
  split at done
  · cases together : readGroup.run entry mint with
    | ok known =>
      rw [Decode.tryCatch_of_ok together] at done
      cases done
      obtain ⟨isGroup, networks, tasks, rfl, each⟩ := isGroup_of_read together
      rw [taskNames, names_of_forall₂ each]
      exact .together isGroup
    | error cause =>
      have isTask : ¬ IsGroup entry := fun isGroup => by
        obtain ⟨known, found⟩ := read_of_isGroup isGroup mint
        cases together.symm.trans found
      rw [Decode.tryCatch_of_error together] at done
      obtain ⟨task, middle, found, done⟩ := Decode.bind_eq_ok.1 done
      obtain ⟨rfl, rfl⟩ := Decode.pure_eq_ok.1 done
      rw [taskNames, name_of_read found]
      exact .alone isTask
  · exact absurd done Decode.throw_ne_ok

def tasks : GroupEntry → List Task
  | .together _ tasks => tasks
  | .alone task => [task]

def networks : GroupEntry → List Network
  | .together networks _ => networks
  | .alone _ => []

/-- The group is one of the entry, built under some mint. -/
def Builds (entry : GroupEntry) (group : TaskGroup) : Prop :=
  ∃ mint after, entry.build mint = .ok (group, after)

theorem group_of_build {built : GroupEntry} {group : TaskGroup}
    (done : built.build mint = .ok (group, after)) : ∃ hasTask : built.tasks ≠ [],
      group = (TaskGroup.build built.tasks hasTask built.networks mint).1.reservingPorts := by
  cases built with
  | together networks tasks =>
    simp only [build, TaskGroup.ofTasks] at done
    split at done
    · rename_i hasTask
      cases done
      exact ⟨hasTask, rfl⟩
    · cases done
  | alone task =>
    cases done
    exact ⟨List.cons_ne_nil _ _, rfl⟩

theorem names_of_build {built : GroupEntry} {group : TaskGroup}
    (done : built.build mint = .ok (group, after)) :
    group.tasks.map (·.name) = built.taskNames := by
  obtain ⟨_, rfl⟩ := group_of_build done
  have names : built.taskNames = built.tasks.map (·.normalize.name) := by cases built <;> rfl
  rw [names]
  simp [TaskGroup.build, TaskGroup.reservingPorts, TaskGroup.mapTasks, Task.reservingPorts,
    Function.comp_def]

end GroupEntry

namespace GroupFile

open GroupEntry

theorem builds_of_buildAll {entries : List GroupEntry} {index : Nat} {groups : List TaskGroup}
    {mint after : Mint} (done : buildAll index entries mint = .ok (groups, after)) :
    List.Forall₂ Builds entries groups := by
  induction entries generalizing index groups mint with
  | nil =>
    cases done
    exact .nil
  | cons entry rest ih =>
    simp only [buildAll] at done
    cases built : entry.build mint with
    | error cause => simp [built] at done
    | ok first =>
      cases others : buildAll (index + 1) rest first.2 with
      | error cause => simp [built, others] at done
      | ok later =>
        simp only [built, others] at done
        cases done
        exact .cons ⟨mint, first.2, built⟩ (ih others)

theorem declares_of_builds {items : List Datum} {entries : List GroupEntry}
    {groups : List TaskGroup}
    (each : List.Forall₂ (fun item entry =>
      ∃ mint after, GroupEntry.read.run item mint = .ok (entry, after)) items entries)
    (builds : List.Forall₂ Builds entries groups) :
    List.Forall₂ (fun item group => Declares item (group.tasks.map (·.name))) items groups := by
  induction each generalizing groups with
  | nil =>
    cases builds
    exact .nil
  | cons head _ ih =>
    cases builds with
    | cons first others =>
      obtain ⟨_, _, found⟩ := head
      obtain ⟨_, _, built⟩ := first
      exact .cons (names_of_build built ▸ declares_of_read found) (ih others)

/-- The entries of a text. -/
def entries? (text : String) (mint : Mint) : Option (List GroupEntry) :=
  match Yaml.items? text with
  | none => none
  | some items => ((readList GroupEntry.read).run (.list items) mint).toOption.map (·.1)

theorem builds_of_parse {text : String} {mint after : Mint} {groups : List TaskGroup}
    (parsed : parse text mint = .ok (groups, after)) :
    ∃ entries, entries? text mint = some entries ∧ List.Forall₂ Builds entries groups := by
  simp only [parse] at parsed
  cases found : Yaml.items? text with
  | none => simp [found] at parsed
  | some items =>
    cases read : (readList GroupEntry.read).run (.list items) mint with
    | error cause => simp [found, read] at parsed
    | ok result =>
      simp only [found, read] at parsed
      refine ⟨result.1, ?_, builds_of_buildAll parsed⟩
      simp only [entries?, found, read, Except.toOption, Option.map_some]

theorem built_of_builds {entries : List GroupEntry} {groups : List TaskGroup} {group : TaskGroup}
    (builds : List.Forall₂ Builds entries groups) (member : group ∈ groups) :
    ∃ entry ∈ entries, entry.Builds group := by
  induction builds with
  | nil => contradiction
  | cons built _ ih =>
    rcases List.mem_cons.mp member with rfl | later
    · exact ⟨_, List.mem_cons_self, built⟩
    · obtain ⟨entry, listed, built⟩ := ih later
      exact ⟨entry, List.mem_cons_of_mem _ listed, built⟩

/-- Every entry of a group file makes one group, in order, of the tasks that it declares. -/
theorem declares_parse {text : String} {mint after : Mint} {groups : List TaskGroup}
    (parsed : parse text mint = .ok (groups, after)) :
    ∃ items, Yaml.items? text = some items ∧
      List.Forall₂ (fun item group => Declares item (group.tasks.map (·.name))) items groups := by
  simp only [parse] at parsed
  cases found : Yaml.items? text with
  | none => simp [found] at parsed
  | some items =>
    cases entries : (readList GroupEntry.read).run (.list items) mint with
    | error cause => simp [found, entries] at parsed
    | ok result =>
      simp only [found, entries] at parsed
      exact ⟨items, rfl, declares_of_builds (Reader.mapM_eq_ok entries) (builds_of_buildAll parsed)⟩

/-- The names of the tasks in each group of a text. -/
def names? (text : String) (mint : Mint) : Option (List (List String)) :=
  (parse text mint).toOption.map fun result =>
    result.1.map fun group => group.tasks.map (·.name)

theorem items_two : Yaml.items? "- tasks: [{name: a}, {}]\n- {name: c}\n" = some
    [.map [(.text "tasks", .list [.map [(.text "name", .text "a")], .map []])],
      .map [(.text "name", .text "c")]] := by
  cbv

/-- Three tasks in two groups, one of the tasks without a name. -/
theorem declares_two : ∃ groups after items,
    parse "- tasks: [{name: a}, {}]\n- {name: c}\n" ⟨0⟩ = .ok (groups, after) ∧
      groups.map (·.tasks.map (·.name)) = [["a", "mesos-cli"], ["c"]] ∧
      Yaml.items? "- tasks: [{name: a}, {}]\n- {name: c}\n" = some items ∧
      List.Forall₂ (fun item group => Declares item (group.tasks.map (·.name))) items groups := by
  have names : names? "- tasks: [{name: a}, {}]\n- {name: c}\n" ⟨0⟩ =
      some [["a", "mesos-cli"], ["c"]] := by
    rw [names?, parse, items_two]
    rfl
  cases parsed : parse "- tasks: [{name: a}, {}]\n- {name: c}\n" ⟨0⟩ with
  | error cause =>
    rw [names?, parsed] at names
    cases names
  | ok result =>
    rw [names?, parsed] at names
    obtain ⟨items, found, each⟩ := declares_parse parsed
    exact ⟨result.1, result.2, items, rfl, Option.some.inj names, found, each⟩

theorem items_numbered : Yaml.items? "- tasks: [{name: a}, {name: 5}]\n" = some
    [.map [(.text "tasks", .list
      [.map [(.text "name", .text "a")], .map [(.text "name", .int 5)]])]] := by
  cbv

/-- One task has a number for its name, and both tasks of the group are lost: the entry is read as a
task that declares nothing. -/
theorem parse_loses_tasks :
    (Yaml.items? "- tasks: [{name: a}, {name: 5}]\n").map
        (fun items => items.map fun item => (listed item).length) = some [2] ∧
      names? "- tasks: [{name: a}, {name: 5}]\n" ⟨0⟩ = some [["mesos-cli"]] := by
  constructor
  · rw [items_numbered]
    rfl
  · rw [names?, parse, items_numbered]
    rfl

end GroupFile
end Convoy
