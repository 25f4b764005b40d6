import Convoy.Profile.Book
import Convoy.Proofs.Data.Elision

/-!
# The round trip of profiles

A profile that was written reads back as it was. It may be written in fewer words: without the
fields that say what stands where nothing is said, and with a flag for a restart policy that a flag
stands for.
-/
namespace Convoy

open Data Data.Decode Data.Record

/-- Whether a duration is read back from its number of seconds. -/
def Nanoseconds.IsExact (duration : Nanoseconds) : Prop :=
  Nanoseconds.ofSeconds? (Nanoseconds.seconds duration) = some duration

instance : DecidablePred Nanoseconds.IsExact := fun duration =>
  inferInstanceAs (Decidable (Nanoseconds.ofSeconds? (Nanoseconds.seconds duration) = _))

theorem Nanoseconds.read_write {duration : Nanoseconds} (exact : IsExact duration) :
    read (write duration) = pure duration := by
  rw [IsExact] at exact
  simp [read, write, exact]

theorem Restart.read_write (restart : Restart) : read restart.write = pure restart := by
  cases restart <;> rfl

structure Backoff.IsExact (backoff : Backoff) : Prop where
  base : Nanoseconds.IsExact backoff.base
  max : Nanoseconds.IsExact backoff.max

theorem Backoff.read_write {backoff : Backoff} (exact : backoff.IsExact) :
    read backoff.write = pure backoff := by
  rw [read, write, readRecord_record (by simp [fieldNames]) (by decide)]
  simp [Nanoseconds.read_write exact.base, Nanoseconds.read_write exact.max]

theorem Refusal.read_write (refusal : Refusal) : read refusal.write = pure refusal := by
  rw [read, write, readRecord_record (by simp) (by decide)]
  simp

theorem Backoff.isExact_immediate : immediate.IsExact :=
  ⟨by decide +kernel, by decide +kernel⟩

theorem Backoff.isExact_reconnect : reconnect.IsExact :=
  ⟨by decide +kernel, by decide +kernel⟩

namespace Registration

variable (registration : Registration)

/-- What a registration is written of. -/
def parts : List Entries :=
  [field "name" (.text registration.name),
   field "user" (.text registration.user),
   field "role" (.text registration.role),
   fieldIfSome "hostname" .text registration.hostname,
   fieldIfSome "principal" .text registration.principal,
   field "checkpoint" (.bool registration.checkpoint),
   fieldIfSome "failover_timeout" .float registration.failoverTimeout]

theorem write_eq_record : registration.write = record registration.parts :=
  rfl

theorem laid_parts : Laid fieldNames registration.parts := by
  simp [fieldNames, parts]

theorem nodup_fieldNames : fieldNames.Nodup := by
  decide

theorem read_write : read registration.write = pure registration := by
  rw [write_eq_record, read, readRecord_record registration.laid_parts nodup_fieldNames]
  simp [parts, readIfSome_map readText_text nofun, readIfSome_map readFloat_float nofun]

end Registration

namespace Profile

variable (profile : Profile)

/-- What a profile is written of, where its registration and its restart policy may be written in
any way. -/
def partsWith (registration restart : Datum) : List Entries :=
  [field "master" (.text profile.master),
   field "scheme" (.text profile.scheme),
   field "framework" registration,
   field "restart" restart,
   field "sync" (.bool profile.sync),
   fieldIfSome "max_restarts" (fun limit : UInt32 => .int limit.toNat) profile.maxRestarts,
   field "restart_backoff" profile.restartBackoff.write,
   field "reconnect_backoff" profile.reconnectBackoff.write,
   field "refuse" profile.refusal.write,
   field "teardown" (.bool profile.teardown),
   field "log_level" (.text profile.logLevel)]

theorem write_eq_record :
    profile.write =
      record (profile.partsWith profile.registration.write profile.restart.write) :=
  rfl

theorem laid_partsWith (registration restart : Datum) :
    Laid fieldNames (profile.partsWith registration restart) := by
  simp [fieldNames, partsWith]

theorem nodup_fieldNames : fieldNames.Nodup := by
  decide

structure IsExact : Prop where
  restart : profile.restartBackoff.IsExact
  reconnect : profile.reconnectBackoff.IsExact

variable {profile}

theorem read_write (exact : profile.IsExact) : read profile.write = pure profile := by
  rw [write_eq_record, read, readRecord_record (profile.laid_partsWith _ _) nodup_fieldNames]
  simp [partsWith, Registration.read_write, Restart.read_write,
    readIfSome_map readUInt32_int nofun, Backoff.read_write exact.restart,
    Backoff.read_write exact.reconnect, Refusal.read_write]

end Profile

/-- The flag that stands for a written policy, where there is one. -/
def Restart.asFlag : Datum → Datum
  | .text "never" => .bool false
  | .text "always" => .bool true
  | datum => datum

theorem Restart.read_asFlag (restart : Restart) :
    read (asFlag restart.write) = pure restart := by
  cases restart <;> rfl

/-- How a profile may be written in fewer words. -/
structure Abridgement where
  /-- The fields that are left out. -/
  fields : List String := []
  /-- The fields of the registration that are left out. -/
  registration : List String := []
  /-- Whether a restart policy is written as a flag where there is one for it. -/
  flag : Bool := false

namespace Abridgement

variable (cut : Abridgement) (profile : Profile)

/-- What is left of a profile in full. -/
def apply (written : Datum) : Datum :=
  (((written.rewritten "framework" (·.without cut.registration)).rewritten "restart"
    (if cut.flag then Restart.asFlag else id))).without cut.fields

/-- Only what stands where nothing is said is left out. -/
structure Spares : Prop where
  fields : ∀ name ∈ cut.fields,
    profile.write.field? Profile.fieldNames name =
      (({} : Profile).write).field? Profile.fieldNames name
  registration : ∀ name ∈ cut.registration,
    profile.registration.write.field? Registration.fieldNames name =
      (({} : Registration).write).field? Registration.fieldNames name

theorem apply_write :
    cut.apply profile.write =
      (record (profile.partsWith (profile.registration.write.without cut.registration)
        (if cut.flag then Restart.asFlag profile.restart.write else profile.restart.write))).without
        cut.fields := by
  rw [apply, Profile.write_eq_record, rewritten_record, rewritten_record]
  congr 2
  cases cut.flag <;> simp [Profile.partsWith]

end Abridgement

theorem Registration.read_without {registration : Registration} {gone : List String}
    (spared : ∀ name ∈ gone, registration.write.field? fieldNames name =
      (({} : Registration).write).field? fieldNames name) :
    read (registration.write.without gone) = pure registration := by
  have agree : ∀ name ∈ fieldNames, name ∈ gone →
      (Record.ofParts registration.parts).fields.lookup name =
        (Record.ofParts ({} : Registration).parts).fields.lookup name := by
    intro name known listed
    have same := spared name listed
    rwa [write_eq_record, write_eq_record, field?_record (laid_parts _) nodup_fieldNames known,
      field?_record (laid_parts _) nodup_fieldNames known] at same
  simp only [fieldNames, List.forall_mem_cons] at agree
  simp [parts] at agree
  obtain ⟨name, user, role, hostname, principal, checkpoint, failoverTimeout⟩ := agree
  rw [write_eq_record, without_record, read,
    readRecord_record registration.laid_parts.cut nodup_fieldNames]
  simp [parts, readIfGiven_unless_eq (readText_text _) name,
    readIfGiven_unless_eq (readText_text _) user, readIfGiven_unless_eq (readText_text _) role,
    readIfSome_unless readText_text nofun hostname,
    readIfSome_unless readText_text nofun principal,
    readIfGiven_unless_eq (readBool_bool _) checkpoint,
    readIfSome_unless readFloat_float nofun failoverTimeout]

theorem Profile.read_without {profile : Profile} {gone : List String} {registration restart : Datum}
    (inner : Registration.read registration = pure profile.registration)
    (policy : Restart.read restart = pure profile.restart)
    (spared : ∀ name ∈ gone, profile.write.field? fieldNames name =
      (({} : Profile).write).field? fieldNames name) :
    read ((record (profile.partsWith registration restart)).without gone) =
      read profile.write := by
  have agree : ∀ name ∈ fieldNames, name ∈ gone →
      (Record.ofParts (profile.partsWith profile.registration.write
        profile.restart.write)).fields.lookup name =
      (Record.ofParts (({} : Profile).partsWith ({} : Registration).write
        Restart.never.write)).fields.lookup name := by
    intro name known listed
    have same := spared name listed
    rwa [write_eq_record, write_eq_record,
      field?_record (laid_partsWith _ _ _) nodup_fieldNames known,
      field?_record (laid_partsWith _ _ _) nodup_fieldNames known] at same
  simp only [fieldNames, List.forall_mem_cons] at agree
  simp [partsWith] at agree
  obtain ⟨master, scheme, framework, policyKept, sync, maxRestarts, backoff, reconnect, refusal,
    teardown, logLevel⟩ := agree
  have usualFramework : "framework" ∈ gone → Registration.read registration = pure {} :=
    fun listed => by
      rw [inner, ← Registration.read_write, framework listed, Registration.read_write]
  have usualRestart : "restart" ∈ gone → Restart.read restart = pure .never := fun listed => by
    rw [policy, ← Restart.read_write, policyKept listed, Restart.read_write]
  have usualBackoff : "restart_backoff" ∈ gone →
      Backoff.read profile.restartBackoff.write = pure .immediate := fun listed => by
    rw [backoff listed, Backoff.read_write Backoff.isExact_immediate]
  have usualReconnect : "reconnect_backoff" ∈ gone →
      Backoff.read profile.reconnectBackoff.write = pure .reconnect := fun listed => by
    rw [reconnect listed, Backoff.read_write Backoff.isExact_reconnect]
  have usualRefusal : "refuse" ∈ gone →
      Refusal.read profile.refusal.write = pure .standard := fun listed => by
    rw [refusal listed, Refusal.read_write]
  rw [write_eq_record, without_record, read,
    readRecord_record (profile.laid_partsWith _ _).cut nodup_fieldNames,
    readRecord_record (profile.laid_partsWith _ _) nodup_fieldNames]
  simp [partsWith, readIfGiven_unless_eq (readText_text _) master,
    readIfGiven_unless_eq (readText_text _) scheme, readIfGiven_unless usualFramework, inner,
    readIfGiven_unless usualRestart, policy, readIfGiven_unless_eq (readBool_bool _) sync,
    readIfSome_unless readUInt32_int nofun maxRestarts, readIfGiven_unless usualBackoff,
    readIfGiven_unless usualReconnect, readIfGiven_unless usualRefusal,
    readIfGiven_unless_eq (readBool_bool _) teardown,
    readIfGiven_unless_eq (readText_text _) logLevel, Registration.read_write, Restart.read_write,
    readIfSome_map readUInt32_int nofun]

/-- What is left of a profile in full reads as the profile in full. -/
theorem Abridgement.Spares.read_apply {cut : Abridgement} {profile : Profile}
    (spares : cut.Spares profile) :
    Profile.read (cut.apply profile.write) = Profile.read profile.write := by
  rw [apply_write]
  refine Profile.read_without (Registration.read_without spares.registration) ?_ spares.fields
  split
  · exact Restart.read_asFlag _
  · exact Restart.read_write _

end Convoy
