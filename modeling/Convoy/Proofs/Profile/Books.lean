import Convoy.Proofs.Json.RoundTrip
import Convoy.Proofs.Profile.RoundTrip

/-!
# The round trip of books

The text of a book of profiles is read as the book, and so is that of the book with its profiles in
fewer words. Of the numbers in a book it is assumed that their texts are exact.
-/
namespace Convoy

open Data Data.Decode Data.Record

theorem alterEntries_of_above {α : Type} {name : String} {change : Option α → α}
    {entries : List (String × α)} (above : ∀ entry ∈ entries, entry.1 < name) :
    alterEntries name change entries = entries ++ [(name, change none)] := by
  induction entries with
  | nil => rfl
  | cons entry rest ih =>
    obtain ⟨known, value⟩ := entry
    obtain ⟨first, later⟩ := List.forall_mem_cons.1 above
    have distinct : name ≠ known := fun same => String.lt_irrefl known (same ▸ first)
    rw [alterEntries, if_neg (String.lt_asymm first), if_neg distinct, ih later]
    rfl

namespace ProfileBook

/-- A book in which every profile may be written in fewer words. -/
def writeBriefly (cuts : String → Abridgement) (book : ProfileBook) : Datum :=
  record
    [field "profiles"
      (.map (book.profiles.entries.map fun (name, profile) =>
        (.text name, (cuts name).apply profile.write)))]

/-- Profiles are read one after another into the table that they were written from. -/
theorem readProfiles_map (encode : String → Profile → Datum) (known : Table Profile)
    {rest : List (String × Profile)} (sorted : IsSorted (known.entries ++ rest))
    (again : ∀ entry ∈ rest, Profile.read (encode entry.1 entry.2) = pure entry.2)
    {whole : Table Profile} (all : whole.entries = known.entries ++ rest) :
    readProfiles (rest.map fun entry => (.text entry.1, encode entry.1 entry.2)) known =
      pure whole := by
  induction rest generalizing known with
  | nil =>
    have same : known = whole := by
      cases known
      cases whole
      simp_all
    exact congrArg pure same
  | cons entry rest ih =>
    obtain ⟨first, later⟩ := List.forall_mem_cons.1 again
    have above : ∀ before ∈ known.entries, before.1 < entry.1 := fun before member =>
      (List.pairwise_append.1 sorted).2.2 before member entry List.mem_cons_self
    have next : (known.put entry.1 entry.2).entries = known.entries ++ [entry] :=
      alterEntries_of_above above
    rw [List.map_cons, readProfiles, first, pure_bind]
    exact ih _ (by simpa [next] using sorted) later (by simpa [next] using all)

/-- Whether every duration of a book is read back from its number of seconds. -/
def IsExact (book : ProfileBook) : Prop :=
  ∀ entry ∈ book.profiles.entries, entry.2.IsExact

theorem read_writeBriefly {book : ProfileBook} (exact : book.IsExact)
    {cuts : String → Abridgement}
    (spares : ∀ entry ∈ book.profiles.entries, (cuts entry.1).Spares entry.2) :
    read (book.writeBriefly cuts) = pure book := by
  have again : ∀ entry ∈ book.profiles.entries,
      Profile.read ((cuts entry.1).apply entry.2.write) = pure entry.2 := fun entry member => by
    rw [(spares entry member).read_apply, Profile.read_write (exact entry member)]
  have table : readTable (.map (book.profiles.entries.map fun (name, profile) =>
      (.text name, (cuts name).apply profile.write))) = pure book.profiles :=
    readProfiles_map (fun name profile => (cuts name).apply profile.write) .empty
      book.profiles.sorted again rfl
  rw [read, writeBriefly, readRecord_record (by simp) (by decide)]
  simp [table]

end ProfileBook

section Texts

variable {depth : Nat}

theorem Backoff.isWritable_write {backoff : Backoff} (shallow : depth < Json.depthLimit)
    (told : backoff.write.Every Json.TellsNumber) : Json.IsWritable depth backoff.write := by
  simp [write, Nanoseconds.write] at told
  simp [write, Nanoseconds.write, shallow, told]

theorem Refusal.isWritable_write {refusal : Refusal} (shallow : depth < Json.depthLimit)
    (told : refusal.write.Every Json.TellsNumber) : Json.IsWritable depth refusal.write := by
  simp [write] at told
  simp [write, shallow, told]

theorem Registration.isWritable_write {registration : Registration}
    (shallow : depth < Json.depthLimit) (told : registration.write.Every Json.TellsNumber) :
    Json.IsWritable depth registration.write := by
  simp [write, EveryIfSome] at told
  simpa [write, shallow] using told.2.2.2.2.2.2

theorem Json.isWritable_uint32 (value : UInt32) : IsWritable depth (.int value.toNat) := by
  have small := value.toNat_lt
  constructor
  · have nonnegative : (0 : Int) ≤ value.toNat := Int.natCast_nonneg _
    exact Int.le_trans (by decide) nonnegative
  · exact Int.ofNat_lt.2 (Nat.lt_trans small (by decide))

theorem Json.IsWritable.without {datum : Datum} (writable : IsWritable depth datum)
    (gone : List String) : IsWritable depth (datum.without gone) := by
  cases datum with
  | map entries => exact ⟨writable.1, writable.2.filter _⟩
  | _ => exact writable

theorem Restart.isWritable_asFlag (restart : Restart) :
    Json.IsWritable depth (asFlag restart.write) := by
  cases restart <;> simp [write, name, asFlag]

theorem Abridgement.isWritable_apply {profile : Profile} (shallow : depth + 1 < Json.depthLimit)
    (told : profile.write.Every Json.TellsNumber) (cut : Abridgement) :
    Json.IsWritable depth (cut.apply profile.write) := by
  simp only [Profile.write, every_record, List.forall_mem_cons, everyPart_field] at told
  obtain ⟨-, -, registration, -, -, -, restart, reconnect, refusal, -, -, -⟩ := told
  have policy : Json.IsWritable (depth + 1)
      (if cut.flag then Restart.asFlag profile.restart.write else profile.restart.write) := by
    split
    · exact profile.restart.isWritable_asFlag
    · exact Json.isWritable_text
  rw [apply_write]
  refine Json.IsWritable.without ?_ _
  simpa [Profile.partsWith, Json.isWritable_uint32] using
    ⟨Nat.lt_of_succ_lt shallow,
     (Registration.isWritable_write shallow registration).without cut.registration, policy,
     Backoff.isWritable_write shallow restart, Backoff.isWritable_write shallow reconnect,
     Refusal.isWritable_write shallow refusal⟩

namespace ProfileBook

theorem isWritable_writeBriefly {book : ProfileBook}
    (exact : ∀ number ∈ book.write.floats, Json.IsExact number) (cuts : String → Abridgement) :
    Json.IsWritable 0 (book.writeBriefly cuts) := by
  have told := Json.every_tellsNumber exact
  simp only [write, every_record, List.forall_mem_singleton, everyPart_field, Datum.every_map,
    List.forall_mem_map] at told
  have each : ∀ entries : List (String × Profile),
      (∀ entry ∈ entries, entry.2.write.Every Json.TellsNumber) →
      Json.EntriesWritable 2 (entries.map fun (name, profile) =>
        (.text name, (cuts name).apply profile.write)) := by
    intro entries known
    induction entries with
    | nil => trivial
    | cons entry rest ih =>
      obtain ⟨first, later⟩ := List.forall_mem_cons.1 known
      exact ⟨Abridgement.isWritable_apply (by decide) first _, ih later⟩
  rw [writeBriefly, Json.isWritable_record, List.forall_mem_singleton, Json.entriesWritable_field]
  exact ⟨by decide, by decide, each _ told⟩

/-- A text of a book, in full or in fewer words, is read as the book. -/
theorem ofText?_writeBriefly {book : ProfileBook} (durations : book.IsExact)
    (numbers : ∀ number ∈ book.write.floats, Json.IsExact number) {cuts : String → Abridgement}
    (spares : ∀ entry ∈ book.profiles.entries, (cuts entry.1).Spares entry.2) :
    ofText? (Json.pretty (book.writeBriefly cuts)) = some book := by
  have done : Reader.run read (book.writeBriefly cuts) ⟨0⟩ = .ok (book, ⟨0⟩) := by
    rw [Reader.run, read_writeBriefly durations spares]
    rfl
  simp [ofText?, Json.read?_pretty (isWritable_writeBriefly numbers cuts), done]

theorem writeBriefly_nothing (book : ProfileBook) :
    book.writeBriefly (fun _ => {}) = book.write := by
  have whole : ∀ profile : Profile, ({} : Abridgement).apply profile.write = profile.write :=
    fun profile => by
      rw [Abridgement.apply_write, without_nil, without_nil]
      rfl
  simp only [writeBriefly, write, whole]

end ProfileBook

end Texts

/-- A book is read back from its text, in full or with its profiles in fewer words; and fewer words
never change what is read of a profile. -/
theorem profiles_survive :
    (∀ book : ProfileBook, book.IsExact →
      (∀ number ∈ book.write.floats, Json.IsExact number) →
      ProfileBook.ofText? book.text = some book ∧
      ∀ cuts : String → Abridgement,
        (∀ entry ∈ book.profiles.entries, (cuts entry.1).Spares entry.2) →
        ProfileBook.ofText? (Json.pretty (book.writeBriefly cuts)) = some book) ∧
    ∀ (profile : Profile) (cut : Abridgement), cut.Spares profile →
      Profile.read (cut.apply profile.write) = Profile.read profile.write := by
  refine ⟨fun book durations numbers => ⟨?_, fun cuts spares => ?_⟩, fun profile cut spares => ?_⟩
  · have nothing : ∀ entry ∈ book.profiles.entries, ({} : Abridgement).Spares entry.2 :=
      fun _ _ => ⟨nofun, nofun⟩
    rw [ProfileBook.text, ← book.writeBriefly_nothing]
    exact ProfileBook.ofText?_writeBriefly durations numbers nothing
  · exact ProfileBook.ofText?_writeBriefly durations numbers spares
  · exact spares.read_apply

/-- A profile with settings of its own, and the same in as few words as it can be written. -/
def busyProfile : Profile where
  master := "mesos.internal:5050"
  registration := { role := "batch", principal := some "ops", failoverTimeout := some 60.0 }
  restart := .always
  maxRestarts := some 3
  restartBackoff := ⟨500000000, 30 * Nanoseconds.perSecond, 0.5⟩

def busyBook : ProfileBook where
  profiles := (Table.empty.put "prod" busyProfile).put "default" {}

def busyCut : Abridgement where
  fields := ["scheme", "sync", "reconnect_backoff", "refuse", "teardown", "log_level"]
  registration := ["name", "user", "hostname", "checkpoint"]
  flag := true

theorem profiles_survive_busy :
    busyBook.IsExact ∧ (∀ number ∈ busyBook.write.floats, Json.IsExact number) ∧
    busyCut.Spares busyProfile ∧
    ProfileBook.ofText? busyBook.text = some busyBook ∧
    Profile.read (busyCut.apply busyProfile.write) = Profile.read busyProfile.write := by
  have entries : busyBook.profiles.entries = [("default", {}), ("prod", busyProfile)] := rfl
  have durations : busyBook.IsExact := by
    rw [ProfileBook.IsExact, entries]
    simp only [List.forall_mem_cons]
    exact ⟨⟨Backoff.isExact_immediate, Backoff.isExact_reconnect⟩,
      ⟨⟨by decide +kernel, by decide +kernel⟩, Backoff.isExact_reconnect⟩,
      List.forall_mem_nil _⟩
  have floats : busyBook.write.floats =
      [0.0, 0.0, 0.0, 1.0, 15.0, 0.0, 1.0, 5.0, 60.0, 0.5, 30.0, 0.5, 1.0, 15.0, 0.0, 1.0, 5.0] :=
    rfl
  have numbers : ∀ number ∈ busyBook.write.floats, Json.IsExact number := by
    rw [floats]
    iterate 17 refine List.forall_mem_cons.2 ⟨rfl, ?_⟩
    exact List.forall_mem_nil _
  have spares : busyCut.Spares busyProfile := by
    constructor
    · iterate 6 refine List.forall_mem_cons.2 ⟨rfl, ?_⟩
      exact List.forall_mem_nil _
    · iterate 4 refine List.forall_mem_cons.2 ⟨rfl, ?_⟩
      exact List.forall_mem_nil _
  exact ⟨durations, numbers, spares, (profiles_survive.1 busyBook durations numbers).1,
    profiles_survive.2 busyProfile busyCut spares⟩

end Convoy
