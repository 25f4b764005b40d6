import Convoy.Proofs.Wire.Survival
import Convoy.Wire.Call
import Convoy.Wire.Event

/-!
# The round trip of messages

Calls, events and operations are written under a tag and read by it. With them every message of the
protocol survives: whatever was read is written as a datum that reads back as the same value.
-/
namespace Convoy

open Data Data.Decode Data.Record

variable {admits : Float → Prop}

/-- The tasks of a group, as they stand in an operation. -/
def writeTaskGroup (tasks : List Task) : Datum :=
  record [field "tasks" (listOf Task.write tasks)]

def readTaskGroup : Reader (List Task) :=
  readRecord ["tasks"] fun fields => fields.required "tasks" (readList Task.read)

theorem saves_readTaskGroup : Saves admits readTaskGroup writeTaskGroup :=
  saves_record fun fields source => by
    refine (ensures_required source (saves_list Task.saves_read)).imp fun tasks _ => ?_
    refine lasts_record rfl ?_ ?_ ?_ ?_ <;> simp [*]

namespace Operation

theorem ensures_readLaunch {datum : Datum} (source : datum.Source admits) :
    (readLaunch datum).Ensures (Lasts admits Operation.read Operation.write) :=
  ensures_record source fun fields source => by
    refine ensures_bind (ensures_required source (saves_list Task.saves_read)) fun tasks _ => ?_
    apply ensures_pure
    apply lasts_payload readLaunch (held (readPayload "launch" readLaunch)) rfl held_eq_pure rfl
    case branch =>
      intro _ _ found
      rw [Operation.read, found]
      rfl
    all_goals simp [*]

theorem ensures_readLaunchGroup {datum : Datum} (source : datum.Source admits) :
    (readLaunchGroup datum).Ensures (Lasts admits Operation.read Operation.write) :=
  ensures_record source fun fields source => by
    refine ensures_bind (ensures_required source Executor.saves_read) fun executor _ => ?_
    refine ensures_bind (ensures_required source saves_readTaskGroup) fun tasks group => ?_
    unfold readTaskGroup writeTaskGroup at group
    apply ensures_pure
    apply lasts_payload readLaunchGroup
      (held (readPayload "launch_group" readLaunchGroup)) rfl held_eq_pure rfl
    case branch =>
      intro _ _ found
      rw [Operation.read, found]
      rfl
    all_goals simp [*]

theorem saves_read : Saves admits Operation.read Operation.write :=
  saves_of_lasts fun datum source => by
    refine ensures_bind (ensures_readTagged source) fun ⟨tag, payload⟩ source => ?_
    refine ensures_bind ensures_anything fun known _ => ?_
    split
    · exact ensures_held (ensures_payload source fun _ => ensures_readLaunch)
    · exact ensures_held (ensures_payload source fun _ => ensures_readLaunchGroup)
    · exact ensures_throw

end Operation

theorem Filters.saves_read : Saves admits Filters.read Filters.write :=
  saves_record fun fields source => by
    refine ensures_bind (ensures_required source saves_float) fun refuseSeconds _ => ?_
    refine ensures_pure (lasts_record rfl ?_ ?_ ?_ ?_) <;> simp_all

namespace CallBody

/-- A body as it is written on its own, without the framework's identity. -/
def write (body : CallBody) : Datum :=
  record [field "type" (.text body.kind), body.payload]

theorem ensures_readSubscribe {datum : Datum} (source : datum.Source admits) :
    (readSubscribe datum).Ensures (Lasts admits CallBody.read CallBody.write) :=
  ensures_record source fun fields source => by
    refine ensures_bind (ensures_required source Framework.saves_read) fun framework _ => ?_
    apply ensures_pure
    apply lasts_payload readSubscribe (readPayload "subscribe" readSubscribe) rfl id rfl
    case branch =>
      intro _ _ found
      rw [CallBody.read, found]
      rfl
    all_goals simp [*]

theorem ensures_readAccept {datum : Datum} (source : datum.Source admits) :
    (readAccept datum).Ensures (Lasts admits CallBody.read CallBody.write) :=
  ensures_record source fun fields source => by
    refine ensures_bind (ensures_required source (saves_list Identifier.savesAll_read.saves))
      fun offers _ => ?_
    refine ensures_bind (ensures_list source Operation.saves_read) fun operations _ => ?_
    refine ensures_bind (ensures_optional source Filters.saves_read) fun filters _ => ?_
    apply ensures_pure
    apply lasts_payload readAccept (readPayload "accept" readAccept) rfl id rfl
    case branch =>
      intro _ _ found
      rw [CallBody.read, found]
      rfl
    all_goals simp [*]

theorem ensures_readDecline {datum : Datum} (source : datum.Source admits) :
    (readDecline datum).Ensures (Lasts admits CallBody.read CallBody.write) :=
  ensures_record source fun fields source => by
    refine ensures_bind (ensures_required source (saves_list Identifier.savesAll_read.saves))
      fun offers _ => ?_
    refine ensures_bind (ensures_optional source Filters.saves_read) fun filters _ => ?_
    apply ensures_pure
    apply lasts_payload readDecline (readPayload "decline" readDecline) rfl id rfl
    case branch =>
      intro _ _ found
      rw [CallBody.read, found]
      rfl
    all_goals simp [*]

theorem ensures_readAcknowledge {datum : Datum} (source : datum.Source admits) :
    (readAcknowledge datum).Ensures (Lasts admits CallBody.read CallBody.write) :=
  ensures_record source fun fields source => by
    refine ensures_bind (ensures_required source Identifier.savesAll_read.saves) fun agent _ => ?_
    refine ensures_bind (ensures_required source Identifier.savesAll_read.saves) fun task _ => ?_
    refine ensures_bind (ensures_required source savesAll_text.saves) fun uuid _ => ?_
    apply ensures_pure
    apply lasts_payload readAcknowledge (readPayload "acknowledge" readAcknowledge) rfl id rfl
    case branch =>
      intro _ _ found
      rw [CallBody.read, found]
      rfl
    all_goals simp [*]

theorem lasts_teardown : Lasts admits CallBody.read CallBody.write .teardown := by
  apply lasts_tagged (fun payload => do readNothing payload; return CallBody.teardown) rfl
  case branch =>
    intro _ _ found
    rw [CallBody.read, found]
    rfl
  case again => rfl
  all_goals simp [payload, EveryPart]

theorem lasts_revive : Lasts admits CallBody.read CallBody.write .revive := by
  apply lasts_tagged (fun payload => do readNothing payload; return CallBody.revive) rfl
  case branch =>
    intro _ _ found
    rw [CallBody.read, found]
    rfl
  case again => rfl
  all_goals simp [payload, EveryPart]

theorem saves_read : Saves admits CallBody.read CallBody.write :=
  saves_of_lasts fun datum source => by
    refine ensures_bind (ensures_readTagged source) fun ⟨tag, payload⟩ source => ?_
    refine ensures_bind ensures_anything fun known _ => ?_
    split
    · exact ensures_payload source fun _ => ensures_readSubscribe
    · exact ensures_bind ensures_anything fun _ _ => ensures_pure lasts_teardown
    · exact ensures_payload source fun _ => ensures_readAccept
    · exact ensures_payload source fun _ => ensures_readDecline
    · exact ensures_bind ensures_anything fun _ _ => ensures_pure lasts_revive
    · exact ensures_payload source fun _ => ensures_readAcknowledge
    · exact ensures_throw

end CallBody

namespace Call

theorem isFrameworkEntry_body {body : CallBody} {entry : Key × Datum}
    (member : entry ∈ [field "type" (.text body.kind), body.payload].flatten) :
    isFrameworkEntry entry = false := by
  rw [List.flatten_cons, List.flatten_singleton] at member
  obtain tag | payload := List.mem_append.1 member
  · obtain rfl := List.mem_singleton.1 tag
    rfl
  · cases body with
    | teardown | revive => exact absurd payload List.not_mem_nil
    | _ =>
      obtain rfl := List.mem_singleton.1 payload
      rfl

theorem isFrameworkEntry_framework {framework : Option FrameworkId} {entry : Key × Datum}
    (member : entry ∈ fieldIfSome "framework_id" Identifier.write framework) :
    isFrameworkEntry entry = true := by
  cases framework with
  | none => exact absurd member List.not_mem_nil
  | some id =>
    obtain rfl := List.mem_singleton.1 member
    rfl

theorem readFramework_write (framework : Option FrameworkId) :
    readFramework (fieldIfSome "framework_id" Identifier.write framework) = pure framework := by
  cases framework with
  | none => rfl
  | some id =>
    have known : Lasts (fun _ => True) Identifier.read Identifier.write id :=
      Identifier.savesAll_read id
    change some <$> Identifier.read id.write = _
    rw [known.1.1, map_pure]

theorem again {framework : Option FrameworkId} {body : CallBody}
    (known : Survives admits CallBody.read CallBody.write body) :
    Call.read (Call.write ⟨framework, body⟩) = pure ⟨framework, body⟩ := by
  let identity := fieldIfSome "framework_id" Identifier.write framework
  let rest := [field "type" (.text body.kind), body.payload].flatten
  have named : (identity ++ rest).filter isFrameworkEntry = identity := by
    rw [List.filter_append, List.filter_eq_self.2 fun _ => isFrameworkEntry_framework,
      List.filter_eq_nil_iff.2, List.append_nil]
    exact fun entry member => by simp [isFrameworkEntry_body member]
  have others : (identity ++ rest).filter (fun entry => !isFrameworkEntry entry) = rest := by
    rw [List.filter_append, List.filter_eq_nil_iff.2, List.nil_append, List.filter_eq_self]
    · exact fun entry member => by simp [isFrameworkEntry_body member]
    · exact fun entry member => by simp [isFrameworkEntry_framework member]
  have readable : Datum.entriesReadable rest = true := Datum.Copy.isReadable known.2
  have held : held CallBody.read (.map rest) = pure body := held_eq_pure known.1
  change Call.read (.map (identity ++ rest)) = _
  simp only [Call.read, named, others, readable, if_true, held]
  rw [readFramework_write]
  simp

theorem saves_read : Saves admits Call.read Call.write := by
  intro datum source
  cases datum with
  | map entries =>
    have all := Datum.every_map.1 source
    refine ensures_bind ensures_anything fun framework _ => ?_
    dsimp only
    split
    · let rest := entries.filter fun entry => !isFrameworkEntry entry
      have source : (Datum.map rest).Source admits :=
        Datum.every_map.2 fun entry member => all entry (List.mem_filter.1 member).1
      refine ensures_bind (ensures_held (CallBody.saves_read.survives source)) fun body known => ?_
      refine ensures_pure ⟨⟨again known, ?_⟩, fun _ => nofun⟩
      have named : EveryIfSome (Datum.Fits admits) (framework.map Identifier.write) :=
        (Identifier.savesAll_read.keeps framework).2
      have fits := known.2
      simpa [Call.write, CallBody.write, named] using fits
    · exact ensures_throw
  | _ => exact ensures_throw

end Call

theorem Offer.saves_read : Saves admits Offer.read Offer.write :=
  saves_record fun fields source => by
    refine ensures_bind (ensures_required source Identifier.savesAll_read.saves) fun id _ => ?_
    refine ensures_bind (ensures_optional source Identifier.savesAll_read.saves)
      fun framework _ => ?_
    refine ensures_bind (ensures_required source Identifier.savesAll_read.saves) fun agent _ => ?_
    refine ensures_bind (ensures_preset source savesAll_text) fun hostname _ => ?_
    refine ensures_bind (ensures_list source Resource.saves_read) fun resources _ => ?_
    refine ensures_pure (lasts_record rfl ?_ ?_ ?_ ?_) <;> simp [Offer.fieldNames, *]

theorem InverseOffer.saves_read : Saves admits InverseOffer.read InverseOffer.write :=
  saves_record fun fields source => by
    refine ensures_bind (ensures_required source Identifier.savesAll_read.saves) fun id _ => ?_
    refine ensures_bind (ensures_optional source Identifier.savesAll_read.saves) fun agent _ => ?_
    refine ensures_pure (lasts_record rfl ?_ ?_ ?_ ?_) <;> simp [*]

namespace Event

variable {datum : Datum}

theorem ensures_readSubscribed (source : datum.Source admits) :
    (readSubscribed datum).Ensures (Lasts admits Event.read Event.write) :=
  ensures_record source fun fields source => by
    refine ensures_bind (ensures_required source Identifier.savesAll_read.saves)
      fun framework _ => ?_
    refine ensures_bind (ensures_optional source saves_float) fun interval _ => ?_
    refine ensures_bind (ensures_optional source Master.saves_read) fun master _ => ?_
    apply ensures_pure
    apply lasts_payload readSubscribed
      (held (readPayload "subscribed" readSubscribed)) rfl held_eq_pure rfl
    case branch =>
      intro _ _ found
      rw [Event.read, found]
      rfl
    all_goals simp [*]

theorem ensures_readOffers (source : datum.Source admits) :
    (readOffers datum).Ensures (Lasts admits Event.read Event.write) :=
  ensures_record source fun fields source => by
    refine ensures_bind (ensures_list source Offer.saves_read) fun offers _ => ?_
    apply ensures_pure
    apply lasts_payload readOffers (held (readPayload "offers" readOffers)) rfl held_eq_pure rfl
    case branch =>
      intro _ _ found
      rw [Event.read, found]
      rfl
    all_goals simp [*]

theorem ensures_readInverseOffers (source : datum.Source admits) :
    (readInverseOffers datum).Ensures (Lasts admits Event.read Event.write) :=
  ensures_record source fun fields source => by
    refine ensures_bind (ensures_list source InverseOffer.saves_read) fun offers _ => ?_
    apply ensures_pure
    apply lasts_payload readInverseOffers
      (held (readPayload "inverse_offers" readInverseOffers)) rfl held_eq_pure rfl
    case branch =>
      intro _ _ found
      rw [Event.read, found]
      rfl
    all_goals simp [*]

theorem ensures_readRescind (source : datum.Source admits) :
    (readRescind datum).Ensures (Lasts admits Event.read Event.write) :=
  ensures_record source fun fields source => by
    refine ensures_bind (ensures_required source Identifier.savesAll_read.saves) fun offer _ => ?_
    apply ensures_pure
    apply lasts_payload readRescind (held (readPayload "rescind" readRescind)) rfl held_eq_pure rfl
    case branch =>
      intro _ _ found
      rw [Event.read, found]
      rfl
    all_goals simp [*]

theorem ensures_readRescindInverseOffer (source : datum.Source admits) :
    (readRescindInverseOffer datum).Ensures (Lasts admits Event.read Event.write) :=
  ensures_record source fun fields source => by
    refine ensures_bind (ensures_required source Identifier.savesAll_read.saves) fun offer _ => ?_
    apply ensures_pure
    apply lasts_payload readRescindInverseOffer
      (held (readPayload "rescind_inverse_offer" readRescindInverseOffer)) rfl held_eq_pure rfl
    case branch =>
      intro _ _ found
      rw [Event.read, found]
      rfl
    all_goals simp [*]

theorem ensures_readUpdate (source : datum.Source admits) :
    (readUpdate datum).Ensures (Lasts admits Event.read Event.write) :=
  ensures_record source fun fields source => by
    refine ensures_bind (ensures_required source Status.saves_read) fun status _ => ?_
    apply ensures_pure
    apply lasts_payload readUpdate (held (readPayload "update" readUpdate)) rfl held_eq_pure rfl
    case branch =>
      intro _ _ found
      rw [Event.read, found]
      rfl
    all_goals simp [*]

theorem ensures_readMessage (source : datum.Source admits) :
    (readMessage datum).Ensures (Lasts admits Event.read Event.write) :=
  ensures_record source fun fields source => by
    refine ensures_bind (ensures_required source Identifier.savesAll_read.saves) fun agent _ => ?_
    refine ensures_bind (ensures_required source Identifier.savesAll_read.saves)
      fun executor _ => ?_
    refine ensures_bind (ensures_preset source savesAll_text) fun data _ => ?_
    apply ensures_pure
    apply lasts_payload readMessage (held (readPayload "message" readMessage)) rfl held_eq_pure rfl
    case branch =>
      intro _ _ found
      rw [Event.read, found]
      rfl
    all_goals simp [*]

theorem ensures_readFailure (source : datum.Source admits) :
    (readFailure datum).Ensures (Lasts admits Event.read Event.write) :=
  ensures_record source fun fields source => by
    refine ensures_bind (ensures_optional source Identifier.savesAll_read.saves) fun agent _ => ?_
    refine ensures_bind (ensures_optional source Identifier.savesAll_read.saves)
      fun executor _ => ?_
    refine ensures_bind (ensures_optional source savesAll_int32.saves) fun status _ => ?_
    apply ensures_pure
    apply lasts_payload readFailure (held (readPayload "failure" readFailure)) rfl held_eq_pure rfl
    case branch =>
      intro _ _ found
      rw [Event.read, found]
      rfl
    all_goals simp [*]

theorem ensures_readError (source : datum.Source admits) :
    (readError datum).Ensures (Lasts admits Event.read Event.write) :=
  ensures_record source fun fields source => by
    refine ensures_bind (ensures_required source savesAll_text.saves) fun text _ => ?_
    apply ensures_pure
    apply lasts_payload readError (held (readPayload "error" readError)) rfl held_eq_pure rfl
    case branch =>
      intro _ _ found
      rw [Event.read, found]
      rfl
    all_goals simp [*]

theorem lasts_heartbeat : Lasts admits Event.read Event.write .heartbeat := by
  apply lasts_tagged (fun payload => do readNothing payload; return Event.heartbeat) rfl
  case branch =>
    intro _ _ found
    rw [Event.read, found]
    rfl
  case again => rfl
  all_goals simp [payload, EveryPart]

/-- An event of a type that is not known is written under a name that is not known either. -/
theorem lasts_unknown : Lasts admits Event.read Event.write .unknown := by
  apply lasts_tagged (fun payload => do readNothing payload; return Event.unknown) rfl
  case branch =>
    intro _ _ found
    rw [Event.read, found]
    rfl
  case again => rfl
  all_goals simp [payload, EveryPart]

theorem saves_read : Saves admits Event.read Event.write :=
  saves_of_lasts fun datum source => by
    refine ensures_bind (ensures_readTagged source) fun ⟨tag, payload⟩ source => ?_
    refine ensures_bind ensures_anything fun known _ => ?_
    split
    · exact ensures_held (ensures_payload source fun _ => ensures_readSubscribed)
    · exact ensures_held (ensures_payload source fun _ => ensures_readOffers)
    · exact ensures_held (ensures_payload source fun _ => ensures_readInverseOffers)
    · exact ensures_held (ensures_payload source fun _ => ensures_readRescind)
    · exact ensures_held (ensures_payload source fun _ => ensures_readRescindInverseOffer)
    · exact ensures_held (ensures_payload source fun _ => ensures_readUpdate)
    · exact ensures_held (ensures_payload source fun _ => ensures_readMessage)
    · exact ensures_held (ensures_payload source fun _ => ensures_readFailure)
    · exact ensures_held (ensures_payload source fun _ => ensures_readError)
    · exact ensures_bind ensures_anything fun _ _ => ensures_pure lasts_heartbeat
    · exact ensures_bind ensures_anything fun _ _ => ensures_pure lasts_unknown

end Event
end Convoy
