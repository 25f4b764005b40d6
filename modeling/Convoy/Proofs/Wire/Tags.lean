import Convoy.Json.Reader
import Convoy.Proofs.Data.Survival
import Convoy.Wire.Event

/-!
# Events by their tags

The tag of an event decides how the rest of it is read. A tag that is not known makes the event
`unknown` whatever else it holds, if only all of it denotes something. Under a known tag the event is
never `unknown`: what it says has to be there, and has to be of the type that goes with the tag.
-/
namespace Convoy

open Data

namespace Data

variable {α : Type} {wanted : α → Prop} {entries : Entries}

/-- The entries of an object besides its tag. -/
def untagged (entries : Entries) : Entries :=
  entries.filter fun entry => !isTagKey entry

theorem ensures_readRecord {names : List String} {body : Record → Decode α} (datum : Datum)
    (each : ∀ fields, (body fields).Ensures wanted) :
    (readRecord names body datum).Ensures wanted :=
  Decode.ensures_bind Decode.ensures_anything fun fields _ => each fields

theorem readTagged_of_tag {tag : String}
    (tagged : entries.filter isTagKey = [(.text "type", .text tag)]) :
    readTagged (.map entries) =
      if Datum.entriesReadable (untagged entries) then
        pure (.name tag, .map (untagged entries))
      else throw .unreadable := by
  simp only [readTagged, tagged]
  rfl

/-- A payload that was read stood under its name. -/
theorem field?_of_readPayload {name : String} {read : Reader α} {datum : Datum} {reading : Reading}
    {mint : Mint} {result : α × Mint} (done : readPayload name read datum reading mint = .ok result) :
    ∃ payload, datum.field? [name] name = some payload ∧
      read payload reading mint = .ok result := by
  obtain ⟨value, after⟩ := result
  obtain ⟨fields, middle, lifted, taken⟩ := Decode.bind_eq_ok.1 done
  obtain ⟨laid, rfl⟩ := Decode.lift_eq_ok.1 lifted
  have lookup : fields.fields.lookup name = datum.field? [name] name :=
    Record.lookup_ofDatum List.mem_cons_self laid
  change fields.required name read reading mint = _ at taken
  simp only [Record.required, lookup] at taken
  cases given : datum.field? [name] name with
  | none =>
      simp only [given] at taken
      exact absurd taken Decode.throw_ne_ok
  | some payload =>
      simp only [given] at taken
      exact ⟨payload, rfl, taken⟩

end Data

namespace Event

/-- The field in which an event of a tag says what it has to say, and what reads it. A heartbeat says
nothing. -/
def payload? : String → Option (String × Reader Event)
  | "SUBSCRIBED" => some ("subscribed", readSubscribed)
  | "OFFERS" => some ("offers", readOffers)
  | "INVERSE_OFFERS" => some ("inverse_offers", readInverseOffers)
  | "RESCIND" => some ("rescind", readRescind)
  | "RESCIND_INVERSE_OFFER" => some ("rescind_inverse_offer", readRescindInverseOffer)
  | "UPDATE" => some ("update", readUpdate)
  | "MESSAGE" => some ("message", readMessage)
  | "FAILURE" => some ("failure", readFailure)
  | "ERROR" => some ("error", readError)
  | _ => none

variable {tag name : String} {reader : Reader Event} {entries : Entries}

theorem isSome_payload? (known : tag ∈ names) (speaks : tag ≠ "HEARTBEAT") :
    (payload? tag).isSome = true := by
  simp only [names, List.mem_cons, List.not_mem_nil, or_false] at known
  rcases known with rfl | rfl | rfl | rfl | rfl | rfl | rfl | rfl | rfl | rfl
  case inr.inr.inr.inr.inr.inr.inr.inr.inr => exact absurd rfl speaks
  all_goals rfl

/-- Each reader gives events of its own kind. -/
theorem kind_of_payload (found : payload? tag = some (name, reader)) (datum : Datum) :
    (reader datum).Ensures fun event => event.kind = tag := by
  unfold payload? at found
  split at found <;> cases found <;> refine ensures_readRecord datum fun fields => ?_ <;>
    repeat first
      | exact Decode.ensures_pure rfl
      | refine Decode.ensures_bind Decode.ensures_anything fun _ _ => ?_

theorem mem_names_of_payload (found : payload? tag = some (name, reader)) : tag ∈ names := by
  unfold payload? at found
  split at found <;> first | contradiction | simp [names]

theorem read_of_payload (found : payload? tag = some (name, reader))
    (tagged : readTagged (.map entries) = pure (.name tag, .map (untagged entries))) :
    read (.map entries) = held (readPayload name reader) (.map (untagged entries)) := by
  have known := mem_names_of_payload found
  unfold read
  rw [tagged, pure_bind]
  simp only [Tag.resolve, if_pos known, pure_bind]
  unfold payload? at found
  split at found <;> cases found <;> rfl

/-- What an object with a tag is read as. -/
structure Discerns (tag : String) (entries : Entries) : Prop where
  unknown : tag ∉ names → ∀ mint, read.run (.map entries) mint =
    if Datum.entriesReadable (untagged entries) then .ok (.unknown, mint) else .error .unreadable
  known : tag ∈ names → tag ≠ "HEARTBEAT" → ∃ name reader, payload? tag = some (name, reader) ∧
    ∀ mint event after, read.run (.map entries) mint = .ok (event, after) →
      event.kind = tag ∧ ∃ payload, (Datum.map (untagged entries)).field? [name] name = some payload ∧
        reader payload .held mint = .ok (event, after)

theorem discerns (tagged : entries.filter isTagKey = [(.text "type", .text tag)]) :
    Discerns tag entries where
  unknown stranger mint := by
    have split := readTagged_of_tag tagged
    unfold Reader.run read
    by_cases readable : Datum.entriesReadable (untagged entries) = true
    · rw [if_pos readable] at split ⊢
      rw [split, pure_bind]
      simp only [Tag.resolve, if_neg stranger, pure_bind]
      rfl
    · rw [if_neg readable] at split ⊢
      rw [split]
      rfl
  known known speaks := by
    obtain ⟨⟨name, reader⟩, found⟩ := Option.isSome_iff_exists.mp (isSome_payload? known speaks)
    refine ⟨name, reader, found, fun mint event after done => ?_⟩
    have split := readTagged_of_tag tagged
    change read (.map entries) .direct mint = .ok (event, after) at done
    by_cases readable : Datum.entriesReadable (untagged entries) = true
    · rw [if_pos readable] at split
      rw [read_of_payload found split] at done
      obtain ⟨payload, given, taken⟩ := field?_of_readPayload done
      exact ⟨kind_of_payload found payload taken, payload, given, taken⟩
    · rw [if_neg readable] at split
      unfold read at done
      rw [split] at done
      contradiction

/-- Whether a datum is an object with a tag. -/
def hasTag (tag : String) : Datum → Bool
  | .map entries =>
    match entries.filter isTagKey with
    | [(_, .text known)] => known == tag
    | _ => false
  | _ => false

/-- A number out of range next to an unknown tag makes the event unreadable. -/
theorem unreadable_number :
    (Json.read? "\x7b\"type\": \"NEW\", \"x\": 1e999\x7d").map
      (fun datum => (hasTag "NEW" datum, (read.run datum ⟨0⟩).isOk)) = some (true, false) ∧
    "NEW" ∉ names := by
  decide +kernel

end Event
end Convoy
