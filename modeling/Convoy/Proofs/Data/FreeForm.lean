import Convoy.Proofs.Data.Leaves
import Mathlib.Data.String.Basic

/-!
# Free forms

A datum that was carried through once is carried through unchanged from then on: its entries are
sorted by name already, and every number that could be dropped is gone.
-/
namespace Convoy.Data.Datum

variable {admits : Float → Prop}

/-- A datum that is carried through as it is, and may be written. -/
structure Settled (admits : Float → Prop) (datum : Datum) : Prop where
  same : datum.freeForm? = some datum
  fits : datum.Copy admits

/-- Entries with settled values, sorted by name. -/
structure Tidy (admits : Float → Prop) (entries : Entries) : Prop where
  each : ∀ entry ∈ entries, (∃ name, entry.1 = .text name) ∧ entry.2.Settled admits
  sorted : entries.Pairwise fun first second =>
    ∀ name other, first.1 = .text name → second.1 = .text other → name < other

theorem Tidy.nil : Tidy admits [] :=
  ⟨fun _ member => absurd member List.not_mem_nil, .nil⟩

theorem mem_putEntry {name : String} {value : Datum} {entries : Entries} {entry : Key × Datum}
    (member : entry ∈ putEntry name value entries) :
    entry = (.text name, value) ∨ entry ∈ entries := by
  fun_induction putEntry name value entries <;> grind

theorem tidy_putEntry {name : String} {value : Datum} {entries : Entries}
    (tidy : Tidy admits entries) (settled : value.Settled admits) :
    Tidy admits (putEntry name value entries) := by
  refine ⟨fun entry member => ?_, ?_⟩
  · obtain rfl | known := mem_putEntry member
    · exact ⟨⟨name, rfl⟩, settled⟩
    · exact tidy.each entry known
  · have sorted := tidy.sorted
    fun_induction putEntry name value entries with
    | case1 => exact List.pairwise_singleton _ _
    | case2 known old rest first =>
      refine List.pairwise_cons.2 ⟨?_, sorted⟩
      rintro ⟨key, later⟩ member _ other ⟨⟩ rfl
      obtain same | member := List.mem_cons.1 member
      · cases same
        exact first
      · exact first.trans ((List.pairwise_cons.1 sorted).1 _ member known other rfl rfl)
    | case3 old rest => exact List.pairwise_cons.2 (List.pairwise_cons.1 sorted)
    | case4 known old rest first differs ih =>
      have after := List.pairwise_cons.1 sorted
      have least : known < name := lt_of_le_of_ne (not_lt.1 first) (Ne.symm differs)
      refine List.pairwise_cons.2 ⟨?_, ih ?_ after.2⟩
      · rintro ⟨key, later⟩ member _ other ⟨⟩ rfl
        obtain same | member := mem_putEntry member
        · cases same
          exact least
        · exact after.1 _ member known other rfl rfl
      · exact ⟨fun entry member => tidy.each entry (List.mem_cons_of_mem _ member), after.2⟩
    | case5 entry rest unnamed ih =>
      -- Every key of tidy entries is a text.
      obtain ⟨⟨known, named⟩, -⟩ := tidy.each _ List.mem_cons_self
      exact (unnamed known entry.2 (Prod.ext named rfl)).elim

/-- An entry whose name comes after all others is put at the end. -/
theorem putEntry_last {name : String} {value : Datum} {entries : Entries}
    (last : ∀ entry ∈ entries, ∃ known, entry.1 = .text known ∧ known < name) :
    putEntry name value entries = entries ++ [(.text name, value)] := by
  induction entries with
  | nil => rfl
  | cons entry rest ih =>
    obtain ⟨key, old⟩ := entry
    obtain ⟨known, rfl, before⟩ := last _ List.mem_cons_self
    simp [putEntry, before.not_gt, before.ne', ih fun entry member =>
      last entry (List.mem_cons_of_mem _ member)]

/-- Tidy entries are carried through as they are. -/
theorem Tidy.freeFormEntries {before entries : Entries} (tidy : Tidy admits (before ++ entries)) :
    freeFormEntries? entries before = some (before ++ entries) := by
  induction entries generalizing before with
  | nil => simp [freeFormEntries?]
  | cons entry rest ih =>
    obtain ⟨key, value⟩ := entry
    obtain ⟨⟨name, rfl⟩, settled⟩ := tidy.each _ (List.mem_append_right _ List.mem_cons_self)
    have last : putEntry name value before = before ++ [(.text name, value)] :=
      putEntry_last fun entry member => by
        obtain ⟨⟨known, named⟩, -⟩ := tidy.each _ (List.mem_append_left _ member)
        exact ⟨known, named, (List.pairwise_append.1 tidy.sorted).2.2 _ member _
          List.mem_cons_self known name named rfl⟩
    simp only [freeFormEntries?, settled.same, last]
    rw [ih (by simpa using tidy)]
    simp

mutual

/-- What a readable datum is carried through as is settled. -/
theorem settled_of_freeForm : {datum copy : Datum} → datum.Source admits →
    datum.freeForm? = some copy → copy.Settled admits
  | .null, _, _, done | .bool _, _, _, done | .int _, _, _, done | .text _, _, _, done => by
    cases done
    exact ⟨rfl, by simp [Copy]⟩
  | .float value, _, source, done => by
    obtain ⟨finite, admitted⟩ := every_float.1 source
    simp only [freeForm?, finite, if_true, Option.some.injEq] at done
    subst done
    exact ⟨by simp [freeForm?, finite], by simpa [Copy] using admitted⟩
  | .list items, _, source, done => by
    obtain ⟨copies, found, rfl⟩ := Option.map_eq_some_iff.1 done
    obtain ⟨same, each⟩ := settled_of_freeFormItems (every_list.1 source) found
    exact ⟨by simp [freeForm?, same], every_list.2 each⟩
  | .map entries, _, source, done => by
    obtain ⟨copies, found, rfl⟩ := Option.map_eq_some_iff.1 done
    have tidy := tidy_of_freeFormEntries .nil (every_map.1 source) found
    have same : freeFormEntries? copies [] = some copies := tidy.freeFormEntries
    exact ⟨by simp [freeForm?, same],
      every_map.2 fun entry member => (tidy.each entry member).2.fits⟩

theorem settled_of_freeFormItems : {items copies : List Datum} →
    (∀ item ∈ items, item.Source admits) → freeFormItems? items = some copies →
    freeFormItems? copies = some copies ∧ ∀ copy ∈ copies, copy.Copy admits
  | [], _, _, done => by
    cases done
    exact ⟨rfl, nofun⟩
  | item :: rest, _, source, done => by
    simp only [freeFormItems?] at done
    split at done
    · rename_i copy copies first later
      cases done
      have settled := settled_of_freeForm (source item List.mem_cons_self) first
      obtain ⟨same, each⟩ := settled_of_freeFormItems
        (fun item member => source item (List.mem_cons_of_mem _ member)) later
      exact ⟨by simp [freeFormItems?, settled.same, same],
        List.forall_mem_cons.2 ⟨settled.fits, each⟩⟩
    · cases done

theorem tidy_of_freeFormEntries : {entries before copies : Entries} → Tidy admits before →
    (∀ entry ∈ entries, entry.2.Source admits) → freeFormEntries? entries before = some copies →
    Tidy admits copies
  | [], _, _, tidy, _, done => by
    cases done
    exact tidy
  | (.text name, value) :: rest, _, _, tidy, source, done => by
    simp only [freeFormEntries?] at done
    split at done
    · rename_i copy found
      have settled := settled_of_freeForm (source _ List.mem_cons_self) found
      exact tidy_of_freeFormEntries (tidy_putEntry tidy settled)
        (fun entry member => source entry (List.mem_cons_of_mem _ member)) done
    · cases done
  | (.position _, _) :: _, _, _, _, _, done | (.other, _) :: _, _, _, _, _, done => by
    simp [freeFormEntries?] at done

end

/-- Nothing but a null is carried through as one, where every float is finite. -/
theorem freeForm_ne_null {datum copy : Datum} (source : datum.Source admits)
    (present : datum ≠ .null) (done : datum.freeForm? = some copy) : copy ≠ .null := by
  cases datum with
  | null => exact absurd rfl present
  | float value =>
    simp only [freeForm?, (every_float.1 source).1, if_true] at done
    cases done
    nofun
  | list items =>
    obtain ⟨copies, -, rfl⟩ := Option.map_eq_some_iff.1 done
    nofun
  | map entries =>
    obtain ⟨copies, -, rfl⟩ := Option.map_eq_some_iff.1 done
    nofun
  | _ =>
    cases done
    try nofun

end Convoy.Data.Datum
