import Convoy.Proofs.Session.Endings
import Convoy.Proofs.Wire.Tags

/-!
# Events that are not known

An event of an unknown type is read as such and then refused: whoever handles it ends the run, calls
nothing but the teardown, and leaves the groups and the framework as they were.
-/
namespace Convoy

open Data

theorem Schedule.stop_eq (schedule : Schedule) :
    ∃ monitor, schedule.stop = { schedule with monitor := monitor, stopping := true } := by
  unfold stop check
  split
  · rename_i watching
    rw [Bool.or_true, if_pos rfl]
    exact ⟨.stopped (.ok ()), rfl⟩
  · exact ⟨schedule.monitor, rfl⟩

namespace Run

variable {run next : Run} {confirmed : Bool} {inbox : List Delivery}

/-- What is wrong with an unknown event, be it the first of a session or a later one. -/
def strangeness (confirmed : Bool) : Breach :=
  if confirmed then .unknownEvent else .unexpected "SUBSCRIBED" "UNKNOWN"

/-- A run ends because of an unknown event, and all else stays as it was. -/
structure FailsClosed (run : Run) (confirmed : Bool) (next : Run) : Prop where
  phase : next.phase = .ended (.error (.breach (strangeness confirmed)))
  result : run.router.schedule.monitor = .watching →
    next.result? = some (.error (.breach (strangeness confirmed)))
  schedule : ∃ monitor,
    next.router.schedule = { run.router.schedule with monitor := monitor, stopping := true }
  framework : next.router.framework = run.router.framework
  notices : ∃ last, next.router.notices =
    run.router.notices ++ (if confirmed then [.event .unknown] else []) ++ last ∧ Parting last
  rests : ∀ incidents, Rests next (next.undergoAll incidents)

theorem failsClosed_finish (before : Run) (schedule : before.router.schedule = run.router.schedule)
    (framework : before.router.framework = run.router.framework)
    (notices : before.router.notices =
      run.router.notices ++ if confirmed then [.event .unknown] else []) :
    FailsClosed run confirmed (before.finish (.error (.breach (strangeness confirmed)))) := by
  have finishes := before.finishes_finish (.error (.breach (strangeness confirmed)))
  obtain ⟨last, added, parting⟩ := finishes.notices
  obtain ⟨monitor, stopped⟩ := run.router.schedule.stop_eq
  constructor
  case phase => exact finishes.phase
  case result =>
    intro watching
    have stops : (before.finish (.error (.breach (strangeness confirmed)))).router.schedule.monitor =
        .stopped (.ok ()) := by
      rw [finishes.schedule, schedule, Schedule.stop_of_watching watching]
    unfold result?
    rw [stops, finishes.phase]
    rfl
  case schedule => exact ⟨monitor, by rw [finishes.schedule, schedule, stopped]⟩
  case framework => exact finishes.framework.trans framework
  case notices => exact ⟨last, by rw [added, notices], parting⟩
  case rests => exact rests_undergoAll finishes.phase

theorem step_unknown (phase : run.phase = .listening confirmed)
    (quiet : run.router.schedule.stopping = false)
    (found : run.router.link.inbox = .event .unknown :: inbox) :
    ∃ next, run.step = some next ∧ FailsClosed run confirmed next := by
  have listens : run.step = some ((run.receive inbox).handle confirmed .unknown) := by
    simp only [step, phase, quiet, listen, found, Bool.false_eq_true, if_false, receive]
  refine ⟨_, listens, ?_⟩
  cases confirmed with
  | false => exact failsClosed_finish (run.receive inbox) rfl rfl (List.append_nil _).symm
  | true =>
      let heard := run.goOn true ((run.receive inbox).router.notice (.event .unknown))
      exact failsClosed_finish heard rfl rfl rfl

/-- Every object under an unknown tag is read as an unknown event if all of it can be read, and no
object under a known tag is. Whoever handles an unknown event fails, and a run ends with it, whether
its session was confirmed or not. -/
theorem failsClosed_unknown :
    (∀ tag entries, entries.filter isTagKey = [(.text "type", .text tag)] →
      Event.Discerns tag entries) ∧
    (∀ router : Router, router.handle .unknown =
      (router.notice (.event .unknown), .error (.breach .unknownEvent))) ∧
    ∀ (run : Run) confirmed inbox, run.phase = .listening confirmed →
      run.router.schedule.stopping = false →
      run.router.link.inbox = .event .unknown :: inbox →
      ∃ next, run.step = some next ∧ FailsClosed run confirmed next :=
  ⟨fun _ _ tagged => Event.discerns tagged, fun _ => rfl,
    fun _ _ _ phase quiet found => step_unknown phase quiet found⟩

/-- An object with a list under a tag that is not known, and a run that gets it as its first event. -/
theorem failsClosed_new :
    let entries : Entries := [(.text "type", .text "NEW"), (.text "x", .list [.null])]
    let group := (TaskGroup.single { name := "web", id := .stamped 0 } ⟨1⟩).1
    let profile : Profile := {}
    let run : Run :=
      { router :=
          { schedule := { Schedule.start [group] profile.rules ⟨2⟩ with monitor := .watching }
            link := { inbox := [.event .unknown] }
            refusal := profile.refusal }
        identity := profile.framework
        reconnect := profile.reconnectBackoff
        teardown := true
        phase := .listening false }
    Event.read.run (.map entries) ⟨0⟩ = .ok (.unknown, ⟨0⟩) ∧
      ∃ next, run.step = some next ∧
        next.result? = some (.error (.breach (.unexpected "SUBSCRIBED" "UNKNOWN"))) := by
  intro entries group profile run
  obtain ⟨reads, -, ends⟩ := failsClosed_unknown
  refine ⟨(reads "NEW" entries rfl).unknown (by decide) ⟨0⟩, ?_⟩
  obtain ⟨next, moved, closed⟩ := ends run false [] rfl rfl rfl
  exact ⟨next, moved, closed.result rfl⟩

end Run
end Convoy
