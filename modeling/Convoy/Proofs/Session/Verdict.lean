import Convoy.Proofs.Session.Moves

/-!
# A run that succeeds is finished

The flag goes up only when one of the loops has ended, and the event loop ends well only because of
the flag. So a watch that stops before all tasks have finished leaves an event loop behind that
failed or died, and the run does not succeed.
-/
namespace Convoy

namespace Loops

open Course Schedule

variable {loops before after : Loops} {groups : List TaskGroup}

/-- The flag is up only after an end, and the event loop did not end well before the watch ended. A
watch that stopped too early did so because the event loop had failed or died. -/
structure Sound (groups : List TaskGroup) (loops : Loops) : Prop where
  flag : loops.stopping = true → loops.watcher.hasEnded = true ∨ loops.server.hasEnded = true
  served : loops.server.result? = some (.ok ()) → loops.watcher.hasEnded = true
  watched : loops.watcher.result? = some (.ok ()) → loops.schedule.roster.finished = true ∨
    loops.server.hasEnded = true ∧ loops.server.result? ≠ some (.ok ())
  known : loops.schedule.Account (Known groups) loops.heard
  account : loops.Fair → loops.schedule.Account (Asked groups loops.asked) loops.heard

theorem Keeps.roster_eq (keeps : Keeps before after)
    (settled : before.watcher.result?.isSome = true) :
    after.schedule.roster = before.schedule.roster := by
  rcases keeps.roster with same | ⟨waits, -⟩
  · exact same
  · simp [waits, Watcher.result?] at settled

theorem Keeps.fair (keeps : Keeps before after) (fair : after.Fair) : before.Fair :=
  fun entry member => fair entry (keeps.taken.subset member)

theorem Sound.keeps (sound : Sound groups before) (keeps : Keeps before after) :
    Sound groups after where
  flag raised := by
    rcases keeps.flag raised with early | ended
    · rcases sound.flag early with ended | ended
      · exact .inl (keeps.watcher ended ▸ ended)
      · exact .inr (keeps.server ended ▸ ended)
    · exact ended
  served good := by
    rcases keeps.served good with early | ⟨runs, told⟩
    · have ended := sound.served early
      exact keeps.watcher ended ▸ ended
    · rcases sound.flag told with ended | ended
      · exact keeps.watcher ended ▸ ended
      · simp [runs] at ended
  watched good := by
    have stays (ended : before.server.hasEnded = true)
        (failed : before.server.result? ≠ some (.ok ())) :
        after.server.hasEnded = true ∧ after.server.result? ≠ some (.ok ()) := by
      rw [keeps.server ended]
      exact ⟨ended, failed⟩
    rcases keeps.watched good with early | ⟨runs, reason⟩
    · rcases sound.watched early with finished | ⟨ended, failed⟩
      · exact .inl (keeps.roster_eq (by simp [early]) ▸ finished)
      · exact .inr (stays ended failed)
    · -- The watch has only now come to its end, so the event loop did not end well before.
      have failed : before.server.result? ≠ some (.ok ()) := by
        intro well
        simp [sound.served well] at runs
      have same : after.schedule.roster = before.schedule.roster :=
        keeps.roster.resolve_right fun busy => busy.2 good
      rcases reason with finished | told | ended
      · exact .inl (same ▸ finished)
      · rcases sound.flag told with ended | ended
        · simp [runs] at ended
        · exact .inr (stays ended failed)
      · exact .inr (stays ended failed)
  known := keeps.known groups sound.known
  account fair := keeps.account groups fair (sound.account (keeps.fair fair))

theorem sound_start (profile : Profile) (groups : List TaskGroup) (mint : Mint) (draws : Draws) :
    Sound (groups.map (·.inRole profile.registration.role)) (start profile groups mint draws) where
  flag := nofun
  served := nofun
  watched := nofun
  known :=
    ((Account.start (known_start _ profile.rules mint)).flag (known_kept _) .watching false).drawing
      (known_kept _) draws
  account _ := by
    have asked : (Course.start (groups.map (·.inRole profile.registration.role)) profile.rules
        mint).Asked (groups.map (·.inRole profile.registration.role)) [] :=
      ⟨whole_start _ profile.rules mint, nofun⟩
    exact ((Account.start asked).flag (asked_kept _ []) .watching false).drawing (asked_kept _ [])
      draws

theorem sound_play (sound : Sound groups loops) (moves : List Move) :
    Sound groups (loops.play moves) := by
  induction moves generalizing loops with
  | nil => exact sound
  | cons move rest ih => exact ih (sound.keeps (keeps_move loops move))

/-- The watch has come to its result, and nothing is recorded any more. -/
theorem settled_play (settled : loops.watcher.result?.isSome = true) (moves : List Move) :
    (loops.play moves).schedule.roster = loops.schedule.roster ∧
      (loops.play moves).watcher.result?.isSome = true := by
  induction moves generalizing loops with
  | nil => exact ⟨rfl, settled⟩
  | cons move rest ih =>
    have keeps := keeps_move loops move
    obtain ⟨same, stays⟩ := ih (keeps.stays settled)
    exact ⟨same.trans (keeps.roster_eq settled), stays⟩

theorem left_play {result : Except Failure Unit} (left : loops.watcher = .left result)
    (moves : List Move) : (loops.play moves).watcher = .left result := by
  induction moves generalizing loops with
  | nil => exact left
  | cons move rest ih =>
    have ended : loops.watcher.hasEnded = true := by rw [left]; rfl
    exact ih (((keeps_move loops move).watcher ended).trans left)

/-- All tasks of the groups have finished, by their last reports. No group waits to be launched,
unless a report was on a task that the master cannot know of. -/
structure Finished (groups : List TaskGroup) (loops : Loops) : Prop where
  finished : loops.schedule.roster.finished = true
  tracks : loops.schedule.roster.Tracks groups
  heard : ∀ tracked ∈ loops.schedule.roster.tracked, ∀ task ∈ tracked.group.taskIds,
    lastHeard loops.heard task = some .finished
  idle : loops.Fair → loops.schedule.queued = []

theorem Sound.finished (sound : Sound groups loops)
    (finished : loops.schedule.roster.finished = true) : loops.Finished groups := by
  obtain ⟨course, known, ends, heard, -⟩ := sound.known
  have all := known.exact.finished.mp (ends.symm ▸ finished)
  rw [ends, heard] at all
  refine ⟨finished, ends ▸ known.tracks, all, fun fair => ?_⟩
  exact ((sound.account fair).mono fun _ asked => asked.whole).queued_eq_nil finished

theorem results_of_result? {result : Except Failure Unit} (given : loops.result? = some result) :
    ∃ watch events, loops.watcher.result? = some watch ∧ loops.server.result? = some events ∧
      Run.verdict watch events = result := by
  unfold Loops.result? at given
  split at given
  · split at given
    · rename_i watch events watched served
      exact ⟨watch, events, watched, served, Option.some.inj given⟩
    · contradiction
  · contradiction

theorem verdict_eq_ok {watch events : Except Failure Unit}
    (good : Run.verdict watch events = .ok ()) : watch = .ok () ∧ events = .ok () := by
  unfold Run.verdict at good
  dsimp only at good
  split at good
  · rename_i none
    obtain ⟨sound, crashed⟩ := List.append_eq_nil_iff.mp none
    cases watch <;> cases events <;> simp_all
  · contradiction

theorem verdict_of_failure {failure : Failure} (taskFailed : failure.isTaskFailure = true)
    (events : Except Failure Unit) : Run.verdict (.error failure) events = .error failure := by
  have alive : Run.isCrash failure = false := by
    cases failure <;> simp_all [Failure.isTaskFailure, Run.isCrash]
  cases events with
  | ok done => simp [Run.verdict, alive]
  | error other => simp [Run.verdict, alive]

/-- What both loops do on their way out. -/
def leave : List Move :=
  [.joinWatcher, .cancel, .serve, .serve, .joinServer]

/-- Once the watch has ended, the run ends by five moves. -/
theorem result_leave {result : Except Failure Unit} (left : loops.watcher = .left result) :
    ∃ events, (loops.play leave).result? = some (Run.verdict result events) := by
  obtain ⟨router, identity, reconnect, teardown, attempt, server, watcher, box⟩ := loops
  subst left
  cases server <;> exact ⟨_, rfl⟩

theorem Sound.finished_of_success (sound : Sound groups loops) {later : List Move}
    (settled : loops.watcher.result?.isSome = true)
    (success : (loops.play later).result? = some (.ok ())) : loops.Finished groups := by
  obtain ⟨watch, events, watched, served, verdict⟩ := results_of_result? success
  obtain ⟨rfl, rfl⟩ := verdict_eq_ok verdict
  have finished := ((sound_play sound later).watched watched).resolve_right
    fun failed => failed.2 served
  rw [(settled_play settled later).1] at finished
  exact sound.finished finished

theorem result_of_failure {failure : Failure} (left : loops.watcher = .left (.error failure))
    (taskFailed : failure.isTaskFailure = true) {result : Except Failure Unit}
    (given : loops.result? = some result) : result = .error failure := by
  obtain ⟨watch, events, watched, served, rfl⟩ := results_of_result? given
  have same : some (.error failure) = some watch := by
    rw [← watched, left]
    rfl
  cases same
  exact verdict_of_failure taskFailed events

end Loops
end Convoy
