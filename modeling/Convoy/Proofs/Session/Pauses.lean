import Convoy.Proofs.Session.Losses
import Convoy.Proofs.Session.Turns

/-!
# Pauses between sessions

After a lost session the event loop pauses before it asks for the next one. How long is a matter of
how many sessions were lost in a row, and of what is drawn where there is jitter. Without jitter pauses
grow while no session is confirmed and start over after one that was.
-/
namespace Convoy

theorem Nanoseconds.divideToEven_one (n : Nat) : divideToEven n 1 = n := by
  simp [divideToEven, Nat.mod_one]

theorem roundTo53_of_lt {n : Nat} (short : n < Nat.pow 2 53) : roundTo53 n = n := by
  have digits : n.log2 < 53 := by
    by_cases none : n = 0
    · simp [none]
    · exact (Nat.log2_lt none).mpr short
  have exact : n.log2 + 1 - 53 = 0 := Nat.sub_eq_zero_of_le digits
  simp only [roundTo53, exact]
  exact (Nat.mul_one _).trans (Nanoseconds.divideToEven_one n)

namespace Backoff

variable {backoff : Backoff}

/-- Without jitter it makes no difference what is drawn. -/
theorem delay_of_steady (steady : backoff.isJittery = false) (attempt : Nat) (share : Float) :
    backoff.delay attempt share =
      if backoff.base = 0 then 0 else min (backoff.capped attempt) longest := by
  rw [delay, steady, if_neg Bool.false_ne_true]

theorem capped_mono {earlier later : Nat} (le : earlier ≤ later) :
    backoff.capped earlier ≤ backoff.capped later := by
  have doubled : Nat.pow 2 (min earlier 30) ≤ Nat.pow 2 (min later 30) :=
    Nat.pow_le_pow_right (by decide) (by omega)
  have longer := Nat.mul_le_mul_left (roundTo53 backoff.base.milliseconds) doubled
  unfold capped
  omega

theorem delay_mono (steady : backoff.isJittery = false) {earlier later : Nat}
    (le : earlier ≤ later) (share other : Float) :
    backoff.delay earlier share ≤ backoff.delay later other := by
  have grown : backoff.capped earlier ≤ backoff.capped later := capped_mono le
  rw [delay_of_steady steady, delay_of_steady steady]
  split
  · exact Nat.le_refl 0
  · omega

theorem delay_le (steady : backoff.isJittery = false) (attempt : Nat) (share : Float) :
    backoff.delay attempt share ≤ roundTo53 backoff.max.milliseconds := by
  rw [delay_of_steady steady]
  split
  · exact Nat.zero_le _
  · exact (min_le_left _ _).trans (min_le_right _ _)

end Backoff

namespace Schedule

open Course

theorem now_comeBack (schedule : Schedule) (position : Nat) :
    (schedule.comeBack position).now = schedule.now := by
  unfold comeBack arrive
  split
  · rfl
  · split <;> rfl

theorem late_kept (time : Nat) :
    KeptAside (fun course => time ≤ course.schedule.now) fun _ _ => True where
  quiet course act late silent := by
    have performs := course.performs_perform act
    generalize course.perform act = after at performs
    cases performs with
    | nothing act => exact late
    | popped pops =>
        cases pops with
        | relaunched sync taken => exact late
        | opened sync empty gate next => cases next <;> exact late
        | parallel parallel next => cases next <;> exact late
    | launched found => exact late
    | appended found appends => cases appends <;> exact late
    | reported applies => exact silent.elim
    | cameBack position => exact late.trans (now_comeBack course.schedule position).ge
    | settled => exact late
    | passed milliseconds => exact late.trans (Nat.le_add_right _ _)
  report course status pause late _ := by
    have applies := applies_applyWith course.schedule pause status
    show time ≤ (course.schedule.applyWith pause status).1.now
    generalize course.schedule.applyWith pause status = answer at applies
    cases applies with
    | relaunched owner found restarts allowed requeues => cases requeues <;> exact late
    | _ => exact late
  aside _ _ _ _ _ late := late

theorem now_le_of_account {schedule after : Schedule} {heard : List Status}
    (account : after.Account (fun course => schedule.now ≤ course.schedule.now) heard) :
    schedule.now ≤ after.now := by
  obtain ⟨course, late, rfl, -⟩ := account
  exact late

theorem late_account (schedule : Schedule) :
    schedule.Account (fun course => schedule.now ≤ course.schedule.now) [] :=
  ⟨{ schedule := schedule }, Nat.le_refl _, rfl, rfl, rfl⟩

theorem now_matchOffer (schedule : Schedule) (offer : Offer) (framework : FrameworkId) :
    schedule.now ≤ (schedule.matchOffer offer framework).1.now :=
  now_le_of_account
    (schedule.late_account.matchOffer (late_kept schedule.now).toKept offer framework)

theorem now_apply (schedule : Schedule) (status : Status) :
    schedule.now ≤ (schedule.apply status).1.now :=
  now_le_of_account
    (schedule.late_account.apply (late_kept schedule.now).toKept status fun _ _ _ => trivial)

theorem Stirs.now_le {schedule after : Schedule} (stirs : schedule.Stirs after) :
    schedule.now ≤ after.now := by
  cases stirs with
  | reported status => exact schedule.now_apply status
  | passed milliseconds => exact Nat.le_add_right _ _
  | cameBack position => exact (schedule.now_comeBack position).ge
  | _ => exact Nat.le_refl _

end Schedule

namespace Loops

variable {loops after : Loops} {reconnect : Backoff} {losses : List Loss}

theorem now_answer (loops : Loops) (framework : FrameworkId) (offers : List Offer) :
    loops.schedule.now ≤ (loops.answer framework offers).schedule.now := by
  cases offers with
  | nil => exact Nat.le_refl _
  | cons offer rest =>
      have matched := loops.schedule.now_matchOffer offer framework
      unfold answer
      dsimp only
      split <;> rename_i found <;> rw [found] at matched <;> exact matched

theorem now_works (works : Works loops after) : loops.schedule.now ≤ after.schedule.now := by
  cases works with
  | deals stands => exact loops.now_answer _ _
  | accepts stands =>
      rw [schedule_follow]
      exact Nat.le_refl _
  | speaks stirs notices other silent asked => exact stirs.now_le

/-- The event loop does not move. -/
theorem Counts.aside (counts : Counts reconnect losses loops)
    (policy : after.reconnect = loops.reconnect)
    (attempt : after.attempt = loops.attempt) (server : after.server = loops.server)
    (notices : after.router.notices = loops.router.notices) :
    CountsOn reconnect losses loops after := by
  have none : loss? loops after = none := by
    unfold loss?
    split
    · rename_i losable
      rw [server, Server.due?_of_inSession losable, Option.map_none]
    · rfl
  refine countsOn_of_none none ⟨policy.trans counts.fixed, counts.timed, ?_, ?_⟩
  · rw [server, attempt, Loops.subscriptions, notices]
    exact counts.between
  · rw [server, attempt, Loops.subscriptions, notices]
    exact counts.asked

theorem Counts.turn (counts : Counts reconnect losses loops) {teardown : Bool}
    (naming : loops.Naming teardown) (turns : Turns loops after) :
    CountsOn reconnect losses loops after := by
  cases turns with
  | works moved works => exact counts.serve naming.allows moved
  | aside policy attempt fixed server framework notices stirs =>
      exact counts.aside policy attempt server notices
  | closes closed cause => exact counts.close rfl closed

/-- The last pause is over, or the loop waits for its end. -/
structure Waits (losses : List Loss) (loops : Loops) : Prop where
  pausing : ∀ due, loops.server = .pausing due →
    ∃ loss, losses.getLast? = some loss ∧ loss.due = due
  elapsed : loops.server.isOpen = true → (∀ due, loops.server ≠ .pausing due) →
    ∀ loss, losses.getLast? = some loss → loss.due ≤ loops.schedule.now

theorem waits_of_due {loss : Loss}
    (due : after.server.due? after.schedule.now = some loss.due) :
    Waits (losses ++ [loss]) after := by
  cases stands : after.server with
  | looking =>
      rw [stands] at due
      refine ⟨fun other same => by simp [stands] at same, fun _ _ last found => ?_⟩
      obtain rfl : loss = last := by simpa using found
      exact (Option.some.inj due).ge
  | pausing time =>
      rw [stands] at due
      refine ⟨fun other same => ⟨loss, by simp, ?_⟩, fun _ nowhere => (nowhere time stands).elim⟩
      rw [stands] at same
      cases same
      exact (Option.some.inj due).symm
  | _ => simp [stands, Server.due?] at due

theorem waits_of_closed (closed : after.server.isOpen = false) : Waits losses after where
  pausing due stands := by simp [stands, Server.isOpen] at closed
  elapsed isOpen := by simp [closed] at isOpen

theorem due_of_loss? {loss : Loss} (lost : loss? loops after = some loss) :
    after.server.due? after.schedule.now = some loss.due := by
  unfold loss? at lost
  split at lost
  · obtain ⟨due, found, rfl⟩ := Option.map_eq_some_iff.mp lost
    exact found
  · contradiction

theorem due?_of_loss? (none : loss? loops after = none) (losable : loops.server.inSession = true) :
    ∀ due, after.server ≠ .pausing due := by
  intro due stands
  simp [loss?, losable, stands, Server.due?] at none

/-- The loop has no session to lose: it looks about, or it is on its way out. -/
theorem Waits.idle (waits : Waits losses loops) (unlosable : loops.server.inSession = false)
    (moved : loops.serve = some after) : Waits losses after := by
  cases stands : loops.server with
  | looking =>
      simp only [serve, stands] at moved
      cases moved
      refine ⟨fun due same => ?_, fun _ _ => waits.elapsed (by rw [stands]; rfl) (by simp [stands])⟩
      split at same <;> contradiction
  | pausing due =>
      simp only [serve, stands] at moved
      split at moved
      · rename_i reached
        cases moved
        obtain ⟨last, found, same⟩ := waits.pausing due stands
        refine ⟨fun _ paused => (by cases paused), fun _ _ loss other => ?_⟩
        rw [found] at other
        cases other
        exact same.trans_le reached
      · contradiction
  | closing result =>
      simp only [serve, stands] at moved
      cases moved
      exact waits_of_closed rfl
  | ending result =>
      simp only [serve, stands] at moved
      cases moved
      exact waits_of_closed rfl
  | left result => simp [serve, stands] at moved
  | died message => simp [serve, stands] at moved
  | _ => simp [stands, Server.inSession, Server.isAsked] at unlosable

theorem Waits.turn (waits : Waits losses loops) (turns : Turns loops after) :
    Waits (losses ++ (loss? loops after).toList) after := by
  cases lost : loss? loops after with
  | some loss => exact waits_of_due (due_of_loss? lost)
  | none =>
      rw [Option.toList_none, List.append_nil]
      cases turns with
      | aside policy attempt fixed server framework notices stirs =>
          refine ⟨server ▸ waits.pausing, fun isOpen nowhere loss last => ?_⟩
          rw [server] at isOpen nowhere
          exact (waits.elapsed isOpen nowhere loss last).trans stirs.now_le
      | closes closed cause => exact waits_of_closed closed
      | works moved works =>
          cases losable : loops.server.inSession with
          | false => exact waits.idle losable moved
          | true =>
              obtain ⟨isOpen, nowhere⟩ := Server.isOpen_of_inSession losable
              refine ⟨fun due stands => (due?_of_loss? lost losable due stands).elim, ?_⟩
              intro _ _ loss last
              exact (waits.elapsed isOpen nowhere loss last).trans (now_works works)

section
variable {before after : List Loss} {loss : Loss}

theorem Timed.pause (timed : Timed reconnect losses) (split : losses = before ++ loss :: after) :
    loss.pause = reconnect.delay (streak ((before ++ [loss]).map (·.confirmed))) loss.share := by
  rw [Loss.pause, timed before loss after split, Nat.add_sub_cancel_left]

/-- Pauses do not get shorter as long as no session is confirmed. -/
theorem Timed.rising (timed : Timed reconnect losses) (steady : reconnect.isJittery = false)
    {first last : Loss} {between : List Loss}
    (split : losses = before ++ first :: (between ++ last :: after))
    (refused : ∀ loss ∈ between ++ [last], loss.confirmed = false) : first.pause ≤ last.pause := by
  have again : losses = (before ++ first :: between) ++ last :: after := by
    rw [split, List.append_assoc, List.cons_append]
  have flags : ∀ flag ∈ (between ++ [last]).map (·.confirmed), flag = false := by
    simpa only [List.forall_mem_map] using refused
  have grown : streak ((before ++ [first]).map (·.confirmed)) ≤
      streak ((before ++ [first]).map (·.confirmed) ++ (between ++ [last]).map (·.confirmed)) :=
    streak_le_append (by simp) flags
  rw [← List.map_append] at grown
  rw [timed.pause split, timed.pause again]
  refine Backoff.delay_mono steady (grown.trans_eq ?_) _ _
  simp only [List.append_assoc, List.cons_append, List.nil_append]

theorem Timed.reset (timed : Timed reconnect losses) (member : loss ∈ losses)
    (confirmed : loss.confirmed = true) : loss.pause = reconnect.delay 0 loss.share := by
  obtain ⟨before, after, split⟩ := List.append_of_mem member
  have none : streak ((before ++ [loss]).map (·.confirmed)) = 0 := by
    rw [List.map_append, List.map_singleton, confirmed]
    exact streak_append_true _
  rw [timed.pause split, none]

theorem Timed.bounded (timed : Timed reconnect losses) (steady : reconnect.isJittery = false)
    (member : loss ∈ losses) : loss.pause ≤ roundTo53 reconnect.max.milliseconds := by
  obtain ⟨before, after, split⟩ := List.append_of_mem member
  rw [timed.pause split]
  exact Backoff.delay_le steady _ _

end

/-- How long the pauses after lost sessions are. With jitter a pause may be shorter than the one before
it and longer than the maximum. Without it the bound is the maximum of the policy, if this is short
enough to be told to the millisecond by a floating-point number. -/
structure Paced (reconnect : Backoff) (losses : List Loss) : Prop where
  timed : Timed reconnect losses
  reset : ∀ loss ∈ losses, loss.confirmed = true → loss.pause = reconnect.delay 0 loss.share
  rising : reconnect.isJittery = false → ∀ before first between last after,
    losses = before ++ first :: (between ++ last :: after) →
      (∀ loss ∈ between ++ [last], loss.confirmed = false) → first.pause ≤ last.pause
  bounded : reconnect.isJittery = false →
    ∀ loss ∈ losses, loss.pause ≤ roundTo53 reconnect.max.milliseconds
  within : reconnect.isJittery = false → reconnect.max.milliseconds < Nat.pow 2 53 →
    ∀ loss ∈ losses, loss.pause * Nanoseconds.perMillisecond ≤ reconnect.max

theorem Timed.paced (timed : Timed reconnect losses) : Paced reconnect losses where
  timed := timed
  reset _ member confirmed := timed.reset member confirmed
  rising steady _ _ _ _ _ split refused := timed.rising steady split refused
  bounded steady _ member := timed.bounded steady member
  within steady short loss member := by
    have bounded := timed.bounded steady member
    rw [roundTo53_of_lt short] at bounded
    exact (Nat.le_div_iff_mul_le (by decide)).mp bounded

/-- Where the loop stands between its sessions. All sessions so far were lost, except for the one
that it is in. It pauses until the last pause is over and no longer, and asks for no session before. -/
structure Resumes (losses : List Loss) (loops : Loops) : Prop where
  between : loops.server.isBetween = true → loops.subscriptions = losses.length
  asked : loops.server.isAsked = true → loops.subscriptions = losses.length + 1
  pausing : ∀ due, loops.server = .pausing due →
    (∃ loss, losses.getLast? = some loss ∧ loss.due = due) ∧
      (loops.serve.isSome = true ↔ due ≤ loops.schedule.now)
  subscribing : loops.server = .subscribing →
    ∀ loss, losses.getLast? = some loss → loss.due ≤ loops.schedule.now

theorem Waits.resumes (waits : Waits losses loops) (counts : Counts reconnect losses loops) :
    Resumes losses loops where
  between here := (counts.between here).2
  asked here := (counts.asked here).2.2
  pausing due stands := by
    refine ⟨waits.pausing due stands, ?_⟩
    simp only [serve, stands]
    split <;> simp_all
  subscribing stands := waits.elapsed (by rw [stands]; rfl) (by simp [stands])

theorem losses_playTurns {teardown : Bool} (counts : Counts reconnect losses loops)
    (waits : Waits losses loops) (naming : loops.Naming teardown) (turns : List Turn) :
    Counts reconnect (losses ++ loops.losses turns) (loops.playTurns turns) ∧
      Waits (losses ++ loops.losses turns) (loops.playTurns turns) := by
  induction turns generalizing loops losses with
  | nil =>
      rw [Loops.losses, List.append_nil]
      exact ⟨counts, waits⟩
  | cons turn rest ih =>
      have turns := loops.turns_turn turn
      have later := ih (counts.turn naming turns) (waits.turn turns) (naming.turns turns)
      rwa [List.append_assoc] at later

theorem counts_opening (schedule : Schedule) (link : Link) (refusal : Refusal)
    (identity : Framework)
    (reconnect : Backoff) (teardown : Bool) :
    Counts reconnect [] (opening schedule link refusal identity reconnect teardown) where
  fixed := rfl
  timed before loss after none := by cases before <;> cases none
  between _ := ⟨rfl, rfl⟩
  asked := nofun

/-- However the loops move, whatever the master does and whenever the run is told to stop: after
every lost session the loop pauses for the delay that belongs to its place in the streak, counted
from the last session that was confirmed or else from the first one, with the jitter that is drawn. So
it is for a run, which makes the moves in one of the possible ways. -/
theorem paced_playTurns (schedule : Schedule) (link : Link) (refusal : Refusal)
    (identity : Framework) (reconnect : Backoff) (teardown : Bool) :
    (∀ turns,
      let loops := opening schedule link refusal identity reconnect teardown
      Paced reconnect (loops.losses turns) ∧
        Resumes (loops.losses turns) (loops.playTurns turns)) ∧
    ∀ profile groups mint draws incidents, ∃ turns taken,
      let loops := start profile groups mint draws
      loops.playTurns turns =
          ((Run.start profile groups mint draws).undergoAll incidents).loops taken ∧
        Paced profile.reconnectBackoff (loops.losses turns) := by
  have account (schedule : Schedule) (link : Link) (refusal : Refusal) (identity : Framework)
      (reconnect : Backoff) (teardown : Bool) (turns : List Turn) :=
    losses_playTurns (counts_opening schedule link refusal identity reconnect teardown)
      ⟨nofun, nofun⟩ (naming_opening schedule link refusal identity reconnect teardown) turns
  constructor
  · intro turns loops
    obtain ⟨counts, waits⟩ := account schedule link refusal identity reconnect teardown turns
    exact ⟨counts.timed.paced, waits.resumes counts⟩
  · intro profile groups mint draws incidents
    obtain ⟨turns, taken, met⟩ := playTurns_undergoAll profile groups mint draws incidents
    obtain ⟨counts, -⟩ := account (start profile groups mint draws).schedule {} profile.refusal
      profile.framework profile.reconnectBackoff profile.teardown turns
    exact ⟨turns, taken, met, counts.timed.paced⟩

/-- A session is refused, the next one is confirmed and lost, and two more are refused. -/
theorem paced_four :
    let profile : Profile := {}
    let loops := start profile [] ⟨0⟩ .middle
    let serve (count : Nat) := List.replicate count (Turn.move .serve)
    let link (change : Link → Link) := Turn.move (.link change)
    let confirmation : Delivery := .event (.subscribed ⟨"framework", by decide⟩ none none)
    let session (link : Link) := { link with inbox := [confirmation, .disconnect "closed"] }
    let turns := link (·.refuse 1) :: serve 2 ++ .move (.pass 1000) :: serve 3 ++
      link session :: serve 2 ++ link (·.refuse 2) :: .move (.pass 1000) :: serve 3 ++
      .move (.pass 2000) :: serve 3
    Backoff.reconnect.isJittery = false ∧
      loops.losses turns =
        [⟨false, 0, 0.5, 1000⟩, ⟨true, 1000, 0.5, 2000⟩, ⟨false, 2000, 0.5, 4000⟩,
          ⟨false, 4000, 0.5, 8000⟩] ∧
      Paced Backoff.reconnect (loops.losses turns) := by
  intro profile loops serve link confirmation session turns
  have paced := (paced_playTurns loops.schedule {} profile.refusal profile.framework
    profile.reconnectBackoff profile.teardown).1 turns
  exact ⟨by decide +kernel, by decide +kernel, paced.1⟩

/-- With jitter the second of two refused sessions is followed by the shorter pause, and the first pause
is longer than the maximum. -/
example :
    let second : Nanoseconds := Nanoseconds.perSecond
    let draws : Draws
      | .pause 1 => 1.0
      | _ => 0.25
    let loops := start { reconnectBackoff := ⟨second, second, 0.5⟩ } [] ⟨0⟩ draws
    let serve := Turn.move .serve
    let turns := [.move (.link (·.refuse 2)), serve, serve, .move (.pass 2000), serve, serve, serve]
    loops.losses turns = [⟨false, 0, 1.0, 1500⟩, ⟨false, 2000, 0.25, 2750⟩] := by
  decide +kernel

/-- A maximum of nine million years, in milliseconds, does not fit into a floating-point number. It
is rounded up, and the pause is longer than the maximum. -/
theorem pause_over_max :
    let long : Nanoseconds := 288230376151715 * Nanoseconds.perSecond
    let loops := start { reconnectBackoff := ⟨long, long, 0.0⟩ } [] ⟨0⟩ .middle
    let losses := loops.losses [.move (.link (·.refuse 1)), .move .serve, .move .serve]
    losses = [⟨false, 0, 0.5, 288230376151715008⟩] ∧
      ∃ loss ∈ losses, long < loss.pause * Nanoseconds.perMillisecond := by
  intro long loops losses
  have lost : losses = [⟨false, 0, 0.5, 288230376151715008⟩] := by decide +kernel
  refine ⟨lost, _, lost ▸ List.mem_singleton_self _, ?_⟩
  decide

end Loops
end Convoy
