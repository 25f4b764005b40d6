import Convoy.Proofs.Session.Relay
import Mathlib.Data.List.DropRight

/-!
# Lost sessions

The event loop goes from one session to the next, and counts the sessions that it lost in a row
without a confirmation. The count is one number, which is set to zero in the middle of a session and
goes up at its end.
-/
namespace Convoy

/-- The number of sessions after the last one that was confirmed, or after the first one if none
was. -/
def streak (confirmed : List Bool) : Nat :=
  (confirmed.tail.rtakeWhile (!·)).length

theorem streak_append_true (confirmed : List Bool) : streak (confirmed ++ [true]) = 0 := by
  cases confirmed with
  | nil => rfl
  | cons first rest => simp [streak]

theorem streak_append_false {confirmed : List Bool} (some : confirmed ≠ []) :
    streak (confirmed ++ [false]) = streak confirmed + 1 := by
  cases confirmed with
  | nil => contradiction
  | cons first rest => simp [streak]

theorem streak_le_append {confirmed : List Bool} (some : confirmed ≠ []) {failed : List Bool}
    (refused : ∀ flag ∈ failed, flag = false) :
    streak confirmed ≤ streak (confirmed ++ failed) := by
  induction failed generalizing confirmed with
  | nil => rw [List.append_nil]
  | cons flag rest ih =>
      obtain ⟨rfl, later⟩ := List.forall_mem_cons.mp refused
      have grown : streak confirmed ≤ streak (confirmed ++ [false]) :=
        streak_append_false some ▸ Nat.le_succ _
      have onward := grown.trans (ih (List.append_ne_nil_of_right_ne_nil confirmed (by simp)) later)
      rwa [List.append_assoc, List.singleton_append] at onward

/-- Whether the subscription that was asked for last was confirmed. -/
def lastSessionConfirmed (notices : List Notice) : Bool :=
  (notices.rtakeWhile (!·.isSubscription)).any (·.confirmed?.isSome)

section
variable {notices : List Notice} {notice : Notice}

theorem lastSessionConfirmed_subscription (asks : notice.isSubscription = true) :
    lastSessionConfirmed (notices ++ [notice]) = false := by
  simp [lastSessionConfirmed, asks]

theorem lastSessionConfirmed_append (other : notice.isSubscription = false) :
    lastSessionConfirmed (notices ++ [notice]) =
      (lastSessionConfirmed notices || notice.confirmed?.isSome) := by
  simp [lastSessionConfirmed, other]

theorem lastSessionConfirmed_appends {more : List Notice}
    (others : more.countP Notice.isSubscription = 0) :
    lastSessionConfirmed (notices ++ more) =
      (lastSessionConfirmed notices || more.any (·.confirmed?.isSome)) := by
  induction more generalizing notices with
  | nil => simp
  | cons notice rest ih =>
      obtain ⟨others, other⟩ : rest.countP Notice.isSubscription = 0 ∧
          notice.isSubscription = false := by
        simpa [List.countP_cons] using others
      rw [List.append_cons, ih others, lastSessionConfirmed_append other, List.any_cons,
        Bool.or_assoc]

end

/-- What became of a session: whether it was confirmed, when it was lost, what was drawn for the pause
after it, and when the next one may be asked for. -/
structure Loss where
  confirmed : Bool
  time : Nat
  share : Float
  due : Nat
deriving DecidableEq

def Loss.pause (loss : Loss) : Nat := loss.due - loss.time

namespace Server

/-- Whether a session was asked for, and is neither refused nor lost. -/
def isAsked : Server → Bool
  | .looking | .subscribing | .pausing _ | .closing _ | .ending _ | .left _ | .died _ => false
  | _ => true

/-- Whether a session can be lost: it is asked for now, or was. -/
def inSession : Server → Bool
  | .subscribing => true
  | server => server.isAsked

/-- Whether the loop is about to ask for a session. -/
def isBetween : Server → Bool
  | .looking | .subscribing | .pausing _ => true
  | _ => false

/-- Whether the loop is in a session that was confirmed. -/
def isConfirmed : Server → Bool
  | .listening confirmed => confirmed
  | server => server.isAsked

/-- When the loop may look for the next session, if that is what it does next. -/
def due? (now : Nat) : Server → Option Nat
  | .looking => some now
  | .pausing due => some due
  | _ => none

theorem isAsked_of_isConfirmed {server : Server} (confirmed : server.isConfirmed = true) :
    server.isAsked = true := by
  cases server <;> first | rfl | contradiction

theorem isBetween_of_isAsked {server : Server} (asked : server.isAsked = true) :
    server.isBetween = false := by
  cases server <;> first | rfl | contradiction

theorem isOpen_of_inSession {server : Server} (losable : server.inSession = true) :
    server.isOpen = true ∧ ∀ due, server ≠ .pausing due := by
  cases server <;> first | contradiction | exact ⟨rfl, nofun⟩

theorem isBetween_of_due? {server : Server} {now due : Nat} (waits : server.due? now = some due) :
    server.isBetween = true ∧ server.isAsked = false := by
  cases server <;> first | exact ⟨rfl, rfl⟩ | contradiction

theorem inSession_of_isAsked {server : Server} (asked : server.isAsked = true) :
    server.inSession = true := by
  cases server <;> first | rfl | contradiction

theorem due?_of_inSession {server : Server} (losable : server.inSession = true) (now : Nat) :
    server.due? now = none := by
  cases server <;> first | rfl | contradiction

end Server

namespace Loops

def subscriptions (loops : Loops) : Nat :=
  loops.router.notices.countP Notice.isSubscription

/-- The session that is lost on the way from one state to the next, if one is: it was asked for or
going on, and the next one is to be asked for. -/
def loss? (before after : Loops) : Option Loss :=
  if before.server.inSession then
    (after.server.due? after.schedule.now).map fun due =>
      { confirmed := lastSessionConfirmed after.router.notices
        time := after.schedule.now
        share := after.router.drawn .pause
        due := due }
  else none

/-- The sessions that are lost while some turns are played. -/
def losses (loops : Loops) : List Turn → List Loss
  | [] => []
  | turn :: rest => (loss? loops (loops.turn turn)).toList ++ losses (loops.turn turn) rest

variable {loops after : Loops} {reconnect : Backoff} {losses : List Loss}

theorem loss?_of_due (nothing : ∀ now, after.server.due? now = none) :
    loss? loops after = none := by
  simp [loss?, nothing]

/-- Every session is followed by the pause that its number in the streak and what is drawn call
for. -/
def Timed (reconnect : Backoff) (losses : List Loss) : Prop :=
  ∀ before loss after, losses = before ++ loss :: after → loss.due =
    loss.time + reconnect.delay (streak ((before ++ [loss]).map (·.confirmed))) loss.share

theorem Timed.append (timed : Timed reconnect losses) {loss : Loss}
    (due : loss.due = loss.time +
      reconnect.delay (streak (losses.map (·.confirmed) ++ [loss.confirmed])) loss.share) :
    Timed reconnect (losses ++ [loss]) := by
  intro before other after split
  rcases last_or_earlier split with ⟨rfl, rfl, -⟩ | ⟨rest, earlier⟩
  · rw [List.map_append]
    exact due
  · exact timed before other rest earlier

/-- The number of attempts is that of the next session in its streak, were it refused, and once it
was asked for, that of the session as it stands. -/
structure Counts (reconnect : Backoff) (losses : List Loss) (loops : Loops) : Prop where
  fixed : loops.reconnect = reconnect
  timed : Timed reconnect losses
  between : loops.server.isBetween = true →
    loops.attempt = streak (losses.map (·.confirmed) ++ [false]) ∧
      loops.subscriptions = losses.length
  asked : loops.server.isAsked = true →
    loops.attempt = streak (losses.map (·.confirmed) ++ [loops.server.isConfirmed]) ∧
      lastSessionConfirmed loops.router.notices = loops.server.isConfirmed ∧
        loops.subscriptions = losses.length + 1

/-- The count goes on with the next state, and with the session that is lost on the way to it. -/
def CountsOn (reconnect : Backoff) (losses : List Loss) (before after : Loops) : Prop :=
  Counts reconnect (losses ++ (loss? before after).toList) after

theorem countsOn_of_none (none : loss? loops after = none)
    (counts : Counts reconnect losses after) :
    CountsOn reconnect losses loops after := by
  rw [CountsOn, none, Option.toList_none, List.append_nil]
  exact counts

/-- Nothing is to be counted once the loop is on its way out. -/
theorem Counts.close (counts : Counts reconnect losses loops)
    (policy : after.reconnect = loops.reconnect)
    (closed : after.server.isOpen = false) : CountsOn reconnect losses loops after := by
  obtain ⟨nothing, between, asked⟩ : (∀ now, after.server.due? now = none) ∧
      after.server.isBetween = false ∧ after.server.isAsked = false := by
    cases stands : after.server <;> rw [stands] at closed <;>
      first | exact ⟨fun _ => rfl, rfl, rfl⟩ | contradiction
  exact countsOn_of_none (loss?_of_due nothing)
    ⟨policy.trans counts.fixed, counts.timed, by simp [between], by simp [asked]⟩

/-- A session was asked for, or goes on. -/
theorem Counts.ask (counts : Counts reconnect losses loops)
    (policy : after.reconnect = loops.reconnect)
    (asked : after.server.isAsked = true)
    (attempt : after.attempt =
      streak (losses.map (·.confirmed) ++ [after.server.isConfirmed]))
    (reached : lastSessionConfirmed after.router.notices = after.server.isConfirmed)
    (subscriptions : after.subscriptions = losses.length + 1) :
    CountsOn reconnect losses loops after :=
  countsOn_of_none (loss?_of_due (Server.due?_of_inSession (Server.inSession_of_isAsked asked)))
    ⟨policy.trans counts.fixed, counts.timed, by simp [Server.isBetween_of_isAsked asked],
      fun _ => ⟨attempt, reached, subscriptions⟩⟩

/-- A session goes on that was confirmed. -/
theorem Counts.goOn (counts : Counts reconnect losses loops)
    (policy : after.reconnect = loops.reconnect)
    (before : loops.server.isConfirmed = true) (confirmed : after.server.isConfirmed = true)
    (attempt : after.attempt = loops.attempt) {more : List Notice}
    (notices : after.router.notices = loops.router.notices ++ more)
    (others : more.countP Notice.isSubscription = 0) : CountsOn reconnect losses loops after := by
  obtain ⟨number, reached, subscriptions⟩ :=
    counts.asked (Server.isAsked_of_isConfirmed before)
  refine counts.ask policy (Server.isAsked_of_isConfirmed confirmed) ?_ ?_ ?_
  · rw [attempt, number, before, confirmed]
  · rw [notices, lastSessionConfirmed_appends others, reached, before, confirmed, Bool.true_or]
  · rw [Loops.subscriptions, notices, List.countP_append, others]
    exact subscriptions

/-- What losing a session does. -/
structure Loses (before after : Loops) : Prop where
  reconnect : after.reconnect = before.reconnect
  attempt : after.attempt = before.attempt + 1
  notices : after.router.notices = before.router.notices
  drawn : after.router.drawn .pause = before.router.drawn .pause
  due : after.server.due? after.schedule.now = some
    (after.schedule.now + before.reconnect.delay before.attempt (before.router.drawn .pause))

theorem loses_lose (loops : Loops) : Loses loops loops.lose := by
  unfold lose
  dsimp only
  split
  · rename_i immediate
    refine ⟨rfl, rfl, rfl, rfl, ?_⟩
    rw [immediate]
    rfl
  · exact ⟨rfl, rfl, rfl, rfl, rfl⟩

/-- A session is lost, and the pause after it begins. The router may have changed on the way. -/
theorem Counts.lose (counts : Counts reconnect losses loops) (lost : loops.server.inSession = true)
    {before : Loops} (policy : before.reconnect = loops.reconnect)
    (attempt : before.attempt =
      streak (losses.map (·.confirmed) ++ [lastSessionConfirmed before.router.notices]))
    (subscriptions : before.subscriptions = losses.length + 1) :
    CountsOn reconnect losses loops before.lose := by
  obtain ⟨same, number, notices, drawn, due⟩ := loses_lose before
  obtain ⟨-, unasked⟩ := Server.isBetween_of_due? due
  rw [CountsOn, loss?, if_pos lost, due, Option.map_some, Option.toList_some, notices, drawn]
  constructor
  · exact (same.trans policy).trans counts.fixed
  · rw [policy, counts.fixed]
    exact counts.timed.append
      (congrArg (before.lose.schedule.now + reconnect.delay · (before.router.drawn .pause)) attempt)
  · intro _
    have next := streak_append_false (List.concat_ne_nil
      (lastSessionConfirmed before.router.notices) (losses.map (·.confirmed)))
    rw [List.map_append, List.length_append, Loops.subscriptions, notices]
    exact ⟨(number.trans (congrArg (· + 1) attempt)).trans next.symm, subscriptions⟩
  · exact fun asked => by simp [unasked] at asked

theorem Counts.follow (counts : Counts reconnect losses loops)
    (confirmed : loops.server.isConfirmed = true)
    {before : Loops} (policy : before.reconnect = loops.reconnect)
    (attempt : before.attempt = loops.attempt) {answer : Router × Except LinkFailure Unit}
    (more : List Notice) (notices : answer.1.notices = loops.router.notices ++ more)
    (others : more.countP Notice.isSubscription = 0) (next : Server)
    (goesOn : next.isConfirmed = true) :
    CountsOn reconnect losses loops (before.follow answer next) := by
  obtain ⟨router, result⟩ := answer
  cases result with
  | ok done => exact counts.goOn policy confirmed goesOn attempt notices others
  | error failure => exact counts.close policy rfl

/-- An event of a session that was confirmed before. -/
theorem Counts.hear_confirmed (counts : Counts reconnect losses loops)
    (stands : loops.server = .listening true) (router : Router)
    (notices : router.notices = loops.router.notices) (event : Event) :
    CountsOn reconnect losses loops ({ loops with router := router }.hear true event) := by
  have before : loops.server.isConfirmed = true := by rw [stands]; rfl
  have heard {after : Loops} (policy : after.reconnect = loops.reconnect)
      (confirmed : after.server.isConfirmed = true) (attempt : after.attempt = loops.attempt)
      (grown : after.router.notices = router.notices ++ [.event event]) :
      CountsOn reconnect losses loops after :=
    counts.goOn policy before confirmed attempt (notices ▸ grown) rfl
  simp only [Loops.hear, Bool.true_or, if_true]
  cases event with
  | offers given =>
      cases framework : router.framework with
      | some named => exact heard rfl rfl rfl rfl
      | none =>
          simp only [Router.handle, Router.notice, framework]
          exact counts.close rfl rfl
  | unknown => exact counts.close rfl rfl
  | _ => exact heard rfl rfl rfl rfl

/-- The first event of a session. Only a confirmation lets it go on. -/
theorem Counts.hear_first (counts : Counts reconnect losses loops)
    (stands : loops.server = .listening false) (router : Router)
    (notices : router.notices = loops.router.notices) (event : Event) :
    CountsOn reconnect losses loops ({ loops with router := router }.hear false event) := by
  obtain ⟨-, -, subscriptions⟩ := counts.asked (by rw [stands]; rfl)
  cases event with
  | subscribed framework interval master =>
      refine counts.ask rfl rfl (streak_append_true _).symm ?_ ?_
      · exact (lastSessionConfirmed_append rfl).trans (Bool.or_true _)
      · show List.countP _ (router.notices ++ [.event _]) = _
        rw [List.countP_append, notices]
        exact subscriptions
  | _ => exact counts.close rfl rfl

theorem Counts.listen (counts : Counts reconnect losses loops) {confirmed : Bool}
    (stands : loops.server = .listening confirmed) (moved : loops.listen confirmed = some after) :
    CountsOn reconnect losses loops after := by
  have lost : loops.server.inSession = true := by rw [stands]; rfl
  obtain ⟨attempt, reached, subscriptions⟩ := counts.asked (by rw [stands]; rfl)
  rw [← reached] at attempt
  unfold Loops.listen at moved
  cases inbox : loops.router.link.inbox with
  | nil =>
      simp only [inbox] at moved
      split at moved
      · cases moved
        exact counts.lose lost rfl attempt subscriptions
      · contradiction
  | cons delivery rest =>
      simp only [inbox] at moved
      cases delivery with
      | disconnect reason =>
          cases moved
          exact counts.lose lost rfl attempt subscriptions
      | event event =>
          cases moved
          cases confirmed with
          | true =>
              refine counts.hear_confirmed stands _ ?_ event
              rfl
          | false =>
              refine counts.hear_first stands _ ?_ event
              rfl

theorem Counts.subscribe (counts : Counts reconnect losses loops)
    (stands : loops.server = .subscribing)
    (moved : loops.serve = some after) : CountsOn reconnect losses loops after := by
  obtain ⟨attempt, subscriptions⟩ := counts.between (by rw [stands]; rfl)
  let notice : Notice :=
    .call (loops.router.sign (.subscribe { loops.identity with id := loops.router.framework }))
  have asks : notice.isSubscription = true := loops.router.isSubscription_sign _
  have notices : (loops.router.subscribe loops.identity).1.notices =
      loops.router.notices ++ [notice] := rfl
  have unconfirmed :
      lastSessionConfirmed (loops.router.subscribe loops.identity).1.notices = false :=
    notices ▸ lastSessionConfirmed_subscription asks
  have counted : (loops.router.subscribe loops.identity).1.notices.countP Notice.isSubscription =
      losses.length + 1 := by
    rw [notices, List.countP_append, List.countP_singleton, asks]
    exact congrArg (· + 1) subscriptions
  simp only [serve, stands] at moved
  split at moved <;> rename_i answer <;> rw [answer] at unconfirmed counted <;> cases moved
  · exact counts.ask rfl rfl attempt unconfirmed counted
  · refine counts.lose (by rw [stands]; rfl) rfl ?_ counted
    exact attempt.trans (congrArg (fun flag => streak (_ ++ [flag])) unconfirmed.symm)

/-- The loop looks about between two sessions. -/
theorem Counts.idle (counts : Counts reconnect losses loops)
    (unlosable : loops.server.inSession = false)
    (before : loops.server.isBetween = true) {server : Server} (unasked : server.isAsked = false) :
    CountsOn reconnect losses loops { loops with server := server } := by
  have none : loss? loops { loops with server := server } = none := by
    rw [loss?, unlosable, if_neg Bool.false_ne_true]
  exact countsOn_of_none none
    ⟨counts.fixed, counts.timed, fun _ => counts.between before,
      fun asked => by simp [unasked] at asked⟩

theorem Counts.answer (counts : Counts reconnect losses loops)
    (confirmed : loops.server.isConfirmed = true)
    (framework : FrameworkId) (offers : List Offer) :
    CountsOn reconnect losses loops (loops.answer framework offers) := by
  cases offers with
  | nil => exact counts.goOn rfl confirmed rfl rfl (List.append_nil _).symm rfl
  | cons offer rest =>
      unfold Loops.answer
      dsimp only
      split
      · exact counts.close rfl rfl
      · exact counts.goOn rfl confirmed rfl rfl (List.append_nil _).symm rfl

theorem Counts.serve (counts : Counts reconnect losses loops) {teardown : Bool}
    (allows : loops.server.Allows loops.router teardown) (moved : loops.serve = some after) :
    CountsOn reconnect losses loops after := by
  cases stands : loops.server with
  | subscribing => exact counts.subscribe stands moved
  | listening confirmed =>
      simp only [Loops.serve, stands] at moved
      exact counts.listen stands moved
  | looking =>
      simp only [Loops.serve, stands] at moved
      cases moved
      refine counts.idle (by rw [stands]; rfl) (by rw [stands]; rfl) ?_
      split <;> rfl
  | pausing due =>
      simp only [Loops.serve, stands] at moved
      split at moved
      · cases moved
        exact counts.idle (by rw [stands]; rfl) (by rw [stands]; rfl) rfl
      · contradiction
  | answering framework offers =>
      simp only [Loops.serve, stands] at moved
      cases moved
      exact counts.answer (by rw [stands]; rfl) framework offers
  | accepting framework accept offers =>
      simp only [Loops.serve, stands, Server.Allows] at moved allows
      cases moved
      obtain ⟨-, -, ids, operations, filters, rfl⟩ := allows
      have handled :
          loops.router.Handles [] (loops.router.call (.accept ids operations filters)).1 :=
        Router.handles_call rfl
      obtain ⟨more, notices, -, others⟩ := handled.notices
      exact counts.follow (by rw [stands]; rfl) rfl rfl more notices others
        (.answering framework offers) rfl
  | acknowledging status =>
      simp only [Loops.serve, stands] at moved
      cases moved
      obtain ⟨more, notices, -, others⟩ := (loops.router.handles_acknowledge status).notices
      exact counts.goOn rfl (by rw [stands]; rfl) rfl rfl notices others
  | acknowledged status result =>
      simp only [Loops.serve, stands] at moved
      cases moved
      exact counts.goOn rfl (by rw [stands]; rfl) rfl rfl (List.append_nil _).symm rfl
  | handing acknowledged =>
      simp only [Loops.serve, stands] at moved
      split at moved
      · cases moved
        refine counts.follow ?_ ?_ ?_ [] ?_ rfl _ ?_
        · rw [stands]; rfl
        · rfl
        · rfl
        · exact (List.append_nil _).symm
        · rfl
      · contradiction
  | closing result =>
      simp only [Loops.serve, stands] at moved
      cases moved
      exact counts.close rfl rfl
  | ending result =>
      simp only [Loops.serve, stands] at moved
      cases moved
      exact counts.close rfl rfl
  | left result => simp [Loops.serve, stands] at moved
  | died message => simp [Loops.serve, stands] at moved

end Loops
end Convoy
