import Convoy.Proofs.Session.Interleaving

/-!
# What a turn may do

A turn moves the event loop, closes it or passes it by. The event loop matches an offer, sends an
acceptance, or does something else; and what passes it by leaves its trace alone and does little to
the schedule. The relations below list the cases, so that an invariant of both loops is checked case
by case.
-/
namespace Convoy

/-- What an acceptance launches. -/
def Call.operations (call : Call) : List Operation :=
  match call.body with
  | .accept _ operations _ => operations
  | _ => []

namespace Notice

def operations : Notice → List Operation
  | .call sent => sent.operations
  | .event _ => []

def isAcceptance : Notice → Bool
  | .call { body := .accept _ _ _, .. } => true
  | _ => false

theorem operations_eq_nil {notice : Notice} (other : notice.isAcceptance = false) :
    notice.operations = [] := by
  cases notice with
  | event heard => rfl
  | call call =>
      obtain ⟨framework, body⟩ := call
      cases body with
      | accept offers operations filters => contradiction
      | _ => rfl

end Notice

namespace Router

variable (router : Router)

theorem body_sign (call : Call) : (router.sign call).body = call.body := by
  unfold sign
  split <;> rfl

theorem isAcceptance_sign (call : Call) :
    (Notice.call (router.sign call)).isAcceptance = (Notice.call call).isAcceptance := by
  obtain ⟨framework, body⟩ := call
  unfold sign
  split <;> cases body <;> rfl

/-- What a call that is no acceptance adds to the trace. -/
theorem added_call {call : Call} (other : (Notice.call call).isAcceptance = false) :
    ∀ notice ∈ [Notice.call (router.sign call)], notice.isAcceptance = false := by
  intro notice member
  rw [List.mem_singleton.mp member, router.isAcceptance_sign, other]

theorem added_acknowledge (status : Status) :
    (router.acknowledge status).1.schedule = router.schedule ∧
      ∃ more, (router.acknowledge status).1.notices = router.notices ++ more ∧
        ∀ notice ∈ more, notice.isAcceptance = false := by
  have nothing : ∃ more, router.notices = router.notices ++ more ∧
      ∀ notice ∈ more, notice.isAcceptance = false :=
    ⟨[], (List.append_nil _).symm, List.forall_mem_nil _⟩
  unfold acknowledge Call.acknowledge?
  cases status.uuid with
  | none => exact ⟨rfl, nothing⟩
  | some uuid =>
      cases status.agent with
      | none => exact ⟨rfl, nothing⟩
      | some agent => exact ⟨rfl, _, rfl, router.added_call rfl⟩

end Router

/-- What happens to a schedule between offers: flags and serial numbers change, a report is applied,
time passes, and relaunches come back. -/
inductive Schedule.Stirs (schedule : Schedule) : Schedule → Prop where
  | flagged (monitor : Monitor) (stopping : Bool) (serials : Nat) :
      Stirs schedule { schedule with monitor := monitor, stopping := stopping, serials := serials }
  | reported (status : Status) : Stirs schedule (schedule.apply status).1
  | passed (milliseconds : Nat) : Stirs schedule (schedule.pass milliseconds)
  | cameBack (position : Nat) : Stirs schedule (schedule.comeBack position)
  | settled : Stirs schedule schedule.settle

theorem Schedule.Stirs.refl (schedule : Schedule) : schedule.Stirs schedule :=
  .flagged schedule.monitor schedule.stopping schedule.serials

theorem Schedule.Stirs.of_eq {schedule after : Schedule} (same : after = schedule) :
    schedule.Stirs after :=
  same ▸ .refl after

/-- Whether the loop is at work on offers. -/
def Server.isDealing : Server → Bool
  | .answering _ _ | .accepting _ _ _ => true
  | _ => false

namespace Loops

variable {loops after : Loops}

theorem schedule_follow (loops : Loops) (answer : Router × Except LinkFailure Unit)
    (next : Server) : (loops.follow answer next).schedule = answer.1.schedule := by
  unfold follow
  split <;> rfl

/-- What the event loop may do in a move: it matches an offer, sends an acceptance, or hears and calls
something else. It turns to offers only where it has just heard them. -/
inductive Works (loops : Loops) : Loops → Prop where
  | deals {framework : FrameworkId} {offer : Offer} {rest : List Offer}
      (stands : loops.server = .answering framework (offer :: rest)) :
      Works loops (loops.answer framework (offer :: rest))
  | accepts {framework : FrameworkId} {accept : Call} {offers : List Offer}
      (stands : loops.server = .accepting framework accept offers) :
      Works loops (loops.follow (loops.router.call accept) (.answering framework offers))
  | speaks {after : Loops} {more : List Notice} (stirs : loops.schedule.Stirs after.schedule)
      (notices : after.router.notices = loops.router.notices ++ more)
      (other : ∀ notice ∈ more, notice.isAcceptance = false)
      (silent : ∀ framework accept offers, after.server ≠ .accepting framework accept offers)
      (asked : ∀ framework offers, after.server = .answering framework offers →
        loops.router.framework = some framework ∧ more = [.event (.offers offers)]) :
      Works loops after

theorem Works.of_quiet {more : List Notice} (stirs : loops.schedule.Stirs after.schedule)
    (notices : after.router.notices = loops.router.notices ++ more)
    (other : ∀ notice ∈ more, notice.isAcceptance = false)
    (quiet : after.server.isDealing = false) : Works loops after :=
  .speaks stirs notices other
    (fun framework accept offers stands => by simp [stands, Server.isDealing] at quiet)
    (fun framework offers stands => by simp [stands, Server.isDealing] at quiet)

/-- Nothing is heard or called. -/
theorem Works.of_same (stirs : loops.schedule.Stirs after.schedule)
    (notices : after.router.notices = loops.router.notices)
    (quiet : after.server.isDealing = false) : Works loops after :=
  .of_quiet stirs (notices.trans (List.append_nil _).symm) (List.forall_mem_nil _) quiet

theorem works_hear (loops : Loops) (link : Link) (confirmed : Bool) (event : Event) :
    Works loops
      ({ loops with router := { loops.router with link := link } }.hear confirmed event) := by
  have same := Schedule.Stirs.refl loops.schedule
  have other : ∀ notice ∈ [Notice.event event], notice.isAcceptance = false := by
    simp [Notice.isAcceptance]
  unfold hear
  split
  · cases event with
    | offers given =>
        cases known : loops.router.framework with
        | some framework =>
            simp only [known]
            refine .speaks same rfl other ?_ ?_
            · rintro _ _ _ ⟨⟩
            · rintro _ _ ⟨⟩
              exact ⟨known, rfl⟩
        | none =>
            simp only [known, Router.handle, Router.notice]
            exact .of_quiet same rfl other rfl
    | _ => exact .of_quiet same rfl other rfl
  · exact .of_same same rfl rfl

theorem works_lose {router : Router} {more : List Notice}
    (same : router.schedule = loops.schedule)
    (notices : router.notices = loops.router.notices ++ more)
    (other : ∀ notice ∈ more, notice.isAcceptance = false) :
    Works loops { loops with router := router }.lose := by
  unfold lose
  dsimp only
  split
  · exact .of_quiet (.of_eq same) notices other rfl
  · exact .of_quiet (same ▸ .flagged _ _ _) notices other rfl

theorem works_listen {confirmed : Bool} (moved : loops.listen confirmed = some after) :
    Works loops after := by
  have lost (link : Link) :
      Works loops { loops with router := { loops.router with link := link } }.lose :=
    works_lose rfl (List.append_nil _).symm (List.forall_mem_nil _)
  unfold listen at moved
  cases inbox : loops.router.link.inbox with
  | nil =>
      simp only [inbox] at moved
      split at moved
      · cases moved
        exact lost loops.router.link
      · contradiction
  | cons delivery rest =>
      simp only [inbox] at moved
      cases delivery with
      | event event =>
          cases moved
          exact loops.works_hear _ confirmed event
      | disconnect reason =>
          cases moved
          exact lost _

theorem works_serve (moved : loops.serve = some after) : Works loops after := by
  have same := Schedule.Stirs.refl loops.schedule
  unfold serve at moved
  cases stands : loops.server with
  | looking =>
      simp only [stands] at moved
      cases moved
      split <;> exact .of_same same rfl rfl
  | subscribing =>
      simp only [stands] at moved
      let call := loops.router.sign (.subscribe { loops.identity with id := loops.router.framework })
      have schedule : (loops.router.subscribe loops.identity).1.schedule = loops.schedule := rfl
      have notices : (loops.router.subscribe loops.identity).1.notices =
          loops.router.notices ++ [.call call] := rfl
      have other : ∀ notice ∈ [Notice.call call], notice.isAcceptance = false :=
        loops.router.added_call rfl
      split at moved <;> rename_i answer <;> rw [answer] at schedule notices <;> cases moved
      · exact .of_quiet (.of_eq schedule) notices other rfl
      · exact works_lose schedule notices other
  | listening confirmed =>
      simp only [stands] at moved
      exact works_listen moved
  | answering framework offers =>
      simp only [stands] at moved
      cases moved
      cases offers with
      | nil => exact .of_same same rfl rfl
      | cons offer rest => exact .deals stands
  | accepting framework accept offers =>
      simp only [stands] at moved
      cases moved
      exact .accepts stands
  | acknowledging status =>
      simp only [stands] at moved
      cases moved
      obtain ⟨schedule, more, notices, other⟩ := loops.router.added_acknowledge status
      exact .of_quiet (.of_eq schedule) notices other rfl
  | acknowledged status result =>
      simp only [stands] at moved
      cases moved
      exact .of_same same rfl rfl
  | handing acknowledged =>
      simp only [stands] at moved
      split at moved
      · cases moved
        unfold follow
        split <;> rename_i answer <;> cases answer <;> exact .of_same same rfl rfl
      · contradiction
  | pausing due =>
      simp only [stands] at moved
      split at moved
      · cases moved
        exact .of_same same rfl rfl
      · contradiction
  | closing result =>
      simp only [stands] at moved
      cases moved
      split
      · exact .of_quiet same rfl (loops.router.added_call rfl) rfl
      · exact .of_same same rfl rfl
  | ending result =>
      simp only [stands] at moved
      cases moved
      exact .of_same (.flagged _ _ _) rfl rfl
  | left result => simp [stands] at moved
  | died message => simp [stands] at moved

/-- A turn lets the event loop move, passes it by, or closes it: it is told to at work, or it dies. -/
inductive Turns (loops : Loops) : Loops → Prop where
  | works {after : Loops} (moved : loops.serve = some after) (works : Works loops after) :
      Turns loops after
  | aside {after : Loops} (policy : after.reconnect = loops.reconnect)
      (attempt : after.attempt = loops.attempt) (fixed : after.teardown = loops.teardown)
      (server : after.server = loops.server)
      (framework : after.router.framework = loops.router.framework)
      (notices : after.router.notices = loops.router.notices)
      (stirs : loops.schedule.Stirs after.schedule) : Turns loops after
  | closes {server : Server} (closed : server.isOpen = false)
      (cause : loops.server.isOpen = true ∧ (∃ result, server = .closing result) ∨
        ∃ message, server = .died message) : Turns loops { loops with server := server }

theorem turns_watch (moved : loops.watch = some after) : Turns loops after := by
  unfold watch at moved
  split at moved
  · cases moved
    exact .aside rfl rfl rfl rfl rfl rfl (.refl _)
  · cases moved
    exact .aside rfl rfl rfl rfl rfl rfl (.flagged _ _ _)
  · contradiction

theorem turns_move (loops : Loops) (move : Move) : Turns loops (loops.move move) := by
  have same : Turns loops loops := .aside rfl rfl rfl rfl rfl rfl (.refl _)
  cases move with
  | serve =>
      simp only [Loops.move]
      cases moved : loops.serve with
      | none => exact same
      | some after => exact .works moved (works_serve moved)
  | cancel =>
      simp only [Loops.move]
      split
      · rename_i told
        exact .closes rfl (.inl ⟨(Bool.and_eq_true_iff.mp told).1, _, rfl⟩)
      · exact same
  | serverDies message =>
      simp only [Loops.move]
      split
      · exact same
      · exact .closes rfl (.inr ⟨message, rfl⟩)
  | watch =>
      simp only [Loops.move]
      cases moved : loops.watch with
      | none => exact same
      | some after => exact turns_watch moved
  | take =>
      simp only [Loops.move]
      split
      · exact .aside rfl rfl rfl rfl rfl rfl (.reported _)
      · exact same
  | wake =>
      simp only [Loops.move]
      split
      · split <;> exact .aside rfl rfl rfl rfl rfl rfl (.refl _)
      · exact same
  | hangUp =>
      simp only [Loops.move]
      split
      · split <;> exact .aside rfl rfl rfl rfl rfl rfl (.refl _)
      · exact same
  | watcherDies message =>
      simp only [Loops.move]
      split <;> exact .aside rfl rfl rfl rfl rfl rfl (.refl _)
  | joinServer =>
      simp only [Loops.move]
      split
      · exact .aside rfl rfl rfl rfl rfl rfl (.flagged _ _ _)
      · exact same
  | joinWatcher =>
      simp only [Loops.move]
      split
      · exact .aside rfl rfl rfl rfl rfl rfl (.flagged _ _ _)
      · exact same
  | link change => exact .aside rfl rfl rfl rfl rfl rfl (.refl _)
  | pass milliseconds => exact .aside rfl rfl rfl rfl rfl rfl (.passed milliseconds)
  | comeBack position => exact .aside rfl rfl rfl rfl rfl rfl (.cameBack position)
  | settle => exact .aside rfl rfl rfl rfl rfl rfl .settled

end Loops

/-- A move, or somebody outside tells the run to stop. -/
inductive Turn where
  | move (move : Move)
  | stop

namespace Loops

def turn (loops : Loops) : Turn → Loops
  | .move move => loops.move move
  | .stop => loops.raise

def playTurns (loops : Loops) (turns : List Turn) : Loops :=
  turns.foldl turn loops

theorem playTurns_moves (loops : Loops) (moves : List Move) :
    loops.playTurns (moves.map .move) = loops.play moves := by
  rw [playTurns, List.foldl_map]
  rfl

theorem turns_turn (loops : Loops) (turn : Turn) : Turns loops (loops.turn turn) := by
  cases turn with
  | move move => exact loops.turns_move move
  | stop => exact .aside rfl rfl rfl rfl rfl rfl (.flagged _ _ _)

/-- What befalls a run makes its loops take some turns. -/
theorem playTurns_undergoAll (profile : Profile) (groups : List TaskGroup) (mint : Mint)
    (draws : Draws) (incidents : List Incident) :
    ∃ turns taken, (start profile groups mint draws).playTurns turns =
      ((Run.start profile groups mint draws).undergoAll incidents).loops taken := by
  obtain ⟨moves, taken, met⟩ := (meets_start profile groups mint draws).trans
    (meets_undergoAll (Run.start profile groups mint draws) incidents)
  exact ⟨moves.map .move, taken, (playTurns_moves _ moves).trans met⟩

end Loops
end Convoy
