import Convoy.Proofs.Schedule.Origins
import Convoy.Proofs.Session.Naming

/-!
# Launches are faithful

Every acceptance answers one offer, the first that is not answered yet. It launches submitted groups
as they were given, on the agent of this offer and for the framework that was confirmed last. All
identities in the acceptances of a run are handed out in this run, and each of them once.
-/
namespace Convoy

/-- Of the offers that came last there was one call for each, up to those that are still to be
answered. -/
def Unanswered (notices : List Notice) (offers : List Offer) : Prop :=
  ∃ before all, ∃ calls : List Call,
    notices = before ++ .event (.offers all) :: calls.map .call ∧ all.drop calls.length = offers

/-- An acceptance is faithful where it comes: it answers the next offer by itself, and launches
submitted groups on its agent, for the framework that was confirmed last. -/
def Accepts (groups : List TaskGroup) (mint : Mint) (role : String) (before : List Notice)
    (answered : List OfferId) (operations : List Operation) : Prop :=
  ∃ offer rest framework, Unanswered before (offer :: rest) ∧ answered = [offer.id] ∧
    lastConfirmed before = some framework ∧
    ∀ operation ∈ operations, ∃ group ∈ groups,
      Operation.LaunchOf mint role offer.agent framework group operation

def Launched (groups : List TaskGroup) (mint : Mint) (role : String) (notices : List Notice) :
    Prop :=
  ∀ before call after answered operations filters, notices = before ++ .call call :: after →
    call.body = .accept answered operations filters →
    Accepts groups mint role before answered operations

/-- All launches are faithful, and none shares a task or an executor with another. -/
structure Faithful (groups : List TaskGroup) (mint : Mint) (role : String) (notices : List Notice) :
    Prop where
  launched : Launched groups mint role notices
  tasks : ((notices.flatMap Notice.operations).flatMap (·.taskIds)).Nodup
  executors : ((notices.flatMap Notice.operations).filterMap (·.executor?)).Nodup

section
variable {groups : List TaskGroup} {mint : Mint} {role : String} {notices more : List Notice}

theorem Launched.append_call (launched : Launched groups mint role notices) {call : Call}
    (right : ∀ answered operations filters, call.body = .accept answered operations filters →
      Accepts groups mint role notices answered operations) :
    Launched groups mint role (notices ++ [.call call]) := by
  intro before other after answered operations filters split accepts
  rcases last_or_earlier split with ⟨rfl, here, -⟩ | ⟨rest, earlier⟩
  · cases here
    exact right answered operations filters accepts
  · exact launched before other rest answered operations filters earlier accepts

theorem Launched.append (launched : Launched groups mint role notices)
    (other : ∀ notice ∈ more, notice.isAcceptance = false) :
    Launched groups mint role (notices ++ more) := by
  induction more generalizing notices with
  | nil => rwa [List.append_nil]
  | cons notice rest ih =>
      rw [List.append_cons]
      refine ih ?_ fun late member => other late (List.mem_cons_of_mem _ member)
      have here := other notice List.mem_cons_self
      intro before call after answered operations filters split accepts
      rcases last_or_earlier split with ⟨-, rfl, -⟩ | ⟨rest, earlier⟩
      · obtain ⟨framework, body⟩ := call
        subst accepts
        contradiction
      · exact launched before call rest answered operations filters earlier accepts

theorem Unanswered.append_call {offer : Offer} {rest : List Offer}
    (unanswered : Unanswered notices (offer :: rest)) (call : Call) :
    Unanswered (notices ++ [.call call]) rest := by
  obtain ⟨before, all, calls, rfl, left⟩ := unanswered
  refine ⟨before, all, calls ++ [call], by simp, ?_⟩
  rw [List.length_append, ← List.drop_drop, left]
  rfl

end

namespace Server

/-- What is launched by the acceptance that is to be sent next. -/
def operations : Server → List Operation
  | .accepting _ accept _ => accept.operations
  | _ => []

/-- The offers that are being answered are those that are not answered yet, and the acceptance that
is to be sent next is for the first of them. -/
def Answers (groups : List TaskGroup) (mint : Mint) (role : String) (notices : List Notice) :
    Server → Prop
  | .answering framework offers =>
    lastConfirmed notices = some framework ∧ Unanswered notices offers
  | .accepting framework accept offers =>
    lastConfirmed notices = some framework ∧
      ∃ offer operations filters, accept = .accept [offer.id] operations filters ∧
        Unanswered notices (offer :: offers) ∧
        ∀ operation ∈ operations, ∃ group ∈ groups,
          Operation.LaunchOf mint role offer.agent framework group operation
  | _ => True

end Server

theorem Schedule.Issues.stirs {schedule after : Schedule} {submitted : List TaskGroup}
    {first : Mint} {operations : List Operation} (issues : schedule.Issues submitted first operations)
    (stirs : schedule.Stirs after) : after.Issues submitted first operations := by
  cases stirs with
  | reported status => exact issues.report _ status
  | cameBack position => exact issues.takes (schedule.takes_comeBack position)
  | settled => exact issues.takes schedule.takes_settle
  | _ => exact issues.congr rfl rfl rfl

namespace Loops

variable {loops after : Loops} {groups : List TaskGroup} {mint : Mint} {role : String}
  {teardown : Bool}

/-- What was launched so far, or is to be launched next. -/
def operations (loops : Loops) : List Operation :=
  loops.router.notices.flatMap Notice.operations ++ loops.server.operations

/-- All acceptances so far are faithful, and the next one will be. -/
structure Launching (groups : List TaskGroup) (mint : Mint) (role : String) (loops : Loops) :
    Prop where
  issues : loops.schedule.Issues (groups.map (·.inRole role)) mint loops.operations
  answers : loops.server.Answers groups mint role loops.router.notices
  launched : Launched groups mint role loops.router.notices

theorem Launching.of_same (launching : loops.Launching groups mint role)
    (issues : after.schedule.Issues (groups.map (·.inRole role)) mint loops.operations)
    (notices : after.router.notices = loops.router.notices) (server : after.server = loops.server) :
    after.Launching groups mint role where
  issues := by
    rw [operations, notices, server]
    exact issues
  answers := by
    rw [notices, server]
    exact launching.answers
  launched := by
    rw [notices]
    exact launching.launched

/-- Nothing is accepted, and no acceptance is to be sent next. -/
theorem Launching.of_added (launching : loops.Launching groups mint role)
    (issues : after.schedule.Issues (groups.map (·.inRole role)) mint loops.operations)
    {more : List Notice} (notices : after.router.notices = loops.router.notices ++ more)
    (other : ∀ notice ∈ more, notice.isAcceptance = false) (silent : after.server.operations = [])
    (answers : after.server.Answers groups mint role after.router.notices) :
    after.Launching groups mint role where
  issues := by
    have none : more.flatMap Notice.operations = [] :=
      List.flatMap_eq_nil_iff.mpr fun notice member => Notice.operations_eq_nil (other notice member)
    refine issues.sublist ?_
    rw [operations, operations, notices, silent, List.flatMap_append, none, List.append_nil,
      List.append_nil]
    exact List.sublist_append_left _ _
  answers := answers
  launched := by
    rw [notices]
    exact launching.launched.append other

theorem Launching.of_silent (launching : loops.Launching groups mint role)
    (issues : after.schedule.Issues (groups.map (·.inRole role)) mint loops.operations)
    (notices : after.router.notices = loops.router.notices) (silent : after.server.operations = [])
    (answers : after.server.Answers groups mint role after.router.notices) :
    after.Launching groups mint role :=
  launching.of_added issues (notices.trans (List.append_nil _).symm) (List.forall_mem_nil _) silent
    answers

/-- The next offer is matched. What is launched on it will be in its acceptance. -/
theorem Launching.answer (launching : loops.Launching groups mint role) {framework : FrameworkId}
    {offers : List Offer} (stands : loops.server = .answering framework offers) :
    (loops.answer framework offers).Launching groups mint role := by
  have answers := launching.answers
  rw [stands] at answers
  obtain ⟨named, unanswered⟩ := answers
  cases offers with
  | nil => exact launching.of_silent launching.issues rfl rfl trivial
  | cons offer rest =>
      obtain ⟨still, launches⟩ := launching.issues.matchOffer offer framework
      simp only [Loops.answer]
      generalize loops.schedule.matchOffer offer framework = matched at *
      obtain ⟨schedule, failure | found⟩ := matched
      · exact launching.of_silent still rfl rfl trivial
      · obtain ⟨issues, sources⟩ := launches found rfl
        refine ⟨?_, ⟨named, offer, _, _, rfl, unanswered, sources⟩, launching.launched⟩
        have silent : loops.server.operations = [] := by rw [stands]; rfl
        rw [operations, silent, List.append_nil] at issues
        exact issues

/-- The acceptance is sent, and whether it arrives or not, it is one for the next offer. -/
theorem Launching.accept (launching : loops.Launching groups mint role) {framework : FrameworkId}
    {accept : Call} {offers : List Offer}
    (stands : loops.server = .accepting framework accept offers) :
    (loops.follow (loops.router.call accept) (.answering framework offers)).Launching
      groups mint role := by
  have answers := launching.answers
  have issues := launching.issues
  rw [stands] at answers
  rw [operations, stands] at issues
  obtain ⟨named, offer, launches, filters, rfl, unanswered, sources⟩ := answers
  let call := loops.router.sign (.accept [offer.id] launches filters)
  let notices := loops.router.notices ++ [Notice.call call]
  have body : call.body = .accept [offer.id] launches filters := loops.router.body_sign _
  have launched : Launched groups mint role notices := by
    refine launching.launched.append_call fun answered operations filters accepts => ?_
    cases body.symm.trans accepts
    exact ⟨offer, _, framework, unanswered, rfl, named, sources⟩
  have confirmed : lastConfirmed notices = some framework := by
    rw [lastConfirmed_append]
    exact named
  -- What was to be launched next is in the trace now.
  have moved {server : Server} (silent : server.operations = []) :
      notices.flatMap Notice.operations ++ server.operations =
        loops.router.notices.flatMap Notice.operations ++ launches := by
    have here : call.operations = launches := by rw [Call.operations, body]
    rw [silent, List.append_nil, List.flatMap_append, List.flatMap_singleton, Notice.operations, here]
  have called (server : Server) (silent : server.operations = [])
      (answers : server.Answers groups mint role notices) :
      { loops with router := (loops.router.call (.accept [offer.id] launches filters)).1,
                   server := server }.Launching groups mint role := by
    refine ⟨?_, answers, launched⟩
    show loops.schedule.Issues _ _ (notices.flatMap Notice.operations ++ server.operations)
    rw [moved silent]
    exact issues
  unfold follow
  split <;> rename_i answer <;> rw [answer] at called
  · exact called _ rfl ⟨confirmed, unanswered.append_call call⟩
  · exact called _ rfl trivial

theorem Launching.works (launching : loops.Launching groups mint role)
    (named : loops.router.framework = lastConfirmed loops.router.notices)
    (works : Works loops after) : after.Launching groups mint role := by
  cases works with
  | deals stands => exact launching.answer stands
  | accepts stands => exact launching.accept stands
  | speaks stirs notices other silent asked =>
      refine launching.of_added (launching.issues.stirs stirs) notices other ?_ ?_
      · cases stands : after.server with
        | accepting framework accept offers => exact absurd stands (silent framework accept offers)
        | _ => rfl
      · cases stands : after.server with
        | accepting framework accept offers => exact absurd stands (silent framework accept offers)
        | answering framework offers =>
            obtain ⟨known, rfl⟩ := asked framework offers stands
            rw [notices]
            refine ⟨?_, _, offers, [], rfl, rfl⟩
            rw [lastConfirmed_append, ← named, known]
            rfl
        | _ => trivial

theorem Launching.turn (launching : loops.Launching groups mint role)
    (named : loops.router.framework = lastConfirmed loops.router.notices)
    (turns : Turns loops after) : after.Launching groups mint role := by
  cases turns with
  | works moved works => exact launching.works named works
  | aside policy attempt fixed server framework notices stirs =>
      exact launching.of_same (launching.issues.stirs stirs) notices server
  | @closes server closed cause =>
      refine launching.of_silent launching.issues rfl ?_ ?_
      · cases server <;> first | rfl | contradiction
      · cases server <;> trivial

theorem launching_start (profile : Profile) (groups : List TaskGroup) (mint : Mint)
    (draws : Draws) : (start profile groups mint draws).Launching groups mint profile.registration.role where
  issues := (Schedule.Issues.start _ profile.rules mint).congr rfl rfl rfl
  answers := trivial
  launched before call after answered operations filters none := by
    cases before <;> cases none

theorem Launching.faithful (launching : loops.Launching groups mint role) :
    Faithful groups mint role loops.router.notices :=
  have apart := (launching.issues.sublist (List.sublist_append_left _ _)).distinct
  ⟨launching.launched, apart.1, apart.2⟩

theorem launching_playTurns (naming : loops.Naming teardown)
    (launching : loops.Launching groups mint role) (turns : List Turn) :
    (loops.playTurns turns).Launching groups mint role := by
  induction turns generalizing loops with
  | nil => exact launching
  | cons turn rest ih =>
      have turns := loops.turns_turn turn
      exact ih (naming.turns turns) (launching.turn naming.inName.framework turns)

/-- Whatever is offered and reported, however often groups are restarted and whenever the run is told
to stop, all launches are faithful. So it is for a run, which makes the moves in one of the possible
ways. -/
theorem faithful_playTurns (profile : Profile) (groups : List TaskGroup) (mint : Mint)
    (draws : Draws) :
    (∀ turns, Faithful groups mint profile.registration.role
      ((start profile groups mint draws).playTurns turns).router.notices) ∧
    ∀ incidents, Faithful groups mint profile.registration.role
      ((Run.start profile groups mint draws).undergoAll incidents).router.notices := by
  have naming : (start profile groups mint draws).Naming profile.teardown :=
    naming_opening _ {} profile.refusal profile.framework profile.reconnectBackoff profile.teardown
  have launching (turns : List Turn) :=
    launching_playTurns naming (launching_start profile groups mint draws) turns
  refine ⟨fun turns => (launching turns).faithful, fun incidents => ?_⟩
  obtain ⟨turns, taken, met⟩ := playTurns_undergoAll profile groups mint draws incidents
  have last := launching turns
  rw [met] at last
  exact last.faithful

/-- A group of one task is launched on the agent of an offer that has its port, in the role of the
profile. -/
example :
    let group : TaskGroup :=
      { tasks := [{ name := "web", id := .stamped 0, resources := [.ranges "ports" [⟨80, 80⟩]] }]
        networks := []
        executor := { id := .stamped 1 }
        hasTask := by simp }
    let offer : Offer :=
      { id := ⟨"offer", by decide⟩
        agent := ⟨"agent", by decide⟩
        resources := [.ranges "ports" [⟨80, 90⟩]] }
    let events : List Event := [.subscribed ⟨"framework", by decide⟩ none none, .offers [offer]]
    let run := (Run.start { registration := { role := "web" } } [group] ⟨2⟩ .middle).undergoAll
      (events.map fun event => .link fun link => link.deliver (.event event))
    run.router.notices.flatMap Notice.operations =
      [.launch [{ name := "web", id := .stamped 3, agent := some offer.agent
                  resources := [{ Resource.ranges "ports" [⟨80, 80⟩] with role := some "web" }] }]] :=
  rfl

end Loops
end Convoy
