import Convoy.Proofs.Session.Loops

/-!
# What a move may change

Every move respects who may raise the flag, what the watch has recorded once it has come to its end,
and what the master was asked to launch. The moves of the event loop come first, then those of the
watch.
-/
namespace Convoy

open Course

namespace Schedule

theorem Account.fewer {schedule : Schedule} {groups : List TaskGroup} {heard : List Status}
    {many few : List TaskId} (account : schedule.Account (Asked groups many) heard)
    (fewer : few ⊆ many) : schedule.Account (Asked groups few) heard :=
  account.mono fun _ asked => ⟨asked.whole, fun task member => asked.launched task (fewer member)⟩

end Schedule

namespace Router

variable (router : Router)

theorem told_call (call : Call) : (router.call call).1.told = router.told ++ call.asked := by
  have signed : (router.sign call).asked = call.asked := by
    unfold sign
    split <;> rfl
  simp [told, Router.call, notice, signed]

theorem told_subscribe (framework : Framework) :
    (router.subscribe framework).1.told = router.told := by
  have signed : (router.sign (.subscribe { framework with id := router.framework })).asked = [] := by
    unfold sign
    split <;> rfl
  simp [told, subscribe, notice, signed]

theorem told_acknowledge (status : Status) :
    (router.acknowledge status).1.told = router.told := by
  unfold acknowledge
  cases acknowledges : Call.acknowledge? status with
  | none => rfl
  | some call =>
      have silent : call.asked = [] := by
        unfold Call.acknowledge? at acknowledges
        split at acknowledges <;> cases acknowledges
        rfl
      simp only [told_call, silent, List.append_nil]

theorem told_event (event : Event) : (router.notice (.event event)).told = router.told := by
  simp [told, notice]

end Router

/-- The tasks of the acceptance that is to be sent next. -/
def Server.asked : Server → List TaskId
  | .accepting _ accept _ => accept.asked
  | _ => []

namespace Loops

open Schedule

variable {loops before after : Loops} {groups : List TaskGroup}

/-- The tasks that the master was asked to launch, or is to be asked next. -/
def asked (loops : Loops) : List TaskId :=
  loops.router.told ++ loops.server.asked

theorem told_subset (loops : Loops) : loops.router.told ⊆ loops.asked :=
  List.subset_append_left _ _

theorem asked_eq_told (silent : loops.server.asked = []) : loops.asked = loops.router.told := by
  rw [asked, silent, List.append_nil]

theorem heard_congr (taken : after.taken = before.taken) : after.heard = before.heard := by
  unfold heard
  rw [taken]

structure Keeps (before after : Loops) : Prop where
  server : before.server.hasEnded = true → after.server = before.server
  watcher : before.watcher.hasEnded = true → after.watcher = before.watcher
  stays : before.watcher.result?.isSome = true → after.watcher.result?.isSome = true
  flag : after.stopping = true →
    before.stopping = true ∨ after.watcher.hasEnded = true ∨ after.server.hasEnded = true
  served : after.server.result? = some (.ok ()) → before.server.result? = some (.ok ()) ∨
    before.server.hasEnded = false ∧ before.stopping = true
  watched : after.watcher.result? = some (.ok ()) → before.watcher.result? = some (.ok ()) ∨
    before.watcher.hasEnded = false ∧ (before.schedule.roster.finished = true ∨
      before.stopping = true ∨ before.server.hasEnded = true)
  roster : after.schedule.roster = before.schedule.roster ∨
    before.watcher = .waiting ∧ after.watcher.result? ≠ some (.ok ())
  taken : before.taken <+: after.taken
  known : ∀ groups, before.schedule.Account (Known groups) before.heard →
    after.schedule.Account (Known groups) after.heard
  account : ∀ groups, after.Fair →
    before.schedule.Account (Asked groups before.asked) before.heard →
      after.schedule.Account (Asked groups after.asked) after.heard

/-- A move of the event loop, or one that is made on it. -/
structure Serves (before after : Loops) : Prop where
  watcher : after.watcher = before.watcher
  taken : after.taken = before.taken
  roster : after.schedule.roster = before.schedule.roster
  runs : before.server.hasEnded = false
  flag : after.stopping = before.stopping ∨ after.server.hasEnded = true
  result : after.server.result? = some (.ok ()) →
    before.server.result? = some (.ok ()) ∨ before.stopping = true
  known : ∀ groups heard, before.schedule.Account (Known groups) heard →
    after.schedule.Account (Known groups) heard
  account : ∀ groups heard, before.schedule.Account (Asked groups before.asked) heard →
    after.schedule.Account (Asked groups after.asked) heard

theorem Serves.keeps (serves : Serves before after) : Keeps before after where
  server ended := by simp [serves.runs] at ended
  watcher _ := serves.watcher
  stays settled := serves.watcher ▸ settled
  flag raised := by
    rcases serves.flag with same | ended
    · exact .inl (same ▸ raised)
    · exact .inr (.inr ended)
  served good := (serves.result good).imp_right fun told => ⟨serves.runs, told⟩
  watched good := .inl (serves.watcher ▸ good)
  roster := .inl serves.roster
  taken := serves.taken ▸ List.prefix_refl _
  known groups account := heard_congr serves.taken ▸ serves.known groups _ account
  account groups _ account := heard_congr serves.taken ▸ serves.account groups _ account

/-- Nothing happens to the schedule. -/
theorem serves_aside {router : Router} (attempt : Nat) (server : Server) (box : Option Status)
    (runs : loops.server.hasEnded = false) (same : router.schedule = loops.schedule)
    (told : router.told ⊆ loops.asked) (silent : server.asked = [])
    (result : server.result? = some (.ok ()) →
      loops.server.result? = some (.ok ()) ∨ loops.stopping = true) :
    Serves loops
      { loops with router := router, attempt := attempt, server := server, box := box } where
  watcher := rfl
  taken := rfl
  roster := congrArg Schedule.roster same
  runs := runs
  flag := .inl (congrArg Schedule.stopping same)
  result := result
  known groups heard account := by
    change Schedule.Account _ heard router.schedule
    rwa [same]
  account groups heard account := by
    rw [asked_eq_told silent]
    change Schedule.Account (Asked groups router.told) heard router.schedule
    rw [same]
    exact account.fewer told

theorem serves_lose {router : Router} (runs : loops.server.hasEnded = false)
    (same : router.schedule = loops.schedule) (told : router.told ⊆ loops.asked) :
    Serves loops { loops with router := router }.lose := by
  have roster : router.schedule.roster = loops.schedule.roster := by rw [same]
  have stopping : router.schedule.stopping = loops.stopping := by
    rw [same, Loops.stopping, schedule]
  unfold lose
  dsimp only
  split
  · exact serves_aside _ _ _ runs same told rfl nofun
  · refine ⟨rfl, rfl, roster, runs, .inl stopping, nofun, fun groups heard account => ?_,
      fun groups heard account => ?_⟩
    · rw [← same] at account
      exact account.number (known_kept groups) _
    · rw [asked_eq_told rfl]
      have within := account.fewer told
      rw [← same] at within
      exact within.number (asked_kept groups _) _

theorem serves_follow {answer : Router × Except LinkFailure Unit} {next : Server}
    (box : Option Status) (runs : loops.server.hasEnded = false)
    (same : answer.1.schedule = loops.schedule) (told : answer.1.told ⊆ loops.asked)
    (silent : next.asked = []) (goesOn : next.result? = none) :
    Serves loops ({ loops with box := box }.follow answer next) := by
  obtain ⟨router, result⟩ := answer
  cases result with
  | ok done => exact serves_aside _ _ _ runs same told silent fun good => by simp [goesOn] at good
  | error failure => exact serves_aside _ _ _ runs same told rfl nofun

theorem serves_hear {router : Router} (runs : loops.server.hasEnded = false)
    (same : router.schedule = loops.schedule) (told : router.told = loops.router.told)
    (confirmed : Bool) (event : Event) :
    Serves loops ({ loops with router := router }.hear confirmed event) := by
  have within : router.told ⊆ loops.asked := told ▸ loops.told_subset
  have noticed : (router.notice (.event event)).told ⊆ loops.asked :=
    router.told_event event ▸ within
  unfold hear
  split
  · cases event with
    | offers given =>
      cases framework : router.framework with
      | some named =>
        simp only [framework]
        exact serves_aside _ _ _ runs same noticed rfl nofun
      | none =>
        simp only [framework, Router.handle, Router.notice]
        exact serves_aside _ _ _ runs same noticed rfl nofun
    | _ => exact serves_aside _ _ _ runs same noticed rfl nofun
  · exact serves_aside _ _ _ runs same within rfl nofun

theorem serves_listen {confirmed : Bool} (runs : loops.server.hasEnded = false)
    (moved : loops.listen confirmed = some after) : Serves loops after := by
  have told : loops.router.told ⊆ loops.asked := loops.told_subset
  unfold listen at moved
  cases inbox : loops.router.link.inbox with
  | nil =>
    simp only [inbox] at moved
    split at moved
    · cases moved
      exact serves_lose runs rfl told
    · contradiction
  | cons delivery rest =>
    simp only [inbox] at moved
    cases delivery with
    | event event =>
      cases moved
      refine serves_hear runs ?_ ?_ confirmed event <;> rfl
    | disconnect reason =>
      cases moved
      refine serves_lose runs ?_ ?_
      · rfl
      · exact told

theorem serves_answer (runs : loops.server.hasEnded = false) (framework : FrameworkId)
    (offers : List Offer) : Serves loops (loops.answer framework offers) := by
  cases offers with
  | nil => exact serves_aside _ _ _ runs rfl loops.told_subset rfl nofun
  | cons offer rest =>
    have roster := (untold_matchOffer loops.schedule offer framework).roster
    have flags := (flags_matchOffer loops.schedule offer framework).2
    have known (groups : List TaskGroup) (heard : List Status)
        (account : loops.schedule.Account (Known groups) heard) :=
      account.matchOffer (known_kept groups).toKept offer framework
    have quiet (groups : List TaskGroup) (heard : List Status)
        (account : loops.schedule.Account (Asked groups loops.asked) heard) :=
      (account.fewer loops.told_subset).matchOffer (asked_kept groups _).toKept offer framework
    have launched (groups : List TaskGroup) (heard : List Status) (result : Match)
        (account : loops.schedule.Account (Asked groups loops.asked) heard)
        (found : (loops.schedule.matchOffer offer framework).2 = .ok result) :=
      (account.fewer loops.told_subset).asked_matchOffer offer framework found
    simp only [answer]
    generalize loops.schedule.matchOffer offer framework = matched at *
    obtain ⟨schedule, failure | found⟩ := matched
    · refine ⟨rfl, rfl, roster, runs, .inl flags, nofun, known, fun groups heard account => ?_⟩
      rw [asked_eq_told rfl]
      exact quiet groups heard account
    · exact ⟨rfl, rfl, roster, runs, .inl flags, nofun, known,
        fun groups heard account => launched groups heard found account rfl⟩

theorem runs_of_serve (moved : loops.serve = some after) : loops.server.hasEnded = false := by
  cases stands : loops.server with
  | left result => simp [serve, stands] at moved
  | died message => simp [serve, stands] at moved
  | _ => rfl

theorem serves_serve (moved : loops.serve = some after) : Serves loops after := by
  have runs := runs_of_serve moved
  have told : loops.router.told ⊆ loops.asked := loops.told_subset
  unfold serve at moved
  cases stands : loops.server with
  | looking =>
    simp only [stands] at moved
    cases moved
    refine serves_aside _ _ _ runs rfl told ?_ fun good => .inr ?_
    · split <;> rfl
    · by_contra quiet
      simp [quiet, Server.result?] at good
  | subscribing =>
    simp only [stands] at moved
    have same : (loops.router.subscribe loops.identity).1.schedule = loops.schedule := rfl
    have told := loops.router.told_subscribe loops.identity ▸ told
    split at moved <;> rename_i answer <;> rw [answer] at same told <;> cases moved
    · exact serves_aside _ _ _ runs same told rfl nofun
    · exact serves_lose runs same told
  | listening confirmed =>
    simp only [stands] at moved
    exact serves_listen runs moved
  | answering framework offers =>
    simp only [stands] at moved
    cases moved
    exact serves_answer runs framework offers
  | accepting framework accept offers =>
    simp only [stands] at moved
    cases moved
    -- `asked` counts the next acceptance already, so that it grows by matching and not by the call.
    have called : (loops.router.call accept).1.told ⊆ loops.asked := by
      rw [Router.told_call, asked, stands]
      exact List.Subset.refl _
    exact serves_follow _ runs rfl called rfl rfl
  | acknowledging status =>
    simp only [stands] at moved
    cases moved
    refine serves_aside _ _ _ runs ?_ (loops.router.told_acknowledge status ▸ told) rfl nofun
    unfold Router.acknowledge
    split <;> rfl
  | acknowledged status result =>
    simp only [stands] at moved
    cases moved
    exact serves_aside _ _ _ runs rfl told rfl nofun
  | handing acknowledged =>
    simp only [stands] at moved
    split at moved
    · cases moved
      exact serves_follow _ runs rfl told rfl rfl
    · contradiction
  | pausing due =>
    simp only [stands] at moved
    split at moved
    · cases moved
      exact serves_aside _ _ _ runs rfl told rfl nofun
    · contradiction
  | closing result =>
    simp only [stands] at moved
    cases moved
    have called : (loops.router.call .teardown).1.told = loops.router.told :=
      (loops.router.told_call .teardown).trans (List.append_nil _)
    refine serves_aside _ _ _ runs ?_ ?_ rfl fun good => .inl (stands ▸ good)
    · split <;> rfl
    · split
      · exact called ▸ told
      · exact told
  | ending result =>
    simp only [stands] at moved
    cases moved
    refine ⟨rfl, rfl, rfl, runs, .inr rfl, fun good => .inl (stands ▸ good),
      fun groups _ account => account.flag (known_kept groups) loops.schedule.monitor true,
      fun groups _ account => ?_⟩
    rw [asked_eq_told rfl]
    exact (account.fewer told).flag (asked_kept groups _) loops.schedule.monitor true
  | left result => simp [stands] at moved
  | died message => simp [stands] at moved

theorem keeps_watcher {watcher : Watcher} (runs : loops.watcher.hasEnded = false)
    (stays : loops.watcher.result?.isSome = true → watcher.result?.isSome = true)
    (watched : watcher.result? = some (.ok ()) → loops.watcher.result? = some (.ok ()) ∨
      loops.schedule.roster.finished = true ∨ loops.stopping = true ∨
        loops.server.hasEnded = true) :
    Keeps loops { loops with watcher := watcher } where
  server _ := rfl
  watcher ended := by simp [runs] at ended
  stays := stays
  flag raised := .inl raised
  served good := .inl good
  watched good := (watched good).imp_right fun reason => ⟨runs, reason⟩
  roster := .inl rfl
  taken := List.prefix_refl _
  known _ account := account
  account _ _ account := account

theorem keeps_watch (moved : loops.watch = some after) : Keeps loops after := by
  cases stands : loops.watcher with
  | looking =>
    simp only [watch, stands] at moved
    cases moved
    refine keeps_watcher (by rw [stands]; rfl) (by simp [stands, Watcher.result?]) fun good => ?_
    by_cases stops : (loops.schedule.roster.finished || loops.stopping) = true
    · rcases Bool.or_eq_true_iff.mp stops with finished | told
      · exact .inr (.inl finished)
      · exact .inr (.inr (.inl told))
    · simp [stops, Watcher.result?] at good
  | leaving result =>
    simp only [watch, stands] at moved
    cases moved
    refine ⟨fun _ => rfl, ?_, fun _ => rfl, fun _ => .inr (.inl rfl), .inl, ?_, .inl rfl,
      List.prefix_refl _, fun groups account => account.flag (known_kept groups) _ _,
      fun groups _ account => account.flag (asked_kept groups _) _ _⟩
    · intro ended
      simp [stands, Watcher.hasEnded] at ended
    · intro good
      exact .inl (stands ▸ good)
  | _ => simp [watch, stands] at moved

theorem heard_take (loops : Loops) (status : Status) : (loops.take status).heard =
    loops.heard ++ if loops.schedule.takes status then [status] else [] := by
  simp only [heard, take, List.flatMap_append, List.flatMap_singleton]
  rfl

theorem keeps_take {status : Status} (waits : loops.watcher = .waiting) :
    Keeps loops (loops.take status) := by
  have goesOn : (loops.take status).watcher.result? ≠ some (.ok ()) := by
    intro good
    unfold take at good
    dsimp only at good
    split at good <;> simp [Watcher.result?] at good
  have last : (loops.router, status) ∈ (loops.take status).taken :=
    List.mem_append_right _ (List.mem_singleton_self _)
  constructor
  case server => exact fun _ => rfl
  case watcher => intro ended; simp [waits, Watcher.hasEnded] at ended
  case stays => intro settled; simp [waits, Watcher.result?] at settled
  case flag => exact fun raised => .inl ((flags_apply loops.schedule status).2.symm.trans raised)
  case served => exact .inl
  case watched => exact fun good => absurd good goesOn
  case roster => exact .inr ⟨waits, goesOn⟩
  case taken => exact List.prefix_append _ _
  case known =>
    intro groups account
    rw [heard_take]
    exact account.apply (known_kept groups).toKept status fun _ _ _ => trivial
  case account =>
    intro groups fair account
    rw [heard_take]
    refine account.apply (asked_kept groups _).toKept status fun course ends _ => ?_
    exact (fair _ last).imp (loops.told_subset ·) fun dead => ends ▸ dead

/-- Time passes, or something happens to the link. -/
theorem keeps_router {router : Router} (roster : router.schedule.roster = loops.schedule.roster)
    (stopping : router.schedule.stopping = loops.stopping)
    (notices : router.notices = loops.router.notices)
    (account : ∀ motive fair heard, KeptAside motive fair →
      loops.schedule.Account motive heard → router.schedule.Account motive heard) :
    Keeps loops { loops with router := router } where
  server _ := rfl
  watcher _ := rfl
  stays settled := settled
  flag raised := .inl (stopping ▸ raised)
  served good := .inl good
  watched good := .inl good
  roster := .inl roster
  taken := List.prefix_refl _
  known groups := account _ _ _ (known_kept groups)
  account groups _ before := by
    have told : router.told = loops.router.told := by rw [Router.told, Router.told, notices]
    have same : ({ loops with router := router } : Loops).asked = loops.asked := by
      rw [asked, asked, told]
    rw [same]
    exact account _ _ _ (asked_kept groups _) before

/-- Whoever waits for the end of a loop raises the flag. -/
theorem keeps_join {serverJoined watcherJoined : Bool}
    (ended : loops.watcher.hasEnded = true ∨ loops.server.hasEnded = true) :
    Keeps loops
      { loops.raise with serverJoined := serverJoined, watcherJoined := watcherJoined } where
  server _ := rfl
  watcher _ := rfl
  stays settled := settled
  flag _ := .inr ended
  served good := .inl good
  watched good := .inl good
  roster := .inl rfl
  taken := List.prefix_refl _
  known groups account := account.flag (known_kept groups) loops.schedule.monitor true
  account groups _ account := account.flag (asked_kept groups _) loops.schedule.monitor true

theorem keeps_refl (loops : Loops) : Keeps loops loops :=
  keeps_router rfl rfl rfl fun _ _ _ _ account => account

/-- A move that is not possible keeps everything. -/
theorem keeps_getD {moved : Option Loops} (keeps : ∀ after, moved = some after → Keeps loops after) :
    Keeps loops (moved.getD loops) := by
  cases moved with
  | none => exact keeps_refl loops
  | some after => exact keeps after rfl

theorem keeps_if {condition : Bool} (keeps : condition = true → Keeps loops after) :
    Keeps loops (if condition then after else loops) := by
  split
  · rename_i holds
    exact keeps holds
  · exact keeps_refl loops

theorem keeps_unless {condition : Bool} (keeps : condition = false → Keeps loops after) :
    Keeps loops (if condition then loops else after) := by
  split
  · exact keeps_refl loops
  · rename_i fails
    exact keeps (Bool.eq_false_iff.mpr fails)

theorem runs_of_isOpen {server : Server} (isOpen : server.isOpen = true) :
    server.hasEnded = false := by
  cases server <;> first | rfl | contradiction

theorem keeps_move (loops : Loops) (move : Move) : Keeps loops (loops.move move) := by
  cases move with
  | serve => exact keeps_getD fun after moved => (serves_serve moved).keeps
  | cancel =>
    refine keeps_if fun both => ?_
    obtain ⟨isOpen, told⟩ := Bool.and_eq_true_iff.mp both
    exact Serves.keeps
      (serves_aside _ _ _ (runs_of_isOpen isOpen) rfl loops.told_subset rfl fun _ => .inr told)
  | serverDies message =>
    refine keeps_unless fun runs => ?_
    exact Serves.keeps (serves_aside _ _ _ runs rfl loops.told_subset rfl nofun)
  | watch => exact keeps_getD fun after moved => keeps_watch moved
  | take =>
    simp only [Loops.move]
    split
    · rename_i waits given
      exact keeps_take waits
    · exact keeps_refl loops
  | wake =>
    simp only [Loops.move]
    split
    · rename_i waits
      refine keeps_if fun told => ?_
      exact keeps_watcher (by rw [waits]; rfl) (by simp [waits, Watcher.result?]) nofun
    · exact keeps_refl loops
  | hangUp =>
    simp only [Loops.move]
    split
    · rename_i waits empty
      refine keeps_if fun gone => ?_
      exact keeps_watcher (by rw [waits]; rfl) (fun _ => rfl) fun _ => .inr (.inr (.inr gone))
    · exact keeps_refl loops
  | watcherDies message =>
    exact keeps_unless fun runs => keeps_watcher runs (fun _ => rfl) nofun
  | joinServer => exact keeps_if fun ended => keeps_join (.inr ended)
  | joinWatcher => exact keeps_if fun ended => keeps_join (.inl ended)
  | link change => exact keeps_router rfl rfl rfl fun _ _ _ _ account => account
  | pass milliseconds =>
    exact keeps_router rfl rfl rfl fun _ _ _ kept account => account.pass kept.toKept milliseconds
  | comeBack position =>
    have flags := (flags_comeBack loops.schedule position).2
    exact keeps_router (roster_comeBack loops.schedule position).1 flags rfl
      fun _ _ _ kept account => account.comeBack kept.toKept position
  | settle => exact keeps_router rfl rfl rfl fun _ _ _ kept account => account.settle kept.toKept

end Loops
end Convoy
