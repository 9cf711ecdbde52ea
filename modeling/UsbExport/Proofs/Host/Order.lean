import UsbExport.Proofs.Host.Books

/-!
Clients are served in the order in which they connected. A client that is past never comes back, so
nothing new comes from before the client whose import is being handled.
-/

namespace UsbExport.Host

open Dispatch Socket

variable {Handle : Type}

theorem release_loop (host : Host Handle) : host.release.loop = host.loop := by
  unfold release
  dsimp only
  split <;> rfl

/-- What a move of the session leaves alone. -/
theorem SessionMove.frame {system next : System (Host Handle)} {visit : Visit}
    {deed : Option Session.Deed} (visit_eq : system.visit = some visit)
    (move : system.SessionMove visit deed next) :
    (∃ session wait, next.visit = some { visit with session, wait }) ∧
      next.links.length = system.links.length ∧
      next.executor.loop = system.executor.loop ∧
      ∀ request ∈ next.control.queue,
        request ∈ system.control.queue ∨ request.reply = visit.link := by
  cases move with
  | @asked header command control posting posted =>
      refine ⟨⟨_, _, rfl⟩, rfl, rfl, fun request member => ?_⟩
      have member : request ∈ control.queue := member
      rw [Channel.queue_post posted, List.mem_append, List.mem_singleton] at member
      exact member.imp_right fun eq => by rw [eq]
  | @stood errand wanted unset =>
      obtain ⟨links, frame, length_eq⟩ := standInLine_frame system visit.link errand
      rw [frame]
      exact ⟨⟨_, _, rfl⟩, length_eq, rfl, fun _ => Or.inl⟩
  | @moved errand ticket socket guard wanted wait_eq socket_eq polled =>
      exact ⟨⟨visit.session, visit.wait, visit_eq⟩, by simp [System.setGuard, System.mapLink], rfl,
        fun _ => Or.inl⟩
  | read wants socket_eq brought =>
      exact ⟨⟨_, _, rfl⟩, by simp [System.setVisit, System.mapLink], rfl, fun _ => Or.inl⟩
  | served wanted wait_eq socket_eq polled standing =>
      exact ⟨⟨_, _, rfl⟩,
        by simp [System.resume, System.setVisit, System.setGuard, System.mapLink], rfl,
        fun _ => Or.inl⟩
  | released stage_eq =>
      refine ⟨⟨_, _, rfl⟩, rfl, ?_, fun _ => Or.inl⟩
      exact release_loop system.executor
  | _ => exact ⟨⟨_, _, rfl⟩, rfl, rfl, fun _ => Or.inl⟩

/-- What a session does is done by the one that is served. -/
theorem Happening.visit_of_session [UsbHandle Handle] {server next : Server (Host Handle)}
    {deed : Option Deed} (happening : Happening server deed next) {link : LinkId}
    {what : Session.Deed} (said : deed = some (.session link what)) :
    ∃ visit, server.system.visit = some visit ∧ visit.link = link := by
  cases happening with
  | @session visit deed next visit_eq move =>
      obtain ⟨_, rfl, eq⟩ := Option.map_eq_some_iff.1 said
      injection eq with link_eq
      exact ⟨visit, visit_eq, link_eq⟩
  | executor move => exact absurd said (move.ne_session _ _)
  | _ => cases said

/-! ### Clients that are past -/

/-- Every client that is being served or comes later is `link` or comes after it. -/
structure Past (link : LinkId) (server : Server (Host Handle)) : Prop where
  visit_le : ∀ visit, server.system.visit = some visit → link ≤ visit.link
  line_le : ∀ other ∈ server.line, link ≤ other
  length_le : link ≤ server.system.links.length

theorem Past.happening [UsbHandle Handle] {link : LinkId} {server next : Server (Host Handle)}
    {deed : Option Deed} (past : Past link server) (happening : Happening server deed next) :
    Past link next := by
  cases happening with
  | @session earlier deed system visit_eq move =>
      obtain ⟨⟨session, wait, visit_eq'⟩, length_eq, -⟩ := SessionMove.frame visit_eq move
      refine ⟨fun visit eq => ?_, past.line_le, ?_⟩
      · obtain rfl := Option.some.inj (visit_eq'.symm.trans eq)
        exact past.visit_le earlier visit_eq
      · rw [length_eq]
        exact past.length_le
  | executor move =>
      rcases move.takes_or_proceeds with ⟨request, control, loop, -, -, rfl, -⟩ | proceeds
      · exact ⟨past.visit_le, past.line_le, past.length_le⟩
      · refine ⟨fun visit eq => past.visit_le visit ?_, past.line_le, ?_⟩
        · rw [← proceeds.visit_eq]
          exact eq
        · rw [proceeds.links_eq]
          exact past.length_le
  | departs visit_eq ended isStopped =>
      exact ⟨by simp, past.line_le, past.length_le⟩
  | serves unvisited line_eq =>
      have line_le := line_eq ▸ past.line_le
      refine ⟨fun visit eq => ?_, fun other member => line_le other (by simp [member]),
        past.length_le⟩
      obtain rfl := Option.some.inj eq
      exact line_le _ (by simp)
  | connects guard =>
      refine ⟨past.visit_le, fun other member => ?_, ?_⟩
      · rcases List.mem_append.1 member with member | member
        · exact past.line_le other member
        · rw [List.mem_singleton.1 member]
          exact past.length_le
      · show link ≤ (server.system.links ++ _).length
        rw [List.length_append]
        exact Nat.le_add_right_of_le past.length_le
  | around length_eq now =>
      refine ⟨past.visit_le, past.line_le, ?_⟩
      show link ≤ List.length _
      rw [length_eq]
      exact past.length_le

/-- The clients in line, those whose requests wait, and the one whose import is being handled. -/
structure InOrder (server : Server (Host Handle)) : Prop where
  sorted : server.line.Pairwise (· ≤ ·)
  line_le : ∀ link ∈ server.line, link ≤ server.system.links.length
  visited : ∀ visit, server.system.visit = some visit → Past visit.link server
  asked : ∀ request ∈ server.system.control.queue, Past request.reply server
  ordered : ∀ order, server.system.executor.loop.order? = some order → Past order.reply server

theorem InOrder.happening [UsbHandle Handle] {server next : Server (Host Handle)}
    {deed : Option Deed} (inOrder : InOrder server) (happening : Happening server deed next) :
    InOrder next := by
  have kept {link : LinkId} (past : Past link server) : Past link next := past.happening happening
  cases happening with
  | @session earlier deed system visit_eq move =>
      obtain ⟨⟨session, wait, visit_eq'⟩, length_eq, loop_eq, asked⟩ :=
        SessionMove.frame visit_eq move
      have past := kept (inOrder.visited earlier visit_eq)
      refine ⟨inOrder.sorted, ?_, fun visit eq => ?_, fun request member => ?_, fun order eq => ?_⟩
      · rw [length_eq]
        exact inOrder.line_le
      · obtain rfl := Option.some.inj (visit_eq'.symm.trans eq)
        exact past
      · rcases asked request member with old | new
        · exact kept (inOrder.asked request old)
        · rw [new]
          exact past
      · exact kept (inOrder.ordered order (loop_eq ▸ eq))
  | executor move =>
      rcases move.takes_or_proceeds with
        ⟨request, control, loop, -, taken, rfl, replies, -⟩ | proceeds
      · have queue_eq := Channel.queue_take? taken
        refine ⟨inOrder.sorted, inOrder.line_le, fun visit eq => kept (inOrder.visited visit eq),
          fun other member => kept (inOrder.asked other ?_), fun order eq => ?_⟩
        · rw [queue_eq]
          exact List.mem_cons_of_mem _ member
        · rw [replies order eq]
          exact kept (inOrder.asked request (by simp [queue_eq]))
      · refine ⟨inOrder.sorted, ?_, fun visit eq => ?_, fun request member => ?_,
          fun order eq => ?_⟩
        · rw [proceeds.links_eq]
          exact inOrder.line_le
        · exact kept (inOrder.visited visit (proceeds.visit_eq ▸ eq))
        · exact kept (inOrder.asked request (proceeds.control_eq ▸ member))
        · exact kept (inOrder.ordered order (proceeds.order_eq order eq))
  | departs visit_eq ended isStopped =>
      exact ⟨inOrder.sorted, inOrder.line_le, by simp,
        fun request member => kept (inOrder.asked request member),
        fun order eq => kept (inOrder.ordered order eq)⟩
  | @serves link line unvisited line_eq =>
      have sorted := line_eq ▸ inOrder.sorted
      have line_le := line_eq ▸ inOrder.line_le
      refine ⟨(List.pairwise_cons.1 sorted).2, fun other member => line_le other (by simp [member]),
        fun visit eq => ?_, fun request member => kept (inOrder.asked request member),
        fun order eq => kept (inOrder.ordered order eq)⟩
      obtain rfl := Option.some.inj eq
      refine ⟨fun visit eq' => ?_, (List.pairwise_cons.1 sorted).1, line_le link (by simp)⟩
      obtain rfl := Option.some.inj eq'
      exact Nat.le_refl _
  | connects guard =>
      have length_eq : (server.system.links ++ [({ guard } : Link)]).length =
          server.system.links.length + 1 := List.length_append
      refine ⟨?_, fun other member => ?_, fun visit eq => kept (inOrder.visited visit eq),
        fun request member => kept (inOrder.asked request member),
        fun order eq => kept (inOrder.ordered order eq)⟩
      · refine List.pairwise_append.2 ⟨inOrder.sorted, by simp, fun other member last eq => ?_⟩
        rw [List.mem_singleton.1 eq]
        exact inOrder.line_le other member
      · rw [length_eq]
        rcases List.mem_append.1 member with member | member
        · exact Nat.le_succ_of_le (inOrder.line_le other member)
        · rw [List.mem_singleton.1 member]
          exact Nat.le_succ _
  | around length_eq now =>
      refine ⟨inOrder.sorted, ?_, fun visit eq => kept (inOrder.visited visit eq),
        fun request member => kept (inOrder.asked request member),
        fun order eq => kept (inOrder.ordered order eq)⟩
      rw [length_eq]
      exact inOrder.line_le

namespace History

variable [UsbHandle Handle] {start server : Server (Host Handle)} {trace : List Deed}

theorem inOrder (history : History start trace server) (fresh : Fresh start) : InOrder server := by
  refine history.invariant (fun _ server => InOrder server) ?_
    fun _ _ _ _ inOrder happening => InOrder.happening inOrder happening
  refine ⟨?_, ?_, ?_, ?_, ?_⟩
  · simp [fresh.unlined]
  · simp [fresh.unlined]
  · simp [fresh.unvisited]
  · simp [fresh.unposted.2]
  · simp [fresh.idle, LoopStage.order?]

/-- Once all clients before `link` are past, only clients from `link` on post submits. -/
theorem le_of_mem_posted (history : History start trace server) {link : LinkId}
    (past : Past link start) : ∀ request ∈ posted trace, link ≤ request.reply := by
  refine (history.invariant (fun trace server => Past link server ∧
    ∀ request ∈ posted trace, link ≤ request.reply) ⟨past, by simp [posted]⟩ ?_).2
  rintro trace server deed next ⟨past, later⟩ happening
  refine ⟨past.happening happening, fun request member => ?_⟩
  rw [posted_append, List.mem_append, Option.mem_toList] at member
  rcases member with member | member
  · exact later request member
  · obtain ⟨what, rfl, found⟩ := Option.bind_eq_some_iff.1 member
    obtain ⟨visit, visit_eq, link_eq⟩ :=
      happening.visit_of_session (congrArg some (Deed.eq_of_posted? found))
    rw [← link_eq]
    exact past.visit_le visit visit_eq

end History

end UsbExport.Host
