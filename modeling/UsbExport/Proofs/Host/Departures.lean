import UsbExport.Proofs.Host.Receipts

/-!
Clients that are gone. The socket of a client that was served is closed, and nothing is sent to it
any more; whoever is still sent something is being served or waits to be.
-/

namespace UsbExport.Host

open Dispatch Socket

variable {Handle : Type}

/-- The session on a socket is over, and not about to begin. -/
structure Gone (link : LinkId) (server : Server (Host Handle)) : Prop where
  exists_link : link < server.system.links.length
  unlined : link ∉ server.line
  finished : ∀ visit, server.system.visit = some visit → visit.link = link →
    ∃ ending, visit.session.stage = .finished ending

/-- Whose session ends has its socket closed. -/
theorem SessionMove.finished {system next : System (Host Handle)} {visit visit' : Visit}
    {deed : Option Session.Deed} (lines : Lines system) (visit_eq : system.visit = some visit)
    (move : system.SessionMove visit deed next) (visit_eq' : next.visit = some visit')
    {ending : Ending} (finished : visit'.session.stage = .finished ending) :
    visit.session.stage = .finished ending ∨ ∃ succeeded, deed = some (.served .close succeeded) := by
  have still {wait : Wait} (eq : next.visit = some { visit with wait }) :
      visit.session.stage = .finished ending := by
    obtain rfl := Option.some.inj (visit_eq'.symm.trans eq)
    exact finished
  have resumed (answer : Session.Answer) {wait : Wait}
      (eq : next.visit = some { visit with session := visit.session.resume answer, wait })
      (open_eq : ∀ ending, visit.session.stage ≠ .closing ending) :
      visit.session.stage = .finished ending := by
    obtain rfl := Option.some.inj (visit_eq'.symm.trans eq)
    rcases Session.finished_resume finished with was | ⟨closing, -⟩
    · exact was
    · exact absurd closing (open_eq ending)
  cases move with
  | @read limit socket arrival inbox wants socket_eq brought =>
      obtain rfl := Option.some.inj visit_eq'
      have follows := Session.followsRead_receive wants system.config.sessionLimits arrival
      rw [finished] at follows
      cases follows
  | asked posting posted =>
      refine Or.inl (resumed _ rfl fun ending stage_eq => ?_)
      simp [stage_eq, Session.Stage.request?] at posting
  | refused posting unposted =>
      refine Or.inl (resumed _ rfl fun ending stage_eq => ?_)
      simp [stage_eq, Session.Stage.request?] at posting
  | answered awaits given =>
      refine Or.inl (resumed _ rfl fun ending stage_eq => ?_)
      rw [stage_eq] at awaits
      cases awaits
  | looked awaits wait_eq unanswered => exact Or.inl (still rfl)
  | posted stage_eq posted => exact Or.inl (resumed _ rfl (by simp [stage_eq]))
  | dropped stage_eq unposted => exact Or.inl (resumed _ rfl (by simp [stage_eq]))
  | crowded stage_eq unposted unset => exact Or.inl (still rfl)
  | cancelled stage_eq => exact Or.inl (resumed _ rfl (by simp [stage_eq]))
  | stood wanted unset => exact Or.inl (still rfl)
  | moved wanted wait_eq socket_eq polled => exact Or.inl (still visit_eq)
  | @served errand ticket socket guard result done line wanted wait_eq socket_eq polled standing =>
      cases stage_eq : visit.session.stage with
      | closing ending' =>
          obtain rfl := lines.errand_eq visit_eq wanted wait_eq socket_eq polled standing
          rw [stage_eq] at wanted
          cases wanted
          exact Or.inr ⟨_, rfl⟩
      | finished ending' => simp [stage_eq, Session.Stage.errand?] at wanted
      | _ =>
          have was := resumed (.ofSend result) rfl (by simp [stage_eq])
          simp [stage_eq] at was
  | reset stage_eq => exact Or.inl (resumed _ rfl (by simp [stage_eq]))
  | released stage_eq => exact Or.inl (resumed _ rfl (by simp [stage_eq]))

theorem Note.outcome?_of_served {note : Option Note} {link : LinkId} {errand : Errand}
    {succeeded : Bool}
    (said : note.bind Note.deed? = some (.session link (.served errand succeeded)))
    (host : Host Handle) :
    note.bind (Note.outcome? host) = some (link, errand, succeeded) := by
  cases note with
  | none => cases said
  | some note =>
      cases note
      all_goals cases said
      rfl

/-- The close of a socket has had its turn once its session is over. -/
def Shut (notes : List Note) (server : Server (Host Handle)) : Prop :=
  ∀ link, Gone link server → ∃ succeeded,
    (Errand.close, succeeded) ∈ outcomesAt server.system.executor link notes

/-- Who is gone after an event was gone before, or has its socket closed by it. -/
theorem Happening.gone [UsbHandle Handle] {server next : Server (Host Handle)}
    {deed : Option Deed} (happening : Happening server deed next) (lines : Lines server.system)
    {link : LinkId} (gone : Gone link next) :
    Gone link server ∨ ∃ succeeded, deed = some (.session link (.served .close succeeded)) := by
  cases happening with
  | @session visit said next visit_eq move =>
      obtain ⟨⟨session, wait, visit_eq'⟩, length_eq, -⟩ := SessionMove.frame visit_eq move
      by_cases here : visit.link = link
      · obtain ⟨ending, finished⟩ := gone.finished _ visit_eq' here
        rcases SessionMove.finished lines visit_eq move visit_eq' finished with
          was | ⟨succeeded, rfl⟩
        · refine Or.inl ⟨length_eq ▸ gone.exists_link, gone.unlined, fun other eq _ => ⟨ending, ?_⟩⟩
          obtain rfl := Option.some.inj (visit_eq.symm.trans eq)
          exact was
        · exact Or.inr ⟨succeeded, by rw [← here]; rfl⟩
      · refine Or.inl ⟨length_eq ▸ gone.exists_link, gone.unlined, fun other eq link_eq => ?_⟩
        obtain rfl := Option.some.inj (visit_eq.symm.trans eq)
        exact absurd link_eq here
  | executor move =>
      rcases move.takes_or_proceeds with ⟨request, control, loop, -, -, rfl, -⟩ | proceeds
      · exact Or.inl ⟨gone.exists_link, gone.unlined, gone.finished⟩
      · refine Or.inl ⟨proceeds.links_eq ▸ gone.exists_link, gone.unlined, fun visit eq => ?_⟩
        exact gone.finished visit (proceeds.visit_eq.trans eq)
  | @departs visit ending visit_eq ended isStopped =>
      refine Or.inl ⟨gone.exists_link, gone.unlined, fun other eq _ => ⟨ending, ?_⟩⟩
      obtain rfl := Option.some.inj (visit_eq.symm.trans eq)
      exact ended
  | @serves other line unvisited line_eq =>
      refine Or.inl ⟨gone.exists_link, ?_, by simp [unvisited]⟩
      rw [line_eq, List.mem_cons, not_or]
      refine ⟨fun same => ?_, gone.unlined⟩
      obtain ⟨ending, finished⟩ := gone.finished _ rfl same.symm
      cases finished
  | connects guard =>
      have unlined := gone.unlined
      rw [List.mem_append, List.mem_singleton, not_or] at unlined
      refine Or.inl ⟨?_, unlined.1, gone.finished⟩
      have short : link < (server.system.links ++ [({ guard } : Link)]).length := gone.exists_link
      rw [List.length_append] at short
      exact Nat.lt_of_le_of_ne (Nat.le_of_lt_succ short) unlined.2
  | around length_eq now =>
      exact Or.inl ⟨length_eq ▸ gone.exists_link, gone.unlined, gone.finished⟩

/-! ### Clients that were called -/

/-- The client on a socket was called out of the line, and does not come back to it. -/
structure Called (link : LinkId) (server : Server (Host Handle)) : Prop where
  exists_link : link < server.system.links.length
  unlined : link ∉ server.line

theorem Called.happening [UsbHandle Handle] {link : LinkId} {server next : Server (Host Handle)}
    {deed : Option Deed} (called : Called link server) (happening : Happening server deed next) :
    Called link next := by
  refine ⟨Nat.lt_of_lt_of_le called.exists_link happening.length_le, fun member => ?_⟩
  cases happening with
  | serves unvisited line_eq =>
      exact called.unlined (by rw [line_eq]; exact List.mem_cons_of_mem _ member)
  | connects guard =>
      rcases List.mem_append.1 member with member | new
      · exact called.unlined member
      · exact absurd called.exists_link (by simp [List.mem_singleton.1 new])
  | _ => exact called.unlined member

/-- Who is served was served before, or comes out of the line. -/
theorem Happening.visit_or [UsbHandle Handle] {server next : Server (Host Handle)}
    {deed : Option Deed} (happening : Happening server deed next) {visit : Visit}
    (visit_eq : next.system.visit = some visit) :
    (∃ earlier, server.system.visit = some earlier ∧ earlier.link = visit.link) ∨
      server.system.visit = none ∧ server.line = visit.link :: next.line := by
  cases happening with
  | session earlier_eq move =>
      obtain ⟨⟨session, wait, eq⟩, -⟩ := SessionMove.frame earlier_eq move
      obtain rfl := Option.some.inj (visit_eq.symm.trans eq)
      exact Or.inl ⟨_, earlier_eq, rfl⟩
  | executor move =>
      rcases move.takes_or_proceeds with ⟨request, control, loop, -, -, rfl, -⟩ | proceeds
      · exact Or.inl ⟨visit, visit_eq, rfl⟩
      · exact Or.inl ⟨visit, proceeds.visit_eq.symm.trans visit_eq, rfl⟩
  | departs earlier_eq ended isStopped => cases visit_eq
  | serves unvisited line_eq =>
      obtain rfl := Option.some.inj visit_eq
      exact Or.inr ⟨unvisited, line_eq⟩
  | connects guard => exact Or.inl ⟨visit, visit_eq, rfl⟩
  | around length_eq now => exact Or.inl ⟨visit, visit_eq, rfl⟩

/-- Nobody stands in line twice. -/
theorem Happening.nodup_line [UsbHandle Handle] {server next : Server (Host Handle)}
    {deed : Option Deed} (happening : Happening server deed next) (linked : Linked server)
    (apart : server.line.Nodup) : next.line.Nodup := by
  cases happening with
  | serves unvisited line_eq =>
      rw [line_eq] at apart
      exact (List.nodup_cons.1 apart).2
  | connects guard =>
      refine List.nodup_append.2 ⟨apart, List.pairwise_singleton _ _,
        fun link member new new_eq => ?_⟩
      rw [List.mem_singleton.1 new_eq]
      exact Nat.ne_of_lt (linked.line_lt link member)
  | _ => exact apart

/-- The errand of a session has a turn only in the stage that asks for it. -/
theorem Happening.errand_of_served [UsbHandle Handle] {server next : Server (Host Handle)}
    {deed : Option Deed} (happening : Happening server deed next) (lines : Lines server.system)
    {link : LinkId} {done : Errand} {succeeded : Bool}
    (said : deed = some (.session link (.served done succeeded))) :
    ∃ visit, server.system.visit = some visit ∧ visit.link = link ∧
      visit.session.stage.errand? = some done ∧ ∃ answer, next.system.visit =
        some { visit with session := visit.session.resume answer, wait := .nothing } := by
  cases happening with
  | @session visit what next visit_eq move =>
      obtain ⟨what, rfl, same⟩ := Option.map_eq_some_iff.1 said
      injection same with link_eq same
      refine ⟨visit, visit_eq, link_eq, ?_⟩
      subst same
      generalize told : some (Session.Deed.served done succeeded) = deed at move
      cases move with
      | @served errand ticket socket guard result head line wanted wait_eq socket_eq polled
          standing =>
          cases told
          obtain rfl := lines.errand_eq visit_eq wanted wait_eq socket_eq polled standing
          exact ⟨wanted, _, rfl⟩
      | _ => cases told
  | executor move => exact absurd said (move.ne_session _ _)
  | _ => cases said

namespace Chronicle

variable [UsbHandle Handle] {start mid server : Server (Host Handle)} {notes : List Note}

theorem nodup_line (chronicle : Chronicle start notes server) (fresh : Fresh start) :
    server.line.Nodup := by
  induction chronicle with
  | start => simp [fresh.unlined]
  | step chronicle event happened ih =>
      exact (step_happening happened).nodup_line (chronicle.linked fresh) ih

theorem called (chronicle : Chronicle start notes server) (fresh : Fresh start) :
    ∀ visit, server.system.visit = some visit → Called visit.link server := by
  induction chronicle with
  | start => simp [fresh.unvisited]
  | @step notes server next chronicle event happened ih =>
      intro visit visit_eq
      have happening := step_happening happened
      rcases happening.visit_or visit_eq with ⟨earlier, earlier_eq, link_eq⟩ | ⟨-, line_eq⟩
      · rw [← link_eq]
        exact (ih earlier earlier_eq).happening happening
      · have apart := chronicle.nodup_line fresh
        have short := (chronicle.linked fresh).line_lt visit.link (by simp [line_eq])
        rw [line_eq] at apart
        exact ⟨Nat.lt_of_lt_of_le short happening.length_le, (List.nodup_cons.1 apart).1⟩

theorem shut (chronicle : Chronicle start notes server) (fresh : Fresh start) :
    Shut notes server := by
  induction chronicle with
  | start =>
      intro link gone
      simpa [fresh.unlinked] using gone.exists_link
  | @step notes server next chronicle event happened ih =>
      intro link gone
      have device_eq := (step_deskStep happened).device_eq.1
      rw [outcomesAt, outcome?_congr device_eq, ← outcomesAt, outcomesAt_append]
      rcases (step_happening happened).gone (chronicle.lines fresh) gone with
        before | ⟨succeeded, said⟩
      · obtain ⟨succeeded, member⟩ := ih link before
        exact ⟨succeeded, List.mem_append_left _ member⟩
      · rw [← note?_deed] at said
        refine ⟨succeeded, List.mem_append_right _ ?_⟩
        simp [Note.outcome?_of_served said]

theorem past (chronicle : Chronicle mid notes server) {link : LinkId} (past : Past link mid) :
    Past link server := by
  induction chronicle with
  | start => exact past
  | step _ event happened ih => exact ih.happening (step_happening happened)

/-- What a session does is done by the one that is served, and clients before it are past. -/
theorem visited (chronicle : Chronicle start notes server) (fresh : Fresh start)
    {event : Server.Event Party} {next : Server (Host Handle)}
    (happened : Server.step company server event = some next) {link : LinkId} {what : Session.Deed}
    (made : note? server event = some (.deed (.session link what))) :
    Past link server ∧ ∃ visit, server.system.visit = some visit ∧ visit.link = link := by
  have said : done? server event = some (.session link what) := by
    rw [← note?_deed, made]
    rfl
  obtain ⟨visit, visit_eq, rfl⟩ := (step_happening happened).visit_of_session said
  exact ⟨(chronicle.history.inOrder fresh).visited visit visit_eq, visit, visit_eq, rfl⟩

end Chronicle

end UsbExport.Host
