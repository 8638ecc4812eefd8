import WorkflowEditor.Command.Program
import WorkflowEditor.Proofs.Command.Acceptance
import WorkflowEditor.Proofs.Run.Course
import WorkflowEditor.Proofs.Session.Opening

/-!
# WorkflowEditor.Proofs.Command.Course

What the program sends and how it ends, for any command and whatever the
service answers.  Every command has a script, the requests it makes if all goes
well; what follows the opening of a workflow is about the document that was
opened.

* `Performed`, `performed` — the ways a command can go;
* `Progress` — the script as far as its requests are accepted;
* `program_course` — the program sends the messages of the script in order up to
  the first that is not accepted, and succeeds exactly if there is none such.
-/

namespace WorkflowEditor

/-! ## the ways a command can go -/

/-- Of an operation whose result is named, the result is known with the effect. -/
theorem Session.effect_of_report {s : Session} {o : Operation}
    {d : Dialogue (Except ServiceError α × Session)} {name : α → Outcome}
    (ho : o.perform s = d.report name .failed) (serve : Service σ) (t : σ) :
    Effect s o (Dialogue.outcome name .failed (d.run serve t).1.1) (d.run serve t).2.1
      (d.run serve t).1.2 := by
  have heffect := s.hasEffect serve t o
  rwa [HasEffect, ho, Dialogue.run_report] at heffect

namespace Command

/-- The document that a command works on which opens a workflow. -/
def opened (id : WorkflowId) (answer : Json) : Workflow :=
  (Repository.fetched id answer).toOption.getD (.new Session.untitled)

/-- The document with its graph as it is when it has been opened. -/
def reopened (w : Workflow) : Workflow := w.withGraph (Store.new.load w.nodes w.edges).graph

/-- The requests of a command if all goes well; `answer` is what the first is answered with. -/
def script (answer : Json) : Command → List Request
  | list => [.list]
  | .show id => [.fetch id]
  | new title description => [.create (.ofWorkflow (Session.draft title (description.getD "")))]
  | delete id =>
      let stored := (opened id answer).id.getD id
      [.fetch id, .delete stored]
  | run id input =>
      let stored := (opened id answer).id.getD id
      [.fetch id, .update stored (.ofWorkflow (reopened (opened id answer))),
        .execute stored input]
  | palette => []

/-- The workflow that a command opens before anything else, if it opens one. -/
def opens? : Command → Option WorkflowId
  | .show id | delete id | run id _ => some id
  | list | new _ _ | palette => none

/-- What a command can come to: its result, and the exchanges with the service. -/
inductive Performed (deadline : Nat) :
    Command → Except CommandError String → List (Request × Reply) → Prop
  | palette : Performed deadline palette (.ok (Report.palette .builtin)) []
  | listed {reply : Reply} {all : List Summary} (read : reply.read Repository.listed = .ok all) :
      Performed deadline list (.ok (Report.summaries all)) [(.list, reply)]
  | notListed {reply : Reply} {e : ServiceError}
      (read : reply.read Repository.listed = .error e) :
      Performed deadline list (.error (.service e)) [(.list, reply)]
  | created {title : String} {description : Option String} {reply : Reply} {id : WorkflowId}
      {w : Workflow}
      (read : reply.read (Repository.created (Session.draft title (description.getD ""))) =
        .ok (id, w)) :
      Performed deadline (new title description) (line id.text)
        [(.create (.ofWorkflow (Session.draft title (description.getD ""))), reply)]
  | notCreated {title : String} {description : Option String} {reply : Reply} {e : ServiceError}
      (read : reply.read (Repository.created (Session.draft title (description.getD ""))) =
        .error e) :
      Performed deadline (new title description) (.error (.service e))
        [(.create (.ofWorkflow (Session.draft title (description.getD ""))), reply)]
  | notOpened {command : Command} {id : WorkflowId} {reply : Reply} {e : ServiceError}
      (opens : command.opens? = some id) (read : reply.read (Repository.fetched id) = .error e) :
      Performed deadline command (.error (.service e)) [(.fetch id, reply)]
  | shown {id : WorkflowId} {reply : Reply} {w : Workflow}
      (read : reply.read (Repository.fetched id) = .ok w) :
      Performed deadline (.show id)
        (.ok (Report.workflow w (Store.new.load w.nodes w.edges).graph)) [(.fetch id, reply)]
  | deleted {id stored : WorkflowId} {reply answer : Reply} {w : Workflow} {body : Json}
      (read : reply.read (Repository.fetched id) = .ok w) (hid : w.id = some stored)
      (answered : answer.result = .ok body) :
      Performed deadline (delete id) (line ("deleted " ++ id.text))
        [(.fetch id, reply), (.delete stored, answer)]
  | notDeleted {id stored : WorkflowId} {reply answer : Reply} {w : Workflow} {e : ServiceError}
      (read : reply.read (Repository.fetched id) = .ok w) (hid : w.id = some stored)
      (answered : answer.result = .error e) :
      Performed deadline (delete id) (.error (.service e))
        [(.fetch id, reply), (.delete stored, answer)]
  | notRan {id stored : WorkflowId} {input : String} {reply answer : Reply} {w : Workflow}
      {e : ServiceError} (read : reply.read (Repository.fetched id) = .ok w)
      (hid : w.id = some stored)
      (unsaved : answer.read (Repository.saved stored (reopened w)) = .error e) :
      Performed deadline (run id input) (.error (.run (.save e)))
        [(.fetch id, reply), (.update stored (.ofWorkflow (reopened w)), answer)]
  | ran {id stored : WorkflowId} {input : String} {reply answer last : Reply} {w copy : Workflow}
      (read : reply.read (Repository.fetched id) = .ok w) (hid : w.id = some stored)
      (saved : answer.read (Repository.saved stored (reopened w)) = .ok copy) :
      Performed deadline (run id input) (runText (Repository.executed deadline last))
        [(.fetch id, reply), (.update stored (.ofWorkflow (reopened w)), answer),
          (.execute stored input, last)]

/-- What an operation and what follows it come to. -/
theorem run_andThen (d : Dialogue (Except ServiceError α × Session))
    (next : α → Session → Dialogue (Except CommandError String)) (serve : Service σ) (t : σ) :
    (andThen d next).run serve t =
      match d.run serve t with
      | ((.ok a, s), events, t) =>
          ((next a s).run serve t).map id fun x => (events ++ x.1, x.2)
      | ((.error e, _), events, t) => (.error (.service e), events, t) := by
  rw [andThen, Dialogue.run_bind]
  obtain ⟨⟨result, s⟩, events, t⟩ := d.run serve t
  cases result with
  | ok a => rfl
  | error e => simp [Dialogue.run]

section
variable {command : Command} {deadline : Nat} (serve : Service σ) (t : σ)

/-- What a command comes to whose last operation is this one; `before` are the
exchanges before it. -/
theorem performed_last (before : List (Request × Reply)) (s : Session) (o : Session.Operation)
    {d : Dialogue (Except ServiceError α × Session)} {name : α → Session.Outcome}
    (ho : o.perform s = d.report name .failed) {text : α → Except CommandError String}
    (hok : ∀ a events after, Session.Effect s o (name a) events after →
      Performed deadline command (text a) (before ++ events.filterMap Event.exchange?))
    (herror : ∀ e events after, Session.Effect s o (.failed e) events after →
      Performed deadline command (.error (.service e))
        (before ++ events.filterMap Event.exchange?)) :
    let x := (andThen d fun a _ => .done (text a)).run serve t
    Performed deadline command x.1 (before ++ x.2.1.filterMap Event.exchange?) := by
  have heffect := Session.effect_of_report ho serve t
  rw [run_andThen]
  revert heffect
  obtain ⟨⟨result, after⟩, events, t⟩ := d.run serve t
  intro heffect
  cases result with
  | ok a =>
      simp only [Dialogue.run, Prod.map, List.append_nil, id]
      exact hok a events after heffect
  | error e => exact herror e events after heffect

/-- What a command comes to that opens a workflow and goes on with it. -/
theorem performed_opening {id : WorkflowId} (hopens : command.opens? = some id)
    {next : Session → Dialogue (Except CommandError String)}
    (hnext : ∀ reply w stored u, reply.read (Repository.fetched id) = .ok w → w.id = some stored →
      let x := (next ((Session.new deadline).loadAs id w)).run serve u
      Performed deadline command x.1 ((.fetch id, reply) :: x.2.1.filterMap Event.exchange?)) :
    let x := (andThen ((Session.new deadline).openWorkflow id) fun _ => next).run serve t
    Performed deadline command x.1 (x.2.1.filterMap Event.exchange?) := by
  rw [run_andThen, Session.run_openWorkflow_eq]
  cases hread : (serve t (.fetch id)).1.read (Repository.fetched id) with
  | error e => exact .notOpened hopens hread
  | ok w =>
      obtain ⟨body, -, hfetched⟩ := Reply.read_eq_ok_iff.mp hread
      obtain ⟨stored, hid⟩ := Option.isSome_iff_exists.mp (Repository.isSome_id_of_fetched hfetched)
      exact hnext _ w stored _ hread hid

/-- **A command goes one of the ways** that a command can go. -/
theorem performed (command : Command) (deadline : Nat) :
    let x := (command.dialogue deadline).run serve t
    Performed deadline command x.1 (x.2.1.filterMap Event.exchange?) := by
  cases command with
  | palette => exact .palette
  | list =>
      refine performed_last serve t [] (.new deadline) .list rfl
        (fun all events after heffect => ?_) fun e events after heffect => ?_
      · cases heffect with | listed hread => exact .listed hread
      · cases heffect with | notListed hread => exact .notListed hread
  | new title description =>
      refine performed_last serve t [] (.new deadline)
        (.newWorkflow title (description.getD "")) rfl (fun id events after heffect => ?_)
        fun e events after heffect => ?_
      · cases heffect with | created hread => exact .created hread
      · cases heffect with | notCreated hread => exact .notCreated hread
  | «show» id => exact performed_opening serve t rfl fun reply w stored u hread hid => .shown hread
  | delete id =>
      refine performed_opening serve t rfl fun reply w stored u hread hid => ?_
      have hstored : ((Session.new deadline).loadAs id w).document.id = some stored := hid
      refine performed_last serve u [(.fetch id, reply)] _ .delete rfl
        (fun any events after heffect => ?_) fun e events after heffect => ?_
      · cases heffect with
        | deleted hdocument hanswer =>
            obtain rfl := Option.some.inj (hstored.symm.trans hdocument)
            exact .deleted hread hid hanswer
        | nothingToDelete hunstored => exact nomatch hstored.symm.trans hunstored
      · cases heffect with
        | notDeleted hdocument hanswer =>
            obtain rfl := Option.some.inj (hstored.symm.trans hdocument)
            exact .notDeleted hread hid hanswer
  | run id input =>
      refine performed_opening serve t rfl fun reply w stored u hread hid => ?_
      have heffect := ((Session.new deadline).loadAs id w).hasEffect_run serve u input
      have hstored : ((Session.new deadline).loadAs id w).document.id = some stored := hid
      simp only [Session.HasEffect, Session.Operation.perform, Dialogue.run_bind, Dialogue.run,
        List.append_nil] at heffect ⊢
      revert heffect
      obtain ⟨⟨state, s⟩, events, u⟩ := (((Session.new deadline).loadAs id w).run input).run serve u
      intro (heffect : Session.Effect _ (.run input) (.ran state) events s)
      cases heffect with
      | ran hdocument hsaved hended =>
          obtain rfl := Option.some.inj (hstored.symm.trans hdocument)
          subst hended
          exact .ran hread hid hsaved
      | notRan hdocument hunsaved =>
          obtain rfl := Option.some.inj (hstored.symm.trans hdocument)
          exact .notRan hread hid hunsaved
      | refusedRun hunstored => exact nomatch hstored.symm.trans hunstored

end

/-! ## scripts -/

/-- A script as far as its requests are accepted, and whether all of them are. -/
inductive Progress (deadline : Nat) : List Request → List (Request × Reply) → Bool → Prop
  | finished : Progress deadline [] [] true
  | stopped {r : Request} {rest : List Request} {reply : Reply}
      (refused : ¬reply.IsAccepted deadline r) :
      Progress deadline (r :: rest) [(r, reply)] false
  | advanced {r : Request} {rest : List Request} {reply : Reply}
      {exchanges : List (Request × Reply)} {finished : Bool}
      (accepted : reply.IsAccepted deadline r)
      (behind : Progress deadline rest exchanges finished) :
      Progress deadline (r :: rest) ((r, reply) :: exchanges) finished

variable {deadline : Nat}

/-- The last request of a script finishes it if it is accepted. -/
theorem Progress.last {r : Request} {reply : Reply} {finished : Bool}
    (h : reply.IsAccepted deadline r ↔ finished = true) :
    Progress deadline [r] [(r, reply)] finished := by
  cases finished with
  | true => exact .advanced (h.mpr rfl) .finished
  | false => exact .stopped fun haccepted => nomatch h.mp haccepted

/-- What a reader makes of the last reply decides. -/
theorem Progress.last_of_read {r : Request} {reply : Reply} {x : Except ε α}
    (h : reply.IsAccepted deadline r ↔ ∃ a, x = .ok a) {result : Except δ β}
    (hresult : result.isOk = x.isOk) : Progress deadline [r] [(r, reply)] result.isOk := by
  refine .last (h.trans ?_)
  rw [hresult]
  cases x <;> simp [Except.isOk, Except.toBool]

theorem opened_eq {id : WorkflowId} {reply : Reply} {w : Workflow} {answer : Json}
    (hread : reply.read (Repository.fetched id) = .ok w)
    (hanswer : ∀ body, reply.result = .ok body → answer = body) : opened id answer = w := by
  obtain ⟨body, hbody, hfetched⟩ := Reply.read_eq_ok_iff.mp hread
  rw [opened, hanswer body hbody, hfetched]
  rfl

/-- A run completes if its execution is accepted. -/
theorem isOk_runText {id : WorkflowId} {input : String} {reply : Reply} :
    reply.IsAccepted deadline (.execute id input) ↔
      (runText (Repository.executed deadline reply)).isOk = true := by
  rw [Reply.IsAccepted, Repository.executed]
  cases hlate : reply.isLate deadline with
  | true => simp [Request.isTimed, runText, Except.isOk, Except.toBool]
  | false =>
      cases hresult : reply.result with
      | ok body => simp [Request.Accepts, runText, line, Except.isOk, Except.toBool]
      | error e => simp [runText, Except.isOk, Except.toBool]

variable {command : Command} {result : Except CommandError String}
  {exchanges : List (Request × Reply)}

/-- **Every command follows its script** as far as its requests are accepted,
and succeeds exactly if all of them are. -/
theorem Performed.progress (h : Performed deadline command result exchanges) (answer : Json)
    (hanswer : ∀ r reply rest body, exchanges = (r, reply) :: rest → reply.result = .ok body →
      answer = body) :
    Progress deadline (command.script answer) exchanges result.isOk := by
  cases h with
  | palette => exact .finished
  | listed hread => exact .last_of_read Reply.isAccepted_list (by rw [hread]; rfl)
  | notListed hread => exact .last_of_read Reply.isAccepted_list (by rw [hread]; rfl)
  | created hread => exact .last_of_read (Reply.isAccepted_create rfl) (by rw [hread]; rfl)
  | notCreated hread => exact .last_of_read (Reply.isAccepted_create rfl) (by rw [hread]; rfl)
  | shown hread => exact .last_of_read Reply.isAccepted_fetch (by rw [hread]; rfl)
  | @notOpened _ id reply e hopens hread =>
      have hrefused : ¬reply.IsAccepted deadline (.fetch id) := by
        rw [Reply.isAccepted_fetch, hread]
        exact fun ⟨_, hok⟩ => nomatch hok
      cases command with
      | «show» _ | delete _ | run _ _ =>
          obtain rfl := Option.some.inj hopens
          exact .stopped hrefused
      | list | new _ _ | palette => exact nomatch hopens
  | deleted hread hid hanswered =>
      rw [script, opened_eq hread fun body => hanswer _ _ _ body rfl, hid]
      refine .advanced (Reply.isAccepted_fetch.mpr ⟨_, hread⟩) ?_
      exact .last_of_read Reply.isAccepted_delete (by rw [hanswered]; rfl)
  | notDeleted hread hid hanswered =>
      rw [script, opened_eq hread fun body => hanswer _ _ _ body rfl, hid]
      refine .advanced (Reply.isAccepted_fetch.mpr ⟨_, hread⟩) ?_
      exact .last_of_read Reply.isAccepted_delete (by rw [hanswered]; rfl)
  | notRan hread hid hunsaved =>
      rw [script, opened_eq hread fun body => hanswer _ _ _ body rfl, hid]
      refine .advanced (Reply.isAccepted_fetch.mpr ⟨_, hread⟩) (.stopped ?_)
      rw [Option.getD_some, Reply.isAccepted_update, hunsaved]
      exact fun ⟨_, hok⟩ => nomatch hok
  | ran hread hid hsaved =>
      rw [script, opened_eq hread fun body => hanswer _ _ _ body rfl, hid]
      refine .advanced (Reply.isAccepted_fetch.mpr ⟨_, hread⟩) ?_
      exact .advanced (Reply.isAccepted_update.mpr ⟨_, hsaved⟩) (.last isOk_runText)

/-- What a command runs it has opened, so it has an id. -/
theorem Performed.ne_missingId (h : Performed deadline command result exchanges) :
    result ≠ .error (.run .missingId) := by
  cases h with
  | @ran _ _ _ _ _ last _ _ _ _ _ =>
      obtain ⟨content, hcompleted⟩ | ⟨f, hf, -, hfailed⟩ := Repository.executed_eq deadline last
      · rw [hcompleted]
        exact nofun
      · rw [hfailed]
        rintro ⟨rfl⟩
        exact hf rfl
  | _ => exact nofun

/-- What was sent of a script that was followed. -/
theorem Progress.record {settings : Settings} {script : List Request} {finished : Bool}
    (h : Progress settings.deadline script exchanges finished) {record : Http.Record}
    (hwire : Http.OnWire settings exchanges record) :
    (record.map fun x => some x.1) <+: script.map (Http.message? settings.baseUrl) ∧
      (∀ x ∈ (script.zip record).dropLast, x.2.2.IsAccepted settings x.1) ∧
      (finished = true ↔
        record.length = script.length ∧
          ∀ x ∈ script.zip record, x.2.2.IsAccepted settings x.1) := by
  induction h generalizing record with
  | finished =>
      cases hwire
      simp
  | @stopped r rest reply hrefused =>
      cases hwire with
      | unsent _ hbehind =>
          cases hbehind
          simp
      | sent hmessage hbehind =>
          cases hbehind
          rw [Http.isAccepted_reply] at hrefused
          simp [hmessage, hrefused]
  | @advanced r rest reply exchanges finished haccepted _ ih =>
      cases hwire with
      | unsent _ _ => exact (Http.not_isAccepted_unsendable _ haccepted).elim
      | @sent _ m outcome _ record hmessage hbehind =>
          rw [Http.isAccepted_reply] at haccepted
          obtain ⟨hmessages, hbefore, hfinished⟩ := ih hbehind
          refine ⟨?_, ?_, ?_⟩
          · rw [List.map_cons, List.map_cons, hmessage, List.prefix_cons_inj]
            exact hmessages
          · intro x hx
            cases hzip : rest.zip record with
            | nil => simp [hzip] at hx
            | cons y others =>
                rw [List.zip_cons_cons, hzip, List.dropLast_cons_cons, List.mem_cons, ← hzip] at hx
                obtain rfl | hx := hx
                · exact haccepted
                · exact hbefore x hx
          · rw [hfinished, List.zip_cons_cons, List.forall_mem_cons, List.length_cons,
              List.length_cons, Nat.add_right_cancel_iff]
            simp only [haccepted, true_and]

end Command

/-! ## the program -/

/-- An invocation whose settings can be read is its command's dialogue with the
service that the settings name; offline any settings will do. -/
theorem Invocation.run_eq {i : Invocation} {contents : String → Option String}
    {environment : List (String × String)} {settings : Settings}
    (h : i.command.isOffline = true ∨ i.settings contents environment = .ok settings)
    (peer : Http.Peer σ) (s : σ) :
    i.run contents environment peer s =
      (i.command.dialogue settings.deadline).run (Http.service settings peer) s := by
  rw [run]
  split
  · next hoffline =>
    rw [Command.isOffline, decide_eq_true_eq] at hoffline
    rw [hoffline]
    simp only [Command.dialogue, Dialogue.run]
  · next honline => rw [h.resolve_left honline]

/-- What the program sends, with what comes of it. -/
def sent (arguments : List String) (contents : String → Option String)
    (environment : List (String × String)) (peer : Http.Peer σ) (s : σ) : Http.Record :=
  (program arguments contents environment peer.recorded (s, [])).2.2

theorem Ending.ofResult_eq (result : Except CommandError String) :
    ((ofResult result).status = 0 ↔ result.isOk = true) ∧
      ((ofResult result).status ≠ 0 → (ofResult result).output = "") := by
  cases result with
  | ok text => simp [ofResult, Except.isOk, Except.toBool]
  | error e => simp [ofResult, Except.isOk, Except.toBool]

/-- **The course of the program**, for arguments that name a command and
settings that can be read, whatever the peer does.  The messages of the
command's script are sent in order, and none after one that was not accepted.
The program succeeds exactly if all of them were sent and accepted, prints
nothing if it fails, and never fails for want of an id. -/
theorem program_course {arguments : List String} {i : Invocation}
    (harguments : Command.ofArguments arguments = .ok i) {contents : String → Option String}
    {environment : List (String × String)} {settings : Settings}
    (hsettings : i.command.isOffline = true ∨ i.settings contents environment = .ok settings)
    (peer : Http.Peer σ) (s : σ) :
    let ending := (program arguments contents environment peer s).1
    let record := sent arguments contents environment peer s
    let script := i.command.script record.answer
    (record.map fun x => some x.1) <+: script.map (Http.message? settings.baseUrl) ∧
      (∀ x ∈ (script.zip record).dropLast, x.2.2.IsAccepted settings x.1) ∧
      (ending.status = 0 ↔
        record.length = script.length ∧ ∀ x ∈ script.zip record, x.2.2.IsAccepted settings x.1) ∧
      (ending.status ≠ 0 → ending.output = "") ∧
      (i.run contents environment peer s).1 ≠ .error (.run .missingId) := by
  intro ending record script
  obtain ⟨messages, hwire, hrecorded⟩ :=
    Http.onWire_run settings (i.command.dialogue settings.deadline) peer s []
  have hperformed := Command.performed (Http.service settings peer) s i.command settings.deadline
  have hrecord : record = messages := by
    simp only [record, sent, program, harguments, Invocation.run_eq hsettings, hrecorded,
      List.nil_append]
  have hending : ending = .ofResult (i.run contents environment peer s).1 := by
    simp only [ending, program, harguments]
  rw [← hrecord] at hwire
  rw [← Invocation.run_eq hsettings] at hwire hperformed
  have hprogress := hperformed.progress record.answer fun r reply rest body hfirst =>
    Http.OnWire.answer_eq (hfirst ▸ hwire)
  obtain ⟨hmessages, hbefore, hfinished⟩ := hprogress.record hwire
  obtain ⟨hsuccess, hfailure⟩ := Ending.ofResult_eq (i.run contents environment peer s).1
  rw [hending]
  exact ⟨hmessages, hbefore, hsuccess.trans hfinished, hfailure, hperformed.ne_missingId⟩

/-- A workflow that is opened under another id and cannot be deleted: the two
messages are sent, the second about the document that was opened, and the
program fails and prints nothing. -/
theorem program_course_delete :
    let arguments := ["delete", "a"]
    let peer : Http.Peer (List Http.Outcome) := fun outcomes _ =>
      (outcomes.headD .silent, outcomes.tail)
    let outcomes : List Http.Outcome :=
      [.answered 5 200 "\x7b\"id\":\"b\"\x7d", .answered 5 500 ""]
    let ending := (program arguments (fun _ => none) [] peer outcomes).1
    let record := sent arguments (fun _ => none) [] peer outcomes
    (record.map fun x => (x.1.method, x.1.url.target)) =
        [(.get, "/api/workflows/a"), (.delete, "/api/workflows/b")] ∧
      ending.status ≠ 0 ∧ ending.output = "" := by
  intro arguments peer outcomes ending record
  have harguments : Command.ofArguments arguments = .ok ⟨none, .delete ⟨"a"⟩⟩ := rfl
  have hsettings : Invocation.settings ⟨none, .delete ⟨"a"⟩⟩ (fun _ => none) [] = .ok {} := rfl
  obtain ⟨-, -, hsuccess, hsilent, -⟩ :=
    program_course harguments (.inr hsettings) peer outcomes
  have houtcomes : record.map Prod.snd = outcomes := by decide +kernel
  have hfails : ending.status ≠ 0 := by
    intro hstatus
    obtain ⟨-, haccepted⟩ := hsuccess.mp hstatus
    change ∀ x ∈ List.zip _ record, _ at haccepted
    obtain ⟨first, rest, hrecord, -, hrest⟩ := List.map_eq_cons_iff.mp houtcomes
    obtain ⟨second, others, rfl, hsecond, -⟩ := List.map_eq_cons_iff.mp hrest
    rw [hrecord] at haccepted
    have hlast := haccepted _ (.tail _ (.head _))
    rw [hsecond] at hlast
    exact absurd hlast.2.2.1 (by decide)
  exact ⟨by decide +kernel, hfails, hsilent hfails⟩

end WorkflowEditor
