import Mathlib.Logic.Function.Basic
import Reconcile.Entries
import Reconcile.Server.Scripted

/-!
Conservation of verdicts in the scripted server. What is scripted for a key waits until a send of the
key takes it; what a send takes is held back until a batch is full or the upload is ended; then it is
returned, once and in order. All sources share the one count of sends and the one row of held back
verdicts. A call that fails moves nothing.
-/

namespace Reconcile.ScriptedServer

/-! ### Calls and what they return -/

inductive Call where
  | script (verdict : Verdict)
  | send (source : String) (item : OutgoingItem)
  | conclude (source : String)
  | fetch (source : String)
  | answer (source : String) (verdicts : List Verdict)
  | schedule (source : String) (changes : List ServerChange)
  | limit (sends : Nat)
  | connect (connected : Bool)
  deriving DecidableEq, Inhabited

def Call.scripted? : Call → Option Verdict
  | script verdict => some verdict
  | _ => none

def returning {α : Type} (verdicts : α → List Verdict)
    (called : Reply (Except SyncFailure α) × ScriptedServer) :
    Except SyncFailure (List Verdict) × ScriptedServer :=
  (called.1.value.map verdicts, called.2)

def perform (server : ScriptedServer) : Call → Except SyncFailure (List Verdict) × ScriptedServer
  | .script verdict => (.ok [], server.script verdict)
  | .send source item => returning id (ServerLink.send server source item)
  | .conclude source => returning id (ServerLink.conclude server source)
  | .fetch source => returning (fun _ => []) (ServerLink.fetch server source)
  | .answer source verdicts => returning (fun _ => []) (ServerLink.answer server source verdicts)
  | .schedule source changes => (.ok [], server.scheduleChanges source changes)
  | .limit sends => (.ok [], { server with sendLimit := some sends })
  | .connect connected => (.ok [], { server with connected })

structure Made where
  call : Call
  reply : Except SyncFailure (List Verdict)

def history : ScriptedServer → List Call → List Made
  | _, [] => []
  | server, call :: rest =>
    ⟨call, (server.perform call).1⟩ :: history (server.perform call).2 rest

def performAll (server : ScriptedServer) (calls : List Call) : ScriptedServer :=
  calls.foldl (fun server call => (server.perform call).2) server

def returned (history : List Made) : List Verdict :=
  history.flatMap fun made => made.reply.toOption.getD []

def about (key : String) (verdicts : List Verdict) : List Verdict :=
  verdicts.filter fun verdict => verdict.id == key

/-! ### The answers that are due -/

/-- A send that succeeded, with the scripted verdicts that waited for its key. -/
structure Sent where
  source : String
  item : OutgoingItem
  waited : List Verdict
  deriving DecidableEq

/-- How many of the waiting verdicts answer one send: those up to the first final one, or all. -/
def answerLength (waiting : List Verdict) : Nat :=
  waiting.findIdx (fun verdict => !verdict.code.isChunkAck) + 1

namespace Sent

def of (waiting : String → List Verdict) (source : String) (item : OutgoingItem) : Sent :=
  ⟨source, item, waiting item.key⟩

def taken (sent : Sent) : List Verdict := sent.waited.take (answerLength sent.waited)

def left (sent : Sent) : List Verdict := sent.waited.drop (answerLength sent.waited)

/-- The answer to a send: what it takes, or the plain verdict where nothing waited. -/
def answer (plain : StatusCode) (sent : Sent) : List Verdict :=
  if sent.waited = [] then [{ id := sent.item.key, code := plain }] else sent.taken

end Sent

def takenFor (key : String) (sends : List Sent) : List Verdict :=
  (sends.filter fun sent => sent.item.key == key).flatMap Sent.taken

namespace Made

def sent? (waiting : String → List Verdict) (made : Made) : Option Sent :=
  match made.call, made.reply with
  | .send source item, .ok _ => some (.of waiting source item)
  | _, _ => none

def waitingAfter (waiting : String → List Verdict) (made : Made) : String → List Verdict :=
  match made.call.scripted?, made.sent? waiting with
  | some verdict, _ => Function.update waiting verdict.id (waiting verdict.id ++ [verdict])
  | none, some sent => Function.update waiting sent.item.key sent.left
  | none, none => waiting

end Made

/-- The sends of a history that succeeded, in order, from what waits for each key at its start. -/
def sends : (waiting : String → List Verdict) → List Made → List Sent
  | _, [] => []
  | waiting, made :: rest => (made.sent? waiting).toList ++ sends (made.waitingAfter waiting) rest

/-! ### The scripts of a server -/

variable {server : ScriptedServer}

def waiting (server : ScriptedServer) (key : String) : List Verdict :=
  (server.scripts.lookup key).getD []

theorem waiting_assign (server : ScriptedServer) (key : String) (queue : List Verdict) :
    waiting { server with scripts := assign key queue server.scripts } =
      Function.update server.waiting key queue := by
  funext other
  show (((key, queue) :: Entries.without key server.scripts).lookup other).getD [] = _
  rw [Entries.lookup_cons, Entries.lookup_without, Function.update_apply]
  split <;> rfl

theorem cutAnswer_eq (queue : List Verdict) :
    cutAnswer queue = (queue.take (answerLength queue), queue.drop (answerLength queue)) := by
  induction queue with
  | nil => rfl
  | cons verdict rest ih =>
    rw [cutAnswer, answerLength, List.findIdx_cons]
    cases verdict.code.isChunkAck with
    | false => rfl
    | true =>
      rw [if_pos rfl, ih]
      rfl

theorem verdictsFor_of_nil {key : String} (unscripted : server.waiting key = []) :
    server.verdictsFor key = ([{ id := key, code := server.defaultCode }], server) := by
  rw [waiting] at unscripted
  rw [verdictsFor, unscripted]

theorem verdictsFor_of_ne_nil {key : String} (scripted : server.waiting key ≠ []) :
    server.verdictsFor key =
      ((cutAnswer (server.waiting key)).1,
        { server with scripts := assign key (cutAnswer (server.waiting key)).2 server.scripts }) := by
  obtain ⟨verdict, rest, queue⟩ := List.exists_cons_of_ne_nil scripted
  rw [queue]
  rw [waiting] at queue
  rw [verdictsFor, queue]

theorem verdictsFor_eq (server : ScriptedServer) (source : String) (item : OutgoingItem) :
    ∃ scripts, server.verdictsFor item.key =
        ((Sent.of server.waiting source item).answer server.defaultCode, { server with scripts }) ∧
      waiting { server with scripts } =
        Function.update server.waiting item.key (Sent.of server.waiting source item).left := by
  have waited : (Sent.of server.waiting source item).waited = server.waiting item.key := rfl
  rw [Sent.answer, Sent.taken, Sent.left, waited]
  by_cases scripted : server.waiting item.key = []
  · refine ⟨server.scripts, ?_, ?_⟩
    · rw [verdictsFor_of_nil scripted, if_pos scripted]
      rfl
    · rw [scripted, List.drop_nil, ← scripted, Function.update_eq_self]
  · refine ⟨_, ?_, server.waiting_assign item.key _⟩
    rw [verdictsFor_of_ne_nil scripted, cutAnswer_eq, if_neg scripted]

/-! ### One call -/

inductive Comes (server : ScriptedServer) :
    Call → Except SyncFailure (List Verdict) → ScriptedServer → Prop
  | failed {call : Call} (unscripted : call.scripted? = none) (failure : SyncFailure) :
      Comes server call (.error failure) server
  | scripted (verdict : Verdict) : Comes server (.script verdict) (.ok []) (server.script verdict)
  | sent (source : String) (item : OutgoingItem) {batch pending : List Verdict}
      {scripts : List (String × List Verdict)}
      (left : waiting { server with scripts } =
        Function.update server.waiting item.key (Sent.of server.waiting source item).left)
      (released : batch ++ pending =
        server.pending ++ (Sent.of server.waiting source item).answer server.defaultCode) :
      Comes server (.send source item) (.ok batch)
        { server with scripts, pending, sent := server.sent ++ [(source, item)] }
  | concluded (source : String) :
      Comes server (.conclude source) (.ok server.pending) { server with pending := [] }
  | fetched (source : String) {incoming : List (String × List ServerChange)} :
      Comes server (.fetch source) (.ok []) { server with incoming }
  | answered (source : String) (verdicts : List Verdict) {acknowledged : List (String × Verdict)} :
      Comes server (.answer source verdicts) (.ok []) { server with acknowledged }
  | scheduled (source : String) (changes : List ServerChange) :
      Comes server (.schedule source changes) (.ok []) (server.scheduleChanges source changes)
  | limited (sends : Nat) :
      Comes server (.limit sends) (.ok []) { server with sendLimit := some sends }
  | connected (connected : Bool) :
      Comes server (.connect connected) (.ok []) { server with connected }

theorem comes_whenConnected {α : Type} {call : Call} {verdicts : α → List Verdict}
    {attempt : Except SyncFailure α × ScriptedServer} (unscripted : call.scripted? = none)
    (comes : Comes server call (attempt.1.map verdicts) attempt.2) :
    Comes server call (returning verdicts (server.whenConnected attempt)).1
      (returning verdicts (server.whenConnected attempt)).2 := by
  unfold whenConnected
  split
  · exact comes
  · exact .failed unscripted _

theorem comes_send (server : ScriptedServer) (source : String) (item : OutgoingItem) :
    Comes server (.send source item) ((server.send source item).1.map id)
      (server.send source item).2 := by
  obtain ⟨scripts, answered, left⟩ := server.verdictsFor_eq source item
  unfold send
  split
  · exact .failed rfl _
  · simp only [answered]
    -- When the batch is full, all that is pending goes out with the answer; otherwise nothing does.
    split
    · exact .sent source item left (List.append_nil _)
    · exact .sent source item left rfl

theorem comes_perform (server : ScriptedServer) (call : Call) :
    Comes server call (server.perform call).1 (server.perform call).2 := by
  cases call with
  | script verdict => exact .scripted verdict
  | send source item => exact comes_whenConnected rfl (server.comes_send source item)
  | conclude source => exact comes_whenConnected rfl (.concluded source)
  | fetch source => exact comes_whenConnected rfl (.fetched source)
  | answer source verdicts => exact comes_whenConnected rfl (.answered source verdicts)
  | schedule source changes => exact .scheduled source changes
  | limit sends => exact .limited sends
  | connect connected => exact .connected connected

/-! ### What goes in and comes out -/

/-- What goes into a server and comes out of it, on the way from one state to a later one. -/
structure Flow (before after : ScriptedServer) (scripted returned : List Verdict)
    (sends : List Sent) : Prop where
  plain : after.defaultCode = before.defaultCode
  logged : after.sent = before.sent ++ sends.map fun sent => (sent.source, sent.item)
  released : returned ++ after.pending =
    before.pending ++ sends.flatMap (Sent.answer before.defaultCode)
  taken : ∀ key, before.waiting key ++ about key scripted = takenFor key sends ++ after.waiting key

namespace Flow

variable {first second third : ScriptedServer} {scripted scripted' returned returned' : List Verdict}
  {sends sends' : List Sent}

theorem still (plain : second.defaultCode = first.defaultCode) (sent : second.sent = first.sent)
    (pending : second.pending = first.pending) (scripts : second.scripts = first.scripts) :
    Flow first second [] [] [] where
  plain := plain
  logged := sent.trans (List.append_nil _).symm
  released := pending.trans (List.append_nil _).symm
  taken key := by
    rw [waiting, waiting, scripts]
    exact List.append_nil _

theorem trans (early : Flow first second scripted returned sends)
    (late : Flow second third scripted' returned' sends') :
    Flow first third (scripted ++ scripted') (returned ++ returned') (sends ++ sends') where
  plain := late.plain.trans early.plain
  logged := by rw [late.logged, early.logged, List.map_append, List.append_assoc]
  released := by
    calc (returned ++ returned') ++ third.pending
        = returned ++ (second.pending ++ sends'.flatMap (Sent.answer second.defaultCode)) := by
          rw [List.append_assoc, late.released]
      _ = (first.pending ++ sends.flatMap (Sent.answer first.defaultCode)) ++
            sends'.flatMap (Sent.answer first.defaultCode) := by
          rw [← List.append_assoc, early.released, early.plain]
      _ = first.pending ++ (sends ++ sends').flatMap (Sent.answer first.defaultCode) := by
          rw [List.append_assoc, List.flatMap_append]
  taken key := by
    calc first.waiting key ++ about key (scripted ++ scripted')
        = (first.waiting key ++ about key scripted) ++ about key scripted' := by
          rw [about, List.filter_append, ← List.append_assoc, ← about, ← about]
      _ = takenFor key sends ++ (takenFor key sends' ++ third.waiting key) := by
          rw [early.taken, List.append_assoc, late.taken]
      _ = takenFor key (sends ++ sends') ++ third.waiting key := by
          rw [← List.append_assoc, takenFor, takenFor, takenFor, List.filter_append,
            List.flatMap_append]

end Flow

theorem about_script (waiting : String → List Verdict) (verdict : Verdict) (key : String) :
    waiting key ++ about key [verdict] =
      Function.update waiting verdict.id (waiting verdict.id ++ [verdict]) key := by
  by_cases own : verdict.id = key
  · subst own
    simp [about]
  · rw [Function.update_of_ne (Ne.symm own)]
    simp [about, own]

theorem takenFor_send (waiting : String → List Verdict) (source : String) (item : OutgoingItem)
    (key : String) :
    waiting key = takenFor key [.of waiting source item] ++
      Function.update waiting item.key (Sent.of waiting source item).left key := by
  by_cases own : item.key = key
  · subst own
    simp [takenFor, Sent.of, Sent.taken, Sent.left]
  · rw [Function.update_of_ne (Ne.symm own)]
    simp [takenFor, Sent.of, own]

theorem Made.sent?_of_error (waiting : String → List Verdict) (call : Call) (failure : SyncFailure) :
    Made.sent? waiting ⟨call, .error failure⟩ = none := by
  cases call <;> rfl

namespace Comes

variable {call : Call} {reply : Except SyncFailure (List Verdict)} {after : ScriptedServer}

theorem waiting_eq (comes : Comes server call reply after) :
    after.waiting = Made.waitingAfter server.waiting ⟨call, reply⟩ := by
  cases comes with
  | failed unscripted failure =>
    rw [Made.waitingAfter, unscripted, Made.sent?_of_error]
  | scripted verdict => exact server.waiting_assign verdict.id _
  | sent source item left released => exact left
  | _ => rfl

theorem flow (comes : Comes server call reply after) :
    Flow server after call.scripted?.toList (reply.toOption.getD [])
      (Made.sent? server.waiting ⟨call, reply⟩).toList := by
  cases comes with
  | failed unscripted failure =>
    rw [unscripted, Made.sent?_of_error]
    exact .still rfl rfl rfl rfl
  | scripted verdict =>
    refine ⟨rfl, (List.append_nil _).symm, (List.append_nil _).symm, fun key => ?_⟩
    exact (about_script server.waiting verdict key).trans
      (congrFun (server.waiting_assign verdict.id _) key).symm
  | sent source item left released =>
    refine ⟨rfl, rfl, ?_, fun key => ?_⟩
    · exact released.trans (congrArg _ (List.flatMap_singleton ..).symm)
    · refine (List.append_nil _).trans ((takenFor_send server.waiting source item key).trans ?_)
      exact congrArg _ (congrFun left key).symm
  | concluded source =>
    exact ⟨rfl, (List.append_nil _).symm, rfl, fun _ => List.append_nil _⟩
  | _ => exact .still rfl rfl rfl rfl

theorem unchanged_of_error {failure : SyncFailure} (comes : Comes server call (.error failure) after) :
    after = server := by
  cases comes
  rfl

theorem pending_of_conclude {source : String} {verdicts : List Verdict}
    (comes : Comes server (.conclude source) (.ok verdicts) after) : after.pending = [] := by
  cases comes
  rfl

end Comes

/-! ### Any calls -/

theorem flow_performAll (server : ScriptedServer) (calls : List Call) :
    Flow server (server.performAll calls) (calls.filterMap Call.scripted?)
      (returned (server.history calls)) (sends server.waiting (server.history calls)) := by
  induction calls generalizing server with
  | nil => exact .still rfl rfl rfl rfl
  | cons call rest ih =>
    have comes := server.comes_perform call
    have flows := comes.flow.trans (ih (server.perform call).2)
    -- The server holds for each key what the history alone says is waiting.
    rw [comes.waiting_eq] at flows
    have scripted : (call :: rest).filterMap Call.scripted? =
        call.scripted?.toList ++ rest.filterMap Call.scripted? := by
      rw [List.filterMap_cons]
      cases call.scripted? <;> rfl
    rw [scripted]
    exact flows

/-- Through any calls a scripted server conserves its verdicts. All that is returned, and after it all
that is still pending, is what was pending at first and then the answers to the sends that succeeded,
in the order of these. What is scripted for a key is taken by its sends in order, every verdict once,
or is still waiting. A call that fails leaves the server as it was, and one that ends the upload leaves
nothing pending. -/
theorem no_verdict_lost (server : ScriptedServer) (calls : List Call) :
    let history := server.history calls
    let after := server.performAll calls
    let sent := sends server.waiting history
    returned history ++ after.pending =
        server.pending ++ sent.flatMap (Sent.answer server.defaultCode) ∧
      after.sent = server.sent ++ sent.map (fun sent => (sent.source, sent.item)) ∧
      (∀ key, server.waiting key ++ about key (calls.filterMap Call.scripted?) =
        takenFor key sent ++ after.waiting key) ∧
      (∀ call failure, (after.perform call).1 = .error failure → (after.perform call).2 = after) ∧
      ∀ source verdicts, (after.perform (.conclude source)).1 = .ok verdicts →
        (after.perform (.conclude source)).2.pending = [] := by
  intro history after sent
  have flows : Flow server after _ (returned history) sent := server.flow_performAll calls
  refine ⟨flows.released, flows.logged, flows.taken, ?_, ?_⟩
  · intro call failure failed
    have comes := after.comes_perform call
    rw [failed] at comes
    exact comes.unchanged_of_error
  · intro source verdicts ended
    have comes := after.comes_perform (.conclude source)
    rw [ended] at comes
    exact comes.pending_of_conclude

def deletionOf (key : String) : OutgoingItem := { key, content := none, state := .deleted }

/-- Two sources share batches of two. One item is sent again, and one verdict is scripted too late. -/
def sharedCalls : List Call :=
  [.script { id := "big", code := 213 }, .script { id := "big", code := 201 },
    .script { id := "big", code := 418 }, .send "picture" (deletionOf "big"),
    .send "contact" (deletionOf "a"), .send "picture" (deletionOf "big"),
    .script { id := "big", code := 500 }, .connect false, .conclude "picture", .connect true, .limit 3]

theorem shared_batches_returned :
    let server : ScriptedServer := { batchSize := 2 }
    let after := server.performAll sharedCalls
    returned (server.history sharedCalls) ++ after.pending =
        [{ id := "big", code := 213 }, { id := "big", code := 201 }, { id := "a", code := 200 },
          { id := "big", code := 418 }] ∧
      takenFor "big" (sends server.waiting (server.history sharedCalls)) ++ after.waiting "big" =
        [{ id := "big", code := 213 }, { id := "big", code := 201 }, { id := "big", code := 418 },
          { id := "big", code := 500 }] ∧
      (after.perform (.send "contact" (deletionOf "b"))).1 =
        .error (.protocol "connection lost while sending b") ∧
      (after.perform (.send "contact" (deletionOf "b"))).2 = after ∧
      (after.perform (.conclude "picture")).1 = .ok [{ id := "big", code := 418 }] ∧
      (after.perform (.conclude "picture")).2.pending = [] := by
  intro server after
  obtain ⟨released, -, taken, fails, ends⟩ := no_verdict_lost server sharedCalls
  have state : after =
      { batchSize := 2
        sendLimit := some 3
        pending := [{ id := "big", code := 418 }]
        scripts := [("big", [{ id := "big", code := 500 }])]
        sent := [("picture", deletionOf "big"), ("contact", deletionOf "a"),
          ("picture", deletionOf "big")] } := by decide +kernel
  have lost : (after.perform (.send "contact" (deletionOf "b"))).1 =
      .error (.protocol "connection lost while sending b") := by
    rw [state]
    rfl
  have ended : (after.perform (.conclude "picture")).1 = .ok [{ id := "big", code := 418 }] := by
    rw [state]
    rfl
  exact ⟨released.trans (by decide +kernel), (taken "big").symm.trans (by decide +kernel), lost,
    fails _ _ lost, ended, ends _ _ ended⟩

end Reconcile.ScriptedServer
