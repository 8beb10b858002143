import Reconcile.Proofs.Session.Books
import Reconcile.Proofs.Source.Unsaved

/-!
The course of an upload, whatever the link replies and wherever the upload stops. At every point the
source is as after the first of the steps that the record of the link shows, and as after all of them
unless a stop came in between; and no call is made once the server is full.
-/

namespace Reconcile

variable {P L : Type} [Provider P] {base : List (String × Signature)}

def LinkEvent.posts : LinkEvent → Bool
  | sent .. | concluded _ => true
  | fetched _ | answered .. => false

theorem LinkEvent.unfetched (event : LinkEvent) (posts : event.posts = true) : event.changes = [] := by
  cases event with
  | sent => rfl
  | concluded => rfl
  | fetched => cases posts
  | answered => cases posts

/-- Every call of an upload was made while the server was not known to be full. -/
def Timely (terms : Terms) (base : List (String × Signature)) (events : List LinkEvent) : Prop :=
  ∀ earlier event later, events = earlier ++ event :: later → event.posts = true →
    (Ledger.run terms { entries := base } (uploadSteps earlier)).full = false

theorem Timely.nil (terms : Terms) (base : List (String × Signature)) : Timely terms base [] :=
  fun _ _ _ none => absurd none.symm (by simp)

theorem Timely.add {terms : Terms} {events : List LinkEvent} (timely : Timely terms base events)
    {event : LinkEvent} (room : event.posts = true →
      (Ledger.run terms { entries := base } (uploadSteps events)).full = false) :
    Timely terms base (events ++ [event]) := by
  intro earlier other later same posts
  rcases List.eq_nil_or_concat later with rfl | ⟨before, last, rfl⟩
  · obtain ⟨rfl, last⟩ := List.append_inj' same rfl
    obtain rfl := (List.cons.inj last).1
    exact room posts
  · rw [List.concat_eq_append, ← List.cons_append, ← List.append_assoc] at same
    exact timely earlier other before (List.append_inj' same rfl).1 posts

theorem uploadSteps_add {events more : List LinkEvent} {event : LinkEvent}
    (adds : more = events ++ [event]) : uploadSteps more = uploadSteps events ++ event.steps := by
  rw [adds, uploadSteps, List.flatMap_append]
  simp [uploadSteps]

/-- The given steps of an upload are all on the record of the link, but for an item whose sending
failed. -/
def HeardAll (steps : List UploadStep) (events : List LinkEvent) : Prop :=
  ∃ failed : List OutgoingItem, uploadSteps events = steps ++ failed.map .send

theorem HeardAll.refl (events : List LinkEvent) : HeardAll (uploadSteps events) events :=
  ⟨[], (List.append_nil _).symm⟩

/-! ### One source -/

/-- An upload that began on the source `origin` has its cache and its report as after the given
steps. Where its flag is down, keys that are not among the `base` entries were signed quietly. -/
structure Station.Posted (station origin : Station P) (base : List (String × Signature))
    (steps : List UploadStep) : Prop where
  within : Within [.cache, .report, .streaming] origin station
  cached : ∃ cache, station.source.cache = .ok cache ∧
    cache.snapshot = (Ledger.run origin.terms { entries := base } steps).entries
  report : station.source.report =
    (Ledger.run origin.terms { entries := base } steps).report origin.source.config
  quiet : station.Calm → SourceM.SignsQuietly origin.source.provider base
    (Ledger.run origin.terms { entries := base } steps).entries

namespace Station.Posted

variable {station left origin : Station P} {steps : List UploadStep}

theorem begun (posted : station.Posted origin base steps) :
    station.source.report.standing ≠ .resting := by
  rw [posted.report]
  exact Ledger.standing_report _ _

theorem caches (posted : station.Posted origin base steps) :
    station.Caches (Ledger.run origin.terms { entries := base } steps).entries :=
  ⟨posted.begun, posted.cached⟩

theorem full (posted : station.Posted origin base steps) : station.source.report.isFull .server =
    (Ledger.run origin.terms { entries := base } steps).full := by
  rw [posted.report]
  exact Ledger.isFull_report _ _

theorem terms (posted : station.Posted origin base steps) : station.terms = origin.terms :=
  posted.within.terms (by simp)

theorem streamed (posted : station.Posted origin base steps) (within : Within [.streaming] station left) :
    left.Posted origin base steps where
  within := posted.within.trans (within.mono (by simp))
  cached := by rw [within.cache (by simp)]; exact posted.cached
  report := by rw [within.report (by simp)]; exact posted.report
  quiet calm := posted.quiet (within.calm calm)

theorem noted (posted : station.Posted origin base steps) (notice : Notice) :
    (station.noted notice).Posted origin base steps :=
  posted.streamed ((station.within_noted notice).mono (by simp))

theorem transferred (posted : station.Posted origin base steps) (item : OutgoingItem) :
    Within [.cache, .report] station (station.recorded .server .upload
        { id := item.key, code := station.source.config.success.okCode }) ∧
      (station.recorded .server .upload
        { id := item.key, code := station.source.config.success.okCode }).Posted origin base
          (steps ++ [.send item]) := by
  have transfers : Stays (P := P) [.report] (SourceM.recordTransfer .server .upload item.key) :=
    SourceM.stays_recordTransfer (by simp) _ _ _
  have within := transfers.within (SourceM.recordTransfer_eq .server .upload item.key station)
  refine ⟨within.mono (by simp), posted.within.trans (within.mono (by simp)), ?_, ?_, fun calm => ?_⟩
  · rw [within.cache (by simp), Ledger.run_concat]
    exact posted.cached
  · rw [source_recorded, Ledger.run_concat, Ledger.report_send]
    dsimp only
    rw [posted.report, posted.within.config]
    rfl
  · rw [Ledger.run_concat]
    exact posted.quiet (within.calm calm)

theorem unknown (posted : station.Posted origin base steps) {verdict : Verdict}
    (unknown : (Ledger.run origin.terms { entries := base } steps).inFlight.waiting verdict.id = none) :
    station.Posted origin base (steps ++ [.hear verdict]) := by
  have same := Ledger.run_concat origin.terms { entries := base } steps (.hear verdict)
  rw [Ledger.step, unknown] at same
  refine ⟨posted.within, ?_, ?_, ?_⟩
  all_goals rw [same]
  · exact posted.cached
  · exact posted.report
  · exact posted.quiet

/-- A verdict of an item in flight is taken as a whole, or not at all. -/
theorem takeVerdict (posted : station.Posted origin base steps) {verdict : Verdict}
    {command : Command} (waits : (Ledger.run origin.terms { entries := base }
      steps).inFlight.waiting verdict.id = some command) :
    Ends (SourceM.takeVerdict command verdict) station fun outcome left =>
      Within [.cache, .report] station left ∧
        match outcome with
        | .ok _ => left.Posted origin base (steps ++ [.hear verdict])
        | .error error =>
          error = .cancelled ∧ ¬ left.Calm ∧ left.Posted origin base steps := by
  by_cases calm : station.Calm
  · obtain ⟨cache, cached, entries⟩ := posted.cached
    have syncs : station.Syncs cache := ⟨calm, posted.begun, cached⟩
    have stays : Stays [.cache, .report] (SourceM.takeVerdict command verdict : SourceM P Unit) :=
      SourceM.stays_takeVerdict (by simp) (by simp) _ _
    obtain ⟨left, next, ran, held, answers, reported, quiet⟩ :=
      SourceM.takeVerdict_ok syncs command verdict
    have within := stays.within ran
    have follows : next.snapshot =
        (Ledger.run origin.terms { entries := base } (steps ++ [.hear verdict])).entries := by
      rw [Ledger.run_concat, Ledger.step, waits, answers, entries, ← posted.terms]
      rfl
    refine .of_ok ran ⟨within, posted.within.trans (within.mono (by simp)), ⟨next, held, follows⟩, ?_,
      fun ends key lists => ?_⟩
    · rw [Ledger.run_concat, Ledger.report_hear _ _ _ waits, reported, posted.report, posted.within.config]
      rfl
    · rcases quiet ends key (follows ▸ lists) with known | signed
      · exact posted.quiet calm key (entries ▸ known)
      · exact .inr (posted.within.provider (by simp) ▸ signed)
  · exact .of_error (bind_of_error (SourceM.poll_of_stopped calm) _) ⟨.refl _, rfl, calm, posted⟩

end Station.Posted

namespace ExchangeM

variable {exchange : Exchange P (Recorded L)} {origin : Station P} {steps : List UploadStep}

theorem posts_routeOne (verdict : Verdict) (posted : exchange.station.Posted origin base steps) :
    Ends (routeOne verdict ((Ledger.run origin.terms { entries := base } steps).inFlight.answer
        verdict).1) exchange fun outcome left => left.link = exchange.link ∧
      Within [.cache, .report] exchange.station left.station ∧
      match outcome with
      | .ok _ => left.station.Posted origin base (steps ++ [.hear verdict])
      | .error error =>
        error = .cancelled ∧ ¬ left.station.Calm ∧ left.station.Posted origin base steps := by
  show Ends (routeOne verdict ((Ledger.run origin.terms { entries := base } steps).inFlight.waiting
    verdict.id)) _ _
  cases waits : (Ledger.run origin.terms { entries := base } steps).inFlight.waiting verdict.id with
  | none =>
    refine .of_ok (note_eq .unknownItem exchange) ⟨rfl, ?_, (posted.unknown waits).noted _⟩
    exact (exchange.station.within_noted _).mono (by simp)
  | some command =>
    exact ends_onStation (posted.takeVerdict waits)

theorem posts_route (verdicts : List Verdict) (posted : exchange.station.Posted origin base steps) :
    Ends (route verdicts (Ledger.run origin.terms { entries := base } steps).inFlight) exchange
      fun outcome left => left.link = exchange.link ∧
        Within [.cache, .report] exchange.station left.station ∧
        match outcome with
        | .ok inFlight => left.station.Posted origin base (steps ++ verdicts.map .hear) ∧
            inFlight =
              (Ledger.run origin.terms { entries := base } (steps ++ verdicts.map .hear)).inFlight
        | .error error => error = .cancelled ∧ ¬ left.station.Calm ∧ ∃ heard,
            heard <+: verdicts.map .hear ∧ left.station.Posted origin base (steps ++ heard) := by
  induction verdicts generalizing exchange steps with
  | nil =>
    refine .of_ok rfl ⟨rfl, .refl _, ?_⟩
    rw [List.map_nil, List.append_nil]
    exact ⟨posted, rfl⟩
  | cons verdict rest ih =>
    have flight : (Ledger.run origin.terms { entries := base } (steps ++ [.hear verdict])).inFlight =
        ((Ledger.run origin.terms { entries := base } steps).inFlight.answer verdict).2 := by
      rw [Ledger.run_concat, Ledger.inFlight_hear]
    have shifts : ∀ heard : List UploadStep,
        (steps ++ [.hear verdict]) ++ heard = steps ++ .hear verdict :: heard := by simp
    rw [route_cons, ← flight]
    refine (posts_routeOne verdict posted).bind ?_ ?_
    · rintro error left ⟨link, within, cancelled, stopped, kept⟩
      exact ⟨link, within, cancelled, stopped, [], List.nil_prefix, by rw [List.append_nil]; exact kept⟩
    · rintro _ left ⟨link, within, booked⟩
      refine (ih booked).mono ?_
      rintro outcome last ⟨same, further, final⟩
      refine ⟨same.trans link, within.trans further, ?_⟩
      cases outcome with
      | ok inFlight =>
        rw [shifts] at final
        exact final
      | error error =>
        obtain ⟨cancelled, stopped, heard, first, final⟩ := final
        rw [shifts] at final
        exact ⟨cancelled, stopped, .hear verdict :: heard, (List.prefix_cons_inj _).mpr first, final⟩

end ExchangeM

/-! ### Sending -/

namespace Exchange

variable {exchange left : Exchange P (Recorded L)} {origin : Station P} {steps : List UploadStep}

/-- The source of an upload that began on `origin` is as after the given steps, which are the first
ones on the record of the link, and every call on it was made in time. -/
structure Posts (exchange : Exchange P (Recorded L)) (origin : Station P)
    (base : List (String × Signature)) (steps : List UploadStep) : Prop where
  posted : exchange.station.Posted origin base steps
  early : steps <+: uploadSteps exchange.link.events
  timely : Timely origin.terms base exchange.link.events
  uploads : ∀ event ∈ exchange.link.events, event.posts = true

/-- An upload that began on `origin` has taken all steps on the record of the link, and has the
given items in flight. -/
structure Underway (exchange : Exchange P (Recorded L)) (origin : Station P)
    (base : List (String × Signature)) (inFlight : InFlight) : Prop where
  posts : exchange.Posts origin base (uploadSteps exchange.link.events)
  flight : inFlight = (exchange.ledger origin.terms base).inFlight

theorem Posts.streamed (posts : exchange.Posts origin base steps) (link : left.link = exchange.link)
    (within : Within [.streaming] exchange.station left.station) : left.Posts origin base steps where
  posted := posts.posted.streamed within
  early := by rw [link]; exact posts.early
  timely := by rw [link]; exact posts.timely
  uploads := by rw [link]; exact posts.uploads

theorem Posts.unfetched (posts : exchange.Posts origin base steps) : exchange.fetched = [] :=
  List.flatMap_eq_nil_iff.mpr fun event member => event.unfetched (posts.uploads event member)

theorem Underway.streamed {inFlight : InFlight} (underway : exchange.Underway origin base inFlight)
    (link : left.link = exchange.link) (within : Within [.streaming] exchange.station left.station) :
    left.Underway origin base inFlight where
  posts := by rw [link]; exact underway.posts.streamed link within
  flight := by rw [ledger, link]; exact underway.flight

theorem Underway.begun {live : SignatureCache} (silent : exchange.link.events = [])
    (fresh : origin.source.report = { Source.blankReport origin.source.config with standing := .running })
    (within : Within [.cache, .streaming] origin exchange.station)
    (cached : exchange.station.source.cache = .ok live) :
    exchange.Underway origin live.snapshot {} := by
  have nothing : uploadSteps exchange.link.events = [] := by rw [silent]; rfl
  refine ⟨⟨⟨within.mono (by simp), ?_, ?_, fun _ => ?_⟩, List.prefix_refl _, ?_, ?_⟩, ?_⟩
  · rw [nothing]
    exact ⟨live, cached, rfl⟩
  · rw [nothing, within.report (by simp), fresh]
    rfl
  · rw [nothing]
    exact .refl _ _
  · rw [silent]
    exact .nil _ _
  · rw [silent]
    exact List.forall_mem_nil _
  · rw [ledger, nothing]
    rfl

theorem Posts.add {before : List UploadStep} (posts : exchange.Posts origin base before)
    {event : LinkEvent} (adds : left.link.events = exchange.link.events ++ [event])
    (uploads : event.posts = true) (room : (exchange.ledger origin.terms base).full = false)
    (posted : left.station.Posted origin base steps)
    (early : steps <+: uploadSteps exchange.link.events ++ event.steps) :
    left.Posts origin base steps where
  posted := posted
  early := uploadSteps_add adds ▸ early
  timely := adds ▸ posts.timely.add fun _ => room
  uploads := by
    rw [adds]
    exact List.forall_mem_append.mpr ⟨posts.uploads, List.forall_mem_singleton.mpr uploads⟩

end Exchange

/-- How an upload was cut short by a failure, with the given steps taken: a call failed, or the sync was
stopped, which may be in the midst of some verdicts. -/
structure CutShort (after : Exchange P (Recorded L)) (steps : List UploadStep) (error : SyncFailure) :
    Prop where
  heard : HeardAll steps after.link.events ∨ error = .cancelled ∧ ¬ after.Calm
  cause : after.Broken ∨ ¬ after.Calm

/-- How sending the items of some streams went, wherever it stopped: all of them were sent; or the
server was full or a step failed, after the first of them. -/
inductive Streamed (before after : Exchange P (Recorded L)) (origin : Station P)
    (base : List (String × Signature)) (items : List OutgoingItem) :
    Except SyncFailure (Option InFlight) → Prop
  | all {inFlight : InFlight} (underway : after.Underway origin base inFlight)
      (room : (after.ledger origin.terms base).full = false)
      (sent : after.sent = before.sent ++ items) :
      Streamed before after origin base items (.ok (some inFlight))
  | full {first : List OutgoingItem}
      (posts : after.Posts origin base (uploadSteps after.link.events))
      (full : (after.ledger origin.terms base).full = true)
      (sent : after.sent = before.sent ++ first) (part : first <+: items) :
      Streamed before after origin base items (.ok none)
  | cut {error : SyncFailure} {steps : List UploadStep} {first : List OutgoingItem}
      (posts : after.Posts origin base steps)
      (short : CutShort after steps error)
      (sent : after.sent = before.sent ++ first) (part : first <+: items) :
      Streamed before after origin base items (.error error)

namespace Streamed

variable {first second third : Exchange P (Recorded L)} {origin : Station P}
  {items more : List OutgoingItem} {outcome : Except SyncFailure (Option InFlight)}

theorem sent_first (streamed : Streamed first second origin base items outcome) :
    ∃ sent, second.sent = first.sent ++ sent ∧ sent <+: items := by
  cases streamed with
  | all _ _ sent => exact ⟨items, sent, List.prefix_refl items⟩
  | full _ _ sent part => exact ⟨_, sent, part⟩
  | cut _ _ sent part => exact ⟨_, sent, part⟩

theorem after_sent (sent : second.sent = first.sent ++ items)
    (streamed : Streamed second third origin base more outcome) :
    Streamed first third origin base (items ++ more) outcome := by
  cases streamed with
  | all underway room later => exact .all underway room (by rw [later, sent, List.append_assoc])
  | full posts full later part =>
    exact .full posts full (by rw [later, sent, List.append_assoc])
      ((List.prefix_append_right_inj items).mpr part)
  | cut posts short later part =>
    exact .cut posts short (by rw [later, sent, List.append_assoc])
      ((List.prefix_append_right_inj items).mpr part)

theorem same_sent (same : second.sent = first.sent)
    (streamed : Streamed second third origin base items outcome) :
    Streamed first third origin base items outcome := by
  have none_sent : second.sent = first.sent ++ [] := by rw [same, List.append_nil]
  exact streamed.after_sent none_sent

theorem before (streamed : Streamed first second origin base items outcome)
    (stopped : ∀ inFlight, outcome ≠ .ok (some inFlight)) (more : List OutgoingItem) :
    Streamed first second origin base (items ++ more) outcome := by
  cases streamed with
  | all => exact absurd rfl (stopped _)
  | full posts full sent part => exact .full posts full sent (part.trans (List.prefix_append _ _))
  | cut posts short sent part => exact .cut posts short sent (part.trans (List.prefix_append _ _))

end Streamed

namespace ExchangeM

variable {exchange : Exchange P (Recorded L)} {inFlight : InFlight} [ServerLink L]
  {origin : Station P} {provider : P} {found : Option ChangeSet} {stream : ItemStream}

theorem posts_sendOne (item : OutgoingItem) (underway : exchange.Underway origin base inFlight)
    (room : (exchange.ledger origin.terms base).full = false) :
    Ends (sendOne item inFlight) exchange fun outcome left =>
      Within [.cache, .report] exchange.station left.station ∧
        left.sent = exchange.sent ++ [item] ∧
        match outcome with
        | .ok inFlight => left.Underway origin base inFlight
        | .error error => ∃ steps, left.Posts origin base steps ∧ CutShort left steps error := by
  have posts := underway.posts
  refine (call_ends (records_send item)).bind ?_ ?_
  · rintro error left ⟨within, reply, replied, adds⟩
    have steps : (LinkEvent.sent item reply).steps = [.send item] := by
      rw [LinkEvent.steps, replied]
      rfl
    refine ⟨within.mono (by simp), by rw [Exchange.sent_add adds, steps]; rfl,
      uploadSteps exchange.link.events, ?_, .inl ⟨[item], ?_⟩, .inl (Exchange.broken_add adds ?_)⟩
    · exact posts.add adds rfl room (posts.posted.streamed (within.mono (by simp)))
        (List.prefix_append _ _)
    · rw [uploadSteps_add adds, steps]
      rfl
    · rw [LinkEvent.succeeded, replied]
      rfl
  · rintro verdicts left ⟨within, reply, replied, adds⟩
    have steps : (LinkEvent.sent item reply).steps = .send item :: verdicts.map .hear := by
      rw [LinkEvent.steps, replied]
      rfl
    have shifts : ∀ heard : List UploadStep, uploadSteps exchange.link.events ++ [.send item] ++ heard =
        uploadSteps exchange.link.events ++ .send item :: heard := by simp
    have called := posts.posted.streamed (within.mono (by simp))
    have flight : inFlight.send item = (Ledger.run origin.terms { entries := base }
        (uploadSteps exchange.link.events ++ [.send item])).inFlight := by
      rw [Ledger.run_concat, Ledger.inFlight_send, underway.flight]
      rfl
    have ran := SourceM.recordTransfer_eq .server .upload item.key left.station
    obtain ⟨more, transferred⟩ := called.transferred item
    generalize left.station.recorded .server .upload _ = station at ran more transferred
    have recorded : onStation (SourceM.recordTransfer .server .upload item.key) left =
        .ok () { left with station } := by
      rw [onStation, ran]
    rw [flight]
    refine .after_ok recorded ((posts_route verdicts transferred).mono ?_)
    rintro outcome last ⟨link, further, routed⟩
    have added : last.link.events = exchange.link.events ++ [.sent item reply] := by rw [link, adds]
    refine ⟨(within.mono (by simp)).trans (more.trans further), ?_, ?_⟩
    · rw [Exchange.sent_add added, steps]
      exact congrArg (exchange.sent ++ item :: ·) (sentItems_hear verdicts)
    · cases outcome with
      | ok inFlight =>
        obtain ⟨booked, rfl⟩ := routed
        rw [shifts, ← steps, ← uploadSteps_add added] at booked ⊢
        exact ⟨posts.add added rfl room booked (uploadSteps_add added ▸ List.prefix_refl _),
          rfl⟩
      | error error =>
        obtain ⟨cancelled, stopped, heard, first, booked⟩ := routed
        rw [shifts] at booked
        refine ⟨_, posts.add added rfl room booked ?_, .inr ⟨cancelled, stopped⟩, .inr stopped⟩
        rw [steps]
        exact (List.prefix_append_right_inj _).mpr ((List.prefix_cons_inj _).mpr first)

def PostsItems (operation : ExchangeM P (Recorded L) (Option InFlight))
    (exchange : Exchange P (Recorded L)) (origin : Station P) (base : List (String × Signature))
    (provider : P) (found : Option ChangeSet) (items : List OutgoingItem) : Prop :=
  Ends operation exchange fun outcome left =>
    Streamed exchange left origin base items outcome ∧
      (∀ inFlight, outcome = .ok (some inFlight) →
        left.station.source.provider = provider ∧ left.station.source.changes? = found)

theorem posts_sendFrom_none (bound : Nat) (underway : exchange.Underway origin base inFlight)
    (room : (exchange.ledger origin.terms base).full = false)
    (offers : exchange.station.Offers provider found stream []) :
    PostsItems (sendFrom stream bound none inFlight) exchange origin base provider found [] := by
  have ran : sendFrom stream bound none inFlight exchange = .ok (some inFlight) exchange := by
    cases bound <;> rfl
  exact .of_ok ran ⟨.all underway room (List.append_nil _).symm,
    fun _ _ => ⟨offers.provider, offers.found⟩⟩

theorem posts_sendFrom (bound : Nat) {item : Option OutgoingItem} {rest : List String}
    (underway : exchange.Underway origin base inFlight)
    (room : (exchange.ledger origin.terms base).full = false)
    (offers : exchange.station.Offers provider found stream rest)
    (ends : item = none → rest = []) (bounded : item ≠ none → rest.length < bound) :
    PostsItems (sendFrom stream bound item inFlight) exchange origin base provider found
      (item.toList ++ rest.filterMap (stream.item? provider)) := by
  induction bound generalizing exchange item rest inFlight with
  | zero =>
    cases item with
    | none =>
      obtain rfl := ends rfl
      exact posts_sendFrom_none 0 underway room offers
    | some item => exact absurd (bounded nofun) (Nat.not_lt_zero _)
  | succ bound ih =>
    cases item with
    | none =>
      obtain rfl := ends rfl
      exact posts_sendFrom_none _ underway room offers
    | some item =>
      rw [sendFrom_succ]
      refine (posts_sendOne item underway room).bind ?_ ?_
      · rintro error left ⟨within, sent, steps, posts, short⟩
        exact ⟨.cut posts short sent ⟨_, rfl⟩, nofun⟩
      · rintro inFlight left ⟨within, sent, underway⟩
        have offered := offers.within within (by simp) (by simp)
        have known := underway.posts.posted.full
        refine .after_ok (isServerFull_eq left) ?_
        cases full : left.station.source.report.isFull .server with
        | true =>
          rw [full] at known
          refine .after_ok (note_eq .uploadStopped left) (.of_ok rfl ⟨?_, nofun⟩)
          have noted : Exchange.Posts { left with station := left.station.noted .uploadStopped }
              origin base (uploadSteps left.link.events) :=
            underway.posts.streamed rfl ((left.station.within_noted _).mono (by simp))
          exact .full noted known.symm sent ⟨_, rfl⟩
        | false =>
          rw [full] at known
          have streams : Stays (P := P) [.streaming] (SourceM.next stream) :=
            SourceM.stays_next (by simp) stream
          have steps := (streams.ends (SourceM.gives_next stream underway.posts.posted.begun offered))
          refine (ends_onStation steps).bind ?_ ?_
          · rintro error last ⟨link, kept, stopped⟩
            have goes : last.sent = exchange.sent ++ [item] := by rw [Exchange.sent, link]; exact sent
            exact ⟨.cut (underway.posts.streamed link kept) ⟨.inl (link ▸ .refl _), .inr stopped⟩ goes
              ⟨_, rfl⟩, nofun⟩
          · rintro following last ⟨link, kept, further, offers, takes⟩
            have shorter : following ≠ none → further.length < bound := by
              intro some
              have taken := takes.shorter some
              have left := bounded nofun
              omega
            have room : (last.ledger origin.terms base).full = false := by
              rw [Exchange.ledger, link]
              exact known.symm
            refine (ih (underway.streamed link kept) room offers takes.ends shorter).mono ?_
            rintro result final ⟨streamed, same⟩
            have goes : last.sent = exchange.sent ++ [item] := by rw [Exchange.sent, link]; exact sent
            rw [takes.items]
            exact ⟨streamed.after_sent goes, same⟩

/-! ### Streams -/

/-- How a stream begins in an upload, wherever that stops: with the first item of its keys, or not at
all, and with the books as they were. -/
def Opening (exchange : Exchange P (Recorded L)) (origin : Station P)
    (base : List (String × Signature)) (inFlight : InFlight) (provider : P)
    (found : Option ChangeSet) (stream : ItemStream) (keys : List String) :
    Except SyncFailure (Option OutgoingItem) → Station P → Prop
  | .ok item, left => ∃ rest, left.Offers provider found stream rest ∧
      Exchange.Underway { exchange with station := left } origin base inFlight ∧
      Takes (stream.item? provider) keys item rest
  | .error _, left => ¬ left.Calm ∧
      Exchange.Posts { exchange with station := left } origin base (uploadSteps exchange.link.events)

theorem posts_sendStream {keys : List String}
    (room : (exchange.ledger origin.terms base).full = false)
    (opens : Ends (SourceM.first stream) exchange.station
      (Opening exchange origin base inFlight provider found stream keys)) :
    PostsItems (sendStream stream inFlight) exchange origin base provider found
      (keys.filterMap (stream.item? provider)) := by
  rw [sendStream_eq]
  refine (ends_onStation opens).bind ?_ ?_
  · rintro error ⟨left, link⟩ ⟨rfl, stopped, posts⟩
    exact ⟨.cut posts ⟨.inl (.refl _), .inr stopped⟩ (List.append_nil _).symm List.nil_prefix, nofun⟩
  · rintro item ⟨left, link⟩ ⟨rfl, rest, offers, underway, takes⟩
    have starts := posts_sendFrom (rest.length + 1) underway room offers takes.ends
      fun _ => Nat.lt_succ_self _
    rw [← offers.streams.remaining] at starts
    rw [takes.items]
    obtain ⟨streamed, same⟩ := starts
    exact ⟨streamed.same_sent (by rfl), same⟩

theorem posts_sendBuckets {changes : ChangeSet} (buckets : List ChangeBucket)
    (underway : exchange.Underway origin base inFlight)
    (room : (exchange.ledger origin.terms base).full = false)
    (finds : SourceM.Finds exchange.station changes) :
    Ends (sendStreams (buckets.map .bucket) inFlight) exchange fun outcome left =>
      Streamed exchange left origin base
        (ItemStream.bucketItems exchange.station.source.provider changes buckets) outcome := by
  induction buckets generalizing exchange inFlight with
  | nil => exact .of_ok rfl (.all underway room (List.append_nil _).symm)
  | cons bucket rest ih =>
    have stays : Stays (P := P) [.streaming] (SourceM.firstChange bucket) :=
      SourceM.stays_firstChange (by simp) bucket
    have opens : Ends (SourceM.firstChange bucket) exchange.station
        (Opening exchange origin base inFlight exchange.station.source.provider (some changes)
          (.bucket bucket) (bucket.keys changes)) := by
      refine (stays.ends
        (SourceM.gives_firstChange bucket underway.posts.posted.begun finds)).mono ?_
      rintro (error | item) left ⟨within, opened⟩
      · exact ⟨opened, underway.posts.streamed rfl within⟩
      · obtain ⟨rest, offers, takes⟩ := opened
        exact ⟨rest, offers, underway.streamed rfl within, takes⟩
    rw [List.map_cons, sendStreams_cons]
    refine Ends.bind (posts_sendStream room opens) ?_ ?_
    · rintro error left ⟨streamed, _⟩
      exact streamed.before nofun _
    · rintro result left ⟨streamed, same⟩
      cases result with
      | none => exact .of_ok rfl (streamed.before nofun _)
      | some flying =>
        obtain ⟨provider, found⟩ := same flying rfl
        cases streamed with
        | all underway room sent =>
          refine (ih underway room (.earlier found)).mono fun result last streamed => ?_
          rw [provider] at streamed
          exact streamed.after_sent sent

theorem posts_sendAll {cache : SignatureCache} {replies : List (Reply String)}
    (silent : exchange.link.events = [])
    (fresh : exchange.station.source.report =
      { Source.blankReport exchange.station.source.config with standing := .running })
    (idle : exchange.station.source.streaming = .idle)
    (cached : exchange.station.source.cache = .ok cache)
    (enumerated : (Provider.keys exchange.station.source.provider).value = .ok replies) :
    Ends (sendStreams [.full] {}) exchange fun outcome left => ∃ base,
      (left.Calm → base = []) ∧
        Streamed exchange left exchange.station base ((replies.map Reply.value).filterMap
          (ItemStream.full.item? exchange.station.source.provider)) outcome := by
  have stays : Stays (P := P) [.cache, .streaming] SourceM.startEnumeration :=
    SourceM.stays_startEnumeration (by simp) (by simp)
  have within := stays exchange.station
  have begun : exchange.station.source.report.standing ≠ .resting := by
    rw [fresh]
    exact nofun
  have gives := SourceM.gives_startEnumeration begun idle cached enumerated
  rw [sendStreams_cons]
  cases ran : SourceM.startEnumeration exchange.station with
  | error error left =>
    rw [leaves_of_error ran] at within
    rw [Gives, Ends, yields_of_error ran, leaves_of_error ran] at gives
    obtain ⟨live, held, -⟩ := (Unsaved.elementary.keeps_startEnumeration exchange.station).durable cached
    rw [leaves_of_error ran] at held
    have first : onStation (SourceM.first .full) exchange =
        .error error { exchange with station := left } := by
      rw [onStation, SourceM.first, ran]
    have underway : Exchange.Underway { exchange with station := left } exchange.station live.snapshot {} :=
      .begun silent fresh within held
    refine .of_error (bind_of_error (bind_of_error first _) _) ⟨live.snapshot, fun calm => absurd calm gives, ?_⟩
    exact .cut underway.posts ⟨.inl (.refl _), .inr gives⟩ (List.append_nil _).symm List.nil_prefix
  | ok item left =>
    rw [leaves_of_ok ran] at within
    rw [Gives, Ends, yields_of_ok ran, leaves_of_ok ran] at gives
    obtain ⟨rest, offers, cleared, takes⟩ := gives
    have underway : Exchange.Underway { exchange with station := left } exchange.station
        cache.clear.snapshot {} := .begun silent fresh within cleared
    rw [cache.snapshot_clear] at underway
    have opens : Ends (SourceM.first .full) exchange.station
        (Opening exchange exchange.station [] {} exchange.station.source.provider none .full
          (replies.map Reply.value)) := .of_ok ran ⟨rest, offers, underway, takes⟩
    have room : (exchange.ledger exchange.station.terms []).full = false := by
      rw [Exchange.ledger, silent]
      rfl
    refine Ends.bind (posts_sendStream room opens) ?_ ?_
    · rintro error left ⟨streamed, _⟩
      exact ⟨_, fun _ => rfl, streamed⟩
    · rintro result left ⟨streamed, _⟩
      cases result with
      | none => exact .of_ok rfl ⟨_, fun _ => rfl, streamed⟩
      | some inFlight => exact .of_ok rfl ⟨_, fun _ => rfl, streamed⟩

/-! ### The end of an upload -/

omit [Provider P] [ServerLink L] in
theorem closeUpload_eq (inFlight : InFlight) (exchange : Exchange P (Recorded L)) :
    ∃ left, closeUpload inFlight exchange = .ok () { exchange with station := left } ∧
      Within [] exchange.station left := by
  have notes : ∀ station : Station P, ∃ left,
      (unless inFlight.commands.isEmpty do onStation (SourceM.note .unanswered) :
        ExchangeM P (Recorded L) Unit) { exchange with station } =
          .ok () { exchange with station := left } ∧ Within [] station left := by
    intro station
    cases inFlight.commands.isEmpty
    · exact ⟨_, rfl, station.within_noted _⟩
    · exact ⟨station, rfl, .refl _⟩
  rw [closeUpload, bind_of_ok (isServerFull_eq _)]
  split
  · obtain ⟨left, ran, within⟩ := notes (exchange.station.noted .serverFull)
    exact ⟨left, (bind_of_ok (note_eq .serverFull exchange) _).trans ran,
      (exchange.station.within_noted _).trans within⟩
  · exact notes exchange.station

theorem posts_concludeUpload {left : Exchange P (Recorded L)} {items : List OutgoingItem}
    (underway : left.Underway origin base inFlight)
    (room : (left.ledger origin.terms base).full = false)
    (sent : left.sent = exchange.sent ++ items) :
    Ends (concludeUpload (some inFlight)) left fun outcome last =>
      ∃ result, result.map (fun _ => ()) = outcome ∧
        Streamed exchange last origin base items result := by
  have posts := underway.posts
  refine (call_ends records_conclude).bind ?_ ?_
  · rintro error last ⟨within, reply, replied, adds⟩
    have unsent : sentItems (LinkEvent.concluded reply).steps = [] := by
      rw [LinkEvent.steps, replied]
      rfl
    have silent : uploadSteps last.link.events = uploadSteps left.link.events := by
      rw [uploadSteps_add adds, LinkEvent.steps, replied]
      exact List.append_nil _
    have failed : (LinkEvent.concluded reply).succeeded = false := by
      rw [LinkEvent.succeeded, replied]
      rfl
    refine ⟨.error error, rfl, .cut (posts.add adds rfl room
      (posts.posted.streamed (within.mono (by simp))) (List.prefix_append _ _))
      ⟨.inl (silent ▸ .refl _), .inl (Exchange.broken_add adds failed)⟩ ?_ (List.prefix_refl items)⟩
    rw [Exchange.sent_add adds, unsent, List.append_nil, sent]
  · rintro verdicts last ⟨within, reply, replied, adds⟩
    have steps : (LinkEvent.concluded reply).steps = verdicts.map .hear := by
      rw [LinkEvent.steps, replied]
      rfl
    have called := posts.posted.streamed (within.mono (by simp))
    rw [underway.flight]
    refine (posts_route verdicts called).bind ?_ ?_
    all_goals
      rintro outcome final ⟨link, kept, routed⟩
      have added : final.link.events = left.link.events ++ [.concluded reply] := by rw [link, adds]
      have sent_all : final.sent = exchange.sent ++ items := by
        rw [Exchange.sent_add added, steps, sentItems_hear, List.append_nil, sent]
    · obtain ⟨cancelled, stopped, heard, first, booked⟩ := routed
      refine ⟨.error outcome, rfl, .cut (posts.add added rfl room booked ?_)
        ⟨.inr ⟨cancelled, stopped⟩, .inr stopped⟩ sent_all (List.prefix_refl items)⟩
      rw [steps]
      exact (List.prefix_append_right_inj _).mpr first
    · obtain ⟨booked, rfl⟩ := routed
      rw [← steps, ← uploadSteps_add added] at booked ⊢
      have done := posts.add added rfl room booked
        (uploadSteps_add added ▸ List.prefix_refl _)
      obtain ⟨closed, ran, notes⟩ := closeUpload_eq (Ledger.run origin.terms { entries := base }
        (uploadSteps final.link.events)).inFlight final
      have notified : Exchange.Posts { final with station := closed } origin base
          (uploadSteps final.link.events) := done.streamed rfl (notes.mono (by simp))
      cases full : (final.ledger origin.terms base).full with
      | true => exact .of_ok ran ⟨.ok none, rfl, .full notified full sent_all (List.prefix_refl items)⟩
      | false => exact .of_ok ran ⟨.ok (some _), rfl, .all ⟨notified, rfl⟩ full sent_all⟩

theorem posts_upload {mode : SyncMode} {items : List OutgoingItem}
    (streams : Ends (sendStreams (streamsOf mode) {}) exchange fun outcome left =>
      Streamed exchange left origin base items outcome) :
    Ends (upload mode) exchange fun outcome left => ∃ result,
      result.map (fun _ => ()) = outcome ∧ Streamed exchange left origin base items result := by
  rw [upload_eq]
  refine streams.bind ?_ ?_
  · exact fun error left streamed => ⟨.error error, rfl, streamed⟩
  · intro result left streamed
    cases result with
    | none => exact .of_ok rfl ⟨.ok none, rfl, streamed⟩
    | some inFlight =>
      cases streamed with
      | all underway room sent => exact posts_concludeUpload underway room sent

end ExchangeM

end Reconcile
