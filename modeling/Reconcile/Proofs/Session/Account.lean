import Reconcile.Proofs.Session.Opened

/-!
The account of an exchange, whatever the link replies and wherever the exchange stops: some of the
steps of its upload and some of the changes of the server were taken, the first ones each, and all of
them unless it was cancelled.
-/

namespace Reconcile

variable {P L : Type} [Provider P] {entries base : List (String × Signature)}

/-! ### Calls after an upload -/

theorem LinkEvent.steps_of_silent {event : LinkEvent} (silent : event.posts = false) :
    event.steps = [] := by
  cases event with
  | sent => cases silent
  | concluded => cases silent
  | fetched => rfl
  | answered => rfl

theorem uploadSteps_silent {events more : List LinkEvent} (silent : ∀ event ∈ more, event.posts = false) :
    uploadSteps (events ++ more) = uploadSteps events := by
  have none : uploadSteps more = [] :=
    List.flatMap_eq_nil_iff.mpr fun event member => LinkEvent.steps_of_silent (silent event member)
  rw [uploadSteps, List.flatMap_append, ← uploadSteps, ← uploadSteps, none, List.append_nil]

theorem Timely.append_silent {terms : Terms} {events more : List LinkEvent}
    (timely : Timely terms base events) (silent : ∀ event ∈ more, event.posts = false) :
    Timely terms base (events ++ more) := by
  induction more generalizing events with
  | nil => rwa [List.append_nil]
  | cons event rest ih =>
    have added : Timely terms base (events ++ [event]) := timely.add fun posts => by
      rw [silent event List.mem_cons_self] at posts
      cases posts
    have rest := ih added fun other member => silent other (List.mem_cons_of_mem _ member)
    rwa [List.append_assoc, List.singleton_append] at rest

theorem fetchedChanges_append (events more : List LinkEvent) :
    fetchedChanges (events ++ more) = fetchedChanges events ++ fetchedChanges more :=
  List.flatMap_append

/-! ### Downloads -/

section Within

variable {first second third : Station P} {changes : List ServerChange}

theorem Written.after_within (within : Within [] first second)
    (written : Written changes second third entries) : Written changes first third entries := by
  obtain ⟨provider, caches, report⟩ := written
  have provides := within.provider List.not_mem_nil
  rw [provides] at provider caches report
  rw [within.config, within.report List.not_mem_nil] at report
  exact ⟨provider, caches, report⟩

theorem Written.then_within (written : Written changes first second entries)
    (within : Within [] second third) : Written changes first third entries := by
  obtain ⟨provider, ⟨begun, cached⟩, report⟩ := written
  refine ⟨(within.provider List.not_mem_nil).trans provider, ⟨?_, ?_⟩,
    (within.report List.not_mem_nil).trans report⟩
  · rwa [within.report List.not_mem_nil]
  · rwa [within.cache List.not_mem_nil]

end Within

namespace ExchangeM

variable [ServerLink L] {exchange : Exchange P (Recorded L)}

theorem takes_download (caches : exchange.station.Caches entries) :
    Ends download exchange fun outcome left => ∃ more taken,
      left.link.events = exchange.link.events ++ more ∧ (∀ event ∈ more, event.posts = false) ∧
        taken <+: fetchedChanges more ∧ Written taken exchange.station left.station entries ∧
        (outcome ≠ .error .cancelled → taken = fetchedChanges more) := by
  refine (call_ends records_fetch).bind ?_ ?_
  · rintro error left ⟨within, reply, replied, adds⟩
    have nothing : fetchedChanges [.fetched reply] = [] := by
      rw [fetchedChanges, List.flatMap_singleton, LinkEvent.changes, replied]
      rfl
    refine ⟨_, [], adds, ?_, List.nil_prefix, caches.unwritten.then_within within,
      fun _ => nothing.symm⟩
    intro event member
    rw [List.mem_singleton.mp member, LinkEvent.posts]
  · rintro changes left ⟨within, reply, replied, adds⟩
    have fetched : (LinkEvent.fetched reply).changes = changes := by
      rw [LinkEvent.changes, replied]
      rfl
    have held : left.station.Caches entries := (caches.unwritten.then_within within).caches
    refine (ends_onStation (ends_applyChanges held changes)).bind ?_ ?_
    · rintro error last ⟨link, taken, early, written, rfl, -⟩
      refine ⟨[.fetched reply], taken, by rw [link, adds], ?_, ?_, written.after_within within,
        absurd rfl⟩
      · intro event member
        rw [List.mem_singleton.mp member, LinkEvent.posts]
      · rw [fetchedChanges, List.flatMap_singleton, fetched]
        exact early
    · rintro verdicts last ⟨link, taken, -, written, rfl, -⟩
      refine (call_ends (records_answer verdicts)).mono ?_
      rintro outcome final ⟨kept, answer, answered, more⟩
      have all : fetchedChanges [.fetched reply, .answered verdicts answer] = taken := by
        rw [fetchedChanges, List.flatMap_cons, fetched]
        exact List.append_nil _
      refine ⟨[.fetched reply, .answered verdicts answer], taken, ?_, ?_, ?_,
        (written.after_within within).then_within kept, fun _ => all.symm⟩
      · rw [more, link, adds, List.append_assoc]
        rfl
      · intro event member
        rcases List.mem_cons.mp member with rfl | last
        · rfl
        · rw [List.mem_singleton.mp last, LinkEvent.posts]
      · exact all ▸ List.prefix_refl _

end ExchangeM

/-! ### Exchanges -/

/-- The given steps of an upload and the given changes of the server are the first of those that the
calls of a sync brought, and all of them unless it was cancelled. -/
structure TakesIn (events : List LinkEvent) (outcome : Except SyncFailure Unit)
    (steps : List UploadStep) (taken : List ServerChange) : Prop where
  early : steps <+: uploadSteps events
  first : taken <+: fetchedChanges events
  whole : outcome ≠ .error .cancelled → HeardAll steps events ∧ taken = fetchedChanges events
  uploaded : (∃ event ∈ events, event.posts = false) → steps = uploadSteps events

/-- The account of an exchange that was to send the given items: which steps of its upload and which
changes of the server were taken. -/
structure Account (before after : Exchange P (Recorded L)) (items : List OutgoingItem)
    (outcome : Except SyncFailure Unit) (base : List (String × Signature))
    (steps : List UploadStep) (taken : List ServerChange) : Prop where
  timely : Timely before.station.terms base after.link.events
  sent : after.sent <+: items
  takes : TakesIn after.link.events outcome steps taken
  course : ∃ between, between.Posted before.station base steps ∧ Written taken between after.station
    (Ledger.run before.station.terms { entries := base } steps).entries

theorem Account.of_posts {before after : Exchange P (Recorded L)} {items : List OutgoingItem}
    {outcome : Except SyncFailure Unit} {steps : List UploadStep}
    (posts : after.Posts before.station base steps) (sent : after.sent <+: items)
    (whole : outcome ≠ .error .cancelled → HeardAll steps after.link.events) :
    Account before after items outcome base steps [] where
  timely := posts.timely
  sent := sent
  takes := by
    refine ⟨posts.early, List.nil_prefix, fun goes => ⟨whole goes, posts.unfetched.symm⟩, ?_⟩
    rintro ⟨event, member, ends⟩
    rw [posts.uploads event member] at ends
    cases ends
  course := ⟨after.station, posts.posted, posts.posted.caches.unwritten⟩

namespace ExchangeM

variable [ServerLink L] {exchange : Exchange P (Recorded L)} {mode : SyncMode}
  {items : List OutgoingItem}

theorem account_afterUpload {between : Exchange P (Recorded L)}
    (posts : between.Posts exchange.station base (uploadSteps between.link.events))
    (sent : between.sent <+: items) :
    Ends (if mode.receives then download else pure ()) between fun outcome left =>
      ∃ taken, Account exchange left items outcome base (uploadSteps between.link.events) taken := by
  split
  · refine (takes_download posts.posted.caches).mono ?_
    rintro outcome left ⟨more, taken, adds, silent, early, written, whole⟩
    have steps : uploadSteps left.link.events = uploadSteps between.link.events := by
      rw [adds, uploadSteps_silent silent]
    have fetched : fetchedChanges left.link.events = fetchedChanges more := by
      rw [adds, fetchedChanges_append, ← Exchange.fetched, posts.unfetched, List.nil_append]
    have sent_first : left.sent <+: items := by
      rw [Exchange.sent, steps]
      exact sent
    refine ⟨taken, adds ▸ posts.timely.append_silent silent, sent_first, ?_,
      between.station, posts.posted, written⟩
    exact ⟨steps ▸ List.prefix_refl _, fetched ▸ early,
      fun goes => ⟨steps ▸ .refl left.link.events, fetched ▸ whole goes⟩, fun _ => steps.symm⟩
  · exact .of_ok rfl ⟨[], .of_posts posts sent fun _ => .refl _⟩

theorem account_exchange (blank : exchange.link.events = []) (sends : mode.sends = true)
    (streams : Ends (sendStreams (streamsOf mode) {}) exchange fun outcome left =>
      Streamed exchange left exchange.station base items outcome) :
    Ends (ExchangeM.exchange mode) exchange fun outcome left =>
      ∃ steps taken, Account exchange left items outcome base steps taken := by
  have unsent : exchange.sent = [] := by
    rw [Exchange.sent, blank]
    rfl
  have sends_first : ∀ {base result} {left : Exchange P (Recorded L)},
      Streamed exchange left exchange.station base items result → left.sent <+: items := by
    intro base result left streamed
    obtain ⟨first, sent, part⟩ := streamed.sent_first
    rwa [sent, unsent, List.nil_append]
  rw [exchange_eq sends]
  refine (posts_upload streams).bind ?_ ?_
  · rintro error left ⟨result, same, streamed⟩
    have sent := sends_first streamed
    cases streamed with
    | all => cases same
    | full => cases same
    | @cut error steps _ posts short =>
      obtain rfl := Except.error.inj same
      refine ⟨steps, [], .of_posts posts sent fun goes => short.heard.resolve_right ?_⟩
      exact fun stopped => goes (congrArg _ stopped.1)
  · rintro _ between ⟨result, same, streamed⟩
    have posts : between.Posts exchange.station base (uploadSteps between.link.events) := by
      cases streamed with
      | all underway => exact underway.posts
      | full posts => exact posts
      | cut => cases same
    refine (account_afterUpload posts (sends_first streamed)).mono ?_
    rintro outcome left ⟨taken, account⟩
    exact ⟨_, taken, account⟩

end ExchangeM

/-! ### Syncs -/

namespace Session

variable [ServerLink L] {session : Session} {mode : Option SyncMode} {exchange : Exchange P L}
  {opened : Station P} {cache : SignatureCache}

namespace Opens

omit [ServerLink L] in
theorem begun (opens : Opens session mode exchange opened) :
    opened.source.report.standing ≠ .resting := by
  rw [opens.report]
  exact nofun

omit [ServerLink L] in
theorem underway (opens : Opens session mode exchange opened)
    (cached : opened.source.cache = .ok cache) :
    (beginning exchange opened).Underway opened cache.snapshot {} :=
  .begun rfl (by rw [opens.report, opens.config]) (.refl _) cached

theorem streams_incremental (opens : Opens session mode exchange opened)
    (partly : (exchange.station.source.modeFor mode).sendsAll = false)
    (cached : opened.source.cache = .ok cache) {replies : List (Reply String)}
    (enumerated : (Provider.keys opened.source.provider).value = .ok replies) :
    Ends (ExchangeM.sendStreams (ExchangeM.streamsOf (exchange.station.source.modeFor mode)) {})
      (beginning exchange opened) fun outcome left =>
        Streamed (beginning exchange opened) left opened cache.snapshot
          (ItemStream.bucketItems opened.source.provider
            (ChangeScan.partition (SourceM.scanAnswers opened.source.provider) replies cache.snapshot)
            ChangeBucket.all) outcome := by
  have streams : ExchangeM.streamsOf (exchange.station.source.modeFor mode) =
      ChangeBucket.all.map .bucket := by
    rw [ExchangeM.streamsOf, partly]
    rfl
  rw [streams]
  exact ExchangeM.posts_sendBuckets ChangeBucket.all (opens.underway cached) rfl
    (.now opens.idle cached enumerated rfl)

theorem account_incremental (opens : Opens session mode exchange opened)
    (sends : (exchange.station.source.modeFor mode).sends = true)
    (partly : (exchange.station.source.modeFor mode).sendsAll = false)
    (cached : opened.source.cache = .ok cache) {replies : List (Reply String)}
    (enumerated : (Provider.keys opened.source.provider).value = .ok replies) :
    Ends (ExchangeM.exchange (exchange.station.source.modeFor mode)) (beginning exchange opened)
      fun outcome left => ∃ steps taken, Account (beginning exchange opened) left
        (ItemStream.bucketItems opened.source.provider
          (ChangeScan.partition (SourceM.scanAnswers opened.source.provider) replies cache.snapshot)
          ChangeBucket.all) outcome cache.snapshot steps taken :=
  ExchangeM.account_exchange rfl sends (opens.streams_incremental partly cached enumerated)

/-- The streams of an upload have their course, whatever they are. Where the keys of a full enumeration
are distinct, so are those of the items. -/
theorem streams (opens : Opens session mode exchange opened)
    (cached : opened.source.cache = .ok cache) {replies : List (Reply String)}
    (enumerated : (Provider.keys opened.source.provider).value = .ok replies) :
    ∃ items base, (((exchange.station.source.modeFor mode).sendsAll = true →
        (replies.map Reply.value).Nodup) → (items.map OutgoingItem.key).Nodup) ∧
      Ends (ExchangeM.sendStreams (ExchangeM.streamsOf (exchange.station.source.modeFor mode)) {})
        (beginning exchange opened) fun outcome left =>
          Streamed (beginning exchange opened) left opened base items outcome := by
  cases everything : (exchange.station.source.modeFor mode).sendsAll with
  | false =>
    refine ⟨_, _, fun _ => ?_, opens.streams_incremental everything cached enumerated⟩
    exact (ItemStream.nodup_buckets cache.nodup_snapshot).sublist
      (ItemStream.keys_bucketItems_sublist ChangeBucket.all)
  | true =>
    have streams : ExchangeM.streamsOf (exchange.station.source.modeFor mode) = [.full] := by
      rw [ExchangeM.streamsOf, everything]
      rfl
    have fresh : opened.source.report =
        { Source.blankReport opened.source.config with standing := .running } := by
      rw [opens.report, opens.config]
    have sent : Ends (ExchangeM.sendStreams [.full] {}) (beginning exchange opened) _ :=
      ExchangeM.posts_sendAll rfl fresh opens.idle cached enumerated
    obtain ⟨base, -, streamed⟩ := sent
    rw [streams]
    refine ⟨_, base, fun distinct => ?_, streamed⟩
    exact (distinct rfl).sublist (ItemStream.keys_filterMap_sublist .full _)

theorem account (opens : Opens session mode exchange opened) :
    ∃ items base steps taken, Account (beginning exchange opened)
      (exchanged (exchange.station.source.modeFor mode) exchange opened) items
      (yields (ExchangeM.exchange (exchange.station.source.modeFor mode)) (beginning exchange opened))
      base steps taken := by
  obtain ⟨cache, cached⟩ := opens.cached
  have underway := opens.underway cached
  have whole : ∃ items base, Ends (ExchangeM.exchange (exchange.station.source.modeFor mode))
      (beginning exchange opened) fun outcome left => ∃ steps taken,
        Account (beginning exchange opened) left items outcome base steps taken := by
    cases sends : (exchange.station.source.modeFor mode).sends with
    | false =>
      rw [ExchangeM.exchange_of_silent sends]
      have unsent : (beginning exchange opened).sent <+: [] := List.prefix_refl []
      exact ⟨[], cache.snapshot, (ExchangeM.account_afterUpload underway.posts unsent).mono
        fun outcome left ⟨taken, account⟩ => ⟨_, taken, account⟩⟩
    | true =>
      cases listed : (Provider.keys opened.source.provider).value with
      | error refusal =>
        have begun : (beginning exchange opened).station.source.report.standing ≠ .resting := opens.begun
        obtain ⟨left, failed, within⟩ :=
          ExchangeM.exchange_unlisted begun opens.idle cached sends listed
        refine ⟨[], cache.snapshot, .of_error failed ⟨[], [], ?_⟩⟩
        exact .of_posts (underway.posts.streamed rfl within) (List.prefix_refl []) fun _ => .refl _
      | ok replies =>
        obtain ⟨items, base, -, sent⟩ := opens.streams cached listed
        exact ⟨items, base, ExchangeM.account_exchange rfl sends sent⟩
  obtain ⟨items, base, steps, taken, account⟩ := whole
  exact ⟨items, base, steps, taken, account⟩

end Opens

end Session

end Reconcile
