import Reconcile.Proofs.Source.Events
import Reconcile.Proofs.Source.Unsaved
import Reconcile.Provider.Hooked

/-!
Verdicts in a row. A verdict is decisive if it brings the cache up to date; of those for one key the
last one says what becomes of its entry, and the keys have nothing to do with each other.
-/

namespace Reconcile

variable {P : Type}

structure Ruling where
  command : Command
  verdict : Verdict
  deriving DecidableEq

namespace Ruling

def event (ruling : Ruling) : Event P := .act (.verdict ruling.command ruling.verdict)

def isAbout (key : String) (ruling : Ruling) : Bool := ruling.verdict.id == key

variable [Provider P] (rule : SuccessRule) (provider : P)

/-- A final success, of a deletion or of an item that can be signed. -/
def isDecisive (ruling : Ruling) : Bool :=
  !ruling.verdict.code.isChunkAck && rule.isSuccess ruling.verdict.code &&
    (ruling.command = .delete || (SourceM.readable provider ruling.verdict.id).isSome)

def entry (ruling : Ruling) : Option Signature :=
  if ruling.command = .delete then none else SourceM.readable provider ruling.verdict.id

def lastDecisive (rulings : List Ruling) : Option Ruling :=
  (rulings.filter (isDecisive rule provider)).getLast?

def entryAfter (key : String) (rulings : List Ruling) (original : Option Signature) :
    Option Signature :=
  match lastDecisive rule provider (rulings.filter (isAbout key)) with
  | none => original
  | some ruling => ruling.entry provider

variable {rule provider}

theorem lastDecisive_cons (ruling : Ruling) (rest : List Ruling) :
    lastDecisive rule provider (ruling :: rest) =
      (lastDecisive rule provider rest).or
        (if ruling.isDecisive rule provider then some ruling else none) := by
  rw [lastDecisive, lastDecisive, List.filter_cons]
  split
  · rw [List.getLast?_cons]
    cases (rest.filter (isDecisive rule provider)).getLast? <;> rfl
  · rw [Option.or_none]

theorem entryAfter_cons (key : String) (ruling : Ruling) (rest : List Ruling)
    (original : Option Signature) :
    entryAfter rule provider key (ruling :: rest) original =
      entryAfter rule provider key rest
        (if ruling.isAbout key && ruling.isDecisive rule provider then ruling.entry provider
        else original) := by
  rw [entryAfter, entryAfter, List.filter_cons]
  cases about : ruling.isAbout key with
  | false => rfl
  | true =>
    rw [if_pos rfl, lastDecisive_cons, Bool.true_and]
    cases lastDecisive rule provider (rest.filter (isAbout key)) with
    | some last => rfl
    | none =>
      cases ruling.isDecisive rule provider with
      | false => rfl
      | true => rfl

theorem lookup_answered (ruling : Ruling) (key : String) (entries : List (String × Signature)) :
    (SourceM.answered rule (SourceM.readable provider) ruling.command ruling.verdict entries).lookup
        key =
      if ruling.isAbout key && ruling.isDecisive rule provider then ruling.entry provider
      else entries.lookup key := by
  by_cases about : ruling.verdict.id = key
  · subst about
    rw [isAbout, beq_self_eq_true, Bool.true_and, SourceM.answered, isDecisive, entry]
    cases ruling.verdict.code.isChunkAck with
    | true => rfl
    | false =>
      cases rule.isSuccess ruling.verdict.code with
      | false => rfl
      | true =>
        by_cases deletion : ruling.command = .delete
        · simp [deletion, Entries.lookup_without]
        · cases signed : SourceM.readable provider ruling.verdict.id with
          | none => simp [deletion]
          | some signature => simp [deletion, Entries.lookup_place]
  · rw [Operation.lookup_answered about, isAbout, beq_false_of_ne about]
    rfl

/-! ### Over a row of verdicts -/

def runAll (rulings : List Ruling) (station : Station P) : Station P :=
  Event.runAll (rulings.map event) station

def Along (holds : Station P → Ruling → Prop) : List Ruling → Station P → Prop
  | [], _ => True
  | ruling :: rest, station => holds station ruling ∧ Along holds rest (ruling.event.after station)

def CalmAlong : List Ruling → Station P → Prop := Along fun station _ => station.Calm

def TakenAlong : List Ruling → Station P → Prop :=
  Along fun station ruling =>
    yields (SourceM.takeVerdict ruling.command ruling.verdict) station = .ok ()

variable {station : Station P}

theorem unsaved_runAll (rulings : List Ruling) (station : Station P) :
    Unsaved station (runAll rulings station) := by
  refine Event.keeps_runAll Unsaved.elementary.toOnward (fun event member => ?_) station
  obtain ⟨ruling, _, rfl⟩ := List.mem_map.mp member
  exact Event.keeps_after Unsaved.elementary rfl rfl

/-- Every verdict is taken while the flag is down, and of those for one key the last decisive one
tells its entry. -/
theorem entries_runAll {cache : SignatureCache} {rulings : List Ruling}
    (begun : station.source.report.standing ≠ .resting) (cached : station.source.cache = .ok cache)
    (calm : CalmAlong rulings station) :
    TakenAlong rulings station ∧ ∃ live, (runAll rulings station).source.cache = .ok live ∧
      ∀ key, live.snapshot.lookup key = entryAfter station.source.config.success
        station.source.provider key rulings (cache.snapshot.lookup key) := by
  induction rulings generalizing station cache with
  | nil => exact ⟨trivial, cache, cached, fun _ => rfl⟩
  | cons ruling rest ih =>
    obtain ⟨after, next, ran, held, entries, report, _⟩ :=
      SourceM.takeVerdict_ok ⟨calm.1, begun, cached⟩ ruling.command ruling.verdict
    have stays : Stays (P := P) [.cache, .report]
        (SourceM.takeVerdict ruling.command ruling.verdict) :=
      SourceM.stays_takeVerdict (by simp) (by simp) _ _
    have within := stays.within ran
    have left : ruling.event.after station = after := leaves_of_ok ran
    have calm_rest := calm.2
    rw [left] at calm_rest
    have goes : after.source.report.standing ≠ .resting := by
      rw [report]
      exact SourceReport.standing_answered begun _ _ _
    obtain ⟨taken, live, kept, tells⟩ := ih goes held calm_rest
    refine ⟨⟨yields_of_ok ran, left ▸ taken⟩, live, ?_, fun key => ?_⟩
    · show (runAll rest (ruling.event.after station)).source.cache = _
      rwa [left]
    · rw [tells, within.config, within.provider (by simp), entries, lookup_answered, entryAfter_cons]

end Ruling

/-- Verdicts act key by key, and the last decisive one of each key wins: without one, its entry is what
it was; after a deletion it has none; and otherwise it has the signature of the item. Every verdict is
taken, nothing is made durable, and all that counts is the order of the verdicts for one key. -/
theorem SourceM.last_decisive_wins [Provider P] {station : Station P} {cache : SignatureCache}
    {rulings : List Ruling} (begun : station.source.report.standing ≠ .resting)
    (cached : station.source.cache = .ok cache) (calm : Ruling.CalmAlong rulings station) :
    Ruling.TakenAlong rulings station ∧
    ∃ live, (Ruling.runAll rulings station).source.cache = .ok live ∧
      (∀ key, live.get? key = Ruling.entryAfter station.source.config.success
        station.source.provider key rulings (cache.get? key)) ∧
      (Ruling.runAll rulings station).host.disk = station.host.disk ∧
      (∀ disk, live.durable disk = cache.durable disk) ∧
      ∀ reordered : List Ruling,
        (∀ key, reordered.filter (Ruling.isAbout key) = rulings.filter (Ruling.isAbout key)) →
        Ruling.CalmAlong reordered station →
        ∃ other, (Ruling.runAll reordered station).source.cache = .ok other ∧
          ∀ key, other.get? key = live.get? key := by
  obtain ⟨taken, live, held, tells⟩ := Ruling.entries_runAll begun cached calm
  have unsaved := Ruling.unsaved_runAll rulings station
  obtain ⟨saved, same, durable⟩ := unsaved.durable cached
  cases same.symm.trans held
  refine ⟨taken, live, held, fun key => ?_, unsaved.disk, durable, fun reordered sorted calmly => ?_⟩
  · rw [live.get?_eq_lookup, cache.get?_eq_lookup, tells]
  · obtain ⟨-, other, kept, stands⟩ := Ruling.entries_runAll begun cached calmly
    refine ⟨other, kept, fun key => ?_⟩
    rw [other.get?_eq_lookup, live.get?_eq_lookup, stands, tells, Ruling.entryAfter, sorted,
      ← Ruling.entryAfter]

/-! ### A row of verdicts -/

namespace SourceM

def half : HookedProvider where
  items := .ofList [("a", []), ("b", [])]
  hooks := { failures := [((.content, "b"), .failed "locked")] }

def halfCache : SignatureCache :=
  { backing := .memory (.ofList [("b", "7"), ("c", "8"), ("d", "9")]) }

def judged : Station HookedProvider :=
  leaves (start .twoWay) (Source.make { name := "contact" } half (.ok halfCache) {})

/-- Successes after failures and deletions, an unreadable item, and a part of an item. -/
def judgements : List Ruling :=
  [⟨.delete, { id := "a", code := 200 }⟩, ⟨.add, { id := "a", code := 500 }⟩,
    ⟨.replace, { id := "b", code := 200 }⟩, ⟨.add, { id := "a", code := 201 }⟩,
    ⟨.replace, { id := "c", code := 404 }⟩, ⟨.delete, { id := "c", code := 213 }⟩,
    ⟨.delete, { id := "d", code := 200 }⟩]

theorem calmAlong_judgements : Ruling.CalmAlong judgements judged := by
  refine ⟨?_, ?_, ?_, ?_, ?_, ?_, ?_, trivial⟩ <;> decide +kernel

theorem last_decisive_wins_judged :
    ∃ live, (Ruling.runAll judgements judged).source.cache = .ok live ∧
      live.get? "a" = some ⟨"0"⟩ ∧ live.get? "b" = some ⟨"7"⟩ ∧ live.get? "c" = some ⟨"8"⟩ ∧
      live.get? "d" = none ∧ ∀ disk, live.durable disk = halfCache.durable disk := by
  obtain ⟨-, live, held, tells, -, durable, -⟩ :=
    @last_decisive_wins _ _ judged halfCache _ (by decide +kernel) rfl calmAlong_judgements
  exact ⟨live, held, (tells "a").trans (by decide +kernel), (tells "b").trans (by decide +kernel),
    (tells "c").trans (by decide +kernel), (tells "d").trans (by decide +kernel), durable⟩

end SourceM

end Reconcile
