import Reconcile.Proofs.Entries
import Reconcile.Proofs.Provider.Memory

/-!
Made up keys through the history of a provider. The search for a free key tries one number after the
other and ends, since the items cannot take more numbers than there are of them. The counter goes up
with every number that is tried and is never set back; so a key is made up once only, whatever its
owner puts in and takes out in between.
-/

namespace Reconcile.MemoryProvider

/-! ### The search for a free key -/

/-- A search from a number on. It tries the key of one number after the other, until it comes upon
a free one. -/
inductive Search (provider : MemoryProvider) : (first attempts found : Nat) → Prop
  | free {first : Nat} (free : provider.get? (localKey first) = none) :
      Search provider first 1 first
  | taken {first attempts found : Nat} (taken : (provider.get? (localKey first)).isSome)
      (later : Search provider (first + 1) attempts found) : Search provider first (attempts + 1) found

theorem Search.found_eq {provider : MemoryProvider} {first attempts found : Nat}
    (search : provider.Search first attempts found) : found + 1 = first + attempts := by
  induction search with
  | free => rfl
  | taken _ _ ih => omega

theorem Search.first_le {provider : MemoryProvider} {first attempts found : Nat}
    (search : provider.Search first attempts found) : first ≤ found := by
  induction search with
  | free => exact Nat.le_refl _
  | taken _ _ ih => omega

theorem search_firstFree {provider : MemoryProvider} (bound first : Nat)
    (free : provider.get? (localKey (provider.firstFree bound first)) = none) :
    ∃ attempts ≤ bound + 1, provider.Search first attempts (provider.firstFree bound first) := by
  induction bound generalizing first with
  | zero => exact ⟨1, Nat.le_refl 1, .free free⟩
  | succ bound ih =>
    rw [firstFree] at free ⊢
    split at free
    · rename_i taken
      obtain ⟨attempts, few, later⟩ := ih (first + 1) free
      rw [if_pos taken]
      exact ⟨attempts + 1, by omega, .taken taken later⟩
    · rename_i ended
      rw [if_neg ended]
      exact ⟨1, by omega, .free free⟩

theorem search_nextId (provider : MemoryProvider) :
    provider.Search (provider.lastId + 1) (provider.nextId - provider.lastId) provider.nextId ∧
      provider.nextId - provider.lastId ≤ provider.items.length + 1 := by
  obtain ⟨attempts, few, search⟩ :=
    search_firstFree provider.items.length (provider.lastId + 1) provider.get?_nextId
  have ends : provider.nextId + 1 = provider.lastId + 1 + attempts := search.found_eq
  obtain rfl : attempts = provider.nextId - provider.lastId := by omega
  exact ⟨search, few⟩

theorem lastId_lt_nextId (provider : MemoryProvider) : provider.lastId < provider.nextId :=
  provider.search_nextId.1.first_le

/-! ### Calls that change a provider -/

inductive Edit where
  | put (key : String) (content : Bytes)
  | remove (key : String)
  | insert (content : Bytes)
  | update (key : String) (content : Bytes)
  | delete (key : String)
  | deleteAll
  | hide (key : String)
  | veto (key : String)
  | setFull (full : Bool)
  deriving DecidableEq, Inhabited

namespace Edit

def apply (provider : MemoryProvider) : Edit → MemoryProvider
  | put key content => provider.put key content
  | remove key => (provider.remove key).2
  | insert content => (provider.insert content).2
  | update key content => (provider.update key content).2
  | delete key => (provider.delete key).2
  | deleteAll => provider.deleteAll
  | hide key => provider.hide key
  | veto key => provider.veto key
  | setFull full => { provider with full }

def made? (provider : MemoryProvider) : Edit → Option String
  | insert content => (provider.insert content).1.toOption
  | _ => none

def attempts (provider : MemoryProvider) : Edit → Nat
  | insert _ => if provider.full then 0 else provider.nextId - provider.lastId
  | _ => 0

def touches (provider : MemoryProvider) (key : String) : Edit → Bool
  | put other _ => key == other
  | remove other => key == other
  | insert content => (insert content).made? provider == some key
  | update other _ => key == other
  | delete other => key == other
  | deleteAll => true
  | hide _ => false
  | veto _ => false
  | setFull _ => false

def removes : Edit → Bool
  | remove _ => true
  | delete _ => true
  | deleteAll => true
  | _ => false

end Edit

variable {provider : MemoryProvider}

theorem insert_of_full (full : provider.full = true) (content : Bytes) :
    provider.insert content = (.error .deviceFull, provider) := by
  rw [insert, if_pos full]

theorem insert_of_room (room : provider.full = false) (content : Bytes) :
    provider.insert content =
      (.ok (localKey provider.nextId),
        { provider with
          items := provider.items ++ [(localKey provider.nextId, content)]
          lastId := provider.nextId }) := by
  rw [insert, room, if_neg Bool.false_ne_true]

theorem not_mem_nextId (provider : MemoryProvider) :
    localKey provider.nextId ∉ provider.items.map Prod.fst := by
  rw [← Entries.isSome_lookup, Option.not_isSome_iff_eq_none]
  exact provider.get?_nextId

/-- A call made it up: a key is the next free one, and the counter stands at its number then. -/
theorem made_up {edit : Edit} {key : String} (made : edit.made? provider = some key) :
    key = localKey (edit.apply provider).lastId ∧ provider.lastId < (edit.apply provider).lastId := by
  cases edit with
  | insert content =>
    cases room : provider.full with
    | true =>
      rw [Edit.made?, insert_of_full room] at made
      cases made
    | false =>
      rw [Edit.made?, insert_of_room room] at made
      rw [Edit.apply, insert_of_room room]
      exact ⟨(Option.some.inj made).symm, provider.lastId_lt_nextId⟩
  | _ => cases made

theorem lastId_apply (provider : MemoryProvider) (edit : Edit) :
    (edit.apply provider).lastId = provider.lastId + edit.attempts provider := by
  cases edit with
  | insert content =>
    have later := provider.lastId_lt_nextId
    cases room : provider.full with
    | true =>
      rw [Edit.apply, Edit.attempts, insert_of_full room, if_pos room]
      rfl
    | false =>
      rw [Edit.apply, Edit.attempts, insert_of_room room, room, if_neg Bool.false_ne_true]
      show provider.nextId = _
      omega
  | update key content =>
    show (provider.update key content).2.lastId = provider.lastId
    unfold update
    split
    · rfl
    · split <;> rfl
  | _ => rfl

/-! ### What a call keeps -/

theorem items_update (provider : MemoryProvider) (key : String) (content : Bytes) :
    (provider.update key content).2.items = provider.items ∨
      (provider.update key content).2.items = Entries.place key content provider.items := by
  unfold update
  split
  · exact .inl rfl
  · split
    · exact .inr rfl
    · exact .inl rfl

theorem nodup_apply (distinct : (provider.items.map Prod.fst).Nodup) (edit : Edit) :
    ((edit.apply provider).items.map Prod.fst).Nodup := by
  cases edit with
  | put key content => exact Entries.nodup_place distinct key content
  | remove key => exact Entries.nodup_without distinct key
  | insert content =>
    cases room : provider.full with
    | true =>
      rw [Edit.apply, insert_of_full room]
      exact distinct
    | false =>
      rw [Edit.apply, insert_of_room room, List.map_append, List.map_singleton,
        ← List.concat_eq_append]
      exact List.Nodup.concat provider.not_mem_nextId distinct
  | update key content =>
    show ((provider.update key content).2.items.map Prod.fst).Nodup
    rcases provider.items_update key content with same | placed
    · rwa [same]
    · rw [placed]
      exact Entries.nodup_place distinct key content
  | delete key => exact Entries.nodup_without distinct key
  | deleteAll => exact List.nodup_nil
  | hide | veto | setFull => exact distinct

/-- What a call owes to the items that it is not about: they have the same content and stand in the
same order; and where no item is taken out, they stand in the same places. -/
structure Spares (provider : MemoryProvider) (edit : Edit) : Prop where
  order : ((edit.apply provider).items.filter fun item => !edit.touches provider item.1) =
    provider.items.filter fun item => !edit.touches provider item.1
  places : edit.removes = false → ∀ (spot : Nat) (item : String × Bytes),
    provider.items[spot]? = some item → edit.touches provider item.1 = false →
      (edit.apply provider).items[spot]? = some item

theorem spares_of_same {edit : Edit} (same : (edit.apply provider).items = provider.items) :
    provider.Spares edit where
  order := by rw [same]
  places _ spot item there _ := by rw [same, there]

theorem spares_of_place {edit : Edit} {key : String} {content : Bytes}
    (about : ∀ other, edit.touches provider other = (other == key))
    (placed : (edit.apply provider).items = Entries.place key content provider.items) :
    provider.Spares edit where
  order := by
    simp only [about, placed]
    exact Entries.filter_place (fun other => !(other == key)) (by simp) content provider.items
  places _ spot item there other := by
    rw [about, beq_eq_false_iff_ne] at other
    rw [placed]
    exact Entries.getElem?_place there other content

theorem spares_of_without {edit : Edit} {key : String} (removes : edit.removes = true)
    (about : ∀ other, edit.touches provider other = (other == key))
    (left : (edit.apply provider).items = Entries.without key provider.items) :
    provider.Spares edit where
  order := by
    simp only [about, left, Entries.without, List.filter_filter]
    refine List.filter_congr fun item _ => ?_
    rw [← bne, Bool.and_self]
  places kept := by
    rw [removes] at kept
    cases kept

theorem spares (provider : MemoryProvider) (edit : Edit) : provider.Spares edit := by
  cases edit with
  | put key content => exact spares_of_place (fun _ => rfl) rfl
  | remove key => exact spares_of_without rfl (fun _ => rfl) rfl
  | insert content =>
    cases room : provider.full with
    | true =>
      refine spares_of_same ?_
      rw [Edit.apply, insert_of_full room]
    | false =>
      have added : ((Edit.insert content).apply provider).items =
          provider.items ++ [(localKey provider.nextId, content)] := by
        rw [Edit.apply, insert_of_room room]
      have about : (Edit.insert content).touches provider (localKey provider.nextId) = true := by
        rw [Edit.touches, Edit.made?, insert_of_room room]
        exact beq_self_eq_true _
      refine ⟨?_, fun _ spot item there _ => ?_⟩
      · rw [added, List.filter_append]
        simp [about]
      · have within : spot < provider.items.length := (List.getElem?_eq_some_iff.mp there).1
        rw [added, List.getElem?_append_left within, there]
  | update key content =>
    rcases provider.items_update key content with same | placed
    · exact spares_of_same same
    · exact spares_of_place (fun _ => rfl) placed
  | delete key => exact spares_of_without rfl (fun _ => rfl) rfl
  | deleteAll => exact ⟨by simp [Edit.touches], fun kept => nomatch kept⟩
  | hide | veto | setFull => exact spares_of_same rfl

/-! ### Histories -/

def applyAll (provider : MemoryProvider) (edits : List Edit) : MemoryProvider :=
  edits.foldl Edit.apply provider

def madeKeys : MemoryProvider → List Edit → List String
  | _, [] => []
  | provider, edit :: rest => (edit.made? provider).toList ++ madeKeys (edit.apply provider) rest

def attemptsIn : MemoryProvider → List Edit → Nat
  | _, [] => 0
  | provider, edit :: rest => edit.attempts provider + attemptsIn (edit.apply provider) rest

theorem nodup_applyAll (distinct : (provider.items.map Prod.fst).Nodup) (edits : List Edit) :
    ((provider.applyAll edits).items.map Prod.fst).Nodup := by
  induction edits generalizing provider with
  | nil => exact distinct
  | cons edit rest ih => exact ih (nodup_apply distinct edit)

theorem lastId_applyAll (provider : MemoryProvider) (edits : List Edit) :
    (provider.applyAll edits).lastId = provider.lastId + provider.attemptsIn edits := by
  induction edits generalizing provider with
  | nil => rfl
  | cons edit rest ih =>
    show ((edit.apply provider).applyAll rest).lastId = _
    rw [ih, lastId_apply, attemptsIn, Nat.add_assoc]

theorem lastId_le_apply (provider : MemoryProvider) (edit : Edit) :
    provider.lastId ≤ (edit.apply provider).lastId := by
  rw [lastId_apply]
  exact Nat.le_add_right _ _

theorem numbered_of_made {key : String} {edits : List Edit} (made : key ∈ provider.madeKeys edits) :
    ∃ id, provider.lastId < id ∧ key = localKey id := by
  induction edits generalizing provider with
  | nil => cases made
  | cons edit rest ih =>
    rcases List.mem_append.mp made with now | later
    · obtain ⟨named, above⟩ := made_up (Option.mem_toList.mp now)
      exact ⟨_, above, named⟩
    · obtain ⟨id, above, named⟩ := ih later
      exact ⟨id, Nat.lt_of_le_of_lt (provider.lastId_le_apply edit) above, named⟩

theorem nodup_madeKeys (provider : MemoryProvider) (edits : List Edit) :
    (provider.madeKeys edits).Nodup := by
  induction edits generalizing provider with
  | nil => exact List.nodup_nil
  | cons edit rest ih =>
    rw [madeKeys]
    cases made : edit.made? provider with
    | none => exact ih (edit.apply provider)
    | some key =>
      refine List.nodup_cons.mpr ⟨fun again => ?_, ih (edit.apply provider)⟩
      -- Had it been made up again, then with a number above the one that it has.
      obtain ⟨named, -⟩ := made_up made
      obtain ⟨id, above, other⟩ := numbered_of_made again
      have same := localKey_inj.mp (named.symm.trans other)
      omega

/-- Through any history of a provider, keys are made up freshly. No two items have one key, and no
key is made up twice, even where its item was taken out in between. As long as the device is not full,
an insertion succeeds: its search goes on from the counter, makes at most one attempt more than there
are items, and ends at a key that is not held. The counter is the number of all attempts, so that it
fits into a machine word where these do. And every call spares the items that it is not about. -/
theorem made_up_keys_fresh (edits : List Edit) :
    let provider := applyAll {} edits
    (provider.items.map Prod.fst).Nodup ∧ (madeKeys {} edits).Nodup ∧
      (∀ content, provider.full = false →
        ∃ key after attempts, provider.insert content = (.ok key, after) ∧
          after.items = provider.items ++ [(key, content)] ∧ key ∉ provider.items.map Prod.fst ∧
          key = localKey after.lastId ∧
          provider.Search (provider.lastId + 1) attempts after.lastId ∧
          attempts ≤ provider.items.length + 1 ∧ (Edit.insert content).attempts provider = attempts) ∧
      provider.lastId = attemptsIn {} edits ∧ ∀ edit, provider.Spares edit := by
  intro provider
  have blank : (({} : MemoryProvider).items.map Prod.fst).Nodup := List.nodup_nil
  have distinct : (provider.items.map Prod.fst).Nodup := nodup_applyAll blank edits
  have counted : provider.lastId = attemptsIn {} edits :=
    (lastId_applyAll {} edits).trans (Nat.zero_add _)
  refine ⟨distinct, nodup_madeKeys {} edits, fun content room => ?_, counted, provider.spares⟩
  obtain ⟨search, few⟩ := provider.search_nextId
  refine ⟨_, _, _, insert_of_room room content, rfl, provider.not_mem_nextId, rfl, search, few, ?_⟩
  rw [Edit.attempts, room, if_neg Bool.false_ne_true]

def crowdedEdits : List Edit :=
  [.put "local-1" [1], .put "local-3" [2], .insert [3], .delete "local-2", .insert [4], .setFull true,
    .insert [5], .setFull false, .put "local-5" [6]]

theorem crowded_keys_fresh :
    (applyAll {} crowdedEdits).items.map Prod.fst = ["local-1", "local-3", "local-4", "local-5"] ∧
    (madeKeys {} crowdedEdits).Nodup ∧ madeKeys {} crowdedEdits = ["local-2", "local-4"] ∧
    (applyAll {} crowdedEdits).lastId = 4 ∧
    ∃ after, (applyAll {} crowdedEdits).insert [7] = (.ok "local-6", after) ∧
      (applyAll {} crowdedEdits).Search 5 2 6 := by
  obtain ⟨-, once, inserts, -, -⟩ := made_up_keys_fresh crowdedEdits
  obtain ⟨key, after, attempts, inserted, -, -, named, search, -, counted⟩ :=
    inserts [7] (by decide +kernel)
  have stood : (applyAll {} crowdedEdits).lastId = 4 := by decide +kernel
  have tried : attempts = 2 := counted.symm.trans (by decide +kernel)
  rw [stood, tried] at search
  have ended : after.lastId = 6 := Nat.succ.inj search.found_eq
  rw [ended] at search named
  refine ⟨by decide +kernel, once, by decide +kernel, stood, after, ?_, search⟩
  rw [inserted, named]
  rfl

end Reconcile.MemoryProvider
