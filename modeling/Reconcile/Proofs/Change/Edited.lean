import Std.Data.String.ToNat
import Reconcile.Change.Scan
import Reconcile.Entries
import Reconcile.Proofs.Content.Serial

/-!
Small edits. A shift of the register of a check can be undone, and so can the step of a byte; four
bytes fit into the register and are told apart by it. So contents that differ in up to four
consecutive bytes only have different checks, whatever stands before and after these, and a scan finds
an item that was edited so.
-/

namespace Reconcile

namespace Checksum

/-! ### Shifts can be undone -/

/-- The polynomial has the highest bit, where a shift shows which bit it took out. -/
theorem getLsbD_bitStep (register : Register) :
    (bitStep register).getLsbD 31 = register.getLsbD 0 := by
  have shifted : (register >>> 1).getLsbD 31 = false := by
    rw [BitVec.getLsbD_ushiftRight]
    exact BitVec.getLsbD_of_ge register 32 (by omega)
  cases low : register.getLsbD 0 with
  | false => rw [bitStep_of_even low, shifted]
  | true =>
    rw [bitStep_of_odd low, BitVec.getLsbD_xor, shifted]
    rfl

theorem bitStep_inj {left right : Register} : bitStep left = bitStep right ↔ left = right := by
  refine ⟨fun same => ?_, fun same => same ▸ rfl⟩
  have low : left.getLsbD 0 = right.getLsbD 0 := by
    rw [← getLsbD_bitStep, ← getLsbD_bitStep, same]
  have high : left >>> 1 = right >>> 1 := by
    cases bit : left.getLsbD 0 with
    | false => rwa [bitStep_of_even bit, bitStep_of_even (low ▸ bit)] at same
    | true =>
      rw [bitStep_of_odd bit, bitStep_of_odd (low ▸ bit)] at same
      exact (BitVec.xor_left_inj _).mp same
  refine BitVec.eq_of_getLsbD_eq fun place bound => ?_
  cases place with
  | zero => exact low
  | succ place =>
    have bit := congrArg (fun register => register.getLsbD place) high
    simpa only [BitVec.getLsbD_ushiftRight, Nat.add_comm 1] using bit

theorem shifts_inj (count : Nat) {left right : Register} :
    shifts count left = shifts count right ↔ left = right := by
  induction count generalizing left right with
  | zero => exact Iff.rfl
  | succ count ih => rw [shifts_succ, shifts_succ, ih, bitStep_inj]

theorem feed_inj (bytes : Bytes) {left right : Register} :
    feed left bytes = feed right bytes ↔ left = right := by
  induction bytes generalizing left right with
  | nil => exact Iff.rfl
  | cons byte rest ih =>
    show feed (byteStep left byte) rest = feed (byteStep right byte) rest ↔ _
    rw [ih, byteStep_eq, byteStep_eq, shifts_inj, BitVec.xor_left_inj]

theorem feed_append (register : Register) (first second : Bytes) :
    feed register (first ++ second) = feed (feed register first) second :=
  List.foldl_append

/-! ### What fits into the register -/

theorem bitsOf_inj {left right : UInt8} : bitsOf left = bitsOf right ↔ left = right := by
  refine ⟨fun same => ?_, fun same => same ▸ rfl⟩
  have words := congrArg word same
  rw [word_bitsOf, word_bitsOf] at words
  have low := congrArg (BitVec.setWidth 8) words
  rwa [BitVec.setWidth_setWidth_of_le _ (by omega), BitVec.setWidth_setWidth_of_le _ (by omega),
    BitVec.setWidth_eq, BitVec.setWidth_eq, UInt8.toBitVec_inj] at low

theorem length_messageBits (bytes : Bytes) : (messageBits bytes).length = 8 * bytes.length := by
  induction bytes with
  | nil => rfl
  | cons byte rest ih =>
    rw [messageBits, List.flatMap_cons, List.length_append, ← messageBits, ih, length_bitsOf,
      List.length_cons]
    omega

theorem messageBits_inj {left right : Bytes} : messageBits left = messageBits right ↔ left = right := by
  refine ⟨fun same => ?_, fun same => same ▸ rfl⟩
  have length : left.length = right.length := by
    have bits := congrArg List.length same
    rw [length_messageBits, length_messageBits] at bits
    omega
  induction left generalizing right with
  | nil => exact (List.eq_nil_of_length_eq_zero length.symm).symm
  | cons byte rest ih =>
    cases right with
    | nil => cases length
    | cons other others =>
      simp only [messageBits, List.flatMap_cons] at same
      obtain ⟨first, later⟩ := List.append_inj same (by rw [length_bitsOf, length_bitsOf])
      rw [bitsOf_inj.mp first, ih later (Nat.succ.inj length)]

theorem word_inj {left right : List Bool} (sameLength : left.length = right.length)
    (fits : left.length ≤ 32) : word left = word right ↔ left = right := by
  refine ⟨fun same => List.ext_getElem sameLength fun place first second => ?_, fun same => same ▸ rfl⟩
  have bit := congrArg (fun register => register.getLsbD place) same
  simp only [getLsbD_word, show place < 32 by omega, decide_true, Bool.true_and] at bit
  rwa [List.getD_eq_getElem?_getD, List.getD_eq_getElem?_getD, List.getElem?_eq_getElem first,
    List.getElem?_eq_getElem second] at bit

theorem feed_short_inj (register : Register) {left right : Bytes}
    (sameLength : left.length = right.length) (short : left.length ≤ 4) :
    feed register left = feed register right ↔ left = right := by
  have bits : (messageBits left).length = (messageBits right).length := by
    rw [length_messageBits, length_messageBits, sameLength]
  have fits : (messageBits left).length ≤ 32 := by
    rw [length_messageBits]
    omega
  rw [feed_eq_takeBit, feed_eq_takeBit, foldl_takeBit fits, foldl_takeBit (bits ▸ fits), ← bits,
    shifts_inj, BitVec.xor_right_inj, word_inj bits fits, messageBits_inj]

theorem crc32_edit_inj (before after : Bytes) {left right : Bytes}
    (sameLength : left.length = right.length) (short : left.length ≤ 4) :
    crc32 (before ++ left ++ after) = crc32 (before ++ right ++ after) ↔ left = right := by
  rw [crc32, crc32, BitVec.not_inj]
  simp only [feed_append]
  rw [feed_inj, feed_short_inj _ sameLength short]

end Checksum

theorem Signature.of_inj {left right : Bytes} :
    Signature.of left = Signature.of right ↔ Checksum.crc32 left = Checksum.crc32 right := by
  rw [Signature.of, Signature.of, Signature.mk.injEq, Nat.repr_inj, BitVec.toNat_inj]

inductive SmallEdit : Bytes → Bytes → Prop
  | edit (before after : Bytes) {left right : Bytes} (different : left ≠ right)
      (sameLength : left.length = right.length) (short : left.length ≤ 4) :
      SmallEdit (before ++ left ++ after) (before ++ right ++ after)

theorem SmallEdit.signatures_ne {old new : Bytes} (edit : SmallEdit old new) :
    Signature.of old ≠ Signature.of new := by
  obtain ⟨before, after, different, sameLength, short⟩ := edit
  rw [ne_eq, Signature.of_inj, Checksum.crc32_edit_inj before after sameLength short]
  exact different

namespace ChangeScan

variable {σ : Type} {context : ScanContext σ} {key : String} {entries : List (String × Signature)}
  {cached signature : Signature}

/-! ### Entries that are matched -/

theorem lookupLast_cons (key : String) (entry : String × Signature)
    (rest : List (String × Signature)) :
    lookupLast key (entry :: rest) =
      (lookupLast key rest).or (if key = entry.1 then some entry.2 else none) := by
  rw [lookupLast, List.reverse_cons, List.lookup_append, Entries.lookup_cons]
  rfl

theorem takeLast_eq_lookupLast (key : String) (entries : List (String × Signature)) :
    (takeLast key entries).map Prod.fst = lookupLast key entries := by
  induction entries with
  | nil => rfl
  | cons entry rest ih =>
    rw [lookupLast_cons, ← ih, takeLast]
    cases takeLast key rest with
    | some taken => rfl
    | none =>
      by_cases same : key = entry.1
      · simp [same]
      · simp [same, Ne.symm same]

theorem lookupLast_taken {other : String} (apart : key ≠ other) {rest : List (String × Signature)}
    (taken : takeLast other entries = some (signature, rest)) :
    lookupLast key rest = lookupLast key entries := by
  induction entries generalizing rest with
  | nil => cases taken
  | cons entry later ih =>
    rw [takeLast] at taken
    cases further : takeLast other later with
    | some found =>
      obtain ⟨last, others⟩ := found
      rw [further] at taken
      obtain ⟨rfl, rfl⟩ := Prod.mk.inj (Option.some.inj taken)
      rw [lookupLast_cons, lookupLast_cons, ih further]
    | none =>
      simp only [further] at taken
      split at taken
      · rename_i same
        obtain ⟨-, rfl⟩ := Prod.mk.inj (Option.some.inj taken)
        rw [lookupLast_cons, if_neg (same ▸ apart), Option.or_none]
      · cases taken

/-! ### Keys with another signature -/

/-- A key that is among the updated ones, or is still to come and has an entry. -/
def Due (key : String) (cached : Signature) (keys : List (Reply String)) (found : ChangeSet)
    (pending : List (String × Signature)) : Prop :=
  key ∈ found.updated ∨
    key ∈ keys.map Reply.value ∧ key ∉ found.keys ∧ lookupLast key pending = some cached

theorem Due.step {reply : Reply String} {rest : List (Reply String)} {found next : ChangeSet}
    {pending after : List (String × Signature)} (due : Due key cached (reply :: rest) found pending)
    (grown : next.keys = found.keys ++ [reply.value]) (kept : found.updated ⊆ next.updated)
    (others : key ≠ reply.value → lookupLast key after = lookupLast key pending)
    (first : key = reply.value → lookupLast key pending = some cached → key ∈ next.updated) :
    Due key cached rest next after := by
  rcases due with there | ⟨listed, new, held⟩
  · exact .inl (kept there)
  · by_cases same : key = reply.value
    · exact .inl (first same held)
    · refine .inr ⟨(List.mem_cons.mp listed).resolve_left same, ?_, (others same).trans held⟩
      rw [grown, List.mem_append, List.mem_singleton]
      exact not_or.mpr ⟨new, same⟩

theorem Due.repeated {reply : Reply String} {rest : List (Reply String)} {found : ChangeSet}
    {pending : List (String × Signature)} (due : Due key cached (reply :: rest) found pending)
    (known : reply.value ∈ found.keys) : Due key cached rest found pending := by
  rcases due with there | ⟨listed, new, held⟩
  · exact .inl there
  · refine .inr ⟨(List.mem_cons.mp listed).resolve_left ?_, new, held⟩
    rintro rfl
    exact new known

theorem Due.mem_updated (signs : ∀ state, (context.signature key state).1 ≠ cached)
    {keys : List (Reply String)} {found sorted : ChangeSet} {pending left : List (String × Signature)}
    {state : σ} (due : Due key cached keys found pending)
    (ran : (classify context keys found pending state).1 = some (sorted, left)) :
    key ∈ sorted.updated := by
  induction keys generalizing found pending state with
  | nil =>
    obtain ⟨rfl, -⟩ := Prod.mk.inj (Option.some.inj ran)
    rcases due with there | ⟨listed, -⟩
    · exact there
    · cases listed
  | cons reply rest ih =>
    have taken := takeLast_eq_lookupLast reply.value pending
    rw [classify] at ran
    dsimp only at ran
    split at ran
    · cases ran
    split at ran
    · rename_i known
      exact ih (due.repeated (List.contains_iff_mem.mp known)) ran
    split at ran
    · rename_i missing
      rw [missing] at taken
      refine ih ?_ ran
      refine due.step rfl (List.Subset.refl _) (fun _ => rfl) ?_
      rintro rfl held
      cases taken.trans held
    · rename_i previous others matched
      rw [matched] at taken
      have kept := fun apart : key ≠ reply.value => lookupLast_taken apart matched
      split at ran
      · rename_i current
        refine ih ?_ ran
        refine due.step rfl (List.Subset.refl _) kept ?_
        rintro rfl held
        exact absurd (current.trans (Option.some.inj (taken.trans held))) (signs _)
      · refine ih ?_ ran
        refine due.step rfl (List.subset_append_left _ _) kept ?_
        rintro rfl -
        exact List.mem_append_right _ (List.mem_singleton_self _)

/-! ### Scans that find nothing -/

theorem stopped_of_classify (context : ScanContext σ) (keys : List (Reply String))
    (found : ChangeSet) (pending : List (String × Signature)) (state : σ)
    (ran : (classify context keys found pending state).1 = none) :
    context.isStopped (classify context keys found pending state).2 = true := by
  induction keys generalizing found pending state with
  | nil => cases ran
  | cons reply rest ih =>
    revert ran
    rw [classify]
    dsimp only
    split
    · exact fun _ => ‹_›
    · split
      · exact ih _ _ _
      · split
        · exact ih _ _ _
        · split <;> exact ih _ _ _

theorem stopped_of_confirm (context : ScanContext σ) (entries : List (String × Signature)) (state : σ)
    (ran : (confirm context entries state).1 = none) :
    context.isStopped (confirm context entries state).2 = true := by
  induction entries generalizing state with
  | nil => cases ran
  | cons entry rest ih =>
    rw [confirm] at ran ⊢
    split at ran
    · rename_i stopped
      rw [if_pos stopped]
      exact stopped
    · rw [if_neg ‹_›]
      exact ih _ (Option.map_eq_none_iff.mp ran)

theorem updated_or_stopped {keys : List (Reply String)} {previous : List (String × Signature)}
    (listed : key ∈ keys.map Reply.value) (held : lookupLast key previous = some cached)
    (signs : ∀ state, (context.signature key state).1 ≠ cached) (state : σ) :
    (∃ changes, (run context keys previous state).1 = some changes ∧ key ∈ changes.updated) ∨
      (run context keys previous state).1 = none ∧
        context.isStopped (run context keys previous state).2 = true := by
  have sorting := stopped_of_classify context keys {} previous state
  rw [run]
  cases classified : classify context keys {} previous state with
  | mk result middle =>
    rw [classified] at sorting
    cases result with
    | none => exact .inr ⟨rfl, sorting rfl⟩
    | some found =>
      obtain ⟨sorted, pending⟩ := found
      have due : Due key cached keys {} previous := .inr ⟨listed, List.not_mem_nil, held⟩
      have updated : key ∈ sorted.updated := due.mem_updated signs (congrArg Prod.fst classified)
      have ending := stopped_of_confirm context pending middle
      dsimp only
      cases confirmed : confirm context pending middle with
      | mk deleted last =>
        rw [confirmed] at ending
        cases deleted with
        | none => exact .inr ⟨rfl, ending rfl⟩
        | some gone => exact .inl ⟨_, rfl, updated⟩

/-- Small edits are found. Contents that differ in up to four consecutive bytes only have different
signatures; so a scan lists a key as updated whose last entry holds the signature of the one content
and whose item has the other one, as long as it is not stopped. Signatures tell contents apart
exactly where their checks do. -/
theorem small_edit_found :
    (∀ old new : Bytes, SmallEdit old new → Signature.of old ≠ Signature.of new) ∧
    (∀ {σ : Type} (context : ScanContext σ) (keys : List (Reply String))
      (previous : List (String × Signature)) (state : σ) (key : String) (old new : Bytes),
      SmallEdit old new → key ∈ keys.map Reply.value →
      lookupLast key previous = some (Signature.of old) →
      (∀ state, (context.signature key state).1 = Signature.of new) →
      (∃ changes, (run context keys previous state).1 = some changes ∧ key ∈ changes.updated) ∨
        (run context keys previous state).1 = none ∧
          context.isStopped (run context keys previous state).2 = true) ∧
    ∀ first second : Bytes, Signature.of first = Signature.of second ↔
      Checksum.crc32 first = Checksum.crc32 second := by
  refine ⟨fun old new edit => edit.signatures_ne, ?_, fun first second => Signature.of_inj⟩
  intro σ context keys previous state key old new edit listed held signs
  refine updated_or_stopped listed held (fun state => ?_) state
  rw [signs state]
  exact edit.signatures_ne.symm

def anna : Bytes := Bytes.ofText "call " ++ Bytes.ofText "Anna" ++ Bytes.ofText " now"

def otto : Bytes := Bytes.ofText "call " ++ Bytes.ofText "Otto" ++ Bytes.ofText " now"

def undisturbed (content : Bytes) : ScanContext Unit where
  isStopped _ := false
  handOut _ _ := ()
  repeated _ _ := ()
  signature _ _ := (Signature.of content, ())
  confirmsDeletion _ _ := (true, ())

/-- Of two entries of a key the last one counts. -/
theorem other_name_updated :
    SmallEdit anna otto ∧ Signature.of anna ≠ Signature.of otto ∧
    ∃ changes, (run (undisturbed otto) [⟨"new", false⟩, ⟨"note", false⟩]
        [("note", Signature.of otto), ("note", Signature.of anna)] ()).1 = some changes ∧
      "note" ∈ changes.updated := by
  obtain ⟨apart, found, -⟩ := small_edit_found
  have edit : SmallEdit anna otto := .edit (Bytes.ofText "call ") (Bytes.ofText " now")
    (by decide +kernel) (by decide +kernel) (by decide +kernel)
  refine ⟨edit, apart anna otto edit, ?_⟩
  have scanned := found (undisturbed otto) [⟨"new", false⟩, ⟨"note", false⟩]
    [("note", Signature.of otto), ("note", Signature.of anna)] () "note" anna otto edit (by decide) rfl
    (fun _ => rfl)
  exact scanned.resolve_right fun stopped => Bool.false_ne_true stopped.2

end ChangeScan

end Reconcile
