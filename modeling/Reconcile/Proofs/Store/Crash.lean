import Reconcile.Proofs.Disk.Confined
import Reconcile.Proofs.Store.Mishap

/-!
Flushes that are cut off. The process may end between two actions of a flush or in the middle of a
write, and the disk stays as it is then. Up to the renaming the file of the store is the old one, and
afterwards it is the whole new one; a leftover of the temporary file is never looked at.
-/

namespace Reconcile

namespace DiskAction

/-- The disks that a sequence of actions goes through. A write may have got through in part. -/
inductive Passes : List DiskAction → Disk → Disk → Prop
  | here (actions : List DiskAction) (disk : Disk) : Passes actions disk disk
  | within (action : DiskAction) (rest : List DiskAction) (disk : Disk) (written : Nat) :
      Passes (action :: rest) disk (action.interrupted written disk)
  | later {action : DiskAction} {rest : List DiskAction} {disk between now : Disk}
      (ran : action.run disk = .ok between) (passes : Passes rest between now) :
      Passes (action :: rest) disk now

variable {actions first rest : List DiskAction} {disk now : Disk}

theorem passes_runAll (mishap : Option Mishap) (position : Nat) (actions : List DiskAction)
    (disk : Disk) : Passes actions disk (runAll mishap position actions disk).2 := by
  induction actions generalizing position disk with
  | nil => exact .here [] disk
  | cons action rest ih =>
    rw [runAll]
    cases mishap.filter fun strike => strike.position == position with
    | some strike => exact .within action rest disk strike.written
    | none =>
      cases ran : action.run disk with
      | error error => exact .here _ disk
      | ok between => exact .later ran (ih (position + 1) between)

namespace Passes

theorem append (passes : Passes (first ++ rest) disk now) :
    Passes first disk now ∨ ∃ between,
      (∀ position, runAll none position first disk = (.ok (), between)) ∧ Passes rest between now := by
  induction first generalizing disk with
  | nil => exact .inr ⟨disk, fun _ => rfl, passes⟩
  | cons action others ih =>
    cases passes with
    | here => exact .inl (.here _ _)
    | within _ _ _ written => exact .inl (.within action others _ written)
    | later ran passes =>
      rcases ih passes with early | ⟨between, went, late⟩
      · exact .inl (.later ran early)
      · refine .inr ⟨between, fun position => ?_, late⟩
        rw [runAll_of_ok ran]
        exact went (position + 1)

theorem spares {path : Path} (passes : Passes actions disk now)
    (harmless : ∀ action ∈ actions, action.Harmless path) : Disk.Spares path disk now := by
  induction passes with
  | here => exact .refl path _
  | within action rest disk written =>
    exact (harmless action List.mem_cons_self).interrupted written disk
  | later ran passes ih =>
    have further := ih fun other member => harmless other (List.mem_cons_of_mem _ member)
    exact ((harmless _ List.mem_cons_self).run ran).trans further

theorem confined {places : List Location} (passes : Passes actions disk now)
    (within : ∀ action ∈ actions, action.locations ⊆ places) :
    Disk.Confined places places disk now := by
  induction passes with
  | here => exact .refl places places _
  | within action rest disk written =>
    have some := within action List.mem_cons_self
    exact (confined_interrupted action written disk).mono some some
  | later ran passes ih =>
    have some := within _ List.mem_cons_self
    have further := ih fun other member => within other (List.mem_cons_of_mem _ member)
    exact ((confined_run ran).mono some some).trans further

end Passes

end DiskAction

/-! ### Names below a path -/

namespace Path

theorem segments_join_name {upper : Path} {name : String} (slashless : '/' ∉ name.toList) :
    (upper / name).segments =
      (if upper.segments.getLast? = some "" then upper.segments.dropLast else upper.segments) ++
        [name] := by
  have single : (ofText name).segments = [name] := ofText_slashless slashless
  have relative : (ofText name).isAbsolute = false := by simp [isAbsolute, single]
  show (upper.join (ofText name)).segments = _
  rw [join, relative, if_neg Bool.false_ne_true, single]
  split <;> rfl

theorem location_join_name {upper : Path} {name : String} (slashless : '/' ∉ name.toList)
    (named : isBlank name = false) (inward : name ≠ "..") :
    (upper / name).location = upper.location ++ [name] := by
  have above : (if upper.segments.getLast? = some "" then upper.segments.dropLast
      else upper.segments).foldl follow [] = upper.location := by
    split
    · rename_i slash
      obtain ⟨directories, whole⟩ := List.getLast?_eq_some_iff.mp slash
      rw [location, whole, List.dropLast_concat, List.foldl_append]
      rfl
    · rfl
  rw [location, segments_join_name slashless, List.foldl_append, above]
  exact follow_named named inward

theorem named_append (name : String) {ending : String} (long : 2 < ending.length) :
    isBlank (name ++ ending) = false ∧ name ++ ending ≠ ".." := by
  have other : ∀ special : String, special.length ≤ 2 → name ++ ending ≠ special := by
    rintro special short rfl
    rw [String.length_append] at short
    omega
  refine ⟨?_, other ".." (by decide)⟩
  rw [isBlank, Bool.or_eq_false_iff]
  exact ⟨beq_false_of_ne (other "" (by decide)), beq_false_of_ne (other "." (by decide))⟩

theorem fileName?_eq_some {path : Path} {name : String} (called : path.fileName? = some name) :
    ∃ directories, trimmed path.segments = directories ++ [name] ∧ isBlank name = false ∧ name ≠ ".." := by
  rw [fileName?, Option.filter_eq_some_iff] at called
  obtain ⟨last, usable⟩ := called
  obtain ⟨directories, whole⟩ := List.getLast?_eq_some_iff.mp last
  simp only [Bool.and_eq_true, Bool.not_eq_true', bne_iff_ne] at usable
  exact ⟨directories, whole, usable⟩

theorem location_parent? {path : Path} {directories : List String} {name : String}
    (whole : trimmed path.segments = directories ++ [name]) (named : isBlank name = false) :
    (path.parent?.getD ⟨[""]⟩).location = directories.foldl follow [] := by
  rw [parent?, whole]
  cases directories with
  | nil =>
    have given : name ≠ "" := by
      rintro rfl
      cases named
    simp only [List.nil_append, given, if_false]
    rfl
  | cons first rest =>
    have shorter : (rest ++ [name]).dropLast = rest := List.dropLast_concat
    have upper := foldl_follow_trimmed (first :: rest) []
    cases others : rest ++ [name] with
    | nil => simp at others
    | cons second more =>
      rw [others] at shorter
      simp only [List.cons_append, others, shorter]
      split
      · rename_i root
        rw [root] at upper
        rw [← upper]
        rfl
      · exact upper

end Path

namespace PropertyFile

open DiskAction

variable {store : PropertyFile} {disk now : Disk} {path : Path}

theorem location_temporaryPath {name : String} (called : path.fileName? = some name)
    (slashless : '/' ∉ name.toList) :
    (temporaryPath path).location = path.location.dropLast ++ [name ++ ".tmp"] := by
  obtain ⟨directories, whole, named, inward⟩ := Path.fileName?_eq_some called
  have there : path.location = directories.foldl Path.follow [] ++ [name] := by
    rw [Path.location, ← Path.foldl_follow_trimmed, whole, List.foldl_append]
    exact Path.follow_named named inward
  have extended : '/' ∉ (name ++ ".tmp").toList := Path.slashless_append slashless (by decide)
  obtain ⟨renamed, onward⟩ := Path.named_append name (show 2 < ".tmp".length by decide)
  rw [temporaryPath, called, Path.withFileName, called, Option.isSome_some, if_pos rfl,
    Option.getD_some, Path.location_join_name extended renamed onward,
    Path.location_parent? whole named, there, List.dropLast_concat]

def places (path : Path) : List Location := [path.location, (temporaryPath path).location]

theorem locations_flushActions :
    ∀ action ∈ store.flushActions, action.locations ⊆ places store.path := by
  intro action member
  rw [flushActions_eq, List.mem_append] at member
  rcases member with move | wait
  · simp only [moves, preparations, List.cons_append, List.nil_append, List.mem_cons,
      List.not_mem_nil, or_false] at move
    rcases move with rfl | rfl | rfl | rfl
    all_goals simp [DiskAction.locations, places]
  · rcases store.waits_eq with none | ⟨above, one⟩
    · rw [none] at wait
      cases wait
    · rw [one, List.mem_singleton] at wait
      subst wait
      exact List.nil_subset _

/-! ### Cut flushes -/

theorem eq_of_passes_waits (passes : Passes store.waits disk now) : now = disk := by
  rcases store.waits_eq with none | ⟨above, one⟩
  · rw [none] at passes
    cases passes
    rfl
  · rw [one] at passes
    cases passes with
    | here => rfl
    | within => rfl
    | later ran passes =>
      cases passes
      rw [DiskAction.run] at ran
      split at ran
      · exact (Except.ok.inj ran).symm
      · cases ran

/-- A flush goes through disks where the file of the store is the old one, and then through the disk
that it leaves. -/
theorem spares_or_flushed (passes : Passes store.flushActions disk now) :
    Disk.Spares store.path disk now ∨ store.flush disk = (.ok (), now) := by
  rw [flushActions_eq, moves, List.append_assoc] at passes
  rcases passes.append with early | ⟨between, prepared, late⟩
  · exact .inl (early.spares preparations_harmless)
  · -- The renaming is still to come here, or it is done and only the wait for the directory is left.
    have spared : Disk.Spares store.path disk between := by
      have spares : Disk.Spares store.path disk (runAll none 0 store.preparations disk).2 :=
        runAll_spares preparations_harmless 0 disk
      rwa [prepared 0] at spares
    cases late with
    | here => exact .inl spared
    | within => exact .inl spared
    | later ran passes =>
      rename_i after
      obtain rfl : now = after := eq_of_passes_waits passes
      have moved : runAll none 0 store.moves disk = (.ok (), now) := by
        rw [moves, runAll_append, prepared 0]
        exact runAll_of_ok ran []
      obtain ⟨directory, name, ends⟩ := ends_of_moves moved
      refine .inr ?_
      rw [flush_eq, moved]
      dsimp only
      rw [runAll_waits ends]
      rfl

theorem passes_flush (store : PropertyFile) (disk : Disk) (mishap : Option Mishap) :
    DiskAction.Passes store.flushActions disk (store.flush disk mishap).2 := by
  have passed := DiskAction.passes_runAll mishap 0 store.flushActions disk
  rw [flush]
  split
  all_goals
    rename_i ran
    rwa [ran] at passed

/-! ### Openings -/

theorem confined_openAt (path : Path) (disk : Disk) :
    Disk.Confined [] [path.location] disk (openAt path disk).2 := by
  have above := (Disk.confined_makeAbove disk path).mono (List.nil_subset [])
    (List.nil_subset [path.location])
  rw [openAt]
  split
  · rename_i made
    rwa [made] at above
  · rename_i made
    rw [made] at above
    split
    · exact above
    · rename_i opened
      have whole := above.trans (Disk.confined_openOrCreate opened)
      split <;> exact whole

/-- A path is opened with the given entries, and without a change to the disk. -/
def Reopens (path : Path) (disk : Disk) (entries : List (String × String)) : Prop :=
  ∃ store, openAt path disk = (.ok (store, []), disk) ∧ store.path = path ∧
    store.table.toList = entries

theorem reopens_of_fileContent {table : Table}
    (read : disk.fileContent path = .ok (.ofText (PropertyText.render table))) :
    Reopens path disk table.toList := by
  obtain ⟨entries, clean⟩ := PropertyText.toList_read_render table
  have opened := openAt_of_fileContent read (Bytes.text?_ofText _)
  rw [clean] at opened
  exact ⟨_, opened, rfl, entries⟩

/-- Wherever a flush is cut off, between its actions or in the middle of a write, the file of the
store is as it was or holds what was rendered, with nothing in between; and nothing else has changed
but the temporary file beside it. Since an opening changes no file, the next one finds the entries of
the old file, which are those that were flushed last, or the current ones. The disk that a flush
leaves is one of those, whether the flush succeeds, fails or is struck. -/
theorem cut_flush_old_or_new (passes : DiskAction.Passes store.flushActions disk now) :
    (Disk.Spares store.path disk now ∨
      now.fileContent store.path = .ok (.ofText (PropertyText.render store.table))) ∧
    Disk.Confined (places store.path) (places store.path) disk now ∧
    (∀ name, store.path.fileName? = some name → '/' ∉ name.toList →
      (temporaryPath store.path).location = store.path.location.dropLast ++ [name ++ ".tmp"]) ∧
    (∀ path disk location content, Disk.node? disk location = some (.file content) →
      (openAt path disk).2.node? location = some (.file content)) ∧
    (∀ content, disk.fileContent store.path = .ok content →
      openAt store.path now = ((openAt store.path disk).1, now) ∨
        Reopens store.path now store.table.toList) ∧
    (∀ last : Table, disk.fileContent store.path = .ok (.ofText (PropertyText.render last)) →
      Reopens store.path now last.toList ∨ Reopens store.path now store.table.toList) ∧
    ∀ mishap, DiskAction.Passes store.flushActions disk (store.flush disk mishap).2 := by
  have oldOrNew : Disk.Spares store.path disk now ∨
      now.fileContent store.path = .ok (.ofText (PropertyText.render store.table)) := by
    refine (spares_or_flushed passes).imp_right fun flushed => ?_
    obtain ⟨directory, name, ends, filled⟩ := flush_ok flushed
    exact ends.fileContent_eq filled
  refine ⟨oldOrNew, passes.confined locations_flushActions, ?_, ?_, ?_, ?_, passes_flush store disk⟩
  · intro name called slashless
    exact location_temporaryPath called slashless
  · intro path disk location content there
    exact (confined_openAt path disk).file List.not_mem_nil there
  · intro content read
    refine oldOrNew.imp (fun spared => ?_) reopens_of_fileContent
    rw [openAt_of_file read, openAt_of_file ((spared content).mpr read)]
  · intro last read
    exact oldOrNew.imp (fun spared => reopens_of_fileContent ((spared _).mpr read))
      reopens_of_fileContent

/-- The disk of a store that was edited, with what an earlier flush left behind when it was cut. -/
def staleDisk : Disk :=
  { entries := [("room", .directory
      [("contact.dat", .file (.ofText "a=1\n")), ("contact.dat.tmp", .file (.ofText "b=7\nc"))])] }

theorem stale_temporary_ignored :
    DiskAction.Passes edited.flushActions staleDisk cutDisk ∧
      Disk.Spares edited.path staleDisk cutDisk ∧ Reopens edited.path cutDisk [("a", "1")] := by
  have created : (DiskAction.create (temporaryPath edited.path)).run staleDisk =
      .ok { entries := [("room", .directory
        [("contact.dat", .file (.ofText "a=1\n")), ("contact.dat.tmp", .file [])])] } := rfl
  have passes : DiskAction.Passes edited.flushActions staleDisk cutDisk :=
    .later created (.within _ _ _ 2)
  have rendered : PropertyText.render (Table.ofList [("a", "1")]) = "a=1\n" := by decide +kernel
  obtain ⟨oldOrNew, -, -, -, -, opens, -⟩ := cut_flush_old_or_new passes
  refine ⟨passes, oldOrNew.resolve_right fun moved => ?_, ?_⟩
  · have same : Bytes.ofText "a=1\n" = .ofText (PropertyText.render edited.table) :=
      Except.ok.inj moved
    revert same
    decide +kernel
  · have entries : ((openAt edited.path cutDisk).1.toOption.map fun opening =>
        opening.1.table.toList) = some [("a", "1")] := by decide +kernel
    refine (opens (Table.ofList [("a", "1")]) (by rw [rendered]; rfl)).resolve_right ?_
    rintro ⟨store, opened, -, current⟩
    rw [opened] at entries
    have one : store.table.toList = [("a", "1")] := Option.some.inj entries
    rw [one] at current
    revert current
    decide +kernel

end PropertyFile

end Reconcile
