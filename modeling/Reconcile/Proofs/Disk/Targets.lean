import Reconcile.Proofs.Disk.Directories

/-!
Targets of writes. The location of a file stays the same while directories are kept, and the
directories above it need not be made again.
-/

namespace Reconcile

namespace Path

theorem utf8ByteSize_text_le {upper lower : Path} (above : upper.segments <+: lower.segments) :
    upper.text.utf8ByteSize ≤ lower.text.utf8ByteSize := by
  obtain ⟨rest, whole⟩ := above
  rw [text, text, ← whole]
  by_cases noUpper : upper.segments = []
  · rw [noUpper, String.intercalate_nil, String.utf8ByteSize_empty]
    exact Nat.zero_le _
  · by_cases noRest : rest = []
    · exact Nat.le_of_eq (by rw [noRest, List.append_nil])
    · rw [String.intercalate_append_of_ne_nil noUpper noRest, String.utf8ByteSize_append,
        String.utf8ByteSize_append]
      omega

theorem prefix_dropWhile_reverse (drop : String → Bool) (segments : List String) :
    (segments.reverse.dropWhile drop).reverse <+: segments := by
  have suffix := List.dropWhile_suffix (l := segments.reverse) drop
  rwa [← List.reverse_prefix, List.reverse_reverse] at suffix

theorem prefix_trimmed (segments : List String) : trimmed segments <+: segments := by
  cases segments with
  | nil => exact List.prefix_refl _
  | cons first rest => exact (List.prefix_cons_inj first).mpr (prefix_dropWhile_reverse isBlank rest)

theorem trimmed_concat {directories : List String} {name : String} (named : isBlank name = false) :
    trimmed (directories ++ [name]) = directories ++ [name] := by
  cases directories with
  | nil => rfl
  | cons first rest => simp [trimmed, named]

theorem fileName?_concat {path : Path} {directories : List String} {name : String}
    (cut : path.segments = directories ++ [name]) (named : isBlank name = false)
    (inward : name ≠ "..") : path.fileName? = some name := by
  rw [fileName?, cut, trimmed_concat named, List.getLast?_concat]
  simp [named, inward]

theorem parent?_concat {path above : Path} {directories : List String} {name : String}
    (cut : path.segments = directories ++ [name]) (named : isBlank name = false)
    (parent : path.parent? = some above) :
    above.segments = [""] ∨ above.segments = ["", ""] ∨
      above.segments <+: directories ∧ above.segments ≠ [""] := by
  rw [parent?, cut, trimmed_concat named] at parent
  cases directories with
  | nil =>
    have given : name ≠ "" := by
      rintro rfl
      cases named
    simp only [List.nil_append, given, if_false, Option.some.injEq] at parent
    exact .inl (parent ▸ rfl)
  | cons first rest =>
    have shorter : (rest ++ [name]).dropLast = rest := List.dropLast_concat
    cases others : rest ++ [name] with
    | nil => simp at others
    | cons second more =>
      rw [others] at shorter
      simp only [List.cons_append, others] at parent
      split at parent
      · exact .inr (.inl (Option.some.inj parent ▸ rfl))
      · rename_i different
        rw [← Option.some.inj parent]
        refine .inr (.inr ⟨?_, different⟩)
        rw [shorter]
        exact prefix_trimmed (first :: rest)

theorem cut_of_named {segments : List String}
    (named : isBlank (segments.getLast?.getD "") = false) :
    segments = segments.dropLast ++ [segments.getLast?.getD ""] := by
  rcases List.eq_nil_or_concat segments with rfl | ⟨upper, last, rfl⟩
  · cases named
  · rw [List.concat_eq_append, List.dropLast_concat, List.getLast?_concat]
    rfl

end Path

namespace Disk

theorem checkPath_ok {path : Path} :
    checkPath path = .ok () ↔
      path.segments.any (fun segment => segment.toList.contains '\x00') = false ∧
        path.text.utf8ByteSize < maxPathBytes ∧ path.segments ≠ [""] := by
  rw [checkPath]
  generalize path.segments.any (fun segment => segment.toList.contains '\x00') = zero
  cases zero with
  | true => simp
  | false =>
    by_cases long : maxPathBytes ≤ path.text.utf8ByteSize
    · simp [long, Nat.not_lt.mpr long]
    · by_cases blank : path.segments = [""]
      · simp [long, blank]
      · simp [long, blank, Nat.lt_of_not_le long]

theorem checkPath_above {upper lower : Path} (above : upper.segments <+: lower.segments)
    (named : upper.segments ≠ [""]) (checked : checkPath lower = .ok ()) :
    checkPath upper = .ok () := by
  obtain ⟨zeroless, short, _⟩ := checkPath_ok.mp checked
  refine checkPath_ok.mpr ⟨?_, Nat.lt_of_le_of_lt (Path.utf8ByteSize_text_le above) short, named⟩
  rw [List.any_eq_false] at zeroless ⊢
  exact fun segment member => zeroless segment (above.subset member)

theorem walk_append (disk : Disk) (upper lower : List String) :
    disk.walk (upper ++ lower) = (disk.walk upper).bind fun here => lower.foldlM disk.enter here := by
  rw [walk_eq_foldlM, walk_eq_foldlM, List.foldlM_append]
  rfl

theorem walk_above {disk : Disk} {upper lower : List String} {location : Location}
    (above : upper <+: lower) (walked : disk.walk lower = .ok location) :
    ∃ higher, disk.walk upper = .ok higher := by
  obtain ⟨rest, rfl⟩ := above
  rw [walk_append] at walked
  cases upwards : disk.walk upper with
  | error error => rw [upwards] at walked; cases walked
  | ok higher => exact ⟨higher, rfl⟩

theorem withoutSlash_of_cut {path : Path} {directories : List String} {name : String}
    (cut : path.segments = directories ++ [name]) (named : Path.isBlank name = false) :
    withoutSlash path = path := by
  rw [Path.isBlank, Bool.or_eq_false_iff] at named
  obtain ⟨segments⟩ := path
  subst cut
  simp [withoutSlash, named.1]

/-- Where a path ends: it is a plain one whose directory can be walked, and its last segment is a
name that the system takes. -/
structure Ends (disk : Disk) (path : Path) (directory : Location) (name : String) : Prop where
  checked : checkPath path = .ok ()
  cut : path.segments = path.segments.dropLast ++ [name]
  walked : disk.walk path.segments.dropLast = .ok directory
  named : Path.isBlank name = false
  inward : name ≠ ".."
  short : ¬ maxNameBytes < name.utf8ByteSize

namespace Ends

variable {disk after : Disk} {path : Path} {directory : Location} {name : String}

theorem last (ends : Ends disk path directory name) : path.segments.getLast?.getD "" = name := by
  rw [ends.cut, List.getLast?_concat, Option.getD_some]

theorem whole (ends : Ends disk path directory name) : withoutSlash path = path :=
  withoutSlash_of_cut ends.cut ends.named

theorem parentOf_eq (ends : Ends disk path directory name) :
    disk.parentOf path = .ok (directory, name) := by
  simp [parentOf, ends.checked, ends.walked, ends.last, bind, Except.bind, pure, Except.pure]

theorem held (ends : Ends disk path directory name) : disk.holdsDirectory directory :=
  (walk_sustained (fun _ held => held) ends.walked).2

theorem sustained (ends : Ends disk path directory name) (kept : Sustains disk after) :
    Ends after path directory name :=
  { ends with walked := (walk_sustained kept ends.walked).1 }

theorem usable (ends : Ends disk path directory name) :
    (Path.isBlank name || name == "..") = false := by
  rw [ends.named, Bool.false_or]
  exact beq_false_of_ne ends.inward

theorem fileTarget_eq (ends : Ends disk path directory name)
    (file : ¬ disk.holdsDirectory (directory ++ [name])) :
    disk.fileTarget path = .ok (directory ++ [name]) := by
  simp [fileTarget, ends.whole, ends.parentOf_eq, ends.last, ends.usable, ends.short, file, bind,
    Except.bind, pure, Except.pure]

theorem fileContent_eq (ends : Ends disk path directory name) {content : Bytes}
    (there : disk.node? (directory ++ [name]) = some (.file content)) :
    disk.fileContent path = .ok content := by
  simp [fileContent, ends.parentOf_eq, ends.usable, ends.short, there, bind, Except.bind, pure,
    Except.pure]

end Ends

theorem fileTarget_ok {disk : Disk} {path : Path} {location : Location}
    (target : disk.fileTarget path = .ok location) :
    ∃ directory name, Ends disk path directory name ∧ location = directory ++ [name] ∧
      ¬ disk.holdsDirectory location := by
  simp only [fileTarget, parentOf, bind, Except.bind, pure, Except.pure] at target
  cases checked : checkPath (withoutSlash path) with
  | error error => simp [checked] at target
  | ok _ =>
    cases walked : disk.walk (withoutSlash path).segments.dropLast with
    | error error => simp [checked, walked] at target
    | ok directory =>
      simp only [checked, walked] at target
      split at target
      · cases target
      · rename_i usable
        split at target
        · cases target
        · rename_i short
          split at target
          · cases target
          · rename_i file
            rw [Except.ok.injEq] at target
            subst target
            rw [Bool.not_eq_true, Bool.or_eq_false_iff, beq_eq_false_iff_ne] at usable
            obtain ⟨named, inward⟩ := usable
            have cut := Path.cut_of_named named
            have whole := withoutSlash_of_cut cut named
            rw [whole] at checked walked
            exact ⟨directory, _, ⟨checked, cut, walked, named, inward, short⟩, rfl, file⟩

theorem fileContent_ok {disk : Disk} {path : Path} {content : Bytes}
    (read : disk.fileContent path = .ok content) :
    ∃ directory name, Ends disk path directory name ∧
      disk.node? (directory ++ [name]) = some (.file content) := by
  simp only [fileContent, parentOf, bind, Except.bind, pure, Except.pure] at read
  cases checked : checkPath path with
  | error error => simp [checked] at read
  | ok _ =>
    cases walked : disk.walk path.segments.dropLast with
    | error error => simp [checked, walked] at read
    | ok directory =>
      simp only [checked, walked] at read
      split at read
      · cases read
      · rename_i short
        split at read
        · cases read
        · rename_i usable
          rw [Bool.not_eq_true, Bool.or_eq_false_iff, beq_eq_false_iff_ne] at usable
          obtain ⟨named, inward⟩ := usable
          have cut := Path.cut_of_named named
          refine ⟨directory, _, ⟨checked, cut, walked, named, inward, short⟩, ?_⟩
          split at read
          · rename_i found
            rw [Except.ok.injEq] at read
            rwa [← read]
          · cases read
          · cases read

theorem fileContent_iff {disk : Disk} {path : Path} {content : Bytes} :
    disk.fileContent path = .ok content ↔ ∃ directory name, Ends disk path directory name ∧
      disk.node? (directory ++ [name]) = some (.file content) := by
  constructor
  · exact fileContent_ok
  · rintro ⟨directory, name, ends, there⟩
    exact ends.fileContent_eq there

/-! ### Directories that exist -/

theorem prefix_withoutSlash (path : Path) : (withoutSlash path).segments <+: path.segments :=
  Path.prefix_dropWhile_reverse _ _

theorem withoutSlash_ne (path : Path) : (withoutSlash path).segments ≠ [""] := by
  intro single
  have head := List.head?_dropWhile_not (fun segment : String => segment == "") path.segments.reverse
  have last : (path.segments.reverse.dropWhile fun segment : String => segment == "") = [""] := by
    have reversed := congrArg List.reverse single
    simpa [withoutSlash] using reversed
  rw [last] at head
  simp at head

theorem isDirectory_ok {disk : Disk} {path : Path} (directory : disk.isDirectory path = true) :
    checkPath path = .ok () ∧ ∃ location, disk.walk path.segments = .ok location := by
  simp only [isDirectory, bind, Except.bind] at directory
  cases checked : checkPath path with
  | error error => simp [checked, Except.isOk, Except.toBool] at directory
  | ok _ =>
    cases walked : disk.walk path.segments with
    | error error => simp [checked, walked, Except.isOk, Except.toBool] at directory
    | ok location => exact ⟨rfl, location, rfl⟩

theorem makeDirectory_of_isDirectory {disk : Disk} {path : Path}
    (directory : disk.isDirectory path = true) :
    disk.makeDirectory path = .error .alreadyExists := by
  obtain ⟨checked, location, walked⟩ := isDirectory_ok directory
  have above := prefix_withoutSlash path
  obtain ⟨higher, walkedUp⟩ :=
    walk_above ((List.dropLast_prefix _).trans above) walked
  have parent : disk.parentOf (withoutSlash path) =
      .ok (higher, (withoutSlash path).segments.getLast?.getD "") := by
    simp [parentOf, checkPath_above above (withoutSlash_ne path) checked, walkedUp, bind,
      Except.bind, pure, Except.pure]
  simp only [makeDirectory, parent, bind, Except.bind, pure, Except.pure]
  split
  · rfl
  · rename_i usable
    rw [Bool.not_eq_true, Bool.or_eq_false_iff, beq_eq_false_iff_ne] at usable
    have cut := Path.cut_of_named usable.1
    obtain ⟨reached, entered⟩ := walk_above above walked
    rw [cut, walk_append, walkedUp] at entered
    simp only [Except.bind, List.foldlM_cons, List.foldlM_nil, bind_pure, enter, usable.1,
      usable.2, Bool.false_eq_true, if_false] at entered
    cases stepped : descend ((disk.node? higher).getD default)
        ((withoutSlash path).segments.getLast?.getD "") with
    | error error => simp [stepped, Except.map] at entered
    | ok below =>
      have held := (walk_sustained (fun _ held => held) walkedUp).2
      have present := node?_of_descend held stepped
      rw [if_neg (descend_ok stepped).1, present]
      rfl

theorem makeDirectories_of_isDirectory {disk : Disk} {path : Path}
    (directory : path.segments = [""] ∨ disk.isDirectory path = true) :
    disk.makeDirectories path = (.ok (), disk) := by
  rw [makeDirectories]
  cases bound : path.segments.length with
  | zero => rfl
  | succ bound =>
    rw [makeDirectoriesWithin]
    by_cases top : path.segments = [""]
    · rw [if_pos top]
    · have there := directory.resolve_left top
      rw [if_neg top, makeDirectory_of_isDirectory there]
      simp [there]

theorem isDirectory_above {disk : Disk} {path above : Path} {directory : Location} {name : String}
    (ends : Ends disk path directory name) (parent : path.parent? = some above) :
    above.segments = [""] ∨ disk.isDirectory above = true := by
  rcases Path.parent?_concat ends.cut ends.named parent with top | root | ⟨upper, named⟩
  · exact .inl top
  · refine .inr ?_
    have text : above = ⟨["", ""]⟩ := by rw [← root]
    rw [text]
    rfl
  · refine .inr ?_
    obtain ⟨location, walked⟩ := walk_above upper ends.walked
    have checked := checkPath_above (upper.trans (List.dropLast_prefix _)) named ends.checked
    rw [isDirectory, checked]
    simp [walked, bind, Except.bind, Except.isOk, Except.toBool]

theorem makeAbove_of_ends {disk : Disk} {path : Path} {directory : Location} {name : String}
    (ends : Ends disk path directory name) : disk.makeAbove path = (.ok (), disk) := by
  unfold makeAbove
  split
  · rfl
  · exact makeDirectories_of_isDirectory (isDirectory_above ends ‹_›)

end Disk

end Reconcile
