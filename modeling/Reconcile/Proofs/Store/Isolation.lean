import Reconcile.Proofs.Store.Crash
import Reconcile.Proofs.Store.Interchange

/-!
Caches beside each other. The cache of a source works on two files in the cache directory, one with
the name of the source and one that is temporary. No two names share a file, even where one name looks
like a file of the other, so that whatever is done with one cache leaves the next one alone.
-/

namespace Reconcile

namespace Path

theorem parent?_of_trimmed {path : Path} {directories : List String} {name : String}
    (whole : trimmed path.segments = directories ++ [name])
    (above : trimmed directories = directories) (inside : directories ≠ [])
    (other : directories ≠ [""]) : path.parent? = some ⟨directories⟩ := by
  cases directories with
  | nil => exact absurd rfl inside
  | cons first rest =>
    have shorter : (rest ++ [name]).dropLast = rest := List.dropLast_concat
    cases others : rest ++ [name] with
    | nil => simp at others
    | cons second more =>
      rw [others] at shorter
      rw [parent?, whole, List.cons_append, others]
      simp only [shorter, above]

end Path

/-! ### Stores that are used -/

namespace Backing

/-- Carries out a request. A mishap may strike it if it is a flush of a file. -/
def performStruck (backing : Backing) (disk : Disk) (request : StoreRequest)
    (mishap : Option Mishap) : Backing × Disk :=
  match request, backing with
  | .flush, file store => (file store, (store.flush disk mishap).2)
  | request, backing => (backing.perform disk request).2

def attend : List (StoreRequest × Option Mishap) → Backing → Disk → Backing × Disk
  | [], backing, disk => (backing, disk)
  | (request, mishap) :: rest, backing, disk =>
    let (backing, disk) := backing.performStruck disk request mishap
    attend rest backing disk

end Backing

namespace PropertyFile

open Backing

variable {path other : Path} {store : PropertyFile} {disk after : Disk}

/-- A store in a file of a path went on from one disk to another, and wrote its own two files only.
-/
def Stays (path : Path) (disk : Disk) (left : Backing × Disk) : Prop :=
  (∃ store, left.1 = .file store ∧ store.path = path) ∧
    Disk.Confined (places path) (places path) disk left.2

theorem confined_flush (store : PropertyFile) (disk : Disk) (mishap : Option Mishap) :
    Disk.Confined (places store.path) (places store.path) disk (store.flush disk mishap).2 :=
  (passes_flush store disk mishap).confined locations_flushActions

theorem stays_performStruck (store : PropertyFile) (disk : Disk) (request : StoreRequest)
    (mishap : Option Mishap) :
    Stays store.path disk ((Backing.file store).performStruck disk request mishap) := by
  have still : ∀ table : Table, Stays store.path disk (.file { store with table }, disk) :=
    fun table => ⟨⟨_, rfl, rfl⟩, .refl _ _ disk⟩
  cases request with
  | get key => exact still store.table
  | contains key => exact still store.table
  | entries => exact still store.table
  | size => exact still store.table
  | set key value => exact still _
  | remove key => exact still _
  | clear => exact still _
  | flush => exact ⟨⟨store, rfl, rfl⟩, confined_flush store disk mishap⟩
  | restart =>
    have opening : Disk.Confined (places store.path) (places store.path) disk
        (openAt store.path disk).2 :=
      (confined_openAt store.path disk).mono (List.nil_subset _)
        (List.cons_subset.mpr ⟨List.mem_cons_self, List.nil_subset _⟩)
    show Stays store.path disk ((Backing.file store).perform disk .restart).2
    rw [Backing.perform, Backing.restart]
    cases opened : openAt store.path disk with
    | mk outcome last =>
      rw [opened] at opening
      cases outcome with
      | error cause => exact ⟨⟨store, rfl, rfl⟩, opening⟩
      | ok result => exact ⟨⟨result.1, rfl, (saved_of_openAt opened).1⟩, opening⟩

theorem stays_attend (named : store.path = path) (requests : List (StoreRequest × Option Mishap))
    (disk : Disk) : Stays path disk ((Backing.file store).attend requests disk) := by
  induction requests generalizing store disk with
  | nil => exact ⟨⟨store, rfl, named⟩, .refl _ _ disk⟩
  | cons request rest ih =>
    have first := stays_performStruck store disk request.1 request.2
    rw [named] at first
    obtain ⟨⟨next, same, kept⟩, confined⟩ := first
    have later := ih kept ((Backing.file store).performStruck disk request.1 request.2).2
    rw [← same] at later
    exact ⟨later.1, confined.trans later.2⟩

/-! ### Stores that are left alone -/

/-- A store is left alone: its files hold what they held, and it opens as it would have. -/
structure LeftAlone (path : Path) (disk after : Disk) : Prop where
  files : ∀ place ∈ places path, ∀ content,
    after.node? place = some (.file content) ↔ disk.node? place = some (.file content)
  read : ∀ content, disk.fileContent path = .ok content →
    after.fileContent path = .ok content ∧ openAt path after = ((openAt path disk).1, after)
  opens : ∀ first second, (openAt path disk).1 = .ok first → (openAt path after).1 = .ok second →
    first = second

theorem openAt_ok {result : PropertyFile × List Nat} (went : (openAt path disk).1 = .ok result) :
    ∃ content, opened path content = .ok result ∧
      (disk.node? path.location = some (.file content) ∨
        content = [] ∧ ∀ held, disk.node? path.location ≠ some (.file held)) := by
  have above := Disk.confined_makeAbove disk path
  rw [openAt] at went
  split at went
  · cases went
  · rename_i between made
    rw [made] at above
    split at went
    · cases went
    · rename_i content last reads
      refine ⟨content, ?_, ?_⟩
      · rw [← went, opened]
        cases content.text? <;> rfl
      · unfold Disk.openOrCreate at reads
        cases target : between.fileTarget path with
        | error cause => simp [target, bind, Except.bind] at reads
        | ok location =>
          obtain ⟨rfl, -⟩ := Disk.fileTarget_location target
          simp only [target, bind, Except.bind, pure, Except.pure] at reads
          split at reads
          · rename_i there
            obtain ⟨rfl, -⟩ := Prod.mk.inj (Except.ok.inj reads)
            exact .inl (above.made _ _ there (List.forall_mem_nil _))
          · rename_i missing
            obtain ⟨rfl, -⟩ := Prod.mk.inj (Except.ok.inj reads)
            exact .inr ⟨rfl, fun held there => missing held (above.file List.not_mem_nil there)⟩

/-- Places of one length lie beside each other, or are the same. -/
theorem leftAlone_of_confined (confined : Disk.Confined (places other) (places other) disk after)
    (apart : ∀ place ∈ places path, ∀ there ∈ places other, ¬ there <+: place) :
    LeftAlone path disk after := by
  have elsewhere : ∀ place ∈ places path, place ∉ places other :=
    fun place member there => apart place member place there (List.prefix_refl place)
  have own : path.location ∈ places path := List.mem_cons_self
  have files : ∀ place ∈ places path, ∀ content,
      after.node? place = some (.file content) ↔ disk.node? place = some (.file content) :=
    fun place member content => ⟨fun there => confined.made place content there (apart place member),
      fun there => confined.file (elsewhere place member) there⟩
  refine ⟨files, ?_, ?_⟩
  · intro content read
    have again := confined.fileContent (elsewhere _ own) read
    refine ⟨again, ?_⟩
    rw [openAt_of_file read, openAt_of_file again]
  · intro first second before later
    obtain ⟨old, opensOld, holdsOld⟩ := openAt_ok before
    obtain ⟨new, opensNew, holdsNew⟩ := openAt_ok later
    -- Both openings read the file, or there was none for either and it is empty.
    have same : old = new := by
      simp only [ne_eq, files _ own] at holdsNew
      rcases holdsOld with held | ⟨rfl, missing⟩
      · rcases holdsNew with there | ⟨-, missing⟩
        · rw [held] at there
          exact Node.file.inj (Option.some.inj there)
        · exact absurd held (missing old)
      · rcases holdsNew with there | ⟨rfl, -⟩
        · exact absurd there (missing new)
        · rfl
    rw [same, opensNew] at opensOld
    exact (Except.ok.inj opensOld).symm

/-! ### Caches by name -/

variable {configuration : Path} {name : String}

theorem slashless_of_isPlainName (plain : isPlainName name = true) : '/' ∉ name.toList := by
  intro slash
  simp only [isPlainName, Bool.and_eq_true, List.all_eq_true] at plain
  have refused := plain.2 '/' slash
  simp at refused

theorem segments_cacheDirectory (configuration : Path) :
    ∃ directories, (configuration / cacheDirectory).segments = directories ++ [cacheDirectory] :=
  ⟨_, Path.segments_join_name (by decide)⟩

structure CacheFile (configuration : Path) (name : String) (path : Path) : Prop where
  cut : path.segments = (configuration / cacheDirectory).segments ++ [name ++ cacheExtension]
  named : Path.isBlank (name ++ cacheExtension) = false
  inward : name ++ cacheExtension ≠ ".."
  slashless : '/' ∉ (name ++ cacheExtension).toList

theorem cacheFile_spec (configuration : Path) (plain : isPlainName name = true) :
    CacheFile configuration name (cacheFile configuration name) := by
  have slashless : '/' ∉ (name ++ cacheExtension).toList :=
    Path.slashless_append (slashless_of_isPlainName plain) (by decide)
  obtain ⟨named, inward⟩ := Path.named_append name (show 2 < cacheExtension.length by decide)
  refine ⟨?_, named, inward, slashless⟩
  obtain ⟨directories, whole⟩ := segments_cacheDirectory configuration
  have given : (configuration / cacheDirectory).segments.getLast? ≠ some "" := by
    rw [whole, List.getLast?_concat]
    decide
  rw [cacheFile, Path.segments_join_name slashless, if_neg given]

theorem CacheFile.parent? {path : Path} (file : CacheFile configuration name path) :
    path.parent? = some (configuration / cacheDirectory) := by
  obtain ⟨directories, whole⟩ := segments_cacheDirectory configuration
  have above : Path.trimmed (configuration / cacheDirectory).segments =
      (configuration / cacheDirectory).segments := by
    rw [whole]
    exact Path.trimmed_concat (by decide)
  have cut : Path.trimmed path.segments =
      (configuration / cacheDirectory).segments ++ [name ++ cacheExtension] := by
    rw [file.cut]
    exact Path.trimmed_concat file.named
  have inside : (configuration / cacheDirectory).segments ≠ [] := by
    rw [whole]
    exact List.concat_ne_nil _ _
  have other : (configuration / cacheDirectory).segments ≠ [""] := by
    rw [whole]
    intro blank
    have last := congrArg List.getLast? blank
    rw [List.getLast?_concat] at last
    revert last
    decide
  exact Path.parent?_of_trimmed cut above inside other

theorem CacheFile.fileName? {path : Path} (file : CacheFile configuration name path) :
    path.fileName? = some (name ++ cacheExtension) :=
  Path.fileName?_concat file.cut file.named file.inward

def fileNames (name : String) : List String :=
  [name ++ cacheExtension, name ++ cacheExtension ++ ".tmp"]

theorem places_cacheFile (plain : isPlainName name = true) :
    places (cacheFile configuration name) =
      (fileNames name).map fun file => (configuration / cacheDirectory).location ++ [file] := by
  have file := cacheFile_spec configuration plain
  have there : (cacheFile configuration name).location =
      (configuration / cacheDirectory).location ++ [name ++ cacheExtension] :=
    Path.location_join_name file.slashless file.named file.inward
  rw [places, location_temporaryPath file.fileName? file.slashless, there, List.dropLast_concat]
  rfl

theorem append_ending_inj {one two ending : String} (same : one ++ ending = two ++ ending) :
    one = two := by
  have texts := congrArg String.toList same
  rw [String.toList_append, String.toList_append] at texts
  exact String.toList_inj.mp (List.append_cancel_right texts)

/-- The files of two caches differ before their endings, or else the endings are not the same. -/
theorem fileNames_ne {other : String} (different : name ≠ other) :
    ∀ mine ∈ fileNames name, ∀ its ∈ fileNames other, mine ≠ its := by
  -- A name may end in an ending itself, but the last letters of the two kinds differ.
  have kinds : ∀ one two : String, one ++ cacheExtension ≠ two ++ cacheExtension ++ ".tmp" := by
    intro one two same
    have durable : cacheExtension.toList.getLast? = some 't' := by decide
    have temporary : (".tmp" : String).toList.getLast? = some 'p' := by decide
    have last := congrArg (fun text : String => text.toList.getLast?) same
    simp only [String.toList_append, List.getLast?_append, durable, temporary, Option.some_or] at last
    cases last
  simp only [fileNames, List.mem_cons, List.not_mem_nil, or_false]
  rintro mine (rfl | rfl) its (rfl | rfl)
  · exact fun same => different (append_ending_inj same)
  · exact kinds name other
  · exact fun same => kinds other name same.symm
  · exact fun same => different (append_ending_inj (append_ending_inj same))

theorem not_prefix_of_places (configuration : Path) {other : String} (plain : isPlainName name = true)
    (plainToo : isPlainName other = true) (different : name ≠ other) :
    ∀ place ∈ places (cacheFile configuration other),
      ∀ there ∈ places (cacheFile configuration name), ¬ there <+: place := by
  rw [places_cacheFile plain, places_cacheFile plainToo]
  intro place member there present within
  obtain ⟨its, listed, rfl⟩ := List.mem_map.mp member
  obtain ⟨mine, named, rfl⟩ := List.mem_map.mp present
  have same := within.eq_of_length (by simp)
  exact fileNames_ne different mine named its listed
    (List.singleton_inj.mp (List.append_cancel_left same))

theorem openAt_reads {malformed : List Nat}
    (went : (openAt path disk).1 = .ok (store, malformed)) :
    ∃ content text, content.text? = some text ∧
      (disk.node? path.location = some (.file content) ∨
        content = [] ∧ ∀ held, disk.node? path.location ≠ some (.file held)) ∧
      store = { path, table := PropertyText.parse text } ∧
      malformed = (PropertyText.read text).malformed := by
  obtain ⟨content, opens, holds⟩ := openAt_ok went
  rw [opened] at opens
  split at opens
  · cases opens
  · rename_i text encoded
    cases opens
    exact ⟨content, text, encoded, holds, rfl, rfl⟩

/-- A cache is opened at a file in the cache directory that has the name of the source, or not at all
if the name could lead elsewhere. It holds the entries of that file then, and none if the file was
missing; a file that is there is read as it is. Whatever is requested of it, with flushes that fail or
are cut off, changes that file and the temporary one beside it at most. These are never the files of
another cache, so that the other caches are left alone. -/
theorem caches_isolated (configuration : Path) (name : String) :
    (isPlainName name = false →
      ∀ disk, openNamed configuration name disk = (.error (.invalidName name), disk)) ∧
    (isPlainName name = true →
      (∀ disk, openNamed configuration name disk = openAt (cacheFile configuration name) disk) ∧
      (∀ disk store malformed, (openNamed configuration name disk).1 = .ok (store, malformed) →
        ∃ content text, content.text? = some text ∧
          (disk.node? (cacheFile configuration name).location = some (.file content) ∨
            content = [] ∧
              ∀ held, disk.node? (cacheFile configuration name).location ≠ some (.file held)) ∧
          store = { path := cacheFile configuration name, table := PropertyText.parse text } ∧
          malformed = (PropertyText.read text).malformed) ∧
      (∀ disk content, disk.fileContent (cacheFile configuration name) = .ok content →
        openNamed configuration name disk = (opened (cacheFile configuration name) content, disk)) ∧
      (cacheFile configuration name).parent? = some (configuration / "item_cache") ∧
      (cacheFile configuration name).fileName? = some (name ++ ".dat") ∧
      places (cacheFile configuration name) =
        [(configuration / "item_cache").location ++ [name ++ ".dat"],
          (configuration / "item_cache").location ++ [name ++ ".dat" ++ ".tmp"]] ∧
      (∀ store : PropertyFile, store.path = cacheFile configuration name → ∀ requests disk,
        Disk.Confined (places (cacheFile configuration name)) (places (cacheFile configuration name))
          disk ((Backing.file store).attend requests disk).2) ∧
      ∀ other, isPlainName other = true → name ≠ other →
        (∀ path ∈ [cacheFile configuration name, temporaryPath (cacheFile configuration name)],
          path ∉ [cacheFile configuration other, temporaryPath (cacheFile configuration other)]) ∧
        (∀ place ∈ places (cacheFile configuration name),
          place ∉ places (cacheFile configuration other)) ∧
        ∀ store : PropertyFile, store.path = cacheFile configuration name → ∀ requests disk,
          LeftAlone (cacheFile configuration other) disk
            ((Backing.file store).attend requests disk).2) := by
  refine ⟨fun refused disk => by rw [openNamed, refused, if_neg Bool.false_ne_true], fun plain => ?_⟩
  have file := cacheFile_spec configuration plain
  have opens : ∀ disk, openNamed configuration name disk = openAt (cacheFile configuration name) disk :=
    fun disk => by rw [openNamed, plain, if_pos rfl]
  refine ⟨opens, ?_, ?_, file.parent?, file.fileName?, places_cacheFile plain,
    fun store named requests disk => (stays_attend named requests disk).2, ?_⟩
  · intro disk store malformed went
    rw [opens] at went
    exact openAt_reads went
  · intro disk content read
    rw [opens, openAt_of_file read]
  intro other plainToo different
  have apart := not_prefix_of_places configuration plain plainToo different
  have places_ne : ∀ place ∈ places (cacheFile configuration name),
      place ∉ places (cacheFile configuration other) :=
    fun place mine its => apart place its place mine (List.prefix_refl place)
  refine ⟨?_, places_ne, ?_⟩
  · intro path mine its
    have member : ∀ cache, path ∈ [cache, temporaryPath cache] → path.location ∈ places cache :=
      fun cache listed => List.mem_map_of_mem listed
    exact places_ne _ (member _ mine) (member _ its)
  · intro store named requests disk
    exact leftAlone_of_confined (stays_attend named requests disk).2 apart

/-- The caches of two sources, the second of which is named like the file of the first. -/
def twins : Disk :=
  { entries := [("conf", .directory [("item_cache", .directory
      [("a.dat", .file (.ofText "k=1\n")), ("a.dat.dat", .file (.ofText "k=2\n"))])])] }

/-- The disk runs full in the first of two flushes. -/
def retried : List (StoreRequest × Option Mishap) :=
  [(.restart, none), (.set "k" "9", none), (.flush, some fullDisk), (.flush, none)]

theorem twin_left_alone :
    openNamed ⟨["", "conf"]⟩ "../a" twins = (.error (.invalidName "../a"), twins) ∧
      openNamed ⟨["", "conf"]⟩ "a.dat" twins =
        (opened (cacheFile ⟨["", "conf"]⟩ "a.dat") (.ofText "k=2\n"), twins) ∧
      let after := ((Backing.file { path := cacheFile ⟨["", "conf"]⟩ "a" }).attend retried twins).2
      after.fileContent (cacheFile ⟨["", "conf"]⟩ "a") = .ok (.ofText "k=9\n") ∧
        LeftAlone (cacheFile ⟨["", "conf"]⟩ "a.dat") twins after := by
  have refused := (caches_isolated ⟨["", "conf"]⟩ "../a").1 (by decide) twins
  obtain ⟨-, -, reads, -⟩ := (caches_isolated ⟨["", "conf"]⟩ "a.dat").2 (by decide)
  obtain ⟨-, -, -, -, -, -, -, others⟩ := (caches_isolated ⟨["", "conf"]⟩ "a").2 (by decide)
  obtain ⟨-, -, alone⟩ := others "a.dat" (by decide) (by decide)
  exact ⟨refused, reads twins _ rfl, rfl, alone _ rfl retried twins⟩

end PropertyFile

end Reconcile
