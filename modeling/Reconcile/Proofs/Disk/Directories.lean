import Reconcile.Disk.Action
import Reconcile.Entries

/-!
Directories under writes. A write to a file keeps every directory, so that a walk ends where it
ended before, and the next write to a path meets the same location.
-/

namespace Reconcile

namespace Node

theorem assign_some (name : String) (node : Node) (entries : List (String × Node)) :
    assign name (some node) entries = Entries.place name node entries := by
  induction entries with
  | nil => rfl
  | cons entry rest ih =>
    rw [assign, Entries.place, ih]
    split <;> rfl

theorem lookup_assign_of_ne {name other : String} (different : other ≠ name) (node : Option Node)
    (entries : List (String × Node)) :
    (assign name node entries).lookup other = entries.lookup other := by
  cases node with
  | some node => rw [assign_some, Entries.lookup_place, if_neg different]
  | none =>
    induction entries with
    | nil => rfl
    | cons entry rest ih =>
      rw [assign, Entries.lookup_cons]
      by_cases same : entry.1 = name
      · rw [if_pos same, if_neg (same ▸ different)]
        rfl
      · rw [if_neg same, Entries.lookup_cons, ih]

def HoldsDirectory (tree : Node) (location : Location) : Prop :=
  (tree.find? location).any isDirectory = true

theorem isDirectory_replace (node : Option Node) (location : Location) (tree : Node) :
    (tree.replace node location).isDirectory = tree.isDirectory := by
  unfold replace
  split
  · rfl
  · split <;> rfl
  · rfl

/-- What a node shows of itself: the content of a file, and nothing for a directory. -/
def shown : Node → Option Bytes
  | file content => some content
  | directory _ => none

theorem shown_eq_none {node : Node} : node.shown = none ↔ node.isDirectory = true := by
  cases node <;> simp [shown, isDirectory]

theorem shown_eq_some {found : Option Node} {content : Bytes} :
    found.map shown = some (some content) ↔ found = some (file content) := by
  rcases found with _ | node
  · simp
  · cases node <;> simp [shown]

theorem holdsDirectory_iff {tree : Node} {location : Location} :
    tree.HoldsDirectory location ↔ (tree.find? location).map shown = some none := by
  rw [HoldsDirectory]
  cases tree.find? location with
  | none => simp
  | some node => simp [shown_eq_none]

theorem shown_replace {node : Option Node} {location other : Location} {tree : Node}
    (outside : ¬ location <+: other) :
    ((tree.replace node location).find? other).map shown = (tree.find? other).map shown := by
  induction location generalizing other tree with
  | nil => exact absurd List.nil_prefix outside
  | cons name rest ih =>
    cases tree with
    | file content => simp [replace]
    | directory kept =>
      cases other with
      | nil =>
        have still := isDirectory_replace node (name :: rest) (directory kept)
        rw [find?, find?, Option.map_some, Option.map_some, shown_eq_none.mpr still]
        rfl
      | cons step steps =>
        cases rest with
        | nil =>
          have different : step ≠ name := by
            rintro rfl
            exact outside (List.prefix_append [step] steps)
          show (((assign name node kept).lookup step).bind (find? steps)).map shown = _
          rw [lookup_assign_of_ne different]
          rfl
        | cons next others =>
          rw [replace]
          cases found : kept.lookup name with
          | none => rfl
          | some below =>
            show (((assign name _ kept).lookup step).bind (find? steps)).map shown =
              ((kept.lookup step).bind (find? steps)).map shown
            by_cases same : step = name
            · subst same
              rw [assign_some, Entries.lookup_place, if_pos rfl, found]
              exact ih fun deeper => outside ((List.prefix_cons_inj step).mpr deeper)
            · rw [lookup_assign_of_ne same]

theorem holdsDirectory_of_append {tree : Node} {upper lower : Location}
    (held : tree.HoldsDirectory (upper ++ lower)) : tree.HoldsDirectory upper := by
  rw [HoldsDirectory, find?_append] at held
  rw [HoldsDirectory]
  cases found : tree.find? upper with
  | none => simp [found] at held
  | some node =>
    rw [found, Option.bind_some] at held
    cases node with
    | directory entries => rfl
    | file content =>
      cases lower with
      | nil => simp [find?, isDirectory] at held
      | cons name rest => simp [find?, child?, entries] at held

theorem find?_replace_self (node : Node) (name : String) {above : Location} {tree : Node}
    (held : tree.HoldsDirectory above) :
    (tree.replace (some node) (above ++ [name])).find? (above ++ [name]) = some node := by
  induction above generalizing tree with
  | nil =>
    cases tree with
    | file content => simp [HoldsDirectory, find?, isDirectory] at held
    | directory held =>
      simp [replace, find?, child?, entries, assign_some, Entries.lookup_place]
  | cons first rest ih =>
    cases tree with
    | file content => simp [HoldsDirectory, find?, child?, entries] at held
    | directory held' =>
      cases found : held'.lookup first with
      | none => simp [HoldsDirectory, find?, child?, entries, found] at held
      | some below =>
        have deeper : below.HoldsDirectory rest := by
          simpa [HoldsDirectory, find?, child?, entries, found] using held
        obtain ⟨next, others, split⟩ : ∃ next others, rest ++ [name] = next :: others := by
          cases rest <;> exact ⟨_, _, rfl⟩
        have written := ih deeper
        rw [split] at written
        rw [List.cons_append, split, replace, found]
        simpa [find?, child?, entries, assign_some, Entries.lookup_place] using written

theorem holdsDirectory_replace {node : Option Node} {location other : Location} {tree : Node}
    (outside : ¬ location <+: other) (held : tree.HoldsDirectory other) :
    (tree.replace node location).HoldsDirectory other := by
  rw [holdsDirectory_iff] at held ⊢
  rw [shown_replace outside]
  exact held

theorem holdsDirectory_of_replace {content : Bytes} {location other : Location} {tree : Node}
    (held : (tree.replace (some (file content)) location).HoldsDirectory other) :
    tree.HoldsDirectory other := by
  induction location generalizing other tree with
  | nil => exact held
  | cons name rest ih =>
    cases tree with
    | file old => simpa [replace] using held
    | directory kept =>
      cases other with
      | nil => rfl
      | cons step steps =>
        show ((kept.lookup step).bind (find? steps)).any isDirectory = true
        cases rest with
        | nil =>
          have entered : (((assign name (some (file content)) kept).lookup step).bind
            (find? steps)).any isDirectory = true := held
          rw [assign_some, Entries.lookup_place] at entered
          split at entered
          · cases steps <;> simp [find?, child?, entries, isDirectory] at entered
          · exact entered
        | cons next others =>
          rw [replace] at held
          cases found : kept.lookup name with
          | none =>
            rw [found] at held
            exact held
          | some below =>
            rw [found] at held
            have entered : (((assign name (some (replace (some (file content)) (next :: others) below))
              kept).lookup step).bind (find? steps)).any isDirectory = true := held
            rw [assign_some, Entries.lookup_place] at entered
            split at entered
            · rename_i same
              rw [same, found]
              exact ih entered
            · exact entered

theorem find?_replace_file {node : Option Node} {content : Bytes} {location other : Location}
    {tree : Node} (outside : ¬ location <+: other) :
    (tree.replace node location).find? other = some (file content) ↔
      tree.find? other = some (file content) := by
  rw [← shown_eq_some, ← shown_eq_some, shown_replace outside]

theorem isDirectory_find?_replace (one other : Bytes) (location place : Location) (tree : Node) :
    ((tree.replace (some (file one)) location).find? place).map isDirectory =
      ((tree.replace (some (file other)) location).find? place).map isDirectory := by
  induction location generalizing place tree with
  | nil => rfl
  | cons name rest ih =>
    cases tree with
    | file content => simp [replace]
    | directory kept =>
      cases place with
      | nil => simp [find?, isDirectory_replace]
      | cons step steps =>
        cases rest with
        | nil =>
          show (((assign name _ kept).lookup step).bind (find? steps)).map isDirectory =
            (((assign name _ kept).lookup step).bind (find? steps)).map isDirectory
          rw [assign_some, assign_some, Entries.lookup_place, Entries.lookup_place]
          split
          · cases steps <;> rfl
          · rfl
        | cons next others =>
          rw [replace, replace]
          cases kept.lookup name with
          | none => rfl
          | some below =>
            show (((assign name _ kept).lookup step).bind (find? steps)).map isDirectory =
              (((assign name _ kept).lookup step).bind (find? steps)).map isDirectory
            rw [assign_some, assign_some, Entries.lookup_place, Entries.lookup_place]
            split
            · exact ih steps below
            · rfl

end Node

namespace Disk

theorem top_set (disk : Disk) (location : Location) (node : Node) :
    (disk.set location node).top = disk.top.replace (some node) location := by
  have directory := Node.isDirectory_replace (some node) location disk.top
  rw [set, top]
  cases replaced : disk.top.replace (some node) location with
  | file content => rw [replaced] at directory; cases directory
  | directory entries => rfl

theorem top_erase (disk : Disk) (location : Location) :
    (disk.erase location).top = disk.top.replace none location := by
  have directory := Node.isDirectory_replace none location disk.top
  rw [erase, top]
  cases replaced : disk.top.replace none location with
  | file content => rw [replaced] at directory; cases directory
  | directory entries => rfl

theorem node?_set_self {disk : Disk} {above : Location} (held : disk.holdsDirectory above)
    (name : String) (node : Node) :
    (disk.set (above ++ [name]) node).node? (above ++ [name]) = some node := by
  rw [node?, top_set]
  exact Node.find?_replace_self node name held

def Sustains (disk after : Disk) : Prop :=
  ∀ location, disk.holdsDirectory location → after.holdsDirectory location

theorem holdsDirectory_set {disk : Disk} {location other : Location}
    (outside : ¬ location <+: other) (node : Node) (held : disk.holdsDirectory other) :
    (disk.set location node).holdsDirectory other := by
  rw [holdsDirectory, node?, top_set]
  exact Node.holdsDirectory_replace outside held

theorem holdsDirectory_erase {disk : Disk} {location other : Location}
    (outside : ¬ location <+: other) (held : disk.holdsDirectory other) :
    (disk.erase location).holdsDirectory other := by
  rw [holdsDirectory, node?, top_erase]
  exact Node.holdsDirectory_replace outside held

theorem not_prefix_of_file {disk : Disk} {location other : Location}
    (file : ¬ disk.holdsDirectory location) (held : disk.holdsDirectory other) :
    ¬ location <+: other := by
  rintro ⟨lower, rfl⟩
  exact file (Node.holdsDirectory_of_append held)

theorem sustains_set {disk : Disk} {location : Location} (file : ¬ disk.holdsDirectory location)
    (node : Node) : Sustains disk (disk.set location node) :=
  fun _ held => holdsDirectory_set (not_prefix_of_file file held) node held

theorem sustains_erase {disk : Disk} {location : Location}
    (file : ¬ disk.holdsDirectory location) : Sustains disk (disk.erase location) :=
  fun _ held => holdsDirectory_erase (not_prefix_of_file file held) held

theorem holdsDirectory_of_set {disk : Disk} {location other : Location} {content : Bytes}
    (held : (disk.set location (.file content)).holdsDirectory other) :
    disk.holdsDirectory other := by
  rw [holdsDirectory, node?, top_set] at held
  exact Node.holdsDirectory_of_replace held

def SameDirectories (disk after : Disk) : Prop :=
  ∀ location, after.holdsDirectory location = disk.holdsDirectory location

theorem SameDirectories.trans {disk between after : Disk} (first : SameDirectories disk between)
    (second : SameDirectories between after) : SameDirectories disk after :=
  fun location => (second location).trans (first location)

theorem SameDirectories.sustains {disk after : Disk} (same : SameDirectories disk after) :
    Sustains disk after := fun location held => (same location).trans held

theorem sameDirectories_set {disk : Disk} {location : Location}
    (file : ¬ disk.holdsDirectory location) (content : Bytes) :
    SameDirectories disk (disk.set location (.file content)) := by
  intro other
  rw [Bool.eq_iff_iff]
  exact ⟨holdsDirectory_of_set, sustains_set file _ other⟩

theorem SameDirectories.symm {disk after : Disk} (same : SameDirectories disk after) :
    SameDirectories after disk := fun location => (same location).symm

theorem not_holdsDirectory_of_file {disk : Disk} {location : Location} {content : Bytes}
    (there : disk.node? location = some (.file content)) : ¬ disk.holdsDirectory location := by
  rw [holdsDirectory, there]
  exact Bool.false_ne_true

/-! ### Walks -/

theorem holdsDirectory_dropLast {disk : Disk} {location : Location}
    (held : disk.holdsDirectory location) : disk.holdsDirectory location.dropLast := by
  rcases List.eq_nil_or_concat location with rfl | ⟨upper, name, rfl⟩
  · exact held
  · rw [List.concat_eq_append] at held ⊢
    rw [List.dropLast_concat]
    exact Node.holdsDirectory_of_append held

theorem descend_ok {here next : Node} {name : String} (entered : descend here name = .ok next) :
    ¬ maxNameBytes < name.utf8ByteSize ∧ next.isDirectory = true := by
  unfold descend at entered
  split at entered
  · cases entered
  · rename_i short
    split at entered
    · cases entered
    · cases entered
    · cases entered
      exact ⟨short, rfl⟩

theorem exists_node_of_holdsDirectory {disk : Disk} {location : Location}
    (held : disk.holdsDirectory location) : ∃ node, disk.node? location = some node := by
  cases found : disk.node? location with
  | none => simp [holdsDirectory, found] at held
  | some node => exact ⟨node, rfl⟩

theorem node?_of_descend {disk : Disk} {here : Location} {next : Node} {name : String}
    (held : disk.holdsDirectory here)
    (entered : descend ((disk.node? here).getD default) name = .ok next) :
    disk.node? (here ++ [name]) = some next := by
  obtain ⟨node, there⟩ := exists_node_of_holdsDirectory held
  rw [there, Option.getD_some] at entered
  rw [node?, Node.find?_append, ← node?, there, Option.bind_some, Node.find?,
    child?_of_descend entered, Option.bind_some, Node.find?]

theorem descend_of_directory {here next : Node} {name : String}
    (short : ¬ maxNameBytes < name.utf8ByteSize) (found : here.child? name = some next)
    (directory : next.isDirectory = true) : descend here name = .ok next := by
  cases next with
  | file content => cases directory
  | directory entries => rw [descend, if_neg short, found]

theorem enter_sustained {disk after : Disk} (sustained : Sustains disk after) {here next : Location}
    {segment : String} (held : disk.holdsDirectory here)
    (entered : disk.enter here segment = .ok next) :
    after.enter here segment = .ok next ∧ disk.holdsDirectory next := by
  unfold enter at entered ⊢
  split at entered
  · rename_i blank
    cases entered
    exact ⟨if_pos blank, held⟩
  · rename_i named
    rw [if_neg named]
    split at entered
    · rename_i upwards
      cases entered
      exact ⟨if_pos upwards, holdsDirectory_dropLast held⟩
    · rename_i downwards
      rw [if_neg downwards]
      cases stepped : descend ((disk.node? here).getD default) segment with
      | error error => simp [stepped, Except.map] at entered
      | ok below =>
        simp only [stepped, Except.map, Except.ok.injEq] at entered
        subst entered
        obtain ⟨short, directory⟩ := descend_ok stepped
        have reached := node?_of_descend held stepped
        have arrived : disk.holdsDirectory (here ++ [segment]) := by
          rw [holdsDirectory, reached]
          exact directory
        refine ⟨?_, arrived⟩
        have kept := sustained _ arrived
        rw [holdsDirectory, node?, Node.find?_append, ← node?] at kept
        obtain ⟨node, present⟩ := exists_node_of_holdsDirectory (sustained _ held)
        rw [present, Option.bind_some, Node.find?] at kept
        cases child : node.child? segment with
        | none => simp [child] at kept
        | some next =>
          rw [child, Option.bind_some, Node.find?, Option.any_some] at kept
          rw [present, Option.getD_some, descend_of_directory short child kept, Except.map]

theorem walk_sustained {disk after : Disk} (sustained : Sustains disk after)
    {segments : List String} {location : Location} (walked : disk.walk segments = .ok location) :
    after.walk segments = .ok location ∧ disk.holdsDirectory location := by
  have steps : ∀ (segments : List String) (here : Location), disk.holdsDirectory here →
      segments.foldlM disk.enter here = .ok location →
      segments.foldlM after.enter here = .ok location ∧ disk.holdsDirectory location := by
    intro segments
    induction segments with
    | nil =>
      intro here held ended
      cases ended
      exact ⟨rfl, held⟩
    | cons segment rest ih =>
      intro here held walked
      rw [List.foldlM_cons] at walked ⊢
      cases entered : disk.enter here segment with
      | error error => rw [entered] at walked; cases walked
      | ok next =>
        rw [entered] at walked
        obtain ⟨again, reached⟩ := enter_sustained sustained held entered
        rw [again]
        exact ih next reached walked
  rw [walk_eq_foldlM] at walked ⊢
  exact steps segments [] rfl walked

/-! ### Disks of the same shape -/

/-- Disks that differ at most in what their files hold. -/
def Alike (disk other : Disk) : Prop :=
  ∀ location, (disk.node? location).map Node.isDirectory =
    (other.node? location).map Node.isDirectory

theorem alike_set (disk : Disk) (location : Location) (one two : Bytes) :
    Alike (disk.set location (.file one)) (disk.set location (.file two)) := by
  intro place
  rw [node?, node?, top_set, top_set]
  exact Node.isDirectory_find?_replace one two location place disk.top

theorem child?_here (disk : Disk) (here : Location) (name : String) :
    ((disk.node? here).getD default).child? name = disk.node? (here ++ [name]) := by
  rw [node?, node?, Node.find?_append]
  cases disk.top.find? here with
  | none => rfl
  | some node =>
    show node.child? name = (node.child? name).bind (Node.find? [])
    cases node.child? name <;> rfl

namespace Alike

variable {disk other : Disk} (alike : Alike disk other)

include alike

theorem holdsDirectory_eq (location : Location) :
    disk.holdsDirectory location = other.holdsDirectory location := by
  have shape : ∀ disk : Disk, disk.holdsDirectory location =
      ((disk.node? location).map Node.isDirectory).any id := fun disk => by
    rw [Option.any_map]
    rfl
  rw [shape, shape, alike]

theorem enter_eq : disk.enter = other.enter := by
  funext here segment
  have kind := alike (here ++ [segment])
  rw [← child?_here, ← child?_here] at kind
  unfold enter descend
  split
  · rfl
  · split
    · rfl
    · split
      · rfl
      · cases one : ((disk.node? here).getD default).child? segment with
        | none =>
          rw [one, Option.map_none] at kind
          rw [Option.map_eq_none_iff.mp kind.symm]
        | some node =>
          rw [one, Option.map_some] at kind
          obtain ⟨again, two, same⟩ := Option.map_eq_some_iff.mp kind.symm
          rw [two]
          cases node <;> cases again <;> first | rfl | cases same

theorem walk_eq (segments : List String) : disk.walk segments = other.walk segments := by
  rw [walk_eq_foldlM, walk_eq_foldlM, alike.enter_eq]

theorem fileTarget_eq (path : Path) : disk.fileTarget path = other.fileTarget path := by
  simp only [fileTarget, parentOf, alike.walk_eq, alike.holdsDirectory_eq]

end Alike

end Disk

end Reconcile
