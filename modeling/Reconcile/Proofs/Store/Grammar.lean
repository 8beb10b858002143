import Mathlib.Data.List.DropRight
import Reconcile.Proofs.Entries
import Reconcile.Proofs.Store.RoundTrip

/-!
The grammar of the property text. A text is laid out in lines, of which each is cut at its first bare
equals sign, if it has one; the two halves are spelled with backslashes. A parse is the fold of the
lines that are cut, so that any text can be read, and a line without a bare equals sign is as good as
absent.
-/

namespace Reconcile.PropertyText

/-! ### Spelling -/

/-- A written text stands for a plain one. -/
inductive Spells : List Char → List Char → Prop
  | nil : Spells [] []
  | plain {c : Char} {text value : List Char} (bare : c ≠ '\\') (rest : Spells text value) :
      Spells (c :: text) (c :: value)
  | feed {text value : List Char} (rest : Spells text value) :
      Spells ('\\' :: 'n' :: text) ('\n' :: value)
  | carriage {text value : List Char} (rest : Spells text value) :
      Spells ('\\' :: 'r' :: text) ('\r' :: value)
  | escaped {c : Char} {text value : List Char} (feed : c ≠ 'n') (carriage : c ≠ 'r')
      (rest : Spells text value) : Spells ('\\' :: c :: text) (c :: value)
  /-- A backslash at the very end stands for itself. -/
  | lone : Spells ['\\'] ['\\']

theorem unescapeChar_other {c : Char} (feed : c ≠ 'n') (carriage : c ≠ 'r') : unescapeChar c = c := by
  unfold unescapeChar
  split <;> simp_all

theorem readValue_plain {c : Char} (bare : c ≠ '\\') (rest : List Char) :
    readValue (c :: rest) = c :: readValue rest := by
  rw [readValue]
  intro _ _ same
  exact absurd same bare

theorem spells_readValue (text : List Char) : Spells text (readValue text) := by
  fun_induction readValue text with
  | case1 => exact .nil
  | case2 c rest ih =>
    by_cases feed : c = 'n'
    · subst feed
      exact .feed ih
    by_cases carriage : c = 'r'
    · subst carriage
      exact .carriage ih
    rw [unescapeChar_other feed carriage]
    exact .escaped feed carriage ih
  | case3 c rest single ih =>
    by_cases slash : c = '\\'
    · subst slash
      cases rest with
      | nil => exact .lone
      | cons next others => exact absurd rfl (single next others rfl)
    · exact .plain slash ih

theorem spells_iff {text value : List Char} : Spells text value ↔ readValue text = value := by
  constructor
  · intro spells
    induction spells with
    | nil => rfl
    | plain bare _ ih => rw [readValue_plain bare, ih]
    | feed _ ih => simp [readValue, unescapeChar, ih]
    | carriage _ ih => simp [readValue, unescapeChar, ih]
    | escaped feed carriage _ ih => rw [readValue, unescapeChar_other feed carriage, ih]
    | lone => rfl
  · rintro rfl
    exact spells_readValue text

/-! ### Bare equals signs -/

def slashes (text : List Char) : Nat := (text.rtakeWhile (· == '\\')).length

theorem slashes_concat (text : List Char) (c : Char) :
    slashes (text ++ [c]) = if c = '\\' then slashes text + 1 else 0 := by
  rw [slashes, List.rtakeWhile_concat]
  by_cases slash : c = '\\'
  · simp [slash, slashes]
  · simp [slash]

theorem slashes_plain {c : Char} (bare : c ≠ '\\') (text : List Char) :
    slashes (c :: text) = slashes text := by
  induction text using List.reverseRecOn with
  | nil => exact (slashes_concat [] c).trans (if_neg bare)
  | append_singleton text last ih =>
    rw [← List.cons_append, slashes_concat, slashes_concat, ih]

/-- A backslash and the character after it are a pair, and leave the number as even or odd as it is. -/
theorem slashes_escaped (c : Char) (text : List Char) :
    slashes ('\\' :: c :: text) % 2 = slashes text % 2 := by
  induction text using List.reverseRecOn with
  | nil =>
    have pair := slashes_concat ['\\'] c
    rw [List.singleton_append] at pair
    rw [pair]
    split
    · rfl
    · rfl
  | append_singleton text last ih =>
    rw [← List.cons_append, ← List.cons_append, slashes_concat, slashes_concat]
    split
    · omega
    · rfl

/-- There is an equals sign at a place of a text, with no unpaired backslash before it. -/
def isBare (text : List Char) (place : Nat) : Bool :=
  text[place]? == some '=' && slashes (text.take place) % 2 == 0

def separator? (line : List Char) : Option Nat := (List.range line.length).find? (isBare line)

theorem isBare_zero (c : Char) (rest : List Char) : isBare (c :: rest) 0 = (c == '=') := by
  simp [isBare, slashes]

theorem isBare_plain {c : Char} (bare : c ≠ '\\') (rest : List Char) (place : Nat) :
    isBare (c :: rest) (place + 1) = isBare rest place := by
  simp [isBare, slashes_plain bare]

theorem isBare_slash (rest : List Char) : isBare ('\\' :: rest) 1 = false := by
  have one : slashes ['\\'] = 1 := rfl
  simp [isBare, one]

theorem isBare_escaped (c : Char) (rest : List Char) (place : Nat) :
    isBare ('\\' :: c :: rest) (place + 2) = isBare rest place := by
  simp [isBare, slashes_escaped]

theorem separator?_cons (c : Char) (rest : List Char) :
    separator? (c :: rest) =
      if c = '=' then some 0
      else ((List.range rest.length).find? fun place => isBare (c :: rest) (place + 1)).map (· + 1) := by
  rw [separator?, List.length_cons, List.range_succ_eq_map, List.find?_cons, isBare_zero,
    List.find?_map]
  by_cases equals : c = '='
  · rw [beq_iff_eq.mpr equals, if_pos equals]
  · rw [beq_false_of_ne equals, if_neg equals]
    rfl

theorem separator?_plain {c : Char} (bare : c ≠ '\\') (other : c ≠ '=') (rest : List Char) :
    separator? (c :: rest) = (separator? rest).map (· + 1) := by
  rw [separator?_cons, if_neg other]
  simp only [isBare_plain bare, separator?]

theorem separator?_escaped (c : Char) (rest : List Char) :
    separator? ('\\' :: c :: rest) = (separator? rest).map (· + 2) := by
  rw [separator?_cons, if_neg (by decide), List.length_cons, List.range_succ_eq_map, List.find?_cons,
    isBare_slash, List.find?_map, separator?]
  simp [Function.comp_def, isBare_escaped]

/-- A line is cut at its first bare equals sign, and both halves are read. -/
theorem splitLine_eq (line : List Char) :
    splitLine line = (separator? line).map fun place =>
      (readValue (line.take place), readValue (line.drop (place + 1))) := by
  fun_induction splitLine line with
  | case1 => rfl
  | case2 rest => simp [separator?_cons, readValue]
  | case3 c rest ih =>
    rw [separator?_escaped, ih]
    simp [Function.comp_def, readValue]
  | case4 c rest other single ih =>
    by_cases slash : c = '\\'
    · subst slash
      cases rest with
      | nil => rfl
      | cons next others => exact absurd rfl (single next others rfl)
    · rw [separator?_plain slash other, ih]
      simp [Function.comp_def, readValue_plain slash]

theorem isBare_append {line : List Char} {place : Nat} (bare : isBare line place = true)
    (more : List Char) : isBare (line ++ more) place = true := by
  simp only [isBare, Bool.and_eq_true, beq_iff_eq] at bare ⊢
  obtain ⟨equals, paired⟩ := bare
  have inside := (List.getElem?_eq_some_iff.mp equals).1
  rw [List.getElem?_append_left inside, List.take_append_of_le_length (Nat.le_of_lt inside)]
  exact ⟨equals, paired⟩

theorem separator?_eq_none_iff {line : List Char} :
    separator? line = none ↔ ∀ place, isBare line place = false := by
  rw [separator?, List.find?_eq_none]
  constructor
  · intro none place
    by_cases inside : place < line.length
    · simpa using none place (List.mem_range.mpr inside)
    · simp [isBare, List.getElem?_eq_none (Nat.le_of_not_lt inside)]
  · intro none place _
    simp [none place]

theorem splitLine_eq_none_iff {line : List Char} :
    splitLine line = none ↔ ∀ place, isBare line place = false := by
  rw [splitLine_eq, Option.map_eq_none_iff, separator?_eq_none_iff]

/-! ### Lines -/

/-- A text is laid out in rows, each of them a line with its end, and a last line that has no end.
-/
structure LaidOut (text : List Char) (rows : List (List Char × LineEnd)) (last : List Char) : Prop where
  written : text = rows.flatMap (fun row => row.1 ++ row.2.mark ++ ['\n']) ++ last
  breakless : ∀ row ∈ rows, '\n' ∉ row.1
  /-- A carriage return before a line feed belongs to the end of the line. -/
  trimmed : ∀ row ∈ rows, row.2 = .feed → row.1.getLast? ≠ some '\r'
  whole : '\n' ∉ last

def rowOf (piece : List Char) : List Char × LineEnd :=
  if piece.getLast? = some '\r' then (piece.dropLast, .returnFeed) else (piece, .feed)

theorem rowOf_mark (piece : List Char) : (rowOf piece).1 ++ (rowOf piece).2.mark = piece := by
  rw [rowOf]
  split
  · rename_i carriage
    obtain ⟨front, rfl⟩ := List.getLast?_eq_some_iff.mp carriage
    simp [LineEnd.mark]
  · simp [LineEnd.mark]

theorem LaidOut.append {front back last : List Char} {rows more : List (List Char × LineEnd)}
    (first : LaidOut front rows []) (second : LaidOut back more last) :
    LaidOut (front ++ back) (rows ++ more) last where
  written := by
    rw [first.written, second.written, List.append_nil, List.flatMap_append, List.append_assoc]
  breakless row member := (List.mem_append.mp member).elim (first.breakless row) (second.breakless row)
  trimmed row member := (List.mem_append.mp member).elim (first.trimmed row) (second.trimmed row)
  whole := second.whole

theorem laidOut_line {line : List Char} (breakless : '\n' ∉ line) :
    LaidOut (line ++ ['\n']) [rowOf line] [] where
  written := by
    rw [List.flatMap_singleton, rowOf_mark, List.append_nil]
  breakless row member := by
    rw [List.mem_singleton.mp member]
    rw [← rowOf_mark line, List.mem_append, not_or] at breakless
    exact breakless.1
  trimmed row member := by
    rw [List.mem_singleton.mp member, rowOf]
    split
    · exact nofun
    · rename_i other
      exact fun _ => other
  whole := List.not_mem_nil

theorem laidOut_last {line : List Char} (breakless : '\n' ∉ line) : LaidOut line [] line :=
  ⟨rfl, nofun, nofun, breakless⟩

theorem laidOut_join {pieces : List (List Char)} {last : List Char}
    (breakless : ∀ piece ∈ pieces ++ [last], '\n' ∉ piece) :
    LaidOut (Text.joinSegments '\n' (pieces ++ [last])) (pieces.map rowOf) last := by
  induction pieces with
  | nil => exact laidOut_last (breakless last List.mem_cons_self)
  | cons piece rest ih =>
    have first := laidOut_line (breakless piece List.mem_cons_self)
    have later := first.append (ih fun other member => breakless other (List.mem_cons_of_mem _ member))
    rw [List.append_assoc, List.singleton_append] at later
    rw [List.cons_append, Text.joinSegments]
    · exact later
    · simp

theorem exists_laidOut (text : List Char) : ∃ rows last, LaidOut text rows last := by
  obtain ⟨pieces, last, cut⟩ : ∃ pieces last, Text.segments '\n' text = pieces ++ [last] :=
    ⟨_, _, (List.dropLast_concat_getLast (Text.segments_ne_nil _ _)).symm⟩
  have laid := @laidOut_join pieces last fun piece member =>
    Text.not_mem_of_mem_segments (cut ▸ member)
  rw [← cut, Text.join_segments] at laid
  exact ⟨_, _, laid⟩

theorem LaidOut.lines_eq {text last : List Char} {rows : List (List Char × LineEnd)}
    (laid : LaidOut text rows last) :
    lines text = rows.map Prod.fst ++ [last].filter fun last => !last.isEmpty := by
  have trims : (rows.map fun row => row.1 ++ row.2.mark).map trimReturn = rows.map Prod.fst := by
    rw [List.map_map]
    exact List.map_congr_left fun row member => trimReturn_mark (laid.trimmed row member)
  rw [lines, laid.written, segments_rows laid.breakless laid.whole, List.dropLast_concat,
    List.getLast?_concat, trims]
  rfl

/-! ### Entries -/

def halves? (line : List Char) : Option (List Char × List Char) :=
  (separator? line).map fun place => (readValue (line.take place), readValue (line.drop (place + 1)))

def pair? (line : List Char) : Option (String × String) :=
  (halves? line).map fun halves => (String.ofList halves.1, String.ofList halves.2)

def takeLine (table : Table) (line : List Char) : Table :=
  match pair? line with
  | some entry => table.insert entry.1 entry.2
  | none => table

theorem takeLine_of_none {line : List Char} (malformed : pair? line = none) (table : Table) :
    takeLine table line = table := by rw [takeLine, malformed]

@[simp] theorem takeLine_nil (table : Table) : takeLine table [] = table := rfl

theorem readLine_eq (line : List Char) : readLine line = pair? line := by
  rw [readLine, splitLine_eq, pair?, halves?]

theorem ofList_filterMap (lines : List (List Char)) :
    Table.ofList (lines.filterMap readLine) = lines.foldl takeLine Table.empty := by
  rw [Table.ofList, List.foldl_filterMap]
  congr 1
  funext table line
  rw [readLine_eq, takeLine]
  cases pair? line <;> rfl

theorem toList_ofList_eq (entries : List (String × String)) :
    (Table.ofList entries).toList = Entries.placeAll entries [] := by
  induction entries using List.reverseRecOn with
  | nil => rfl
  | append_singleton entries entry ih =>
    rw [Entries.placeAll_concat, ← ih, ← Table.toList_insert, Table.ofList, Table.ofList,
      List.foldl_append]
    rfl

theorem parse_laidOut {text : String} {last : List Char} {rows : List (List Char × LineEnd)}
    (laid : LaidOut text.toList rows last) :
    parse text = (rows.map Prod.fst ++ [last]).foldl takeLine Table.empty := by
  rw [parse, read, laid.lines_eq, ofList_filterMap, List.foldl_append, List.foldl_append]
  cases last with
  | nil => exact (takeLine_nil _).symm
  | cons c rest => rfl

/-! ### Malformed lines -/

def EndsLine (text : List Char) : Prop := text = [] ∨ text.getLast? = some '\n'

theorem EndsLine.laidOut {text : List Char} (ends : EndsLine text) :
    ∃ rows, LaidOut text rows [] := by
  obtain ⟨rows, last, laid⟩ := exists_laidOut text
  have none : last = [] := by
    rw [EndsLine, laid.written] at ends
    rcases ends with empty | feed
    · exact (List.append_eq_nil_iff.mp empty).2
    · cases last with
      | nil => rfl
      | cons c rest =>
        rw [List.getLast?_append_of_ne_nil _ (List.cons_ne_nil c rest)] at feed
        exact absurd (List.mem_of_getLast? feed) laid.whole
  exact ⟨rows, none ▸ laid⟩

theorem pair?_of_bareless {line : List Char} (bareless : ∀ place, isBare line place = false) :
    pair? line = none := by
  rw [pair?, halves?, separator?_eq_none_iff.mpr bareless]
  rfl

theorem pair?_rowOf {line : List Char} (bareless : ∀ place, isBare line place = false) :
    pair? (rowOf line).1 = none := by
  apply pair?_of_bareless
  intro place
  rw [← Bool.not_eq_true]
  intro bare
  have kept := isBare_append bare (rowOf line).2.mark
  rw [rowOf_mark, bareless] at kept
  cases kept

theorem parse_without_line {front line : List Char} (ends : EndsLine front) (breakless : '\n' ∉ line)
    (bareless : ∀ place, isBare line place = false) (back : List Char) :
    parse (String.ofList (front ++ (line ++ '\n' :: back))) =
        parse (String.ofList (front ++ back)) ∧
      parse (String.ofList (front ++ line)) = parse (String.ofList front) := by
  obtain ⟨rows, closed⟩ := ends.laidOut
  obtain ⟨more, last, rest⟩ := exists_laidOut back
  have among := closed.append ((laidOut_line breakless).append rest)
  have without := closed.append rest
  have ending := closed.append (laidOut_last breakless)
  have ignored := takeLine_of_none (pair?_rowOf bareless)
  have dropped := takeLine_of_none (pair?_of_bareless bareless)
  rw [List.append_assoc, List.singleton_append] at among
  constructor
  · rw [parse_laidOut (by simpa using among), parse_laidOut (by simpa using without)]
    simp [ignored]
  · rw [parse_laidOut (by simpa using ending), parse_laidOut (by simpa using closed)]
    simp [dropped]

/-! ### The grammar -/

/-- A text is read as its lines say. However it is laid out, and every text is, its table is the fold of
its lines: a line is cut at its first bare equals sign and its halves are what their texts stand for; a
line without one, an empty line among them, leaves the table alone. So every key stands where it was
first given, with the value that was given last, and without a malformed line the text reads the same. -/
theorem parse_follows_grammar (text : String) :
    (∃ rows last, LaidOut text.toList rows last) ∧
    (∀ rows last, LaidOut text.toList rows last →
      let lines := rows.map Prod.fst ++ [last]
      let entries := lines.filterMap pair?
      parse text = lines.foldl takeLine Table.empty ∧
      (parse text).toList.map Prod.fst = (entries.map Prod.fst).eraseDups ∧
      ∀ key, (parse text).get? key =
        (entries.filter fun entry => entry.1 == key).getLast?.map Prod.snd) ∧
    (∀ line, splitLine line = halves? line ∧
      (splitLine line = none ↔ ∀ place, isBare line place = false)) ∧
    (∀ written value, readValue written = value ↔ Spells written value) ∧
    ∀ front line back, EndsLine front → '\n' ∉ line → (∀ place, isBare line place = false) →
      parse (String.ofList (front ++ (line ++ '\n' :: back))) =
          parse (String.ofList (front ++ back)) ∧
        parse (String.ofList (front ++ line)) = parse (String.ofList front) := by
  refine ⟨exists_laidOut _, ?_, fun line => ⟨splitLine_eq line, splitLine_eq_none_iff⟩,
    fun _ _ => spells_iff.symm, fun _ _ back ends breakless bareless =>
      parse_without_line ends breakless bareless back⟩
  intro rows last laid lines entries
  have folds := parse_laidOut laid
  have placed : (parse text).toList = Entries.placeAll entries [] := by
    rw [folds, ← ofList_filterMap, toList_ofList_eq]
    simp only [readLine_eq, entries, lines]
  refine ⟨folds, ?_, fun key => ?_⟩
  · rw [placed, Entries.keys_placeAll]
  · rw [Table.get?_eq_lookup, placed, Entries.lookup_placeAll]

/-- An escaped equals sign, pairs of backslashes, a key given twice, a lone backslash at the end, and a
line that is no pair. -/
theorem malformed_line_ignored :
    let line := "not\\= a pair\r".toList
    let front := "a\\\\=1\r\n".toList
    let back := "b\\==2=3\na\\\\=x\\".toList
    parse (String.ofList (front ++ (line ++ '\n' :: back))) = parse (String.ofList (front ++ back)) ∧
    (parse (String.ofList (front ++ back))).toList.map Prod.fst = ["a\\", "b="] ∧
    (parse (String.ofList (front ++ back))).get? "a\\" = some "x\\" := by
  intro line front back
  have laid : LaidOut (String.ofList (front ++ back)).toList
      [("a\\\\=1".toList, .returnFeed), ("b\\==2=3".toList, .feed)] "a\\\\=x\\".toList :=
    ⟨by decide +kernel, by decide +kernel, by decide +kernel, by decide +kernel⟩
  obtain ⟨-, read, -, -, removable⟩ := parse_follows_grammar (String.ofList (front ++ back))
  obtain ⟨-, keys, value⟩ := read _ _ laid
  have bareless := separator?_eq_none_iff.mp (show separator? line = none by decide +kernel)
  refine ⟨(removable front line back (.inr (by decide +kernel)) (by decide +kernel) bareless).1, ?_, ?_⟩
  · rw [keys]
    decide +kernel
  · rw [value]
    decide +kernel

end Reconcile.PropertyText
