import Reconcile.Store.PropertyText

/-!
Reading a rendered table gives its entries back in order. An escaped text holds no bare separator
and no line break, so that every entry is one line and every line is cut where it was joined.
-/

namespace Reconcile.PropertyText

/-! ### One line -/

theorem escapeChar_plain {c : Char} (slash : c ≠ '\\') (separator : c ≠ '=') (feed : c ≠ '\n')
    (carriage : c ≠ '\r') : escapeChar c = [c] := by
  unfold escapeChar
  split <;> simp_all

theorem escape_cons (c : Char) (text : List Char) :
    escape (c :: text) = escapeChar c ++ escape text := rfl

theorem readValue_escapeChar (c : Char) (rest : List Char) :
    readValue (escapeChar c ++ rest) = c :: readValue rest := by
  by_cases slash : c = '\\'
  · subst slash; rfl
  by_cases separator : c = '='
  · subst separator; rfl
  by_cases feed : c = '\n'
  · subst feed; rfl
  by_cases carriage : c = '\r'
  · subst carriage; rfl
  rw [escapeChar_plain slash separator feed carriage, List.singleton_append, readValue]
  intro _ _ equal
  exact absurd equal slash

theorem readValue_escape (text : List Char) : readValue (escape text) = text := by
  induction text with
  | nil => rfl
  | cons c rest ih => rw [escape_cons, readValue_escapeChar, ih]

theorem splitLine_escapeChar (c : Char) (rest : List Char) :
    splitLine (escapeChar c ++ rest) =
      (splitLine rest).map fun (key, value) => (c :: key, value) := by
  by_cases slash : c = '\\'
  · subst slash; rfl
  by_cases separator : c = '='
  · subst separator; rfl
  by_cases feed : c = '\n'
  · subst feed; rfl
  by_cases carriage : c = '\r'
  · subst carriage; rfl
  rw [escapeChar_plain slash separator feed carriage, List.singleton_append, splitLine]
  · intro equal
    exact absurd equal separator
  · intro _ _ equal
    exact absurd equal slash

theorem splitLine_escape (key value : List Char) :
    splitLine (escape key ++ '=' :: value) = some (key, readValue value) := by
  induction key with
  | nil => rfl
  | cons c rest ih => rw [escape_cons, List.append_assoc, splitLine_escapeChar, ih, Option.map_some]

theorem escape_breakless {text : List Char} {c : Char} (member : c ∈ escape text) :
    c ≠ '\n' ∧ c ≠ '\r' := by
  obtain ⟨source, _, member⟩ := List.mem_flatMap.mp member
  unfold escapeChar at member
  split at member <;> simp only [List.mem_cons, List.not_mem_nil, or_false] at member
  · rcases member with rfl | rfl <;> decide
  · rcases member with rfl | rfl <;> decide
  · rcases member with rfl | rfl <;> decide
  · rcases member with rfl | rfl <;> decide
  · subst member
    exact ⟨by assumption, by assumption⟩

/-! ### The whole text -/

def lineOf (entry : String × String) : List Char :=
  escape entry.1.toList ++ '=' :: escape entry.2.toList

theorem lineOf_breakless {entry : String × String} {c : Char} (member : c ∈ lineOf entry) :
    c ≠ '\n' ∧ c ≠ '\r' := by
  rcases List.mem_append.mp member with key | value
  · exact escape_breakless key
  · rcases List.mem_cons.mp value with rfl | value
    · decide
    · exact escape_breakless value

theorem lineOf_ne_nil (entry : String × String) : lineOf entry ≠ [] := by simp [lineOf]

theorem splitLine_lineOf (entry : String × String) :
    splitLine (lineOf entry) = some (entry.1.toList, entry.2.toList) := by
  rw [lineOf, splitLine_escape, readValue_escape]

theorem readLine_lineOf (entry : String × String) : readLine (lineOf entry) = some entry := by
  rw [readLine, splitLine_lineOf, Option.map_some]
  simp

/-- How the lines of a file end: with a line feed, which has a carriage return before it on some
systems. -/
inductive LineEnd where
  | feed
  | returnFeed
  deriving DecidableEq

def LineEnd.mark : LineEnd → List Char
  | feed => []
  | returnFeed => ['\r']

def renderLine (ending : LineEnd) (entry : String × String) : List Char :=
  lineOf entry ++ ending.mark ++ ['\n']

def renderWith (ending : LineEnd) (table : Table) : String :=
  String.ofList (table.toList.flatMap (renderLine ending))

theorem renderEntry_eq : renderEntry = renderLine .feed := by
  funext entry
  simp [renderEntry, renderLine, lineOf, LineEnd.mark]

theorem render_eq (table : Table) : render table = renderWith .feed table := by
  rw [render, renderWith, renderEntry_eq]

theorem trimReturn_mark {line : List Char} {ending : LineEnd}
    (trimmed : ending = .feed → line.getLast? ≠ some '\r') :
    trimReturn (line ++ ending.mark) = line := by
  cases ending with
  | returnFeed => simp [trimReturn, LineEnd.mark]
  | feed => rw [LineEnd.mark, List.append_nil, trimReturn, if_neg (trimmed rfl)]

theorem segments_line {line : List Char} (whole : '\n' ∉ line) (rest : List Char) :
    Text.segments '\n' (line ++ '\n' :: rest) = line :: Text.segments '\n' rest := by
  induction line with
  | nil => rw [List.nil_append, Text.segments, if_pos rfl]
  | cons c others ih =>
    rw [List.mem_cons, not_or] at whole
    rw [List.cons_append, Text.segments, if_neg (Ne.symm whole.1), ih whole.2]

theorem segments_rows {rows : List (List Char × LineEnd)} (breakless : ∀ row ∈ rows, '\n' ∉ row.1)
    {last : List Char} (whole : '\n' ∉ last) :
    Text.segments '\n' (rows.flatMap (fun row => row.1 ++ row.2.mark ++ ['\n']) ++ last) =
      rows.map (fun row => row.1 ++ row.2.mark) ++ [last] := by
  induction rows with
  | nil => exact Text.segments_of_not_mem whole
  | cons row rest ih =>
    obtain ⟨line, ending⟩ := row
    have marked : '\n' ∉ line ++ ending.mark := by
      rw [List.mem_append, not_or]
      refine ⟨breakless _ List.mem_cons_self, ?_⟩
      cases ending <;> decide
    have later := ih fun row member => breakless row (List.mem_cons_of_mem _ member)
    rw [List.flatMap_cons, List.append_assoc, List.append_assoc, List.singleton_append,
      segments_line marked, later, List.map_cons, List.cons_append]

theorem segments_render (ending : LineEnd) (entries : List (String × String)) :
    Text.segments '\n' (entries.flatMap (renderLine ending)) =
      entries.map (fun entry => lineOf entry ++ ending.mark) ++ [[]] := by
  have breakless : ∀ row ∈ entries.map fun entry => (lineOf entry, ending), '\n' ∉ row.1 := by
    intro row member feed
    obtain ⟨entry, -, rfl⟩ := List.mem_map.mp member
    exact (lineOf_breakless feed).1 rfl
  have rows := segments_rows breakless List.not_mem_nil
  rw [List.append_nil, List.flatMap_map, List.map_map] at rows
  exact rows

theorem lines_render (ending : LineEnd) (entries : List (String × String)) :
    lines (entries.flatMap (renderLine ending)) = entries.map lineOf := by
  have trimmed : (entries.map fun entry => lineOf entry ++ ending.mark).map trimReturn =
      entries.map lineOf := by
    rw [List.map_map]
    exact List.map_congr_left fun entry _ => trimReturn_mark fun _ last =>
      (lineOf_breakless (List.mem_of_getLast? last)).2 rfl
  rw [lines, segments_render, List.dropLast_concat, List.getLast?_concat, trimmed]
  simp

theorem filterMap_readLine (entries : List (String × String)) :
    (entries.map lineOf).filterMap readLine = entries := by
  induction entries with
  | nil => rfl
  | cons entry rest ih => rw [List.map_cons, List.filterMap_cons_some (readLine_lineOf entry), ih]

theorem not_isMalformed_lineOf (entry : String × String) : isMalformed (lineOf entry) = false := by
  rw [isMalformed, splitLine_lineOf, Option.isNone_some, Bool.and_false]

theorem read_renderWith (ending : LineEnd) (table : Table) :
    (read (renderWith ending table)).table.toList = table.toList ∧
      (read (renderWith ending table)).malformed = [] := by
  simp only [read, renderWith, String.toList_ofList, lines_render, filterMap_readLine]
  refine ⟨Table.toList_ofList table.nodup_keys, ?_⟩
  rw [List.map_eq_nil_iff, List.filter_eq_nil_iff]
  intro line member
  obtain ⟨entry, _, same⟩ := List.mem_map.mp (List.fst_mem_of_mem_zipIdx member)
  rw [← same, not_isMalformed_lineOf]
  exact Bool.false_ne_true

/-- A rendered table is read back without a malformed line. -/
theorem toList_read_render (table : Table) :
    (read (render table)).table.toList = table.toList ∧ (read (render table)).malformed = [] := by
  rw [render_eq]
  exact read_renderWith .feed table

/-- A table is parsed from its text with the same entries in the same order. However the lines of the
text end, each of them is that of one entry: no line is merged with another or trimmed, none is empty
or malformed, and every one is cut between its key and its value. -/
theorem rendered_table_parses (table : Table) :
    (parse (render table)).toList = table.toList ∧
    render table = renderWith .feed table ∧
    (∀ ending, let text := renderWith ending table
      (parse text).toList = table.toList ∧ (read text).malformed = [] ∧
      Text.segments '\n' text.toList =
        table.toList.map (fun entry => lineOf entry ++ ending.mark) ++ [[]] ∧
      lines text.toList = table.toList.map lineOf) ∧
    ∀ entry, lineOf entry ≠ [] ∧ splitLine (lineOf entry) = some (entry.1.toList, entry.2.toList) := by
  refine ⟨(toList_read_render table).1, render_eq table, fun ending => ?_,
    fun entry => ⟨lineOf_ne_nil entry, splitLine_lineOf entry⟩⟩
  obtain ⟨entries, clean⟩ := read_renderWith ending table
  refine ⟨entries, clean, ?_, ?_⟩
  · rw [renderWith, String.toList_ofList, segments_render]
  · rw [renderWith, String.toList_ofList, lines_render]

end Reconcile.PropertyText
