import CreativeBackend.Imports.Spreadsheet
import CreativeBackend.Runtime.Delimited
import Mathlib.Data.List.Nodup

/-!
# Columns and their keys

A parsed sheet keeps every cell if and only if no label is written like the numbered key of another
one, no row is wider than the columns that were counted, and no column is called `__proto__`.
-/

namespace CreativeBackend

namespace ImportsService

open Delimited

/-! ## Numbered keys -/

theorem toList_numberedKey {label : String} {count : Nat} (h : count ≠ 1) :
    (numberedKey label count).toList = label.toList ++ '_' :: '_' :: Nat.toDigits 10 count := by
  have hmark : "__".toList = ['_', '_'] := rfl
  have hdigits : (Nat.repr count).toList = Nat.toDigits 10 count := String.toList_ofList
  rw [numberedKey, if_neg h, String.toList_append, String.toList_append, hmark, hdigits,
    List.append_assoc]
  rfl

/-- A numbered key shows its label and its number: the digits end before the last underscore. -/
theorem numberedKey_injective {a b : String} {m n : Nat} (hm : m ≠ 1) (hn : n ≠ 1)
    (h : numberedKey a m = numberedKey b n) : a = b ∧ m = n := by
  have htext : (Nat.toDigits 10 m).reverse ++ '_' :: '_' :: a.toList.reverse =
      (Nat.toDigits 10 n).reverse ++ '_' :: '_' :: b.toList.reverse := by
    have hreverse := congrArg (fun s : String => s.toList.reverse) h
    simpa [toList_numberedKey hm, toList_numberedKey hn] using hreverse
  have hdigits : ∀ k : Nat, k ≠ 1 → ∀ c ∈ (Nat.toDigits 10 k).reverse, ¬ c = '_' := by
    rintro k - c hc rfl
    have hdigit : ('_' : Char).isDigit = true :=
      Nat.isDigit_of_mem_toDigits (by decide) (by decide) (List.mem_reverse.mp hc)
    exact absurd hdigit (by decide)
  have hinjective : ∀ k l : Nat, k ≠ 1 → l ≠ 1 →
      (Nat.toDigits 10 k).reverse = (Nat.toDigits 10 l).reverse → k = l := by
    intro k l _ _ heq
    have hsame := List.reverse_injective heq
    rw [← Nat.ofDigitChars_ten_toDigits (n := k), hsame, Nat.ofDigitChars_ten_toDigits]
  have hseparates : Separates (· = '_') (fun k : Nat => (Nat.toDigits 10 k).reverse) (· ≠ 1)
      (· = ·) m := separates_of_not_stop hinjective hdigits hm
  have hstop : ∀ u : List Char, Stops (· = '_') ('_' :: u) := fun u => stops_cons.mpr rfl
  obtain ⟨hcount, hrest⟩ := hseparates n hn _ _ (hstop _) (hstop _) htext
  have hlabel := List.reverse_injective (List.cons.inj (List.cons.inj hrest).2).2
  exact ⟨String.toList_injective hlabel, hcount⟩

theorem numberedKey_one (label : String) : numberedKey label 1 = label := if_pos rfl

/-! ## The headers -/

variable (cfg : Config) (values : List Json)

/-- The labels of the columns before an index. -/
def columnLabels (columns : Nat) : List String := (List.range columns).map (columnLabel cfg values)

/-- The label of a column, and how often it has occurred up to there. -/
def numberedLabel (index : Nat) : String × Nat :=
  (columnLabel cfg values index,
    (columnLabels cfg values index).count (columnLabel cfg values index) + 1)

/-- The header of a column. -/
def headerAt (index : Nat) : BaseHeader where
  key := numberedKey (numberedLabel cfg values index).1 (numberedLabel cfg values index).2
  label := columnLabel cfg values index
  columnIndex := index
  columnLetter := cfg.encodeCol index

theorem columnLabels_succ (index : Nat) :
    columnLabels cfg values (index + 1) =
      columnLabels cfg values index ++ [columnLabel cfg values index] := by
  rw [columnLabels, columnLabels, List.range_succ, List.map_append]
  rfl

theorem headersFrom_eq (index columns : Nat) :
    headersFrom cfg values (fun label => (columnLabels cfg values index).count label) index columns =
      (List.range' index columns).map (headerAt cfg values) := by
  induction columns generalizing index with
  | zero => rfl
  | succ columns ih =>
      have hused : Function.update (fun label => (columnLabels cfg values index).count label)
          (columnLabel cfg values index)
          ((columnLabels cfg values index).count (columnLabel cfg values index) + 1) =
            fun label => (columnLabels cfg values (index + 1)).count label := by
        funext label
        rw [columnLabels_succ, List.count_append]
        by_cases hlabel : label = columnLabel cfg values index
        · rw [hlabel, Function.update_self, List.count_singleton_self]
        · have hne : columnLabel cfg values index ≠ label := fun h => hlabel h.symm
          rw [Function.update_of_ne hlabel, List.count_cons_of_ne hne, List.count_nil, Nat.add_zero]
      rw [headersFrom, List.range'_succ, List.map_cons, ← ih, ← hused]
      rfl

/-- The headers, column by column. -/
theorem buildHeaders_eq (columns : Nat) :
    buildHeaders cfg values columns = (List.range columns).map (headerAt cfg values) := by
  have hstart := headersFrom_eq cfg values 0 columns
  rw [List.range_eq_range', ← hstart]
  rfl

theorem mem_buildHeaders {columns : Nat} {header : BaseHeader} :
    header ∈ buildHeaders cfg values columns ↔
      header.columnIndex < columns ∧ header = headerAt cfg values header.columnIndex := by
  rw [buildHeaders_eq, List.mem_map]
  constructor
  · rintro ⟨index, hindex, rfl⟩
    exact ⟨List.mem_range.mp hindex, rfl⟩
  · rintro ⟨hindex, heq⟩
    exact ⟨header.columnIndex, List.mem_range.mpr hindex, heq.symm⟩

/-- Every occurrence of a label is numbered once. -/
theorem mem_numberedLabels {columns : Nat} {label : String} {n : Nat} :
    (label, n) ∈ (List.range columns).map (numberedLabel cfg values) ↔
      1 ≤ n ∧ n ≤ (columnLabels cfg values columns).count label := by
  induction columns with
  | zero =>
      simp only [columnLabels, List.range_zero, List.map_nil, List.not_mem_nil, List.count_nil,
        false_iff]
      omega
  | succ columns ih =>
      rw [List.range_succ, List.map_append, List.mem_append, ih, columnLabels_succ,
        List.count_append, List.map_singleton, List.mem_singleton, numberedLabel, Prod.mk.injEq]
      by_cases hlabel : label = columnLabel cfg values columns
      · rw [← hlabel, List.count_singleton_self]
        simp only [true_and]
        omega
      · have hne : columnLabel cfg values columns ≠ label := fun h => hlabel h.symm
        rw [List.count_cons_of_ne hne, List.count_nil]
        simp only [hlabel, false_and, or_false, Nat.add_zero]

theorem numberedLabels_nodup (columns : Nat) :
    ((List.range columns).map (numberedLabel cfg values)).Nodup := by
  induction columns with
  | zero => exact List.nodup_nil
  | succ columns ih =>
      rw [List.range_succ, List.map_append, List.map_singleton, List.nodup_append]
      refine ⟨ih, List.nodup_singleton _, ?_⟩
      rintro ⟨label, n⟩ hold last hlast rfl
      obtain ⟨rfl, rfl⟩ := Prod.mk.inj (List.mem_singleton.mp hlast)
      have hbound := ((mem_numberedLabels cfg values).mp hold).2
      omega

/-- No label is written like the key of another label's later occurrence. -/
def DistinctKeys (labels : List String) : Prop :=
  ∀ label n, 2 ≤ n → n ≤ labels.count label → numberedKey label n ∉ labels

/-- The keys of the columns are distinct if and only if no label is written like a numbered one. -/
theorem keys_nodup_iff (columns : Nat) :
    ((buildHeaders cfg values columns).map (·.key)).Nodup ↔
      DistinctKeys (columnLabels cfg values columns) := by
  have hkeys : (buildHeaders cfg values columns).map (·.key) =
      ((List.range columns).map (numberedLabel cfg values)).map fun p => numberedKey p.1 p.2 := by
    rw [buildHeaders_eq, List.map_map, List.map_map]
    rfl
  rw [hkeys, List.nodup_map_iff_inj_on (numberedLabels_nodup cfg values columns)]
  constructor
  · intro hinjective label n hn hcount hlabel
    have hnth := (mem_numberedLabels cfg values).mpr ⟨Nat.le_of_succ_le hn, hcount⟩
    have hfirst := (mem_numberedLabels cfg values).mpr
      ⟨Nat.le_refl 1, List.count_pos_iff.mpr hlabel⟩
    have hsame := hinjective _ hnth _ hfirst (numberedKey_one _).symm
    have hone : n = 1 := congrArg Prod.snd hsame
    omega
  · rintro hdistinct ⟨a, m⟩ ha ⟨b, n⟩ hb hsame
    obtain ⟨hm, hma⟩ := (mem_numberedLabels cfg values).mp ha
    obtain ⟨hn, hnb⟩ := (mem_numberedLabels cfg values).mp hb
    dsimp only at hsame
    by_cases hm1 : m = 1
    · by_cases hn1 : n = 1
      · rw [hm1, hn1, numberedKey_one, numberedKey_one] at hsame
        rw [hm1, hn1, hsame]
      · rw [hm1, numberedKey_one] at hsame
        refine absurd ?_ (hdistinct b n (by omega) hnb)
        exact hsame ▸ List.count_pos_iff.mp (by omega)
    · by_cases hn1 : n = 1
      · rw [hn1, numberedKey_one] at hsame
        refine absurd ?_ (hdistinct a m (by omega) hma)
        exact hsame ▸ List.count_pos_iff.mp (by omega)
      · obtain ⟨rfl, rfl⟩ := numberedKey_injective hm1 hn1 hsame
        rfl

/-! ## The records -/

section Properties

variable {α : Type} {data : List (String × α)} {key other : String} {value : α}

theorem lookup_defineProperty_ne (h : other ≠ key) :
    (defineProperty data key value).lookup other = data.lookup other := by
  unfold defineProperty
  split
  · clear * - h
    induction data with
    | nil => rfl
    | cons f data ih =>
        rw [List.map_cons]
        by_cases hf : f.1 = key
        · have hother : other ≠ f.1 := fun heq => h (heq.trans hf)
          rw [if_pos hf, List.lookup_cons, List.lookup_cons, beq_eq_false_iff_ne.mpr h,
            beq_eq_false_iff_ne.mpr hother]
          exact ih
        · rw [if_neg hf, List.lookup_cons, List.lookup_cons, ih]
  · rw [List.lookup_append, List.lookup_cons, beq_eq_false_iff_ne.mpr h, List.lookup_nil,
      Option.or_none]

theorem lookup_defineProperty_self (data : List (String × α)) (key : String) (value : α) :
    (defineProperty data key value).lookup key = some value := by
  unfold defineProperty
  split
  · next hany =>
      induction data with
      | nil => cases hany
      | cons f data ih =>
          rw [List.map_cons]
          by_cases hf : f.1 = key
          · rw [if_pos hf, List.lookup_cons_self]
          · have hother : key ≠ f.1 := fun heq => hf heq.symm
            rw [List.any_cons, beq_eq_false_iff_ne.mpr hf, Bool.false_or] at hany
            rw [if_neg hf, List.lookup_cons, beq_eq_false_iff_ne.mpr hother]
            exact ih hany
  · next hnone =>
      have hnew : data.lookup key = none := by
        rw [List.lookup_eq_none_iff]
        intro f hf
        rw [Bool.not_eq_true, List.any_eq_false] at hnone
        have hne := hnone f hf
        rw [beq_iff_eq] at hne
        exact bne_iff_ne.mpr fun heq => hne heq.symm
      rw [List.lookup_append, hnew, List.lookup_cons_self, Option.none_or]

theorem lookup_setProperty_ne (h : other ≠ key) :
    (setProperty data key value).lookup other = data.lookup other := by
  unfold setProperty
  split
  · rfl
  · exact lookup_defineProperty_ne h

theorem lookup_setProperty_self (h : key ≠ "__proto__") :
    (setProperty data key value).lookup key = some value := by
  rw [setProperty, if_neg h]
  exact lookup_defineProperty_self data key value

end Properties

theorem lookup_proto_setProperty (data : ParsedRow) (key : String) (value : Json) :
    (setProperty data key value).lookup "__proto__" = data.lookup "__proto__" := by
  by_cases hkey : key = "__proto__"
  · rw [setProperty, if_pos hkey]
  · exact lookup_setProperty_ne fun heq => hkey heq.symm

/-- The record after further cells of its row. -/
def filledData (data : ParsedRow) (headers : List BaseHeader) (row : List Json) : ParsedRow :=
  headers.foldl (fun data header => setProperty data header.key (cellAt row header.columnIndex)) data

theorem lookup_filledData_of_not_mem {headers : List BaseHeader} {key : String}
    (h : key ∉ headers.map (·.key)) (data : ParsedRow) (row : List Json) :
    (filledData data headers row).lookup key = data.lookup key := by
  induction headers generalizing data with
  | nil => rfl
  | cons header headers ih =>
      rw [List.map_cons, List.mem_cons, not_or] at h
      have hrest := ih h.2 (setProperty data header.key (cellAt row header.columnIndex))
      rw [lookup_setProperty_ne h.1] at hrest
      exact hrest

/-- With distinct keys every cell is stored under the key of its column, except under
`__proto__`. -/
theorem lookup_filledData {headers : List BaseHeader} (hnodup : (headers.map (·.key)).Nodup)
    {header : BaseHeader} (hmem : header ∈ headers) (hkey : header.key ≠ "__proto__")
    (data : ParsedRow) (row : List Json) :
    (filledData data headers row).lookup header.key = some (cellAt row header.columnIndex) := by
  induction headers generalizing data with
  | nil => cases hmem
  | cons first headers ih =>
      rw [List.map_cons, List.nodup_cons] at hnodup
      rcases List.mem_cons.mp hmem with rfl | hmem
      · have hrest := lookup_filledData_of_not_mem hnodup.1
          (setProperty data header.key (cellAt row header.columnIndex)) row
        rw [lookup_setProperty_self hkey] at hrest
        exact hrest
      · exact ih hnodup.2 hmem (setProperty data first.key (cellAt row first.columnIndex))

theorem lookup_proto_filledData (headers : List BaseHeader) (data : ParsedRow) (row : List Json) :
    (filledData data headers row).lookup "__proto__" = data.lookup "__proto__" := by
  induction headers generalizing data with
  | nil => rfl
  | cons header headers ih =>
      have hrest := ih (setProperty data header.key (cellAt row header.columnIndex))
      rw [lookup_proto_setProperty] at hrest
      exact hrest

/-- The record of a row, by its place in the sheet. -/
theorem mem_rowsFrom {headers : List BaseHeader} {rows : Matrix} {index : Nat}
    {record : ParsedImportRow} :
    record ∈ rowsFrom headers index rows ↔ ∃ k row, rows[k]? = some row ∧
      isMatrixRowEmpty row = false ∧
      record = { rowNumber := index + k + 1, data := rowData headers row } := by
  induction rows generalizing index with
  | nil => simp [rowsFrom]
  | cons row rows ih =>
      rw [rowsFrom]
      constructor
      · intro hmem
        split at hmem
        · obtain ⟨k, row', hrow, hempty, rfl⟩ := ih.mp hmem
          exact ⟨k + 1, row', hrow, hempty, by rw [Nat.add_right_comm index 1 k, Nat.add_assoc index]⟩
        · next hempty =>
            rcases List.mem_cons.mp hmem with rfl | hmem
            · exact ⟨0, row, rfl, Bool.not_eq_true _ ▸ hempty, rfl⟩
            · obtain ⟨k, row', hrow, hempty', rfl⟩ := ih.mp hmem
              exact ⟨k + 1, row', hrow, hempty',
                by rw [Nat.add_right_comm index 1 k, Nat.add_assoc index]⟩
      · rintro ⟨k, row', hrow, hempty, rfl⟩
        cases k with
        | zero =>
            obtain rfl : row = row' := by simpa using hrow
            rw [if_neg (by simp [hempty])]
            exact List.mem_cons_self
        | succ k =>
            have hnumber : index + (k + 1) = index + 1 + k := by omega
            have hrest : ({ rowNumber := index + (k + 1) + 1, data := rowData headers row' } :
                ParsedImportRow) ∈ rowsFrom headers (index + 1) rows :=
              ih.mpr ⟨k, row', by simpa using hrow, hempty, by rw [hnumber]⟩
            split
            · exact hrest
            · exact List.mem_cons_of_mem _ hrest

/-- One record for each row that is not empty. -/
theorem rowNumbers_rowsFrom (headers : List BaseHeader) (index : Nat) (rows : Matrix) :
    (rowsFrom headers index rows).map (·.rowNumber) =
      ((rows.zipIdx index).filter fun p => !isMatrixRowEmpty p.1).map (·.2 + 1) := by
  induction rows generalizing index with
  | nil => rfl
  | cons row rows ih =>
      rw [rowsFrom, List.zipIdx_cons]
      cases hempty : isMatrixRowEmpty row with
      | true => rw [if_pos rfl, List.filter_cons_of_neg (by simp [hempty]), ih]
      | false =>
          rw [if_neg Bool.false_ne_true, List.filter_cons_of_pos (by simp [hempty]), List.map_cons,
            List.map_cons, ih]

/-! ## Parsing keeps every cell -/

/-- A cell of a data row that is not blank. -/
def DataCell (matrix : Matrix) (dataStartRow row column : Nat) (value : Json) : Prop :=
  dataStartRow - 1 ≤ row ∧ isBlank value = false ∧
    ∃ cells, matrix[row]? = some cells ∧ cells[column]? = some value

/-- Every data row has its record, the keys are distinct, and every cell is stored under the key of
its column. -/
structure KeepsCells (matrix : Matrix) (dataStartRow : Nat) (parsed : ParsedImportFile) : Prop where
  rows : parsed.rows.map (·.rowNumber) =
    (((matrix.drop (dataStartRow - 1)).zipIdx (dataStartRow - 1)).filter
      fun p => !isMatrixRowEmpty p.1).map (·.2 + 1)
  keys : (parsed.headers.map (·.key)).Nodup
  cells : ∀ row column value, DataCell matrix dataStartRow row column value →
    ∃ record ∈ parsed.rows, record.rowNumber = row + 1 ∧
      ∃ header ∈ parsed.headers, header.columnIndex = column ∧
        record.data.lookup header.key = some value

/-- The labels have distinct keys, and every cell stands in a column that is counted and that is not
the first one called `__proto__`. -/
structure KeepableSheet (cfg : Config) (matrix : Matrix) (headerRow dataStartRow : Nat) : Prop where
  labels : DistinctKeys (columnLabels cfg (matrix.getD (headerRow - 1) [])
    (columnCount (matrix.getD (headerRow - 1) []) (matrix.drop (dataStartRow - 1))))
  columns : ∀ row column value, DataCell matrix dataStartRow row column value →
    column < columnCount (matrix.getD (headerRow - 1) []) (matrix.drop (dataStartRow - 1)) ∧
      (columnLabel cfg (matrix.getD (headerRow - 1) []) column = "__proto__" →
        "__proto__" ∈ columnLabels cfg (matrix.getD (headerRow - 1) []) column)

theorem cellAt_of_getElem? {row : List Json} {column : Nat} {value : Json}
    (h : row[column]? = some value) (hblank : isBlank value = false) : cellAt row column = value := by
  rw [cellAt, h]
  cases value with
  | null => cases hblank
  | _ => rfl

theorem not_isMatrixRowEmpty {row : List Json} {column : Nat} {value : Json}
    (h : row[column]? = some value) (hblank : isBlank value = false) :
    isMatrixRowEmpty row = false := by
  rw [isMatrixRowEmpty, List.all_eq_false]
  exact ⟨value, List.mem_of_getElem? h, by simp [hblank]⟩

/-- A numbered key ends in a digit. -/
theorem numberedKey_ne_proto {label : String} {count : Nat} (h : count ≠ 1) :
    numberedKey label count ≠ "__proto__" := by
  intro heq
  have htext := congrArg (fun s : String => s.toList.reverse) heq
  simp only [toList_numberedKey h, List.reverse_append, List.reverse_cons] at htext
  rcases List.eq_nil_or_concat (Nat.toDigits 10 count) with hnil | ⟨init, d, hdigits⟩
  · exact Nat.toDigits_ne_nil hnil
  · have hd : d.isDigit = true := Nat.isDigit_of_mem_toDigits (b := 10) (n := count) (by decide)
      (by decide) (by rw [hdigits]; simp)
    have hproto : "__proto__".toList.reverse = '_' :: ['_', 'o', 't', 'o', 'r', 'p', '_', '_'] := rfl
    rw [hdigits, List.concat_eq_append, List.reverse_append, hproto] at htext
    obtain rfl : d = '_' := (List.cons.inj htext).1
    exact absurd hd (by decide)

/-- Only the first column called `__proto__` has that key. -/
theorem key_eq_proto_iff (column : Nat) :
    (headerAt cfg values column).key = "__proto__" ↔
      columnLabel cfg values column = "__proto__" ∧
        "__proto__" ∉ columnLabels cfg values column := by
  have hkey : (headerAt cfg values column).key = numberedKey (columnLabel cfg values column)
      ((columnLabels cfg values column).count (columnLabel cfg values column) + 1) := rfl
  rw [hkey]
  by_cases hfirst : (columnLabels cfg values column).count (columnLabel cfg values column) = 0
  · rw [hfirst, Nat.zero_add, numberedKey_one]
    constructor
    · intro hlabel
      rw [hlabel] at hfirst
      exact ⟨hlabel, List.count_eq_zero.mp hfirst⟩
    · exact And.left
  · refine iff_of_false (numberedKey_ne_proto (by omega)) ?_
    rintro ⟨hlabel, hnew⟩
    rw [hlabel] at hfirst
    exact hfirst (List.count_eq_zero.mpr hnew)

/-- A parsed sheet keeps every cell if and only if it is keepable. -/
theorem keepsCells_iff (sheets : List String) (selectedSheetName : String) (matrix : Matrix)
    (headerRow dataStartRow : Nat) :
    KeepsCells matrix dataStartRow
        (parseMatrix cfg sheets selectedSheetName matrix headerRow dataStartRow) ↔
      KeepableSheet cfg matrix headerRow dataStartRow := by
  have hkeys : ∀ headers : List BaseHeader, ∀ samples : String → List String,
      (headers.map fun header => ({ toBaseHeader := header, sampleValues := samples header.key } :
        ImportHeader)).map (·.key) = headers.map (·.key) := by
    intro headers samples
    rw [List.map_map]
    rfl
  constructor
  · intro hkeeps
    refine ⟨?_, ?_⟩
    · have hnodup := hkeeps.keys
      rw [parseMatrix, hkeys] at hnodup
      exact (keys_nodup_iff cfg _ _).mp hnodup
    · intro row column value hcell
      obtain ⟨record, hrecord, -, header, hheader, rfl, hlookup⟩ :=
        hkeeps.cells row column value hcell
      obtain ⟨base, hbase, rfl⟩ := List.mem_map.mp hheader
      obtain ⟨k, cells, -, -, rfl⟩ := mem_rowsFrom.mp hrecord
      obtain ⟨hcount, hat⟩ := (mem_buildHeaders cfg _).mp hbase
      refine ⟨hcount, ?_⟩
      intro hlabel
      by_contra hnew
      have hkey := (key_eq_proto_iff cfg _ _).mpr ⟨hlabel, hnew⟩
      rw [← hat] at hkey
      dsimp only at hlookup
      rw [hkey] at hlookup
      have hnone := lookup_proto_filledData
        (buildHeaders cfg (matrix.getD (headerRow - 1) [])
          (columnCount (matrix.getD (headerRow - 1) []) (matrix.drop (dataStartRow - 1)))) [] cells
      rw [filledData, ← rowData, hlookup] at hnone
      cases hnone
  · rintro ⟨hlabels, hcolumns⟩
    have hnodup := (keys_nodup_iff cfg _ _).mpr hlabels
    refine ⟨?_, ?_, ?_⟩
    · exact rowNumbers_rowsFrom _ _ _
    · rw [parseMatrix, hkeys]
      exact hnodup
    · intro row column value hcell
      obtain ⟨hcolumn, hproto⟩ := hcolumns row column value hcell
      obtain ⟨hstart, hblank, cells, hrow, hvalue⟩ := hcell
      have hplace : dataStartRow - 1 + (row - (dataStartRow - 1)) = row := by omega
      have hdata : (matrix.drop (dataStartRow - 1))[row - (dataStartRow - 1)]? = some cells := by
        rw [List.getElem?_drop, hplace, hrow]
      have hheader : headerAt cfg (matrix.getD (headerRow - 1) []) column ∈
          buildHeaders cfg (matrix.getD (headerRow - 1) [])
            (columnCount (matrix.getD (headerRow - 1) []) (matrix.drop (dataStartRow - 1))) :=
        (mem_buildHeaders cfg _).mpr ⟨hcolumn, rfl⟩
      have hkey : (headerAt cfg (matrix.getD (headerRow - 1) []) column).key ≠ "__proto__" := by
        intro hkey
        obtain ⟨hlabel, hnew⟩ := (key_eq_proto_iff cfg _ _).mp hkey
        exact hnew (hproto hlabel)
      have hcell : cellAt cells
          (headerAt cfg (matrix.getD (headerRow - 1) []) column).columnIndex = value :=
        cellAt_of_getElem? hvalue hblank
      have hlookup := lookup_filledData hnodup hheader hkey [] cells
      rw [hcell] at hlookup
      refine ⟨_, mem_rowsFrom.mpr ⟨_, cells, hdata, not_isMatrixRowEmpty hvalue hblank, rfl⟩, ?_, ?_⟩
      · dsimp only
        rw [hplace]
      · exact ⟨_, List.mem_map_of_mem hheader, rfl, hlookup⟩

/-- What `parseFile` selects and checks before it reads the rows. -/
structure Selected (file : ImportFile) (parser : ImportFileParserOptions) (workbook : Workbook)
    (sheet : String) (matrix : Matrix) (headerRow dataStartRow : Int) : Prop where
  size : file.size ≤ maxFileSizeBytes
  read : readWorkbook cfg file = .ok workbook
  sheetName : (truthy (parser.sheetName.map trim) <|> truthy workbook.sheets.head?) = some sheet
  rows : workbook.matrices.lookup sheet = some matrix
  nonempty : matrix ≠ []
  header : parser.headerRow.getD (detectHeaderRow cfg matrix) = headerRow
  headerValid : 1 ≤ headerRow ∧ headerRow ≤ matrix.length
  start : parser.dataStartRow.getD (headerRow + 1) = dataStartRow
  startValid : headerRow < dataStartRow ∧ dataStartRow ≤ matrix.length + 1

theorem parseFile_of_selected {file : ImportFile} {parser : ImportFileParserOptions}
    {workbook : Workbook} {sheet : String} {matrix : Matrix} {headerRow dataStartRow : Int}
    (h : Selected cfg file parser workbook sheet matrix headerRow dataStartRow) :
    parseFile cfg file parser = .ok (parseMatrix cfg workbook.sheets sheet matrix headerRow.toNat
      dataStartRow.toNat) := by
  have hsize : ¬ file.size > maxFileSizeBytes := Nat.not_lt.mpr h.size
  have hheader : ¬ (headerRow < 1 ∨ headerRow > matrix.length) := by
    have hvalid := h.headerValid
    omega
  have hstart : ¬ (dataStartRow ≤ headerRow ∨ dataStartRow > matrix.length + 1) := by
    have hvalid := h.startValid
    omega
  rw [parseFile, if_neg hsize, h.read]
  simp only [bind, Except.bind, h.sheetName, h.rows, if_neg h.nonempty, h.header, if_neg hheader, h.start, if_neg hstart]
  rfl

end ImportsService

open ImportsService

/-- A file with valid rows is parsed, and no cell is lost if and only if the labels have distinct
keys and every cell stands in a column that is counted and is not called `__proto__`. -/
theorem parsing_keeps_cells_iff (cfg : ImportsService.Config) {file : ImportFile}
    {parser : ImportFileParserOptions} {workbook : Workbook} {sheet : String} {matrix : Matrix}
    {headerRow dataStartRow : Int}
    (h : Selected cfg file parser workbook sheet matrix headerRow dataStartRow) :
    ∃ parsed, parseFile cfg file parser = .ok parsed ∧
      (KeepsCells matrix dataStartRow.toNat parsed ↔
        KeepableSheet cfg matrix headerRow.toNat dataStartRow.toNat) :=
  ⟨_, parseFile_of_selected cfg h, keepsCells_iff cfg _ _ _ _ _⟩

/-- A reader whose every CSV file holds the rows. -/
def importing (rows : Matrix) : ImportsService.Config where
  encodeCol := Nat.repr
  utf8 _ := ""
  parseCsv _ _ := .ok rows
  readSheets _ := .ok []
  toLowerCase := toLowerCase
  isLetterOrNumber := Char.isAlphanum
  number _ := none
  runtime := {
    qrSigningSecret := ""
    scanProcessingEnabled := true
    registrationPipelineEnabled := true
    publicBaseUrl := ""
    hmacSha256 := fun _ _ => []
    sha256Hex := id
    base64url := fun _ => ""
    decodeBase64Url := id
    encodeBase64Url := id
    jsonParse := fun _ => none
    jsonStringify := fun _ => ""
    numberToString := fun _ => ""
    isEd25519PublicKey := fun _ => true
    verifyEd25519 := fun _ _ _ => true
    parseDate := fun _ => none
    toISOString := fun _ => ""
    random := Nat.repr }

/-- The only file of `importing`. -/
def csvFile : ImportFile := { buffer := [], filename := "rows.csv", size := 10 }

/-- The header in the first row. -/
def firstRowOptions : ImportFileParserOptions := { headerRow := some 1 }

theorem selected_importing (rows : Matrix) (h : rows ≠ []) :
    Selected (importing rows) csvFile firstRowOptions
      { sheets := ["CSV"], matrices := [("CSV", rows)] } "CSV" rows 1 2 where
  size := by decide
  read := by
    have hcsv : endsWith (toLowerCase csvFile.filename) ".csv" = true := by decide +kernel
    have hlower : (importing rows).toLowerCase = toLowerCase := rfl
    rw [readWorkbook, hlower, if_pos hcsv]
    rfl
  sheetName := rfl
  rows := rfl
  nonempty := h
  header := rfl
  headerValid := by
    have hlength := List.length_pos_iff.mpr h
    omega
  start := rfl
  startValid := by
    have hlength := List.length_pos_iff.mpr h
    omega

def plainRows : Matrix := [[.str "Name", .str "Phone"], [.str "Ann", .str "1"]]

/-- The third label is written like the key of the second column. -/
def collidingRows : Matrix := [[.str "A", .str "A", .str "A__2"], [.str "1", .str "2", .str "3"]]

theorem distinctKeys_of_nodup {labels : List String} (h : labels.Nodup) : DistinctKeys labels := by
  intro label n hn hcount
  have hone := List.nodup_iff_count_le_one.mp h label
  omega

theorem keepable_plainRows : KeepableSheet (importing plainRows) plainRows 1 2 where
  labels := by
    have hlabels : (columnLabels (importing plainRows) (plainRows.getD (1 - 1) [])
        (columnCount (plainRows.getD (1 - 1) []) (plainRows.drop (2 - 1)))).Nodup := by
      decide +kernel
    exact distinctKeys_of_nodup hlabels
  columns := by
    rintro row column value ⟨hstart, -, cells, hrow, hvalue⟩
    have hrows : row < plainRows.length := (List.getElem?_eq_some_iff.mp hrow).1
    have hlast : row = 1 := by
      have htwo : plainRows.length = 2 := rfl
      omega
    subst hlast
    obtain rfl : [Json.str "Ann", .str "1"] = cells := Option.some.inj hrow
    have hcolumn : column < 2 := (List.getElem?_eq_some_iff.mp hvalue).1
    have hlabels : ∀ c < 2, columnLabel (importing plainRows) (plainRows.getD (1 - 1) []) c ≠
        "__proto__" := by decide +kernel
    exact ⟨hcolumn, fun hlabel => absurd hlabel (hlabels column hcolumn)⟩

/-- A plain sheet keeps its cells. -/
theorem plain_sheet_kept :
    ∃ parsed, parseFile (importing plainRows) csvFile firstRowOptions = .ok parsed ∧
      KeepsCells plainRows 2 parsed := by
  obtain ⟨parsed, hparsed, hiff⟩ := parsing_keeps_cells_iff (importing plainRows)
    (selected_importing plainRows (List.cons_ne_nil _ _))
  exact ⟨parsed, hparsed, hiff.mpr keepable_plainRows⟩

/-- A label that is written like a numbered key shares the key of another column. -/
theorem numbered_label_collides :
    ¬ ∀ (cfg : ImportsService.Config) (file : ImportFile) (parser : ImportFileParserOptions)
        (workbook : Workbook) (sheet : String) (matrix : Matrix) (headerRow dataStartRow : Int),
      Selected cfg file parser workbook sheet matrix headerRow dataStartRow →
      ∀ parsed, parseFile cfg file parser = .ok parsed →
        KeepsCells matrix dataStartRow.toNat parsed := by
  intro h
  have hselected := selected_importing collidingRows (List.cons_ne_nil _ _)
  have hkeeps := h _ _ _ _ _ _ _ _ hselected _ (parseFile_of_selected _ hselected)
  exact absurd hkeeps.keys (by decide +kernel)

end CreativeBackend
