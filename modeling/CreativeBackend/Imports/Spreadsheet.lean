import CreativeBackend.Runtime.Text

/-!
# Imported spreadsheets

`ImportsService.parseFile`: the sheet that is read, its header row, the keys of its columns and the
record of every data row.

## Implementation notes

The readers of CSV and Excel files are parameters. Both are asked for formatted texts, so no cell is
a `Date`, and a cell that is missing is as good as `null`. A record is a list of its own properties.
Letters, digits and lower case follow the Unicode tables, which are parameters too.
-/

namespace CreativeBackend

namespace ImportsService

/-- The rows of a sheet. -/
abbrev Matrix := List (List Json)

abbrev ParsedRow := List (String × Json)

/-- The libraries that the service calls. -/
structure Config where
  /-- `XLSX.utils.encode_col`. -/
  encodeCol : Nat → String
  /-- `buffer.toString('utf8')`. -/
  utf8 : List UInt8 → String
  /-- `parseCsv` with a delimiter. -/
  parseCsv : String → Char → Except Exn Matrix
  /-- The sheets of `XLSX.read`, each by `sheet_to_json`. -/
  readSheets : List UInt8 → Except Exn (List (String × Matrix))
  /-- `value.toLowerCase()`. -/
  toLowerCase : String → String
  /-- `[\p{L}\p{N}]`. -/
  isLetterOrNumber : Char → Bool
  /-- `Number(value)` when it is finite. -/
  number : String → Option Rat
  /-- `String(value)` of what is no text. -/
  runtime : Runtime

structure ImportFile where
  buffer : List UInt8
  filename : String
  size : Nat

structure ImportFileParserOptions where
  sheetName : Option String := none
  headerRow : Option Int := none
  dataStartRow : Option Int := none

structure ParsedImportRow where
  rowNumber : Nat
  data : ParsedRow

/-- A header without its sample values. -/
structure BaseHeader where
  key : String
  label : String
  columnIndex : Nat
  columnLetter : String
  deriving DecidableEq, Repr

structure ImportHeader extends BaseHeader where
  sampleValues : List String
  deriving DecidableEq, Repr

structure ParsedImportFile where
  sheets : List String
  selectedSheetName : String
  detectedHeaderRow : Nat
  headerRow : Nat
  dataStartRow : Nat
  headers : List ImportHeader
  rows : List ParsedImportRow

structure Workbook where
  sheets : List String
  matrices : List (String × Matrix)

def maxFileSizeBytes : Nat := 20 * 1024 * 1024

def headerScanLimit : Nat := 40

variable (cfg : Config)

/-! ## Cells -/

def isBlank : Json → Bool
  | .null => true
  | .str s => trim s == ""
  | _ => false

def toDisplayString : Json → String
  | .null => ""
  | value => trim (jsString cfg.runtime value)

def isMatrixRowEmpty (row : List Json) : Bool := row.all isBlank

/-- `row[index] ?? ''`. -/
def cellAt (row : List Json) (index : Nat) : Json :=
  match row[index]? with
  | none => .str ""
  | some .null => .str ""
  | some value => value

/-- A record with a property, in its old place if there is one. -/
def defineProperty {α : Type} (data : List (String × α)) (key : String) (value : α) :
    List (String × α) :=
  if data.any (·.1 == key) = true then data.map fun f => if f.1 = key then (key, value) else f
  else data ++ [(key, value)]

/-- `data[key] = value`. The setter of `__proto__` makes no property. -/
def setProperty {α : Type} (data : List (String × α)) (key : String) (value : α) :
    List (String × α) :=
  if key = "__proto__" then data else defineProperty data key value

/-- `data[key]`. The getter of `__proto__` gives the prototype, an object. -/
def getProperty (data : ParsedRow) (key : String) : Json :=
  match data.lookup key with
  | some value => value
  | none => if key = "__proto__" then .obj [] else .null

/-! ## Normalised labels -/

/-- `value.replace(/[^\p{L}\p{N}]+/gu, '_')`. -/
def joinRuns (keep : Char → Bool) : Bool → List Char → List Char
  | _, [] => []
  | inRun, c :: cs =>
      if keep c = true then c :: joinRuns keep false cs
      else if inRun = true then joinRuns keep true cs
      else '_' :: joinRuns keep true cs

/-- `value.replace(/^_+|_+$/g, '')`. -/
def stripUnderscores (cs : List Char) : List Char :=
  ((cs.dropWhile (· == '_')).reverse.dropWhile (· == '_')).reverse

/-- `[\u064B-\u065F\u0670]`. -/
def isTashkeel (c : Char) : Bool := (1611 ≤ c.toNat && c.toNat ≤ 1631) || c.toNat == 1648

/-- The forms of alef, yeh and teh marbuta that are written alike. -/
def foldLetter (c : Char) : Char :=
  if c = 'أ' ∨ c = 'إ' ∨ c = 'آ' then 'ا'
  else if c = 'ى' then 'ي'
  else if c = 'ة' then 'ه'
  else c

def normalizeHeader (header : String) : String :=
  let letters := ((cfg.toLowerCase (trim header)).toList.filter (!isTashkeel ·)).map foldLetter
  String.ofList (stripUnderscores (joinRuns cfg.isLetterOrNumber false letters))

def getAllKnownHeaderAliases : List String :=
  ["full_name", "full name", "name", "visitor name", "الاسم", "الاسم الكامل", "اسم الزائر", "phone",
    "mobile", "whatsapp", "رقم الهاتف", "الهاتف", "email", "mail", "البريد الإلكتروني", "company",
    "company name", "اسم الشركة", "job title", "position", "المسمى الوظيفي", "external id", "serial",
    "رقم تسلسلي", "attendee type", "نوع الحضور", "notes", "ملاحظات"].map (normalizeHeader cfg)

/-! ## Reading the file -/

/-- The lines of `text.split(/\r?\n/)`. -/
def lines : List Char → List (List Char)
  | [] => [[]]
  | c :: cs =>
      if c = '\n' then [] :: lines cs
      else
        match lines cs with
        | [] => [[c]]
        | line :: rest => if c = '\r' ∧ line = [] ∧ cs.head? = some '\n' then [] :: rest
            else (c :: line) :: rest

def detectCsvDelimiter (csvText : String) : Char :=
  let text := if csvText.toList.head? = some (Char.ofNat 65279) then csvText.toList.tail
    else csvText.toList
  let sampleLine := ((lines text).find? fun line => (trim (String.ofList line)).length > 0).getD []
  [',', ';', '\t'].foldl
    (fun best candidate => if sampleLine.count candidate > sampleLine.count best then candidate
      else best) ','

def endsWith (text suffix : String) : Bool := suffix.toList.isSuffixOf text.toList

def readWorkbook (file : ImportFile) : Except Exn Workbook := do
  let lowerName := cfg.toLowerCase file.filename
  if endsWith lowerName ".csv" then
    let csvText := cfg.utf8 file.buffer
    let matrix ← cfg.parseCsv csvText (detectCsvDelimiter csvText)
    return { sheets := ["CSV"], matrices := [("CSV", matrix)] }
  else if endsWith lowerName ".xlsx" || endsWith lowerName ".xls" then
    let matrices ← cfg.readSheets file.buffer
    return { sheets := matrices.map (·.1), matrices }
  else throw (.badRequest "Unsupported import file")

/-! ## The header row -/

/-- The score of a row as the header row; an empty row has none. -/
def headerScore (row : List Json) : Option Int :=
  let values := (row.map (toDisplayString cfg)).filter (· ≠ "")
  if values = [] then none
  else
    let normalizedValues := values.map (normalizeHeader cfg)
    let knownMatches := (normalizedValues.filter (getAllKnownHeaderAliases cfg).contains).length
    let distinctValues := normalizedValues.dedup.length
    let score : Int := knownMatches * 25 + values.length * 2 + distinctValues
    let score := if values.length = 1 then score - 20 else score
    some (if values.any (utf16Length · > 80) = true then score - 8 else score)

/-- The first row with the best score, from the row at an index on. -/
def bestHeaderRow : Nat → Nat × Option Int → Matrix → Nat
  | _, best, [] => best.1
  | index, best, row :: rest =>
      match headerScore cfg row with
      | none => bestHeaderRow (index + 1) best rest
      | some score =>
          if best.2.all (· < score) = true then bestHeaderRow (index + 1) (index + 1, some score) rest
          else bestHeaderRow (index + 1) best rest

def detectHeaderRow (matrix : Matrix) : Nat :=
  bestHeaderRow cfg 0 (1, none) (matrix.take headerScanLimit)

/-! ## Headers and rows -/

def columnLabel (values : List Json) (index : Nat) : String :=
  let rawLabel := toDisplayString cfg (values.getD index .null)
  if rawLabel = "" then "Column " ++ cfg.encodeCol index else rawLabel

/-- The key of the column in which a label occurs for the given time. -/
def numberedKey (label : String) (count : Nat) : String :=
  if count = 1 then label else label ++ "__" ++ Nat.repr count

/-- The loop of `buildHeaders` from an index on; `usedKeys` counts the labels before it. -/
def headersFrom (values : List Json) (usedKeys : String → Nat) : Nat → Nat → List BaseHeader
  | _, 0 => []
  | index, columns + 1 =>
      let label := columnLabel cfg values index
      let count := usedKeys label + 1
      { key := numberedKey label count
        label
        columnIndex := index
        columnLetter := cfg.encodeCol index } ::
          headersFrom values (Function.update usedKeys label count) (index + 1) columns

def buildHeaders (values : List Json) (columnCount : Nat) : List BaseHeader :=
  headersFrom cfg values (fun _ => 0) 0 columnCount

/-- The number of columns: those of the header row and of the first hundred data rows. -/
def columnCount (headerValues : List Json) (dataMatrix : Matrix) : Nat :=
  ((dataMatrix.take 100).map List.length).foldl max headerValues.length

def rowData (headers : List BaseHeader) (row : List Json) : ParsedRow :=
  headers.foldl (fun data header => setProperty data header.key (cellAt row header.columnIndex)) []

/-- The records of the rows from an index on. -/
def rowsFrom (headers : List BaseHeader) : Nat → Matrix → List ParsedImportRow
  | _, [] => []
  | index, row :: rest =>
      if isMatrixRowEmpty row = true then rowsFrom headers (index + 1) rest
      else { rowNumber := index + 1, data := rowData headers row } ::
        rowsFrom headers (index + 1) rest

def sampleValues (rows : List ParsedImportRow) (key : String) : List String :=
  ((rows.map fun row => toDisplayString cfg (getProperty row.data key)).filter (· ≠ "")).take 5

/-- `parseFile` once the sheet and its rows are selected. -/
def parseMatrix (sheets : List String) (selectedSheetName : String) (matrix : Matrix)
    (headerRow dataStartRow : Nat) : ParsedImportFile :=
  let headerValues := matrix.getD (headerRow - 1) []
  let dataMatrix := matrix.drop (dataStartRow - 1)
  let baseHeaders := buildHeaders cfg headerValues (columnCount headerValues dataMatrix)
  let rows := rowsFrom baseHeaders (dataStartRow - 1) dataMatrix
  { sheets
    selectedSheetName
    detectedHeaderRow := detectHeaderRow cfg matrix
    headerRow
    dataStartRow
    headers := baseHeaders.map fun header =>
      { toBaseHeader := header, sampleValues := sampleValues cfg rows header.key }
    rows }

def parseFile (file : ImportFile) (parser : ImportFileParserOptions) :
    Except Exn ParsedImportFile := do
  if file.size > maxFileSizeBytes then throw (.badRequest "File is too large")
  else
    let workbook ← readWorkbook cfg file
    match truthy (parser.sheetName.map trim) <|> truthy workbook.sheets.head? with
    | none => throw (.badRequest "Selected sheet was not found")
    | some selectedSheetName =>
        match workbook.matrices.lookup selectedSheetName with
        | none => throw (.badRequest "Selected sheet was not found")
        | some matrix =>
            let headerRow := parser.headerRow.getD (detectHeaderRow cfg matrix)
            let dataStartRow := parser.dataStartRow.getD (headerRow + 1)
            if matrix = [] then throw (.badRequest "Selected sheet is empty")
            else if headerRow < 1 ∨ headerRow > matrix.length then
              throw (.badRequest "headerRow is invalid")
            else if dataStartRow ≤ headerRow ∨ dataStartRow > matrix.length + 1 then
              throw (.badRequest "dataStartRow is invalid")
            else
              return parseMatrix cfg workbook.sheets selectedSheetName matrix headerRow.toNat
                dataStartRow.toNat

end ImportsService

end CreativeBackend
