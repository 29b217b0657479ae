import ExchangeBoard.Csv.Rows
import ExchangeBoard.Data.Value

/-!
# Reading tables of separated fields

The first row names the columns and every other row is a record.  All records have as many fields as the
first of them, and at least as many as there are names: short ones are filled up with empty fields and longer
ones are refused.  When there are more fields than names, the names belong to the last fields.  All fields
are texts.
-/

namespace ExchangeBoard.Csv

/-! ### Refusals -/

/-- Why a text is not a table. -/
inductive Fault where
  /-- There is no row. -/
  | empty
  /-- A quotation mark is left open, or rows are read without end. -/
  | openQuote
  /-- The record with the given number, from 1, has too many fields. -/
  | fields (record : Nat)

/-- The words for a refusal. -/
def Fault.message : Fault → String
  | .empty => "No columns to parse from file"
  | .openQuote => "EOF inside string"
  | .fields record => "too many fields in record " ++ toString record

/-! ### Names of columns -/

/-- The name of a column without a name. -/
def placeholder (index : Nat) : String := "Unnamed: " ++ toString index

/-- The first of the names `name.k`, `name.(k + 1)`, … that is neither among the names of the first row nor
given already, looked for in a number of steps. -/
def freshName (name : String) (names given : List String) : Nat → Nat → String
  | 0, k => name ++ "." ++ toString k
  | n + 1, k =>
    let candidate := name ++ "." ++ toString k
    if names.contains candidate || given.contains candidate then freshName name names given n (k + 1)
    else candidate

/-- A name that no other column has been given. -/
def unusedName (names given : List String) (name : String) : String :=
  if given.contains name then freshName name names given (names.length + given.length) 1 else name

/-- Gives columns their names, each with its index; `given` holds the names given before. -/
def giveNames (names : List String) (given : List (Nat × String)) :
    List (Nat × String) → List (Nat × String)
  | [] => given
  | (i, name) :: rest =>
    giveNames names (given ++ [(i, unusedName names (given.map (·.2)) name)]) rest

/-- The names of the columns for the fields of the first row.  No two columns share a name, and columns that
have a name keep it rather than those that have none. -/
def columnNames (fields : List String) : List String :=
  let indexed := fields.mapIdx fun i s => (i, s)
  let named := indexed.filter fun (_, s) => !s.isEmpty
  let unnamed := (indexed.filter fun (_, s) => s.isEmpty).map fun (i, _) => (i, placeholder i)
  let names := fields.mapIdx fun i s => if s.isEmpty then placeholder i else s
  let given := giveNames names [] (named ++ unnamed)
  fields.mapIdx fun i s => (given.lookup i).getD s

/-! ### Records -/

/-- The text of a field, which ends before a null character. -/
def fieldText (field : Field) : String := String.ofList (field.takeWhile (· ≠ '\x00'))

/-- The texts of a row. -/
def rowTexts (row : List Field) : List String := row.map fieldText

/-- A row filled up to a width with empty fields. -/
def fillRow (width : Nat) (row : List Field) : List Field :=
  row ++ List.replicate (width - row.length) []

/-- The rows filled up to a width, which none may exceed; `record` is the number of the first. -/
def fillRows (width : Nat) : Nat → List (List Field) → Except Fault (List (List Field))
  | _, [] => .ok []
  | record, row :: rest =>
    if width < row.length then .error (.fields record)
    else (fillRows width (record + 1) rest).map (fillRow width row :: ·)

/-- A record of texts under names, which belong to the last texts. -/
def recordOf (names texts : List String) : Value :=
  .map (List.zipWith (fun name text => (.text name, .text text)) names
    (texts.drop (texts.length - names.length)))

/-- The width of all records: that of the first, and no less than that of the names. -/
def recordWidth (names : List Field) (records : List (List Field)) : Nat :=
  max names.length ((records.head?.map List.length).getD 0)

/-- Reads the text of a table into its records. -/
def read (text : String) : Except Fault (List Value) :=
  match rows? text.toList with
  | none => .error .openQuote
  | some [] => .error .empty
  | some (first :: records) => do
    let names := columnNames (rowTexts first)
    let rows ← fillRows (recordWidth first records) 1 records
    return rows.map fun row => recordOf names (rowTexts row)

end ExchangeBoard.Csv
