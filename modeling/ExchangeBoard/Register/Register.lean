import ExchangeBoard.Register.Exchange

/-!
# The register of exchanges

The register is built from records in order.  A record that is rejected leaves the others alone; of
records with the same identifier the first that passes screening is entered.  Exchanges whose hours cannot
be read are entered and noted.  A strict build fails when any record was rejected.
-/

namespace ExchangeBoard

/-! ### Registers -/

/-- A rejected record: its index, its identifier if it has one, and the reason. -/
structure Rejection where
  /-- The index, from 0. -/
  index : Nat
  id : Option String
  reason : Reason
  deriving DecidableEq

/-- The identifier of a rejected record, or a question mark. -/
def Rejection.idText (r : Rejection) : String := r.id.getD "?"

/-- The line about a rejected record. -/
def Rejection.line (r : Rejection) : String :=
  "#" ++ toString r.index ++ " " ++ r.idText ++ ": " ++ r.reason.message

/-- The exchanges that were entered and the records that were rejected. -/
structure Register where
  /-- The exchanges in the order of their records. -/
  exchanges : List Exchange
  /-- The rejected records in order. -/
  rejected : List Rejection

namespace Register

/-- A register without entries. -/
def empty : Register := ⟨[], []⟩

/-- Whether an identifier is taken. -/
def isTaken (r : Register) (id : String) : Bool := r.exchanges.any (·.id = id)

/-! ### Entering records -/

/-- The note about an exchange whose hours cannot be read. -/
def hoursNotes (e : Exchange) : List Note :=
  match e.timetable.diagnostic? with
  | none => []
  | some d => [.warning (e.id ++ ": bad hours template — always closed (" ++ d ++ ")")]

/-- The register with one more rejected record. -/
def reject (r : Register) (index : Nat) (id : Option String) (reason : Reason) : Register :=
  { r with rejected := r.rejected ++ [⟨index, id, reason⟩] }

/-- Enters a record with a given index: the register after it with the notes, or what ends it all. -/
def enter (atlas : Zone.Atlas) (r : Register) (index : Nat) (record : Value) :
    List Note × Except Abort Register :=
  match recordId record with
  | .error cause => ([], .error cause)
  | .ok id =>
    match screen atlas record with
    | (notes, .error (.abort cause)) => (notes, .error cause)
    | (notes, .error (.reject reason)) => (notes, .ok (r.reject index id reason))
    | (notes, .ok e) =>
      if r.isTaken e.id then (notes, .ok (r.reject index id (.duplicate e.id)))
      else (notes ++ hoursNotes e, .ok { r with exchanges := r.exchanges ++ [e] })

/-- Enters records from an index on. -/
def enterAll (atlas : Zone.Atlas) (r : Register) (index : Nat) (notes : List Note) :
    List Value → List Note × Except Abort Register
  | [] => (notes, .ok r)
  | record :: rest =>
    match r.enter atlas index record with
    | (more, .error cause) => (notes ++ more, .error cause)
    | (more, .ok r) => r.enterAll atlas (index + 1) (notes ++ more) rest

/-! ### Building -/

/-- Why a build fails. -/
inductive BuildFault where
  /-- Records were rejected in a strict build. -/
  | strict (count : Nat)
  /-- Screening ended. -/
  | abort (cause : Abort)
  deriving DecidableEq

/-- The words for a build that fails. -/
def BuildFault.message : BuildFault → String
  | .strict n => toString n ++ " catalogue record(s) rejected"
  | .abort cause => cause.message

/-- The note about a rejected record. -/
def rejectionNote (r : Rejection) : Note :=
  .warning ("rejected catalogue record #" ++ toString r.index ++ " (" ++ r.idText ++ "): " ++
    r.reason.message)

/-- The note that ends a build. -/
def closingNote (r : Register) : Note :=
  .info ("catalogue: " ++ toString r.exchanges.length ++ " exchanges loaded, " ++
    toString r.rejected.length ++ " rejected")

/-- Builds a register from records, with the notes in the order in which they are made. -/
def build (atlas : Zone.Atlas) (strict : Bool) (records : List Value) :
    List Note × Except BuildFault Register :=
  match empty.enterAll atlas 0 [] records with
  | (notes, .error cause) => (notes, .error (.abort cause))
  | (notes, .ok r) =>
    let notes := notes ++ r.rejected.map rejectionNote
    if strict && !r.rejected.isEmpty then (notes, .error (.strict r.rejected.length))
    else (notes ++ [r.closingNote], .ok r)

end Register

end ExchangeBoard
