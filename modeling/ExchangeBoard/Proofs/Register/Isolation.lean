import ExchangeBoard.Proofs.Register.Screening
import ExchangeBoard.Register.Register

/-!
# A rejected record leaves the others alone

A register is built from records when none of them breaks the screening off, and only then.  Every record is
then either entered or rejected, and a rejected one changes nothing for the others: without it the same
exchanges are entered and the same other records are rejected, those behind it with an index that is less by
one (`build_isolates`).

The proof goes along the records.  What entering a record does depends on the register only through its
exchanges, so that the rejections so far can be exchanged for others and the indices can be moved
(`enter_moved`), and by induction the same holds for all records that are left (`enterRest_moved`).
-/

namespace ExchangeBoard

/-- A rejection with an index that is greater by `k`. -/
def Rejection.later (k : ℕ) (q : Rejection) : Rejection := { q with index := q.index + k }

namespace Register

variable (atlas : Zone.Atlas)

/-! ### Entering a record -/

/-- A record that is entered as an exchange, whose identifier is not taken. -/
structure Accepted (r : Register) (record : Value) (e : Exchange) : Prop where
  /-- The record passes screening. -/
  screened : (screen atlas record).2 = .ok e
  /-- The identifier is free. -/
  free : r.isTaken e.id = false

/-- A record that is rejected: it does not pass screening, or its identifier is taken. -/
structure Refused (r : Register) (record : Value) (id : Option String) (reason : Reason) : Prop where
  /-- The identifier is the one that the record gives. -/
  identified : recordId record = .ok id
  because : (screen atlas record).2 = .error (.reject reason) ∨
    ∃ e, (screen atlas record).2 = .ok e ∧ r.isTaken e.id = true ∧ reason = .duplicate e.id

/-- A text field breaks off where its value does. -/
lemma breaks_of_textField {fields : Fields} {names : List String} {cause : Abort}
    (h : textField fields names = .error cause) : (required (pick fields names) Value.asText).breaks := by
  unfold textField at h
  generalize pick fields names = o at h ⊢
  cases o with
  | none => cases h
  | some v =>
    refine ⟨v, rfl, (tells_plainText v).abort_iff.1 ⟨cause, ?_⟩⟩
    rw [Option.mapM_some] at h
    generalize plainText v = result at h ⊢
    cases result with
    | ok s => cases h
    | error cause' =>
      cases h
      rfl

/-- Asking for the identifier breaks off only where screening does. -/
lemma breaks_of_recordId {record : Value} {cause : Abort} (h : recordId record = .error cause) :
    (recordOutcome atlas record).breaks := by
  unfold recordId at h
  unfold recordOutcome
  generalize record.opened = opened at h ⊢
  cases opened with
  | map fields =>
    have hid : (required (pick fields idNames) Value.asText).breaks := breaks_of_textField h
    exact Outcome.inOrder_cons_breaks.2 (.inl (Outcome.inOrder_cons_breaks.2 (.inl hid)))
  | _ => cases h

/-- A record that does not break off is entered or rejected. -/
lemma enter_of_not_breaks (r : Register) (i : ℕ) {record : Value} (h : ¬ (recordOutcome atlas record).breaks) :
    (∃ e, Accepted atlas r record e ∧
        (r.enter atlas i record).2 = .ok { r with exchanges := r.exchanges ++ [e] }) ∨
      ∃ id reason, Refused atlas r record id reason ∧
        (r.enter atlas i record).2 = .ok (r.reject i id reason) := by
  have hscreen := (tells_screen atlas record).abort_iff
  unfold enter
  cases hid : recordId record with
  | error cause => exact absurd (breaks_of_recordId atlas hid) h
  | ok id =>
    dsimp only
    obtain ⟨notes, result, hresult⟩ : ∃ notes result, screen atlas record = (notes, result) := ⟨_, _, rfl⟩
    rw [hresult] at hscreen ⊢
    have hresult' : (screen atlas record).2 = result := by rw [hresult]
    match result with
    | .error (.abort cause) => exact absurd (hscreen.1 ⟨cause, rfl⟩) h
    | .error (.reject reason) => exact .inr ⟨id, reason, ⟨hid, .inl hresult'⟩, rfl⟩
    | .ok e =>
      dsimp only
      cases htaken : r.isTaken e.id with
      | false => exact .inl ⟨e, ⟨hresult', htaken⟩, rfl⟩
      | true => exact .inr ⟨id, .duplicate e.id, ⟨hid, .inr ⟨e, hresult', htaken, rfl⟩⟩, rfl⟩

/-- A record that breaks the screening off ends the build. -/
lemma enter_of_breaks (r : Register) (i : ℕ) {record : Value} (h : (recordOutcome atlas record).breaks) :
    ∃ cause, (r.enter atlas i record).2 = .error cause := by
  obtain ⟨cause, hcause⟩ := (tells_screen atlas record).abort_iff.2 h
  unfold enter
  cases recordId record with
  | error cause => exact ⟨cause, rfl⟩
  | ok id =>
    generalize screen atlas record = outcome at hcause ⊢
    obtain ⟨notes, result⟩ := outcome
    cases hcause
    exact ⟨cause, rfl⟩

/-! ### Entering all records -/

/-- The register after records from an index on. -/
def enterRest (r : Register) (i : ℕ) (records : List Value) : Except Abort Register :=
  (r.enterAll atlas i [] records).2

/-- The notes do not matter for the register. -/
lemma enterAll_eq_enterRest (r : Register) (i : ℕ) (notes : List Note) (records : List Value) :
    (r.enterAll atlas i notes records).2 = r.enterRest atlas i records := by
  have h : ∀ notes notes', (r.enterAll atlas i notes records).2 = (r.enterAll atlas i notes' records).2 := by
    induction records generalizing r i with
    | nil => exact fun _ _ => rfl
    | cons record rest ih =>
      intro notes notes'
      unfold enterAll
      split
      · rfl
      · exact ih _ _ _ _
  exact h notes []

/-- The first of some records is entered before the rest. -/
lemma enterRest_cons (r : Register) (i : ℕ) (record : Value) (rest : List Value) :
    r.enterRest atlas i (record :: rest) =
      (r.enter atlas i record).2.bind fun r' => r'.enterRest atlas (i + 1) rest := by
  rw [enterRest, enterAll]
  obtain ⟨notes, result⟩ := r.enter atlas i record
  cases result with
  | error cause => rfl
  | ok r' => exact enterAll_eq_enterRest atlas r' (i + 1) _ rest

/-- Records are entered one list after another. -/
lemma enterRest_append (r : Register) (i : ℕ) (before after : List Value) :
    r.enterRest atlas i (before ++ after) =
      (r.enterRest atlas i before).bind fun r' => r'.enterRest atlas (i + before.length) after := by
  induction before generalizing r i with
  | nil => rfl
  | cons record rest ih =>
    rw [List.cons_append, enterRest_cons, enterRest_cons]
    cases (r.enter atlas i record).2 with
    | error cause => rfl
    | ok r' =>
      have hlength : i + (record :: rest).length = i + 1 + rest.length := by
        rw [List.length_cons]
        omega
      rw [hlength]
      exact ih r' (i + 1)

/-- All records are entered or rejected unless one of them breaks off. -/
lemma enterRest_ok_iff (r : Register) (i : ℕ) (records : List Value) :
    (∃ r', r.enterRest atlas i records = .ok r') ↔ ∀ record ∈ records, ¬ (recordOutcome atlas record).breaks := by
  induction records generalizing r i with
  | nil => exact iff_of_true ⟨r, rfl⟩ (by simp)
  | cons record rest ih =>
    rw [enterRest_cons, List.forall_mem_cons]
    by_cases h : (recordOutcome atlas record).breaks
    · obtain ⟨cause, hcause⟩ := enter_of_breaks atlas r i h
      rw [hcause]
      exact iff_of_false (fun ⟨r', hr'⟩ => (nomatch hr')) fun hall => hall.1 h
    · obtain ⟨r', hr'⟩ : ∃ r', (r.enter atlas i record).2 = .ok r' := by
        rcases enter_of_not_breaks atlas r i h with ⟨e, -, hr'⟩ | ⟨id, reason, -, hr'⟩
        · exact ⟨_, hr'⟩
        · exact ⟨_, hr'⟩
      rw [hr']
      exact (ih r' (i + 1)).trans (and_iff_right h).symm

/-- Exchanges and rejections are only added, and those added have the indices of the records. -/
lemma enterRest_extends {r r' : Register} {i : ℕ} {records : List Value}
    (h : r.enterRest atlas i records = .ok r') :
    ∃ exchanges rejected, r'.exchanges = r.exchanges ++ exchanges ∧ r'.rejected = r.rejected ++ rejected ∧
      ∀ q ∈ rejected, i ≤ q.index ∧ q.index < i + records.length := by
  induction records generalizing r i with
  | nil =>
    cases h
    exact ⟨[], [], by simp, by simp, by simp⟩
  | cons record rest ih =>
    have hall := (enterRest_ok_iff atlas r i (record :: rest)).1 ⟨r', h⟩
    have hrecord := hall record (List.mem_cons_self ..)
    rw [enterRest_cons] at h
    rcases enter_of_not_breaks atlas r i hrecord with ⟨e, -, henter⟩ | ⟨id, reason, -, henter⟩
    · rw [henter] at h
      obtain ⟨exchanges, rejected, hexchanges, hrejected, hindex⟩ := ih h
      refine ⟨e :: exchanges, rejected, by simpa using hexchanges, hrejected, fun q hq => ?_⟩
      have := hindex q hq
      rw [List.length_cons]
      omega
    · rw [henter] at h
      obtain ⟨exchanges, rejected, hexchanges, hrejected, hindex⟩ := ih h
      refine ⟨exchanges, ⟨i, id, reason⟩ :: rejected, hexchanges, by simpa [reject] using hrejected, ?_⟩
      rw [List.length_cons]
      rintro q (_ | ⟨_, hq⟩)
      · exact ⟨le_refl i, Nat.lt_add_of_pos_right (Nat.succ_pos _)⟩
      · have := hindex q hq
        omega

/-! ### Other rejections -/

/-- The register with its rejections moved by `k` behind others. -/
def moved (front : List Rejection) (k : ℕ) (r : Register) : Register :=
  ⟨r.exchanges, front ++ r.rejected.map (.later k)⟩

/-- Entering a record depends on the exchanges alone. -/
lemma enter_moved (front : List Rejection) (k : ℕ) (r : Register) (i : ℕ) (record : Value) :
    ((moved front k r).enter atlas (i + k) record).2 = (r.enter atlas i record).2.map (moved front k) := by
  have hreject : ∀ id reason, (moved front k r).reject (i + k) id reason = moved front k (r.reject i id reason) := by
    intro id reason
    simp [moved, reject, Rejection.later]
  unfold enter
  cases recordId record with
  | error cause => rfl
  | ok id =>
    obtain ⟨notes, result⟩ := screen atlas record
    match result with
    | .error (.abort cause) => rfl
    | .error (.reject reason) => exact congrArg Except.ok (hreject id reason)
    | .ok e =>
      have htaken : (moved front k r).isTaken e.id = r.isTaken e.id := rfl
      dsimp only
      rw [htaken]
      cases r.isTaken e.id with
      | false => rfl
      | true => exact congrArg Except.ok (hreject id _)

/-- Entering records depends on the exchanges alone. -/
lemma enterRest_moved (front : List Rejection) (k : ℕ) (r : Register) (i : ℕ) (records : List Value) :
    (moved front k r).enterRest atlas (i + k) records = (r.enterRest atlas i records).map (moved front k) := by
  induction records generalizing r i with
  | nil => rfl
  | cons record rest ih =>
    rw [enterRest_cons, enterRest_cons, enter_moved]
    cases (r.enter atlas i record).2 with
    | error cause => rfl
    | ok r' =>
      have hindex : i + k + 1 = i + 1 + k := by omega
      simp only [Except.map, Except.bind, hindex]
      exact ih r' (i + 1)

/-- A rejection changes nothing for the records behind it but their indices. -/
lemma enterRest_of_reject {r r' : Register} {i : ℕ} {id : Option String} {reason : Reason} {after : List Value}
    (h : (r.reject i id reason).enterRest atlas (i + 1) after = .ok r') :
    ∃ without rest, r.enterRest atlas i after = .ok without ∧ r'.exchanges = without.exchanges ∧
      without.rejected = r.rejected ++ rest ∧
      r'.rejected = r.rejected ++ ⟨i, id, reason⟩ :: rest.map (.later 1) ∧ ∀ q ∈ rest, i ≤ q.index := by
  -- Both ways go on from the same exchanges; only the rejections so far differ.
  have hreject : r.reject i id reason = moved (r.rejected ++ [⟨i, id, reason⟩]) 1 ⟨r.exchanges, []⟩ := by
    simp [moved, reject]
  have hmoved : r = moved r.rejected 0 ⟨r.exchanges, []⟩ := by
    simp [moved]
  have hzero : Rejection.later 0 = fun q => q := rfl
  have hwithout := enterRest_moved atlas r.rejected 0 ⟨r.exchanges, []⟩ i after
  rw [← hmoved, Nat.add_zero] at hwithout
  rw [hreject, enterRest_moved] at h
  cases hrest : enterRest atlas ⟨r.exchanges, []⟩ i after with
  | error cause =>
    rw [hrest] at h
    cases h
  | ok s =>
    rw [hrest] at h hwithout
    cases h
    obtain ⟨-, rest, -, hrejected, hindex⟩ := enterRest_extends atlas hrest
    rw [List.nil_append] at hrejected
    refine ⟨_, rest, hwithout, rfl, ?_, ?_, fun q hq => (hindex q hq).1⟩
    · rw [moved, hrejected, hzero, List.map_id']
    · rw [moved, hrejected, List.append_assoc, List.singleton_append]

/-! ### Building -/

/-- A build that is not strict fails only when screening breaks off. -/
lemma build_eq (records : List Value) :
    (build atlas false records).2 = (empty.enterRest atlas 0 records).mapError .abort := by
  rw [build, enterRest]
  obtain ⟨notes, result⟩ := empty.enterAll atlas 0 [] records
  cases result <;> rfl

/-- A build that is not strict returns what entering all records returns. -/
lemma build_ok_iff {records : List Value} {r : Register} :
    (build atlas false records).2 = .ok r ↔ empty.enterRest atlas 0 records = .ok r := by
  rw [build_eq]
  cases empty.enterRest atlas 0 records with
  | error cause => simp [Except.mapError]
  | ok r' => simp [Except.mapError]

/-- A register is built unless a record breaks the screening off.  Each record is entered or rejected, and the
register without a rejected record differs only in its rejection and in the indices behind it.

Screening is broken off by the causes of `Abort` and by no others: that an interpreter gives up text with about a
thousand open brackets is set aside here, as in `Json.read`. -/
theorem build_isolates (records : List Value) :
    ((∃ r, (build atlas false records).2 = .ok r) ↔
        ∀ record ∈ records, ¬ (recordOutcome atlas record).breaks) ∧
      ∀ r, (build atlas false records).2 = .ok r →
        ∀ before record after, records = before ++ record :: after →
          ∃ earlier, (build atlas false before).2 = .ok earlier ∧
            ((∃ e more, Accepted atlas earlier record e ∧ r.exchanges = earlier.exchanges ++ e :: more ∧
                ∀ q ∈ r.rejected, q.index ≠ before.length) ∨
              ∃ id reason without rest, Refused atlas earlier record id reason ∧
                (build atlas false (before ++ after)).2 = .ok without ∧
                r.exchanges = without.exchanges ∧
                without.rejected = earlier.rejected ++ rest ∧
                r.rejected = earlier.rejected ++ ⟨before.length, id, reason⟩ :: rest.map (.later 1) ∧
                (∀ q ∈ earlier.rejected, q.index < before.length) ∧
                ∀ q ∈ rest, before.length ≤ q.index) := by
  refine ⟨?_, ?_⟩
  · simp only [build_ok_iff]
    exact enterRest_ok_iff atlas empty 0 records
  rintro r hr before record after rfl
  simp only [build_ok_iff] at hr ⊢
  have hall := (enterRest_ok_iff atlas _ _ _).1 ⟨r, hr⟩
  have hrecord := hall record (by simp)
  obtain ⟨earlier, hearlier⟩ := (enterRest_ok_iff atlas empty 0 before).2 fun q hq => hall q (by simp [hq])
  obtain ⟨-, front, -, hfront, hfront_index⟩ := enterRest_extends atlas hearlier
  rw [enterRest_append, hearlier, zero_add] at hr
  replace hr : earlier.enterRest atlas before.length (record :: after) = .ok r := hr
  rw [enterRest_cons] at hr
  have hfront_lt : ∀ q ∈ earlier.rejected, q.index < before.length := by
    intro q hq
    rw [hfront] at hq
    have := hfront_index q (by simpa [empty] using hq)
    omega
  refine ⟨earlier, hearlier, ?_⟩
  rcases enter_of_not_breaks atlas earlier before.length hrecord with ⟨e, he, henter⟩ | ⟨id, reason, hrefused, henter⟩
  · left
    rw [henter] at hr
    obtain ⟨more, rejected, hmore, hrejected, hindex⟩ := enterRest_extends atlas hr
    refine ⟨e, more, he, by simpa using hmore, fun q hq => ?_⟩
    rw [hrejected] at hq
    rcases List.mem_append.1 hq with hq | hq
    · exact (hfront_lt q hq).ne
    · have := hindex q hq
      omega
  · right
    rw [henter] at hr
    obtain ⟨without, rest, hwithout, hexchanges, hbefore, hafter, hindex⟩ := enterRest_of_reject atlas hr
    refine ⟨id, reason, without, rest, hrefused, ?_, hexchanges, hbefore, hafter, hfront_lt, hindex⟩
    rw [enterRest_append, hearlier, zero_add]
    exact hwithout

/-- Whether a build fails in a given way can be decided. -/
instance (result : Except BuildFault Register) (fault : BuildFault) : Decidable (result = .error fault) :=
  match result with
  | .error f => decidable_of_iff (f = fault) (by simp)
  | .ok _ => .isFalse (by simp)

/-- A record with a latitude that is too large for a double. -/
def tooLargeRecord : Value := .map [(.text "id", .text "a"), (.text "timezone", .text "UTC"),
  (.text "latitude", .int (10 ^ 400)), (.text "longitude", .int 0)]

/-- A record of an exchange with one session a day. -/
def plainRecord : Value := .map [(.text "id", .text "b"), (.text "timezone", .text "UTC"),
  (.text "latitude", .int 10), (.text "longitude", .int 20),
  (.text "schedule_template", .text "CONTINUOUS_09:00_17:00")]

/-- A latitude that is too large for a double is not rejected: it ends the build, and the exchange of the next
record is lost. -/
theorem tooLarge_latitude_ends_build :
    (build Zone.atlas false [tooLargeRecord, plainRecord]).2 = .error (.abort .tooLarge) ∧
      (build Zone.atlas false [plainRecord]).2.isOk = true := by
  refine ⟨?_, ?_⟩
  · decide +kernel
  · decide +kernel

end Register

end ExchangeBoard
