import ExchangeBoard.Proofs.Register.Entries
import ExchangeBoard.Proofs.Register.Origin

/-!
# What becomes of the records

A build accounts for every record: the record is entered as an exchange or it is rejected, and the entries and the
rejections together have each index once (`Accounts`).  A record is entered when it passes screening and no record
before it with the same identifier does.

Two lists of records can be built one after the other.  What is built from both is what is built from the first,
followed by what the second adds to it (`Joins`): the exchanges with new identifiers, the rejections with later
indices, and a rejection for each exchange whose identifier is taken by now.

Both are invariants of the records so far, so that the induction goes along the records from the first to the last,
and each of them has one lemma for a record that is entered and one for a record that is refused.
-/

namespace ExchangeBoard.Register

variable (atlas : Zone.Atlas)

/-! ### Records that pass -/

/-- The record with an index passes screening as an exchange. -/
def Passes (records : List Value) (i : ℕ) (e : Exchange) : Prop :=
  ∃ record, records[i]? = some record ∧ (screen atlas record).2 = .ok e

variable {atlas}

/-- A record that passes is one of the records. -/
lemma Passes.lt {records : List Value} {i : ℕ} {e : Exchange} (h : Passes atlas records i e) :
    i < records.length := by
  obtain ⟨record, hrecord, -⟩ := h
  exact (List.getElem?_eq_some_iff.1 hrecord).1

/-- Of one more record than before, the records before pass as before. -/
lemma passes_concat {records : List Value} {record : Value} {i : ℕ} {e : Exchange} :
    Passes atlas (records ++ [record]) i e ↔
      Passes atlas records i e ∨ i = records.length ∧ (screen atlas record).2 = .ok e := by
  unfold Passes
  rcases lt_trichotomy i records.length with h | rfl | h
  · rw [List.getElem?_append_left h]
    simp [h.ne]
  · simp
  · have hnone : (records ++ [record])[i]? = none := by
      rw [List.getElem?_eq_none_iff, List.length_append, List.length_singleton]
      omega
    have hnone' : records[i]? = none := List.getElem?_eq_none_iff.2 h.le
    simp [hnone, hnone', h.ne']

/-- What is said of the records that pass before an index does not change with one more record behind it. -/
lemma forall_passes_concat_iff {records : List Value} {record : Value} {i : ℕ} (hi : i ≤ records.length)
    {p : Exchange → Prop} :
    (∀ j e, j < i → Passes atlas (records ++ [record]) j e → p e) ↔
      ∀ j e, j < i → Passes atlas records j e → p e := by
  constructor
  · exact fun h j e hj hpass => h j e hj (passes_concat.2 (.inl hpass))
  · intro h j e hj hpass
    rcases passes_concat.1 hpass with hbefore | ⟨rfl, -⟩
    · exact h j e hj hbefore
    · exact absurd hj (not_lt.2 hi)

/-- A required text is the text of its field. -/
lemma textField_of_requiredText {fields : Fields} {names : List String} {field text : String}
    (h : requiredText fields names field = .ok text) : textField fields names = .ok (some text) := by
  rw [requiredText_eq] at h
  obtain ⟨text?, htext, h⟩ := bind_eq_ok_iff.1 h
  cases text? with
  | none => cases h
  | some text' =>
    cases h
    exact orAbort_eq_ok_iff.1 htext

/-- A record that passes screening gives the identifier of its exchange. -/
lemma recordId_of_screen {record : Value} {e : Exchange} (h : (screen atlas record).2 = .ok e) :
    recordId record = .ok (some e.id) := by
  obtain ⟨fields, hfields, he⟩ := readFrom_of_screen h
  unfold recordId
  rw [hfields]
  exact textField_of_requiredText he.id

/-! ### The account of a build -/

/-- What becomes of the records: each is entered, and then is among the `entries` with its index and its exchange,
or rejected. -/
structure Accounts (atlas : Zone.Atlas) (r : Register) (records : List Value) (entries : List (ℕ × Exchange)) :
    Prop where
  /-- The exchanges are those of the entries in the same order. -/
  exchanges : r.exchanges = entries.map (·.2)
  entries_sorted : (entries.map (·.1)).Pairwise (· < ·)
  rejected_sorted : (r.rejected.map (·.index)).Pairwise (· < ·)
  /-- Each index of a record is there once. -/
  indices : (entries.map (·.1) ++ r.rejected.map (·.index)).Perm (List.range records.length)
  nodup_ids : (r.exchanges.map (·.id)).Nodup
  /-- A record is entered when it is the first with its identifier of those that pass screening. -/
  mem_entries_iff : ∀ i e, (i, e) ∈ entries ↔
    Passes atlas records i e ∧ ∀ j e', j < i → Passes atlas records j e' → e'.id ≠ e.id
  /-- A rejected record does not pass screening, or it passes with an identifier that is taken. -/
  rejection : ∀ q ∈ r.rejected, ∃ record, records[q.index]? = some record ∧ recordId record = .ok q.id ∧
    ((screen atlas record).2 = .error (.reject q.reason) ∨
      ∃ e, (screen atlas record).2 = .ok e ∧ q.reason = .duplicate e.id ∧ e.id ∈ r.exchanges.map (·.id))

/-- An identifier is taken when an exchange of the register has it. -/
lemma isTaken_iff {r : Register} {id : String} : r.isTaken id = true ↔ id ∈ r.exchanges.map (·.id) := by
  simp [isTaken]

/-- An identifier is taken when a record with it passes screening. -/
lemma Accounts.isTaken_iff_passes {r : Register} {records : List Value} {entries : List (ℕ × Exchange)}
    (h : Accounts atlas r records entries) (id : String) :
    r.isTaken id = true ↔ ∃ i e, Passes atlas records i e ∧ e.id = id := by
  rw [isTaken_iff, h.exchanges, List.map_map]
  constructor
  · intro hid
    obtain ⟨⟨i, e⟩, hmem, rfl⟩ := List.mem_map.1 hid
    exact ⟨i, e, ((h.mem_entries_iff i e).1 hmem).1, rfl⟩
  · intro hpasses
    -- The first of the records that pass with the identifier is the one that was entered.
    classical
    obtain ⟨e, he, hid⟩ := Nat.find_spec hpasses
    refine List.mem_map.2 ⟨(Nat.find hpasses, e), (h.mem_entries_iff _ e).2 ⟨he, ?_⟩, hid⟩
    intro j e' hj hpass hsame
    exact Nat.find_min hpasses hj ⟨e', hpass, hsame.trans hid⟩

/-- The register without exchanges accounts for no records. -/
lemma accounts_empty : Accounts atlas empty [] [] where
  exchanges := rfl
  entries_sorted := List.Pairwise.nil
  rejected_sorted := List.Pairwise.nil
  indices := List.Perm.nil
  nodup_ids := List.nodup_nil
  mem_entries_iff := by simp [Passes]
  rejection := by simp [empty]

/-- Indices below a bound stay in order when the bound comes last. -/
lemma pairwise_concat_index {indices : List ℕ} {n : ℕ} (h : indices.Pairwise (· < ·)) (hlt : ∀ i ∈ indices, i < n) :
    (indices ++ [n]).Pairwise (· < ·) := by
  rw [List.pairwise_append]
  refine ⟨h, List.pairwise_singleton _ _, ?_⟩
  intro i hi j hj
  rw [List.mem_singleton.1 hj]
  exact hlt i hi

section

variable {r : Register} {records : List Value} {record : Value} {entries : List (ℕ × Exchange)}

/-- All indices so far are below the number of records. -/
lemma Accounts.index_lt (h : Accounts atlas r records entries) {i : ℕ}
    (hi : i ∈ entries.map (·.1) ++ r.rejected.map (·.index)) : i < records.length :=
  List.mem_range.1 (h.indices.subset hi)

/-- A rejection tells the same of a record when there are more records and more exchanges. -/
lemma Accounts.rejection_mono (h : Accounts atlas r records entries) {ids : List String}
    (hids : r.exchanges.map (·.id) ⊆ ids) {q : Rejection} (hq : q ∈ r.rejected) :
    ∃ record', (records ++ [record])[q.index]? = some record' ∧ recordId record' = .ok q.id ∧
      ((screen atlas record').2 = .error (.reject q.reason) ∨
        ∃ e, (screen atlas record').2 = .ok e ∧ q.reason = .duplicate e.id ∧ e.id ∈ ids) := by
  obtain ⟨record', hrecord, hid, hbecause⟩ := h.rejection q hq
  refine ⟨record', ?_, hid, ?_⟩
  · rw [List.getElem?_append_left (List.getElem?_eq_some_iff.1 hrecord).1]
    exact hrecord
  · rcases hbecause with hreject | ⟨e, he, hreason, hmem⟩
    · exact .inl hreject
    · exact .inr ⟨e, he, hreason, hids hmem⟩

/-- The account when a record is entered. -/
lemma Accounts.entered (h : Accounts atlas r records entries) {e : Exchange} (he : Accepted atlas r record e) :
    Accounts atlas { r with exchanges := r.exchanges ++ [e] } (records ++ [record])
      (entries ++ [(records.length, e)]) where
  exchanges := by simp [h.exchanges]
  entries_sorted := by
    rw [List.map_append]
    exact pairwise_concat_index h.entries_sorted fun i hi => h.index_lt (List.mem_append_left _ hi)
  rejected_sorted := h.rejected_sorted
  indices := by
    rw [List.length_append, List.length_singleton, List.range_succ, List.map_append, List.append_assoc]
    refine List.Perm.trans ?_ (h.indices.append_right _)
    rw [List.append_assoc]
    exact List.perm_append_comm.append_left _
  nodup_ids := by
    have hfree : e.id ∉ r.exchanges.map (·.id) := by
      rw [← isTaken_iff, he.free]
      exact Bool.false_ne_true
    rw [List.map_append, List.nodup_append_comm]
    exact List.nodup_cons.2 ⟨hfree, h.nodup_ids⟩
  mem_entries_iff := by
    intro i e'
    have hfree : ¬ ∃ j e', Passes atlas records j e' ∧ e'.id = e.id := by
      rw [← h.isTaken_iff_passes, he.free]
      exact Bool.false_ne_true
    rw [List.mem_append, List.mem_singleton, h.mem_entries_iff]
    constructor
    · rintro (⟨hpass, hfirst⟩ | hlast)
      · exact ⟨passes_concat.2 (.inl hpass), (forall_passes_concat_iff hpass.lt.le).2 hfirst⟩
      · cases hlast
        refine ⟨passes_concat.2 (.inr ⟨rfl, he.screened⟩), (forall_passes_concat_iff le_rfl).2 ?_⟩
        intro j e'' _ hpass' hsame
        exact hfree ⟨j, e'', hpass', hsame⟩
    · rintro ⟨hpass, hfirst⟩
      rcases passes_concat.1 hpass with hbefore | ⟨rfl, hscreened⟩
      · exact .inl ⟨hbefore, (forall_passes_concat_iff hbefore.lt.le).1 hfirst⟩
      · cases he.screened.symm.trans hscreened
        exact .inr rfl
  rejection := fun q hq => h.rejection_mono (by simp) hq

/-- The account when a record is refused. -/
lemma Accounts.refused (h : Accounts atlas r records entries) {id : Option String} {reason : Reason}
    (hr : Refused atlas r record id reason) :
    Accounts atlas (r.reject records.length id reason) (records ++ [record]) entries where
  exchanges := h.exchanges
  entries_sorted := h.entries_sorted
  rejected_sorted := by
    rw [reject, List.map_append]
    exact pairwise_concat_index h.rejected_sorted fun i hi => h.index_lt (List.mem_append_right _ hi)
  indices := by
    rw [List.length_append, List.length_singleton, List.range_succ, reject, List.map_append, ← List.append_assoc]
    exact h.indices.append_right _
  nodup_ids := h.nodup_ids
  mem_entries_iff := by
    intro i e'
    rw [h.mem_entries_iff]
    constructor
    · rintro ⟨hpass, hfirst⟩
      exact ⟨passes_concat.2 (.inl hpass), (forall_passes_concat_iff hpass.lt.le).2 hfirst⟩
    · rintro ⟨hpass, hfirst⟩
      rcases passes_concat.1 hpass with hbefore | ⟨rfl, hscreened⟩
      · exact ⟨hbefore, (forall_passes_concat_iff hbefore.lt.le).1 hfirst⟩
      · -- A refused record that passes has an identifier that is taken.
        rcases hr.because with hreject | ⟨e, he, htaken, -⟩
        · rw [hreject] at hscreened
          cases hscreened
        · cases he.symm.trans hscreened
          obtain ⟨j, e'', hpass', hsame⟩ := (h.isTaken_iff_passes e'.id).1 htaken
          exact absurd hsame (hfirst j e'' hpass'.lt (passes_concat.2 (.inl hpass')))
  rejection := by
    intro q hq
    rcases List.mem_append.1 hq with hq | hq
    · exact h.rejection_mono (List.Subset.refl _) hq
    · rw [List.mem_singleton.1 hq]
      refine ⟨record, by simp, hr.identified, ?_⟩
      rcases hr.because with hreject | ⟨e, he, htaken, hreason⟩
      · exact .inl hreject
      · exact .inr ⟨e, he, hreason, isTaken_iff.1 htaken⟩

end

/-! ### One list after another -/

/-- Entries whose identifiers a register has already, as the rejections that they become behind `k` records. -/
def repeated (a : Register) (k : ℕ) (entries : List (ℕ × Exchange)) : List Rejection :=
  (entries.filter fun p => a.isTaken p.2.id).map fun p => ⟨p.1 + k, some p.2.id, .duplicate p.2.id⟩

/-- What `a` becomes with the records from which `b` was built, which come behind `k` others. -/
structure Joins (a : Register) (k : ℕ) (b : Register) (entries : List (ℕ × Exchange)) (r : Register) : Prop where
  /-- The exchanges with new identifiers are added. -/
  exchanges : r.exchanges = a.exchanges ++ b.exchanges.filter fun e => !a.isTaken e.id
  /-- The rejections are added in the order of their indices, those of identifiers that are taken among them. -/
  rejected : ∃ later, r.rejected = a.rejected ++ later ∧ (later.map (·.index)).Pairwise (· < ·) ∧
    later.Perm (b.rejected.map (.later k) ++ repeated a k entries)

section

variable {a b r : Register} {k : ℕ} {records : List Value} {record : Value} {entries : List (ℕ × Exchange)}

/-- A register becomes itself with no further records. -/
lemma joins_empty (a : Register) (k : ℕ) : Joins a k empty [] a where
  exchanges := by simp [empty]
  rejected := ⟨[], by simp, List.Pairwise.nil, List.Perm.nil⟩

/-- An identifier is taken after both lists when it is after one of them. -/
lemma Joins.isTaken_iff (h : Joins a k b entries r) (id : String) :
    r.isTaken id = true ↔ a.isTaken id = true ∨ b.isTaken id = true := by
  simp only [isTaken, h.exchanges, List.any_append, Bool.or_eq_true, List.any_eq_true, List.mem_filter,
    Bool.not_eq_true', decide_eq_true_eq]
  constructor
  · rintro (ha | ⟨e, ⟨he, -⟩, rfl⟩)
    · exact .inl ha
    · exact .inr ⟨e, he, rfl⟩
  · rintro (ha | ⟨e, he, rfl⟩)
    · exact .inl ha
    · by_cases ha : a.isTaken e.id = true
      · rw [Register.isTaken, List.any_eq_true] at ha
        simp only [decide_eq_true_eq] at ha
        exact .inl ha
      · exact .inr ⟨e, ⟨he, by simpa [Register.isTaken] using ha⟩, rfl⟩

/-- The rejections that are added have indices of the records that are added. -/
lemma Accounts.later_lt (h : Accounts atlas b records entries) {later : List Rejection}
    (hlater : later.Perm (b.rejected.map (.later k) ++ repeated a k entries)) :
    ∀ i ∈ later.map (·.index), i < k + records.length := by
  intro i hi
  obtain ⟨q, hq, rfl⟩ := List.mem_map.1 hi
  rcases List.mem_append.1 (hlater.subset hq) with hq | hq
  · obtain ⟨q', hq', rfl⟩ := List.mem_map.1 hq
    have hlt := h.index_lt (List.mem_append_right _ (List.mem_map_of_mem hq'))
    simp only [Rejection.later]
    omega
  · obtain ⟨p, hp, rfl⟩ := List.mem_map.1 hq
    have hlt := h.index_lt (List.mem_append_left _ (List.mem_map_of_mem (List.mem_filter.1 hp).1))
    dsimp only
    omega

/-- What an exchange adds to the rejections behind other records. -/
lemma repeated_concat (a : Register) (k : ℕ) (entries : List (ℕ × Exchange)) (n : ℕ) (e : Exchange) :
    repeated a k (entries ++ [(n, e)]) =
      repeated a k entries ++ if a.isTaken e.id then [⟨n + k, some e.id, .duplicate e.id⟩] else [] := by
  cases htaken : a.isTaken e.id <;> simp [repeated, List.filter_append, htaken]

/-- A record that is entered from the second list alone is entered or repeats an identifier of the first. -/
lemma Joins.entered (h : Joins a k b entries r) (hb : Accounts atlas b records entries)
    (hnot : ¬ (recordOutcome atlas record).breaks) {e : Exchange} (he : Accepted atlas b record e) :
    ∃ r', (r.enter atlas (k + records.length) record).2 = .ok r' ∧
      Joins a k { b with exchanges := b.exchanges ++ [e] } (entries ++ [(records.length, e)]) r' := by
  have htaken_iff : r.isTaken e.id = true ↔ a.isTaken e.id = true := by
    simp [h.isTaken_iff, he.free]
  obtain ⟨later, hlater, hsorted, hperm⟩ := h.rejected
  rcases enter_of_not_breaks atlas r (k + records.length) hnot with
    ⟨e', he', henter⟩ | ⟨id, reason, hrefused, henter⟩
  · cases he'.screened.symm.trans he.screened
    have hnew : a.isTaken e.id = false := by
      rw [← Bool.not_eq_true, ← htaken_iff, he'.free]
      exact Bool.false_ne_true
    refine ⟨_, henter, ?_, later, hlater, hsorted, ?_⟩
    · simp [h.exchanges, List.filter_append, hnew]
    · rw [repeated_concat, hnew]
      simpa using hperm
  · rcases hrefused.because with hreject | ⟨e', he', htaken, rfl⟩
    · rw [he.screened] at hreject
      cases hreject
    · cases he'.symm.trans he.screened
      cases hrefused.identified.symm.trans (recordId_of_screen he.screened)
      have hold : a.isTaken e.id = true := htaken_iff.1 htaken
      refine ⟨_, henter, ?_, later ++ [⟨k + records.length, some e.id, .duplicate e.id⟩], ?_, ?_, ?_⟩
      · simp [reject, h.exchanges, List.filter_append, hold]
      · simp [reject, hlater]
      · rw [List.map_append]
        exact pairwise_concat_index hsorted (hb.later_lt hperm)
      · rw [repeated_concat, hold, Nat.add_comm k, ← List.append_assoc]
        exact hperm.append_right _

/-- Whatever is there already, a refused record has one identifier, and there is one reason to refuse it. -/
lemma Refused.unique {r r' : Register} {id id' : Option String} {reason reason' : Reason}
    (h : Refused atlas r record id reason) (h' : Refused atlas r' record id' reason') : id' = id ∧ reason' = reason := by
  constructor
  · cases h'.identified.symm.trans h.identified
    rfl
  · rcases h.because, h'.because with ⟨hr | ⟨e, he, -, rfl⟩, hr' | ⟨e', he', -, rfl⟩⟩
    · cases hr.symm.trans hr'
      rfl
    · cases hr.symm.trans he'
    · cases he.symm.trans hr'
    · cases he.symm.trans he'
      rfl

/-- A record that is refused from the second list alone is refused behind the first for the same reason. -/
lemma Joins.refused (h : Joins a k b entries r) (hb : Accounts atlas b records entries)
    (hnot : ¬ (recordOutcome atlas record).breaks) {id : Option String} {reason : Reason}
    (hr : Refused atlas b record id reason) :
    ∃ r', (r.enter atlas (k + records.length) record).2 = .ok r' ∧
      Joins a k (b.reject records.length id reason) entries r' := by
  obtain ⟨later, hlater, hsorted, hperm⟩ := h.rejected
  rcases enter_of_not_breaks atlas r (k + records.length) hnot with
    ⟨e, he, -⟩ | ⟨id', reason', hrefused, henter⟩
  · rcases hr.because with hreject | ⟨e', he', htaken, -⟩
    · rw [he.screened] at hreject
      cases hreject
    · cases he'.symm.trans he.screened
      have htaken' : r.isTaken e.id = true := (h.isTaken_iff e.id).2 (.inr htaken)
      rw [he.free] at htaken'
      cases htaken'
  · obtain ⟨rfl, rfl⟩ := hr.unique hrefused
    refine ⟨_, henter, h.exchanges, later ++ [⟨k + records.length, id', reason'⟩], ?_, ?_, ?_⟩
    · simp [reject, hlater]
    · rw [List.map_append]
      exact pairwise_concat_index hsorted (hb.later_lt hperm)
    · have hmoved : (b.reject records.length id' reason').rejected.map (Rejection.later k) =
          b.rejected.map (Rejection.later k) ++ [⟨k + records.length, id', reason'⟩] := by
        simp [reject, Rejection.later, Nat.add_comm]
      rw [hmoved, List.append_assoc]
      refine (hperm.append_right _).trans ?_
      rw [List.append_assoc]
      exact List.perm_append_comm.append_left _

end

/-! ### Building -/

/-- The account of all records, and what they add to a register that was built from others. -/
lemma exists_accounts {records : List Value} {b : Register} (h : empty.enterRest atlas 0 records = .ok b) :
    ∃ entries, Accounts atlas b records entries ∧
      ∀ a k, ∃ r, a.enterRest atlas k records = .ok r ∧ Joins a k b entries r := by
  induction records using List.reverseRecOn generalizing b with
  | nil =>
    cases h
    exact ⟨[], accounts_empty, fun a k => ⟨a, rfl, joins_empty a k⟩⟩
  | append_singleton records record ih =>
    have hnot := (enterRest_ok_iff atlas _ _ _).1 ⟨b, h⟩ record (by simp)
    rw [enterRest_append, zero_add] at h
    obtain ⟨before, hbefore, h⟩ := bind_eq_ok_iff.1 h
    obtain ⟨entries, haccounts, hjoins⟩ := ih hbefore
    have hlast : ∀ (s : Register) i, s.enterRest atlas i [record] = (s.enter atlas i record).2 := by
      intro s i
      rw [enterRest_cons]
      cases (s.enter atlas i record).2 <;> rfl
    rw [hlast] at h
    -- What follows on another register is what follows there on the last record.
    have hnext : ∀ (a : Register) k s r, a.enterRest atlas k records = .ok s →
        (s.enter atlas (k + records.length) record).2 = .ok r →
        a.enterRest atlas k (records ++ [record]) = .ok r := by
      intro a k s r hs hr
      rw [enterRest_append, hs]
      exact (hlast _ _).trans hr
    rcases enter_of_not_breaks atlas before records.length hnot with
      ⟨e, he, henter⟩ | ⟨id, reason, hrefused, henter⟩
    · cases h.symm.trans henter
      refine ⟨_, haccounts.entered he, ?_⟩
      intro a k
      obtain ⟨s, hs, hjoin⟩ := hjoins a k
      obtain ⟨r, hr, hjoin⟩ := hjoin.entered haccounts hnot he
      exact ⟨r, hnext a k s r hs hr, hjoin⟩
    · cases h.symm.trans henter
      refine ⟨_, haccounts.refused hrefused, ?_⟩
      intro a k
      obtain ⟨s, hs, hjoin⟩ := hjoins a k
      obtain ⟨r, hr, hjoin⟩ := hjoin.refused haccounts hnot hrefused
      exact ⟨r, hnext a k s r hs hr, hjoin⟩

/-- **What a build makes of its records.**  Each record is entered or rejected, in order; it is entered when it is
the first with its identifier of the records that pass screening.  The records of two lists make what those of the
first make, followed by what those of the second add: the exchanges whose identifiers are new, and with indices
greater by the length of the first list the rejections of the second and one for each identifier that is not new. -/
theorem build_accounts {front back : List Value} {a b : Register} (ha : (build atlas false front).2 = .ok a)
    (hb : (build atlas false back).2 = .ok b) :
    ∃ entries entries', Accounts atlas a front entries ∧ Accounts atlas b back entries' ∧
      ∃ r, (build atlas false (front ++ back)).2 = .ok r ∧ Joins a front.length b entries' r := by
  rw [build_ok_iff] at ha hb
  obtain ⟨entries, haccounts, -⟩ := exists_accounts ha
  obtain ⟨entries', hbaccounts, hjoins⟩ := exists_accounts hb
  obtain ⟨r, hr, hjoin⟩ := hjoins a front.length
  refine ⟨entries, entries', haccounts, hbaccounts, r, ?_, hjoin⟩
  rw [build_ok_iff, enterRest_append, ha, zero_add]
  exact hr

/-- A record with the given identifier and no hours. -/
def placeRecord (id : String) : Value := .map [(.text "id", .text id), (.text "timezone", .text "UTC"),
  (.text "latitude", .int 10), (.text "longitude", .int 20)]

/-- Behind a record of `b`, the records of `b` and `c` with one that is no mapping between them add the exchange `c`
and two rejections. -/
theorem repeatedPlace_accounts :
    ∃ a b, (build Zone.atlas false [placeRecord "b"]).2 = .ok a ∧
      (build Zone.atlas false [placeRecord "b", .null, placeRecord "c"]).2 = .ok b ∧
      ∃ entries entries', Accounts Zone.atlas a [placeRecord "b"] entries ∧
        Accounts Zone.atlas b [placeRecord "b", .null, placeRecord "c"] entries' ∧
        ∃ r, (build Zone.atlas false ([placeRecord "b"] ++ [placeRecord "b", .null, placeRecord "c"])).2 = .ok r ∧
          Joins a 1 b entries' r ∧ r.exchanges.map (·.id) = ["b", "c"] ∧
          r.rejected = [⟨1, some "b", .duplicate "b"⟩, ⟨2, none, .notMapping⟩] := by
  have hfront : (build Zone.atlas false [placeRecord "b"]).2.isOk = true := by decide +kernel
  have hback : (build Zone.atlas false [placeRecord "b", .null, placeRecord "c"]).2.isOk = true := by
    decide +kernel
  have hboth : ((build Zone.atlas false
      ([placeRecord "b"] ++ [placeRecord "b", .null, placeRecord "c"])).2.toOption.map
        fun r => (r.exchanges.map (·.id), r.rejected)) =
      some (["b", "c"], [⟨1, some "b", .duplicate "b"⟩, ⟨2, none, .notMapping⟩]) := by
    decide +kernel
  obtain ⟨a, ha⟩ := exists_of_isOk hfront
  obtain ⟨b, hb⟩ := exists_of_isOk hback
  obtain ⟨entries, entries', haccounts, hbaccounts, r, hr, hjoin⟩ := build_accounts ha hb
  rw [hr] at hboth
  obtain ⟨hids, hrejected⟩ := Prod.mk.inj (Option.some.inj hboth)
  exact ⟨a, b, ha, hb, entries, entries', haccounts, hbaccounts, r, hr, hjoin, hids, hrejected⟩

end ExchangeBoard.Register
