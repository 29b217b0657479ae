import ExchangeBoard.Proofs.Register.Isolation

/-!
# Entries of a register

What a register holds after a build, strict or not: a record that was not rejected is entered as the exchange that
its screening yields (`mem_exchanges_of_build`), and no two exchanges have the same identifier
(`nodup_ids_of_build`), since a record is entered only when its identifier is free.
-/

namespace ExchangeBoard.Register

variable (atlas : Zone.Atlas)

/-- A build that succeeds has entered or rejected all records. -/
lemma enterRest_of_build {strict : Bool} {records : List Value} {r : Register}
    (h : (build atlas strict records).2 = .ok r) : empty.enterRest atlas 0 records = .ok r := by
  unfold build at h
  unfold enterRest
  generalize empty.enterAll atlas 0 [] records = outcome at h ⊢
  obtain ⟨notes, result⟩ := outcome
  cases result with
  | error cause => cases h
  | ok r' =>
    dsimp only at h
    split_ifs at h
    cases h
    rfl

/-- A record that was not rejected is entered as what its screening yields. -/
lemma mem_exchanges_of_build {strict : Bool} {before after : List Value} {record : Value} {r : Register}
    (h : (build atlas strict (before ++ record :: after)).2 = .ok r)
    (haccepted : ∀ q ∈ r.rejected, q.index ≠ before.length) :
    ∃ e ∈ r.exchanges, (screen atlas record).2 = .ok e := by
  have hrest := enterRest_of_build atlas h
  have hall := (enterRest_ok_iff atlas _ _ _).1 ⟨r, hrest⟩
  obtain ⟨earlier, hearlier⟩ := (enterRest_ok_iff atlas empty 0 before).2 fun q hq => hall q (by simp [hq])
  rw [enterRest_append, hearlier, zero_add] at hrest
  replace hrest : earlier.enterRest atlas before.length (record :: after) = .ok r := hrest
  rw [enterRest_cons] at hrest
  rcases enter_of_not_breaks atlas earlier before.length (hall record (by simp)) with
    ⟨e, he, henter⟩ | ⟨id, reason, -, henter⟩
  · rw [henter] at hrest
    obtain ⟨more, -, hmore, -, -⟩ := enterRest_extends atlas hrest
    refine ⟨e, ?_, he.screened⟩
    rw [hmore]
    simp
  · rw [henter] at hrest
    obtain ⟨-, rest, -, hrejected, -⟩ := enterRest_extends atlas hrest
    refine absurd rfl (haccepted ⟨before.length, id, reason⟩ ?_)
    rw [hrejected]
    simp [reject]

/-- Entering records keeps the identifiers apart. -/
lemma nodup_ids_enterRest {r r' : Register} {i : ℕ} {records : List Value}
    (h : r.enterRest atlas i records = .ok r') (hr : (r.exchanges.map (·.id)).Nodup) :
    (r'.exchanges.map (·.id)).Nodup := by
  induction records generalizing r i with
  | nil =>
    cases h
    exact hr
  | cons record rest ih =>
    have hrecord := (enterRest_ok_iff atlas r i (record :: rest)).1 ⟨r', h⟩ record (List.mem_cons_self ..)
    rw [enterRest_cons] at h
    rcases enter_of_not_breaks atlas r i hrecord with ⟨e, he, henter⟩ | ⟨id, reason, -, henter⟩
    · rw [henter] at h
      refine ih h ?_
      have hfree : e.id ∉ r.exchanges.map (·.id) := by
        simpa [isTaken] using he.free
      rw [List.map_append, List.map_singleton, List.nodup_append_comm, List.singleton_append]
      exact List.nodup_cons.2 ⟨hfree, hr⟩
    · rw [henter] at h
      exact ih h hr

/-- The exchanges of a register have different identifiers. -/
lemma nodup_ids_of_build {strict : Bool} {records : List Value} {r : Register}
    (h : (build atlas strict records).2 = .ok r) : (r.exchanges.map (·.id)).Nodup :=
  nodup_ids_enterRest atlas (enterRest_of_build atlas h) List.nodup_nil

end ExchangeBoard.Register
