import ExchangeBoard.Proofs.Numeral.Quotient
import ExchangeBoard.Proofs.Register.Reading

/-!
# How the screening of a record ends

The outcome of a record is put together from the outcomes of its parts, in the order in which they are read:
what it must have, its schedule, the rules for particular dates and all else (`recordOutcome`).  The main
result `tells_screen` says that screening a record ends as the outcome tells.

A coordinate may break the screening off when it is a whole number that has no nearest double, and a rule when
its date is none and cannot be shown.
-/

namespace ExchangeBoard

open Text Calendar Numeral

/-- The outcome of what is rejected whatever it holds. -/
def Outcome.rejected : Outcome := ⟨False, False⟩

/-! ### Coordinates -/

/-- A coordinate is a double that is not beyond its limit.  A whole number may be too large for a double, and
any other value that is no number is shown in the reason of the rejection. -/
def Value.asCoordinate (field : String) (limit : Nat) (v : Value) : Outcome where
  fits := ∃ x, doubleOf field v = .ok x ∧ -(ofWhole limit) ≤ x ∧ x ≤ ofWhole limit
  breaks :=
    match v with
    | .int n => 2 ^ 1024 - 2 ^ 970 ≤ n.natAbs
    | v => v.isShowable = false

/-- A rejection that shows its value breaks off just where the value cannot be shown. -/
lemma rejectShown_eq_abort_iff {v : Value} {reason : String → Reason} :
    (∃ cause, rejectShown v reason = .abort cause) ↔ v.isShowable = false := by
  unfold rejectShown
  split_ifs with h
  · simp [h]
  · simpa using h

/-- A value breaks off when it is converted to a double, or when it is shown because it cannot be
converted. -/
lemma doubleOf_abort_iff (field : String) (limit : Nat) (v : Value) :
    (∃ cause, doubleOf field v = .error (.abort cause)) ↔ (v.asCoordinate field limit).breaks := by
  cases v with
  | int n =>
    simp only [doubleOf, Value.asCoordinate, ← ofWhole?_eq_none_iff]
    cases ofWhole? n <;> simp
  | text s =>
    simp only [doubleOf, Value.asCoordinate]
    split <;> simp [rejectShown_eq_abort_iff, Value.isShowable]
  | bytes bs =>
    simp only [doubleOf, Value.asCoordinate]
    split <;> simp [rejectShown_eq_abort_iff, Value.isShowable]
  | bool b => simp [doubleOf, Value.asCoordinate, Value.isShowable]
  | float x => simp [doubleOf, Value.asCoordinate, Value.isShowable]
  | _ => simp [doubleOf, Value.asCoordinate, rejectShown_eq_abort_iff]

/-- A coordinate is read from a value that must be given. -/
lemma tells_coordinate (fields : Fields) (field : String) (others : List String) (limit : Nat) :
    Tells (coordinate fields field others limit)
      (required (pick fields (field :: others)) (Value.asCoordinate field limit)) := by
  unfold coordinate
  cases pick fields (field :: others) with
  | none => exact tells_required_none _ _
  | some v =>
    refine Tells.required ?_
    have habort := doubleOf_abort_iff field limit v
    dsimp only
    cases hread : doubleOf field v with
    | error halt =>
      rw [hread] at habort
      refine ⟨iff_of_false (by simp) ?_, habort⟩
      rintro ⟨x, hx, -⟩
      rw [hread] at hx
      cases hx
    | ok x =>
      have hnever : ¬ (v.asCoordinate field limit).breaks := by
        rw [← habort, hread]
        simp
      dsimp only
      split_ifs with h
      · exact tells_of_ok ⟨x, hread, h⟩ hnever
      · refine tells_of_reject ?_ hnever
        rintro ⟨y, hy, hlimit⟩
        rw [hread] at hy
        cases hy
        exact h hlimit

/-! ### Rules -/

/-- What a rule is for; a value that is no date is shown in the reason of the rejection. -/
def Value.asRuleDate (v : Value) : Outcome where
  fits := ∃ d, ruleDate (some v) = .ok d
  breaks := (∀ d, ruleDate (some v) ≠ .ok d) ∧ v.isShowable = false

/-- What a mapping must hold to be a rule. -/
def ruleOutcome (fields : Fields) : Outcome := .inOrder [
  required (pick fields ["date"]) Value.asRuleDate,
  optional (pick fields ["override_open", "open"]) Value.asClock,
  optional (pick fields ["override_close", "close"]) Value.asClock,
  optional (pick fields ["half_day_close", "halfDayClose"]) Value.asClock]

/-- An item of a list of rules must be a mapping. -/
def Value.asRule (item : Value) : Outcome :=
  match item.opened with
  | .map fields => ruleOutcome fields
  | _ => .rejected

/-- A list of rules, or JSON text with such a list, where a whole number may have too many digits. -/
def Value.asRules (v : Value) : Outcome where
  fits := ∃ items, ruleList v = .ok items ∧ (Outcome.inOrder (items.map Value.asRule)).fits
  breaks :=
    (∃ s count, v = .text s ∧ Json.read s = .error (.digits count)) ∨
      ∃ items, ruleList v = .ok items ∧ (Outcome.inOrder (items.map Value.asRule)).breaks

/-- A value that stands for no date is refused with a reason that shows it. -/
lemma ruleDate_error {v : Value} {halt : Halt} (h : ruleDate (some v) = .error halt) :
    halt = rejectShown v .ruleDate := by
  unfold ruleDate at h
  split at h
  · cases h
  · cases h
  · dsimp only at h
    split at h
    · cases h
    · cases h
      rfl

/-- The date of a rule is read from a value that must be given. -/
lemma tells_ruleDate (o : Option Value) : Tells (ruleDate o) (required o Value.asRuleDate) := by
  cases o with
  | none =>
    have hnone : ruleDate none = .error (.reject (.ruleDate "None")) := rfl
    rw [hnone]
    exact tells_required_none _ _
  | some v =>
    refine Tells.required ?_
    cases hread : ruleDate (some v) with
    | ok d => exact tells_of_ok ⟨d, hread⟩ fun h => h.1 d hread
    | error halt =>
      have hnone : ∀ d, ruleDate (some v) ≠ .ok d := by simp [hread]
      rw [ruleDate_error hread]
      have hunfit : ¬ (Value.asRuleDate v).fits := by
        rintro ⟨d, hd⟩
        exact hnone d hd
      refine ⟨iff_of_false (by simp) hunfit, ?_⟩
      simp [Value.asRuleDate, rejectShown_eq_abort_iff, hnone]

/-- A mapping is read as a rule part by part. -/
lemma tells_ruleOf (fields : Fields) : Tells (ruleOf fields) (ruleOutcome fields) := by
  unfold ruleOf ruleOutcome clockField
  refine Tells.cons (tells_ruleDate _) fun date _ => ?_
  refine Tells.cons (tells_optional tells_clockText _) fun opens _ => ?_
  refine Tells.cons (tells_optional tells_clockText _) fun closes _ => ?_
  refine Tells.cons (tells_optional tells_clockText _) fun earlyClose _ => ?_
  exact tells_nil _

/-- An item is read as a rule as `Value.asRule` says. -/
lemma tells_ruleOfItem (item : Value) : Tells (ruleOfItem item) item.asRule := by
  unfold ruleOfItem Value.asRule
  cases item.opened with
  | map fields => exact tells_ruleOf fields
  | _ => exact tells_of_reject id id

/-- The rules of a list are read from the first item and then from the others. -/
lemma rulesFrom_cons (id : String) (before : List Rule) (notes : List Note) (item : Value) (rest : List Value) :
    (rulesFrom id before notes (item :: rest)).2 = (ruleOfItem item).bind fun r =>
      (rulesFrom id (before ++ [r]) (notes ++ ruleNotes id before r) rest).2 := by
  rw [rulesFrom]
  cases ruleOfItem item <;> rfl

/-- The items of a list are read as rules one after the other. -/
lemma tells_rulesFrom (id : String) (before : List Rule) (notes : List Note) (items : List Value) :
    Tells (rulesFrom id before notes items).2 (.inOrder (items.map Value.asRule)) := by
  induction items generalizing before notes with
  | nil => exact tells_nil before
  | cons item rest ih =>
    rw [rulesFrom_cons, List.map_cons]
    exact Tells.cons (tells_ruleOfItem item) fun r _ => ih _ _

/-- Only JSON text breaks off before any item is read. -/
lemma ruleList_abort_iff (v : Value) :
    (∃ cause, ruleList v = .error (.abort cause)) ↔
      ∃ s count, v = .text s ∧ Json.read s = .error (.digits count) := by
  cases v with
  | text s =>
    simp only [ruleList]
    cases hread : Json.read s with
    | ok w => cases w <;> simp [hread]
    | error fault => cases fault <;> simp [hread]
  | cyclic words contents => cases contents <;> simp [ruleList, Value.opened]
  | _ => simp [ruleList, Value.opened]

/-- Rules are read from a value that may be given. -/
lemma tells_rulesOf (id : String) (o : Option Value) :
    Tells (rulesOf id o).2 (optional o Value.asRules) := by
  cases o with
  | none => exact tells_of_ok (by simp [optional]) (by simp [optional])
  | some v =>
    refine Tells.optional ?_
    have habort := ruleList_abort_iff v
    unfold rulesOf
    dsimp only
    cases hread : ruleList v with
    | error halt =>
      rw [hread] at habort
      have hnone (p : List Value → Prop) : ¬ ∃ items, ruleList v = .ok items ∧ p items := by
        simp [hread]
      simp only [Except.error.injEq] at habort
      refine ⟨iff_of_false (by simp) (hnone _), ?_⟩
      simp only [Except.error.injEq]
      exact habort.trans (or_iff_left (hnone _)).symm
    | ok items =>
      have hnever : ¬ ∃ s count, v = .text s ∧ Json.read s = .error (.digits count) := by
        rw [← habort, hread]
        simp
      obtain ⟨hok, habort⟩ := tells_rulesFrom id [] [] items
      refine ⟨hok.trans ?_, habort.trans ?_⟩
      · simp [Value.asRules, hread]
      · refine ⟨fun h => .inr ⟨items, hread, h⟩, fun h => ?_⟩
        obtain ⟨_, hitems, h⟩ := h.resolve_left hnever
        rw [hread] at hitems
        cases hitems
        exact h

/-! ### Records -/

/-- There must be a zone of the name. -/
def Value.asZone (atlas : Zone.Atlas) (v : Value) : Outcome where
  fits := v.isShowable = true ∧ ∃ zone, atlas (strip v.shown) = .ok zone
  breaks := v.isShowable = false

/-- What a record must have. -/
def essentialsOutcome (atlas : Zone.Atlas) (fields : Fields) : Outcome := .inOrder [
  required (pick fields idNames) Value.asText,
  required (pick fields ["timezone", "tz"]) (Value.asZone atlas),
  required (pick fields ["latitude", "lat"]) (Value.asCoordinate "latitude" 90),
  required (pick fields ["longitude", "lon", "lng"]) (Value.asCoordinate "longitude" 180)]

/-- The hours and the workdays. -/
def scheduleOutcome (fields : Fields) : Outcome := .inOrder [
  optional (pick fields ["schedule_template", "hours_template", "template"]) Value.asText,
  optional (pick fields ["workdays"]) Value.asText]

/-- What is read last. -/
def detailsOutcome (fields : Fields) : Outcome := .inOrder [
  optional (pick fields ["name"]) Value.asText,
  optional (pick fields ["city"]) Value.asText,
  optional (pick fields ["half_day_close"]) Value.asClock]

/-- The outcome of a mapping. -/
def fieldsOutcome (atlas : Zone.Atlas) (fields : Fields) : Outcome := .inOrder [
  essentialsOutcome atlas fields,
  scheduleOutcome fields,
  optional (pick fields ["exceptions"]) Value.asRules,
  detailsOutcome fields]

/-- The outcome of a record, which must be a mapping. -/
def recordOutcome (atlas : Zone.Atlas) (record : Value) : Outcome :=
  match record.opened with
  | .map fields => fieldsOutcome atlas fields
  | _ => .rejected

/-- A text field without which the record is rejected. -/
def requiredText (fields : Fields) (names : List String) (field : String) : Except Halt String :=
  match pick fields names with
  | none => .error (.reject (.missing field))
  | some v => orAbort (plainText v)

/-- It is a text field, save that it must be there. -/
lemma requiredText_eq (fields : Fields) (names : List String) (field : String) :
    requiredText fields names field = (orAbort (textField fields names)).bind fun text? =>
      text?.elim (.error (.reject (.missing field))) .ok := by
  unfold requiredText textField
  cases pick fields names with
  | none => rfl
  | some v =>
    rw [Option.mapM_some]
    dsimp only
    cases plainText v <;> rfl

/-- A required text is read from a value that must be given. -/
lemma tells_requiredText (fields : Fields) (names : List String) (field : String) :
    Tells (requiredText fields names field) (required (pick fields names) Value.asText) := by
  unfold requiredText
  cases pick fields names with
  | none => exact tells_required_none _ _
  | some v => exact (tells_plainText v).required

/-- The name of the zone, of which there must be one. -/
def zoneName (atlas : Zone.Atlas) (fields : Fields) : Except Halt String :=
  (requiredText fields ["timezone", "tz"] "timezone").bind fun zone =>
    match atlas zone with
    | .error _ => .error (.reject (.zone zone))
    | .ok _ => .ok zone

/-- The name of a zone is read from a value that must be given. -/
lemma tells_zoneName (atlas : Zone.Atlas) (fields : Fields) :
    Tells (zoneName atlas fields) (required (pick fields ["timezone", "tz"]) (Value.asZone atlas)) := by
  unfold zoneName requiredText
  cases pick fields ["timezone", "tz"] with
  | none => exact tells_required_none _ _
  | some v =>
    refine Tells.required ?_
    dsimp only
    unfold plainText Value.asZone
    split_ifs with h
    · simp only [orAbort, Except.mapError, Except.bind]
      cases hzone : atlas (strip v.shown) with
      | error fault => exact tells_of_reject (by simp) (by simp [h])
      | ok zone => exact tells_of_ok ⟨h, zone, rfl⟩ (by simp [h])
    · exact tells_of_abort (by simp [h]) (by simpa using h)

/-- What a record must have is read part by part. -/
lemma essentials_eq (atlas : Zone.Atlas) (fields : Fields) :
    essentials atlas fields =
      (requiredText fields idNames "id").bind fun id =>
      (zoneName atlas fields).bind fun zone =>
      (coordinate fields "latitude" ["lat"] 90).bind fun latitude =>
      (coordinate fields "longitude" ["lon", "lng"] 180).bind fun longitude =>
        .ok ⟨id, zone, latitude, longitude⟩ := by
  unfold essentials zoneName
  rw [requiredText_eq, requiredText_eq]
  cases orAbort (textField fields idNames) with
  | error halt => rfl
  | ok id =>
    cases id with
    | none => rfl
    | some id =>
      cases orAbort (textField fields ["timezone", "tz"]) with
      | error halt => rfl
      | ok zone =>
        cases zone with
        | none => rfl
        | some zone =>
          cases hzone : atlas zone with
          | error fault =>
            simp only [bind, Except.bind, Option.elim, hzone]
            rfl
          | ok history =>
            simp only [bind, Except.bind, Option.elim, hzone]
            rfl

/-- The essentials are read field by field. -/
lemma tells_essentials (atlas : Zone.Atlas) (fields : Fields) :
    Tells (essentials atlas fields) (essentialsOutcome atlas fields) := by
  rw [essentials_eq]
  refine Tells.cons (tells_requiredText _ _ _) fun id _ => ?_
  refine Tells.cons (tells_zoneName _ _) fun zone _ => ?_
  refine Tells.cons (tells_coordinate _ _ _ _) fun latitude _ => ?_
  refine Tells.cons (tells_coordinate _ _ _ _) fun longitude _ => ?_
  exact tells_nil _

/-- The hours and the workdays are read field by field. -/
lemma tells_schedule (fields : Fields) : Tells (orAbort (schedule fields)) (scheduleOutcome fields) := by
  have horder : orAbort (schedule fields) =
      (orAbort (textField fields ["schedule_template", "hours_template", "template"])).bind fun hours =>
      (orAbort (textField fields ["workdays"])).bind fun workdays => .ok (hours.getD "", workdays) := by
    unfold schedule
    cases textField fields ["schedule_template", "hours_template", "template"] with
    | error cause => rfl
    | ok hours => cases textField fields ["workdays"] <;> rfl
  rw [horder]
  refine Tells.cons (tells_optional tells_plainText _) fun hours _ => ?_
  refine Tells.cons (tells_optional tells_plainText _) fun workdays _ => ?_
  exact tells_nil _

/-- The details of an exchange are read one after the other. -/
lemma exchangeOf_eq (fields : Fields) (parts : Essentials) (hours : String) (workdays : Option String)
    (rules : List Rule) :
    orAbort (exchangeOf fields parts hours workdays rules) =
      (orAbort (textField fields ["name"])).bind fun name =>
      (orAbort (textField fields ["city"])).bind fun city =>
      (orAbort (clockField fields ["half_day_close"])).bind fun earlyClose =>
        .ok ⟨parts.id, parts.zone, parts.latitude, parts.longitude, hours, workdays, rules, name.getD "",
          city.getD "", earlyClose⟩ := by
  unfold exchangeOf
  cases textField fields ["name"] with
  | error cause => rfl
  | ok name =>
    cases textField fields ["city"] with
    | error cause => rfl
    | ok city => cases clockField fields ["half_day_close"] <;> rfl

/-- The details of an exchange are read field by field. -/
lemma tells_exchangeOf (fields : Fields) (parts : Essentials) (hours : String) (workdays : Option String)
    (rules : List Rule) :
    Tells (orAbort (exchangeOf fields parts hours workdays rules)) (detailsOutcome fields) := by
  rw [exchangeOf_eq]
  refine Tells.cons (tells_optional tells_plainText _) fun name _ => ?_
  refine Tells.cons (tells_optional tells_plainText _) fun city _ => ?_
  refine Tells.cons (tells_optional tells_clockText _) fun earlyClose _ => ?_
  exact tells_nil _

/-- The parts of a record are read one after the other. -/
lemma screenFields_eq (atlas : Zone.Atlas) (fields : Fields) :
    (screenFields atlas fields).2 =
      (essentials atlas fields).bind fun parts =>
      (orAbort (schedule fields)).bind fun hours =>
      (rulesOf parts.id (pick fields ["exceptions"])).2.bind fun rules =>
        orAbort (exchangeOf fields parts hours.1 hours.2 rules) := by
  unfold screenFields
  cases essentials atlas fields with
  | error halt => rfl
  | ok parts => cases schedule fields <;> rfl

/-- The fields of a record are screened as its outcome tells. -/
lemma tells_screenFields (atlas : Zone.Atlas) (fields : Fields) :
    Tells (screenFields atlas fields).2 (fieldsOutcome atlas fields) := by
  rw [screenFields_eq]
  refine Tells.cons (tells_essentials _ _) fun parts _ => ?_
  refine Tells.cons (tells_schedule _) fun hours _ => ?_
  refine Tells.cons (tells_rulesOf _ _) fun rules _ => ?_
  exact (tells_exchangeOf fields parts hours.1 hours.2 rules).last

/-- A record is screened as its outcome tells. -/
theorem tells_screen (atlas : Zone.Atlas) (record : Value) :
    Tells (screen atlas record).2 (recordOutcome atlas record) := by
  unfold screen recordOutcome
  cases record.opened with
  | map fields => exact tells_screenFields atlas fields
  | _ => exact tells_of_reject id id

end ExchangeBoard
