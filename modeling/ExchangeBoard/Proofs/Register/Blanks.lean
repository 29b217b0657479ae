import ExchangeBoard.Proofs.Register.Acceptance
import ExchangeBoard.Proofs.Register.Closures

/-!
# Blank fields

A field that is given a blank value, that is nothing, a double that is no number or a blank text, is read like one that
is absent: it is passed over when the first usable value among the names of a field is picked
(`Given.pick_eq_of_isBlank`).  So a record with blank fields, and one whose rules have blank fields, is screened with
the same outcome (`readAlike_of_blankGiven`), and a register is built alike (`build_congr`).

One field is not picked like this, the flag of a rule that closes a day.  Nothing and blank texts do not set it either,
but a double that is no number counts as true there (`isSet_of_isNaN`).
-/

namespace ExchangeBoard

open Text Numeral

/-! ### Fields that change -/

/-- One field of a mapping changes, and the others stay. -/
structure Changes (name : String) (old new : Option Value) (fields fields' : Fields) : Prop where
  old : Value.field? fields name = old
  new : Value.field? fields' name = new
  others : ∀ other, other ≠ name → Value.field? fields' other = Value.field? fields other

/-- An absent field is given a value. -/
abbrev Given (name : String) (v : Value) : Fields → Fields → Prop := Changes name none (some v)

/-- A key is the same as a text key when it is this text. -/
lemma sameKey_text (key : Value) (name : String) : key.sameKey (.text name) = key.isText name := by
  cases key with
  | text s => rfl
  | _ => simp [Value.sameKey, Value.isText, Value.number?, Value.infinity?]

/-- What an absent field is given can be looked up. -/
lemma given_setField {fields : Fields} {name : String} (habsent : Value.field? fields name = none) (v : Value) :
    Given name v fields (Value.setField fields (.text name) v) where
  old := habsent
  new := by
    have hnot : ∀ f ∈ fields, f.1.isText name = false := by
      simpa [Value.field?] using habsent
    have hnew : Value.setField fields (.text name) v = fields ++ [(.text name, v)] := by
      simp only [Value.setField, sameKey_text]
      rw [if_neg]
      simpa using hnot
    have hfound : (Value.text name).isText name = true := by simp [Value.isText]
    rw [hnew, Value.field?, List.find?_append, List.find?_eq_none.2 (by simpa using hnot)]
    simp [hfound]
  others other hne := field?_setField hne v

section

variable {name : String} {old new : Option Value} {v : Value} {fields fields' : Fields}

/-- Names that do not include the field are read alike. -/
lemma Changes.pick_eq (h : Changes name old new fields fields') {names : List String} (hname : name ∉ names) :
    pick fields' names = pick fields names := by
  refine pick_congr fun other hother => ?_
  have hne : other ≠ name := fun heq => hname (heq ▸ hother)
  rw [h.others other hne]

/-- A blank value is not picked, whatever the other names say. -/
lemma Given.pick_eq_of_isBlank (h : Given name v fields fields') (hblank : v.isBlank = true) (names : List String) :
    pick fields' names = pick fields names := by
  refine pick_congr fun other _ => ?_
  by_cases hother : other = name
  · rw [hother, h.old, h.new]
    simp [hblank]
  · rw [h.others other hother]

/-! ### Flags -/

/-- Nothing and blank texts do not set a flag. -/
lemma isSet_of_isBlank (hblank : v.isBlank = true) (hnumber : ∀ x, v ≠ .float x) : isSet v = false := by
  cases v with
  | null => rfl
  | float x => exact absurd rfl (hnumber x)
  | text s =>
    have hstrip : strip s = "" := by
      rw [strip, stripChars_eq_nil_iff.2 (List.all_eq_true.1 hblank), String.ofList_nil]
    rw [isSet, hstrip]
    decide +kernel
  | _ => cases hblank

/-- A double that is no number counts as true. -/
lemma isSet_of_isNaN {x : Float} (h : x.isNaN = true) : isSet (.float x) = true := by
  have hne : (x == 0.0) = false := by
    rw [← Bool.not_eq_true, beq_iff_order?, (order?_nan (isNaN_iff.1 h) _).1]
    simp
  change (!(x == 0.0)) = true
  rw [hne]
  rfl

/-! ### Rules -/

/-- A rule is told by its picked values and by its flag. -/
lemma ruleOf_congr {rule rule' : Fields} (hpick : ∀ names, "closed" ∉ names → pick rule' names = pick rule names)
    (hclosed : flagField rule' "closed" = flagField rule "closed") : ruleOf rule' = ruleOf rule := by
  simp only [ruleOf, clockField, hclosed, hpick ["date"] (by decide), hpick ["override_open", "open"] (by decide),
    hpick ["override_close", "close"] (by decide), hpick ["half_day_close", "halfDayClose"] (by decide)]

/-- A rule is given a blank field, which for its flag is not a double. -/
def RuleGiven (rule rule' : Fields) : Prop :=
  ∃ name v, Given name v rule rule' ∧ v.isBlank = true ∧ (name = "closed" → ∀ x, v ≠ .float x)

/-- The flag of a rule is a double that is no number, and then it is true. -/
def RuleClosed (rule rule' : Fields) : Prop :=
  ∃ x : Float, x.isNaN = true ∧ Changes "closed" (some (.float x)) (some (.bool true)) rule rule'

/-- A blank field makes no other rule. -/
lemma ruleOf_of_ruleGiven {rule rule' : Fields} (h : RuleGiven rule rule') : ruleOf rule' = ruleOf rule := by
  obtain ⟨name, v, hgiven, hblank, hnumber⟩ := h
  refine ruleOf_congr (fun names _ => hgiven.pick_eq_of_isBlank hblank names) ?_
  by_cases hname : name = "closed"
  · rw [flagField, flagField, ← hname, hgiven.old, hgiven.new]
    exact isSet_of_isBlank hblank (hnumber hname)
  · rw [flagField, flagField, hgiven.others "closed" (Ne.symm hname)]

/-- A flag that is no number makes the same rule as a true one. -/
lemma ruleOf_of_ruleClosed {rule rule' : Fields} (h : RuleClosed rule rule') : ruleOf rule' = ruleOf rule := by
  obtain ⟨x, hx, hchange⟩ := h
  refine ruleOf_congr (fun names hnames => hchange.pick_eq hnames) ?_
  rw [flagField, flagField, hchange.old, hchange.new]
  exact (isSet_of_isNaN hx).symm

/-- The rules of a list are told item by item. -/
lemma rulesFrom_congr {items items' : List Value} (h : items'.map ruleOfItem = items.map ruleOfItem) (id : String)
    (before : List Rule) (notes : List Note) : rulesFrom id before notes items' = rulesFrom id before notes items := by
  induction items generalizing items' before notes with
  | nil => rw [List.map_eq_nil_iff.1 h]
  | cons item items ih =>
    obtain ⟨item', rest, rfl, hitem, hrest⟩ := List.map_eq_cons_iff.1 h
    rw [rulesFrom, rulesFrom, hitem]
    cases ruleOfItem item with
    | error halt => rfl
    | ok r => exact ih hrest _ _

/-! ### Records -/

/-- Two records are screened with the same outcome, and they give the same identifier. -/
structure ReadAlike (atlas : Zone.Atlas) (record record' : Value) : Prop where
  screen_eq : screen atlas record' = screen atlas record
  recordId_eq : recordId record' = recordId record

/-- A record is told by its picked values and its rules. -/
lemma readAlike_of_pick {atlas : Zone.Atlas} {record record' : Value} (hrecord : record.opened = .map fields)
    (hrecord' : record'.opened = .map fields')
    (hpick : ∀ names, "exceptions" ∉ names → pick fields' names = pick fields names)
    (hrules : ∀ id, rulesOf id (pick fields' ["exceptions"]) = rulesOf id (pick fields ["exceptions"])) :
    ReadAlike atlas record record' := by
  have htext : ∀ names, "exceptions" ∉ names → textField fields' names = textField fields names := by
    intro names hnames
    rw [textField, textField, hpick names hnames]
  have hessentials : essentials atlas fields' = essentials atlas fields := by
    simp only [essentials, coordinate, htext idNames (by decide), htext ["timezone", "tz"] (by decide),
      hpick ["latitude", "lat"] (by decide), hpick ["longitude", "lon", "lng"] (by decide)]
  have hschedule : schedule fields' = schedule fields := by
    simp only [schedule, htext ["schedule_template", "hours_template", "template"] (by decide),
      htext ["workdays"] (by decide)]
  have hexchange : ∀ parts hours workdays rules,
      exchangeOf fields' parts hours workdays rules = exchangeOf fields parts hours workdays rules := by
    intro parts hours workdays rules
    simp only [exchangeOf, clockField, htext ["name"] (by decide), htext ["city"] (by decide),
      hpick ["half_day_close"] (by decide)]
  constructor
  · simp only [screen, hrecord, hrecord', screenFields, hessentials, hschedule, hrules, hexchange]
  · simp only [recordId, hrecord, hrecord', htext idNames (by decide)]

/-- One item of the rules of a record changes. -/
inductive InItem (change : Fields → Fields → Prop) : Value → Value → Prop
  | intro {record record' v v' item item' : Value} {fields fields' rule rule' : Fields} {front back : List Value}
      (hrecord : record.opened = .map fields) (hrecord' : record'.opened = .map fields')
      (hothers : ∀ other, other ≠ "exceptions" → Value.field? fields' other = Value.field? fields other)
      (hrules : pick fields ["exceptions"] = some v) (hrules' : pick fields' ["exceptions"] = some v')
      (hitems : ruleList v = .ok (front ++ item :: back)) (hitems' : ruleList v' = .ok (front ++ item' :: back))
      (hitem : item.opened = .map rule) (hitem' : item'.opened = .map rule') (hchange : change rule rule') :
      InItem change record record'

/-- A record is given a blank field, or one of its rules is. -/
inductive BlankGiven : Value → Value → Prop
  | field {record record' v : Value} {fields fields' : Fields} {name : String} (hrecord : record.opened = .map fields)
      (hrecord' : record'.opened = .map fields') (hgiven : Given name v fields fields') (hblank : v.isBlank = true) :
      BlankGiven record record'
  | rule {record record' : Value} (h : InItem RuleGiven record record') : BlankGiven record record'

/-- A change that keeps the rule keeps what is read of the record. -/
lemma readAlike_of_inItem {atlas : Zone.Atlas} {change : Fields → Fields → Prop}
    (hkeeps : ∀ rule rule', change rule rule' → ruleOf rule' = ruleOf rule) {record record' : Value}
    (h : InItem change record record') : ReadAlike atlas record record' := by
  obtain ⟨hrecord, hrecord', hothers, hrules, hrules', hitems, hitems', hitem, hitem', hchange⟩ := h
  refine readAlike_of_pick hrecord hrecord' (fun names hnames => pick_congr fun other hother => ?_) fun id => ?_
  · have hne : other ≠ "exceptions" := fun heq => hnames (heq ▸ hother)
    rw [hothers other hne]
  · rw [hrules, hrules', rulesOf, rulesOf, hitems, hitems']
    refine rulesFrom_congr ?_ id [] []
    simp only [List.map_append, List.map_cons, ruleOfItem, hitem, hitem', hkeeps _ _ hchange]

/-- A blank field, in a record or in one of its rules, is read as if it were absent. -/
lemma readAlike_of_blankGiven {atlas : Zone.Atlas} {record record' : Value} (h : BlankGiven record record') :
    ReadAlike atlas record record' := by
  rcases h with ⟨hrecord, hrecord', hgiven, hblank⟩ | h
  · exact readAlike_of_pick hrecord hrecord' (fun names _ => hgiven.pick_eq_of_isBlank hblank names) fun id => by
      rw [hgiven.pick_eq_of_isBlank hblank]
  · exact readAlike_of_inItem (fun _ _ => ruleOf_of_ruleGiven) h

/-- What one change keeps, any number of changes keep. -/
lemma readAlike_of_changes {atlas : Zone.Atlas} {change : Value → Value → Prop}
    (hkeeps : ∀ record record', change record record' → ReadAlike atlas record record') {record record' : Value}
    (h : Relation.ReflTransGen change record record') : ReadAlike atlas record record' := by
  induction h with
  | refl => exact ⟨rfl, rfl⟩
  | tail _ hlast ih =>
    have hone := hkeeps _ _ hlast
    exact ⟨hone.screen_eq.trans ih.screen_eq, hone.recordId_eq.trans ih.recordId_eq⟩

end

/-! ### Registers -/

namespace Register

/-- A register is told by what is read of each record. -/
lemma enterAll_congr {atlas : Zone.Atlas} {records records' : List Value}
    (h : List.Forall₂ (ReadAlike atlas) records records') (r : Register) (i : ℕ) (notes : List Note) :
    r.enterAll atlas i notes records' = r.enterAll atlas i notes records := by
  induction h generalizing r i notes with
  | nil => rfl
  | @cons record record' records records' halike _ ih =>
    have henter : r.enter atlas i record' = r.enter atlas i record := by
      rw [enter, enter, halike.screen_eq, halike.recordId_eq]
    rw [enterAll, enterAll, henter]
    obtain ⟨more, result⟩ := r.enter atlas i record
    cases result with
    | error cause => rfl
    | ok r' => exact ih _ _ _

/-- Records that are read alike build the same register with the same notes. -/
lemma build_congr {atlas : Zone.Atlas} {records records' : List Value}
    (h : List.Forall₂ (ReadAlike atlas) records records') (strict : Bool) :
    build atlas strict records' = build atlas strict records := by
  rw [build, build, enterAll_congr h]

/-- **Blank fields are read as if they were absent.**  Giving absent fields of the records, or of the items of their
rules, values that are blank changes nothing about the register and the notes, whichever other names of these fields
there are; a double that is no number for the flag of a rule aside.  That one is read as if the flag were true. -/
theorem build_of_blanks (atlas : Zone.Atlas) (strict : Bool) (records records' : List Value) :
    (List.Forall₂ (Relation.ReflTransGen BlankGiven) records records' →
        build atlas strict records' = build atlas strict records) ∧
      (List.Forall₂ (Relation.ReflTransGen (InItem RuleClosed)) records records' →
        build atlas strict records' = build atlas strict records) := by
  refine ⟨fun h => ?_, fun h => ?_⟩
  · exact build_congr (h.imp fun _ _ => readAlike_of_changes fun _ _ => readAlike_of_blankGiven) strict
  · refine build_congr (h.imp fun _ _ => readAlike_of_changes fun _ _ => ?_) strict
    exact readAlike_of_inItem fun _ _ => ruleOf_of_ruleClosed

/-- The fields of a rule for a day. -/
def dayFields : Fields := [(.text "date", .text "2025-12-25")]

/-- The rule with a value for its flag. -/
def flagged (v : Value) : Value := .map (Value.setField dayFields (.text "closed") v)

/-- A change of the only rule of a record is one in an item of its rules. -/
lemma inItem_recordWith {change : Fields → Fields → Prop} {rule rule' : Fields} (h : change rule rule') :
    InItem change (recordWith [.map rule]) (recordWith [.map rule']) := by
  have hitems : ∀ item : Value, ruleList (.list [item]) = .ok ([] ++ item :: []) := fun _ => rfl
  refine .intro rfl rfl (fun other hne => ?_) rfl rfl (hitems _) (hitems _) rfl rfl h
  simp [Value.field?, List.find?_cons, Value.isText, Ne.symm hne]

/-- A record with blanks for a second name of its identifier, and with no number for its latitude, which has another
name. -/
def blankedFields : Fields :=
  Value.setField (Value.setField doubtfulFields (.text "exchange_id") (.text " ")) (.text "lat") (.float (0.0 / 0.0))

/-- Blank fields in a record and in a rule are absent, and a rule whose flag is no number is closed. -/
theorem blanks_unchanged :
    (List.Forall₂ (Relation.ReflTransGen BlankGiven) [.map doubtfulFields, recordWith [.map dayFields]]
        [.map blankedFields, recordWith [flagged .null]] ∧
      List.Forall₂ (Relation.ReflTransGen (InItem RuleClosed)) [recordWith [flagged (.float (0.0 / 0.0))]]
        [recordWith [flagged (.bool true)]]) ∧
      build Zone.atlas false [.map blankedFields, recordWith [flagged .null]] =
        build Zone.atlas false [.map doubtfulFields, recordWith [.map dayFields]] ∧
      build Zone.atlas false [recordWith [flagged (.bool true)]] =
        build Zone.atlas false [recordWith [flagged (.float (0.0 / 0.0))]] := by
  have hnumber : (0.0 / 0.0 : Float).isNaN = true := by decide +kernel
  have hid : BlankGiven (.map doubtfulFields)
      (.map (Value.setField doubtfulFields (.text "exchange_id") (.text " "))) :=
    .field rfl rfl (given_setField rfl _) (by decide +kernel)
  have hlatitude : BlankGiven (.map (Value.setField doubtfulFields (.text "exchange_id") (.text " ")))
      (.map blankedFields) :=
    .field rfl rfl (given_setField (by decide +kernel) _) hnumber
  have hflag : BlankGiven (recordWith [.map dayFields]) (recordWith [flagged .null]) :=
    .rule (inItem_recordWith ⟨"closed", .null, given_setField rfl _, rfl, fun _ _ => Value.noConfusion⟩)
  have hclosed : InItem RuleClosed (recordWith [flagged (.float (0.0 / 0.0))]) (recordWith [flagged (.bool true)]) := by
    have hgiven : ∀ v, Given "closed" v dayFields (Value.setField dayFields (.text "closed") v) := given_setField rfl
    refine inItem_recordWith ⟨0.0 / 0.0, hnumber, (hgiven _).new, (hgiven _).new, fun other hne => ?_⟩
    rw [(hgiven _).others other hne, (hgiven _).others other hne]
  have hblanks : List.Forall₂ (Relation.ReflTransGen BlankGiven) [.map doubtfulFields, recordWith [.map dayFields]]
      [.map blankedFields, recordWith [flagged .null]] :=
    .cons (.tail (.single hid) hlatitude) (.cons (.single hflag) .nil)
  have hclosures : List.Forall₂ (Relation.ReflTransGen (InItem RuleClosed))
      [recordWith [flagged (.float (0.0 / 0.0))]] [recordWith [flagged (.bool true)]] :=
    .cons (.single hclosed) .nil
  exact ⟨⟨hblanks, hclosures⟩, (build_of_blanks Zone.atlas false _ _).1 hblanks,
    (build_of_blanks Zone.atlas false _ _).2 hclosures⟩

/-- A flag that is no number closes the day, and an absent one does not. -/
theorem nan_closes_day :
    Value.field? dayFields "closed" = none ∧ (Value.float (0.0 / 0.0)).isBlank = true ∧
      ((build Zone.atlas false [recordWith [.map dayFields]]).2.toOption.map fun r =>
        (r.rejected, r.exchanges.map fun e => e.rules.map (·.closed))) = some ([], [[false]]) ∧
      ((build Zone.atlas false [recordWith [flagged (.float (0.0 / 0.0))]]).2.toOption.map fun r =>
        (r.rejected, r.exchanges.map fun e => e.rules.map (·.closed))) = some ([], [[true]]) := by
  refine ⟨rfl, ?_, ?_, ?_⟩
  · decide +kernel
  · decide +kernel
  · decide +kernel

end Register

end ExchangeBoard
