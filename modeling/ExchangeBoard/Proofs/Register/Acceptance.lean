import ExchangeBoard.Proofs.Hours.Consistency
import ExchangeBoard.Proofs.Json.Short
import ExchangeBoard.Proofs.Numeral.Arithmetic
import ExchangeBoard.Proofs.Register.Account

/-!
# Which records are accepted

What counts for a field is the first usable value among its names (`FirstUsable`).  A record is acceptable when it has
an identifier, a zone that exists, coordinates within their limits and rules that are mappings with dates
(`Acceptable`).  Whole numbers with too many digits aside (`WithinLimits`), screening decides just this: it accepts
the records that are acceptable and rejects all others (`accepted_iff_acceptable`), whatever their hours, their clock
times and their other fields say.

Screening is taken part by part, as in its outcome.  Each part decides a condition of its own and never breaks off
(`Outcome.Decides`), and the conditions of several parts are put together as the parts are.

What is accepted can be used: its identifier is not empty, its coordinates are finite and within their limits, and
its zone is known at all times (`Exchange.Usable`).
-/

namespace ExchangeBoard

open Text Calendar Numeral

/-! ### The first usable value -/

/-- A value is the first usable one among the names of a field. -/
def FirstUsable (fields : Fields) (names : List String) (v : Value) : Prop :=
  ∃ before name after, names = before ++ name :: after ∧ Value.field? fields name = some v ∧ v.isBlank = false ∧
    ∀ other ∈ before, ∀ w, Value.field? fields other = some w → w.isBlank = true

/-- What is picked is the first usable value among the names. -/
lemma pick_eq_some_iff {fields : Fields} {names : List String} {v : Value} :
    pick fields names = some v ↔ FirstUsable fields names v := by
  unfold pick FirstUsable
  rw [List.findSome?_eq_some_iff]
  simp only [Option.filter_eq_some_iff, Option.filter_eq_none_iff, Bool.not_eq_true', Bool.not_eq_false, and_assoc]

/-- A field that is there is one of the fields. -/
lemma mem_of_field? {fields : Fields} {name : String} {v : Value} (h : Value.field? fields name = some v) :
    ∃ f ∈ fields, f.2 = v := by
  obtain ⟨f, hf, rfl⟩ := Option.map_eq_some_iff.1 h
  exact ⟨f, List.mem_of_find?_eq_some hf, rfl⟩

/-- The values of short fields are short. -/
lemma short_of_pick {fields : Fields} (h : (Value.map fields).Short) {names : List String} {v : Value}
    (hv : pick fields names = some v) : v.Short := by
  obtain ⟨_, _, _, -, hfield, -⟩ := pick_eq_some_iff.1 hv
  obtain ⟨f, hf, rfl⟩ := mem_of_field? hfield
  exact (Value.short_map_iff.1 h f hf).2

/-! ### What is decided -/

/-- A reading succeeds under a condition, and it never breaks off. -/
structure Outcome.Decides (o : Outcome) (p : Prop) : Prop where
  fits_iff : o.fits ↔ p
  never : ¬ o.breaks

/-- When nothing is read, nothing is decided. -/
lemma decides_nil : (Outcome.inOrder []).Decides True := ⟨by simp [Outcome.inOrder], by simp [Outcome.inOrder]⟩

/-- One reading and those after it decide both conditions. -/
lemma Outcome.Decides.cons {o : Outcome} {rest : List Outcome} {p q : Prop} (h : o.Decides p)
    (hrest : (inOrder rest).Decides q) : (inOrder (o :: rest)).Decides (p ∧ q) := by
  refine ⟨?_, ?_⟩
  · rw [inOrder_cons_fits, h.fits_iff, hrest.fits_iff]
  · rw [inOrder_cons_breaks]
    rintro (hbreaks | ⟨-, hbreaks⟩)
    · exact h.never hbreaks
    · exact hrest.never hbreaks

/-- A reading that decides a condition decides what is the same. -/
lemma Outcome.Decides.congr {o : Outcome} {p q : Prop} (h : o.Decides p) (hpq : p ↔ q) : o.Decides q :=
  ⟨h.fits_iff.trans hpq, h.never⟩

/-- Readings of a list of values in order. -/
lemma decides_map {items : List Value} {read : Value → Outcome} {p : Value → Prop}
    (h : ∀ item ∈ items, (read item).Decides (p item)) :
    (Outcome.inOrder (items.map read)).Decides (∀ item ∈ items, p item) := by
  induction items with
  | nil => exact decides_nil.congr (by simp)
  | cons item items ih =>
    obtain ⟨hitem, hitems⟩ := List.forall_mem_cons.1 h
    exact (hitem.cons (ih hitems)).congr List.forall_mem_cons.symm

section

variable {o : Option Value} {read : Value → Outcome} {p : Value → Prop}

/-- A value that must be given decides that there is one and that its condition holds. -/
lemma decides_required (h : ∀ v, o = some v → (read v).Decides (p v)) :
    (required o read).Decides (∃ v, o = some v ∧ p v) := by
  refine ⟨?_, ?_⟩
  · exact exists_congr fun v => and_congr_right fun hv => (h v hv).fits_iff
  · rintro ⟨v, hv, hbreaks⟩
    exact (h v hv).never hbreaks

/-- A value that may be given decides its condition for the case that it is. -/
lemma decides_optional (h : ∀ v, o = some v → (read v).Decides (p v)) :
    (optional o read).Decides (∀ v, o = some v → p v) := by
  refine ⟨?_, ?_⟩
  · exact forall_congr' fun v => forall_congr' fun hv => (h v hv).fits_iff
  · rintro ⟨v, hv, hbreaks⟩
    exact (h v hv).never hbreaks

end

/-! ### Texts, clock times and zones -/

section

variable {v : Value}

/-- Short values can be shown as texts. -/
lemma decides_asText (h : v.Short) : v.asText.Decides True :=
  ⟨iff_true_intro h.isShowable, by simp [Value.asText, h.isShowable]⟩

/-- The hours of a number of minutes have no more digits than the number. -/
lemma natAbs_fdiv_le (n : ℤ) : (n.fdiv 60).natAbs ≤ n.natAbs := by
  rw [Int.fdiv_eq_ediv_of_nonneg _ (by decide)]
  omega

/-- A short value is always read as the text of a clock time. -/
lemma decides_asClock (h : v.Short) : v.asClock.Decides True := by
  cases v with
  | int n =>
    have hshow : Numeral.isShowable (n.fdiv 60) = true :=
      Numeral.isShowable_iff.2 (lt_of_le_of_lt (natAbs_fdiv_le n) (Numeral.isShowable_iff.1 (Value.short_int_iff.1 h)))
    exact ⟨iff_true_intro hshow, by simp [Value.asClock, hshow]⟩
  | _ => exact decides_asText h

/-- A short value is read as a zone when its text is the name of one. -/
lemma decides_asZone (atlas : Zone.Atlas) (h : v.Short) :
    (v.asZone atlas).Decides (∃ zone, atlas (strip v.shown) = .ok zone) :=
  ⟨and_iff_right h.isShowable, by simp [Value.asZone, h.isShowable]⟩

/-- Texts that may be absent decide nothing. -/
lemma decides_optional_asText {fields : Fields} (h : (Value.map fields).Short) (names : List String) :
    (optional (pick fields names) Value.asText).Decides True :=
  (decides_optional fun _ hv => decides_asText (short_of_pick h hv)).congr (by simp)

/-- The times in a short mapping are always read. -/
lemma decides_optional_asClock {fields : Fields} (h : (Value.map fields).Short) (names : List String) :
    (optional (pick fields names) Value.asClock).Decides True :=
  (decides_optional fun _ hv => decides_asClock (short_of_pick h hv)).congr (by simp)

/-! ### Coordinates -/

/-- A double is compared with a limit that is a whole number. -/
lemma le_ofWhole_iff {limit : ℕ} (hlimit : limit < 2 ^ 53) {x : Float} :
    -(ofWhole limit) ≤ x ∧ x ≤ ofWhole limit ↔ Within (-limit) limit x := by
  have hwhole : Within limit limit (ofWhole limit) :=
    (rounds_ofWhole (by simpa using hlimit)).within le_rfl le_rfl
  have hnegative : Within (-limit) (-limit) (-(ofWhole limit)) := by
    refine ⟨isFinite_neg hwhole.isFinite, ?_, ?_⟩
    · rw [value_neg hwhole.isFinite]
      have hge := hwhole.ge
      push_cast at hge ⊢
      linarith
    · rw [value_neg hwhole.isFinite]
      have hle := hwhole.le
      push_cast at hle ⊢
      linarith
  exact (within_iff_le hnegative hwhole).symm

/-- A coordinate that is a whole number with a nearest double, or that is short, is a double within the limit or is
rejected. -/
lemma decides_asCoordinate (field : String) {limit : ℕ} (hlimit : limit < 2 ^ 53) (h : v.Short)
    (hlarge : ∀ n, v = .int n → n.natAbs < 2 ^ 1024 - 2 ^ 970) :
    (v.asCoordinate field limit).Decides (∃ x, doubleOf field v = .ok x ∧ Within (-limit) limit x) := by
  refine ⟨exists_congr fun x => and_congr_right fun _ => le_ofWhole_iff hlimit, ?_⟩
  have hshow := h.isShowable
  cases v with
  | int n => exact not_le.2 (hlarge n rfl)
  | _ => simp [Value.asCoordinate, hshow]

/-- The coordinate of a record is within the limit, or the record is rejected. -/
lemma decides_coordinate {fields : Fields} (h : (Value.map fields).Short) (field : String) {names : List String}
    {limit : ℕ} (hlimit : limit < 2 ^ 53)
    (hlarge : ∀ n, FirstUsable fields names (.int n) → n.natAbs < 2 ^ 1024 - 2 ^ 970) :
    (required (pick fields names) (Value.asCoordinate field limit)).Decides
      (∃ v, pick fields names = some v ∧ ∃ x, doubleOf field v = .ok x ∧ Within (-limit) limit x) := by
  refine decides_required fun v hv => decides_asCoordinate field hlimit (short_of_pick h hv) ?_
  rintro n rfl
  exact hlarge n (pick_eq_some_iff.1 hv)

/-! ### Rules -/

/-- A value stands for a date: it is one, with or without a time of day, or it is shown as the text of one. -/
def Value.IsDate : Value → Prop
  | .date _ => True
  | .moment _ => True
  | v => ∃ d, readDate v.shown = .ok d

/-- An item of a list of rules is a mapping with a date. -/
def Value.IsDated (item : Value) : Prop :=
  ∃ fields v, item.opened = .map fields ∧ FirstUsable fields ["date"] v ∧ v.IsDate

/-- A value is a list of items, or JSON text with such a list. -/
def Value.ListsItems (v : Value) (items : List Value) : Prop :=
  v.opened = .list items ∨ ∃ s, v = .text s ∧ Json.read s = .ok (.list items)

/-- A rule has a date just where its value stands for one. -/
lemma exists_ruleDate_iff : (∃ d, ruleDate (some v) = .ok d) ↔ v.IsDate := by
  cases v with
  | date d => exact iff_true_intro ⟨_, rfl⟩
  | moment m => exact iff_true_intro ⟨_, rfl⟩
  | _ =>
    simp only [ruleDate, Value.IsDate, Option.getD_some]
    split
    · next d hd => exact iff_of_true ⟨_, rfl⟩ ⟨d, hd⟩
    · next fault hd => simp [hd]

/-- A short value is read as the date of a rule when it stands for one. -/
lemma decides_asRuleDate (h : v.Short) : v.asRuleDate.Decides v.IsDate :=
  ⟨exists_ruleDate_iff, by simp [Value.asRuleDate, h.isShowable]⟩

/-- Of a rule only the date counts. -/
lemma decides_asRule {item : Value} (h : item.Short) : item.asRule.Decides item.IsDated := by
  have hopened := h.opened
  unfold Value.asRule Value.IsDated
  generalize item.opened = opened at hopened ⊢
  cases opened with
  | map fields =>
    have hdate : (required (pick fields ["date"]) Value.asRuleDate).Decides
        (∃ v, pick fields ["date"] = some v ∧ v.IsDate) :=
      decides_required fun v hv => decides_asRuleDate (short_of_pick hopened hv)
    have hparts := hdate.cons ((decides_optional_asClock hopened ["override_open", "open"]).cons
      ((decides_optional_asClock hopened ["override_close", "close"]).cons
        ((decides_optional_asClock hopened ["half_day_close", "halfDayClose"]).cons decides_nil)))
    refine hparts.congr ?_
    simp only [and_true, pick_eq_some_iff]
    constructor
    · rintro ⟨v, hv, hdate⟩
      exact ⟨fields, v, rfl, hv, hdate⟩
    · rintro ⟨_, v, hfields, hv, hdate⟩
      cases hfields
      exact ⟨v, hv, hdate⟩
  | _ => exact ⟨by simp [Outcome.rejected], by simp [Outcome.rejected]⟩

/-- Items are read from a value that lists them. -/
lemma ruleList_eq_ok_iff {items : List Value} : ruleList v = .ok items ↔ v.ListsItems items := by
  unfold Value.ListsItems
  cases v with
  | text s =>
    have hopened : (Value.text s).opened ≠ .list items := Value.noConfusion
    simp only [ruleList, hopened, false_or, Value.text.injEq, exists_eq_left']
    cases hread : Json.read s with
    | ok w => cases w <;> simp
    | error fault => cases fault <;> simp
  | cyclic inside contents => cases contents <;> simp [ruleList, Value.opened]
  | _ => simp [ruleList, Value.opened]

/-- The items of a short value are short, also those that are read from JSON text. -/
lemma Value.ListsItems.short {items : List Value} (h : v.ListsItems items) (hv : v.Short) :
    ∀ item ∈ items, item.Short := by
  rcases h with hlist | ⟨s, rfl, hread⟩
  · exact Value.short_list_iff.1 (hlist ▸ hv.opened)
  · exact Value.short_list_iff.1 (Json.short_of_read hread)

/-- A short value is read as rules when it lists items that all have dates. -/
lemma decides_asRules (h : v.Short) (hjson : ∀ s count, v = .text s → Json.read s ≠ .error (.digits count)) :
    v.asRules.Decides (∃ items, v.ListsItems items ∧ ∀ item ∈ items, item.IsDated) := by
  have hitems : ∀ items, ruleList v = .ok items →
      (Outcome.inOrder (items.map Value.asRule)).Decides (∀ item ∈ items, item.IsDated) := fun items hread =>
    decides_map fun item hitem => decides_asRule ((ruleList_eq_ok_iff.1 hread).short h item hitem)
  refine ⟨?_, ?_⟩
  · refine exists_congr fun items => ?_
    rw [← ruleList_eq_ok_iff]
    exact and_congr_right fun hread => (hitems items hread).fits_iff
  · rintro (⟨s, count, hs, hread⟩ | ⟨items, hread, hbreaks⟩)
    · exact hjson s count hs hread
    · exact (hitems items hread).never hbreaks

end

/-! ### Records -/

/-- A record has all that it must have. -/
structure Acceptable (atlas : Zone.Atlas) (fields : Fields) : Prop where
  /-- It has an identifier. -/
  id : ∃ v, FirstUsable fields idNames v
  /-- Its zone exists. -/
  zone : ∃ v, FirstUsable fields ["timezone", "tz"] v ∧ ∃ zone, atlas (strip v.shown) = .ok zone
  latitude : ∃ v, FirstUsable fields ["latitude", "lat"] v ∧ ∃ x, doubleOf "latitude" v = .ok x ∧ Within (-90) 90 x
  longitude : ∃ v, FirstUsable fields ["longitude", "lon", "lng"] v ∧
    ∃ x, doubleOf "longitude" v = .ok x ∧ Within (-180) 180 x
  /-- Its rules, if there are any, are mappings with dates. -/
  rules : ∀ v, FirstUsable fields ["exceptions"] v → ∃ items, v.ListsItems items ∧ ∀ item ∈ items, item.IsDated

/-- No whole number in a record is too large for what is done with it. -/
structure WithinLimits (fields : Fields) : Prop where
  /-- A latitude that is a whole number has a nearest double. -/
  latitude : ∀ n, FirstUsable fields ["latitude", "lat"] (.int n) → n.natAbs < 2 ^ 1024 - 2 ^ 970
  /-- So has a longitude. -/
  longitude : ∀ n, FirstUsable fields ["longitude", "lon", "lng"] (.int n) → n.natAbs < 2 ^ 1024 - 2 ^ 970
  /-- No whole number in JSON text of rules has too many digits. -/
  rules : ∀ s count, FirstUsable fields ["exceptions"] (.text s) → Json.read s ≠ .error (.digits count)
  /-- No whole number has too many digits to be shown. -/
  short : (Value.map fields).Short

/-- Screening decides whether a record is acceptable. -/
lemma decides_fieldsOutcome (atlas : Zone.Atlas) {fields : Fields} (h : WithinLimits fields) :
    (fieldsOutcome atlas fields).Decides (Acceptable atlas fields) := by
  have hshort : ∀ {names v}, pick fields names = some v → v.Short := fun hv => short_of_pick h.short hv
  have hid : (required (pick fields idNames) Value.asText).Decides (∃ v, pick fields idNames = some v ∧ True) :=
    decides_required fun v hv => decides_asText (hshort hv)
  have hzone : (required (pick fields ["timezone", "tz"]) (Value.asZone atlas)).Decides
      (∃ v, pick fields ["timezone", "tz"] = some v ∧ ∃ zone, atlas (strip v.shown) = .ok zone) :=
    decides_required fun v hv => decides_asZone atlas (hshort hv)
  have hlatitude : (required (pick fields ["latitude", "lat"]) (Value.asCoordinate "latitude" 90)).Decides
      (∃ v, pick fields ["latitude", "lat"] = some v ∧ ∃ x, doubleOf "latitude" v = .ok x ∧ Within (-90) 90 x) :=
    decides_coordinate h.short "latitude" (by decide) h.latitude
  have hlongitude : (required (pick fields ["longitude", "lon", "lng"]) (Value.asCoordinate "longitude" 180)).Decides
      (∃ v, pick fields ["longitude", "lon", "lng"] = some v ∧
        ∃ x, doubleOf "longitude" v = .ok x ∧ Within (-180) 180 x) :=
    decides_coordinate h.short "longitude" (by decide) h.longitude
  have hrules : (optional (pick fields ["exceptions"]) Value.asRules).Decides
      (∀ v, pick fields ["exceptions"] = some v →
        ∃ items, v.ListsItems items ∧ ∀ item ∈ items, item.IsDated) := by
    refine decides_optional fun v hv => decides_asRules (hshort hv) ?_
    rintro s count rfl
    exact h.rules s count (pick_eq_some_iff.1 hv)
  have hessentials := hid.cons (hzone.cons (hlatitude.cons (hlongitude.cons decides_nil)))
  have hschedule := (decides_optional_asText h.short ["schedule_template", "hours_template", "template"]).cons
    ((decides_optional_asText h.short ["workdays"]).cons decides_nil)
  have hdetails := (decides_optional_asText h.short ["name"]).cons ((decides_optional_asText h.short ["city"]).cons
    ((decides_optional_asClock h.short ["half_day_close"]).cons decides_nil))
  refine (Outcome.Decides.cons (o := essentialsOutcome atlas fields) hessentials (Outcome.Decides.cons
    (o := scheduleOutcome fields) hschedule (hrules.cons (Outcome.Decides.cons (o := detailsOutcome fields) hdetails
      decides_nil)))).congr ?_
  simp only [and_true, true_and, pick_eq_some_iff]
  constructor
  · rintro ⟨⟨hid, hzone, hlatitude, hlongitude⟩, hrules⟩
    exact ⟨hid, hzone, hlatitude, hlongitude, hrules⟩
  · rintro ⟨hid, hzone, hlatitude, hlongitude, hrules⟩
    exact ⟨⟨hid, hzone, hlatitude, hlongitude⟩, hrules⟩

/-! ### Fields that do not count -/

/-- A field stays when another one gets a value. -/
lemma field?_setField {fields : Fields} {name other : String} (hne : other ≠ name) (v : Value) :
    Value.field? (Value.setField fields (.text name) v) other = Value.field? fields other := by
  unfold Value.setField
  split_ifs
  · unfold Value.field?
    rw [List.find?_map, Option.map_map]
    have htext : ((fun f : Value × Value => f.1.isText other) ∘
        fun f : Value × Value => if f.1.sameKey (.text name) then (f.1, v) else f) = fun f => f.1.isText other := by
      funext f
      dsimp only [Function.comp_apply]
      split_ifs <;> rfl
    rw [htext]
    refine Option.map_congr fun f hf => ?_
    -- The field that was found has the other name, so its value is the old one.
    have hname : f.1.isText other = true := @List.find?_some _ (fun f : Value × Value => f.1.isText other) _ _ hf
    obtain ⟨key, value⟩ := f
    cases key with
    | text s =>
      have hs : s = other := by simpa [Value.isText] using hname
      have hdifferent : (Value.text s).sameKey (.text name) = false := by simp [Value.sameKey, hs, hne]
      simp [hdifferent]
    | _ => cases hname
  · have hnone : (Value.text name).isText other = false := by simp [Value.isText, hne.symm]
    simp [Value.field?, List.find?_append, hnone]

/-- Only the usable values among the names of a field count. -/
lemma pick_congr {fields fields' : Fields} {names : List String}
    (h : ∀ name ∈ names, (Value.field? fields' name).filter (!·.isBlank) =
      (Value.field? fields name).filter (!·.isBlank)) : pick fields' names = pick fields names := by
  induction names with
  | nil => rfl
  | cons name names ih =>
    rw [List.forall_mem_cons] at h
    have hih := ih h.2
    unfold pick at hih ⊢
    rw [List.findSome?_cons, List.findSome?_cons, h.1, hih]

/-- What is picked does not depend on a field of another name. -/
lemma pick_setField {fields : Fields} {name : String} {names : List String} (hname : name ∉ names) (v : Value) :
    pick (Value.setField fields (.text name) v) names = pick fields names := by
  refine pick_congr fun other hother => ?_
  have hne : other ≠ name := fun heq => hname (heq ▸ hother)
  rw [field?_setField hne]

/-- The names of all fields that decide whether a record is accepted. -/
def decisiveNames : List String :=
  idNames ++ ["timezone", "tz"] ++ ["latitude", "lat"] ++ ["longitude", "lon", "lng"] ++ ["exceptions"]

/-- The values that count for the decision are the same in two records. -/
def SameValues (fields fields' : Fields) : Prop := ∀ names ⊆ decisiveNames, ∀ v,
  FirstUsable fields names v ↔ FirstUsable fields' names v

/-- Fields have the same decisive values, whichever are named first. -/
lemma SameValues.symm {fields fields' : Fields} (h : SameValues fields fields') : SameValues fields' fields :=
  fun names hnames v => (h names hnames v).symm

/-- A field that is not decisive leaves the decisive values as they are. -/
lemma sameValues_setField {name : String} (hname : name ∉ decisiveNames) (fields : Fields) (v : Value) :
    SameValues fields (Value.setField fields (.text name) v) := by
  intro names hnames w
  rw [← pick_eq_some_iff, ← pick_eq_some_iff, pick_setField fun hmem => hname (hnames hmem)]

/-- With the same decisive values fields are acceptable together. -/
lemma SameValues.acceptable {atlas : Zone.Atlas} {fields fields' : Fields} (h : SameValues fields fields')
    (ha : Acceptable atlas fields) : Acceptable atlas fields' where
  id := ha.id.imp fun v hv => (h _ (by decide) v).1 hv
  zone := ha.zone.imp fun v hv => ⟨(h _ (by decide) v).1 hv.1, hv.2⟩
  latitude := ha.latitude.imp fun v hv => ⟨(h _ (by decide) v).1 hv.1, hv.2⟩
  longitude := ha.longitude.imp fun v hv => ⟨(h _ (by decide) v).1 hv.1, hv.2⟩
  rules := fun v hv => ha.rules v ((h _ (by decide) v).2 hv)

/-- A short value for a field that does not count leaves a record within the limits. -/
lemma WithinLimits.setField {fields : Fields} (h : WithinLimits fields) {name : String} (hname : name ∉ decisiveNames)
    {v : Value} (hv : v.Short) : WithinLimits (Value.setField fields (.text name) v) := by
  have hsame := sameValues_setField hname fields v
  exact {
    latitude := fun n hn => h.latitude n ((hsame _ (by decide) _).2 hn)
    longitude := fun n hn => h.longitude n ((hsame _ (by decide) _).2 hn)
    rules := fun s count hs => h.rules s count ((hsame _ (by decide) _).2 hs)
    short := Value.short_map_iff.2 (Value.short_setField (Value.short_map_iff.1 h.short) (Value.short_text name) hv) }

/-- Of a rule nothing but the date counts. -/
lemma isDated_setField {name : String} (hname : name ≠ "date") (fields : Fields) (v : Value) :
    (Value.map (Value.setField fields (.text name) v)).IsDated ↔ (Value.map fields).IsDated := by
  have hpick : pick (Value.setField fields (.text name) v) ["date"] = pick fields ["date"] :=
    pick_setField (by simpa using hname) v
  have hdated : ∀ fields : Fields, (Value.map fields).IsDated ↔ ∃ w, pick fields ["date"] = some w ∧ w.IsDate := by
    intro fields
    simp only [pick_eq_some_iff]
    constructor
    · rintro ⟨_, w, hfields, hw, hdate⟩
      cases hfields
      exact ⟨w, hw, hdate⟩
    · rintro ⟨w, hw, hdate⟩
      exact ⟨fields, w, rfl, hw, hdate⟩
  rw [hdated, hdated, hpick]

/-! ### Exchanges that were accepted -/

/-- An exchange that can be used. -/
structure Exchange.Usable (atlas : Zone.Atlas) (e : Exchange) : Prop where
  id_ne_empty : e.id ≠ ""
  /-- The identifier has no blanks at its ends. -/
  id_stripped : strip e.id = e.id
  latitude : Within (-90) 90 e.latitude
  longitude : Within (-180) 180 e.longitude
  /-- The timetable is read from the hours. -/
  timetable : e.timetable = .read (some e.hours)
  /-- The zone is known. -/
  zone : ∃ z, atlas e.zone = .ok z
  /-- Whenever there is a status, it is told for a local time; without a known zone there would be none. -/
  status : ∀ now s, e.status? atlas now = some s → ∃ t, s.time = some t

/-- A text without which a record is rejected is not empty. -/
lemma stripped_of_requiredText {fields : Fields} {names : List String} {field text : String}
    (h : requiredText fields names field = .ok text) : text ≠ "" ∧ strip text = text := by
  unfold requiredText at h
  split at h
  · cases h
  · next v hv =>
    obtain ⟨_, _, _, -, -, hblank, -⟩ := pick_eq_some_iff.1 hv
    replace h := orAbort_eq_ok_iff.1 h
    unfold plainText at h
    split_ifs at h
    cases h
    exact ⟨strip_shown_ne_empty hblank, strip_strip _⟩

/-- A coordinate that is accepted is within its limit. -/
lemma within_of_coordinate {fields : Fields} {field : String} {others : List String} {limit : ℕ} {x : Float}
    (hlimit : limit < 2 ^ 53) (h : coordinate fields field others limit = .ok x) : Within (-limit) limit x := by
  unfold coordinate at h
  split at h
  · cases h
  · split at h
    · cases h
    · split_ifs at h with hrange
      cases h
      exact (le_ofWhole_iff hlimit).1 hrange

/-- What passes screening can be used. -/
lemma usable_of_screen {atlas : Zone.Atlas} {record : Value} {e : Exchange} (h : (screen atlas record).2 = .ok e) :
    e.Usable atlas := by
  obtain ⟨fields, -, he⟩ := readFrom_of_screen h
  obtain ⟨hne, hstrip⟩ := stripped_of_requiredText he.id
  obtain ⟨z, hz⟩ := exists_zone_of_zoneName he.zone
  refine ⟨hne, hstrip, within_of_coordinate (by decide) he.latitude, within_of_coordinate (by decide) he.longitude, rfl,
    ⟨z, hz⟩, fun now s hs => ?_⟩
  rcases status?_eq_some hs with ⟨fault, diagnostic, hz', -⟩ | ⟨z', t, -, -, rfl⟩
  · cases hz.symm.trans hz'
  · exact ⟨t, Status.of_time _ _ _⟩

/-- The exchanges of a build have passed screening. -/
lemma exists_screen_of_build {atlas : Zone.Atlas} {strict : Bool} {records : List Value} {r : Register}
    (h : (Register.build atlas strict records).2 = .ok r) {e : Exchange} (he : e ∈ r.exchanges) :
    ∃ record ∈ records, (screen atlas record).2 = .ok e := by
  obtain ⟨entries, haccounts, -⟩ := Register.exists_accounts (Register.enterRest_of_build atlas h)
  rw [haccounts.exchanges] at he
  obtain ⟨⟨i, e'⟩, hentry, rfl⟩ := List.mem_map.1 he
  obtain ⟨record, hrecord, hscreen⟩ := ((haccounts.mem_entries_iff i e').1 hentry).1
  exact ⟨record, List.mem_of_getElem? hrecord, hscreen⟩

/-- **What is accepted.**  Screening accepts a mapping within the limits exactly when it is acceptable, and rejects it
otherwise.  Any other value for a field that does not count, such as hours that cannot be read, makes no difference,
and neither does any for a part of a rule other than its date.  All exchanges of a build can be used. -/
theorem accepted_iff_acceptable (atlas : Zone.Atlas) {record : Value} {fields : Fields}
    (hrecord : record.opened = .map fields) (hlimits : WithinLimits fields) :
    ((∃ e, (screen atlas record).2 = .ok e) ↔ Acceptable atlas fields) ∧
      (¬ Acceptable atlas fields → ∃ reason, (screen atlas record).2 = .error (.reject reason)) ∧
      (∀ name ∉ decisiveNames, ∀ v : Value, v.Short →
        ((∃ e, (screen atlas (.map (Value.setField fields (.text name) v))).2 = .ok e) ↔ Acceptable atlas fields)) ∧
      (∀ rule name v, name ≠ "date" →
        ((Value.map (Value.setField rule (.text name) v)).IsDated ↔ (Value.map rule).IsDated)) ∧
      ∀ strict records r, (Register.build atlas strict records).2 = .ok r → ∀ e ∈ r.exchanges, e.Usable atlas := by
  have hdecides : ∀ {record : Value} {fields : Fields}, record.opened = .map fields → WithinLimits fields →
      (recordOutcome atlas record).Decides (Acceptable atlas fields) := by
    intro record fields hrecord hlimits
    unfold recordOutcome
    rw [hrecord]
    exact decides_fieldsOutcome atlas hlimits
  have htells := tells_screen atlas record
  have hrecord' := hdecides hrecord hlimits
  refine ⟨htells.ok_iff.trans hrecord'.fits_iff, ?_, ?_, fun rule name v hname => isDated_setField hname rule v, ?_⟩
  · intro hnot
    cases hscreen : (screen atlas record).2 with
    | ok e => exact absurd (hrecord'.fits_iff.1 (htells.ok_iff.1 ⟨e, hscreen⟩)) hnot
    | error halt =>
      cases halt with
      | reject reason => exact ⟨reason, rfl⟩
      | abort cause => exact absurd (htells.abort_iff.1 ⟨cause, hscreen⟩) hrecord'.never
  · intro name hname v hv
    have hsame := sameValues_setField hname fields v
    refine (tells_screen atlas _).ok_iff.trans ((hdecides rfl (hlimits.setField hname hv)).fits_iff.trans ?_)
    exact ⟨hsame.symm.acceptable, hsame.acceptable⟩
  · intro strict records r hbuild e he
    obtain ⟨record, -, hscreen⟩ := exists_screen_of_build hbuild he
    exact usable_of_screen hscreen

/-- JSON text of a rule with one time, which is no clock time. -/
def lateRule : String := "[\x7b\x22date\x22: \x222025-12-25\x22, \x22open\x22: \x22late\x22\x7d]"

/-- A record with blanks around its identifier, a latitude in text, hours that cannot be read, and a rule in JSON
text. -/
def doubtfulFields : Fields := [(.text "id", .text " a "), (.text "timezone", .null), (.text "tz", .text "UTC"),
  (.text "latitude", .text " 10.5 "), (.text "lon", .int 20), (.text "schedule_template", .text "NINE_TO_FIVE"),
  (.text "exceptions", .text lateRule)]

/-- The doubtful record is accepted, since it is acceptable. -/
theorem doubtfulFields_accepted :
    WithinLimits doubtfulFields ∧ Acceptable Zone.atlas doubtfulFields ∧
      ∃ e, (screen Zone.atlas (.map doubtfulFields)).2 = .ok e ∧ e.id = "a" ∧ e.timetable.isReadable = false := by
  have hlatitude : pick doubtfulFields ["latitude", "lat"] = some (.text " 10.5 ") := rfl
  have hlongitude : pick doubtfulFields ["longitude", "lon", "lng"] = some (.int 20) := rfl
  have hrules : pick doubtfulFields ["exceptions"] = some (.text lateRule) := rfl
  have hjson : (Json.read lateRule).isOk = true := by decide +kernel
  have hlimits : WithinLimits doubtfulFields := by
    refine ⟨?_, ?_, ?_, ?_⟩
    · intro n hn
      rw [← pick_eq_some_iff, hlatitude] at hn
      cases hn
    · intro n hn
      rw [← pick_eq_some_iff, hlongitude] at hn
      cases hn
      have hsome : (ofWhole? 20).isSome = true := by decide +kernel
      refine not_le.1 fun hlarge => ?_
      rw [(ofWhole?_eq_none_iff 20).2 hlarge] at hsome
      cases hsome
    · intro s count hs hread
      rw [← pick_eq_some_iff, hrules] at hs
      cases hs
      rw [hread] at hjson
      cases hjson
    · have hnumber : Numeral.isShowable 20 = true := by decide +kernel
      refine Value.short_map_iff.2 ?_
      simp only [doubtfulFields, List.forall_mem_cons, List.not_mem_nil, false_imp_iff, implies_true, and_true,
        Value.short_text, Value.short_null, Value.short_int_iff, true_and]
      exact hnumber
  have hscreen : ((screen Zone.atlas (.map doubtfulFields)).2.toOption.map fun e =>
      (e.id, e.timetable.isReadable)) = some ("a", false) := by
    decide +kernel
  obtain ⟨e, he, htold⟩ := exists_of_toOption_map hscreen
  obtain ⟨hid, hreadable⟩ := Prod.mk.inj htold
  have haccepted := (@accepted_iff_acceptable Zone.atlas (.map doubtfulFields) _ rfl hlimits).1.1 ⟨e, he⟩
  exact ⟨hlimits, haccepted, e, he, hid, hreadable⟩

end ExchangeBoard
