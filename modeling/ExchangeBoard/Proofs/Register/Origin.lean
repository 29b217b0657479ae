import ExchangeBoard.Proofs.Data.Results
import ExchangeBoard.Proofs.Register.Screening

/-!
# What an exchange has from its record

A record that passes screening is a mapping, and each part of its exchange is read from a field of its own
(`Exchange.ReadFrom`).  Everything that is said about an exchange that was screened starts from there
(`readFrom_of_screen`).  In the same way an item of its list of rules is a mapping, and each part of the rule that it
describes is read from a field (`readFrom_of_ruleOfItem`).
-/

namespace ExchangeBoard

/-- A reading that ends only this record or all of them succeeds when it does by itself. -/
lemma orAbort_eq_ok_iff {α : Type} {read : Except Abort α} {a : α} : orAbort read = .ok a ↔ read = .ok a :=
  mapError_eq_ok_iff

/-! ### Exchanges -/

/-- The parts of an exchange are those that the fields of a record give. -/
structure Exchange.ReadFrom (atlas : Zone.Atlas) (fields : Fields) (e : Exchange) : Prop where
  id : requiredText fields idNames "id" = .ok e.id
  zone : zoneName atlas fields = .ok e.zone
  latitude : coordinate fields "latitude" ["lat"] 90 = .ok e.latitude
  longitude : coordinate fields "longitude" ["lon", "lng"] 180 = .ok e.longitude
  /-- Without a text there are no hours, which is an empty text. -/
  hours : (textField fields ["schedule_template", "hours_template", "template"]).map (·.getD "") = .ok e.hours
  workdays : textField fields ["workdays"] = .ok e.workdays
  rules : (rulesOf e.id (pick fields ["exceptions"])).2 = .ok e.rules
  name : (textField fields ["name"]).map (·.getD "") = .ok e.name
  city : (textField fields ["city"]).map (·.getD "") = .ok e.city
  earlyClose : clockField fields ["half_day_close"] = .ok e.earlyClose

/-- The schedule is read from its two fields. -/
lemma schedule_eq_ok {fields : Fields} {hours : String} {workdays : Option String}
    (h : schedule fields = .ok (hours, workdays)) :
    (textField fields ["schedule_template", "hours_template", "template"]).map (·.getD "") = .ok hours ∧
      textField fields ["workdays"] = .ok workdays := by
  obtain ⟨text, htext, h⟩ := bind_eq_ok_iff.1 h
  obtain ⟨days, hdays, h⟩ := bind_eq_ok_iff.1 h
  cases h
  rw [htext]
  exact ⟨rfl, hdays⟩

/-- A record that passes screening is a mapping, and its exchange is read from the fields. -/
lemma readFrom_of_screen {atlas : Zone.Atlas} {record : Value} {e : Exchange}
    (h : (screen atlas record).2 = .ok e) : ∃ fields, record.opened = .map fields ∧ e.ReadFrom atlas fields := by
  unfold screen at h
  generalize record.opened = opened at h ⊢
  cases opened with
  | map fields =>
    replace h : (screenFields atlas fields).2 = .ok e := h
    rw [screenFields_eq] at h
    obtain ⟨parts, hparts, h⟩ := bind_eq_ok_iff.1 h
    obtain ⟨⟨hours, workdays⟩, hschedule, h⟩ := bind_eq_ok_iff.1 h
    obtain ⟨rules, hrules, h⟩ := bind_eq_ok_iff.1 h
    rw [exchangeOf_eq] at h
    obtain ⟨name, hname, h⟩ := bind_eq_ok_iff.1 h
    obtain ⟨city, hcity, h⟩ := bind_eq_ok_iff.1 h
    obtain ⟨earlyClose, hclose, h⟩ := bind_eq_ok_iff.1 h
    cases h
    rw [essentials_eq] at hparts
    obtain ⟨id, hid, hparts⟩ := bind_eq_ok_iff.1 hparts
    obtain ⟨zone, hzone, hparts⟩ := bind_eq_ok_iff.1 hparts
    obtain ⟨latitude, hlatitude, hparts⟩ := bind_eq_ok_iff.1 hparts
    obtain ⟨longitude, hlongitude, hparts⟩ := bind_eq_ok_iff.1 hparts
    cases hparts
    obtain ⟨hhours, hworkdays⟩ := schedule_eq_ok (orAbort_eq_ok_iff.1 hschedule)
    refine ⟨fields, rfl, ?_⟩
    exact {
      id := hid
      zone := hzone
      latitude := hlatitude
      longitude := hlongitude
      hours := hhours
      workdays := hworkdays
      rules := hrules
      name := by rw [orAbort_eq_ok_iff.1 hname]; rfl
      city := by rw [orAbort_eq_ok_iff.1 hcity]; rfl
      earlyClose := orAbort_eq_ok_iff.1 hclose }
  | _ => cases h

/-- The zone of an exchange is one of the atlas. -/
lemma exists_zone_of_zoneName {atlas : Zone.Atlas} {fields : Fields} {zone : String}
    (h : zoneName atlas fields = .ok zone) : ∃ z, atlas zone = .ok z := by
  obtain ⟨name, -, hname⟩ := bind_eq_ok_iff.1 h
  split at hname
  · cases hname
  · next z hz =>
    cases hname
    exact ⟨z, hz⟩

/-! ### Rules -/

/-- The parts of a rule are those that the fields of its item give. -/
structure Rule.ReadFrom (fields : Fields) (r : Rule) : Prop where
  date : ruleDate (pick fields ["date"]) = .ok r.date
  closed : flagField fields "closed" = r.closed
  opens : clockField fields ["override_open", "open"] = .ok r.opens
  closes : clockField fields ["override_close", "close"] = .ok r.closes
  earlyClose : clockField fields ["half_day_close", "halfDayClose"] = .ok r.earlyClose

/-- An item that describes a rule is a mapping, and the rule is read from its fields. -/
lemma readFrom_of_ruleOfItem {item : Value} {r : Rule} (h : ruleOfItem item = .ok r) :
    ∃ fields, item.opened = .map fields ∧ r.ReadFrom fields := by
  unfold ruleOfItem at h
  split at h
  · next fields hfields =>
    obtain ⟨date, hdate, h⟩ := bind_eq_ok_iff.1 h
    obtain ⟨opens, hopens, h⟩ := bind_eq_ok_iff.1 h
    obtain ⟨closes, hcloses, h⟩ := bind_eq_ok_iff.1 h
    obtain ⟨earlyClose, hclose, h⟩ := bind_eq_ok_iff.1 h
    cases h
    refine ⟨fields, hfields, ?_⟩
    exact {
      date := hdate
      closed := rfl
      opens := orAbort_eq_ok_iff.1 hopens
      closes := orAbort_eq_ok_iff.1 hcloses
      earlyClose := orAbort_eq_ok_iff.1 hclose }
  · cases h

end ExchangeBoard
