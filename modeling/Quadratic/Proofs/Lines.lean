/-
Quadratic.Proofs.Lines — what can be read from the line of a record.

A record is made from an entry, and other attributes may be added to it.
As long as their names are not those of its own attributes, the record
still shows the entry (`get_extend`). Its members are then the dictionary
that is put together from the entry and from what was added
(`members_extend`), if its message can be filled in and its time can be
shown.

The line is the text of a JSON object with a form of each of these members
(`jsonLine_eq_ok_iff`). So there is a line exactly if every member has a form
in JSON, and no other way for a record to be written.

* `exists_lineAs` — the line of a record without additions, in either form.
* `jsonLine_decodes` — the line is read back as the dictionary; and if some
  value has no form, there is no line.
-/
import Quadratic.Proofs.JsonForms
import Quadratic.Proofs.JsonRoundTrip
import Quadratic.Proofs.Members
import Quadratic.Log.Record

-- A power is the one of the core library, whatever other instances are
-- imported.
attribute [local instance (high)] instPowNat

namespace Quadratic.Log

open Value (HasForm InJson keys nest putAll)

/-! ## 1. Times that can be shown -/

/-- A point in time whose second has a text. -/
def Time.IsShown (t : Time) : Prop := ∃ stamp, secondText (.int t.seconds) = .ok stamp

/-- Every point in time within a thousand million years can be shown. -/
theorem Time.isShown_of_le {t : Time} (hlow : -(2 ^ (54 : Nat)) ≤ t.seconds)
    (hhigh : t.seconds ≤ 2 ^ (54 : Nat)) : t.IsShown := by
  have hsecond : secondsOf (.int t.seconds) = .ok t.seconds := by
    rw [secondsOf, secondsUpTo, if_pos (by omega)]
  have hyear : -(2 ^ (30 : Nat)) ≤ (Day.ofCount (t.seconds / 86400)).year ∧
      (Day.ofCount (t.seconds / 86400)).year ≤ 2 ^ (30 : Nat) := by
    dsimp only [Day.ofCount, daysPerCycle]
    split <;> omega
  have hday : dayOf t.seconds = .ok (Day.ofCount (t.seconds / 86400)) := by
    rw [dayOf, if_neg (by omega), if_neg (by omega)]
  simp only [Time.IsShown, secondText, hsecond, hday, bind, Except.bind]
  exact ⟨_, rfl⟩

/-! ## 2. Records with attributes added -/

namespace Record

/-- The record with other attributes assigned, one after the other. -/
def extend (r : Record) (extra : Attributes) : Record :=
  { r with attributes := putAll extra r.attributes }

/-- Names that stand for something else than an attribute. -/
def specialNames : List String := ["__dict__", "__class__", "__weakref__"]

/-- A row of assignments to attributes cannot fail, and that is what it comes
to. -/
theorem assignAll_eq_extend (r : Record) {extra : Attributes}
    (h : ∀ m ∈ extra, m.1 ∉ specialNames) : r.assignAll extra = .ok (r.extend extra) := by
  induction extra generalizing r with
  | nil => rfl
  | cons m ms ih =>
    have hm := h m (List.mem_cons_self ..)
    simp only [specialNames, List.mem_cons, List.not_mem_nil, or_false, not_or] at hm
    have hassign : r.assign m.1 m.2 =
        .ok { r with attributes := Value.put m.1 m.2 r.attributes } := by
      unfold assign Attributes.assign
      rw [if_neg hm.1, if_neg hm.2.1, if_neg hm.2.2]
    rw [assignAll, hassign]
    exact ih _ fun n hn => h n (List.mem_cons_of_mem _ hn)

end Record

namespace Entry

/-- Attributes that are no own attributes of a record. -/
def Added (extra : Attributes) : Prop := ∀ m ∈ extra, m.1 ∉ ownAttributes

instance (extra : Attributes) : Decidable (Added extra) :=
  inferInstanceAs (Decidable (∀ m ∈ extra, m.1 ∉ ownAttributes))

/-- The names of own attributes are kept from what is added. -/
theorem Added.not_mem_keys {extra : Attributes} (hextra : Added extra) {name : String}
    (hname : name ∈ ownAttributes) : name ∉ keys extra := by
  intro hmem
  obtain ⟨m, hm, rfl⟩ := List.mem_map.mp hmem
  exact hextra m hm hname

variable (e : Entry) {extra : Attributes}

theorem keys_attributes : keys e.record.attributes =
    ["name", "msg", "args", "levelname", "module", "exc_info", "lineno", "funcName", "created",
      "msecs"] := rfl

theorem mem_ownAttributes_of_mem {name : String} {v : Value}
    (h : (name, v) ∈ e.record.attributes) : name ∈ ownAttributes := by
  have hsubset : ∀ k ∈ ["name", "msg", "args", "levelname", "module", "exc_info", "lineno",
      "funcName", "created", "msecs"], k ∈ ownAttributes := by decide
  exact hsubset name (e.keys_attributes ▸ List.mem_map_of_mem h)

/-- The own attributes of a record are those of the entry, whatever was
added. -/
theorem get_extend (hextra : Added extra) {name : String} {v : Value}
    (h : (name, v) ∈ e.record.attributes) : (e.record.extend extra).get name = .ok v := by
  have hname : name ∉ keys extra := hextra.not_mem_keys (e.mem_ownAttributes_of_mem h)
  have hnodup : (keys e.record.attributes).Nodup := by
    rw [keys_attributes]
    decide
  have hlookup : Value.lookup? name (putAll extra e.record.attributes) = some v := by
    rw [Value.lookup?_putAll_of_not_mem hname, Value.lookup?_of_mem hnodup h]
  rw [Record.get, Attributes.get, Record.extend]
  simp only [hlookup]
  rfl

/-- What was added comes after the own attributes, each name once. -/
theorem added_extend (hextra : Added extra) : (e.record.extend extra).added = putAll extra [] := by
  have hnew : ∀ m ∈ extra, m.1 ∉ keys e.record.attributes := by
    intro m hm hmem
    obtain ⟨n, hn, hname⟩ := List.mem_map.mp hmem
    exact hextra m hm (hname ▸ e.mem_ownAttributes_of_mem hn)
  have hsplit := Value.putAll_append hnew []
  rw [List.append_nil] at hsplit
  have hown : e.record.attributes.filter (fun m => m.1 ∉ ownAttributes) = [] := by
    rw [List.filter_eq_nil_iff]
    intro m hm
    simp [e.mem_ownAttributes_of_mem hm]
  have hother : (putAll extra []).filter (fun m => m.1 ∉ ownAttributes) = putAll extra [] := by
    rw [List.filter_eq_self]
    intro m hm
    have hkey : m.1 ∈ keys extra := by
      have := (Value.mem_keys_putAll extra []).mp (List.mem_map_of_mem hm)
      simpa [keys] using this
    obtain ⟨n, hn, hname⟩ := List.mem_map.mp hkey
    simpa [hname] using hextra n hn
  rw [Record.added, Record.extend, hsplit, List.filter_append, hown, hother, List.nil_append]

/-! ## 3. Lines -/

/-- The dictionary of an entry with a given time and message, before
anything is added. -/
def dictionary (stamp message : String) : Attributes :=
  [("timestamp", .string stamp), ("level", .string (levelText e.level)),
    ("logger", .string e.logger), ("module", .string e.module),
    ("function", (e.function.map Value.string).getD .none), ("line", .int e.line),
    ("message", .string message)] ++
  match e.exception with
  | none => []
  | some x => [("exception", .string (x.text e.stack))]

theorem nodup_keys_dictionary (stamp message : String) :
    (keys (e.dictionary stamp message)).Nodup := by
  have hbase : ["timestamp", "level", "logger", "module", "function", "line", "message"].Nodup := by
    decide
  have hall : ["timestamp", "level", "logger", "module", "function", "line", "message",
      "exception"].Nodup := by decide
  unfold dictionary
  cases e.exception with
  | none => exact hbase
  | some x => exact hall

/-- The members of a record: the dictionary of the entry, with what was added
assigned one by one. -/
theorem members_extend (hextra : Added extra) {t : Resolution} {stamp message : String}
    (hmessage : (e.record.extend extra).message = .ok message)
    (hstamp : (e.record.extend extra).stamp t = .ok stamp) :
    (e.record.extend extra).members t = .ok (putAll extra (e.dictionary stamp message)) := by
  have hlevel : (e.record.extend extra).get "levelname" = .ok (.string (levelText e.level)) :=
    e.get_extend hextra (by simp [record])
  have hlogger : (e.record.extend extra).get "name" = .ok (.string e.logger) :=
    e.get_extend hextra (by simp [record])
  have hmodule : (e.record.extend extra).get "module" = .ok (.string e.module) :=
    e.get_extend hextra (by simp [record])
  have hfunction : (e.record.extend extra).get "funcName" =
      .ok ((e.function.map Value.string).getD .none) := e.get_extend hextra (by simp [record])
  have hline : (e.record.extend extra).get "lineno" = .ok (.int e.line) :=
    e.get_extend hextra (by simp [record])
  have hinfo : (e.record.extend extra).get "exc_info" =
      .ok ((e.exception.map Exception.toValue).getD .none) :=
    e.get_extend hextra (by simp [record])
  have hmembers : (e.record.extend extra).members t =
      .ok (putAll (e.record.extend extra).added (e.dictionary stamp message)) := by
    simp only [Record.members, Record.baseMembers, Record.exceptionMembers, hstamp, hmessage,
      hlevel, hlogger, hmodule, hfunction, hline, hinfo, bind, Except.bind]
    unfold dictionary
    cases e.exception with
    | none => rfl
    | some x => cases x <;> rfl
  have hnil : (keys ([] : Attributes)).Nodup := List.nodup_nil
  rw [hmembers, e.added_extend hextra, Value.putAll_putAll extra hnil]
  rfl

theorem stamp_record {stamp : String} (h : secondText (.int e.time.seconds) = .ok stamp) :
    e.record.stamp .second = .ok stamp := by
  have hcreated : e.record.stamp .second = (secondText (.int e.time.seconds)).mapError .time := rfl
  rw [hcreated, h]
  rfl

/-- The line of text of a record. -/
theorem textLine_record {stamp message : String} (hmessage : e.record.message = .ok message)
    (hstamp : e.record.stamp .second = .ok stamp) :
    e.record.textLine =
      .ok (stamp ++ " - " ++ e.logger ++ " - " ++ levelText e.level ++ " - " ++ message) := by
  have hlogger : e.record.shown "name" = .ok e.logger :=
    congrArg Except.ok String.ofList_toList
  have hlevel : e.record.shown "levelname" = .ok (levelText e.level) :=
    congrArg Except.ok String.ofList_toList
  simp only [Record.textLine, hmessage, hstamp, hlogger, hlevel, bind, Except.bind]
  rfl

/-- The message of a record is its template with the arguments. -/
theorem message_record : e.record.message =
    (messageOf e.stack e.template (argumentsValue e.arguments)).mapError .template := rfl

end Entry

/-! ## 4. Rows of members -/

/-- A row of attributes as the members of a JSON object: name by name, in order,
each value with its form. -/
abbrev RowInJson (s : Stack) (ms : Attributes) (js : List (String × Json)) : Prop :=
  List.Forall₂ (fun m n => n.1 = m.1 ∧ InJson s.levels s.members m.2 n.2) ms js

theorem RowInJson.keys_eq {s : Stack} {ms : Attributes} {js : List (String × Json)}
    (h : RowInJson s ms js) : keys js = keys ms := by
  induction h with
  | nil => rfl
  | cons hm _ ih => exact List.cons_eq_cons.mpr ⟨hm.1, ih⟩

/-- What stands in a row stands for something. -/
theorem RowInJson.exists_of_mem {s : Stack} {ms : Attributes} {js : List (String × Json)}
    (hrow : RowInJson s ms js) {n : String × Json} (hn : n ∈ js) :
    ∃ m ∈ ms, n.1 = m.1 ∧ InJson s.levels s.members m.2 n.2 := by
  induction hrow with
  | nil => cases hn
  | cons hmn _ ih =>
    rcases List.mem_cons.mp hn with rfl | hn
    · exact ⟨_, List.mem_cons_self .., hmn⟩
    · obtain ⟨m, hm, hform⟩ := ih hn
      exact ⟨m, List.mem_cons_of_mem _ hm, hform⟩

theorem rowInJson_iff (s : Stack) (ms : Attributes) (js : List (String × Json)) :
    RowInJson s ms js ↔
      Value.toJsonMembers s.levels s.members (ms.map fun m => (.string m.1, m.2)) = .ok js := by
  induction ms generalizing js with
  | nil => exact ⟨fun h => by cases h; rfl, fun h => Except.ok.inj h ▸ .nil⟩
  | cons m ms ih =>
    unfold RowInJson
    rw [List.forall₂_cons_left_iff, List.map_cons, Value.toJsonMembers_cons_eq_ok_iff]
    constructor
    · rintro ⟨n, js', ⟨hname, hform⟩, hrow, rfl⟩
      exact ⟨n.1, n.2, js', rfl, congrArg Except.ok hname.symm,
        (Value.toJson_eq_ok_iff ..).mpr hform, (ih js').mp hrow⟩
    · rintro ⟨name, j, js', rfl, hname, hform, hrow⟩
      exact ⟨(name, j), js', ⟨(Except.ok.inj hname).symm, (Value.toJson_eq_ok_iff ..).mp hform⟩,
        (ih js').mpr hrow, rfl⟩

/-- A row has forms for all its members if each of them has one. -/
theorem exists_rowInJson_iff (s : Stack) (ms : Attributes) :
    (∃ js, RowInJson s ms js) ↔ ∀ m ∈ ms, HasForm s.levels s.members m.2 := by
  induction ms with
  | nil => exact ⟨fun _ => List.forall_mem_nil _, fun _ => ⟨[], .nil⟩⟩
  | cons m ms ih =>
    rw [List.forall_mem_cons, ← ih]
    constructor
    · rintro ⟨js, hjs⟩
      obtain ⟨n, js', ⟨-, hform⟩, hrow, rfl⟩ := List.forall₂_cons_left_iff.mp hjs
      exact ⟨⟨n.2, hform⟩, js', hrow⟩
    · rintro ⟨⟨j, hform⟩, js', hrow⟩
      exact ⟨(m.1, j) :: js', .cons ⟨rfl, hform⟩ hrow⟩

/-- The JSON line of a record whose members are known. -/
theorem jsonLine_eq_ok_iff {r : Record} {t : Resolution} {ms : Attributes}
    (hmembers : r.members t = .ok ms) (line : String) :
    r.jsonLine t = .ok line ↔ ∃ js, RowInJson r.stack ms js ∧ line = (Json.object js).text := by
  have hjson : r.jsonLine t = (((Value.toJsonMembers r.stack.levels r.stack.members
      (ms.map fun m => (.string m.1, m.2))).map Json.object).mapError .json).map Json.text := by
    rw [Record.jsonLine, Record.toJson, hmembers]
    rfl
  simp only [hjson, rowInJson_iff]
  cases Value.toJsonMembers r.stack.levels r.stack.members
      (ms.map fun m => (.string m.1, m.2)) <;>
    simp [Except.map, Except.mapError, eq_comm]

namespace Entry

variable (e : Entry)

/-- All that an entry itself has in its line has a form, if the number of the
line has not too many digits. -/
theorem hasForm_dictionary (hline : Decimal.IsShort e.line) (stamp message : String) :
    ∀ m ∈ e.dictionary stamp message, HasForm e.stack.levels e.stack.members m.2 := by
  have hstring : ∀ s, HasForm e.stack.levels e.stack.members (.string s) :=
    fun s => ⟨_, .string _ s⟩
  have hfunction : HasForm e.stack.levels e.stack.members
      ((e.function.map Value.string).getD .none) := by
    cases e.function with
    | none => exact ⟨_, .none _⟩
    | some f => exact hstring f
  have hnumber : HasForm e.stack.levels e.stack.members (.int e.line) :=
    ⟨_, .int _ _ ((Decimal.isShort_iff _).mp hline)⟩
  intro m hm
  rw [dictionary, List.mem_append] at hm
  rcases hm with hm | hm
  · simp only [List.mem_cons, List.not_mem_nil, or_false] at hm
    rcases hm with rfl | rfl | rfl | rfl | rfl | rfl | rfl
    all_goals first
      | exact hstring _
      | exact hfunction
      | exact hnumber
  · cases hexception : e.exception with
    | none =>
      rw [hexception] at hm
      cases hm
    | some x =>
      rw [hexception] at hm
      obtain rfl := List.mem_singleton.mp hm
      exact hstring _

/-- A record without additions has a line in either form. -/
theorem exists_lineAs {message : String} (hmessage : e.record.message = .ok message)
    (hshown : e.time.IsShown) (hline : Decimal.IsShort e.line) (form : LineFormat) :
    ∃ line, e.record.lineAs form = .ok line := by
  obtain ⟨stamp, hstamp⟩ := hshown
  have hsecond := e.stamp_record hstamp
  cases form with
  | text => exact ⟨_, e.textLine_record hmessage hsecond⟩
  | json =>
    have hnone : Added [] := nofun
    obtain ⟨js, hjs⟩ := (exists_rowInJson_iff _ _).mpr (e.hasForm_dictionary hline stamp message)
    exact ⟨_, (jsonLine_eq_ok_iff (e.members_extend hnone hmessage hsecond) _).mpr ⟨js, hjs, rfl⟩⟩

end Entry

/-! ## 5. Lines are read back -/

/-- Every member of a dictionary has a form in JSON. -/
def HasForms (s : Stack) (ms : Attributes) : Prop := ∀ m ∈ ms, HasForm s.levels s.members m.2

/-- If some member has no form, there is no line. -/
theorem exists_error_of_not_hasForms {r : Record} {t : Resolution} {ms : Attributes}
    (hmembers : r.members t = .ok ms) (h : ¬ HasForms r.stack ms) :
    ∃ error, r.jsonLine t = .error error := by
  cases hline : r.jsonLine t with
  | error error => exact ⟨error, rfl⟩
  | ok line =>
    obtain ⟨js, hjs, -⟩ := (jsonLine_eq_ok_iff hmembers line).mp hline
    exact absurd ((exists_rowInJson_iff _ _).mp ⟨js, hjs⟩) h

/-- The JSON line of a record with additions, whose message can be filled in and
whose time can be shown. The line stands for the dictionary of the entry with
the additions assigned to it.

If every member has a form in JSON there is a line. It is one line, and it is
read back as an object with the same keys in the same order, none of them
twice, and with the form of each value. Otherwise there is no line. -/
theorem jsonLine_decodes (e : Entry) {extra : Attributes} (hextra : Entry.Added extra)
    {t : Resolution} {stamp message : String}
    (hmessage : (e.record.extend extra).message = .ok message)
    (hstamp : (e.record.extend extra).stamp t = .ok stamp) :
    let dictionary := putAll extra (e.dictionary stamp message)
    (HasForms e.stack dictionary →
      ∃ line members, (e.record.extend extra).jsonLine t = .ok line ∧
        (∀ c ∈ line.toList, 0x20 ≤ c.toNat) ∧
        Json.ofText? line = some (.object members) ∧
        (keys members).Nodup ∧
        RowInJson e.stack dictionary members) ∧
    (¬ HasForms e.stack dictionary →
      ∃ error, (e.record.extend extra).jsonLine t = .error error) := by
  intro dictionary
  have hmembers := e.members_extend hextra hmessage hstamp
  refine ⟨fun hforms => ?_, exists_error_of_not_hasForms hmembers⟩
  obtain ⟨js, hjs⟩ := (exists_rowInJson_iff e.stack dictionary).mpr hforms
  refine ⟨_, js, (jsonLine_eq_ok_iff hmembers _).mpr ⟨js, hjs, rfl⟩,
    Json.isVisible_of_mem_text _, Json.ofText?_text _, ?_, hjs⟩
  rw [hjs.keys_eq]
  exact Value.nodup_keys_putAll extra (e.nodup_keys_dictionary stamp message)

/-- The room on an ordinary stack. -/
def ordinaryStack : Stack := ⟨990, 990, 980, 990, fun _ => 4⟩

/-- An object with a text. -/
def spokenObject : Object where
  typeName := "Point"
  fullTypeName := "shapes.Point"
  display := .ok "(1, 2)"
  inspect := .ok "Point(x=1, y=2)"
  isTrue := true
  integer? := none
  index? := none
  real? := none
  trace? := none

/-- An error record with arguments and an exception. -/
def nestedEntry : Entry where
  logger := "src.app"
  level := 40
  short := by decide
  module := "app"
  function := none
  line := 7
  template := .string "%s of %d"
  arguments := [.string "é\n", .int 2]
  time := ⟨0, 5⟩
  exception := some (.unraised .token [.string "bad"])
  stack := ordinaryStack

/-- A list with a dictionary in it, in the place of the severity, an object, and
a name that is assigned twice. -/
def nestedExtra : Attributes :=
  [("level", .list [.none, .float .nan,
      .dict [(.string "k", .rootCount .one), (.int 1, .tuple [.bool true])]]),
    ("x", .int 1), ("o", .object spokenObject), ("x", .bool true)]

theorem jsonLine_decodes_nested :
    ∃ line members, (nestedEntry.record.extend nestedExtra).jsonLine .millisecond = .ok line ∧
      (∀ c ∈ line.toList, 0x20 ≤ c.toNat) ∧
      Json.ofText? line = some (.object members) ∧
      (keys members).Nodup ∧
      RowInJson ordinaryStack (putAll nestedExtra
        (nestedEntry.dictionary "1970-01-01 00:00:00,005" "é\n of 2")) members := by
  have hextra : Entry.Added nestedExtra := by decide
  have hmessage : (nestedEntry.record.extend nestedExtra).message = .ok "é\n of 2" := rfl
  have hstamp : (nestedEntry.record.extend nestedExtra).stamp .millisecond =
      .ok "1970-01-01 00:00:00,005" := rfl
  have hforms : HasForms ordinaryStack (putAll nestedExtra
      (nestedEntry.dictionary "1970-01-01 00:00:00,005" "é\n of 2")) :=
    (exists_rowInJson_iff _ _).mp ⟨_, (rowInJson_iff _ _ _).mpr rfl⟩
  exact (jsonLine_decodes nestedEntry hextra hmessage hstamp).1 hforms

/-- A record with nothing but a message. -/
def plainEntry : Entry where
  logger := "src"
  level := 20
  short := by decide
  module := "a"
  function := none
  line := 1
  template := .string "m"
  arguments := []
  time := ⟨0, 0⟩
  exception := none
  stack := ordinaryStack

/-- A record from a year that does not fit into 32 bits. -/
def farEntry : Entry := { plainEntry with time := ⟨67768036191676800, 0⟩ }

/-- An integer with one digit too many. -/
def longInteger : Value := .int ((10 ^ Decimal.mostWritten : Nat) : Int)

/-- A list that is one level too deep. -/
def deepList : Value := nest 991 .none

/-- A dictionary with a tuple as a key. -/
def tupleKeyed : Value := .dict [(.tuple [.int 1, .int 2], .int 3)]

/-- An object that raises an error in the place of its text. -/
def speechlessObject : Object :=
  { spokenObject with display := .error ⟨"ValueError", "no text"⟩ }

section

variable {levels : Value → Nat} {room : Nat}

theorem not_hasForm_longInteger : ¬ HasForm levels room longInteger := by
  rintro ⟨j, hj⟩
  cases hj with
  | int _ _ hshort => exact Decimal.not_isShort_tenPow ((Decimal.isShort_iff _).mpr hshort)
  | object hv => cases hv

theorem not_hasForm_deepList : ¬ HasForm levels 990 deepList := by
  rintro ⟨j, hj⟩
  cases ((Value.toJson_eq_ok_iff ..).mpr hj).symm.trans (Value.toJson_nest 990 .none)

theorem not_hasForm_tupleKeyed : ¬ HasForm levels room tupleKeyed := by
  rintro ⟨j, hj⟩
  cases hj with
  | dict hms =>
    cases hms with
    | cons hk => cases hk
  | object hv => cases hv

theorem not_hasForm_speechlessObject :
    ¬ HasForm ordinaryStack.levels ordinaryStack.members (.object speechlessObject) := by
  rintro ⟨j, hj⟩
  cases hj with
  | object _ hs => cases hs

end

/-- A record that has a message and a time, and no line. -/
structure Unwritten (e : Entry) (extra : Attributes) : Prop where
  added : Entry.Added extra
  message_eq : (e.record.extend extra).message = .ok "m"
  stamp_eq : (e.record.extend extra).stamp .second = .ok "1970-01-01 00:00:00"
  error : ∃ error, (e.record.extend extra).jsonLine .second = .error error

theorem added_v (v : Value) : Entry.Added [("v", v)] := by
  have hname : "v" ∉ ownAttributes := by decide
  exact List.forall_mem_singleton.mpr hname

/-- One added value without a form is enough. -/
theorem unwritten_of_not_hasForm {v : Value}
    (h : ¬ HasForm ordinaryStack.levels ordinaryStack.members v) :
    Unwritten plainEntry [("v", v)] where
  added := added_v v
  message_eq := rfl
  stamp_eq := rfl
  error := by
    have hmembers : (plainEntry.record.extend [("v", v)]).members .second =
        .ok (putAll [("v", v)] (plainEntry.dictionary "1970-01-01 00:00:00" "m")) :=
      plainEntry.members_extend (added_v v) rfl rfl
    refine exists_error_of_not_hasForms hmembers fun hforms => h (hforms ("v", v) ?_)
    exact List.mem_of_getLast? rfl

/-- That the message can be filled in is not enough for a line: the time has to
have a text, and every value a form. Nor are all keys kept: a number becomes a
name, which another key may be already. -/
theorem jsonLine_needs_forms :
    (¬ ∀ (e : Entry) (extra : Attributes) (message : String), Entry.Added extra →
      (e.record.extend extra).message = .ok message →
        ∃ line, (e.record.extend extra).jsonLine .second = .ok line) ∧
    (farEntry.record.message = .ok "m" ∧
      farEntry.record.jsonLine .second = .error (.time .yearUnrepresentable)) ∧
    Unwritten plainEntry [("v", longInteger)] ∧
    Unwritten plainEntry [("v", deepList)] ∧
    Unwritten plainEntry [("v", tupleKeyed)] ∧
    Unwritten plainEntry [("v", .object speechlessObject)] ∧
    ∃ line members, (plainEntry.record.extend
        [("v", .dict [(.int 1, .none), (.string "1", .bool true)])]).jsonLine .second = .ok line ∧
      Json.ofText? line = some (.object members) ∧
      Value.lookup? "v" members = some (.object [("1", .null), ("1", .bool true)]) := by
  refine ⟨fun h => ?_, ⟨rfl, rfl⟩, unwritten_of_not_hasForm not_hasForm_longInteger,
    unwritten_of_not_hasForm not_hasForm_deepList, unwritten_of_not_hasForm not_hasForm_tupleKeyed,
    unwritten_of_not_hasForm not_hasForm_speechlessObject, _, _, rfl, Json.ofText?_text _, rfl⟩
  obtain ⟨line, hline⟩ := h farEntry [] "m" nofun rfl
  cases hline

end Quadratic.Log
