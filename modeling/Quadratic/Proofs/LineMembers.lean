/-
Quadratic.Proofs.LineMembers — which members the JSON line of a record has,
and in which order.

Two dictionaries meet in a line: the one of the entry, and what was added to
the record. They may have keys in common, but not all: an addition can give
another severity or another line number, while the names of the own attributes
of a record are kept from it, and of these only the module and the message are
keys of a line at all.

* `keys_extended` — the keys of the two dictionaries together, in order.
* `shows_last`, `shows_own` — which of the two a value comes from.
* `jsonLine_members` — the object that is read from a line.
-/
import Quadratic.Proofs.Lines

namespace Quadratic.Log

open Value (InJson keys nest newKeys putAll)

/-! ## 1. Two dictionaries -/

/-- A value in an object. -/
def Shows (s : Stack) (members : List (String × Json)) (key : String) (v : Value) : Prop :=
  ∃ j, Value.lookup? key members = some j ∧ InJson s.levels s.members v j

/-- A value of a dictionary is shown under its key. -/
theorem RowInJson.shows {s : Stack} {ms : Attributes} {js : List (String × Json)}
    (hrow : RowInJson s ms js) {key : String} {v : Value}
    (h : Value.lookup? key ms = some v) : Shows s js key v := by
  induction hrow with
  | nil => cases h
  | @cons m n ms js hmn _ ih =>
    rw [Value.lookup?_cons] at h
    by_cases hkey : m.1 = key
    · rw [if_pos hkey] at h
      obtain rfl := Option.some.inj h
      refine ⟨n.2, ?_, hmn.2⟩
      rw [Value.lookup?_cons, if_pos (hmn.1.trans hkey)]
    · rw [if_neg hkey] at h
      obtain ⟨j, hj, hform⟩ := ih h
      refine ⟨j, ?_, hform⟩
      rw [Value.lookup?_cons, if_neg (hmn.1 ▸ hkey), hj]

namespace Entry

/-- The keys that come first in a line. -/
def leadingKeys (e : Entry) : List String :=
  ["timestamp", "level", "logger", "module", "function", "line", "message"] ++
    if e.exception.isSome then ["exception"] else []

variable (e : Entry) (stamp message : String)

theorem keys_dictionary : keys (e.dictionary stamp message) = e.leadingKeys := by
  rw [dictionary, leadingKeys, keys, List.map_append]
  cases e.exception <;> rfl

/-- The keys of both dictionaries. -/
theorem keys_extended (extra : Attributes) :
    keys (putAll extra (e.dictionary stamp message)) =
      e.leadingKeys ++ newKeys extra e.leadingKeys := by
  rw [Value.keys_putAll, keys_dictionary]

section

variable {extra : Attributes} {js : List (String × Json)}
  (hrow : RowInJson e.stack (putAll extra (e.dictionary stamp message)) js)

include hrow

/-- What was added last under a key is shown, also under a key of the entry. -/
theorem shows_last {before after : Attributes} {key : String} {v : Value}
    (hextra : extra = before ++ (key, v) :: after) (hafter : key ∉ keys after) :
    Shows e.stack js key v := by
  subst hextra
  exact hrow.shows (Value.lookup?_putAll_of_last hafter before v _)

/-- What the entry has under a key is shown if nothing was added under it. -/
theorem shows_own {m : String × Value} (hm : m ∈ e.dictionary stamp message)
    (hnew : m.1 ∉ keys extra) : Shows e.stack js m.1 m.2 := by
  refine hrow.shows ?_
  rw [Value.lookup?_putAll_of_not_mem hnew]
  exact Value.lookup?_of_mem (e.nodup_keys_dictionary stamp message) hm

end

/-! ## 2. Names of own attributes -/

variable {e}

/-- Of the own attributes of a record only two have a name that can be a key of
a line. -/
theorem eq_module_or_message {extra : Attributes} (hextra : Added extra) {key : String}
    (hkey : key ∈ e.leadingKeys ++ newKeys extra e.leadingKeys) (hown : key ∈ ownAttributes) :
    key = "module" ∨ key = "message" := by
  have hshared : ∀ k ∈ ["timestamp", "level", "logger", "module", "function", "line", "message",
      "exception"], k ∈ ownAttributes → k = "module" ∨ k = "message" := by decide
  rcases List.mem_append.mp hkey with hleading | hnew
  · refine hshared key ?_ hown
    rw [leadingKeys] at hleading
    split at hleading
    · exact hleading
    · exact List.mem_append_left ["exception"] (List.append_nil _ ▸ hleading)
  · exact absurd (Value.mem_keys_of_mem_newKeys hnew) (hextra.not_mem_keys hown)

end Entry

/-! ## 3. Lines -/

/-- The members that are read from the line of a record with additions, if all
its values have forms in JSON. Their keys are those of the entry, with one for
the exception if there is one, and then the new ones in the order in which each
was added first; no key stands twice. Under every key that was added stands what
was added last, in the place of the value of the entry if it had one there.
Under the other keys stands what the entry has, and so it does under `module`
and `message` in any case; no other name of an own attribute is a key. If some
value has no form there is no line.

A row of assignments to a record comes to its additions, unless it names
something else than an attribute. -/
theorem jsonLine_members (e : Entry) {extra : Attributes} (hextra : Entry.Added extra)
    {t : Resolution} {stamp message : String}
    (hmessage : (e.record.extend extra).message = .ok message)
    (hstamp : (e.record.extend extra).stamp t = .ok stamp) :
    ((∀ m ∈ extra, m.1 ∉ Record.specialNames) →
      e.record.assignAll extra = .ok (e.record.extend extra)) ∧
    (HasForms e.stack (putAll extra (e.dictionary stamp message)) →
      ∃ line members, (e.record.extend extra).jsonLine t = .ok line ∧
        Json.ofText? line = some (.object members) ∧
        keys members = e.leadingKeys ++ newKeys extra e.leadingKeys ∧
        (keys members).Nodup ∧
        (∀ before key v after, extra = before ++ (key, v) :: after → key ∉ keys after →
          Shows e.stack members key v) ∧
        (∀ m ∈ e.dictionary stamp message, m.1 ∉ keys extra → Shows e.stack members m.1 m.2) ∧
        Shows e.stack members "module" (.string e.module) ∧
        Shows e.stack members "message" (.string message) ∧
        ∀ key ∈ keys members, key ∈ ownAttributes → key = "module" ∨ key = "message") ∧
    (¬ HasForms e.stack (putAll extra (e.dictionary stamp message)) →
      ∃ error, (e.record.extend extra).jsonLine t = .error error) := by
  have hmembers := e.members_extend hextra hmessage hstamp
  refine ⟨e.record.assignAll_eq_extend, fun hforms => ?_, exists_error_of_not_hasForms hmembers⟩
  obtain ⟨js, hjs⟩ := (exists_rowInJson_iff _ _).mpr hforms
  have hkeys : keys js = e.leadingKeys ++ newKeys extra e.leadingKeys :=
    hjs.keys_eq.trans (e.keys_extended stamp message extra)
  have hprotected : "module" ∈ ownAttributes ∧ "message" ∈ ownAttributes := by decide
  have hmodule : ("module", Value.string e.module) ∈ e.dictionary stamp message :=
    List.mem_append_left _ (by simp)
  have hshown : ("message", Value.string message) ∈ e.dictionary stamp message :=
    List.mem_append_left _ (by simp)
  refine ⟨_, js, (jsonLine_eq_ok_iff hmembers _).mpr ⟨js, hjs, rfl⟩, Json.ofText?_text _, hkeys,
    ?_, ?_, ?_, ?_, ?_, ?_⟩
  · rw [hjs.keys_eq]
    exact Value.nodup_keys_putAll extra (e.nodup_keys_dictionary stamp message)
  · exact fun before key v after => e.shows_last stamp message hjs
  · exact fun m => e.shows_own stamp message hjs
  · exact e.shows_own stamp message hjs hmodule (hextra.not_mem_keys hprotected.1)
  · exact e.shows_own stamp message hjs hshown (hextra.not_mem_keys hprotected.2)
  · intro key hkey
    rw [hkeys] at hkey
    exact Entry.eq_module_or_message hextra hkey

/-- Two keys of the entry and two new ones, one of them added twice. -/
def collidingExtra : Attributes :=
  [("exception", .none), ("z", .int 1), ("level", .string "loud"), ("a", .float .nan),
    ("z", .bool true)]

theorem jsonLine_members_colliding :
    ∃ line members, (nestedEntry.record.extend collidingExtra).jsonLine .second = .ok line ∧
      Json.ofText? line = some (.object members) ∧
      keys members = ["timestamp", "level", "logger", "module", "function", "line", "message",
        "exception", "z", "a"] ∧
      Shows ordinaryStack members "z" (.bool true) ∧
      Shows ordinaryStack members "exception" .none ∧
      Shows ordinaryStack members "line" (.int 7) := by
  have hextra : Entry.Added collidingExtra := by decide
  have hmessage : (nestedEntry.record.extend collidingExtra).message = .ok "é\n of 2" := rfl
  have hstamp : (nestedEntry.record.extend collidingExtra).stamp .second =
      .ok "1970-01-01 00:00:00" := rfl
  have hforms : HasForms nestedEntry.stack (putAll collidingExtra
      (nestedEntry.dictionary "1970-01-01 00:00:00" "é\n of 2")) :=
    (exists_rowInJson_iff _ _).mp ⟨_, (rowInJson_iff _ _ _).mpr rfl⟩
  obtain ⟨-, hline, -⟩ := jsonLine_members nestedEntry hextra hmessage hstamp
  obtain ⟨line, members, hline, hread, hkeys, -, hlast, hown, -⟩ := hline hforms
  refine ⟨line, members, hline, hread, hkeys.trans (by decide), ?_, ?_, ?_⟩
  · exact hlast (collidingExtra.take 4) "z" (.bool true) [] rfl (by decide)
  · exact hlast [] "exception" .none (collidingExtra.drop 1) rfl (by decide)
  · exact hown ("line", .int 7) (List.mem_append_left _ (by simp [nestedEntry])) (by decide)

/-- A record from the first second whose year is too large to be shown. -/
def lateEntry : Entry := { plainEntry with time := ⟨67767976233532800, 0⟩ }

/-- That the message can be filled in, before and after the additions, does not
mean that there is an object: the time has to have a text as well, and every
value a form. -/
theorem members_need_forms :
    (¬ ∀ (e : Entry) (extra : Attributes) (message : String), Entry.Added extra →
      e.record.message = .ok message → (e.record.extend extra).message = .ok message →
        ∃ line members, (e.record.extend extra).jsonLine .second = .ok line ∧
          Json.ofText? line = some (.object members) ∧
          keys members = e.leadingKeys ++ newKeys extra e.leadingKeys) ∧
    (lateEntry.record.message = .ok "m" ∧
      (lateEntry.record.extend [("level", .string "loud")]).jsonLine .second =
        .error (.time .yearTooLarge)) ∧
    Unwritten plainEntry [("v", longInteger)] ∧
    Unwritten plainEntry [("v", deepList)] ∧
    Unwritten plainEntry [("v", tupleKeyed)] ∧
    Unwritten plainEntry [("v", .object speechlessObject)] := by
  refine ⟨fun h => ?_, ⟨rfl, rfl⟩, unwritten_of_not_hasForm not_hasForm_longInteger,
    unwritten_of_not_hasForm not_hasForm_deepList, unwritten_of_not_hasForm not_hasForm_tupleKeyed,
    unwritten_of_not_hasForm not_hasForm_speechlessObject⟩
  have hextra : Entry.Added [("level", .string "loud")] := by decide
  obtain ⟨line, -, hline, -⟩ := h lateEntry _ "m" hextra rfl rfl
  cases hline

end Quadratic.Log
