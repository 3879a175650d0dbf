/-
Quadratic.Proofs.JsonForms — the values that have a form in JSON, and the form
that each of them has.

That a JSON value stands for a value is said by a relation of its own
(`InJson`), with one rule for each kind of value and the conditions under which
the rule applies: an integer has at most 4300 digits, a list or a dictionary
finds room for one more level, a key is a text, a number or a constant, and the
text of an object is not prevented by anything.

* `toName_eq_ok_iff` — the names that keys become.
* `toJson_eq_ok_iff` — a value is written as a JSON value exactly if that one
  stands for it; so a value without a form is refused.
* `toJson_nest` — what is nested one level too deeply.
-/
import Mathlib.Data.List.Forall2
import Quadratic.Value.Json

-- A power is the one of the core library, whatever other instances are
-- imported.
attribute [local instance (high)] instPowNat

namespace Quadratic

/-! ## 1. Short integers -/

namespace Decimal

theorem isShort_iff (i : Int) : IsShort i ↔ i.natAbs < 10 ^ mostWritten :=
  Nat.length_toDigits_le_iff (by decide) (by decide)

theorem isShort_zero : IsShort 0 := by decide

theorem not_isShort_tenPow : ¬ IsShort ((10 ^ mostWritten : Nat) : Int) := by
  rw [isShort_iff]
  exact Nat.lt_irrefl _

end Decimal

namespace Value

/-! ## 2. Keys -/

/-- The name that a key becomes. -/
inductive IsName : Value → String → Prop
  | string (s : String) : IsName (.string s) s
  | rootCount (r : RootCount) : IsName (.rootCount r) r.name
  | none : IsName .none "null"
  | true : IsName (.bool true) "true"
  | false : IsName (.bool false) "false"
  | int (i : Int) (h : i.natAbs < 10 ^ Decimal.mostWritten) :
      IsName (.int i) (String.ofList (Decimal.intChars i))
  | float (x : Binary64) : IsName (.float x) (Style.json.text x)

theorem intToJson_eq_ok_iff (i : Int) (j : Json) :
    intToJson i = .ok j ↔ i.natAbs < 10 ^ Decimal.mostWritten ∧ j = .int i := by
  rw [intToJson, ← Decimal.isShort_iff]
  by_cases h : Decimal.IsShort i
  · simp [h, eq_comm]
  · simp [h]

theorem toName_eq_ok_iff (k : Value) (name : String) : k.toName = .ok name ↔ IsName k name := by
  constructor
  · intro h
    cases k with
    | string s => exact Except.ok.inj h ▸ .string s
    | rootCount r => exact Except.ok.inj h ▸ .rootCount r
    | none => exact Except.ok.inj h ▸ .none
    | bool b => cases b <;> exact Except.ok.inj h ▸ (by constructor)
    | int i =>
      rw [toName] at h
      cases hi : intToJson i with
      | error e =>
        rw [hi] at h
        cases h
      | ok j =>
        obtain ⟨hshort, rfl⟩ := (intToJson_eq_ok_iff i j).mp hi
        rw [hi] at h
        exact Except.ok.inj h ▸ .int i hshort
    | float x => exact Except.ok.inj h ▸ .float x
    | list _ | tuple _ | dict _ | coefficients _ | evaluation _ | error _ _ | object _ => cases h
  · intro h
    cases h with
    | string | rootCount | none | true | false | float => rfl
    | int i hi =>
      rw [toName, (intToJson_eq_ok_iff i _).mpr ⟨hi, rfl⟩]
      rfl

/-! ## 3. Forms -/

/-- An object, which JSON has no form for. -/
def IsObject : Value → Prop
  | .coefficients _ | .evaluation _ | .error _ _ | .object _ => True
  | _ => False

section

variable (levels : Value → Nat)

mutual

/-- The JSON value that stands for a value, where `room` more levels fit inside
each other. -/
inductive InJson : Nat → Value → Json → Prop
  | none (room : Nat) : InJson room .none .null
  | bool (room : Nat) (b : Bool) : InJson room (.bool b) (.bool b)
  | int (room : Nat) (i : Int) (h : i.natAbs < 10 ^ Decimal.mostWritten) :
      InJson room (.int i) (.int i)
  | float (room : Nat) (x : Binary64) : InJson room (.float x) (.real x)
  | string (room : Nat) (s : String) : InJson room (.string s) (.string s)
  | rootCount (room : Nat) (r : RootCount) : InJson room (.rootCount r) (.string r.name)
  | list {room : Nat} {xs : List Value} {js : List Json} (h : ItemsInJson room xs js) :
      InJson (room + 1) (.list xs) (.array js)
  | tuple {room : Nat} {xs : List Value} {js : List Json} (h : ItemsInJson room xs js) :
      InJson (room + 1) (.tuple xs) (.array js)
  | dict {room : Nat} {ms : List (Value × Value)} {js : List (String × Json)}
      (h : MembersInJson room ms js) : InJson (room + 1) (.dict ms) (.object js)
  | object {room : Nat} {v : Value} {s : String} (hv : v.IsObject)
      (hs : v.displayed levels room = .ok s) : InJson (room + 1) v (.string s)

/-- Element by element, in order. -/
inductive ItemsInJson : Nat → List Value → List Json → Prop
  | nil (room : Nat) : ItemsInJson room [] []
  | cons {room : Nat} {v : Value} {j : Json} {vs : List Value} {js : List Json}
      (hv : InJson room v j) (hvs : ItemsInJson room vs js) :
      ItemsInJson room (v :: vs) (j :: js)

/-- Member by member, in order, each under the name of its key. -/
inductive MembersInJson : Nat → List (Value × Value) → List (String × Json) → Prop
  | nil (room : Nat) : MembersInJson room [] []
  | cons {room : Nat} {k v : Value} {name : String} {j : Json} {ms : List (Value × Value)}
      {js : List (String × Json)} (hk : IsName k name) (hv : InJson room v j)
      (hms : MembersInJson room ms js) :
      MembersInJson room ((k, v) :: ms) ((name, j) :: js)

end

end

/-- A value that has a form in JSON. -/
def HasForm (levels : Value → Nat) (room : Nat) (v : Value) : Prop := ∃ j, InJson levels room v j

section

variable {levels : Value → Nat}

theorem InJson.eq_string {room : Nat} {s : String} {j : Json}
    (h : InJson levels room (.string s) j) : j = .string s := by
  cases h with
  | string => rfl
  | object hv => cases hv

/-- What is written one level deeper finds room there. -/
theorem exists_of_nested {α β : Type} {doing : String} {room : Nat} {f : α → β}
    {g : Nat → Except JsonError α} {b : β} (h : nested doing room (fun r => (g r).map f) = .ok b) :
    ∃ r a, room = r + 1 ∧ g r = .ok a ∧ f a = b := by
  cases room with
  | zero => cases h
  | succ r =>
    rw [nested] at h
    cases ha : g r with
    | error e =>
      rw [ha] at h
      cases h
    | ok a =>
      rw [ha] at h
      exact ⟨r, a, rfl, ha, Except.ok.inj h⟩

theorem exists_of_objectToJson {room : Nat} {v : Value} {j : Json}
    (h : objectToJson levels room v = .ok j) :
    ∃ r s, room = r + 1 ∧ v.displayed levels r = .ok s ∧ j = .string s := by
  obtain ⟨r, s, hr, hs, hj⟩ := exists_of_nested h
  cases hdisplayed : v.displayed levels r with
  | error e =>
    rw [hdisplayed] at hs
    cases hs
  | ok text =>
    rw [hdisplayed] at hs
    exact ⟨r, text, hr, hdisplayed, Except.ok.inj hs ▸ hj.symm⟩

theorem toJsonItems_cons_eq_ok_iff (room : Nat) (v : Value) (vs : List Value) (js : List Json) :
    toJsonItems levels room (v :: vs) = .ok js ↔
      ∃ j js', js = j :: js' ∧ v.toJson levels room = .ok j ∧
        toJsonItems levels room vs = .ok js' := by
  rw [toJsonItems]
  cases v.toJson levels room <;> cases toJsonItems levels room vs <;>
    simp [bind, Except.bind, pure, Except.pure, eq_comm]

theorem toJsonMembers_cons_eq_ok_iff (room : Nat) (k v : Value) (ms : List (Value × Value))
    (js : List (String × Json)) :
    toJsonMembers levels room ((k, v) :: ms) = .ok js ↔
      ∃ name j js', js = (name, j) :: js' ∧ k.toName = .ok name ∧ v.toJson levels room = .ok j ∧
        toJsonMembers levels room ms = .ok js' := by
  rw [toJsonMembers]
  cases k.toName <;> cases v.toJson levels room <;> cases toJsonMembers levels room ms <;>
    simp [bind, Except.bind, pure, Except.pure, eq_comm]

mutual

/-- What a value is written as stands for it. -/
theorem inJson_of_toJson {room : Nat} {v : Value} {j : Json} (h : v.toJson levels room = .ok j) :
    InJson levels room v j := by
  match v with
  | .none => exact Except.ok.inj h ▸ .none room
  | .bool b => exact Except.ok.inj h ▸ .bool room b
  | .int i =>
    obtain ⟨hshort, rfl⟩ := (intToJson_eq_ok_iff i j).mp h
    exact .int room i hshort
  | .float x => exact Except.ok.inj h ▸ .float room x
  | .string s => exact Except.ok.inj h ▸ .string room s
  | .rootCount r => exact Except.ok.inj h ▸ .rootCount room r
  | .list xs =>
    obtain ⟨r, js, rfl, hjs, rfl⟩ := exists_of_nested h
    exact .list (itemsInJson_of_toJsonItems hjs)
  | .tuple xs =>
    obtain ⟨r, js, rfl, hjs, rfl⟩ := exists_of_nested h
    exact .tuple (itemsInJson_of_toJsonItems hjs)
  | .dict ms =>
    obtain ⟨r, js, rfl, hjs, rfl⟩ := exists_of_nested h
    exact .dict (membersInJson_of_toJsonMembers hjs)
  | .coefficients _ | .evaluation _ | .error _ _ | .object _ =>
    obtain ⟨r, s, rfl, hs, rfl⟩ := exists_of_objectToJson h
    exact .object trivial hs

theorem itemsInJson_of_toJsonItems {room : Nat} {vs : List Value} {js : List Json}
    (h : toJsonItems levels room vs = .ok js) : ItemsInJson levels room vs js := by
  match vs with
  | [] => exact Except.ok.inj h ▸ .nil room
  | v :: vs =>
    obtain ⟨j, js', rfl, hj, hjs⟩ := (toJsonItems_cons_eq_ok_iff ..).mp h
    exact .cons (inJson_of_toJson hj) (itemsInJson_of_toJsonItems hjs)

theorem membersInJson_of_toJsonMembers {room : Nat} {ms : List (Value × Value)}
    {js : List (String × Json)} (h : toJsonMembers levels room ms = .ok js) :
    MembersInJson levels room ms js := by
  match ms with
  | [] => exact Except.ok.inj h ▸ .nil room
  | (k, v) :: ms =>
    obtain ⟨name, j, js', rfl, hname, hj, hjs⟩ := (toJsonMembers_cons_eq_ok_iff ..).mp h
    exact .cons ((toName_eq_ok_iff k name).mp hname) (inJson_of_toJson hj)
      (membersInJson_of_toJsonMembers hjs)

end

mutual

/-- A value is written as what stands for it. -/
theorem toJson_of_inJson {room : Nat} {v : Value} {j : Json} (h : InJson levels room v j) :
    v.toJson levels room = .ok j := by
  match h with
  | .none _ | .bool _ _ | .float _ _ | .string _ _ | .rootCount _ _ => rfl
  | .int _ i hi => exact (intToJson_eq_ok_iff i _).mpr ⟨hi, rfl⟩
  | .list h | .tuple h =>
    rw [toJson, nested, toJsonItems_of_itemsInJson h]
    rfl
  | .dict h =>
    rw [toJson, nested, toJsonMembers_of_membersInJson h]
    rfl
  | @InJson.object _ r v s hv hs =>
    have hobject : objectToJson levels (r + 1) v = .ok (.string s) := by
      rw [objectToJson, nested, hs]
      rfl
    cases v with
    | coefficients _ | evaluation _ | error _ _ | object _ => exact hobject
    | none | bool _ | int _ | float _ | string _ | rootCount _ | list _ | tuple _ | dict _ => cases hv

theorem toJsonItems_of_itemsInJson {room : Nat} {vs : List Value} {js : List Json}
    (h : ItemsInJson levels room vs js) : toJsonItems levels room vs = .ok js := by
  match h with
  | .nil _ => rfl
  | .cons hv hvs =>
    exact (toJsonItems_cons_eq_ok_iff ..).mpr
      ⟨_, _, rfl, toJson_of_inJson hv, toJsonItems_of_itemsInJson hvs⟩

theorem toJsonMembers_of_membersInJson {room : Nat} {ms : List (Value × Value)}
    {js : List (String × Json)} (h : MembersInJson levels room ms js) :
    toJsonMembers levels room ms = .ok js := by
  match h with
  | .nil _ => rfl
  | .cons hk hv hms =>
    exact (toJsonMembers_cons_eq_ok_iff ..).mpr ⟨_, _, _, rfl, (toName_eq_ok_iff ..).mpr hk,
      toJson_of_inJson hv, toJsonMembers_of_membersInJson hms⟩

end

/-- A value is written as a JSON value exactly if that one stands for it. -/
theorem toJson_eq_ok_iff (room : Nat) (v : Value) (j : Json) :
    v.toJson levels room = .ok j ↔ InJson levels room v j :=
  ⟨inJson_of_toJson, toJson_of_inJson⟩

/-! ## 4. Depth -/

/-- A list in a list in a list, and so on. -/
def nest : Nat → Value → Value
  | 0, v => v
  | n + 1, v => .list [nest n v]

/-- What is nested one level too deeply has no form. -/
theorem toJson_nest (room : Nat) (v : Value) :
    (nest (room + 1) v).toJson levels room = .error (.text (.tooDeep encoding)) := by
  induction room with
  | zero => rfl
  | succ room ih =>
    have hstep : (nest (room + 2) v).toJson levels (room + 1) =
        (toJsonItems levels room [nest (room + 1) v]).map .array := rfl
    rw [hstep, toJsonItems, ih]
    rfl

end

end Value

end Quadratic
