import PathRoute.Text.Character

/-!
# Verbs and their actions

The request methods that routes answer to, and the action that a route performs for each of them. A
verb without an action is not supported.
-/

namespace PathRoute

/-! ## Verbs -/

inductive Verb where
  | post | get | put | delete | options | patch
  deriving DecidableEq, Repr

namespace Verb

/-- Every verb, in the order of the table of actions. -/
def all : List Verb := [.post, .get, .put, .delete, .options, .patch]

theorem mem_all (v : Verb) : v ∈ all := by cases v <;> decide

def name : Verb → String
  | .post => "POST"
  | .get => "GET"
  | .put => "PUT"
  | .delete => "DELETE"
  | .options => "OPTIONS"
  | .patch => "PATCH"

theorem toUpper_name (v : Verb) : v.name.toUpper = v.name := by cases v <;> decide +kernel

theorem name_inj {v w : Verb} (h : v.name = w.name) : v = w := by
  cases v <;> cases w <;> first | rfl | exact absurd h (by decide)

/-- The action of a verb that has been given no other. -/
def defaultAction : Verb → String
  | .post => "create"
  | .get => "read"
  | .put => "update"
  | .delete => "delete"
  | .options => "options"
  | .patch => "patch"

/-- The verb with a default action. -/
def ofDefaultAction? (action : String) : Option Verb :=
  all.find? (·.defaultAction == action)

theorem ofDefaultAction?_defaultAction (v : Verb) : ofDefaultAction? v.defaultAction = some v := by
  cases v <;> decide

theorem ofDefaultAction?_eq_some_iff {action : String} {v : Verb} :
    ofDefaultAction? action = some v ↔ v.defaultAction = action := by
  constructor
  · intro h
    unfold ofDefaultAction? at h
    have found := List.find?_some h
    exact beq_iff_eq.mp found
  · rintro rfl
    exact ofDefaultAction?_defaultAction v

/-- The verb with a name. -/
def ofName? (name : String) : Option Verb := all.find? (·.name == name)

/-- The verb of a text, without regard to ASCII case and to blank characters at its ends. -/
def ofText? (text : String) : Option Verb := ofName? (trim text).toUpper

theorem ofName?_eq_some_iff {name : String} {v : Verb} : ofName? name = some v ↔ name = v.name := by
  constructor
  · intro h
    unfold ofName? at h
    have named := List.find?_some h
    exact (beq_iff_eq.mp named).symm
  · rintro rfl
    cases v <;> decide

theorem ofText?_eq_some_iff {text : String} {v : Verb} :
    ofText? text = some v ↔ (trim text).toUpper = v.name := ofName?_eq_some_iff

/-- The place of a verb in the table of actions. -/
def index : Verb → Fin 6
  | .post => 0
  | .get => 1
  | .put => 2
  | .delete => 3
  | .options => 4
  | .patch => 5

theorem index_inj {v w : Verb} : v.index = w.index ↔ v = w := by
  cases v <;> cases w <;> decide

end Verb

/-! ## Tables -/

structure Actions where
  slots : Vector (Option String) 6
  deriving DecidableEq, Repr

namespace Actions

/-- The table in which no verb has an action. -/
def empty : Actions := ⟨.replicate 6 none⟩

def get (t : Actions) (v : Verb) : Option String := t.slots[v.index]

def set (t : Actions) (v : Verb) (action : String) : Actions :=
  ⟨t.slots.set v.index (some action)⟩

/-- Give a verb its default action. -/
def enable (t : Actions) (v : Verb) : Actions := t.set v v.defaultAction

/-- The table in which every verb has its default action. -/
def defaults : Actions := Verb.all.foldl enable empty

@[simp] theorem get_empty (v : Verb) : empty.get v = none := by cases v <;> rfl

@[simp] theorem get_set (t : Actions) (v w : Verb) (action : String) :
    (t.set v action).get w = if v = w then some action else t.get w := by
  simp [get, set, Vector.getElem_set, Fin.val_inj, Verb.index_inj]

@[simp] theorem get_defaults (v : Verb) : defaults.get v = some v.defaultAction := by
  cases v <;> rfl

/-- Set an action for a verb, or else for the verb whose default action it is. Without either there
is no place for it. -/
def setAction? (t : Actions) (action : String) (v : Option Verb) : Option Actions :=
  (v <|> Verb.ofDefaultAction? action).map (t.set · action)

/-- The action for a verb given as text. -/
def forText? (t : Actions) (verb : String) : Option String := (Verb.ofText? verb).bind t.get

theorem forText?_eq_some_iff {t : Actions} {text action : String} :
    t.forText? text = some action ↔ ∃ v, Verb.ofText? text = some v ∧ t.get v = some action :=
  Option.bind_eq_some_iff

theorem forText?_name (t : Actions) (v : Verb) : t.forText? v.name = t.get v := by
  have hv : Verb.ofText? v.name = some v := by
    rw [Verb.ofText?_eq_some_iff]
    cases v <;> decide +kernel
  rw [forText?, hv, Option.bind_some]

/-- The verbs with an action. -/
def verbs (t : Actions) : List Verb := Verb.all.filter fun v => (t.get v).isSome

/-- Whether some verb has the action. -/
def contains (t : Actions) (action : String) : Bool :=
  Verb.all.any fun v => t.get v == some action

theorem contains_iff {t : Actions} {action : String} :
    t.contains action = true ↔ ∃ v, t.get v = some action := by
  simp [contains, Verb.mem_all]

theorem mem_verbs {t : Actions} {v : Verb} : v ∈ t.verbs ↔ (t.get v).isSome := by
  simp [verbs, Verb.mem_all]

end Actions

end PathRoute
