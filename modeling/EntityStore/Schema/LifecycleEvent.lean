set_option autoImplicit false

/-! # Events in the life of an item

Code can be attached to ten events: before and after an item is created, loaded, validated, saved
and removed. An event is named by its own name or by that name with `on` in front and its first
letter in upper case. -/

namespace EntityStore

/-- An event in the life of an item. -/
inductive LifecycleEvent
  /-- Before a new item is stored for the first time. -/
  | beforeCreate
  /-- After a new item has been stored for the first time. -/
  | afterCreate
  | beforeLoad
  | afterLoad
  | beforeValidate
  | afterValidate
  | beforeSave
  | afterSave
  | beforeRemove
  | afterRemove
deriving DecidableEq, Repr

/-- What the code for an event works on. -/
inductive HookBinding
  | item
  | model
deriving DecidableEq, Repr

namespace LifecycleEvent

def all : List LifecycleEvent :=
  [.beforeCreate, .afterCreate, .beforeLoad, .afterLoad, .beforeValidate, .afterValidate,
    .beforeSave, .afterSave, .beforeRemove, .afterRemove]

def name : LifecycleEvent → String
  | .beforeCreate => "beforeCreate"
  | .afterCreate => "afterCreate"
  | .beforeLoad => "beforeLoad"
  | .afterLoad => "afterLoad"
  | .beforeValidate => "beforeValidate"
  | .afterValidate => "afterValidate"
  | .beforeSave => "beforeSave"
  | .afterSave => "afterSave"
  | .beforeRemove => "beforeRemove"
  | .afterRemove => "afterRemove"

/-- The code for an event works on the item that the event happens to. -/
def binding (_ : LifecycleEvent) : HookBinding := .item

/-- The name that an alias stands for: `onBeforeSave` for `beforeSave`. Other names stand for
themselves. -/
def plainName (name : String) : List Char :=
  match name.toList with
  | 'o' :: 'n' :: c :: rest => if c.isUpper then c.toLower :: rest else 'o' :: 'n' :: c :: rest
  | s => s

/-- The event with a name or alias. -/
def ofName? (name : String) : Option LifecycleEvent :=
  all.find? fun e => e.name.toList = plainName name

theorem mem_all (e : LifecycleEvent) : e ∈ all := by cases e <;> decide

theorem ofName?_name (e : LifecycleEvent) : ofName? e.name = some e := by
  cases e <;> decide +kernel

end LifecycleEvent

end EntityStore
