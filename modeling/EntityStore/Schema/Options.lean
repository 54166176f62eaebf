import EntityStore.Bag
import EntityStore.Json.Document
import EntityStore.Text.Blank

set_option autoImplicit false

/-! # Options of a schema

One option has a meaning: what to do about changes that have not been saved. All others are kept
for whoever uses the model. -/

namespace EntityStore

/-- What to do when changes of an item that were not saved would conflict with its record. -/
inductive UnsavedPolicy
  | ignore
  | warn
  | fail
deriving DecidableEq, Repr

namespace UnsavedPolicy

instance : Inhabited UnsavedPolicy := ⟨.fail⟩

def all : List UnsavedPolicy := [.ignore, .warn, .fail]

def name : UnsavedPolicy → String
  | .ignore => "ignore"
  | .warn => "warn"
  | .fail => "fail"

/-- The policy with a name, in any case and with blanks around it. -/
def ofName? (text : String) : Option UnsavedPolicy :=
  let wanted := Text.fold text
  all.find? fun p => p.name = wanted

/-- What is said of a text that is no policy's name. -/
def unknown (text : String) : String := s!"invalid onUnsaved policy: {text}"

end UnsavedPolicy

/-- The options of a schema. -/
structure Options where
  onUnsaved : Option UnsavedPolicy := none
  /-- Other options by name. -/
  extra : Bag Json := Bag.empty

/-- The options of two schemas together, those of the second one winning. -/
def Options.merge (base own : Options) : Options :=
  { onUnsaved := own.onUnsaved <|> base.onUnsaved
    extra := base.extra.insertAll own.extra.entries }

end EntityStore
