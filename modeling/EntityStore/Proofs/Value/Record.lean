import EntityStore.Proofs.Bag
import EntityStore.Proofs.Json.Reader
import EntityStore.Value.Document

set_option autoImplicit false

/-! # Records are read back from their texts

A record of values that stand in a document as what they are is read back from its text, if its
numbers are (`recordOfText_recordText`). -/

namespace EntityStore.Value

/-- Whether a value stands in a document as what it is. -/
def isPlain : Value → Bool
  | .null | .bool _ | .integer _ | .string _ => true
  | .number x => x.isFinite
  | .invalid | .date _ | .uuid _ | .binary _ => false

/-- The numbers among values, but for the whole ones. -/
def numbers (l : List (String × Value)) : List Binary64 :=
  l.filterMap fun
    | (_, .number x) => some x
    | _ => none

/-- Whether a number is read back from its text in a document. -/
def isLossless (x : Binary64) : Bool :=
  match Json.ofText? (Json.number x).compact with
  | some (.number y) => x == y
  | _ => false

theorem ofText?_compact {x : Binary64} (lossless : isLossless x = true) :
    Json.ofText? (Json.number x).compact = some (.number x) := by
  unfold isLossless at lossless
  split at lossless
  · next read => rw [read, beq_iff_eq.1 lossless]
  · exact absurd lossless (by decide)

variable {v : Value}

theorem ofInt?_toInt (i : Int64) : Whole.ofInt? i.toInt = some i := by
  have low := i.le_toInt
  have high := i.toInt_lt
  rw [Whole.ofInt?, if_pos ⟨low, high⟩, Int64.ofInt_toInt]

theorem ofJson?_toJson (plain : v.isPlain = true) : ofJson? v.toJson = some v := by
  cases v with
  | null | bool | string => rfl
  | integer i =>
    simp only [toJson, ofJson?, shapes, List.findSome?_cons, asNull?, asBool?, asInteger?,
      ofInt?_toInt, Option.map_some]
  | number x =>
    have finite : x.isFinite = true := plain
    rw [toJson, if_pos finite]
    rfl
  | invalid | date | uuid | binary => exact absurd plain (by simp [isPlain])

theorem readsBack_toJson (plain : v.isPlain = true)
    (lossless : ∀ x, v = .number x → isLossless x = true) : v.toJson.ReadsBack := by
  cases v with
  | null => exact Json.readsBack_null
  | bool b => exact Json.readsBack_bool b
  | string s => exact Json.readsBack_string s
  | integer i =>
    exact Json.readsBack_integer i.le_toInt (Int.lt_trans i.toInt_lt (by decide))
  | number x =>
    have finite : x.isFinite = true := plain
    rw [toJson, if_pos finite]
    exact Json.readsBack_number (ofText?_compact (lossless x rfl))
  | invalid | date | uuid | binary => exact absurd plain (by simp [isPlain])

/-- Read the value of a member of a record. -/
def addMember (name : String) (record : Record) : Json.Reader Record := fun s =>
  (read (Json.maxDepth - 1) s).map fun (v, rest) => (record.insert name v, rest)

/-- Put the value of a document into a record. -/
def addDocument (e : String × Json) (record : Record) : Record :=
  record.insert e.1 ((ofJson? e.2).getD .null)

theorem addsMember (plain : v.isPlain = true) (lossless : ∀ x, v = .number x → isLossless x = true)
    (name : String) :
    Json.Reader.AddsMember addMember (name, v.toJson) (addDocument (name, v.toJson)) := by
  intro record c k other
  obtain ⟨blanks, blank, taken⟩ := readsBack_toJson plain lossless (Json.maxDepth - 1) c k other
  refine ⟨blanks, blank, ?_⟩
  rw [addMember, read, Json.Reader.document, taken]
  simp only [Json.Reader.orMalformed, bind, Except.bind, ofJson?_toJson plain, addDocument,
    Option.getD_some]
  rfl

/-- A record of plain values is read back from its text. -/
theorem recordOfText_recordText {record : Record}
    (plain : ∀ e ∈ record.entries, e.2.isPlain = true)
    (lossless : ∀ x ∈ numbers record.entries, isLossless x = true) :
    recordOfText (recordText record) = .ok record := by
  -- Each member of the object is read back and inserted.
  have adds : ∀ e ∈ record.entries.map fun e => (e.1, e.2.toJson),
      Json.Reader.AddsMember addMember e (addDocument e) := by
    intro e he
    obtain ⟨⟨name, v⟩, member, rfl⟩ := List.mem_map.1 he
    refine addsMember (plain _ member) (fun x eq => lossless x ?_) name
    obtain rfl : v = .number x := eq
    exact List.mem_filterMap.2 ⟨_, member, rfl⟩
  obtain ⟨body, text, read⟩ := Json.Reader.object_written adds Bag.empty []
  have all : (record.entries.map fun e => (e.1, e.2.toJson)).foldl
      (fun state e => addDocument e state) Bag.empty = record := by
    refine Eq.trans ?_ (Bag.ofList_entries record)
    rw [List.foldl_map]
    refine List.foldl_ext _ _ _ fun state e he => ?_
    rw [addDocument, ofJson?_toJson (plain e he)]
    rfl
  rw [all] at read
  rw [recordText, recordOfText, Json.compact, String.toList_ofList, text]
  have front : Json.skipSpace ('\x7b' :: body) = '\x7b' :: body := rfl
  rw [front]
  exact congrArg (fun r : Except Json.Fault (Record × List Char) =>
    r.bind fun p => (Json.Reader.ending p.2).bind fun _ => .ok p.1) read

end EntityStore.Value
