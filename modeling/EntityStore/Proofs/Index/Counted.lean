import EntityStore.Proofs.Index.Failure
import EntityStore.Proofs.Item.Loading
import EntityStore.Proofs.KeyTemplate.Spelled
import EntityStore.Proofs.Storage.Directory
import Mathlib.Data.List.Dedup
import Mathlib.Data.List.Pairwise

set_option autoImplicit false

/-! # Items are counted by their keys

Building the indices of a model anew counts the keys that are read as those of items. Any written
form of an identity is read, so an item may be counted more than once, and it may be found in the
indices although there is no record under its own key, so that it cannot be loaded. Both are ruled
out if and only if all keys that are read are in the proper form (`item_keys_spelled`), which the
keys that other programs have written need not be (`tickets_miscounted`). -/

namespace EntityStore

variable {σ W : Type}

/-! ## What an index holds after items were entered -/

/-- An index that takes the values of items holds those with which each item was entered last. -/
theorem SortedIndex.Represents.enterInto {m : Model σ W} {d : IndexDefinition}
    {content : SortedIndex} {known : Uuid → Option Properties}
    (h : content.Represents fun id => (known id).map (m.indexedValue d))
    (items : List (Uuid × Properties)) :
    (m.enterInto d items content).Represents
      fun id => ((items.reverse.lookup id).or (known id)).map (m.indexedValue d) := by
  induction items generalizing content known with
  | nil => exact h
  | cons item rest ih =>
    have entered : (content.insert item.1 (m.indexedValue d item.2)).Represents fun id =>
        (if id = item.1 then some item.2 else known id).map (m.indexedValue d) :=
      (h.insert item.1 (m.indexedValue d item.2)).congr fun id => by split <;> rfl
    refine (ih entered).congr fun id => congrArg _ ?_
    rw [List.reverse_cons, List.lookup_append, Option.or_assoc]
    congr 1
    by_cases same : id = item.1
    · simp [same, List.lookup_cons_self (k := item.1) (b := item.2)]
    · simp [same, List.lookup_cons (k := item.1) (b := item.2), beq_eq_false_iff_ne.2 same]

/-- An index that has entries for the items of a list has as many as there are different ones. -/
theorem SortedIndex.Represents.size_eq {index : SortedIndex} {values : Uuid → Option Value}
    (h : index.Represents values) {ids : List Uuid}
    (named : ∀ id, (values id).isSome = true ↔ id ∈ ids) : index.size = ids.dedup.length := by
  have same : (index.entries.map (·.2)).Perm ids.dedup := by
    refine (List.perm_ext_iff_of_nodup h.nodup ids.nodup_dedup).2 fun id => ?_
    rw [List.mem_dedup, ← named, List.mem_map, Option.isSome_iff_exists]
    constructor
    · rintro ⟨⟨v, _⟩, entry, rfl⟩
      exact ⟨v, (h.mem_iff v _).1 entry⟩
    · rintro ⟨v, value⟩
      exact ⟨(v, id), (h.mem_iff v id).2 value, rfl⟩
  rw [size, ← same.length_eq, List.length_map]

namespace ModelIndex

theorem represents_refilled (m : Model σ W) (items : List (Uuid × Properties)) (x : ModelIndex) :
    (x.refilled m items).content.Represents
      fun id => (items.reverse.lookup id).map (m.indexedValue x.definition) := by
  have empty : x.content.clear.Represents
      fun id => ((fun _ => none : Uuid → Option Properties) id).map (m.indexedValue x.definition) :=
    .of_nil rfl
  exact (empty.enterInto items).congr fun id => by rw [Option.or_none]

theorem size_refilled (m : Model σ W) (items : List (Uuid × Properties)) (x : ModelIndex) :
    (x.refilled m items).content.size = (items.map (·.1)).dedup.length := by
  refine (x.represents_refilled m items).size_eq fun id => ?_
  rw [Option.isSome_map, List.lookup_isSome_iff, List.mem_map]
  simp only [List.mem_reverse, beq_iff_eq, @eq_comm _ id]

end ModelIndex

theorem List.length_eq_length_dedup_iff {α : Type} [DecidableEq α] {l : List α} :
    l.length = l.dedup.length ↔ l.Nodup := by
  rw [← List.dedup_eq_self]
  exact ⟨fun same => (List.dedup_sublist l).eq_of_length same.symm, fun same => by rw [same]⟩

/-- Where what is picked out of a list occurs once, it was picked in one place. -/
theorem List.eq_of_nodup_filterMap {α β : Type} {f : α → Option β} {l : List α}
    (distinct : (l.filterMap f).Nodup) {x y : α} (hx : x ∈ l) (hy : y ∈ l) {b : β}
    (fx : f x = some b) (fy : f y = some b) : x = y := by
  rw [List.Nodup, List.pairwise_filterMap] at distinct
  have symmetric : Std.Symm fun x y => ∀ b, f x = some b → ∀ c, f y = some c → b ≠ c :=
    ⟨fun _ _ apart c hc b hb eq => apart b hb c hc eq.symm⟩
  exact Classical.byContradiction fun apart => distinct.forall hx hy apart b fx b fy rfl

/-! ## Counting -/

namespace Session

variable {m : Model σ W} {s t : Session σ W} {adapter : Adapter W} {listed : List String}

/-- Entering records ends without a failure if all of them are given; then each key that is read as
that of an item counts. -/
theorem indexKeys_ok {count n : Nat} (h : indexKeys m adapter listed count s = (.ok n, t)) :
    n = count + (listed.filterMap m.keys.id?).length ∧
      (∀ key ∈ listed, ∀ id, m.keys.id? key = some id →
        ∃ record, adapter.read key s.store = .ok record) ∧
      (listed.filterMap (m.storedItem? adapter s.store)).map (·.1) =
        listed.filterMap m.keys.id? ∧
      t = s.enter m (listed.filterMap (m.storedItem? adapter s.store)) := by
  induction listed generalizing s count with
  | nil =>
    cases h
    exact ⟨rfl, nofun, rfl, rfl⟩
  | cons key rest ih =>
    unfold indexKeys at h
    split at h
    · next other =>
      -- The key is not that of an item.
      obtain ⟨counted, given, named, entered⟩ := ih h
      have unread : m.storedItem? adapter s.store key = none := by
        simp [Model.storedItem?, other]
      rw [List.filterMap_cons_none other, List.filterMap_cons_none unread]
      refine ⟨counted, List.forall_mem_cons.2 ⟨fun id read => ?_, given⟩, named, entered⟩
      cases other.symm.trans read
    · next id read =>
      split at h
      · cases h
      · next record answer =>
        -- The item is entered, which leaves the store as it is.
        obtain ⟨counted, given, named, entered⟩ := ih h
        have stored : m.storedItem? adapter s.store key =
            some (id, m.pipeline.deserialize record) := by
          simp [Model.storedItem?, read, answer, Except.toOption]
        rw [List.filterMap_cons_some read, List.filterMap_cons_some stored]
        refine ⟨?_, List.forall_mem_cons.2 ⟨fun _ _ => ⟨record, answer⟩, given⟩, ?_, entered⟩
        · rw [counted, List.length_cons]
          omega
        · exact congrArg _ named

/-- If building the indices of a model anew does not fail, then the indices hold the items whose
keys were read, with their records, and as many keys are counted. -/
theorem reindex_ok {n : Nat} (answer : (s.observedAdapter m).keys m.keys.base s.store = .ok listed)
    (done : s.reindex m = (.ok n, t)) :
    n = (listed.filterMap m.keys.id?).length ∧
      (∀ key ∈ listed, ∀ id, m.keys.id? key = some id →
        ∃ record, (s.observedAdapter m).read key s.store = .ok record) ∧
      t.store = s.store ∧
      ∀ x ∈ t.indicesOf m, (x.content.Represents fun id =>
          ((listed.filterMap (m.storedItem? (s.observedAdapter m) s.store)).reverse.lookup id).map
            (m.indexedValue x.definition)) ∧
        x.content.size = (listed.filterMap m.keys.id?).dedup.length := by
  unfold reindex at done
  dsimp only at done
  have asked : (s.observedAdapter m).keys m.keys.base (s.clearIndices m).store = .ok listed :=
    answer
  rw [asked] at done
  obtain ⟨counted, given, named, entered⟩ := indexKeys_ok done
  rw [enter_clearIndices] at entered
  refine ⟨by rw [counted, Nat.zero_add], given, by rw [entered]; rfl, fun x hx => ?_⟩
  rw [entered, indicesOf_setIndices, if_pos rfl] at hx
  obtain ⟨y, -, rfl⟩ := List.mem_map.1 hx
  refine ⟨y.represents_refilled m _, ?_⟩
  rw [y.size_refilled m, named]

end Session

/-! ## Loading -/

/-- No code refuses that an item of the model is loaded. -/
def Model.AdmitsLoading (m : Model σ W) : Prop :=
  ∀ (i : Item σ W) (e : LifecycleEvent) (notes : σ), i.model = m →
    e = .beforeLoad ∨ e = .afterLoad → (i.respond e notes).1 = .ok ()

/-- An item can be loaded within a session. -/
def Session.Loads (s : Session σ W) (i : Item σ W) : Prop :=
  (ItemRun.load.run.run (i, s)).1 = .ok ()

theorem Item.rewritten_respond (i : Item σ W) (e : LifecycleEvent) (notes : σ) :
    i.Rewritten (i.respond e notes).2.1 := by
  unfold respond
  split
  · exact i.rewritten_runScript _ notes
  · exact .refl

/-- If no code refuses it, a new item can be loaded if there is a record under its key. -/
theorem Session.loads_create_iff {m : Model σ W} (admits : m.AdmitsLoading) (s : Session σ W)
    (id : Uuid) (own : Option (Adapter W)) (policy : Option UnsavedPolicy) :
    s.Loads (.create m (some id) own policy) ↔
      ∃ record, (own.getD m.adapter).read (m.keys.key id) s.store = .ok record := by
  have asked {j : Item σ W} (same : (Item.create m (some id) own policy).Rewritten j) :
      j.readUnder id s.store = (own.getD m.adapter).read (m.keys.key id) s.store := by
    rw [Item.readUnder, same.adapter_eq, same.model_eq]
    rfl
  have tried : ∃ j steps, Attempt (.create m (some id) own policy) id s.notes s.store
      (ItemRun.load.run.run (Item.create m (some id) own policy, s)).1 j steps := by
    obtain ⟨j, steps, attempt, -⟩ :=
      ItemRun.ends_load_attempt (i := .create m (some id) own policy) rfl ⟨rfl, nofun⟩ rfl s
    exact ⟨j, steps, attempt⟩
  unfold Loads
  obtain ⟨k, steps, attempt⟩ := tried
  generalize (ItemRun.load.run.run (Item.create m (some id) own policy, s)).1 = r at attempt ⊢
  cases attempt with
  | prevented before =>
    have passed := admits (.create m (some id) own policy) .beforeLoad s.notes rfl (.inl rfl)
    rw [before] at passed
    exact nomatch passed
  | refused before answer =>
    have written := Item.rewritten_respond (.create m (some id) own policy) .beforeLoad s.notes
    rw [before] at written
    rw [asked written] at answer
    simp [answer]
  | @adopted j _ notes _ record _ before answer after =>
    have written := Item.rewritten_respond (.create m (some id) own policy) .beforeLoad s.notes
    rw [before] at written
    rw [asked written] at answer
    have passed := admits (j.adopt record) .afterLoad notes written.model_eq (.inr rfl)
    rw [after] at passed
    exact iff_of_true passed ⟨record, answer⟩

/-! ## Proper keys -/

namespace Adapter.Lists

variable {a : Adapter W} {w : W} {base name : String} {listed : List String}

/-- If there is a record under the own key of an item of which another key is listed, then this key
is listed, too, and read as that of the item. -/
theorem key_mem (lists : a.Lists (KeyTemplate.forModel base name).base w listed)
    (named : isIdentifier name = true) {key : String} {id : Uuid} {record : Record}
    (found : key ∈ listed) (read : (KeyTemplate.forModel base name).id? key = some id)
    (there : a.read ((KeyTemplate.forModel base name).key id) w = .ok record) :
    (KeyTemplate.forModel base name).key id ∈ listed ∧
      (KeyTemplate.forModel base name).id? ((KeyTemplate.forModel base name).key id) = some id := by
  by_cases marked : KeyTemplate.mark <:+: base.toList
  · -- What is listed is below the base, where no key is read.
    have apart := KeyTemplate.isBelow_of_id?_marked marked read
    exact nomatch (lists.below key found).symm.trans apart
  · exact ⟨lists.complete _ record (KeyTemplate.isBelow_key marked named id) there,
      KeyTemplate.id?_key marked named id⟩

/-- The listed keys that are read as those of items are those of different items, each of which has
its record under its own key, if and only if they are all in the proper form. -/
theorem proper_iff (lists : a.Lists (KeyTemplate.forModel base name).base w listed)
    (named : isIdentifier name = true)
    (given : ∀ key ∈ listed, ∀ id, (KeyTemplate.forModel base name).id? key = some id →
      ∃ record, a.read key w = .ok record) :
    ((listed.filterMap (KeyTemplate.forModel base name).id?).Nodup ∧
      ∀ id ∈ listed.filterMap (KeyTemplate.forModel base name).id?,
        ∃ record, a.read ((KeyTemplate.forModel base name).key id) w = .ok record) ↔
      ∀ key ∈ listed, ((KeyTemplate.forModel base name).id? key).isSome = true →
        (KeyTemplate.forModel base name).IsProper key := by
  constructor
  · rintro ⟨distinct, loadable⟩ key found item
    obtain ⟨id, read⟩ := Option.isSome_iff_exists.1 item
    obtain ⟨record, there⟩ := loadable id (List.mem_filterMap.2 ⟨key, found, read⟩)
    obtain ⟨found', read'⟩ := lists.key_mem named found read there
    exact (KeyTemplate.key_eq_iff_isProper named read).1
      (List.eq_of_nodup_filterMap distinct found' found read' read)
  · intro proper
    have same : ∀ key ∈ listed, ∀ id, (KeyTemplate.forModel base name).id? key = some id →
        (KeyTemplate.forModel base name).key id = key := fun key found id read =>
      (KeyTemplate.key_eq_iff_isProper named read).2 (proper key found (by rw [read]; rfl))
    refine ⟨List.pairwise_filterMap.2 (lists.nodup.imp_of_mem ?_), fun id counted => ?_⟩
    · rintro key key' found found' apart id read _ read' rfl
      exact apart ((same key found id read).symm.trans (same key' found' id read'))
    · obtain ⟨key, found, read⟩ := List.mem_filterMap.1 counted
      rw [same key found id read]
      exact given key found id read

end Adapter.Lists

/-- Which keys of a compiled model are read as those of items, and what that means for its indices.
A key that is read as that of an item is the own key of the item if it is in the proper form, and
only then. If the indices are built anew from listed keys, as many of them as are read are counted,
and each index holds every item that was read, once, with the record that came last; so the count is
the number of entries if and only if no two keys are read as those of one item. Unless code refuses
it, an item can be loaded, from the store that was read, if there is a record under its own key. No
item is counted twice and all of them can be loaded if and only if all keys that are read are in the
proper form. -/
theorem item_keys_spelled {keyBase : String} {m : Model σ W} (compiled : m.Compiled keyBase) :
    (∀ key id, m.keys.id? key = some id → (m.keys.key id = key ↔ m.keys.IsProper key)) ∧
    ∀ (s t : Session σ W) (listed : List String) (n : Nat),
      (s.observedAdapter m).Lists m.keys.base s.store listed → s.reindex m = (.ok n, t) →
      let ids := listed.filterMap m.keys.id?
      let items := listed.filterMap (m.storedItem? (s.observedAdapter m) s.store)
      n = ids.length ∧
      (∀ x ∈ t.indicesOf m,
        (x.content.Represents fun id =>
          (items.reverse.lookup id).map (m.indexedValue x.definition)) ∧
        x.content.size = ids.dedup.length ∧ (n = x.content.size ↔ ids.Nodup)) ∧
      (m.AdmitsLoading → ∀ own policy, own.getD m.adapter = s.observedAdapter m →
        (∀ id, t.Loads (.create m (some id) own policy) ↔
          ∃ record, (s.observedAdapter m).read (m.keys.key id) s.store = .ok record) ∧
        ((ids.Nodup ∧ ∀ id ∈ ids, t.Loads (.create m (some id) own policy)) ↔
          ∀ key ∈ listed, (m.keys.id? key).isSome = true → m.keys.IsProper key)) := by
  have coherent := compiled.coherent
  constructor
  · intro key id read
    rw [coherent.keys_eq] at read ⊢
    exact KeyTemplate.key_eq_iff_isProper coherent.named read
  · intro s t listed n lists done ids items
    obtain ⟨counted, given, store, held⟩ := Session.reindex_ok lists.answer done
    refine ⟨counted, fun x hx => ?_, fun admits own policy observed => ?_⟩
    · obtain ⟨represents, size⟩ := held x hx
      refine ⟨represents, size, ?_⟩
      rw [counted, size]
      exact List.length_eq_length_dedup_iff
    · have loads (id : Uuid) := t.loads_create_iff admits id own policy
      simp only [observed, store] at loads
      refine ⟨loads, ?_⟩
      simp only [loads]
      rw [coherent.keys_eq] at lists given
      have proper := lists.proper_iff coherent.named given
      rw [← coherent.keys_eq] at proper
      exact proper

/-! Tickets, two of which were put into the store by another program, in capital letters; one of
these is the second record of a ticket. -/

/-- The tickets are kept in memory. -/
def ticketContext : ModelContext Depot :=
  { adapter := Depot.adapter ⟨#[.memory true {}]⟩ 0 }

/-- The model of tickets, which are found by their seat. -/
def ticketModel : Model Unit Depot :=
  (Model.compile ticketContext 1 "Ticket"
    (Draft.property {} "seat" { index := some (.enabled true) })
    (.root ticketContext) none).toOption.get (by decide +kernel)

/-- The key of a ticket in capital letters. -/
def capitalKey : String := "models/Ticket/items/00000000-0000-0000-0000-00000000000B"

/-- The records of the tickets. -/
def ticketRecords : Memory where
  records := .ofList
    [("models/Ticket/items/00000000-0000-0000-0000-00000000000a", .ofList [("seat", .string "1")]),
      ("models/Ticket/items/00000000-0000-0000-0000-00000000000A", .ofList [("seat", .string "2")]),
      (capitalKey, .ofList [("seat", .string "3")])]

/-- Nothing has been done with the tickets yet. -/
def ticketSession : Session Unit Depot :=
  { store := ⟨#[.memory true ticketRecords]⟩, notes := (), identities := .ofNat }

/-- The tickets after their indices have been built anew. -/
def countedTickets : Session Unit Depot := (ticketSession.reindex ticketModel).2

theorem ticketModel_compiled : ticketModel.Compiled "models" :=
  .compile ticketContext 1 "Ticket" _ none (.root ticketContext) (Except.eq_ok_get _ _)

theorem ticketModel_keys : ticketModel.keys = .forModel "models" "Ticket" := by rfl

theorem ticketModel_adapter : ticketModel.adapter = ticketContext.adapter := by rfl

theorem observedAdapter_tickets :
    ticketSession.observedAdapter ticketModel = ticketContext.adapter := by rfl

theorem reindex_tickets : (ticketSession.reindex ticketModel).1 = .ok 3 := by rfl

theorem ticketModel_admitsLoading : ticketModel.AdmitsLoading := by
  intro i e notes model _
  have silent : ticketModel.hook? e = none := by cases e <;> rfl
  rw [Item.respond, model, silent]

/-- There is no record under the own key of the ticket whose key is in capital letters. -/
theorem read_absentTicket :
    ticketContext.adapter.read ((KeyTemplate.forModel "models" "Ticket").key (.ofNat 11))
      ticketSession.store =
        .error (.notFound ((KeyTemplate.forModel "models" "Ticket").key (.ofNat 11))) := by rfl

theorem item_keys_spelled_tickets :
    ticketModel.Compiled "models" ∧
    (∀ x ∈ countedTickets.indicesOf ticketModel, x.content.size = 2) ∧
    countedTickets.Loads (.create ticketModel (some (.ofNat 10)) none none) ∧
    ¬ countedTickets.Loads (.create ticketModel (some (.ofNat 11)) none none) := by
  have lists : (ticketSession.observedAdapter ticketModel).Lists ticketModel.keys.base
      ticketSession.store ticketRecords.records.names := by
    rw [observedAdapter_tickets, ticketModel_keys]
    exact Depot.lists trivial (by decide) (by rfl)
  obtain ⟨-, counts⟩ := item_keys_spelled ticketModel_compiled
  obtain ⟨-, held, loading⟩ := counts ticketSession countedTickets _ 3 lists
    (Prod.ext reindex_tickets rfl)
  obtain ⟨loads, -⟩ := loading ticketModel_admitsLoading none none observedAdapter_tickets.symm
  rw [ticketModel_keys] at held
  rw [observedAdapter_tickets, ticketModel_keys] at loads
  refine ⟨ticketModel_compiled, fun x hx => (held x hx).2.1.trans (by decide +kernel), ?_, ?_⟩
  · exact (loads (.ofNat 10)).2 ⟨.ofList [("seat", .string "1")], by rfl⟩
  · rw [loads, read_absentTicket]
    exact nofun

/-- A key that is read as that of an item need not be its own; three keys are counted, of which two
are read as those of one item; and an item that is in the index cannot be loaded. -/
theorem tickets_miscounted :
    ticketModel.keys.id? capitalKey = some (.ofNat 11) ∧
    ticketModel.keys.key (.ofNat 11) ≠ capitalKey ∧
    (ticketSession.reindex ticketModel).1 = .ok 3 ∧
    (countedTickets.indicesOf ticketModel).map (fun x => x.content.entries) =
      [[(.string "1", .ofNat 10), (.string "3", .ofNat 11)]] ∧
    ¬ countedTickets.Loads (.create ticketModel (some (.ofNat 11)) none none) := by
  have loads := countedTickets.loads_create_iff ticketModel_admitsLoading (.ofNat 11) none none
  have store : countedTickets.store = ticketSession.store := by rfl
  rw [store, Option.getD_none, ticketModel_adapter] at loads
  rw [ticketModel_keys] at loads ⊢
  refine ⟨by decide +kernel, by decide +kernel, reindex_tickets, by decide +kernel, ?_⟩
  rw [loads, read_absentTicket]
  exact nofun

end EntityStore
