import EntityStore.Proofs.Item.Alike
import EntityStore.Proofs.Model
import EntityStore.Proofs.Population

set_option autoImplicit false

/-! # Whether a memory takes bytes does not show

A model that keeps its items in a memory that takes bytes as they are, and the same model over a
memory that takes texts only: whatever they are asked, one request after the other, they give the
same answers, unless code of the model looks. It can: the export of an item in stored form and the
adapter of its model are not the same on both sides (`Model.memories_told_apart`).

`Model.memories_alike` is about all compiled models without such code and all lists of requests. It
also tells what is left in the end: the items, the indices, and the records, of which only the
identifiers differ. -/

namespace EntityStore

variable {σ W : Type}

/-! ## Requests -/

/-- What is answered to a request. -/
inductive Reply
  /-- It is done. -/
  | done
  /-- A value that was read, or that a method gave. -/
  | value (v : Value)
  /-- The constraints that the properties do not meet. -/
  | violations (l : List Violation)
  /-- The items that were found. -/
  | found (ids : List Uuid)
  /-- How many records were indexed. -/
  | count (n : Nat)
  /-- There is no item of the number. -/
  | absent

/-- What the items of a model, and the model itself, can be asked. -/
inductive Request
  /-- An item is made. -/
  | make
  /-- An item is made whose identity is given by a value. -/
  | makeWith (identity : Value)
  /-- A member of the item of a number is read. -/
  | get (n : Nat) (name : String)
  /-- An operation is carried out on the item of a number. -/
  | operate (n : Nat) (op : Operation)
  /-- Items are looked up by an index. -/
  | find (property : String) (c : Comparison) (operands : List Value)
  /-- The indices are built anew from the records. -/
  | reindex

/-- Carry an operation out, and give its result. -/
def Operation.reply : Operation → ItemRun σ W Reply
  | .set name v => do
    ItemRun.setMember name v
    return .done
  | .call name args => return .value (← ItemRun.callMember name args)
  | .validate => return .violations (← ItemRun.validate)
  | .load => do
    ItemRun.load
    return .done
  | .reload => do
    ItemRun.reload
    return .done
  | .save => do
    ItemRun.save
    return .done
  | .remove => do
    ItemRun.remove
    return .done

namespace Population

/-- The answer to a request, and the population after it. -/
def answer (m : Model σ W) (p : Population σ W) :
    Request → Except ModelError Reply × Population σ W
  | .make => (.ok .done, { p with items := p.items ++ [Item.create m none none none] })
  | .makeWith identity =>
    match Item.withIdentity m identity with
    | .ok i => (.ok .done, { p with items := p.items ++ [i] })
    | .error e => (.error e, p)
  | .get n name =>
    match p.items[n]? with
    | none => (.ok .absent, p)
    | some i => ((i.get name).map .value, p)
  | .operate n op =>
    match p.items[n]? with
    | none => (.ok .absent, p)
    | some i =>
      let (r, i, session) := op.reply.run.run (i, p.session)
      (r, { items := p.items.set n i, session })
  | .find property c operands => ((p.session.find m property c operands).map .found, p)
  | .reindex =>
    let (r, session) := p.session.reindex m
    (r.map .count, { p with session })

/-- The answers to requests, one after the other, and the population after them. -/
def answers (m : Model σ W) (p : Population σ W) :
    List Request → List (Except ModelError Reply) × Population σ W
  | [] => ([], p)
  | r :: rest =>
    let (first, p) := p.answer m r
    let (others, p) := p.answers m rest
    (first :: others, p)

end Population

/-! ## Each request is answered alike -/

variable {m : Model σ Memory} {handle other : Nat}

theorem Operation.alike_reply (blind : m.IsBlind) (own : m.adapter = Memory.adapter handle true)
    (pipeline : m.pipeline = .ofSection m.schema.properties) (op : Operation) :
    ItemRun.Alike m (Memory.adapter other false) op.reply op.reply := by
  cases op with
  | set name v => exact ItemRun.alike_bind (ItemRun.alike_setMember blind name v) fun _ =>
      ItemRun.alike_pure _
  | call name args => exact ItemRun.alike_bind (ItemRun.alike_callMember blind name args) fun _ =>
      ItemRun.alike_pure _
  | validate => exact ItemRun.alike_bind (ItemRun.alike_validate blind) fun _ =>
      ItemRun.alike_pure _
  | load => exact ItemRun.alike_bind (ItemRun.alike_load blind own pipeline) fun _ =>
      ItemRun.alike_pure _
  | reload => exact ItemRun.alike_bind (ItemRun.alike_reload blind own pipeline) fun _ =>
      ItemRun.alike_pure _
  | save => exact ItemRun.alike_bind (ItemRun.alike_save blind own) fun _ => ItemRun.alike_pure _
  | remove => exact ItemRun.alike_bind (ItemRun.alike_remove blind own) fun _ =>
      ItemRun.alike_pure _

namespace Session.Twin

variable {s t : Session σ Memory}

/-- The records under the same keys are entered into the indices alike. -/
theorem indexKeys (pipeline : m.pipeline = .ofSection m.schema.properties) (keys : List String)
    (count : Nat) (h : Twin m.pipeline s t) :
    let p := Session.indexKeys m (Memory.adapter handle true) keys count s
    let q := Session.indexKeys (m.upon (Memory.adapter other false)) (Memory.adapter other false)
      keys count t
    q.1 = p.1 ∧ Twin m.pipeline p.2 q.2 := by
  induction keys generalizing count s t with
  | nil => exact ⟨rfl, h⟩
  | cons key rest ih =>
    have same : (m.upon (Memory.adapter other false)).keys.id? key = m.keys.id? key := rfl
    have restores : (m.upon (Memory.adapter other false)).pipeline = m.pipeline := rfl
    unfold Session.indexKeys
    rw [same, restores]
    cases m.keys.id? key with
    | none => exact ih count h
    | some id =>
      have left : (Memory.adapter handle true).read key s.store = s.store.read key := rfl
      have right : (Memory.adapter other false).read key t.store = t.store.read key := rfl
      simp only [left, right]
      obtain ⟨bag, here, there⟩ | ⟨e, here, there⟩ := h.stores.read key
      · rw [here, there]
        -- The same properties are restored from both forms.
        have restored : m.pipeline.deserialize (m.pipeline.serialize false bag) =
            m.pipeline.deserialize (m.pipeline.serialize true bag) := by
          rw [pipeline, Pipeline.deserialize_serialize_binary]
        dsimp only
        rw [restored]
        exact ih (count + 1) (h.mapIndices m _ _)
      · rw [here, there]
        exact ⟨rfl, h⟩

theorem reindex (own : m.adapter = Memory.adapter handle true)
    (pipeline : m.pipeline = .ofSection m.schema.properties) (h : Twin m.pipeline s t) :
    (t.reindex (m.upon (Memory.adapter other false))).1 = (s.reindex m).1 ∧
      Twin m.pipeline (s.reindex m).2 (t.reindex (m.upon (Memory.adapter other false))).2 := by
  have cleared := h.mapIndices m (Memory.adapter other false) fun _ content => content.clear
  have left : s.observedAdapter m = Memory.adapter handle true := by
    rw [observedAdapter, h.unobserved.1, own]
    rfl
  have right : t.observedAdapter (m.upon (Memory.adapter other false)) =
      Memory.adapter other false := by
    rw [observedAdapter, h.unobserved.2]
    rfl
  have listed : (Memory.adapter other false).keys m.keys.base (t.clearIndices
      (m.upon (Memory.adapter other false))).store =
      (Memory.adapter handle true).keys m.keys.base (s.clearIndices m).store :=
    h.stores.keys_eq m.keys.base
  have base : (m.upon (Memory.adapter other false)).keys.base = m.keys.base := rfl
  unfold Session.reindex
  simp only [left, right, base]
  rw [listed]
  cases (Memory.adapter handle true).keys m.keys.base (s.clearIndices m).store with
  | error e => exact ⟨rfl, cleared⟩
  | ok keys => exact indexKeys pipeline keys 0 cleared

end Session.Twin

namespace Population

/-- Two populations that differ in the adapter of the model and the form of the records only. -/
structure Twin (m : Model σ Memory) (a : Adapter Memory) (p q : Population σ Memory) : Prop where
  /-- All items are of the model. -/
  isOf : ∀ i ∈ p.items, i.IsOf m
  /-- The items are the same, but for the adapter. -/
  items_eq : q.items = p.items.map (·.upon a)
  /-- The sessions are the same, but for the records. -/
  sessions : Session.Twin m.pipeline p.session q.session

namespace Twin

variable {p q : Population σ Memory}

/-- An item is added on both sides. -/
theorem add {a : Adapter Memory} (h : Twin m a p q) {i : Item σ Memory} (hi : i.IsOf m) :
    Twin m a { p with items := p.items ++ [i] } { q with items := q.items ++ [i.upon a] } where
  isOf j hj := (List.mem_append.1 hj).elim (h.isOf j) fun new => List.mem_singleton.1 new ▸ hi
  items_eq := by
    rw [h.items_eq, List.map_append, List.map_singleton]
  sessions := h.sessions

theorem answer (blind : m.IsBlind) (own : m.adapter = Memory.adapter handle true)
    (pipeline : m.pipeline = .ofSection m.schema.properties)
    (h : Twin m (Memory.adapter other false) p q) (r : Request) :
    (q.answer (m.upon (Memory.adapter other false)) r).1 = (p.answer m r).1 ∧
      Twin m (Memory.adapter other false) (p.answer m r).2
        (q.answer (m.upon (Memory.adapter other false)) r).2 := by
  have item (n : Nat) : q.items[n]? = p.items[n]?.map (·.upon (Memory.adapter other false)) := by
    rw [h.items_eq, List.getElem?_map]
  cases r with
  | make => exact ⟨rfl, h.add ⟨rfl, rfl⟩⟩
  | makeWith identity =>
    unfold Population.answer Item.withIdentity Item.identify
    dsimp only
    cases identity.identity? with
    | none => exact ⟨rfl, h⟩
    | some id => exact ⟨rfl, h.add ⟨rfl, rfl⟩⟩
  | get n name =>
    simp only [Population.answer, item n]
    cases p.items[n]? with
    | none => exact ⟨rfl, h⟩
    | some i => exact ⟨rfl, h⟩
  | operate n op =>
    simp only [Population.answer, item n]
    cases found : p.items[n]? with
    | none => exact ⟨rfl, h⟩
    | some i =>
      have isOf := h.isOf i (List.mem_of_getElem? found)
      obtain ⟨result, after, changed, sessions⟩ :=
        op.alike_reply blind own pipeline i p.session q.session isOf h.sessions
      refine ⟨result, fun j hj => ?_, ?_, sessions⟩
      · rcases List.mem_or_eq_of_mem_set hj with hj | rfl
        · exact h.isOf j hj
        · exact after
      · have set (j : Item σ Memory) : q.items.set n (j.upon (Memory.adapter other false)) =
            (p.items.set n j).map (·.upon (Memory.adapter other false)) := by
          rw [h.items_eq, List.map_set]
        exact (congrArg (q.items.set n) changed).trans (set _)
  | find property c operands =>
    have result := h.sessions.find_eq m (Memory.adapter other false) property c operands
    exact ⟨congrArg (Except.map Reply.found) result, h⟩
  | reindex =>
    obtain ⟨result, sessions⟩ := h.sessions.reindex own pipeline
    exact ⟨congrArg (Except.map Reply.count) result, h.isOf, h.items_eq, sessions⟩

/-- So all requests are answered alike, one after the other. -/
theorem answers (blind : m.IsBlind) (own : m.adapter = Memory.adapter handle true)
    (pipeline : m.pipeline = .ofSection m.schema.properties)
    (h : Twin m (Memory.adapter other false) p q) (requests : List Request) :
    (q.answers (m.upon (Memory.adapter other false)) requests).1 = (p.answers m requests).1 ∧
      Twin m (Memory.adapter other false) (p.answers m requests).2
        (q.answers (m.upon (Memory.adapter other false)) requests).2 := by
  induction requests generalizing p q with
  | nil => exact ⟨rfl, h⟩
  | cons r rest ih =>
    obtain ⟨first, next⟩ := h.answer blind own pipeline r
    obtain ⟨others, final⟩ := ih next
    exact ⟨congrArg₂ List.cons first others, final⟩

end Twin

end Population

/-! ## Records -/

/-- Two records that differ in their identifiers only: where the one has the bytes of an identifier,
the other one has its text. -/
structure Record.Differ (s : Schema σ) (binary text : Record) : Prop where
  /-- Where there is no property of identifiers, the records are the same. -/
  same : ∀ name, (s.properties.get? name).map Property.type ≠ some .uuid →
    text.get? name = binary.get? name
  /-- A property of identifiers is nothing in both records, or the same identifier. -/
  identity : ∀ name, (s.properties.get? name).map Property.type = some .uuid →
    (binary.get? name = some .null ∧ text.get? name = some .null) ∨
      ∃ id : Uuid, binary.get? name = some (.binary id.toBytes) ∧
        text.get? name = some (.string id.toText)

/-- Only identifiers have two stored forms. -/
theorem ScalarType.serialize_eq {t : ScalarType} (h : t ≠ .uuid) (v : Value) :
    t.serialize false v = t.serialize true v := by
  cases t with
  | uuid => exact absurd rfl h
  | _ => rfl

/-- The two stored forms of the same properties differ in identifiers only. -/
theorem Record.differ_serialize (s : Schema σ) (bag : Properties) :
    Record.Differ s ((Pipeline.ofSection s.properties).serialize true bag)
      ((Pipeline.ofSection s.properties).serialize false bag) := by
  constructor
  · intro name other
    rw [Pipeline.get?_serialize, Pipeline.get?_serialize]
    refine Option.map_congr fun p declared => ScalarType.serialize_eq (fun typed => other ?_) _
    rw [declared, Option.map_some, typed]
  · intro name typed
    rw [Pipeline.get?_serialize, Pipeline.get?_serialize]
    obtain ⟨p, declared, type⟩ := Option.map_eq_some_iff.1 typed
    rw [declared, Option.map_some, Option.map_some, type]
    simp only [ScalarType.serialize]
    cases ((bag.get? name).getD .null).identity? with
    | none => exact .inl ⟨rfl, rfl⟩
    | some id => exact .inr ⟨id, rfl, rfl⟩

/-- Two memories with records under the same keys, which differ in identifiers only. -/
structure Memory.Differ (s : Schema σ) (binary text : Memory) : Prop where
  /-- The keys are the same. -/
  names_eq : text.records.names = binary.records.names
  /-- Under each of them the records differ in identifiers only. -/
  records : ∀ key r, binary.records.get? key = some r →
    ∃ r', text.records.get? key = some r' ∧ Record.Differ s r r'

theorem Memory.Twin.differ {s : Schema σ} {a b : Memory}
    (h : Twin (.ofSection s.properties) a b) : Differ s a b where
  names_eq := h.names_eq
  records key r stored := by
    obtain ⟨known, records⟩ := h
    rw [(records key).1] at stored
    obtain ⟨bag, given, rfl⟩ := Option.map_eq_some_iff.1 stored
    refine ⟨_, ?_, Record.differ_serialize s bag⟩
    rw [(records key).2, given, Option.map_some]

namespace Model

/-- Compiling does not look at the adapter. -/
theorem compile_upon {context : ModelContext W} {handle : Nat} {name : String} {draft : Draft σ}
    {base m : Model σ W} {a : Option (Adapter W)}
    (ok : compile context handle name draft base a = .ok m) (b : Adapter W) :
    compile context handle name draft base (some b) = .ok (m.upon b) := by
  unfold Model.compile at ok ⊢
  dsimp only at ok ⊢
  split at ok
  · next clean =>
    obtain rfl := Except.ok.inj ok
    exact if_pos clean
  · exact absurd ok (by simp)

/-- For every compiled model over a memory that takes bytes as they are, with any code for events,
methods, computed properties and indices, so long as events and methods do not see the adapter, the
same draft compiles to the same model over a memory that takes texts only. From empty memories, and
with the same identities for new items, any number of requests, made of both one after the other,
get the same answers. So do those that come first among them, so the following holds after each of
them: the items are the same, but for the adapter of their model, and so are the entries of all
indices and the notes; and the memories have records under the same keys, of which only identifiers
differ, bytes here and a text there. -/
theorem memories_alike {context : ModelContext Memory} {handle : Nat} {name : String}
    {draft : Draft σ} {base m : Model σ Memory} {binary : Nat} (text : Nat)
    (ok : compile context handle name draft base (some (Memory.adapter binary true)) = .ok m)
    (blind : m.IsBlind) (notes : σ) (identities : Nat → Uuid) (requests : List Request) :
    let other := m.upon (Memory.adapter text false)
    let here := (Population.start {} notes identities).answers m requests
    let there := (Population.start {} notes identities).answers other requests
    compile context handle name draft base (some (Memory.adapter text false)) = .ok other ∧
    there.1 = here.1 ∧
    there.2.items = here.2.items.map (·.upon (Memory.adapter text false)) ∧
    there.2.session.indicesOf other = here.2.session.indicesOf m ∧
    there.2.session.notes = here.2.session.notes ∧
    there.2.session.minted = here.2.session.minted ∧
    Memory.Differ m.schema here.2.session.store there.2.session.store := by
  intro other here there
  have parts := compile_eq_ok ok
  have own : m.adapter = Memory.adapter binary true := by
    obtain ⟨-, -, rfl⟩ := parts
    rfl
  have pipeline : m.pipeline = .ofSection m.schema.properties := by
    obtain ⟨-, -, rfl⟩ := parts
    rfl
  have start : Population.Twin m (Memory.adapter text false) (.start {} notes identities)
      (.start {} notes identities) :=
    ⟨by simp [Population.start], rfl, Session.Twin.start m.pipeline notes identities⟩
  obtain ⟨answers, -, items, sessions⟩ := start.answers blind own pipeline requests
  have stores := sessions.stores
  rw [pipeline] at stores
  exact ⟨compile_upon ok _, answers, items, sessions.indicesOf_eq m _, sessions.notes_eq,
    sessions.minted_eq, stores.differ⟩

/-! A badge has a holder, who is an identifier, with an index on it. It tells who that is, as the
export of the badge has it. -/

/-- Badges are kept in memory. -/
def badgeContext : ModelContext Memory := { adapter := Memory.adapter 1 true }

/-- A badge tells its holder, as the badge is exported in stored form or as it is. -/
def badgeDraft (stored : Bool) : Draft Unit :=
  { properties := [("holder", { typeName := "uuid", index := some (.enabled true) })]
    methods := [("tell", some fun _ => .toObject stored fun object =>
      .done ((object.get? "holder").getD .null))] }

/-- The model of badges. -/
def badgeModel (stored : Bool) : Model Unit Memory :=
  (Model.compile badgeContext 1 "Badge" (badgeDraft stored) (.root badgeContext)
    (some (Memory.adapter 1 true))).toOption.get (by cases stored <;> decide +kernel)

/-- A badge is given to its holder, saved, loaded anew, asked and looked up. -/
def badgeRequests : List Request :=
  let holder : Value := .string "6BA7B810-9DAD-11D1-80B4-00C04FD430C8"
  [.make, .operate 0 (.set "holder" holder), .operate 0 .save, .operate 0 .reload,
    .operate 0 (.call "tell" []), .reindex, .find "holder" .equal [holder]]

/-- The answers where badges are kept as bytes. -/
def badgesInBytes (stored : Bool) : List (Except ModelError Reply) × Population Unit Memory :=
  (Population.start {} () .ofNat).answers (badgeModel stored) badgeRequests

/-- The answers where they are kept as texts. -/
def badgesInTexts (stored : Bool) : List (Except ModelError Reply) × Population Unit Memory :=
  (Population.start {} () .ofNat).answers ((badgeModel stored).upon (Memory.adapter 2 false))
    badgeRequests

/-- The holders in the records of a memory. -/
def badgeHolders (p : Population Unit Memory) : List (Option Value) :=
  p.session.store.records.entries.map fun e => e.2.get? "holder"

/-- The values that were given as answers. -/
def toldValues (answers : List (Except ModelError Reply)) : List Value :=
  answers.filterMap fun answer => match answer with
    | .ok (.value v) => some v
    | _ => none

/-- The export of a badge as it is does not show the adapter. -/
theorem badgeModel_isBlind : (badgeModel false).IsBlind where
  hook e code declared := by
    have silent : (badgeModel false).hook? e = none := by cases e <;> rfl
    rw [silent] at declared
    exact absurd declared (by simp)
  method name code declared args := by
    have entries : (badgeModel false).accessors.entries =
        [("holder", .property (((badgeModel false).schema.properties.get? "holder").getD {})),
          ("tell", .method fun _ => .toObject false fun object =>
            .done ((object.get? "holder").getD .null))] := rfl
    have member : (badgeModel false).accessors.get? name = some (.method code) := by
      unfold Model.method at declared
      split at declared <;> simp_all
    have known := Entries.mem_of_find? member
    rw [entries] at known
    obtain ⟨-, rfl⟩ : name = "tell" ∧ code = _ := by simpa using known
    exact ⟨rfl, fun _ => trivial⟩

/-- The holder of a badge is kept as bytes or as a text, and the answers are the same. -/
theorem memories_alike_badge :
    compile badgeContext 1 "Badge" (badgeDraft false) (.root badgeContext)
        (some (Memory.adapter 1 true)) = .ok (badgeModel false) ∧
      (badgesInTexts false).1 = (badgesInBytes false).1 ∧
      badgeHolders (badgesInBytes false).2 = [some (.binary [0x6b, 0xa7, 0xb8, 0x10, 0x9d, 0xad,
        0x11, 0xd1, 0x80, 0xb4, 0x00, 0xc0, 0x4f, 0xd4, 0x30, 0xc8])] ∧
      badgeHolders (badgesInTexts false).2 =
        [some (.string "6ba7b810-9dad-11d1-80b4-00c04fd430c8")] := by
  have ok : compile badgeContext 1 "Badge" (badgeDraft false) (.root badgeContext)
      (some (Memory.adapter 1 true)) = .ok (badgeModel false) := Except.eq_ok_get _ _
  obtain ⟨-, answers, -⟩ := memories_alike 2 ok badgeModel_isBlind () .ofNat badgeRequests
  exact ⟨ok, answers, by decide +kernel, by decide +kernel⟩

/-- A badge that tells its holder in stored form gives bytes over the one memory and a text over the
other, so code that sees the adapter tells the memories apart. -/
theorem memories_told_apart :
    compile badgeContext 1 "Badge" (badgeDraft true) (.root badgeContext)
        (some (Memory.adapter 1 true)) = .ok (badgeModel true) ∧
      compile badgeContext 1 "Badge" (badgeDraft true) (.root badgeContext)
        (some (Memory.adapter 2 false)) = .ok ((badgeModel true).upon (Memory.adapter 2 false)) ∧
      toldValues (badgesInBytes true).1 = [.binary [0x6b, 0xa7, 0xb8, 0x10, 0x9d, 0xad, 0x11, 0xd1,
        0x80, 0xb4, 0x00, 0xc0, 0x4f, 0xd4, 0x30, 0xc8]] ∧
      toldValues (badgesInTexts true).1 = [.string "6ba7b810-9dad-11d1-80b4-00c04fd430c8"] ∧
      (badgesInTexts true).1 ≠ (badgesInBytes true).1 := by
  have ok : compile badgeContext 1 "Badge" (badgeDraft true) (.root badgeContext)
      (some (Memory.adapter 1 true)) = .ok (badgeModel true) := Except.eq_ok_get _ _
  have bytes : toldValues (badgesInBytes true).1 = [.binary [0x6b, 0xa7, 0xb8, 0x10, 0x9d, 0xad,
      0x11, 0xd1, 0x80, 0xb4, 0x00, 0xc0, 0x4f, 0xd4, 0x30, 0xc8]] := by decide +kernel
  have text : toldValues (badgesInTexts true).1 =
      [.string "6ba7b810-9dad-11d1-80b4-00c04fd430c8"] := by decide +kernel
  refine ⟨ok, compile_upon ok _, bytes, text, fun same => ?_⟩
  rw [same, bytes] at text
  exact absurd text (by simp)

end Model

end EntityStore
