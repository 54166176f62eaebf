import EntityStore.Proofs.Item.Outcome

set_option autoImplicit false

/-! # Populations: the items of a model, and what is done with them

A `Population` is any number of items of one model within one session. Items are made, with or
without an identity, also several of one identity, and operations are carried out on them in any
order; an operation that fails leaves the population as it leaves it. What every action keeps holds
after every run (`Population.run_keeps`). -/

namespace EntityStore

variable {σ W : Type}

/-! ## Operations -/

/-- What is done with an item. -/
inductive Operation
  /-- A member is written. -/
  | set (name : String) (v : Value)
  /-- A method is called. -/
  | call (name : String) (args : List Value)
  /-- The properties are checked. -/
  | validate
  /-- The record is loaded. -/
  | load
  /-- The record is loaded anew. -/
  | reload
  /-- The item is saved. -/
  | save
  /-- The record is removed. -/
  | remove

namespace Operation

/-- Carry an operation out; of its result only counts whether it failed. -/
def run : Operation → ItemRun σ W Unit
  | .set name v => ItemRun.setMember name v
  | .call name args => do let _ ← ItemRun.callMember name args
  | .validate => do let _ ← ItemRun.validate
  | .load => ItemRun.load
  | .reload => ItemRun.reload
  | .save => ItemRun.save
  | .remove => ItemRun.remove

/-- How an operation ends. -/
def Outcome (op : Operation) (i : Item σ W) (s : Session σ W) :
    Except ModelError Unit → Item σ W → Session σ W → Prop :=
  match op with
  | .set .. | .call .. => fun _ j t => i.Rewritten j ∧ s.Quiet t
  | .validate => ItemRun.Eventful i s
  | .load => Loading i s
  | .reload => Loading (i.withOutcome none) s
  | .save => Saving i s
  | .remove => Removing i s

theorem ends_code {α : Type} (code : Script σ α) (i : Item σ W) (s : Session σ W) :
    (ItemRun.perform code).Ends (fun _ j t => i.Rewritten j ∧ s.Quiet t) i s := by
  refine ItemRun.ends_mono (ItemRun.ends_perform code i s) ?_
  rintro r j t ⟨-, rfl, rfl⟩
  exact ⟨i.rewritten_runScript code _, .withNotes s _⟩

theorem ends_run (op : Operation) (i : Item σ W) (s : Session σ W) :
    op.run.Ends (op.Outcome i s) i s := by
  cases op with
  | set name v => exact ends_code _ i s
  | call name args =>
    exact ItemRun.ends_bind (ends_code _ i s) (fun _ _ _ h => h) fun _ _ _ h => h
  | validate =>
    exact ItemRun.ends_bind (ItemRun.ends_validate i s) (fun _ _ _ h => h.1) fun _ _ _ h => h.1
  | load => exact ItemRun.ends_load i s
  | reload => exact ItemRun.ends_reload i s
  | save => exact ItemRun.ends_save i s
  | remove => exact ItemRun.ends_remove i s

end Operation

/-- What the steps of operations keep of an item, all operations keep. -/
theorem Operation.Outcome.keeps {op : Operation} {i j : Item σ W} {s t : Session σ W}
    {r : Except ModelError Unit} (h : op.Outcome i s r j t) {P : Item σ W → Prop}
    (kept : Item.Kept P) (hi : P i) : P j := by
  cases op with
  | set name v => exact kept.rewritten hi h.1
  | call name args => exact kept.rewritten hi h.1
  | validate => exact kept.rewritten hi h.1.rewritten
  | load => exact Loading.keeps h kept hi
  | reload =>
    have loading : Loading (i.withOutcome none) s r j t := h
    exact loading.keeps kept (kept.withOutcome none hi)
  | save => exact Saving.keeps h kept hi
  | remove => exact Removing.keeps h kept hi

/-- What the steps of operations keep of a session, all operations keep. -/
theorem Operation.Outcome.keepsSession {op : Operation} {i j : Item σ W} {s t : Session σ W}
    {r : Except ModelError Unit} (h : op.Outcome i s r j t) {P : Item σ W → Prop}
    {K : Session σ W → Prop} (kept : Session.Kept P K) (hi : P i) (hs : K s) : K t := by
  cases op with
  | set name v => exact kept.quiet hs h.2
  | call name args => exact kept.quiet hs h.2
  | validate => exact kept.quiet hs h.2
  | load => exact Loading.keepsSession kept h hs
  | reload =>
    have loading : Loading (i.withOutcome none) s r j t := h
    exact loading.keepsSession kept hs
  | save => exact Saving.keepsSession kept h hi hs
  | remove => exact Removing.keepsSession kept h hi hs

/-! ## Runs -/

/-- Items of a model, and the session in which they are. -/
structure Population (σ W : Type) where
  /-- The items, in the order in which they were made. -/
  items : List (Item σ W) := []
  /-- The session. -/
  session : Session σ W

/-- What is done in a population. -/
inductive Action (W : Type)
  /-- An item is made. -/
  | make (id : Option Uuid) (adapter : Option (Adapter W)) (policy : Option UnsavedPolicy)
  /-- An operation is carried out on the item of a number; nothing happens if there is none. -/
  | operate (n : Nat) (op : Operation)

namespace Population

/-- A population without items; nothing has been done, and all indices are empty. -/
def start (store : W) (notes : σ) (identities : Nat → Uuid) : Population σ W :=
  { session := { store, notes, identities } }

/-- The population after an action. -/
def act (m : Model σ W) (p : Population σ W) : Action W → Population σ W
  | .make id adapter policy => { p with items := p.items ++ [Item.create m id adapter policy] }
  | .operate n op =>
    match p.items[n]? with
    | none => p
    | some i =>
      let (_, i, session) := op.run.run.run (i, p.session)
      { items := p.items.set n i, session }

/-- The population after actions. -/
def run (m : Model σ W) (p : Population σ W) (actions : List (Action W)) : Population σ W :=
  actions.foldl (act m) p

/-- What every action of a run keeps under a condition on the population before it, the run
keeps. -/
theorem run_keeps_while {m : Model σ W} {C K : Population σ W → Prop} {actions : List (Action W)}
    (step : ∀ p, ∀ a ∈ actions, C p → K p → K (p.act m a)) {p : Population σ W}
    (during : ∀ l, l <+: actions → C (p.run m l)) (h : K p) : K (p.run m actions) := by
  induction actions generalizing p with
  | nil => exact h
  | cons a actions ih =>
    refine ih (fun q b hb => step q b (List.mem_cons_of_mem a hb)) ?_ ?_
    -- The condition after the first action is that on the run that begins with it.
    · exact fun l hl => during (a :: l) (List.cons_prefix_cons.2 ⟨rfl, hl⟩)
    · exact step p a List.mem_cons_self (during [] List.nil_prefix) h

/-- What every action keeps, every run keeps. -/
theorem run_keeps {m : Model σ W} {K : Population σ W → Prop}
    (step : ∀ p a, K p → K (p.act m a)) {p : Population σ W} (h : K p)
    (actions : List (Action W)) : K (p.run m actions) :=
  run_keeps_while (C := fun _ => True) (fun p a _ _ => step p a) (fun _ _ => trivial) h

/-- An action makes an item, or an operation ends on one of the items, or nothing happens. -/
theorem act_cases (m : Model σ W) (p : Population σ W) (a : Action W) :
    (∃ id adapter policy, a = .make id adapter policy ∧
      p.act m a = { p with items := p.items ++ [Item.create m id adapter policy] }) ∨
    (∃ n op i r j t, a = .operate n op ∧ p.items[n]? = some i ∧ op.Outcome i p.session r j t ∧
      p.act m a = { items := p.items.set n j, session := t }) ∨
    p.act m a = p := by
  cases a with
  | make id adapter policy => exact .inl ⟨id, adapter, policy, rfl, rfl⟩
  | operate n op =>
    cases h : p.items[n]? with
    | none => exact .inr (.inr (by simp only [act, h]))
    | some i =>
      refine .inr (.inl ⟨n, op, i, _, _, _, rfl, h, op.ends_run i p.session, ?_⟩)
      simp only [act, h]
      rfl

/-- What operations keep of an item holds of all items after an action, if it holds of the items
before it and of those that are made. -/
theorem forall_items_act {m : Model σ W} {p : Population σ W} {P : Item σ W → Prop}
    (kept : Item.Kept P) (a : Action W)
    (made : ∀ id adapter policy, a = .make id adapter policy → P (.create m id adapter policy))
    (h : ∀ i ∈ p.items, P i) : ∀ i ∈ (p.act m a).items, P i := by
  obtain ⟨id, adapter, policy, make, eq⟩ | ⟨n, op, i, r, j, t, -, item, out, eq⟩ | eq :=
    act_cases m p a
  · rw [eq]
    intro i hi
    rcases List.mem_append.1 hi with hi | hi
    · exact h i hi
    · rw [List.mem_singleton.1 hi]
      exact made id adapter policy make
  · rw [eq]
    intro k hk
    rcases List.mem_or_eq_of_mem_set hk with hk | rfl
    · exact h k hk
    · exact out.keeps kept (h i (List.mem_of_getElem? item))
  · rwa [eq]

/-- What operations keep of a session, actions keep of the session of a population. -/
theorem session_act {m : Model σ W} {p : Population σ W} {P : Item σ W → Prop}
    {K : Session σ W → Prop} (kept : Session.Kept P K) (a : Action W) (h : ∀ i ∈ p.items, P i)
    (hs : K p.session) : K (p.act m a).session := by
  obtain ⟨id, adapter, policy, -, eq⟩ | ⟨n, op, i, r, j, t, -, item, out, eq⟩ | eq :=
    act_cases m p a
  · rw [eq]
    exact hs
  · rw [eq]
    exact out.keepsSession kept (h i (List.mem_of_getElem? item)) hs
  · rwa [eq]

/-- All items of a population have the model for which they were made. -/
def Uniform (m : Model σ W) (p : Population σ W) : Prop := ∀ i ∈ p.items, i.model = m

theorem uniform_act {m : Model σ W} {p : Population σ W} (a : Action W) (h : p.Uniform m) :
    (p.act m a).Uniform m := forall_items_act (Item.kept_model m) a (fun _ _ _ _ => rfl) h

end Population

end EntityStore
