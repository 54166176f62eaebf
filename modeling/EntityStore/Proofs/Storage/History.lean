import EntityStore.Proofs.Storage.Refinement

set_option autoImplicit false

/-! # What a memory holds follows from its history

Keys count by their segments only. Under a key a memory holds the record that was written there
last, unless a key was removed after that whose segments are the first ones of the key, or all of
them. A text with a segment that must not occur is refused, and nothing changes.
`Memory.answers_by_segments` tells so for all histories.

The memory itself knows nothing of segments: it looks for texts that continue another one after a
slash, and keeps the texts sorted. -/

namespace EntityStore

/-! ## Refused keys -/

/-- A text is no key: it is empty, or a segment of it is empty, `.` or `..`. -/
def Key.IsRefused (key : String) : Prop :=
  key = "" ∨ ∃ s ∈ segments key, s = "" ∨ s = "." ∨ s = ".."

theorem Key.isRefused_iff {key : String} : IsRefused key ↔ isValid key = false := by
  have segment (s : String) : (s = "" ∨ s = "." ∨ s = "..") ↔ isSegment s = false := by
    unfold isSegment
    rw [Bool.and_eq_false_iff, Bool.and_eq_false_iff, Bool.not_eq_false', String.isEmpty_iff,
      bne_eq_false_iff_eq, bne_eq_false_iff_eq, or_assoc]
  unfold IsRefused isValid
  simp only [segment, Bool.and_eq_false_iff, Bool.not_eq_false', String.isEmpty_iff,
    List.all_eq_false, Bool.not_eq_true]

theorem Key.not_isRefused_iff {key : String} : ¬ IsRefused key ↔ isValid key = true := by
  rw [isRefused_iff, Bool.not_eq_false]

/-! ## Histories -/

namespace Adapter

/-- No call writes a record under the key, and none removes a key whose segments are first ones of
the key. -/
structure Spare (calls : List Call) (key : String) : Prop where
  /-- Records are written under other keys. -/
  written : ∀ record, .write key record ∉ calls
  /-- Keys that are removed are not above the key. -/
  purged : ∀ base, .purge base ∈ calls → ¬ Key.segments base <+: Key.segments key

/-- The record is the one that calls leave under a key: it was written there, and after that neither
another one was written nor the key or one above it removed. -/
def Leave (calls : List Call) (key : String) (record : Record) : Prop :=
  ∃ before after, calls = before ++ .write key record :: after ∧ Spare after key

variable {call : Call} {rest : List Call} {key : String} {record : Record}

theorem spare_nil (key : String) : Spare [] key := ⟨fun _ => nofun, fun _ => nofun⟩

theorem spare_cons : Spare (call :: rest) key ↔ Spare [call] key ∧ Spare rest key := by
  constructor
  · rintro ⟨written, purged⟩
    refine ⟨⟨fun r h => written r ?_, fun b h => purged b ?_⟩,
      ⟨fun r h => written r ?_, fun b h => purged b ?_⟩⟩
    · exact List.mem_singleton.1 h ▸ List.mem_cons_self
    · exact List.mem_singleton.1 h ▸ List.mem_cons_self
    · exact List.mem_cons_of_mem _ h
    · exact List.mem_cons_of_mem _ h
  · rintro ⟨⟨written, purged⟩, ⟨written', purged'⟩⟩
    refine ⟨fun r h => ?_, fun b h => ?_⟩
    · rcases List.mem_cons.1 h with h | h
      · exact written r (List.mem_singleton.2 h)
      · exact written' r h
    · rcases List.mem_cons.1 h with h | h
      · exact purged b (List.mem_singleton.2 h)
      · exact purged' b h

/-- What calls leave was left by those after the first one, or was written by the first one. -/
theorem leave_cons : Leave (call :: rest) key record ↔
    Leave rest key record ∨ call = .write key record ∧ Spare rest key := by
  constructor
  · rintro ⟨before, after, eq, spare⟩
    cases before with
    | nil =>
      obtain ⟨rfl, rfl⟩ := List.cons.inj eq
      exact .inr ⟨rfl, spare⟩
    | cons first before =>
      obtain ⟨rfl, rfl⟩ := List.cons.inj eq
      exact .inl ⟨before, after, rfl, spare⟩
  · rintro (⟨before, after, rfl, spare⟩ | ⟨rfl, spare⟩)
    · exact ⟨call :: before, after, rfl, spare⟩
    · exact ⟨[], rest, rfl, spare⟩

end Adapter

/-! ## Records in memory -/

namespace Memory

open Adapter

variable {handle : Nat} {binary : Bool} {key : String}

/-- A key that is refused is not above any key. -/
theorem not_prefix_of_isValid_eq_false {base : String} (invalid : Key.isValid base = false)
    (valid : Key.isValid key = true) : ¬ Key.segments base <+: Key.segments key := by
  intro above
  have checked := Key.isValid_iff_segments.1 valid
  rw [Key.isValid_iff_segments.2 fun s hs => checked s (above.subset hs)] at invalid
  exact absurd invalid (by simp)

/-- A call writes a record under a key, removes a key with all below it, or changes nothing and
spares all keys. -/
theorem answer_cases (handle : Nat) (binary : Bool) (m : Memory) (call : Call) :
    (∃ key record, call = .write key record ∧ Key.isValid key = true ∧
      ((adapter handle binary).answer m call).2 = ⟨m.records.insert key record⟩) ∨
    (∃ base, call = .purge base ∧ Key.isValid base = true ∧
      ((adapter handle binary).answer m call).2 =
        ⟨m.records.filter fun key _ => !Key.isBelow key base⟩) ∨
    (((adapter handle binary).answer m call).2 = m ∧
      ∀ key, Key.isValid key = true → Spare [call] key) := by
  cases call with
  | has _ => exact .inr (.inr ⟨rfl, fun _ _ => ⟨by simp, by simp⟩⟩)
  | read _ => exact .inr (.inr ⟨rfl, fun _ _ => ⟨by simp, by simp⟩⟩)
  | keys _ => exact .inr (.inr ⟨rfl, fun _ _ => ⟨by simp, by simp⟩⟩)
  | write key record =>
    have state : ((adapter handle binary).answer m (.write key record)).2 =
        (m.write key record).2 := rfl
    rw [state]
    cases accepted : Key.isValid key with
    | true => exact .inl ⟨key, record, rfl, accepted, by rw [write_of_isValid accepted]⟩
    | false =>
      refine .inr (.inr ⟨by rw [write_of_isValid_eq_false accepted], fun other valid => ?_⟩)
      have differs : other ≠ key := fun same => by simp [← same, valid] at accepted
      exact ⟨by simp [differs], by simp⟩
  | purge base =>
    have state : ((adapter handle binary).answer m (.purge base)).2 = (m.purge base).2 := rfl
    rw [state]
    cases accepted : Key.isValid base with
    | true => exact .inr (.inl ⟨base, rfl, accepted, by rw [purge_of_isValid accepted]⟩)
    | false =>
      refine .inr (.inr ⟨by rw [purge_of_isValid_eq_false accepted], fun other valid => ?_⟩)
      exact ⟨by simp, by simpa using not_prefix_of_isValid_eq_false accepted valid⟩

/-- After a call there is a record under a key if the call wrote it, or if it was there and the call
spared it. -/
theorem get?_answer (valid : Key.isValid key = true) (m : Memory) (call : Call) (record : Record) :
    ((adapter handle binary).answer m call).2.records.get? key = some record ↔
      call = .write key record ∨ Spare [call] key ∧ m.records.get? key = some record := by
  obtain ⟨other, written, rfl, -, state⟩ | ⟨base, rfl, -, state⟩ | ⟨state, spare⟩ :=
    answer_cases handle binary m call
  · rw [state, Bag.get?_insert, Call.write.injEq]
    by_cases same : key = other
    · subst same
      have occupied : ¬ Spare [.write key written] key :=
        fun spare => spare.written written List.mem_cons_self
      rw [if_pos rfl, Option.some.injEq]
      simp [occupied]
    · have spare : Spare [.write other written] key := ⟨by simp [same], by simp⟩
      simp [same, Ne.symm same, spare]
  · have spare : Spare [.purge base] key ↔ ¬ Key.segments base <+: Key.segments key :=
      ⟨fun h => h.purged base List.mem_cons_self, fun h => ⟨by simp, by simpa using h⟩⟩
    rw [state, Bag.get?_filter, Option.filter_eq_some_iff, spare, ← Key.isBelow_iff_segments]
    simp [and_comm]
  · have unwritten : call ≠ .write key record :=
      fun eq => (spare key valid).written record (List.mem_singleton.2 eq.symm)
    simp [state, unwritten, spare key valid]

/-- After calls there is a record under a key if they left it, or if it was there and they spared
it. -/
theorem get?_answers (valid : Key.isValid key = true) (m : Memory) (calls : List Call)
    (record : Record) :
    ((adapter handle binary).answers m calls).2.records.get? key = some record ↔
      Leave calls key record ∨ Spare calls key ∧ m.records.get? key = some record := by
  induction calls generalizing m with
  | nil => simp [answers, Leave, spare_nil]
  | cons call rest ih =>
    have state : ((adapter handle binary).answers m (call :: rest)).2 =
        ((adapter handle binary).answers ((adapter handle binary).answer m call).2 rest).2 := rfl
    have both : Spare (call :: rest) key ↔ Spare [call] key ∧ Spare rest key := spare_cons
    rw [state, ih, get?_answer valid, leave_cons, both]
    tauto

/-- No call puts a record under a text that is no key. -/
theorem isValid_of_get?_answers (calls : List Call) {m : Memory}
    (keys : ∀ key record, m.records.get? key = some record → Key.isValid key = true) :
    ∀ key record, ((adapter handle binary).answers m calls).2.records.get? key = some record →
      Key.isValid key = true := by
  induction calls generalizing m with
  | nil => exact keys
  | cons call rest ih =>
    refine ih (m := ((adapter handle binary).answer m call).2) fun key record there => ?_
    obtain ⟨other, written, -, valid, state⟩ | ⟨base, -, -, state⟩ | ⟨state, -⟩ :=
      answer_cases handle binary m call
    · rw [state, Bag.get?_insert] at there
      split at there
      · next same => rw [same, valid]
      · exact keys key record there
    · rw [state, Bag.get?_filter, Option.filter_eq_some_iff] at there
      exact keys key record there.1
    · rw [state] at there
      exact keys key record there

/-! ## Answers -/

/-- Nothing is done under a text that is no key. -/
theorem refuses (refused : Key.IsRefused key) (m : Memory) :
    m.has key = .error (.invalidKey key) ∧ m.read key = .error (.invalidKey key) ∧
      (∀ record, m.write key record = (.error (.invalidKey key), m)) ∧
      m.purge key = (.error (.invalidKey key), m) ∧
      (key ≠ "" → m.keys key = .error (.invalidKey key)) := by
  have invalid := Key.isRefused_iff.1 refused
  have check : Storage.checkKey key = .error (.invalidKey key) := by
    unfold Storage.checkKey
    rw [invalid]
    rfl
  refine ⟨?_, ?_, fun record => write_of_isValid_eq_false invalid record m,
    purge_of_isValid_eq_false invalid m, fun filled => ?_⟩
  · unfold has
    rw [check]
    rfl
  · unfold read
    rw [check]
    rfl
  · have checkBase : Storage.checkBase key = .error (.invalidKey key) := by
      unfold Storage.checkBase
      rw [check, if_neg (by simpa using filled)]
    unfold keys
    rw [checkBase]
    rfl

theorem read_of_get?_eq_none (valid : Key.isValid key = true) {m : Memory}
    (missing : m.records.get? key = none) : m.read key = .error (.notFound key) := by
  unfold read
  rw [checkKey_of_isValid valid, missing]
  rfl

/-- The keys under and below a key are those that continue its segments. -/
theorem keys_eq {base : String} (accepted : base = "" ∨ Key.isValid base = true) (m : Memory) :
    ∃ found, m.keys base = .ok found ∧ found.Pairwise (· < ·) ∧ ∀ key, key ∈ found ↔
      (∃ record, m.records.get? key = some record) ∧
        (base = "" ∨ Key.segments base <+: Key.segments key) := by
  have check : Storage.checkBase base = .ok () := by
    unfold Storage.checkBase
    rcases accepted with rfl | valid
    · rfl
    · rw [checkKey_of_isValid valid, ite_self]
  refine ⟨m.records.names.filter fun key => base.isEmpty || Key.isBelow key base, ?_,
    m.records.ascending_names.sublist List.filter_sublist, fun key => ?_⟩
  · unfold keys
    rw [check]
    rfl
  · rw [List.mem_filter, Bag.mem_names, Bool.or_eq_true, String.isEmpty_iff,
      Key.isBelow_iff_segments]

/-- After any calls to an empty memory, texts that are no keys are refused and change nothing. Under
each key stands the record that the calls left there, if they left one, and the keys that are listed
under and below a key are, in ascending order, those with a record whose segments start with its. -/
theorem answers_by_segments (handle : Nat) (binary : Bool) (calls : List Call) :
    let m := ((adapter handle binary).answers {} calls).2
    (∀ key, Key.IsRefused key →
      m.has key = .error (.invalidKey key) ∧ m.read key = .error (.invalidKey key) ∧
        (∀ record, m.write key record = (.error (.invalidKey key), m)) ∧
        m.purge key = (.error (.invalidKey key), m) ∧
        (key ≠ "" → m.keys key = .error (.invalidKey key))) ∧
    (∀ key, ¬ Key.IsRefused key →
      (∀ record, Leave calls key record → m.read key = .ok record ∧ m.has key = .ok true) ∧
        ((∀ record, ¬ Leave calls key record) →
          m.read key = .error (.notFound key) ∧ m.has key = .ok false)) ∧
    ∀ base, base = "" ∨ ¬ Key.IsRefused base →
      ∃ found, m.keys base = .ok found ∧ found.Pairwise (· < ·) ∧ ∀ key, key ∈ found ↔
        ¬ Key.IsRefused key ∧ (∃ record, Leave calls key record) ∧
          (base = "" ∨ Key.segments base <+: Key.segments key) := by
  intro m
  -- The memory is empty at first, so all its records are those that the calls leave.
  have left {key : String} (valid : Key.isValid key = true) (record : Record) :
      m.records.get? key = some record ↔ Leave calls key record := by
    refine (get?_answers valid {} calls record).trans (or_iff_left fun h => ?_)
    exact absurd h.2 (by simp)
  refine ⟨fun key refused => refuses refused m, fun key accepted => ?_, fun base accepted => ?_⟩
  · have valid := Key.not_isRefused_iff.1 accepted
    constructor
    · intro record stays
      have stored := (left valid record).2 stays
      exact ⟨read_of_isValid valid stored, by rw [has_of_isValid valid, Bag.contains, stored]; rfl⟩
    · intro gone
      have missing : m.records.get? key = none :=
        Option.eq_none_iff_forall_ne_some.2 fun record stored =>
          gone record ((left valid record).1 stored)
      exact ⟨read_of_get?_eq_none valid missing,
        by rw [has_of_isValid valid, Bag.contains, missing]; rfl⟩
  · obtain ⟨found, eq, ascending, mem⟩ := keys_eq (accepted.imp_right Key.not_isRefused_iff.1) m
    refine ⟨found, eq, ascending, fun key => (mem key).trans ?_⟩
    constructor
    · rintro ⟨⟨record, stored⟩, under⟩
      have valid :=
        isValid_of_get?_answers calls (fun _ _ h => absurd h (by simp)) key record stored
      exact ⟨Key.not_isRefused_iff.2 valid, ⟨record, (left valid record).1 stored⟩, under⟩
    · rintro ⟨accepted, ⟨record, stays⟩, under⟩
      exact ⟨⟨record, (left (Key.not_isRefused_iff.1 accepted) record).2 stays⟩, under⟩

/-- A text that begins as a key does need not be below it, and what was removed can come back. -/
example : let calls : List Call := [.write "a" .empty, .write "a/b" .empty, .write "ab" .empty,
      .purge "a", .write "a/c" .empty, .purge "a//"]
    (((adapter 0 true).answers {} calls).2.keys "").toOption = some ["a/c", "ab"] := by
  decide +kernel

end Memory

end EntityStore
