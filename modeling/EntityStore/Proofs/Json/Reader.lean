import EntityStore.Json.Mismatch
import Mathlib.Data.List.TakeWhile

set_option autoImplicit false

/-! # Documents are read back from their texts

Texts and whole numbers are read back whatever follows them. A number ends before a character that
has no place in one (`takeNumber_ends`), so a number that is read back from its text alone is also
read back in front of a comma or a brace. From the parts follows that the members of an object are
read back (`Reader.members_written`). -/

namespace EntityStore.Json

/-! ## Texts -/

theorem takeEscapedCode_hexText {n : Nat} (h : n < 0xD800) (rest : List Char) :
    takeEscapedCode (Uuid.hexText 4 n ++ rest) = some (Char.ofNat n, rest) := by
  have length : (Uuid.hexText 4 n).length = 4 := Uuid.length_hexText 4 n
  have front : (Uuid.hexText 4 n ++ rest).take 4 = Uuid.hexText 4 n := List.take_left' length
  have back : (Uuid.hexText 4 n ++ rest).drop 4 = rest := List.drop_left' length
  have code : takeHex4 (Uuid.hexText 4 n ++ rest) = some (n, rest) := by
    rw [takeHex4, front, if_pos length, back, Uuid.hexValue?_hexText, Nat.mod_eq_of_lt (by omega)]
    rfl
  unfold takeEscapedCode
  rw [code]
  exact if_pos (.inl h)

/-- A character is read back from the way it stands in a quoted text. -/
theorem takeCharsFrom_escapeChar (fuel : Nat) (done : List Char) (c : Char) (rest : List Char) :
    takeCharsFrom (fuel + 1) done (escapeChar c ++ rest) = takeCharsFrom fuel (c :: done) rest := by
  unfold escapeChar
  -- Seven characters have an escape of their own.
  iterate 7
    split
    · next eq =>
      subst eq
      rfl
  split
  · next small =>
    -- The number of the character has two digits, and two zeros stand before them.
    have digits : ['\\', 'u', '0', '0'] ++ Uuid.hexText 2 c.toNat ++ rest =
        '\\' :: 'u' :: (Uuid.hexText 4 c.toNat ++ rest) := by
      have high : c.toNat / 16 / 16 = 0 := by omega
      simp [Uuid.hexText, high]
      decide
    have escape : takeEscape ('u' :: (Uuid.hexText 4 c.toNat ++ rest)) = some (c, rest) := by
      have code := takeEscapedCode_hexText (Nat.lt_trans small (by decide)) rest
      rw [Char.ofNat_toNat] at code
      exact code
    rw [digits, takeCharsFrom, if_neg (by decide), if_pos rfl, escape]
  · next quote backslash _ _ _ _ _ large =>
    rw [List.singleton_append, takeCharsFrom, if_neg quote, if_neg backslash, if_neg large]

theorem length_le_flatMap_escapeChar (s : List Char) :
    s.length ≤ (s.flatMap escapeChar).length := by
  induction s with
  | nil => exact Nat.le_refl 0
  | cons c s ih =>
    have filled : escapeChar c ≠ [] := by
      unfold escapeChar
      repeat' split
      all_goals simp
    have one := List.length_pos_iff.2 filled
    rw [List.flatMap_cons, List.length_append, List.length_cons]
    omega

theorem takeCharsFrom_text {fuel : Nat} {s : List Char} (enough : s.length < fuel)
    (done rest : List Char) : takeCharsFrom fuel done (s.flatMap escapeChar ++ '\x22' :: rest) =
      some (String.ofList (done.reverse ++ s), rest) := by
  induction s generalizing fuel done with
  | nil =>
    obtain ⟨fuel, rfl⟩ := Nat.exists_eq_add_one_of_ne_zero (Nat.ne_of_gt enough)
    rw [List.flatMap_nil, List.nil_append, takeCharsFrom, if_pos rfl, List.append_nil]
  | cons c s ih =>
    obtain ⟨fuel, rfl⟩ := Nat.exists_eq_add_one_of_ne_zero (Nat.ne_zero_of_lt enough)
    rw [List.flatMap_cons, List.append_assoc, takeCharsFrom_escapeChar,
      ih (Nat.lt_of_succ_lt_succ enough), List.reverse_cons, List.append_assoc,
      List.singleton_append]

/-- A text is read back from between its quotation marks. -/
theorem takeChars_text (s : String) (rest : List Char) :
    takeChars (s.toList.flatMap escapeChar ++ '\x22' :: rest) = some (s, rest) := by
  have longer := length_le_flatMap_escapeChar s.toList
  have enough : s.toList.length <
      (s.toList.flatMap escapeChar ++ '\x22' :: rest).length + 1 := by
    rw [List.length_append]
    omega
  rw [takeChars, takeCharsFrom_text enough, List.reverse_nil, List.nil_append, String.ofList_toList]

/-! ## Where numbers end -/

/-- Whether a character has a place in a number. -/
def isNumberPart (c : Char) : Bool := c.isDigit || ['+', '-', '.', 'e', 'E'].contains c

section Ends

variable {c : Char} (other : isNumberPart c = false) (k : List Char)
include other

theorem ne_of_isNumberPart {d : Char} (part : isNumberPart d = true) : c ≠ d := by
  rintro rfl
  rw [other] at part
  exact absurd part (by decide)

theorem split_ends (s : List Char) :
    Digits.split (s ++ c :: k) = Prod.map id (· ++ c :: k) (Digits.split s) := by
  have noDigit : c.isDigit = false := by
    rw [← Bool.not_eq_true]
    intro digit
    exact absurd other (by simp [isNumberPart, digit])
  induction s with
  | nil => simp [Digits.split, noDigit]
  | cons d s ih =>
    simp only [Digits.split, Prod.map, Prod.mk.injEq, id] at ih ⊢
    obtain ⟨front, back⟩ := ih
    cases digit : d.isDigit <;> simp [digit, front, back]

theorem takeSign_ends (s : List Char) :
    Digits.takeSign (s ++ c :: k) = Prod.map id (· ++ c :: k) (Digits.takeSign s) := by
  have minus := ne_of_isNumberPart other (d := '-') (by decide)
  have plus := ne_of_isNumberPart other (d := '+') (by decide)
  cases s with
  | nil => simp [Digits.takeSign, minus, plus]
  | cons d s =>
    rw [List.cons_append]
    by_cases hm : d = '-'
    · subst hm
      rfl
    · by_cases hp : d = '+'
      · subst hp
        rfl
      · simp [Digits.takeSign, hm, hp]

theorem takeExponent_ends (s : List Char) :
    takeExponent (s ++ c :: k) = (takeExponent s).map (Prod.map id (· ++ c :: k)) := by
  unfold takeExponent
  rw [takeSign_ends other]
  simp only [Prod.map, split_ends other, id]
  split <;> rfl

theorem noExponent : ¬ (c = 'e' ∨ c = 'E') := by
  rintro (eq | eq)
  · exact ne_of_isNumberPart other (by decide) eq
  · exact ne_of_isNumberPart other (by decide) eq

theorem takeScaled_ends (negative : Bool) (significand : Nat) (e : Int) (s : List Char) :
    takeScaled negative significand e (s ++ c :: k) =
      (takeScaled negative significand e s).map (Prod.map id (· ++ c :: k)) := by
  cases s with
  | nil =>
    rw [List.nil_append]
    unfold takeScaled
    dsimp only
    rw [if_neg (noExponent other)]
    cases scaled? negative significand e <;> rfl
  | cons d s =>
    rw [List.cons_append]
    unfold takeScaled
    dsimp only
    rw [takeExponent_ends other]
    split
    · cases takeExponent s with
      | none => rfl
      | some r =>
        dsimp only [Option.map_some, Prod.map, id, Option.bind_eq_bind, Option.bind_some]
        cases scaled? negative significand (e + r.1) <;> rfl
    · cases scaled? negative significand e <;> rfl

/-- A number is read off the front of a text as if nothing followed it. -/
theorem takeNumber_ends (negative : Bool) (s : List Char) :
    takeNumber negative (s ++ c :: k) =
      (takeNumber negative s).map (Prod.map id (· ++ c :: k)) := by
  have noPoint : c ≠ '.' := ne_of_isNumberPart other (by decide)
  have noExponent := noExponent other
  unfold takeNumber
  rw [split_ends other]
  dsimp only [Prod.map, id]
  split
  · rfl
  generalize (Digits.split s).2 = rest
  generalize collectDigits 0 (Digits.split s).1 = collected
  obtain ⟨significand, dropped⟩ := collected
  rcases rest with _ | ⟨d, rest⟩
  · -- Nothing but digits stands before the character.
    have scaled := takeScaled_ends other k negative significand dropped []
    rw [List.nil_append] at scaled ⊢
    simp only [← or_assoc, noExponent, false_or]
    split
    · exact scaled
    · rfl
  · rw [List.cons_append]
    by_cases point : d = '.'
    · subst point
      simp only [split_ends other, Prod.map, id]
      split
      · rfl
      · split
        · exact takeScaled_ends other k negative _ _ _
        · exact takeScaled_ends other k negative _ _ _
    · simp only
      split
      · exact takeScaled_ends other k negative significand dropped (d :: rest)
      · rfl

end Ends

/-! ## Whole numbers -/

/-- All digits are collected if their number fits. -/
theorem collectDigits_eq {l : List Char} {n : Nat}
    (fits : Nat.ofDigitChars 10 l n < significandBound) :
    collectDigits n l = (Nat.ofDigitChars 10 l n, 0) := by
  induction l generalizing n with
  | nil => rfl
  | cons c rest ih =>
    rw [Nat.ofDigitChars_cons] at fits ⊢
    have step : n * 10 + (c.toNat - 0x30) = 10 * n + (c.toNat - '0'.toNat) := by
      rw [Nat.mul_comm]
      rfl
    have smaller : 10 * n + (c.toNat - '0'.toNat) < significandBound := by
      rw [Nat.ofDigitChars_eq_ofDigitChars_zero] at fits
      have factor := Nat.le_mul_of_pos_left (10 * n + (c.toNat - '0'.toNat))
        (Nat.pow_pos (n := rest.length) (show 0 < 10 by decide))
      omega
    rw [collectDigits, step, if_pos smaller, ih fits]

/-- Only zero starts with a zero. -/
theorem head?_toDigits {n : Nat} (h : (Nat.toDigits 10 n).head? = some '0') : n = 0 := by
  induction n using Nat.strongRecOn with
  | ind n ih =>
    rcases Nat.lt_or_ge n 10 with small | large
    · rw [Nat.toDigits_of_lt_base small] at h
      exact Nat.digitChar_eq_zero.1 (Option.some.inj h)
    · obtain ⟨c, rest, eq⟩ := List.exists_cons_of_ne_nil
        (Nat.toDigits_ne_nil (n := n / 10) (b := 10))
      rw [Nat.toDigits_of_base_le (by decide) large, eq] at h
      have zero := ih (n / 10) (by omega) (by rw [eq]; exact h)
      omega

theorem takeNumber_toDigits (negative : Bool) {n : Nat} (h : n < significandBound) :
    takeNumber negative (Nat.toDigits 10 n) = some (takeNumber.wholeNumber negative n, []) := by
  have digits : ∀ c ∈ Nat.toDigits 10 n, c.isDigit = true := fun c hc =>
    Nat.isDigit_of_mem_toDigits (by decide) (by decide) hc
  have split : Digits.split (Nat.toDigits 10 n) = (Nat.toDigits 10 n, []) := by
    rw [Digits.split, List.takeWhile_eq_self_iff.2 digits, List.dropWhile_eq_nil_iff.2 digits]
  have wellFormed : ((Nat.toDigits 10 n).isEmpty ||
      (decide ((Nat.toDigits 10 n).head? = some '0') &&
        decide (1 < (Nat.toDigits 10 n).length))) = false := by
    rw [Bool.or_eq_false_iff, List.isEmpty_eq_false_iff, Bool.and_eq_false_imp, decide_eq_true_eq]
    refine ⟨Nat.toDigits_ne_nil, fun zero => ?_⟩
    rw [head?_toDigits zero]
    rfl
  have collected : collectDigits 0 (Nat.toDigits 10 n) = (n, 0) := by
    rw [collectDigits_eq (by rwa [Nat.ofDigitChars_ten_toDigits]), Nat.ofDigitChars_ten_toDigits]
  unfold takeNumber
  rw [split]
  dsimp only
  rw [wellFormed, collected]
  rfl

/-! ## Blanks -/

theorem skipSpace_append_of_nil {blanks : List Char} (h : skipSpace blanks = []) (s : List Char) :
    skipSpace (blanks ++ s) = skipSpace s := by
  unfold skipSpace at h ⊢
  rw [List.dropWhile_append, h]
  rfl

theorem skipSpace_append_of_ne_nil {s : List Char} (h : skipSpace s ≠ []) (k : List Char) :
    skipSpace (s ++ k) = skipSpace s ++ k := by
  unfold skipSpace at h ⊢
  rw [List.dropWhile_append, if_neg (by rwa [List.isEmpty_iff])]

/-! ## Scalars -/

/-- In front of a character that has no place in a number, the document is read back from its text,
whatever depth is left. -/
def ReadsBack (j : Json) : Prop :=
  ∀ depth c k, isNumberPart c = false → ∃ blanks, skipSpace blanks = [] ∧
    take depth (skipSpace (j.write (c :: k))) = some (j, blanks ++ c :: k)

theorem take_scalar {c : Char} (array : c ≠ '[') (object : c ≠ '\x7b') (depth : Nat)
    (s : List Char) : take depth (c :: s) = takeScalar (c :: s) := by
  cases depth with
  | zero => simp [take, array, object]
  | succ depth => simp [take, array, object]

theorem readsBack_null : ReadsBack .null := fun depth c k _ =>
  ⟨[], rfl, take_scalar (by decide) (by decide) depth _⟩

theorem readsBack_bool (b : Bool) : ReadsBack (.bool b) := fun depth c k _ => by
  cases b with
  | true => exact ⟨[], rfl, take_scalar (by decide) (by decide) depth _⟩
  | false => exact ⟨[], rfl, take_scalar (by decide) (by decide) depth _⟩

theorem readsBack_string (s : String) : ReadsBack (.string s) := fun depth c k _ => by
  have text : (Json.string s).write (c :: k) =
      '\x22' :: (s.toList.flatMap escapeChar ++ '\x22' :: c :: k) := by
    simp [write, quoteList]
  refine ⟨[], rfl, ?_⟩
  rw [text]
  refine (take_scalar (by decide) (by decide) depth _).trans ?_
  rw [takeScalar, takeChars_text]
  rfl

theorem takeScalar_of_isDigit {d : Char} (digit : d.isDigit = true) (s : List Char) :
    takeScalar (d :: s) = takeNumber false (d :: s) := by
  unfold takeScalar
  split
  all_goals first
    | rfl
    | next eq =>
      obtain ⟨rfl, -⟩ := List.cons.inj eq
      exact absurd digit (by decide)

theorem readsBack_integer {i : Int} (low : -2 ^ 63 ≤ i) (high : i < 2 ^ 64) :
    ReadsBack (.integer i) := fun depth c k other => by
  refine ⟨[], rfl, ?_⟩
  have read (negative : Bool) : takeNumber negative (Nat.toDigits 10 i.natAbs ++ c :: k) =
      some (takeNumber.wholeNumber negative i.natAbs, c :: k) := by
    have fits : i.natAbs < significandBound := by
      unfold significandBound
      omega
    rw [takeNumber_ends other, takeNumber_toDigits negative fits]
    rfl
  rw [write, integerList]
  split
  · next negative =>
    have number : takeNumber.wholeNumber true i.natAbs = .integer i := by
      rw [takeNumber.wholeNumber, Bool.not_true, if_neg Bool.false_ne_true, if_pos (by omega)]
      congr 1
      omega
    refine (take_scalar (by decide) (by decide) depth _).trans ?_
    exact (read true).trans (by rw [number]; rfl)
  · next positive =>
    have number : takeNumber.wholeNumber false i.natAbs = .integer i := by
      rw [takeNumber.wholeNumber, Bool.not_false, if_pos rfl]
      congr 1
      omega
    have plain := read false
    obtain ⟨d, digits, eq⟩ := List.exists_cons_of_ne_nil
      (Nat.toDigits_ne_nil (n := i.natAbs) (b := 10))
    have digit : d.isDigit = true := Nat.isDigit_of_mem_toDigits (by decide) (by decide)
      (show d ∈ Nat.toDigits 10 i.natAbs from eq ▸ List.mem_cons_self)
    have apart {e : Char} (h : e.isDigit = false) : d ≠ e := fun eq => by
      rw [eq, h] at digit
      exact absurd digit (by decide)
    have noSpace : isSpace d = false := by
      simp [isSpace, apart (e := ' ') rfl, apart (e := '\n') rfl, apart (e := '\t') rfl,
        apart (e := '\r') rfl]
    rw [eq, List.cons_append] at plain ⊢
    rw [skipSpace, List.dropWhile_cons_of_neg (by simp [noSpace]),
      take_scalar (apart rfl) (apart rfl), takeScalar_of_isDigit digit, plain, number]
    rfl

/-! ## Numbers -/

/-- A number is read as a scalar. -/
theorem takeScalar_of_take {depth : Nat} {s rest : List Char} {x : Binary64}
    (h : take depth s = some (.number x, rest)) :
    takeScalar s = some (.number x, rest) ∧ (∀ tail, s ≠ '[' :: tail) ∧
      ∀ tail, s ≠ '\x7b' :: tail := by
  cases depth with
  | zero =>
    unfold take at h
    split at h
    · exact absurd h (by simp)
    · exact absurd h (by simp)
    · next array object => exact ⟨h, array, object⟩
  | succ depth =>
    unfold take at h
    split at h
    · split at h
      · exact absurd h (by simp)
      · simp [Option.bind_eq_some_iff] at h
    · split at h
      · exact absurd h (by simp)
      · simp [Option.bind_eq_some_iff] at h
    · next array object => exact ⟨h, array, object⟩

theorem takeScalar_ends {c : Char} (other : isNumberPart c = false) (k : List Char) {d : Char}
    {s rest : List Char} {x : Binary64} (h : takeScalar (d :: s) = some (.number x, rest)) :
    takeScalar (d :: s ++ c :: k) = some (.number x, rest ++ c :: k) := by
  have word {j : Json} (scalar : ∀ x, j ≠ .number x) {r : Option (List Char)}
      (h : r.map (j, ·) = some (.number x, rest)) : False := by
    obtain ⟨_, -, eq⟩ := Option.map_eq_some_iff.1 h
    exact scalar x (Prod.mk.inj eq).1
  rw [List.cons_append]
  unfold takeScalar at h ⊢
  split at h
  · exact (word (by simp) h).elim
  · exact (word (by simp) h).elim
  · exact (word (by simp) h).elim
  · simp at h
  · next eq =>
    obtain ⟨rfl, rfl⟩ := List.cons.inj eq
    simp only [takeNumber_ends other, h]
    rfl
  · next noN noT noF noQuote noMinus =>
    have number : takeNumber false (d :: (s ++ c :: k)) = some (.number x, rest ++ c :: k) := by
      rw [← List.cons_append, takeNumber_ends other, h]
      rfl
    split
    · next eq => exact (noN s (by rw [(List.cons.inj eq).1])).elim
    · next eq => exact (noT s (by rw [(List.cons.inj eq).1])).elim
    · next eq => exact (noF s (by rw [(List.cons.inj eq).1])).elim
    · next eq => exact (noQuote s (by rw [(List.cons.inj eq).1])).elim
    · next eq => exact (noMinus s (by rw [(List.cons.inj eq).1])).elim
    · exact number

/-- A number that is read back from its text alone is read back in front of other text. -/
theorem readsBack_number {x : Binary64}
    (alone : ofText? (number x).compact = some (.number x)) : ReadsBack (.number x) := by
  intro depth c k other
  have text (k : List Char) : (number x).write k = (number x).write [] ++ k := by simp [write]
  rw [compact, ofText?, String.toList_ofList] at alone
  rw [text]
  generalize (number x).write [] = s at alone
  obtain ⟨⟨j, rest⟩, read, ends⟩ := Option.bind_eq_some_iff.1 alone
  obtain ⟨blank, eq⟩ := Option.ite_none_right_eq_some.1 ends
  obtain rfl := Option.some.inj eq
  obtain ⟨scalar, array, object⟩ := takeScalar_of_take read
  cases front : skipSpace s with
  | nil =>
    have nothing : takeScalar [] = none := rfl
    rw [front, nothing] at scalar
    exact absurd scalar (by simp)
  | cons d tail =>
    rw [skipSpace_append_of_ne_nil (by rw [front]; simp), front]
    rw [front] at scalar array object
    have noArray : d ≠ '[' := fun eq => array tail (by rw [eq])
    have noObject : d ≠ '\x7b' := fun eq => object tail (by rw [eq])
    refine ⟨rest, List.isEmpty_iff.1 blank, ?_⟩
    rw [List.cons_append, take_scalar noArray noObject, ← List.cons_append]
    exact takeScalar_ends other k scalar

/-! ## Objects -/

mutual

theorem length_le_write : ∀ (j : Json) (k : List Char), k.length ≤ (j.write k).length
  | .null, k | .bool true, k | .bool false, k | .array [], k | .object [], k => by
    simp only [write, List.length_cons]
    omega
  | .integer i, k => by
    rw [write, List.length_append]
    omega
  | .number x, k => by
    rw [write, List.length_append]
    omega
  | .string s, k => by
    rw [write, List.length_append]
    omega
  | .array (item :: items), k => by
    have front := length_le_write item (writeItems items (']' :: k))
    have others := length_le_writeItems items (']' :: k)
    rw [write]
    simp only [List.length_cons] at others ⊢
    omega
  | .object ((name, value) :: members), k => by
    have front := length_le_write value (writeMembers members ('\x7d' :: k))
    have others := length_le_writeMembers members ('\x7d' :: k)
    rw [write]
    simp only [List.length_cons, List.length_append] at others ⊢
    omega

theorem length_le_writeItems : ∀ (l : List Json) (k : List Char),
    l.length + k.length ≤ (writeItems l k).length
  | [], k => by
    rw [writeItems, List.length_nil]
    omega
  | item :: items, k => by
    have front := length_le_write item (writeItems items k)
    have others := length_le_writeItems items k
    rw [writeItems]
    simp only [List.length_cons]
    omega

/-- Each member takes some room. -/
theorem length_le_writeMembers : ∀ (l : List (String × Json)) (k : List Char),
    l.length + k.length ≤ (writeMembers l k).length
  | [], k => by
    rw [writeMembers, List.length_nil]
    omega
  | (name, value) :: members, k => by
    have front := length_le_write value (writeMembers members k)
    have others := length_le_writeMembers members k
    rw [writeMembers]
    simp only [List.length_cons, List.length_append]
    omega

end

namespace Reader

variable {α : Type} {member : String → α → Reader α}

/-- A reader of members adds a member to the state whatever member follows it, or if none does. -/
def AddsMember (member : String → α → Reader α) (e : String × Json) (add : α → α) : Prop :=
  ∀ state c k, isNumberPart c = false → ∃ blanks, skipSpace blanks = [] ∧
    member e.1 state (skipSpace (e.2.write (c :: k))) = .ok (add state, blanks ++ c :: k)

/-- Members are read up to the closing brace. -/
theorem members_blanks {blanks : List Char} (h : skipSpace blanks = []) (fuel : Nat) (first : Bool)
    (state : α) (s : List Char) :
    members member fuel first state (blanks ++ s) = members member fuel first state s := by
  cases fuel with
  | zero => rfl
  | succ fuel => rw [members, skipSpace_append_of_nil h, members]

/-- The text of a member, in front of a text. -/
def memberText (e : String × Json) (k : List Char) : List Char :=
  quoteList e.1 ++ ':' :: e.2.write k

theorem memberText_eq (e : String × Json) (k : List Char) : memberText e k =
    '\x22' :: (e.1.toList.flatMap escapeChar ++ '\x22' :: ':' :: e.2.write k) := by
  simp [memberText, quoteList]

/-- One member is read; before it there is a comma, unless it is the first. -/
theorem members_cons {e : String × Json} {add : α → α} (adds : AddsMember member e add)
    (fuel : Nat) (first : Bool) (state : α) {c : Char} (other : isNumberPart c = false)
    (k : List Char) :
    members member (fuel + 1) first state ((if first then [] else [',']) ++ memberText e (c :: k)) =
      members member fuel false (add state) (c :: k) := by
  obtain ⟨blanks, blank, value⟩ := adds state c k other
  have after : colon (':' :: e.2.write (c :: k)) = .ok (skipSpace (e.2.write (c :: k))) := rfl
  have text := memberText_eq e (c :: k)
  -- The name is read, then the colon, then the value.
  have body : (orMalformed (takeChars
        (e.1.toList.flatMap escapeChar ++ '\x22' :: ':' :: e.2.write (c :: k)))).bind (fun named =>
      (colon named.2).bind fun rest => (member named.1 state rest).bind fun added =>
        members member fuel false added.1 added.2) =
      members member fuel false (add state) (c :: k) := by
    simp only [takeChars_text, orMalformed, after, value, Except.bind]
    exact members_blanks blank fuel false (add state) (c :: k)
  rw [members, text]
  cases first with
  | true => exact body
  | false => exact body

/-- What follows a member starts with a comma or a brace. -/
theorem exists_writeMembers (l : List (String × Json)) (k : List Char) :
    ∃ c rest, writeMembers l ('\x7d' :: k) = c :: rest ∧ isNumberPart c = false := by
  cases l with
  | nil => exact ⟨_, _, rfl, by decide⟩
  | cons e l => exact ⟨_, _, rfl, by decide⟩

/-- All members are read, one after the other. -/
theorem members_written {add : String × Json → α → α} {l : List (String × Json)}
    (adds : ∀ e ∈ l, AddsMember member e (add e)) {fuel : Nat} (enough : l.length < fuel)
    (state : α) (k : List Char) :
    members member fuel false state (writeMembers l ('\x7d' :: k)) =
      .ok (l.foldl (fun state e => add e state) state, k) := by
  induction l generalizing fuel state with
  | nil =>
    obtain ⟨fuel, rfl⟩ := Nat.exists_eq_add_one_of_ne_zero (Nat.ne_of_gt enough)
    rfl
  | cons e l ih =>
    obtain ⟨fuel, rfl⟩ := Nat.exists_eq_add_one_of_ne_zero (Nat.ne_zero_of_lt enough)
    obtain ⟨first, adds⟩ := List.forall_mem_cons.1 adds
    obtain ⟨c, rest, next, other⟩ := exists_writeMembers l k
    have others := ih adds (Nat.lt_of_succ_lt_succ enough) (add e state)
    rw [next] at others
    rw [writeMembers, next, List.foldl_cons, ← others]
    exact members_cons first fuel false state other rest

/-- An object is read from behind its opening brace. -/
theorem object_written {add : String × Json → α → α} {l : List (String × Json)}
    (adds : ∀ e ∈ l, AddsMember member e (add e)) (state : α) (k : List Char) :
    ∃ body, (Json.object l).write k = '\x7b' :: body ∧
      object member state body = .ok (l.foldl (fun state e => add e state) state, k) := by
  cases l with
  | nil => exact ⟨_, rfl, rfl⟩
  | cons e l =>
    obtain ⟨first, others⟩ := List.forall_mem_cons.1 adds
    obtain ⟨c, rest, next, other⟩ := exists_writeMembers l k
    refine ⟨memberText e (c :: rest), by rw [← next]; rfl, ?_⟩
    have enough : l.length < (memberText e (c :: rest)).length := by
      have longer := length_le_writeMembers l ('\x7d' :: k)
      have value := length_le_write e.2 (c :: rest)
      rw [next] at longer
      rw [memberText_eq]
      simp only [List.length_cons, List.length_append] at longer value ⊢
      omega
    rw [object, List.foldl_cons, ← members_written others enough (add e state) k, next]
    exact members_cons first _ true state other rest

end Reader

end EntityStore.Json
