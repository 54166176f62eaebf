import EntityStore.Number.Power
import EntityStore.Text.CodeSet

set_option autoImplicit false

/-! # Universally unique identifiers

A `Uuid` is a number of 128 bits. Its text is 32 lower-case hexadecimal digits in groups of 8, 4,
4, 4 and 12 with hyphens between them. Reading is more generous (`ofText?`): digits of any case,
with or without the hyphens, and the form with hyphens also in braces or after `urn:uuid:`. -/

namespace EntityStore

/-- A universally unique identifier, as a number of 128 bits. -/
structure Uuid where
  /-- The bits, the first one being the highest. -/
  number : Nat
  isLt : number < 2 ^ 128
deriving DecidableEq

namespace Uuid

/-- The identifier of the low 128 bits of a number. -/
def ofNat (n : Nat) : Uuid := ⟨n % 2 ^ 128, Nat.mod_lt _ (by decide)⟩

/-- The order of the numbers, which is also that of the bytes and of the texts. -/
def order (a b : Uuid) : Ordering := compare a.number b.number

/-- A random identifier (version 4) from 122 free bits. -/
def ofRandomBits (n : Nat) : Uuid :=
  ofNat (n / 2 ^ 74 % 2 ^ 48 * 2 ^ 80 + 4 * 2 ^ 76 + n / 2 ^ 62 % 2 ^ 12 * 2 ^ 64 + 2 * 2 ^ 62 +
    n % 2 ^ 62)

/-- The version that the identifier carries. -/
def version (u : Uuid) : Nat := u.number / 2 ^ 76 % 16

/-! ## Digits of a fixed width -/

/-- The lower-case hexadecimal digit of a number below 16. -/
def hexChar (d : Nat) : Char := if d < 10 then Char.ofNat (0x30 + d) else Char.ofNat (0x57 + d)

/-- The last `width` hexadecimal digits of a number. -/
def hexText : Nat → Nat → List Char
  | 0, _ => []
  | width + 1, n => hexText width (n / 16) ++ [hexChar (n % 16)]

/-- The number that hexadecimal digits of any case stand for. -/
def hexValue? (s : List Char) : Option Nat :=
  s.foldlM (fun n c => (CodeSet.hexDigit? c).map (n * 16 + ·)) 0

theorem hexDigit?_hexChar {d : Nat} (h : d < 16) : CodeSet.hexDigit? (hexChar d) = some d := by
  revert h d
  decide

theorem length_hexText (width n : Nat) : (hexText width n).length = width := by
  induction width generalizing n with
  | zero => rfl
  | succ w ih => simp [hexText, ih]

theorem hexValue?_hexText (width n : Nat) :
    hexValue? (hexText width n) = some (n % 16 ^ width) := by
  induction width generalizing n with
  | zero => simp [hexText, hexValue?, Nat.mod_one]
  | succ w ih =>
    have step : n / 16 % 16 ^ w * 16 + n % 16 = n % 16 ^ (w + 1) := by
      rw [Nat.pow_succ', Nat.mod_mul, Nat.mul_comm, Nat.add_comm]
    simp only [hexValue?] at ih
    simp [hexText, hexValue?, List.foldlM_append, ih,
      hexDigit?_hexChar (Nat.mod_lt n (by decide : 0 < 16)), step]

/-! ## Text -/

/-- The 32 digits. -/
def digits (u : Uuid) : List Char := hexText 32 u.number

/-- Put hyphens between 32 digits. -/
def hyphenate (s : List Char) : List Char :=
  s.take 8 ++ '-' :: (s.drop 8).take 4 ++ '-' :: (s.drop 12).take 4 ++ '-' :: (s.drop 16).take 4 ++
    '-' :: s.drop 20

/-- The text of an identifier. -/
def toText (u : Uuid) : String := String.ofList (hyphenate u.digits)

/-- Whether a text of 36 characters has hyphens where the text of an identifier has them. -/
def isHyphenated (s : List Char) : Bool :=
  s.length == 36 && s[8]? == some '-' && s[13]? == some '-' && s[18]? == some '-' &&
    s[23]? == some '-'

/-- Take the hyphens out of a text of 36 characters. -/
def unhyphenate (s : List Char) : List Char :=
  s.take 8 ++ (s.drop 9).take 4 ++ (s.drop 14).take 4 ++ (s.drop 19).take 4 ++ s.drop 24

/-- Read 32 digits. -/
def ofDigits? (s : List Char) : Option Uuid :=
  if s.length = 32 then (hexValue? s).map ofNat else none

/-- Read 32 digits with hyphens between the groups. -/
def ofHyphenated? (s : List Char) : Option Uuid :=
  if isHyphenated s then ofDigits? (unhyphenate s) else none

/-- What stands between braces, if a text has them. -/
def inBraces? (s : List Char) : Option (List Char) :=
  if s.head? = some '\x7b' ∧ s.getLast? = some '\x7d' then some (s.tail.dropLast) else none

/-- What stands after `urn:uuid:`, in letters of any case, if a text starts with it. -/
def afterUrn? (s : List Char) : Option (List Char) :=
  if (s.take 9).map Char.toLower = ['u', 'r', 'n', ':', 'u', 'u', 'i', 'd', ':'] then
    some (s.drop 9)
  else none

/-- Read an identifier in one of its written forms. -/
def ofText? (text : String) : Option Uuid :=
  let s := text.toList
  ofDigits? s <|> ofHyphenated? s <|> (inBraces? s).bind ofHyphenated? <|>
    (afterUrn? s).bind ofHyphenated?

/-- Whether a text has the shape of the text of an identifier, in any case of the letters. -/
def isCanonicalText (text : String) : Bool :=
  let s := text.toList
  isHyphenated s && (unhyphenate s).all fun c => (CodeSet.hexDigit? c).isSome

/-! ## Bytes -/

/-- The last `width` bytes of a number, the highest first. -/
def byteList : Nat → Nat → List UInt8
  | 0, _ => []
  | width + 1, n => byteList width (n / 256) ++ [UInt8.ofNat (n % 256)]

/-- The number of bytes of which the first is the highest. -/
def byteValue (bytes : List UInt8) : Nat := bytes.foldl (fun n b => n * 256 + b.toNat) 0

/-- The 16 bytes. -/
def toBytes (u : Uuid) : List UInt8 := byteList 16 u.number

/-- The identifier of 16 bytes. -/
def ofBytes? (bytes : List UInt8) : Option Uuid :=
  if bytes.length = 16 then some (ofNat (byteValue bytes)) else none

theorem byteValue_byteList (width n : Nat) : byteValue (byteList width n) = n % 256 ^ width := by
  induction width generalizing n with
  | zero => simp [byteList, byteValue, Nat.mod_one]
  | succ w ih =>
    have step : n / 256 % 256 ^ w * 256 + n % 256 = n % 256 ^ (w + 1) := by
      rw [Nat.pow_succ', Nat.mod_mul, Nat.mul_comm, Nat.add_comm]
    simp only [byteValue] at ih
    simp [byteList, byteValue, List.foldl_append, ih, step]

theorem length_byteList (width n : Nat) : (byteList width n).length = width := by
  induction width generalizing n with
  | zero => rfl
  | succ w ih => simp [byteList, ih]

theorem ofNat_eq {u : Uuid} {n : Nat} (h : n % 2 ^ 128 = u.number) : ofNat n = u := by
  obtain ⟨number, isLt⟩ := u
  subst h
  rfl

/-- Reading the bytes of an identifier gives it back. -/
theorem ofBytes?_toBytes (u : Uuid) : ofBytes? u.toBytes = some u := by
  have value : byteValue u.toBytes % 2 ^ 128 = u.number := by
    have bound : 256 ^ 16 = 2 ^ 128 := by decide
    rw [toBytes, byteValue_byteList, bound, Nat.mod_mod, Nat.mod_eq_of_lt u.isLt]
  have length : u.toBytes.length = 16 := length_byteList 16 u.number
  rw [ofBytes?, if_pos length]
  exact congrArg some (ofNat_eq value)

end Uuid

end EntityStore
