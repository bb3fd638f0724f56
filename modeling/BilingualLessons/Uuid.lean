import BilingualLessons.Record.Decode

namespace BilingualLessons

/-!
# Universally unique identifiers

* `Uuid` — 128 bits.
* `Uuid.text` — the 32 digits in lower case, in groups of 8, 4, 4, 4 and 12.
* `Uuid.parse` — an identifier from its digits, grouped or not.
* `Uuid.random` — an identifier of version 4 from 128 random bits.
-/

/-- An identifier of 128 bits. -/
structure Uuid where
  bits : BitVec 128
deriving DecidableEq, Repr

/-- Why a text is not an identifier. Places and groups are counted from zero. -/
inductive UuidFault where
  /-- A character that is neither a digit nor a hyphen, and where it stands. -/
  | character (c : Char) (index : Nat)
  | length (found : Nat)
  | groupCount (found : Nat)
  | groupLength (group expected found : Nat)
deriving DecidableEq, Repr

/-- The words for a fault. -/
def UuidFault.message : UuidFault → String
  | .character c index =>
    "invalid character: found " ++ Record.ticked (String.singleton c) ++ s!" at {index}"
  | .length found => s!"invalid length: found {found}"
  | .groupCount found => s!"invalid group count: expected 5, found {found}"
  | .groupLength group expected found =>
    s!"invalid group length in group {group}: expected {expected}, found {found}"

namespace Uuid

/-- The lengths of the groups of digits. -/
def groupLengths : List Nat := [8, 4, 4, 4, 12]

/-- The value of a hexadecimal digit. -/
def digit? (c : Char) : Option Nat :=
  if c.isDigit then some (c.toNat - '0'.toNat)
  else if 'a' ≤ c ∧ c ≤ 'f' then some (c.toNat - 'a'.toNat + 10)
  else if 'A' ≤ c ∧ c ≤ 'F' then some (c.toNat - 'A'.toNat + 10)
  else none

/-- The identifier of 32 digits. -/
def ofDigits (digits : List Char) : Uuid :=
  ⟨BitVec.ofNat 128 (digits.foldl (fun n c => 16 * n + (digit? c).getD 0) 0)⟩

/-! ### Reading -/

/-- What stands in front of an identifier that is written as a resource name, in any case. -/
def resourcePrefix : List Char := "urn:uuid:".toList

/-- What may stand around the groups of an identifier. -/
inductive Frame where
  | bare
  | braces
  | resource
deriving DecidableEq, Repr

/-- The number of characters of a frame before the groups. -/
def Frame.width : Frame → Nat
  | .bare => 0
  | .braces => 1
  | .resource => resourcePrefix.length

/-- The number of characters of a frame. -/
def Frame.size : Frame → Nat
  | .bare => 0
  | .braces => 2
  | .resource => resourcePrefix.length

/-- The frame of a text. -/
def frameOf (cs : List Char) : Frame :=
  if cs.head? = some '\x7b' ∧ cs.getLast? = some '\x7d' then .braces
  else if (cs.take resourcePrefix.length).map Char.toLower = resourcePrefix then .resource
  else .bare

/-- The text within its frame. -/
def withoutFrame (cs : List Char) : List Char :=
  match frameOf cs with
  | .bare => cs
  | .braces => (cs.drop 1).dropLast
  | .resource => cs.drop resourcePrefix.length

/-- The groups of a text between hyphens. -/
def groups : List Char → List (List Char)
  | [] => [[]]
  | c :: rest =>
    if c = '-' then [] :: groups rest
    else
      match groups rest with
      | [] => [[c]]
      | group :: others => (c :: group) :: others

/-- The first character that does not belong into an identifier, and where it stands. -/
def stranger? (index : Nat) : List Char → Option (Char × Nat)
  | [] => none
  | c :: rest =>
    if c = '-' ∨ (digit? c).isSome then stranger? (index + 1) rest else some (c, index)

/-- The length of the longest text that may be an identifier: one written as a resource name. -/
def maxLength : Nat := 45

/-- The length of the groups with the hyphens between them. -/
def groupedLength : Nat := 36

/-- The first of some groups that is not as long as it has to be. -/
def wrongGroup? (index : Nat) : List Nat → List (List Char) → Option UuidFault
  | expected :: lengths, group :: rest =>
    if group.length = expected then wrongGroup? (index + 1) lengths rest
    else some (.groupLength index expected group.length)
  | _, _ => none

/-- What is wrong with five groups in a text of `length` characters. If the first four are as long
    as they have to be, the last one is said to reach to the end of the text, frame included. -/
def groupFault (length : Nat) (parts : List (List Char)) : UuidFault :=
  match wrongGroup? 0 [8, 4, 4, 4] parts with
  | some fault => fault
  | none => .groupLength 4 12 (length - 24)

/-- What is wrong with the groups `cs` in a text of `length` bytes, where they start at `start`.
    `digitsWanted` tells that digits without hyphens would do. -/
def faultIn (digitsWanted : Bool) (start length : Nat) (cs : List Char) : UuidFault :=
  match stranger? start cs with
  | some (c, index) => .character c index
  | none =>
    let parts := groups cs
    if parts.length = 1 ∧ digitsWanted then .length length
    else if parts.length ≠ groupLengths.length then .groupCount parts.length
    else groupFault length parts

/-- What has to be groups in a text of `length` bytes, if the text is as long as groups are, in a
    frame or not. -/
def groupsIn? (length : Nat) (cs : List Char) : Option (List Char) :=
  if length = groupedLength then some cs
  else if length = groupedLength + (frameOf cs).size then some (withoutFrame cs)
  else none

/-- What is wrong with a text of `length` bytes that is not an identifier. In one that is as long as
    groups are, only these count; in any other one places are those in the whole text. -/
def faultOf (length : Nat) (cs : List Char) : UuidFault :=
  if maxLength < length then .length length
  else
    match groupsIn? length cs with
    | some text => faultIn false 0 groupedLength text
    | none => faultIn (frameOf cs = .bare) (frameOf cs).width length (withoutFrame cs)

/-- The digits of an identifier: 32 of them, or five groups, these within a frame or not. -/
def digitsOf? (cs : List Char) : Option (List Char) :=
  let parts := groups (withoutFrame cs)
  let digits := parts.flatten
  let lengths := parts.map List.length
  if digits.all (fun c => (digit? c).isSome) ∧
      (lengths = groupLengths ∨ (lengths = [32] ∧ frameOf cs = .bare)) then
    some digits
  else none

/-- The identifier that a text stands for. -/
def parse (s : String) : Except UuidFault Uuid :=
  match digitsOf? s.toList with
  | some digits => .ok (ofDigits digits)
  | none => .error (faultOf s.utf8ByteSize s.toList)

/-! ### Writing -/

/-- The 32 digits. -/
def digits (id : Uuid) : List Char :=
  let short := Nat.toDigits 16 id.bits.toNat
  List.replicate (32 - short.length) '0' ++ short

/-- Digits in groups of the given lengths. -/
def grouped (cs : List Char) : List Nat → List (List Char)
  | [] => []
  | n :: lengths => cs.take n :: grouped (cs.drop n) lengths

/-- The digits in groups, with hyphens between them. -/
def text (id : Uuid) : String :=
  "-".intercalate ((grouped id.digits groupLengths).map String.ofList)

/-- The identifier of random bits, with the marks of version 4 in their places. -/
def random (bits : BitVec 128) : Uuid :=
  let versionMask : BitVec 128 := BitVec.ofNat 128 (0xf <<< 76)
  let variantMask : BitVec 128 := BitVec.ofNat 128 (0x3 <<< 62)
  ⟨((bits &&& ~~~versionMask) ||| BitVec.ofNat 128 (0x4 <<< 76)) &&& ~~~variantMask |||
    BitVec.ofNat 128 (0x2 <<< 62)⟩

/-- The identifier of a text value. -/
def decode : Record.Decoder Uuid
  | .string s =>
    (parse s).mapError fun fault => .unreadable ("UUID parsing failed: " ++ fault.message)
  | v => .error (.wrongType v .uuid)

/-- The identifier as a text value. -/
def encode (id : Uuid) : Json := .string id.text

end Uuid

end BilingualLessons
