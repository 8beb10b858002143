/-!
Content of items and files: sequences of bytes, the texts that they encode in UTF-8, their
hexadecimal form, and the signatures that stand for them. A signature is the 32-bit cyclic
redundancy check with the reflected IEEE polynomial, in decimal digits. The register takes one byte
at a time through a table of 256 words; `bitStep` is the shift that the table repeats eight times.
-/

namespace Reconcile

abbrev Bytes := List UInt8

namespace Bytes

def ofText (text : String) : Bytes := text.toByteArray.data.toList

def text? (bytes : Bytes) : Option String := String.fromUTF8? ⟨bytes.toArray⟩

def hexPair (byte : UInt8) : List Char :=
  [Nat.digitChar (byte.toNat / 16), Nat.digitChar (byte.toNat % 16)]

def toHex (bytes : Bytes) : String := String.ofList (bytes.flatMap hexPair)

def hexDigit? (c : Char) : Option Nat :=
  if '0' ≤ c ∧ c ≤ '9' then some (c.toNat - '0'.toNat)
  else if 'a' ≤ c ∧ c ≤ 'f' then some (c.toNat - 'a'.toNat + 10)
  else if 'A' ≤ c ∧ c ≤ 'F' then some (c.toNat - 'A'.toNat + 10)
  else none

def ofHexDigits? : List Char → Option Bytes
  | [] => some []
  | [_] => none
  | high :: low :: rest => do
    let byte := UInt8.ofNat ((← hexDigit? high) * 16 + (← hexDigit? low))
    return byte :: (← ofHexDigits? rest)

def ofHex? (text : String) : Option Bytes := ofHexDigits? text.toList

theorem text?_ofText (text : String) : text? (ofText text) = some text := by
  have valid : text.toByteArray.IsValidUTF8 := text.isValidUTF8
  simp [text?, ofText, String.fromUTF8?, valid, String.fromUTF8]

end Bytes

namespace Checksum

abbrev Register := BitVec 32

/-- The IEEE polynomial, lowest degree in the highest bit. -/
def polynomial : Register := 0xEDB88320#32

/-- Shifts out the low bit, and adds the polynomial when that bit was set. -/
def bitStep (register : Register) : Register :=
  if register.getLsbD 0 then (register >>> 1) ^^^ polynomial else register >>> 1

/-- The effect of eight shifts on a register that holds one byte. -/
def table : Vector Register 256 :=
  Vector.ofFn fun byte => Nat.repeat bitStep 8 (BitVec.ofNat 32 byte)

/-- Takes in one byte: the low byte of the register selects the word to add. -/
def byteStep (register : Register) (byte : UInt8) : Register :=
  (register >>> 8) ^^^ table.get (register.setWidth 8 ^^^ byte.toBitVec).toFin

def feed (register : Register) (bytes : Bytes) : Register := bytes.foldl byteStep register

/-- The check of a content: all bits set at the start, all bits flipped at the end. -/
def crc32 (bytes : Bytes) : Register := ~~~ feed 0xFFFFFFFF#32 bytes

end Checksum

structure Signature where
  text : String
  deriving DecidableEq, Inhabited

namespace Signature

/-- The signature of readable content: its check in decimal digits. -/
def of (content : Bytes) : Signature := ⟨(Checksum.crc32 content).toNat.repr⟩

def empty : Signature := ⟨""⟩

theorem of_ne_empty (content : Bytes) : of content ≠ empty :=
  fun same => Nat.repr_ne_empty (congrArg Signature.text same)

def isEmpty (signature : Signature) : Bool := signature.text.isEmpty

end Signature

end Reconcile
