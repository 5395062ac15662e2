import JavaLauncher.Text.Segments
import JavaLauncher.Text.Utf8

/-!
# Raw texts

The system names its files by bytes, which need not be valid UTF-8. Every text stands for the bytes
that encode it, and what is said of a text in this way is said of its bytes. Bytes that encode no
text can be shown as one all the same, with the replacement character for what is in error, but the
text that is shown does not lead back to them.
-/
namespace JavaLauncher

/-- A text as the system has it: bytes, whether or not they encode a text. -/
@[ext] structure RawText where
  /-- The bytes. -/
  bytes : List UInt8
  deriving DecidableEq, Repr

namespace RawText

/-- The bytes that encode a text. -/
@[coe] def ofText (text : String) : RawText := ⟨Text.Utf8.encode text⟩

instance : Coe String RawText := ⟨ofText⟩

/-- The bytes of one raw text and then those of another. -/
instance : Append RawText := ⟨fun first second => ⟨first.bytes ++ second.bytes⟩⟩

/-- The number of bytes. -/
def size (raw : RawText) : Nat := raw.bytes.length

/-- The text that a raw text is shown as: what is in error in it is replaced. -/
def shown (raw : RawText) : String := Text.Utf8.decodeLossy raw.bytes

/-- The raw texts between the bytes that separate them. -/
def split (separator : UInt8) (raw : RawText) : List RawText :=
  (Text.segments (fun byte => byte == separator) raw.bytes).map RawText.mk

/-- The bytes of two raw texts together are those of each. -/
@[simp] theorem bytes_append (first second : RawText) :
    (first ++ second).bytes = first.bytes ++ second.bytes := rfl

/-- Two raw texts together have as many bytes as both. -/
@[simp] theorem size_append (first second : RawText) :
    (first ++ second).size = first.size + second.size := List.length_append

end RawText

end JavaLauncher
