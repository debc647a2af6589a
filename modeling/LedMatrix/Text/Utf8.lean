/-
# Bytes as text

Text arrives as bytes. Bytes that are not well formed are no text at all; there
is no attempt to save a part of them.
-/

namespace LedMatrix.Text

/-- The text that the bytes encode, if they are well formed. -/
def ofUtf8 (bytes : List UInt8) : Option String := String.fromUTF8? bytes.toByteArray

/-- The bytes of a text. -/
def toUtf8 (text : String) : List UInt8 := text.toUTF8.toList

end LedMatrix.Text
