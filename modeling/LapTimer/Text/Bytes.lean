/-! Text as bytes in UTF-8. -/

namespace LapTimer.Text

def utf8 (s : String) : List UInt8 := s.toList.flatMap String.utf8EncodeChar

def ofUtf8? (bytes : List UInt8) : Option String := String.fromUTF8? bytes.toByteArray

theorem toByteArray_utf8 (s : String) : (utf8 s).toByteArray = s.toByteArray := by
  simpa [List.utf8Encode, utf8] using String.utf8Encode_toList (b := s)

theorem ofUtf8?_utf8 (s : String) : ofUtf8? (utf8 s) = some s := by
  simp [ofUtf8?, toByteArray_utf8, String.fromUTF8?, s.isValidUTF8, String.fromUTF8]

end LapTimer.Text
