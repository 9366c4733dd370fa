/-! The bytes of a text, and the character that starts a byte sequence. -/

set_option autoImplicit false
namespace LogRecord.Utf8

def bytes (text : String) : List UInt8 :=
  text.toByteArray.data.toList

/-- The text with these bytes, if they are well-formed UTF-8. -/
def text? (bytes : ByteArray) : Option String :=
  String.fromUTF8? bytes

/-- The character whose well-formed encoding starts `bytes`, if one does. -/
def first? (bytes : List UInt8) : Option Char :=
  (bytes.take 4).toByteArray.utf8DecodeChar? 0

theorem bytes_append (first second : String) :
    bytes (first ++ second) = bytes first ++ bytes second := by
  simp [bytes, String.toByteArray_append]

theorem bytes_ofList (characters : List Char) :
    bytes (String.ofList characters) = characters.flatMap String.utf8EncodeChar := by
  simp [bytes, List.utf8Encode]

theorem first?_eq_some_iff {bytes : List UInt8} {character : Char} :
    first? bytes = some character ↔ String.utf8EncodeChar character <+: bytes := by
  constructor
  · intro decoded
    obtain ⟨rest, split⟩ := ByteArray.exists_of_utf8DecodeChar?_eq_some decoded
    have inList := congrArg (fun array : ByteArray => array.data.toList) split
    simp only [List.data_toByteArray, ByteArray.data_append, Array.toList_append] at inList
    have encoded : String.utf8EncodeChar character <+: bytes.take 4 :=
      ⟨rest.data.toList, inList.symm⟩
    exact encoded.trans <| List.take_prefix 4 bytes
  · rintro ⟨rest, rfl⟩
    have short : (String.utf8EncodeChar character).length ≤ 4 := by
      rw [String.length_utf8EncodeChar]
      exact character.utf8Size_le_four
    rw [first?, List.take_append, List.take_of_length_le short, List.toByteArray_append]
    exact ByteArray.utf8DecodeChar?_utf8EncodeChar_append

theorem bytes_of_text? {bytes : ByteArray} {text : String} (h : text? bytes = some text) :
    Utf8.bytes text = bytes.data.toList := by
  simp only [text?, String.fromUTF8?] at h
  split at h
  · obtain rfl := Option.some.inj h
    rfl
  · contradiction

end LogRecord.Utf8
