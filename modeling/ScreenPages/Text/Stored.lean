/-!
# Stored text

Dumps, page files and settings are read from files that should hold text.  A file may not be
there, and its bytes may be no text.

## Main definitions

* `Text.File` — the bytes of a file, or why they cannot be had.
* `Text.stored` — the text of a file.
-/

namespace ScreenPages.Text

/-- The bytes of a file, or what the system says if they cannot be had. -/
abbrev File := Except String ByteArray

/-- What the system says about a file or a directory that is not there. -/
def noSuchFile : String := "No such file or directory (os error 2)"

/-- What the system says about a file that its user may not read. -/
def notPermitted : String := "Permission denied (os error 13)"

/-- What the system says about a path that leads on from a file. -/
def notDirectory : String := "Not a directory (os error 20)"

/-- What the system says about a directory that is read like a file. -/
def isDirectory : String := "Is a directory (os error 21)"

/-- What the system says about a path or a name in it that is too long. -/
def nameTooLong : String := "File name too long (os error 36)"

/-- What is said about bytes that are no text. -/
def notText : String := "stream did not contain valid UTF-8"

/-- The text of a file. -/
def stored : File → Except String String
  | .error reason => .error reason
  | .ok bytes =>
    match String.fromUTF8? bytes with
    | none => .error notText
    | some s => .ok s

/-- A file that was written as text is read back. -/
theorem stored_toUTF8 (s : String) : stored (.ok s.toUTF8) = .ok s := by
  have h : String.fromUTF8? s.toByteArray = some s := by
    simp only [String.fromUTF8?, s.isValidUTF8, dite_true]
    rfl
  simp only [stored, String.toUTF8_eq_toByteArray, h]

end ScreenPages.Text
