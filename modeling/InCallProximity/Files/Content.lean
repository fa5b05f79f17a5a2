/-!
# What comes of reading a file

Reading gives the bytes of a file or says why there are none. Bytes are a text only if they are
valid UTF-8.
-/

namespace InCallProximity

/-- Why a file cannot be read. -/
inductive ReadFailure where
  | missing
  | isFolder
  /-- something on the way to the file is no folder -/
  | notFolder
  | nameTooLong
  /-- no file can have the name -/
  | badName
  /-- the bytes are no text -/
  | badText
  /-- any other refusal of the system, in its words and with its number -/
  | refused (words : String) (number : Nat)
deriving DecidableEq

namespace ReadFailure

/-- A refusal in the words of the system, with its number. -/
def numbered (words : String) (number : Nat) : String :=
  words ++ " (os error " ++ toString number ++ ")"

/-- What is said of a failure. -/
def message : ReadFailure → String
  | .missing => numbered "No such file or directory" 2
  | .isFolder => numbered "Is a directory" 21
  | .notFolder => numbered "Not a directory" 20
  | .nameTooLong => numbered "File name too long" 36
  | .badName => "file name contained an unexpected NUL byte"
  | .badText => "stream did not contain valid UTF-8"
  | .refused words number => numbered words number

end ReadFailure

/-- The bytes of a file, or why there are none. -/
abbrev FileContent := Except ReadFailure ByteArray

/-- The text that the bytes of a file spell. -/
def FileContent.text (content : FileContent) : Except ReadFailure String :=
  match content with
  | .error failure => .error failure
  | .ok bytes =>
    match String.fromUTF8? bytes with
    | some text => .ok text
    | none => .error .badText

end InCallProximity
