import PeerLink.Config.Document

/-!
Configurations in files. A file is opened before it is read, and a configuration is written down
before a file is opened for it.
-/

set_option autoImplicit false
set_option relaxedAutoImplicit false

namespace PeerLink

/-- The text that octets encode in UTF-8. -/
def Bytes.text? (bytes : Bytes) : Option String := String.fromUTF8? bytes.toByteArray

def Bytes.ofText (text : String) : Bytes := text.toUTF8.data.toList

namespace Config

/-- What a path leads to: `nowhere` is a path without a file and, for writing, without a directory
to put one in. -/
inductive Place where
  | nowhere
  | directory
  | file (content : Bytes)

/-- The configuration that a file in some format holds. -/
def loadIn (format : Toml.Format) : Place → Except Fault Config
  | .nowhere => .error (.cannotOpen .absent)
  | .directory => .error (.cannotRead .isDirectory)
  | .file content =>
    match content.text? with
    | none => .error (.cannotRead .notText)
    | some text => parseIn format text

/-- The place after saving there in some format. -/
def saveIn (format : Toml.Format) (config : Config) (place : Place) : Except Fault Place := do
  let text ← config.printIn format
  match place with
  | .nowhere => .error (.cannotWrite .absent)
  | .directory => .error (.cannotWrite .isDirectory)
  | .file _ => return .file (.ofText text)

def load (place : Place) : Except Fault Config := loadIn .standard place

/-- The place after saving there. -/
def save (config : Config) (place : Place) : Except Fault Place := config.saveIn .standard place

end Config

theorem Bytes.text?_ofText (text : String) : Bytes.text? (Bytes.ofText text) = some text := by
  have h : (Bytes.ofText text).toByteArray = text.toUTF8 :=
    ByteArray.ext (by rw [List.data_toByteArray, Bytes.ofText])
  unfold Bytes.text? String.fromUTF8?
  rw [h, String.toUTF8_eq_toByteArray, dif_pos text.isValidUTF8]
  rfl

/-- No other octets encode the text. -/
theorem Bytes.text?_eq_some_iff {bytes : Bytes} {text : String} :
    bytes.text? = some text ↔ bytes = .ofText text := by
  constructor
  · intro h
    unfold Bytes.text? String.fromUTF8? at h
    split at h
    · rw [← Option.some.inj h]
      show bytes = bytes.toByteArray.data.toList
      rw [List.data_toByteArray]
    · contradiction
  · rintro rfl
    exact Bytes.text?_ofText text

end PeerLink
