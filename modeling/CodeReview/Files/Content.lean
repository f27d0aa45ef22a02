/-!
# What files hold

A file holds bytes, or the system does not open it. Which of the two it is shows when the file is
read; until then it is a file like any other.
-/

set_option autoImplicit false

namespace CodeReview.Files

/-- Why the system does not open a file. -/
inductive OpenFault
  | noEntry
  | denied
  | notDirectory
  | isDirectory
  | other (reason : String)
deriving DecidableEq, Repr

/-- The system's text for a fault. -/
def OpenFault.message : OpenFault → String
  | noEntry => "No such file or directory (os error 2)"
  | denied => "Permission denied (os error 13)"
  | notDirectory => "Not a directory (os error 20)"
  | isDirectory => "Is a directory (os error 21)"
  | other reason => reason

/-- What opening a file gives: its bytes, or a fault. -/
abbrev Content := Except OpenFault ByteArray

instance : Coe ByteArray Content := ⟨.ok⟩

/-- The text of some bytes. -/
def textOfBytes (bytes : ByteArray) : Except String String :=
  match String.fromUTF8? bytes with
  | some text => .ok text
  | none => .error "stream did not contain valid UTF-8"

/-- The text of a file, or why it cannot be read. -/
def textOf (content : Content) : Except String String := do
  let bytes ← content.mapError OpenFault.message
  textOfBytes bytes

theorem textOf_ok (bytes : ByteArray) : textOf (.ok bytes) = textOfBytes bytes := rfl

theorem textOf_error (fault : OpenFault) : textOf (.error fault) = .error fault.message := rfl

/-- A file holds a text, or bytes that are none, or it is not opened. -/
theorem textOf_cases (content : Content) :
    (∃ bytes text, content = .ok bytes ∧ String.fromUTF8? bytes = some text ∧
      textOf content = .ok text) ∨
    (∃ bytes, content = .ok bytes ∧ String.fromUTF8? bytes = none ∧
      textOf content = .error "stream did not contain valid UTF-8") ∨
    ∃ fault, content = .error fault ∧ textOf content = .error fault.message := by
  cases content with
  | error fault => exact .inr (.inr ⟨fault, rfl, textOf_error fault⟩)
  | ok bytes =>
    rw [textOf_ok, textOfBytes]
    cases hbytes : String.fromUTF8? bytes with
    | none => exact .inr (.inl ⟨bytes, rfl, hbytes, rfl⟩)
    | some text => exact .inl ⟨bytes, text, rfl, hbytes, rfl⟩

theorem textOf_eq_ok_iff {content : Content} {text : String} :
    textOf content = .ok text ↔
      ∃ bytes, content = .ok bytes ∧ String.fromUTF8? bytes = some text := by
  rcases textOf_cases content with
    ⟨bytes, other, rfl, hbytes, htext⟩ | ⟨bytes, rfl, hbytes, htext⟩ | ⟨fault, rfl, htext⟩ <;>
    simp [htext]
  · simp [hbytes]
  · simp [hbytes]

end CodeReview.Files
