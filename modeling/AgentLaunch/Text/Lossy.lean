/-!
# Bytes as text

Bytes that are meant as text, whether or not they are encoded correctly. A byte that belongs to no
character is read as the replacement character.
-/

namespace AgentLaunch.Text

/-- The character at the front of some bytes, and how many bytes it takes. -/
private def character? (bytes : List UInt8) : Option (Char × Nat) :=
  [1, 2, 3, 4].findSome? fun n => do
    let text ← String.fromUTF8? ⟨(bytes.take n).toArray⟩
    return (← text.toList.head?, n)

private def lossyUpTo : Nat → List UInt8 → List Char
  | 0, _ | _, [] => []
  | n + 1, b :: rest =>
    if b < 0x80 then Char.ofNat b.toNat :: lossyUpTo n rest
    else match character? (b :: rest) with
      | some (c, size) => c :: lossyUpTo n (rest.drop (size - 1))
      | none => '\ufffd' :: lossyUpTo n rest

def lossy (bytes : List UInt8) : String :=
  match String.fromUTF8? ⟨bytes.toArray⟩ with
  | some text => text
  | none => String.ofList (lossyUpTo bytes.length bytes)

end AgentLaunch.Text
