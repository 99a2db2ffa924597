import RunBoard.Client.Login
import RunBoard.Command.Scene
import RunBoard.Proofs.Files.Tree
import RunBoard.Proofs.Text.Utf8

/-!
# What the token file holds

The token is the text of its file without white space around it. Saving makes a token the
content of the file and logging out removes the file, wherever the file can be written at
all; neither sends anything.
-/

namespace RunBoard

/-- Whether a token is what a content has between its white space, if it is text at all. -/
def IsTokenOf (content : Option (List UInt8)) (token : String) : Prop :=
  ∃ text, content = some (Text.Utf8.bytes text) ∧ token = Text.trim text ∧ token ≠ ""

namespace TokenFile

variable {file : TokenFile} {tree : Files.Tree}

/-- The bytes of the token file, if there is one that can be read. -/
def content? (file : TokenFile) (tree : Files.Tree) : Option (List UInt8) :=
  file.path.bind tree.content?

/-- Whether the token file can be written. -/
def IsWritable (file : TokenFile) (tree : Files.Tree) : Prop :=
  ∃ path, file.path = some path ∧ tree.IsWritable path

theorem IsWritable.save (writable : file.IsWritable tree) (token : String) :
    ∃ saved, file.save tree token = .ok saved ∧ file.IsWritable saved ∧
      file.content? saved = some (Text.Utf8.bytes token) := by
  obtain ⟨path, kept, writable⟩ := writable
  obtain ⟨ready, made, writable, housed⟩ := writable.makeDirectory
  obtain ⟨closed, others⟩ := writable.setMode privateMode
  have above : path.dropLast ≠ path := by
    intro same
    have := congrArg List.length same
    have := List.length_pos_iff.mpr writable.named
    rw [List.length_dropLast] at *
    omega
  rw [← others _ above] at housed
  obtain ⟨saved, written, writable, content⟩ :=
    closed.write housed (Text.Utf8.bytes token) privateMode
  refine ⟨saved, ?_, ⟨path, kept, writable⟩, by rw [content?, kept]; exact content⟩
  simp only [TokenFile.save, kept, made]
  exact written

theorem IsWritable.clear (writable : file.IsWritable tree) :
    ∃ cleared, file.clear tree = .ok cleared ∧ file.IsWritable cleared ∧
      file.content? cleared = none := by
  obtain ⟨path, kept, writable⟩ := writable
  simp only [TokenFile.clear, content?, IsWritable, kept, Option.bind_some]
  rcases writable.remove with ⟨missing, none⟩ | ⟨bare, removed, writable, none⟩
  · exact ⟨tree, by rw [missing], ⟨path, rfl, writable⟩, none⟩
  · exact ⟨bare, by rw [removed], ⟨path, rfl, writable⟩, none⟩

end TokenFile

/-! ## In a scene -/

namespace Client

open Command (Scene)

variable {gateway : List Http.Request → Http.Request → Http.Exchange}
  {client : Client (StateM Scene)} (host : client.host = Scene.host gateway) {scene : Scene}

include host

theorem tokenFor_apply (credentials : Credentials) (url : Url) :
    client.tokenFor credentials url scene =
      (if credentials.covers client.base.url url then client.tokens.load scene.files else none,
        scene) := by
  unfold tokenFor
  split
  · unfold token
    rw [host]
    cases path : client.tokens.path with
    | none => rw [TokenFile.load, path]; rfl
    | some place => rfl
  · rfl

end Client

end RunBoard
