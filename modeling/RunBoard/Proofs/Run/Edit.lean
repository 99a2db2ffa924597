import Mathlib.Tactic.TFAE
import RunBoard.Client.Calls
import RunBoard.Proofs.Json.Compact
import RunBoard.Proofs.Run.Progress
import RunBoard.Proofs.Wire.Gateway

/-!
# Edits of runs

An edit sets some of three fields of a run. Two edits in a row are one edit, what is sent of
an edit is read back as that edit, and an edit that sets nothing is the same as an empty body
and as no change at all.
-/

namespace RunBoard

namespace RunPatch

/-- The edit that sets what the later one sets, and what the earlier one sets besides. -/
def followedBy (earlier later : RunPatch) : RunPatch where
  name := later.name <|> earlier.name
  notes := later.notes <|> earlier.notes
  tags := later.tags <|> earlier.tags

/-- How an edit is sent. -/
def sent (patch : RunPatch) : RequestOptions :=
  (RequestOptions.post.withJson (Wire.encode Wire.runPatch patch)).asBlob

theorem apply_followedBy (earlier later : RunPatch) (run : Run) :
    later.apply (earlier.apply run) = (earlier.followedBy later).apply run := by
  obtain ⟨name, notes, tags⟩ := later
  cases name <;> cases notes <;> cases tags <;> rfl

/-- With the three fields put back, the run is as it was. -/
theorem apply_frame (patch : RunPatch) (run : Run) :
    { patch.apply run with name := run.name, notes := run.notes, tags := run.tags } = run := rfl

/-! ## The body -/

section Body

variable (patch : RunPatch)

theorem wordy_texts (texts : List String) :
    (Json.arr (texts.map (Wire.encode .text))).Wordy ∧
      (Json.arr (texts.map (Wire.encode .text))).depth ≤ 1 := by
  refine ⟨Json.wordyItems_iff.mpr ?_, Nat.succ_le_succ (Json.depthItems_le ?_)⟩ <;>
    simp [Wire.encode, Wire.Schema.text, Wire.Scalar.text, Json.Wordy, Json.depth]

/-- The body holds words and texts only, the tags in an array of their own. -/
theorem wordy_encode :
    (Wire.encode Wire.runPatch patch).Wordy ∧ (Wire.encode Wire.runPatch patch).depth ≤ 2 := by
  have text (text : String) : (Wire.encode .text text).Wordy ∧ (Wire.encode .text text).depth ≤ 1 :=
    ⟨trivial, Nat.zero_le 1⟩
  obtain ⟨name, notes, tags⟩ := patch
  rw [Wire.runPatch, Wire.encode]
  suffices each : ∀ member : String × Json, member ∈ _ →
      member.2.Wordy ∧ member.2.depth ≤ 1 from
    ⟨Json.wordy_ofMembers fun member inside => (each member inside).1,
      Json.depth_ofMembers_le fun member inside => (each member inside).2⟩
  cases name <;> cases notes <;> cases tags <;>
    simp [Wire.encodeFields, Wire.FieldRule.unsetOmitted, Wire.encode, text, wordy_texts]

theorem parse_sent :
    ∃ text, patch.sent.body = some text ∧
      Json.parse (Text.Utf8.bytes text) = .ok (Wire.encode Wire.runPatch patch) :=
  ⟨_, rfl, Json.parse_compact patch.wordy_encode.1
    (Nat.le_trans patch.wordy_encode.2 (by decide))⟩

theorem decode_encode :
    Wire.decode Wire.runPatch (Wire.encode Wire.runPatch patch) = .ok patch :=
  Wire.Schema.Lawful.decode_encode Wire.runPatch Wire.runPatch_lawful patch

end Body

/-- Different edits have different bodies. -/
theorem sent_body_inj {first second : RunPatch} (same : first.sent.body = second.sent.body) :
    first = second := by
  obtain ⟨text, sent, parsed⟩ := first.parse_sent
  obtain ⟨text', sent', parsed'⟩ := second.parse_sent
  obtain rfl : text = text' := Option.some.inj (sent.symm.trans (same.trans sent'))
  have encoded := Except.ok.inj (parsed.symm.trans parsed')
  have decoded := first.decode_encode
  rw [encoded, second.decode_encode] at decoded
  exact (Except.ok.inj decoded).symm

/-! ## Edits that set nothing -/

/-- The edit that sets nothing. -/
def nothing : RunPatch := ⟨none, none, none⟩

theorem isEmpty_iff {patch : RunPatch} : patch.isEmpty = true ↔ patch = nothing := by
  obtain ⟨name, notes, tags⟩ := patch
  simp [isEmpty, nothing, and_assoc]

theorem sent_nothing : nothing.sent.body = some "\x7b\x7d" := rfl

theorem apply_nothing (run : Run) : nothing.apply run = run := rfl

/-- An edit that sets something changes a run without name, notes and those tags. -/
theorem eq_nothing_of_apply {patch : RunPatch} (fixes : ∀ run, patch.apply run = run) :
    patch = nothing := by
  obtain ⟨name, notes, tags⟩ := patch
  have unchanged := fixes { Run.pollOf [] with tags := "" :: tags.getD [] }
  have named : (name <|> none) = none := congrArg Run.name unchanged
  have noted : (notes <|> none) = none := congrArg Run.notes unchanged
  have tagged : tags.getD ("" :: tags.getD []) = "" :: tags.getD [] := congrArg Run.tags unchanged
  cases tags with
  | some tags => simp at tagged
  | none => simp_all [nothing]

/--
Making one edit and then another is making the one edit that has the fields of the later one
where it sets them and those of the earlier one otherwise. An edit leaves all but three fields
of a run alone. The body that a client sends of it is JSON that is read as the same edit, and
the body is an empty object, the edit sets nothing and no run is changed by it all at once.
-/
theorem edits_act_on_runs {m : Type → Type} [Monad m] (client : Client m) (id : String)
    (patch : RunPatch) :
    (∀ later run, RunPatch.apply later (patch.apply run) = (patch.followedBy later).apply run) ∧
    (∀ run, { patch.apply run with name := run.name, notes := run.notes, tags := run.tags } =
      run) ∧
    (client.updateRun id patch =
        (client.request (Endpoint.run id) patch.sent).map fun _ => ()) ∧
    (∃ text json, patch.sent.body = some text ∧ Json.parse (Text.Utf8.bytes text) = .ok json ∧
      Wire.decode Wire.runPatch json = .ok patch) ∧
    [patch.isEmpty = true, patch.sent.body = some "\x7b\x7d",
      ∀ run, patch.apply run = run].TFAE := by
  refine ⟨patch.apply_followedBy, patch.apply_frame, rfl, ?_, ?_⟩
  · obtain ⟨text, sent, parsed⟩ := patch.parse_sent
    exact ⟨text, _, sent, parsed, patch.decode_encode⟩
  · rw [isEmpty_iff]
    tfae_have 1 → 2 := fun same => same ▸ sent_nothing
    tfae_have 2 → 1 := fun same => sent_body_inj (same.trans sent_nothing.symm)
    tfae_have 1 → 3 := fun same run => same ▸ apply_nothing run
    tfae_have 3 → 1 := eq_nothing_of_apply
    tfae_finish

end RunPatch

end RunBoard
