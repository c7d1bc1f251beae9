import BulkIngest.Storage.Shelf

/-!
What is committed stays. Wherever a write, a mending or the end stops, the committed octets at the
front of a file are those of the payloads that were written whole, and a file that is not torn has
no others and goes on behind them.
-/

namespace BulkIngest.Shelf

theorem resized_of_take {content whole : Bytes} (front : content.take whole.length = whole) :
    resized whole.length content = whole := by
  have enough : whole.length ≤ content.length := by
    have := congrArg List.length front
    rw [List.length_take] at this
    omega
  rw [resized, front, Nat.sub_eq_zero_of_le enough, List.replicate_zero, List.append_nil]

/-- Octets that are put at the end of a file are appended to it. -/
theorem patched_length (content octets : Bytes) :
    patched content content.length octets = content ++ octets := by
  have front : resized content.length content = content := resized_of_take (List.take_length)
  rw [patched, front, List.drop_of_length_le (Nat.le_add_right _ _), List.append_nil]

/-- A file whose committed octets are `whole`. -/
structure Intact (shelf : Shelf) (whole : Bytes) : Prop where
  file : shelf.node = .file shelf.content
  committed : shelf.committed = whole.length
  front : shelf.content.take shelf.committed = whole
  sound : shelf.torn = false → shelf.content = whole
  seated : shelf.torn = false → shelf.appending = false → shelf.cursor = shelf.committed

variable {shelf : Shelf} {whole : Bytes}

theorem intact_open (initial : Bytes) (appending : Bool) :
    Intact (.open (.file initial) appending) (if appending then initial else []) := by
  refine ⟨rfl, rfl, List.take_length, fun _ => rfl, fun _ written => ?_⟩
  have appending : appending = false := written
  simp [Shelf.open, Shelf.content, appending]

theorem Intact.cut (h : Intact shelf whole) :
    shelf.cut = { shelf with node := .file whole } := by
  have front := h.front
  rw [h.committed] at front
  simp only [Shelf.cut, h.file, h.committed, resized_of_take front]

/-- A file that was cut back, wherever the next octet goes then. -/
theorem Intact.of_cut (h : Intact shelf whole) (cursor : Nat) {torn : Bool}
    (seated : torn = false → shelf.appending = false → cursor = shelf.committed) :
    Intact { shelf.cut with cursor, torn } whole := by
  rw [h.cut]
  refine ⟨rfl, h.committed, ?_, fun _ => rfl, seated⟩
  change whole.take shelf.committed = whole
  rw [h.committed, List.take_length]

theorem Intact.mend (h : Intact shelf whole) :
    Intact shelf.mend whole ∧ shelf.mend.torn = false := by
  simp only [Shelf.mend]
  split
  · exact ⟨h.of_cut shelf.committed fun _ _ => rfl, rfl⟩
  · rename_i sound
    exact ⟨h, by simpa using sound⟩

theorem Intact.mendUpTo (h : Intact shelf whole) (stop : MendStop) :
    Intact (shelf.mendUpTo stop) whole := by
  simp only [Shelf.mendUpTo]
  split
  · rename_i torn
    have same : ({ shelf.cut with cursor := shelf.cursor, torn := true } : Shelf) = shelf.cut := by
      rw [h.cut, ← torn]
    have sought : ({ shelf.cut with cursor := shelf.committed, torn := true } : Shelf) =
        { shelf.cut with cursor := shelf.committed } := by
      rw [h.cut, ← torn]
    cases stop with
    | uncut => exact h
    | cut sought? =>
        cases sought? with
        | false => exact same ▸ h.of_cut shelf.cursor fun impossible => by contradiction
        | true => exact sought ▸ h.of_cut shelf.committed fun impossible => by contradiction
  · exact h

/-- What is put into a sound file stands behind what is committed. -/
theorem Intact.content_put (h : Intact shelf whole) (sound : shelf.torn = false) (octets : Bytes) :
    (shelf.put octets).node = .file (whole ++ octets) ∧
      (shelf.appending = false → (shelf.put octets).cursor = whole.length + octets.length) := by
  have content := h.sound sound
  have start : shelf.writeStart = whole.length := by
    cases appending : shelf.appending with
    | true => simp [writeStart, appending, content]
    | false => simp [writeStart, appending, h.seated sound appending, h.committed]
  have file := h.file
  rw [content] at file
  simp only [Shelf.put, file]
  split
  · rename_i empty
    rw [List.isEmpty_iff] at empty
    refine ⟨by rw [file, empty, List.append_nil], fun appending => ?_⟩
    rw [h.seated sound appending, h.committed, empty, List.length_nil, Nat.add_zero]
  · rw [start]
    exact ⟨by rw [patched_length], fun _ => rfl⟩

theorem put_frame (shelf : Shelf) (octets : Bytes) :
    (shelf.put octets).committed = shelf.committed ∧ (shelf.put octets).torn = shelf.torn ∧
      (shelf.put octets).appending = shelf.appending := by
  simp only [Shelf.put]
  split
  · split <;> exact ⟨rfl, rfl, rfl⟩
  · exact ⟨rfl, rfl, rfl⟩

/-- A payload that was written whole is committed, and what has been written of another one is
not. -/
theorem Intact.write (h : Intact shelf whole) (payload : Bytes) (fate : WriteFate) :
    Intact (shelf.write payload fate) (if fate = .complete then whole ++ payload else whole) := by
  obtain ⟨mended, sound⟩ := h.mend
  cases fate with
  | complete =>
      obtain ⟨node, cursor⟩ := mended.content_put sound payload
      obtain ⟨committed, torn, appending⟩ := shelf.mend.put_frame payload
      have length : (shelf.write payload .complete).committed = (whole ++ payload).length := by
        rw [List.length_append, ← mended.committed, ← committed]
        rfl
      have content : (shelf.write payload .complete).content = whole ++ payload := by
        simp only [Shelf.write, Shelf.content, node]
      rw [if_pos rfl]
      refine ⟨?_, length, ?_, fun _ => content, fun _ written => ?_⟩
      · rw [content]
        exact node
      · rw [content, length, List.take_length]
      · rw [length, List.length_append]
        exact cursor (appending.symm.trans written)
  | stoppedMending stop =>
      rw [if_neg (by simp)]
      exact h.mendUpTo stop
  | stoppedWriting written =>
      obtain ⟨node, -⟩ := mended.content_put sound (payload.take written)
      obtain ⟨committed, -, -⟩ := shelf.mend.put_frame (payload.take written)
      have length : (shelf.write payload (.stoppedWriting written)).committed = whole.length :=
        committed.trans mended.committed
      have content : (shelf.write payload (.stoppedWriting written)).content =
          whole ++ payload.take written := by
        simp only [Shelf.write, Shelf.content, node]
      rw [if_neg (by simp)]
      refine ⟨?_, length, ?_, fun sound => by contradiction, fun sound => by contradiction⟩
      · rw [content]
        exact node
      · rw [content, length, List.take_left]

theorem Intact.close (h : Intact shelf whole) (fate : CloseFate) :
    Intact (shelf.close fate) whole := by
  cases fate with
  | complete | stoppedFlushing => exact h.mend.1
  | stoppedMending stop => exact h.mendUpTo stop

theorem Intact.content_close (h : Intact shelf whole) : (shelf.close .complete).content = whole :=
  h.mend.1.sound h.mend.2

/-- A file can always be cut back. -/
theorem Intact.mendFault?_eq (h : Intact shelf whole) : shelf.mendFault? = none := by
  simp only [mendFault?, h.file]

/-- A write to a file is refused if and only if it does not go all the way. -/
theorem Intact.outcomeOf (h : Intact shelf whole) (limit : Option Nat) (payload : Bytes) :
    (shelf.outcomeOf limit payload).2 = none ↔ (shelf.outcomeOf limit payload).1 = .complete := by
  simp only [Shelf.outcomeOf, h.mendFault?_eq]
  rw [h.file]
  cases limit with
  | none => simp
  | some limit =>
      simp only
      split <;> simp

end BulkIngest.Shelf
