import Mathlib.Data.List.TakeWhile
import UuAmfBridge.Dxva.EndFrame

/-!
# Submitting the buffers of the decoder

`SubmitDecoderBuffers` gives the parts of the buffers that the next picture uses.  The
descriptors of one call are checked and taken over one at a time, in one loop, so a
descriptor that is refused leaves the ones before it submitted.

* `contextSubmit_eq`: the call takes over the descriptors before the first refused one,
  and of those that name one buffer the last.
* `submit_all_or_nothing_iff`: it is all or nothing exactly when no descriptor is
  refused, or the ones before the first refused one ask for what the buffers have.

What is refused depends on the block of a buffer and its capacity alone, which the call
does not change.
-/

namespace UuAmfBridge

/-! ## Descriptors -/

/-- The check of `context_submit` on the buffer that a descriptor names. -/
def DecoderBuffer.Refuses (buffer : DecoderBuffer) (desc : BufferDesc) : Prop :=
  buffer.data = none ∨ desc.dataOffset > buffer.capacity ∨
    desc.dataSize > buffer.capacity - desc.dataOffset

instance (buffer : DecoderBuffer) (desc : BufferDesc) : Decidable (buffer.Refuses desc) :=
  inferInstanceAs (Decidable (_ ∨ _ ∨ _))

/-- `context_submit` refuses the descriptor; one of an unknown type is passed over. -/
def BridgeDecoder.refuses (decoder : BridgeDecoder) (desc : BufferDesc) : Bool :=
  if h : desc.bufferType.toNat < dxvaBufferCount then
    decide ((decoder.buffers ⟨desc.bufferType.toNat, h⟩).Refuses desc)
  else false

/-- The last descriptor that names a buffer. -/
def lastNaming (type : Fin dxvaBufferCount) : List BufferDesc → Option BufferDesc
  | [] => none
  | desc :: descs =>
      match lastNaming type descs with
      | some last => some last
      | none => if desc.bufferType.toNat = type.val then some desc else none

/-- A buffer after a descriptor has been taken over, if there is one. -/
def DecoderBuffer.submit (buffer : DecoderBuffer) : Option BufferDesc → DecoderBuffer
  | none => buffer
  | some desc => { buffer with offset := desc.dataOffset, size := desc.dataSize }

/-- The descriptors before the first refused one. -/
def BridgeDecoder.accepted (decoder : BridgeDecoder) (descs : List BufferDesc) :
    List BufferDesc :=
  descs.takeWhile fun desc => !decoder.refuses desc

/-- The decoder after some descriptors have been taken over. -/
def BridgeDecoder.submit (decoder : BridgeDecoder) (descs : List BufferDesc) : BridgeDecoder :=
  { decoder with buffers := fun type => (decoder.buffers type).submit (lastNaming type descs) }

@[simp] theorem DecoderBuffer.submit_data (buffer : DecoderBuffer) (desc : Option BufferDesc) :
    (buffer.submit desc).data = buffer.data := by
  cases desc with
  | none => rfl
  | some desc => rfl

@[simp] theorem DecoderBuffer.submit_capacity (buffer : DecoderBuffer)
    (desc : Option BufferDesc) : (buffer.submit desc).capacity = buffer.capacity := by
  cases desc with
  | none => rfl
  | some desc => rfl

/-- What is refused does not depend on what has been submitted. -/
theorem BridgeDecoder.refuses_congr {decoder other : BridgeDecoder}
    (hdata : ∀ type, (other.buffers type).data = (decoder.buffers type).data)
    (hcapacity : ∀ type, (other.buffers type).capacity = (decoder.buffers type).capacity)
    (desc : BufferDesc) : other.refuses desc = decoder.refuses desc := by
  unfold BridgeDecoder.refuses
  by_cases htype : desc.bufferType.toNat < dxvaBufferCount
  · rw [dif_pos htype, dif_pos htype]
    apply decide_eq_decide.mpr
    unfold DecoderBuffer.Refuses
    rw [hdata, hcapacity]
  · rw [dif_neg htype, dif_neg htype]

/-- The buffer that a descriptor names, with the descriptor taken over. -/
def BridgeDecoder.submitOne (decoder : BridgeDecoder) (desc : BufferDesc)
    (htype : desc.bufferType.toNat < dxvaBufferCount) : BridgeDecoder :=
  let type : Fin dxvaBufferCount := ⟨desc.bufferType.toNat, htype⟩
  { decoder with
    buffers := Function.update decoder.buffers type ((decoder.buffers type).submit (some desc)) }

/-- A descriptor in front of others is behind them in effect. -/
theorem BridgeDecoder.submit_submitOne {decoder : BridgeDecoder} {desc : BufferDesc}
    (htype : desc.bufferType.toNat < dxvaBufferCount) (descs : List BufferDesc) :
    (decoder.submitOne desc htype).submit descs = decoder.submit (desc :: descs) := by
  unfold BridgeDecoder.submit BridgeDecoder.submitOne
  congr 1
  funext type
  simp only [lastNaming]
  by_cases hnamed : type = ⟨desc.bufferType.toNat, htype⟩
  · subst hnamed
    rw [Function.update_self, if_pos rfl]
    cases lastNaming ⟨desc.bufferType.toNat, htype⟩ descs with
    | none => rfl
    | some last => rfl
  · have hother : ¬desc.bufferType.toNat = type.val := fun h => hnamed (Fin.ext h.symm)
    rw [Function.update_of_ne hnamed, if_neg hother]
    cases lastNaming type descs with
    | none => rfl
    | some last => rfl

/-- A descriptor of an unknown type has no effect. -/
theorem BridgeDecoder.submit_cons_unknown {decoder : BridgeDecoder} {desc : BufferDesc}
    (htype : ¬desc.bufferType.toNat < dxvaBufferCount) (descs : List BufferDesc) :
    decoder.submit (desc :: descs) = decoder.submit descs := by
  unfold BridgeDecoder.submit
  congr 1
  funext type
  have hother : ¬desc.bufferType.toNat = type.val := fun h => htype (h ▸ type.isLt)
  simp only [lastNaming]
  rw [if_neg hother]
  cases lastNaming type descs with
  | none => rfl
  | some last => rfl

/-- One turn of the loop. -/
theorem contextSubmit_cons (desc : BufferDesc) (descs : List BufferDesc)
    (decoder : BridgeDecoder) :
    contextSubmit (desc :: descs) decoder =
      if htype : desc.bufferType.toNat < dxvaBufferCount then
        if decoder.refuses desc then (eInvalidarg, decoder)
        else contextSubmit descs (decoder.submitOne desc htype)
      else contextSubmit descs decoder := by
  rw [contextSubmit]
  by_cases htype : desc.bufferType.toNat < dxvaBufferCount
  · rw [dif_pos htype, dif_pos htype]
    unfold BridgeDecoder.refuses
    simp only [dif_pos htype, decide_eq_true_eq]
    rfl
  · rw [dif_neg htype, dif_neg htype]

/-- Taking over a descriptor changes nothing that is checked. -/
theorem BridgeDecoder.submitOne_refuses (decoder : BridgeDecoder) {desc : BufferDesc}
    (htype : desc.bufferType.toNat < dxvaBufferCount) (other : BufferDesc) :
    (decoder.submitOne desc htype).refuses other = decoder.refuses other := by
  have hbuffer : ∀ type, ∃ last, (decoder.submitOne desc htype).buffers type =
      (decoder.buffers type).submit last := by
    intro type
    by_cases hnamed : type = ⟨desc.bufferType.toNat, htype⟩
    · subst hnamed
      exact ⟨some desc, Function.update_self _ _ _⟩
    · exact ⟨none, Function.update_of_ne hnamed _ _⟩
  refine BridgeDecoder.refuses_congr (fun type => ?_) (fun type => ?_) other
  · obtain ⟨last, hlast⟩ := hbuffer type
    rw [hlast, DecoderBuffer.submit_data]
  · obtain ⟨last, hlast⟩ := hbuffer type
    rw [hlast, DecoderBuffer.submit_capacity]

/-- What `context_submit` does: it takes over the descriptors before the first refused
one. -/
theorem contextSubmit_eq (descs : List BufferDesc) (decoder : BridgeDecoder) :
    contextSubmit descs decoder =
      (if descs.any decoder.refuses then eInvalidarg else sOk,
        decoder.submit (decoder.accepted descs)) := by
  induction descs generalizing decoder with
  | nil => rfl
  | cons desc descs ih =>
    rw [contextSubmit_cons]
    unfold BridgeDecoder.accepted at ih ⊢
    by_cases htype : desc.bufferType.toNat < dxvaBufferCount
    · rw [dif_pos htype]
      by_cases hrefuses : decoder.refuses desc = true
      · rw [if_pos hrefuses, List.any_cons, hrefuses, Bool.true_or, if_pos rfl,
          List.takeWhile_cons_of_neg (by rw [hrefuses]; decide)]
        rfl
      · have haccepts : decoder.refuses desc = false := Bool.not_eq_true _ ▸ hrefuses
        have hsame : (decoder.submitOne desc htype).refuses = decoder.refuses :=
          funext (decoder.submitOne_refuses htype)
        rw [if_neg hrefuses, ih, hsame, List.any_cons, haccepts, Bool.false_or,
          List.takeWhile_cons_of_pos (by rw [haccepts]; rfl), BridgeDecoder.submit_submitOne]
    · have haccepts : decoder.refuses desc = false := by
        unfold BridgeDecoder.refuses
        rw [dif_neg htype]
      rw [dif_neg htype, ih decoder, List.any_cons, haccepts, Bool.false_or,
        List.takeWhile_cons_of_pos (by rw [haccepts]; rfl),
        BridgeDecoder.submit_cons_unknown htype]

/-! ## All or nothing -/

/-- `SubmitDecoderBuffers` is all or nothing: a refused call leaves the offset and the
size of every buffer, and an accepted one gives each of them those of the last
descriptor that names it. -/
def SubmitsAllOrNothing (decoder : BridgeDecoder) (descs : List BufferDesc) : Prop :=
  let next := contextSubmit descs decoder
  (next.1 = eInvalidarg → ∀ type, (next.2.buffers type).offset = (decoder.buffers type).offset ∧
      (next.2.buffers type).size = (decoder.buffers type).size) ∧
    (next.1 = sOk → ∀ type, next.2.buffers type =
      (decoder.buffers type).submit (lastNaming type descs))

/-- Each buffer that a descriptor before the first refused one names has the offset and
the size of the last of them already. -/
def SubmittedAlready (decoder : BridgeDecoder) (descs : List BufferDesc) : Prop :=
  ∀ type desc, lastNaming type (decoder.accepted descs) = some desc →
    desc.dataOffset = (decoder.buffers type).offset ∧ desc.dataSize = (decoder.buffers type).size

/-- The call is all or nothing exactly when no descriptor is refused, or nothing changes
before the first refused one. -/
theorem submit_all_or_nothing_iff (decoder : BridgeDecoder) (descs : List BufferDesc) :
    SubmitsAllOrNothing decoder descs ↔
      (∀ desc ∈ descs, decoder.refuses desc = false) ∨ SubmittedAlready decoder descs := by
  unfold SubmitsAllOrNothing
  rw [contextSubmit_eq]
  simp only
  by_cases hany : descs.any decoder.refuses = true
  · have hsome : ¬∀ desc ∈ descs, decoder.refuses desc = false := by
      rw [List.any_eq_true] at hany
      obtain ⟨desc, hmem, hrefuses⟩ := hany
      intro hnone
      rw [hnone desc hmem] at hrefuses
      cases hrefuses
    rw [if_pos hany, or_iff_right hsome]
    constructor
    · rintro ⟨hkept, -⟩ type desc hlast
      have hsame := hkept rfl type
      unfold BridgeDecoder.submit at hsame
      simp only [hlast] at hsame
      exact hsame
    · intro halready
      refine ⟨fun _ type => ?_, fun hok => absurd hok (by decide)⟩
      unfold BridgeDecoder.submit
      simp only
      cases hlast : lastNaming type (decoder.accepted descs) with
      | none => exact ⟨rfl, rfl⟩
      | some desc => exact halready type desc hlast
  · have hnone : ∀ desc ∈ descs, decoder.refuses desc = false := by
      intro desc hmem
      rw [← Bool.not_eq_true]
      intro hrefuses
      exact hany (List.any_eq_true.mpr ⟨desc, hmem, hrefuses⟩)
    have hall : decoder.accepted descs = descs :=
      List.takeWhile_eq_self_iff.mpr fun desc hmem => by rw [hnone desc hmem, Bool.not_false]
    rw [if_neg hany, hall]
    constructor
    · exact fun _ => Or.inl hnone
    · intro _
      exact ⟨fun hinvalid => absurd hinvalid (by decide), fun _ _ => rfl⟩

/-- A decoder of which the application has only the buffer of the picture parameters. -/
def parametersOnly : BridgeDecoder :=
  (contextGetBuffer (some fun _ => 0) true 0 { desc := ⟨2, 2⟩ }).2

/-- The second descriptor is refused, and the first one has been taken over. -/
theorem partly_submitted : ¬SubmitsAllOrNothing parametersOnly [⟨0, 0, 1⟩, ⟨1, 0, 1⟩] := by
  rintro ⟨hkept, -⟩
  have hsize := (hkept rfl pictureParametersBuffer).2
  exact absurd hsize (by decide)

end UuAmfBridge
