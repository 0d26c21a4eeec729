import UuAmfBridge.Lib.Machine
import UuAmfBridge.Objects.Calls

/-!
# Lifetimes of the objects

Every object of the library lives exactly as long as somebody can reach it.

The account of the heap (`CountedHeap.Sound`) is kept by each call: what a call hands out
is added to the outside, and what it takes back is subtracted.  The outside is the client,
with the references it holds, the runtimes of `dxva_bridge.c`, and the packets that a freed
component has left behind.

* `destroys_decoder` and `destroys_component` are the two destructors that release other
  objects of the library.
* The section of the calls has one lemma for each function (`Pays`).
* `objects_kept`: along every run of a client that only uses references it holds, no call
  touches freed memory, and an object is alive exactly when it is reached from outside.
* `objects_returned`: when the client has given everything back, what is left are the
  packets that were queued in a component when it was freed.
-/

namespace UuAmfBridge

namespace Objects

open CountedHeap Counted

/-- Components and decoders hold objects of the library; the others hold none. -/
def depth : ObjectKind → Nat
  | .component => 0
  | .decoder => 0
  | _ => 1

section Account

variable {σ κ β : Type} {h : ObjectHeap σ} {out : Reference → ℤ} {dying : List Nat} {a : Nat}
  {k : ObjectKind} {w : Object σ}

theorem layered_object : Layered (Object σ) depth := by
  intro w k b hmem
  cases w with
  | context c => simp [holds, Object.holds] at hmem
  | surface s => simp [holds, Object.holds] at hmem
  | buffer b => simp [holds, Object.holds] at hmem
  | view v => simp [holds, Object.holds] at hmem
  | component c =>
    simp only [holds, Object.holds, List.mem_append, List.mem_map, List.mem_singleton] at hmem
    rcases hmem with ⟨b', -, heq⟩ | heq
    · cases heq
      exact Nat.zero_lt_one
    · cases heq
      exact Nat.zero_lt_one
  | decoder d =>
    simp only [holds, Object.holds, List.mem_append, List.mem_map, List.mem_singleton] at hmem
    rcases hmem with ⟨v, -, heq⟩ | heq
    · cases heq
      exact Nat.zero_lt_one
    · cases heq

/-! ## Objects without objects -/

theorem destroys_buffer : Destroys depth .buffer
    (fun _ : Object σ => giveBackAll []) (fun _ => []) := by
  refine destroys_foreign (fun _ => []) fun w hw => ?_
  cases w <;> first | rfl | cases hw

theorem destroys_surface : Destroys depth .surface
    (fun w : Object σ => giveBackAll (destroySurface w)) (fun _ => []) := by
  refine destroys_foreign destroySurface fun w hw => ?_
  cases w <;> first | rfl | cases hw

theorem destroys_context : Destroys depth .context
    (fun w : Object σ => giveBackAll (destroyContext w)) (fun _ => []) := by
  refine destroys_foreign destroyContext fun w hw => ?_
  cases w <;> first | rfl | cases hw

theorem destroys_view : Destroys depth .view
    (fun w : Object σ => giveBackAll (destroyView w)) (fun _ => []) := by
  refine destroys_foreign destroyView fun w hw => ?_
  cases w <;> first | rfl | cases hw

theorem solvent_leaf (hk : depth k = 1) (hforeign : ∀ x, 0 ≤ out (.foreign x)) :
    Solvent depth (depth k) out := by
  refine ⟨fun k' b hlt => ?_, hforeign⟩
  rw [hk] at hlt
  cases k' <;> exact absurd hlt (by decide)

/-- The rule of `Release` on an object that holds no object of the library. -/
theorem release_leaf {destroy : Object σ → ObjectHeap σ → Option (ObjectHeap σ)}
    (hdestroy : Destroys depth k destroy (fun _ => [])) (hk : depth k = 1)
    (hs : h.Sound out dying) (hpos : 0 < h.count (.object k a))
    (hforeign : ∀ x, 0 ≤ out (.foreign x)) :
    ∃ h', releaseWith destroy k a h = some h' ∧
      h'.Sound (fun t => out t - owed [.object k a] t) dying ∧ h.Keeps depth 1 h' ∧
      h.Lowers h' := by
  obtain ⟨w, h', -, -, hrelease, hs', hkeeps, hlowers⟩ :=
    hs.releaseWith hdestroy hpos (solvent_leaf hk hforeign)
  refine ⟨h', hrelease, hs'.congr fun t => ?_, hk ▸ hkeeps, hlowers⟩
  simp [owed]

theorem bufferRelease_sound (hs : h.Sound out dying) (hpos : 0 < h.count (.object .buffer a))
    (hforeign : ∀ x, 0 ≤ out (.foreign x)) :
    ∃ h', bufferRelease a h = some h' ∧
      h'.Sound (fun t => out t - owed [.object .buffer a] t) dying ∧ h.Keeps depth 1 h' ∧
      h.Lowers h' :=
  release_leaf destroys_buffer rfl hs hpos hforeign

theorem contextRelease_sound (hs : h.Sound out dying) (hpos : 0 < h.count (.object .context a))
    (hforeign : ∀ x, 0 ≤ out (.foreign x)) :
    ∃ h', contextRelease a h = some h' ∧
      h'.Sound (fun t => out t - owed [.object .context a] t) dying ∧ h.Keeps depth 1 h' ∧
      h.Lowers h' :=
  release_leaf destroys_context rfl hs hpos hforeign

theorem viewRelease_sound (hs : h.Sound out dying) (hpos : 0 < h.count (.object .view a))
    (hforeign : ∀ x, 0 ≤ out (.foreign x)) :
    ∃ h', viewRelease a h = some h' ∧
      h'.Sound (fun t => out t - owed [.object .view a] t) dying ∧ h.Keeps depth 1 h' ∧
      h.Lowers h' :=
  release_leaf destroys_view rfl hs hpos hforeign

/-! ## Decoders and components -/

/-- The view that a decoder holds is released. -/
theorem releaseOutput_sound (hs : h.Sound out dying) (hcell : h.cell a = some w)
    {output : Option Nat} (hheld : ∀ view, output = some view → .object .view view ∈ holds w)
    (hview : ∀ b, 0 ≤ out (.object .view b)) (hforeign : ∀ x, 0 ≤ out (.foreign x)) :
    ∃ h', releaseOutput output h = some h' ∧
      h'.Sound (fun t => out t - owed (output.toList.map (.object .view)) t) dying ∧
      h.Keeps depth 1 h' ∧ h.Lowers h' := by
  cases output with
  | none =>
    exact ⟨h, rfl, hs.congr fun t => by simp [owed], fun _ _ hb _ => hb, Lowers.refl h⟩
  | some view =>
    have hpos := hs.count_pos_of_held hcell (hheld view rfl) (hview view)
    exact viewRelease_sound hs hpos hforeign

theorem destroys_decoder : Destroys depth .decoder
    (destroyDecoder : Object σ → ObjectHeap σ → Option (ObjectHeap σ)) (fun _ => []) := by
  intro a w h out dying hcell hkind hsolvent hs
  cases w with
  | decoder d =>
    have hheld : ∀ view, d.output = some view →
        .object .view view ∈ holds (Object.decoder d : Object σ) := by
      intro view hview
      simp [holds, Object.holds, hview]
    obtain ⟨h₁, hrelease, hs₁, hkeeps₁, hlowers₁⟩ := releaseOutput_sound hs hcell hheld
      (fun b => hsolvent.1 .view b Nat.zero_lt_one) hsolvent.2
    have hcell₁ : h₁.cell a = some (.decoder d) := hkeeps₁ a _ hcell Nat.zero_lt_one
    have hforeign₁ : ∀ x, 0 ≤ out (.foreign x) -
        owed (d.output.toList.map (Referent.object ObjectKind.view)) (.foreign x) := by
      intro x
      have hx := hsolvent.2 x
      cases d.output <;> simpa [owed] using hx
    have hroom : ∀ x, [D3dObject.device d.device].count x ≤ h₁.count (.foreign x : Reference) := by
      intro x
      have hge := hs₁.count_ge_of_held hcell₁ (hforeign₁ x)
      refine le_trans ?_ hge
      by_cases hx : D3dObject.device d.device = x
      · subst hx
        simp [holds, Object.holds]
      · simp [hx]
    obtain ⟨h₂, hback, hcell₂, hs₂, hlowers₂⟩ := hs₁.giveBackAll hroom
    refine ⟨h₂, ?_, hs₂.congr fun t => ?_, hkeeps₁.trans (keeps_of_cell_eq hcell₂),
      hlowers₁.trans hlowers₂⟩
    · show (releaseOutput d.output h).bind (giveBackAll [.device d.device]) = some h₂
      rw [hrelease]
      exact hback
    · simp only [owed, holds, Object.holds, List.count_append, List.map_cons, List.map_nil,
        List.count_nil]
      push_cast
      omega
  | context c => cases hkind
  | component c => cases hkind
  | surface s => cases hkind
  | buffer b => cases hkind
  | view v => cases hkind

/-- The loop of `component_close_codec`, on buffers that the component holds. -/
theorem releaseBuffers_sound {as : List Nat} (hs : h.Sound out dying)
    (hcell : h.cell a = some w) (hdepth : depth (kind w) = 0)
    (hroom : ∀ b, (as.count b : ℤ) ≤
      out (.object .buffer b) + (holds w).count (.object .buffer b))
    (hforeign : ∀ x, 0 ≤ out (.foreign x)) :
    ∃ h', releaseBuffers as h = some h' ∧
      h'.Sound (fun t => out t - owed (as.map (.object .buffer)) t) dying ∧
      h.Keeps depth 1 h' ∧ h.Lowers h' := by
  induction as generalizing h out with
  | nil =>
    exact ⟨h, rfl, hs.congr fun t => by simp [owed], fun _ _ hb _ => hb, Lowers.refl h⟩
  | cons b as ih =>
    have hclear := holders_clear (t := .object .buffer b) (hs.below a w hcell) hcell
    have hcount := hs.count_eq (.object .buffer b)
    have hb := hroom b
    have hpos : 0 < h.count (.object .buffer b) := by
      rw [List.count_cons_self] at hb
      push_cast at hb
      omega
    obtain ⟨h₁, hrelease, hs₁, hkeeps₁, hlowers₁⟩ := bufferRelease_sound hs hpos hforeign
    have hcell₁ : h₁.cell a = some w := hkeeps₁ a w hcell (by omega)
    obtain ⟨h₂, hrest, hs₂, hkeeps₂, hlowers₂⟩ := ih hs₁ hcell₁
      (by
        intro c
        have hc := hroom c
        by_cases hbc : b = c
        · subst hbc
          simp [owed] at hc ⊢
          omega
        · have hne : (Referent.object ObjectKind.buffer b : Reference) ≠ .object .buffer c := by
            rintro heq
            cases heq
            exact hbc rfl
          simp [owed, hbc, hne] at hc ⊢
          omega)
      (by
        intro x
        have hx := hforeign x
        simpa [owed] using hx)
    refine ⟨h₂, ?_, hs₂.congr fun t => ?_, hkeeps₁.trans hkeeps₂, hlowers₁.trans hlowers₂⟩
    · show (bufferRelease b h).bind (releaseBuffers as) = some h₂
      rw [hrelease]
      exact hrest
    · simp only [owed, List.map_cons, List.count_cons, List.count_nil]
      push_cast
      omega

/-- The queued packets that the destructor of a component leaves behind. -/
def losesOutputs (clears : Bool) : Object σ → List Reference
  | .component c => if clears then [] else c.outputs.contents.map (.object .buffer)
  | _ => []

theorem destroys_component (clears : Bool) : Destroys depth .component
    (destroyComponent clears : Object σ → ObjectHeap σ → Option (ObjectHeap σ))
    (losesOutputs clears) := by
  intro a w h out dying hcell hkind hsolvent hs
  cases w with
  | component c =>
    have hbuffers : ∃ h₁, (if clears then releaseBuffers c.outputs.contents h else some h) =
        some h₁ ∧ h₁.Sound (fun t => out t - owed (c.outputs.contents.map (.object .buffer)) t +
          owed (losesOutputs clears (.component c : Object σ)) t) dying ∧ h.Keeps depth 1 h₁ ∧
        h.Lowers h₁ := by
      cases clears with
      | false =>
        refine ⟨h, rfl, hs.congr fun t => ?_, fun _ _ hb _ => hb, Lowers.refl h⟩
        simp [losesOutputs]
      | true =>
        have hroom : ∀ b, (c.outputs.contents.count b : ℤ) ≤ out (.object .buffer b) +
            (holds (Object.component c)).count (.object .buffer b) := by
          intro b
          have hout := hsolvent.1 .buffer b Nat.zero_lt_one
          have hinj : Function.Injective (Referent.object ObjectKind.buffer : Nat → Reference) := by
            intro x y hxy
            cases hxy
            rfl
          have hcount : (holds (Object.component c)).count (.object .buffer b) =
              c.outputs.contents.count b := by
            simp [holds, Object.holds, List.count_map_of_injective _ _ hinj]
          omega
        obtain ⟨h₁, hrelease, hs₁, hkeeps₁, hlowers₁⟩ :=
          releaseBuffers_sound hs hcell rfl hroom hsolvent.2
        refine ⟨h₁, hrelease, hs₁.congr fun t => ?_, hkeeps₁, hlowers₁⟩
        simp [losesOutputs, owed]
    obtain ⟨h₁, hrelease, hs₁, hkeeps₁, hlowers₁⟩ := hbuffers
    have hcell₁ : h₁.cell a = some (.component c) := hkeeps₁ a _ hcell Nat.zero_lt_one
    have hnone : ∀ t : Reference, (∀ b, t ≠ .object .buffer b) →
        out t - owed (c.outputs.contents.map (.object .buffer)) t +
          owed (losesOutputs clears (.component c : Object σ)) t = out t := by
      intro t ht
      have hcount : (c.outputs.contents.map (Referent.object ObjectKind.buffer)).count t = 0 := by
        rw [List.count_eq_zero]
        intro hmem
        obtain ⟨b, -, hb⟩ := List.mem_map.mp hmem
        exact ht b hb.symm
      cases clears <;> simp [owed, losesOutputs, hcount]
    have hpos : 0 < h₁.count (.object .context c.context) := by
      refine hs₁.count_pos_of_held hcell₁ ?_ ?_
      · simp [holds, Object.holds]
      · rw [hnone _ fun b heq => by cases heq]
        exact hsolvent.1 .context c.context Nat.zero_lt_one
    obtain ⟨h₂, hcontext, hs₂, hkeeps₂, hlowers₂⟩ := contextRelease_sound hs₁ hpos fun x => by
      rw [hnone _ fun b heq => by cases heq]
      exact hsolvent.2 x
    refine ⟨h₂, ?_, hs₂.congr fun t => ?_, hkeeps₁.trans hkeeps₂, hlowers₁.trans hlowers₂⟩
    · show (if clears then releaseBuffers c.outputs.contents h else some h).bind
        (contextRelease c.context) = some h₂
      rw [hrelease]
      exact hcontext
    · simp only [owed, holds, Object.holds, List.count_append]
      push_cast
      omega
  | context c => cases hkind
  | surface s => cases hkind
  | buffer b => cases hkind
  | decoder d => cases hkind
  | view v => cases hkind

/-! ## The calls -/

/-- A call that touches nothing it must not.  The outside gains what is handed out and what
is lost, and gives up what it surrenders. -/
def Pays (out : Reference → ℤ) (surrenders lost : List Reference)
    (next : Option (Handed × ObjectHeap σ)) : Prop :=
  ∃ handed h', next = some (handed, h') ∧ handed.lost = lost ∧
    h'.Sound (fun t => out t - owed surrenders t + owed handed.given t + owed lost t) []

theorem pays_unchanged (hs : h.Sound out []) : Pays out [] [] (some ({}, h)) :=
  ⟨{}, h, rfl, rfl, hs.congr fun t => by simp [owed]⟩

theorem pays_map {next : Option (ObjectHeap σ)} {h' : ObjectHeap σ} {surrenders : List Reference}
    (heq : next = some h') (handed : Handed)
    (hs : h'.Sound (fun t => out t - owed surrenders t + owed handed.given t +
      owed handed.lost t) []) :
    Pays out surrenders handed.lost (next.map fun h => (handed, h)) :=
  ⟨handed, h', by rw [heq]; rfl, rfl, hs⟩

theorem contextCreate_pays (hs : h.Sound out []) (alloc : Bool) :
    Pays out [] [] (some (contextCreate alloc h)) := by
  cases alloc with
  | false => exact pays_unchanged hs
  | true =>
    refine ⟨_, _, rfl, rfl, (hs.extend (w := .context {}) rfl).congr fun t => ?_⟩
    simp [owed, holds, Object.holds, kind, Object.kind]

theorem bufferCreate_pays (hs : h.Sound out []) (alloc : Bool) (contents : BridgeBuffer) :
    Pays out [] [] (some (bufferCreate alloc contents h)) := by
  cases alloc with
  | false => exact pays_unchanged hs
  | true =>
    refine ⟨_, _, rfl, rfl, (hs.extend (w := .buffer { contents }) rfl).congr fun t => ?_⟩
    simp [owed, holds, Object.holds, kind, Object.kind]

theorem surfaceWrap_pays (hs : h.Sound out []) (alloc : Bool) (texture : Nat) :
    Pays out [] [] (some (surfaceWrap alloc texture h)) := by
  cases alloc with
  | false => exact pays_unchanged hs
  | true =>
    have hextend := hs.extend (w := .surface { texture }) rfl
    refine ⟨_, _, rfl, rfl, (hextend.take (.resource texture)).congr fun t => ?_⟩
    simp [owed, holds, Object.holds, kind, Object.kind]

theorem contextAllocSurface_pays (hs : h.Sound out []) (hout : ∀ t, 0 ≤ out t) (alloc : Bool)
    (texture : Nat) : Pays out [] [] (contextAllocSurface alloc texture h) := by
  obtain ⟨handed, h₁, hwrap, hlost, hs₁⟩ :=
    surfaceWrap_pays (hs.take (.resource texture)) alloc texture
  have hpos : 0 < h₁.count (.foreign (.resource texture) : Reference) := by
    refine hs₁.count_pos_of_outside ?_
    have hnonneg := hout (.foreign (.resource texture))
    simp only [owed, List.count_cons_self, List.count_nil]
    omega
  obtain ⟨h₂, hback, -, -, hs₂⟩ := hs₁.giveBack hpos
  have hwrap := Option.some.inj hwrap
  refine ⟨handed, h₂, ?_, hlost, hs₂.congr fun t => ?_⟩
  · unfold contextAllocSurface
    simp only [hwrap, hback, Option.map_some]
  · simp only
    omega

/-- `Acquire` and `AddRef`. -/
theorem acquire_pays (hs : h.Sound out []) (hpos : 0 < h.count (.object k a))
    (hroom : h.count (.object k a) + 1 < countLimit) :
    Pays out [] [] ((h.addRef k a).map fun h => ({ given := [.object k a] }, h)) := by
  obtain ⟨w, h', -, -, hadd, -, hs'⟩ := hs.addRef hpos hroom
  refine pays_map hadd _ (hs'.congr fun t => ?_)
  simp [owed]

theorem queryInterface_pays (hs : h.Sound out []) (hpos : 0 < h.count (.object k a))
    (hroom : h.count (.object k a) + 1 < countLimit) (iids : List Iid) (iid : Iid) (out' : Bool) :
    Pays out [] [] (queryInterface iids k a iid out' h) := by
  unfold queryInterface
  split
  · exact acquire_pays hs hpos hroom
  · exact pays_unchanged hs

theorem componentCreate_pays (hs : h.Sound out []) {context : Nat}
    (hpos : 0 < h.count (.object .context context))
    (hroom : h.count (.object .context context) + 1 < countLimit) (fresh : σ) (alloc : Bool) :
    Pays out [] [] (componentCreate fresh alloc context h) := by
  cases alloc with
  | false => exact pays_unchanged hs
  | true =>
    let w : Object σ := .component { context, component := fresh, valid := Ring.valid_empty }
    have hcount : (h.extend w).count (.object .context context) =
        h.count (.object .context context) := by
      have hnew := hs.count_extend (w := w) (t := .object .context context) rfl
      have hne : (Referent.object (kind w) h.next : Reference) ≠ .object .context context :=
        fun heq => by cases heq
      simp only [owed, List.count_cons_of_ne hne, List.count_nil] at hnew
      omega
    have hextend := hs.extend (w := w) rfl
    obtain ⟨v, h', -, -, hadd, -, hs'⟩ :=
      hextend.addRef (hcount ▸ hpos) (hcount ▸ hroom)
    refine pays_map hadd _ (hs'.congr fun t => ?_)
    simp [owed, w, holds, Object.holds, kind, Object.kind]

/-! ## The outputs of a component -/

theorem readComponent_eq {c : Component σ} (hcell : h.cell a = some (.component c)) :
    readComponent h a = some c := by
  simp [readComponent, hcell]

/-- The account behind a write to the array of outputs. -/
theorem Sound.putOutputs {c : Component σ} (hs : h.Sound out [])
    (hcell : h.cell a = some (.component c)) {outputs : Ring Nat bridgeMaxOutputs}
    (valid : outputs.Valid) :
    (h.put a (.component { c with outputs, valid })).Sound (fun t => out t +
      owed (c.outputs.contents.map (.object .buffer)) t -
      owed (outputs.contents.map (.object .buffer)) t) [] := by
  have hpos := hs.settled a _ hcell List.not_mem_nil
  refine (hs.putFields (v := .component { c with outputs, valid }) hcell rfl rfl hpos).congr
    fun t => ?_
  simp only [owed, holds, Object.holds, List.count_append]
  push_cast
  omega

/-- A component at the address of a call, with the account behind it. -/
def PaysComponent (a : Nat) (out : Reference → ℤ) (next : Option (Handed × ObjectHeap σ)) : Prop :=
  ∃ handed h' c, next = some (handed, h') ∧ h'.cell a = some (.component c) ∧
    handed.lost = [] ∧ h'.Sound (fun t => out t + owed handed.given t) []

/-- A new buffer is queued, or released when the array is full. -/
theorem queueBuffer_pays {c : Component σ} (hs : h.Sound out [])
    (hcell : h.cell a = some (.component c)) (hout : ∀ t, 0 ≤ out t) (contents : BridgeBuffer) :
    PaysComponent a out (playOutput a (.offer contents) h) := by
  let w : Object σ := .buffer { contents }
  have hne : a ≠ h.next := Nat.ne_of_lt (hs.below a _ hcell)
  have hcell₁ : (h.extend w).cell a = some (.component c) := (extend_cell_of_ne hne).trans hcell
  have hs₁ : (h.extend w).Sound (fun t => out t + owed [.object .buffer h.next] t) [] :=
    (hs.extend (w := w) rfl).congr fun t => by
      simp [owed, w, holds, Object.holds, kind, Object.kind]
  show PaysComponent a out ((queueBuffer a h.next (h.extend w)).map fun h => ({}, h))
  unfold queueBuffer
  rw [readComponent_eq hcell₁]
  simp only [Option.bind_some]
  split
  next hpush =>
    have hpos : 0 < (h.extend w).count (.object .buffer h.next) := by
      refine hs₁.count_pos_of_outside ?_
      have hnonneg := hout (.object .buffer h.next)
      simp only [owed, List.count_cons_self, List.count_nil]
      omega
    obtain ⟨h₂, hrelease, hs₂, hkeeps, -⟩ := bufferRelease_sound hs₁ hpos fun x => by
      simpa [owed] using hout (.foreign x)
    refine ⟨{}, h₂, c, by rw [hrelease]; rfl, hkeeps a _ hcell₁ Nat.zero_lt_one, rfl,
      hs₂.congr fun t => ?_⟩
    simp [owed]
  next outputs hpush =>
    obtain ⟨hvalid, hcontents⟩ := c.valid.push hpush
    refine ⟨{}, _, _, rfl, put_cell_self, rfl, (Sound.putOutputs hs₁ hcell₁ hvalid).congr
      fun t => ?_⟩
    simp only [hcontents, owed, List.map_append, List.count_append, List.map_cons, List.map_nil,
      List.count_nil]
    push_cast
    omega

/-- A packet that is taken goes to the client with the reference of the array. -/
theorem takeBuffer_pays {c : Component σ} (hs : h.Sound out [])
    (hcell : h.cell a = some (.component c)) :
    PaysComponent a out (playOutput a .take h) := by
  show PaysComponent a out (takeBuffer a h)
  unfold takeBuffer
  rw [readComponent_eq hcell]
  simp only [Option.bind_some]
  split
  next hpop => exact ⟨{}, h, c, rfl, hcell, rfl, hs.congr fun t => by simp [owed]⟩
  next buffer outputs hpop =>
    obtain ⟨hvalid, b, hb, hcontents⟩ := c.valid.pop hpop
    refine ⟨_, _, _, rfl, put_cell_self, rfl, (Sound.putOutputs hs hcell hvalid).congr
      fun t => ?_⟩
    simp only [hb, hcontents, owed, List.map_cons, List.count_cons, Option.toList_some,
      List.map_nil, List.count_nil]
    push_cast
    omega

/-- A clear releases every queued packet. -/
theorem clearBuffers_pays {c : Component σ} (hs : h.Sound out [])
    (hcell : h.cell a = some (.component c)) (hout : ∀ t, 0 ≤ out t) :
    PaysComponent a out (playOutput a .clear h) := by
  have hinj : Function.Injective (Referent.object ObjectKind.buffer : Nat → Reference) := by
    intro x y hxy
    cases hxy
    rfl
  have hroom : ∀ b, (c.outputs.contents.count b : ℤ) ≤ out (.object .buffer b) +
      (holds (Object.component c)).count (.object .buffer b) := by
    intro b
    have hnonneg := hout (.object .buffer b)
    have hcount : (holds (Object.component c)).count (.object .buffer b) =
        c.outputs.contents.count b := by
      simp [holds, Object.holds, List.count_map_of_injective _ _ hinj]
    omega
  obtain ⟨h₁, hrelease, hs₁, hkeeps, -⟩ :=
    releaseBuffers_sound hs hcell rfl hroom fun x => hout (.foreign x)
  have hcell₁ : h₁.cell a = some (.component c) := hkeeps a _ hcell Nat.zero_lt_one
  have hclear : clearBuffers a h = some (h₁.put a
      (.component { c with outputs := Ring.empty, valid := Ring.valid_empty })) := by
    unfold clearBuffers
    rw [readComponent_eq hcell]
    simp only [Option.bind_some, hrelease, readComponent_eq hcell₁, Option.map_some]
  refine ⟨{}, _, _, ?_, put_cell_self, rfl,
    (Sound.putOutputs hs₁ hcell₁ Ring.valid_empty).congr fun t => ?_⟩
  · show (clearBuffers a h).map (fun h => (({} : Handed), h)) = _
    rw [hclear]
    rfl
  · simp only [owed, Ring.contents_empty, List.map_nil, List.count_nil]
    push_cast
    omega

theorem playOutput_pays {c : Component σ} (hs : h.Sound out [])
    (hcell : h.cell a = some (.component c)) (hout : ∀ t, 0 ≤ out t) (op : RingOp BridgeBuffer) :
    PaysComponent a out (playOutput a op h) := by
  cases op with
  | offer contents => exact queueBuffer_pays hs hcell hout contents
  | take => exact takeBuffer_pays hs hcell
  | clear => exact clearBuffers_pays hs hcell hout

theorem playOutputs_pays {c : Component σ} (hs : h.Sound out [])
    (hcell : h.cell a = some (.component c)) (hout : ∀ t, 0 ≤ out t)
    (ops : List (RingOp BridgeBuffer)) : PaysComponent a out (playOutputs a ops h) := by
  induction ops generalizing h out c with
  | nil => exact ⟨{}, h, c, rfl, hcell, rfl, hs.congr fun t => by simp [owed]⟩
  | cons op ops ih =>
    obtain ⟨first, h₁, c₁, hfirst, hcell₁, -, hs₁⟩ := playOutput_pays hs hcell hout op
    obtain ⟨rest, h₂, c₂, hrest, hcell₂, -, hs₂⟩ := ih hs₁ hcell₁ fun t => by
      have hnonneg := hout t
      simp only [owed]
      omega
    refine ⟨{ given := first.given ++ rest.given }, h₂, c₂, ?_, hcell₂, rfl,
      hs₂.congr fun t => ?_⟩
    · show (playOutput a op h).bind _ = _
      rw [hfirst]
      simp only [Option.bind_some, hrest, Option.map_some]
    · simp only [owed, List.count_append]
      push_cast
      omega

/-- A pointer whose object has a count can be read. -/
theorem pointerLive_of_count {pointer : Option (ObjectKind × Nat)}
    (hpos : ∀ t ∈ pointerReference pointer, 0 < h.count t) : pointerLive pointer h = true := by
  cases pointer with
  | none => rfl
  | some object =>
    obtain ⟨w, hread, -⟩ := exists_read_of_count_pos
      (hpos (.object object.1 object.2) (List.mem_singleton.mpr rfl))
    simp [pointerLive, hread]

/-- The component at an address with a count. -/
theorem component_of_count (hpos : 0 < h.count (.object .component a)) :
    ∃ c, h.cell a = some (.component c) := by
  obtain ⟨w, hread, -⟩ := exists_read_of_count_pos hpos
  obtain ⟨hcell, hkind⟩ := read_eq_some.mp hread
  cases w with
  | component c => exact ⟨c, hcell⟩
  | context c => cases hkind
  | surface s => cases hkind
  | buffer b => cases hkind
  | decoder d => cases hkind
  | view v => cases hkind

theorem context_of_count (hpos : 0 < h.count (.object .context a)) :
    ∃ c, h.cell a = some (.context c) := by
  obtain ⟨w, hread, -⟩ := exists_read_of_count_pos hpos
  obtain ⟨hcell, hkind⟩ := read_eq_some.mp hread
  cases w with
  | context c => exact ⟨c, hcell⟩
  | component c => cases hkind
  | surface s => cases hkind
  | buffer b => cases hkind
  | decoder d => cases hkind
  | view v => cases hkind

/-- A call on a component. -/
theorem componentCall_pays (build : ObjectBuild σ κ β) (hs : h.Sound out [])
    (hout : ∀ t, 0 ≤ out t) (hpos : 0 < h.count (.object .component a)) (call : κ)
    (data : Option (ObjectKind × Nat)) (hdata : ∀ t ∈ pointerReference data, 0 < h.count t) :
    Pays out [] [] (componentCall build a call data h) := by
  obtain ⟨c, hcell⟩ := component_of_count hpos
  have hcontext : 0 < h.count (.object .context c.context) := by
    refine hs.count_pos_of_held hcell ?_ (hout _)
    simp [holds, Object.holds]
  obtain ⟨context, hcontext⟩ := context_of_count hcontext
  have hreads : (data.isNone || (pointerLive data h && (readContext h c.context).isSome)) =
      true := by
    rw [pointerLive_of_count hdata]
    simp [readContext, hcontext]
  let next : Component σ := { c with component := (build.calls.step c.component call).1 }
  have hs₁ : (h.put a (.component next)).Sound out [] := by
    have hrefs := hs.settled a _ hcell List.not_mem_nil
    refine (hs.putFields (v := .component next) hcell rfl rfl hrefs).congr fun t => ?_
    simp only [holds, Object.holds, next]
    omega
  obtain ⟨handed, h₂, c₂, hplay, -, hlost, hs₂⟩ := playOutputs_pays hs₁ put_cell_self hout
    (build.ringOps c.component call)
  refine ⟨handed, h₂, ?_, hlost, hs₂.congr fun t => ?_⟩
  · unfold componentCall
    rw [readComponent_eq hcell]
    simp only [Option.bind_some, hreads, if_true]
    exact hplay
  · simp [owed]

/-! ## Releases of the client -/

theorem release_leaf_pays {destroy : Object σ → ObjectHeap σ → Option (ObjectHeap σ)}
    (hdestroy : Destroys depth k destroy (fun _ => [])) (hk : depth k = 1)
    (hs : h.Sound out []) (hout : ∀ t, 0 ≤ out t) (hpos : 0 < h.count (.object k a)) :
    Pays out [.object k a] [] ((releaseWith destroy k a h).map fun h => ({}, h)) := by
  obtain ⟨h', hrelease, hs', -, -⟩ := release_leaf hdestroy hk hs hpos fun x => hout (.foreign x)
  refine pays_map hrelease {} (hs'.congr fun t => ?_)
  simp [owed]

/-- `Release` on an object of any kind. -/
theorem releaseOf_pays (hs : h.Sound out []) (hout : ∀ t, 0 ≤ out t)
    (hpos : 0 < h.count (.object k a)) (clears : Bool) :
    Pays out [.object k a] (lostBy clears k a h)
      ((releaseOf clears k a h).map fun h' => ({ lost := lostBy clears k a h }, h')) := by
  have hsolvent : Solvent depth (depth k) out :=
    ⟨fun k' b _ => hout _, fun x => hout _⟩
  cases k with
  | context => exact release_leaf_pays destroys_context rfl hs hout hpos
  | surface => exact release_leaf_pays destroys_surface rfl hs hout hpos
  | buffer => exact release_leaf_pays destroys_buffer rfl hs hout hpos
  | view => exact release_leaf_pays destroys_view rfl hs hout hpos
  | decoder =>
    obtain ⟨w, h', -, -, hrelease, hs', -, -⟩ := hs.releaseWith destroys_decoder hpos hsolvent
    refine pays_map hrelease _ (hs'.congr fun t => ?_)
    simp [owed, lostBy]
  | component =>
    obtain ⟨w, h', hcell, hkind, hrelease, hs', -, -⟩ :=
      hs.releaseWith (destroys_component clears) hpos hsolvent
    have hrefs := hs.settled a w hcell List.not_mem_nil
    cases w with
    | component c =>
      refine pays_map hrelease _ (hs'.congr fun t => ?_)
      change 0 < c.refs at hrefs
      have hlast : refs (Object.component c) - 1 = 0 ↔ c.refs = 1 := by
        show c.refs - 1 = 0 ↔ c.refs = 1
        omega
      have hlost : lostBy clears .component a h =
          if refs (Object.component c) - 1 = 0 then
            losesOutputs clears (setRefs (refs (Object.component c) - 1) (Object.component c))
          else [] := by
        unfold lostBy
        rw [readComponent_eq hcell]
        by_cases hone : c.refs = 1
        · rw [if_pos (hlast.mpr hone)]
          cases clears <;> simp [hone, losesOutputs, setRefs, Object.setRefs]
        · rw [if_neg fun hzero => hone (hlast.mp hzero)]
          simp [hone]
      simp [hlost, owed]
    | context c => cases hkind
    | surface s => cases hkind
    | buffer b => cases hkind
    | decoder d => cases hkind
    | view v => cases hkind

theorem releaseD3d_pays (hs : h.Sound out []) {x : D3dObject}
    (hpos : 0 < h.count (.foreign x : Reference)) :
    Pays out [.foreign x] [] ((h.giveBack x).map fun h => ({}, h)) := by
  obtain ⟨h', hback, -, -, hs'⟩ := hs.giveBack hpos
  refine pays_map hback {} (hs'.congr fun t => ?_)
  simp [owed]

/-! ## Decoders and views -/

theorem decoder_of_count (hpos : 0 < h.count (.object .decoder a)) :
    ∃ d, h.cell a = some (.decoder d) := by
  obtain ⟨w, hread, -⟩ := exists_read_of_count_pos hpos
  obtain ⟨hcell, hkind⟩ := read_eq_some.mp hread
  cases w with
  | decoder d => exact ⟨d, hcell⟩
  | context c => cases hkind
  | component c => cases hkind
  | surface s => cases hkind
  | buffer b => cases hkind
  | view v => cases hkind

theorem view_of_count (hpos : 0 < h.count (.object .view a)) :
    ∃ v, h.cell a = some (.view v) := by
  obtain ⟨w, hread, -⟩ := exists_read_of_count_pos hpos
  obtain ⟨hcell, hkind⟩ := read_eq_some.mp hread
  cases w with
  | view v => exact ⟨v, hcell⟩
  | context c => cases hkind
  | component c => cases hkind
  | surface s => cases hkind
  | buffer b => cases hkind
  | decoder d => cases hkind

theorem readDecoder_eq {d : Decoder} (hcell : h.cell a = some (.decoder d)) :
    readDecoder h a = some d := by
  simp [readDecoder, hcell]

theorem readView_eq {v : OutputView} (hcell : h.cell a = some (.view v)) :
    readView h a = some v := by
  simp [readView, hcell]

/-- A call that hands out a foreign object with a reference of its own. -/
theorem take_pays (hs : h.Sound out []) (x : D3dObject) :
    Pays out [] [] (some ({ given := [.foreign x] }, h.take x)) :=
  ⟨_, _, rfl, rfl, (hs.take x).congr fun t => by simp [owed]⟩

theorem decoderGetDevice_pays (hs : h.Sound out []) (hpos : 0 < h.count (.object .decoder a)) :
    Pays out [] [] (decoderGetDevice a h) := by
  obtain ⟨d, hcell⟩ := decoder_of_count hpos
  unfold decoderGetDevice
  rw [readDecoder_eq hcell]
  exact take_pays hs _

theorem viewGetDevice_pays (hs : h.Sound out []) (hpos : 0 < h.count (.object .view a)) :
    Pays out [] [] (viewGetDevice a h) := by
  obtain ⟨v, hcell⟩ := view_of_count hpos
  unfold viewGetDevice
  rw [readView_eq hcell]
  exact take_pays hs _

theorem viewGetResource_pays (hs : h.Sound out []) (hpos : 0 < h.count (.object .view a)) :
    Pays out [] [] (viewGetResource a h) := by
  obtain ⟨v, hcell⟩ := view_of_count hpos
  unfold viewGetResource
  rw [readView_eq hcell]
  exact take_pays hs _

/-- `context_begin_frame`.  The client holds the view, so the release of the view before
leaves it alive, also when it is the same. -/
theorem contextBeginFrame_pays (hs : h.Sound out []) (hout : ∀ t, 0 ≤ out t)
    (hpos : 0 < h.count (.object .decoder a)) {view : Nat} (hview : 0 < out (.object .view view))
    (hroom : h.count (.object .view view) + 1 < countLimit) :
    Pays out [] [] ((contextBeginFrame a view h).map fun h => ({}, h)) := by
  obtain ⟨d, hcell⟩ := decoder_of_count hpos
  have hheld : ∀ v, d.output = some v → .object .view v ∈ holds (Object.decoder d : Object σ) := by
    intro v hv
    simp [holds, Object.holds, hv]
  obtain ⟨h₁, hrelease, hs₁, hkeeps₁, hlowers₁⟩ :=
    releaseOutput_sound hs hcell hheld (fun b => hout _) fun x => hout _
  have hcell₁ : h₁.cell a = some (.decoder d) := hkeeps₁ a _ hcell Nat.zero_lt_one
  obtain ⟨next, hnext⟩ : ∃ next : Object σ, next = .decoder { d with output := some view } :=
    ⟨_, rfl⟩
  have hkind : kind next = kind (Object.decoder d : Object σ) := hnext ▸ rfl
  have hsame : refs next = refs (Object.decoder d : Object σ) := hnext ▸ rfl
  have hholds : holds next = [.object .view view, .foreign (.device d.device)] := by
    rw [hnext]
    rfl
  have hbefore : holds (Object.decoder d : Object σ) =
      d.output.toList.map (.object .view) ++ [.foreign (.device d.device)] := rfl
  have hrefs := hs₁.settled a _ hcell₁ List.not_mem_nil
  have hs₂ := hs₁.putFields hcell₁ hkind hsame hrefs
  have hcount : (h₁.put a next).count (.object .view view) = h₁.count (.object .view view) :=
    count_putFields hcell₁ hkind hsame
  have hpos₂ : 0 < (h₁.put a next).count (.object .view view) := by
    have hholders := holders_pos (t := .object .view view) (hs₂.below a next put_cell_self)
      put_cell_self (by simp [hholds])
    have heq := hs₂.count_eq (.object .view view)
    simp only [owed, hholds, hbefore, List.count_append, List.count_cons_self] at heq
    push_cast at heq
    omega
  have hroom₂ : (h₁.put a next).count (.object .view view) + 1 < countLimit := by
    have hle := hlowers₁ (.object .view view)
    omega
  obtain ⟨w, h₃, -, -, hadd, -, hs₃⟩ := hs₂.addRef hpos₂ hroom₂
  refine pays_map ?_ {} (hs₃.congr fun t => ?_)
  · unfold contextBeginFrame
    rw [readDecoder_eq hcell]
    simp only [Option.bind_some, hrelease, readDecoder_eq hcell₁]
    rw [← hnext]
    exact hadd
  · simp only [owed, hholds, hbefore, List.count_append, List.count_cons, List.count_nil]
    push_cast
    omega

theorem contextEndFrame_pays (hs : h.Sound out []) (hout : ∀ t, 0 ≤ out t)
    (hpos : 0 < h.count (.object .decoder a)) (frame texture : Bool) :
    Pays out [] [] ((contextEndFrame frame texture a h).map fun h => ({}, h)) := by
  obtain ⟨d, hcell⟩ := decoder_of_count hpos
  unfold contextEndFrame
  rw [readDecoder_eq hcell]
  simp only [Option.bind_some]
  cases frame with
  | false => exact pays_unchanged hs
  | true =>
    simp only [Bool.not_true, Bool.false_eq_true, if_false]
    split
    · exact pays_unchanged hs
    next output houtput =>
      have hheld : .object .view output ∈ holds (Object.decoder d : Object σ) := by
        simp [holds, Object.holds, houtput]
      obtain ⟨v, hv⟩ := view_of_count (hs.count_pos_of_held hcell hheld (hout _))
      rw [readView_eq hv]
      simp only [Option.bind_some]
      cases texture with
      | false => exact pays_unchanged hs
      | true =>
        have hs₁ := hs.take (.resource v.resource)
        have hpos₁ : 0 < (h.take (.resource v.resource)).count
            (.foreign (.resource v.resource) : Reference) := by
          refine hs₁.count_pos_of_outside ?_
          have hnonneg := hout (.foreign (.resource v.resource))
          simp only [owed, List.count_cons_self, List.count_nil]
          omega
        obtain ⟨h₂, hback, -, -, hs₂⟩ := hs₁.giveBack hpos₁
        refine pays_map hback {} (hs₂.congr fun t => ?_)
        simp [owed]

/-! ## The library -/

/-- What the runtimes of `dxva_bridge.c` hold. -/
def runtimesHold (dxva : DxvaRuntimes) : Reference → ℤ :=
  owed ((runtimeReferences dxva.runtimes).map .foreign)

/-- The account of the library: the outside is the client's part and the runtimes. -/
structure Accounted (table : D3dInterface → Nat) (client : Reference → ℤ)
    (library : Library σ) : Prop where
  sound : library.heap.Sound (fun t => client t + runtimesHold library.dxva t) []
  wired : RuntimesWired table library.dxva

/-- `Pays`, for a call on the library. -/
def LibraryPays (table : D3dInterface → Nat) (client : Reference → ℤ)
    (surrenders lost : List Reference) (next : Option (Handed × Library σ)) : Prop :=
  ∃ handed library, next = some (handed, library) ∧ handed.lost = lost ∧
    Accounted table
      (fun t => client t - owed surrenders t + owed handed.given t + owed lost t) library

section Libraries

variable {table : D3dInterface → Nat} {client : Reference → ℤ} {library : Library σ}

/-- A call that changes the heap alone. -/
theorem onHeap_pays (hw : RuntimesWired table library.dxva) {surrenders lost : List Reference}
    {next : Option (Handed × ObjectHeap σ)}
    (hpays : Pays (fun t => client t + runtimesHold library.dxva t) surrenders lost next) :
    LibraryPays table client surrenders lost (onHeap library next) := by
  obtain ⟨handed, h', hnext, hlost, hs⟩ := hpays
  refine ⟨handed, { library with heap := h' }, by rw [hnext]; rfl, hlost, hs.congr fun t => ?_, hw⟩
  simp only
  omega

theorem library_unchanged (hl : Accounted table client library) :
    LibraryPays table client [] [] (some ({}, library)) :=
  ⟨{}, library, rfl, rfl, hl.sound.congr fun t => by simp [owed], hl.wired⟩

theorem Sound.takeAll (hs : h.Sound out dying) (xs : List D3dObject) :
    (takeAll xs h).Sound (fun t => out t + owed (xs.map .foreign) t) dying := by
  induction xs generalizing h out with
  | nil => exact hs.congr fun t => by simp [owed]
  | cons x xs ih =>
    refine (ih (hs.take x)).congr fun t => ?_
    simp only [owed, List.map_cons, List.count_cons, List.count_nil]
    push_cast
    omega

/-- The references of the runtimes are those of their devices and contexts. -/
theorem runtimeReferences_eq (runtimes : List DxvaRuntime) : runtimeReferences runtimes =
    (runtimes.map DxvaRuntime.interfaces).flatMap fun interfaces =>
      [.device interfaces.1, .immediate interfaces.2] := by
  unfold runtimeReferences
  rw [List.flatMap_map]
  rfl

/-- Behind an installation the runtimes hold what they held before, and what the new entry
holds. -/
theorem runtimesHold_installed {env : DxvaInstallEnv} {device n : Nat} {state : DxvaRuntimes}
    {outcome : QueryOutcome}
    (hinstall : dxvaBridgeInstall env n device device state = some outcome) (t : Reference) :
    runtimesHold outcome.state t = runtimesHold state t +
      owed ((runtimeReferences (outcome.state.runtimes.drop state.runtimes.length)).map
        .foreign) t := by
  obtain ⟨added, hadded⟩ := dxvaBridgeInstall_interfaces hinstall
  have hlength : state.runtimes.length = (state.runtimes.map DxvaRuntime.interfaces).length :=
    (List.length_map _).symm
  have hdrop : (outcome.state.runtimes.drop state.runtimes.length).map DxvaRuntime.interfaces =
      added := by
    rw [List.map_drop, hadded, hlength, List.drop_left]
  unfold runtimesHold owed
  rw [runtimeReferences_eq, runtimeReferences_eq, runtimeReferences_eq, hdrop, hadded,
    List.flatMap_append, List.map_append, List.count_append]
  push_cast
  rfl

/-- `context_init_dx11`. -/
theorem contextInitDx11_pays (hl : Accounted table client library)
    (hshared : SharedTables table) (hclient : ∀ t, 0 ≤ client t)
    (hpos : 0 < library.heap.count (.object .context a)) (env : DxvaInstallEnv)
    (device : Option Nat) :
    LibraryPays table client [] []
      ((contextInitDx11 env a device library).map fun library => ({}, library)) := by
  obtain ⟨c, hcell⟩ := context_of_count hpos
  have hread : readContext library.heap a = some c := by simp [readContext, hcell]
  unfold contextInitDx11
  rw [hread]
  simp only [Option.bind_some]
  cases device with
  | none => exact library_unchanged hl
  | some device =>
    have hheld : holds (Object.context c : Object σ) =
        (destroyContext (Object.context c : Object σ)).map .foreign := rfl
    have hnonneg : ∀ t, 0 ≤ client t + runtimesHold library.dxva t := by
      intro t
      have ht := hclient t
      unfold runtimesHold owed
      omega
    have hroom : ∀ x, (destroyContext (Object.context c : Object σ)).count x ≤
        library.heap.count (.foreign x : Reference) := by
      intro x
      have hge := hl.sound.count_ge_of_held hcell (hnonneg (.foreign x))
      rw [hheld, List.count_map_of_injective] at hge
      · exact hge
      · intro y z hyz
        cases hyz
        rfl
    obtain ⟨h₁, hback, hcells, hs₁, -⟩ := hl.sound.giveBackAll hroom
    have hcell₁ : h₁.cell a = some (.context c) := hcells ▸ hcell
    obtain ⟨next, hnext⟩ : ∃ next : Object σ,
        next = .context { c with device := some device, immediate := some device } := ⟨_, rfl⟩
    have hholds : holds next = [.foreign (.immediate device), .foreign (.device device)] := by
      rw [hnext]
      rfl
    have hs₂ := hs₁.putFields (v := next) hcell₁ (hnext ▸ rfl) (hnext ▸ rfl)
      (hs₁.settled a _ hcell₁ List.not_mem_nil)
    have hs₃ := Sound.takeAll hs₂ [.device device, .immediate device]
    obtain ⟨outcome, hinstall, hreaches⟩ :
        ∃ outcome, dxvaBridgeInstall env 2 device device library.dxva = some outcome ∧
          InstallReaches table device library.dxva outcome :=
      dxvaBridgeInstall_wired hl.wired hshared env 1 device
    have hs₄ := Sound.takeAll hs₃ (runtimeReferences
      (outcome.state.runtimes.drop library.dxva.runtimes.length))
    refine ⟨{}, ⟨_, outcome.state⟩, ?_, rfl, hs₄.congr fun t => ?_, hreaches.wired⟩
    · simp only [hback, Option.bind_some, hinstall, Option.map_some, ← hnext]
      rfl
    · have hinstalled := runtimesHold_installed hinstall t
      simp only
      rw [hinstalled]
      simp only [owed, hholds, hheld, List.map_cons, List.map_nil, List.count_cons,
        List.count_nil]
      push_cast
      omega

/-- The index of a runtime that is found is one of an entry. -/
theorem getElem?_of_runtimeFrom {address : Nat → VtblPointer} {state : DxvaRuntimes}
    {iface : D3dInterface} {i : Nat} (hfound : state.runtimeFrom address iface = some i) :
    ∃ runtime, state.runtimes[i]? = some runtime := by
  have hmem := List.mem_of_find?_eq_some hfound
  exact ⟨_, List.getElem?_eq_getElem (List.mem_range.mp hmem)⟩

theorem videoCreateDecoder_pays (hs : library.heap.Sound out []) (accepted alloc : Bool)
    (iface : D3dInterface) :
    Pays out [] [] (videoCreateDecoder accepted alloc iface library) := by
  unfold videoCreateDecoder
  split
  · exact pays_unchanged hs
  next i hfound =>
    obtain ⟨runtime, hruntime⟩ := getElem?_of_runtimeFrom hfound
    rw [hruntime]
    simp only [Option.map_some]
    split
    · have hextend := hs.extend (w := .decoder { device := runtime.device }) rfl
      refine ⟨_, _, rfl, rfl, (hextend.take (.device runtime.device)).congr fun t => ?_⟩
      simp [owed, holds, Object.holds, kind, Object.kind]
    · exact pays_unchanged hs

theorem videoCreateOutput_pays (hs : library.heap.Sound out []) (accepted alloc : Bool)
    (iface : D3dInterface) (resource : Option Nat) :
    Pays out [] [] (videoCreateOutput accepted alloc iface resource library) := by
  unfold videoCreateOutput
  split
  · exact pays_unchanged hs
  next i hfound =>
    obtain ⟨runtime, hruntime⟩ := getElem?_of_runtimeFrom hfound
    rw [hruntime]
    simp only [Option.map_some]
    cases resource with
    | none => exact pays_unchanged hs
    | some resource =>
      simp only
      split
      · have hextend := hs.extend (w := .view { device := runtime.device, resource }) rfl
        refine ⟨_, _, rfl, rfl, (Sound.takeAll hextend
          [.device runtime.device, .resource resource]).congr fun t => ?_⟩
        simp only [owed, holds, Object.holds, kind, Object.kind, List.map_cons, List.map_nil,
          List.count_cons, List.count_nil]
        push_cast
        omega
      · exact pays_unchanged hs

/-- The packets that nobody holds behind a call. -/
def Call.loses (clears : Bool) (library : Library σ) : Call κ → List Reference
  | .release k a => lostBy clears k a library.heap
  | _ => []

theorem withLive_eq {next : Handed × ObjectHeap σ} (hpos : 0 < h.count (.object k a)) :
    withLive k a h next = some next := by
  obtain ⟨w, hread, -⟩ := exists_read_of_count_pos hpos
  unfold withLive
  rw [hread]
  rfl

/-- `context_begin_frame` on pointers that are held. -/
theorem beginFrame_pays (hl : Accounted table client library) (hclient : ∀ t, 0 ≤ client t)
    (build : ObjectBuild σ κ β) {decoder view : Option (ObjectKind × Nat)}
    (hdecoder : ∀ t ∈ pointerReference decoder, 0 < client t)
    (hview : ∀ t ∈ pointerReference view, 0 < client t)
    (hroom : ∀ k b, .object k b ∈ pointerReference view →
      library.heap.count (.object k b) + 1 < countLimit) :
    LibraryPays table client [] [] (library.call build (.beginFrame decoder view)) := by
  have houtside : ∀ t, client t ≤ client t + runtimesHold library.dxva t := by
    intro t
    unfold runtimesHold owed
    omega
  have hcount : ∀ t, 0 < client t → 0 < library.heap.count t := fun t ht =>
    hl.sound.count_pos_of_outside (lt_of_lt_of_le ht (houtside t))
  have hlive : (pointerLive decoder library.heap && pointerLive view library.heap) = true := by
    rw [pointerLive_of_count fun t ht => hcount t (hdecoder t ht),
      pointerLive_of_count fun t ht => hcount t (hview t ht)]
    rfl
  show LibraryPays table client [] [] (if pointerLive decoder library.heap &&
    pointerLive view library.heap then _ else none)
  rw [if_pos hlive]
  split
  next a b =>
    have ha := hdecoder (.object .decoder a) (List.mem_singleton.mpr rfl)
    have hb := hview (.object .view b) (List.mem_singleton.mpr rfl)
    refine onHeap_pays hl.wired (contextBeginFrame_pays hl.sound
      (fun t => le_trans (hclient t) (houtside t)) (hcount _ ha)
      (lt_of_lt_of_le hb (houtside _)) ?_)
    exact hroom .view b (List.mem_singleton.mpr rfl)
  next => exact library_unchanged hl

/-- One call of a client that holds the references behind its pointers. -/
theorem call_pays (build : ObjectBuild σ κ β) (hl : Accounted table client library)
    (hshared : SharedTables table) (hclient : ∀ t, 0 ≤ client t) (call : Call κ)
    (huses : ∀ t ∈ call.uses, 0 < client t)
    (hroom : ∀ k a, .object k a ∈ call.uses →
      library.heap.count (.object k a) + 1 < countLimit) :
    LibraryPays table client call.surrenders (call.loses build.clears library)
      (library.call build call) := by
  have hs := hl.sound
  have houtside : ∀ t, client t ≤ client t + runtimesHold library.dxva t := by
    intro t
    unfold runtimesHold owed
    omega
  have hout : ∀ t, 0 ≤ client t + runtimesHold library.dxva t := fun t =>
    le_trans (hclient t) (houtside t)
  have hcount : ∀ t ∈ call.uses, 0 < library.heap.count t := fun t ht =>
    hs.count_pos_of_outside (lt_of_lt_of_le (huses t ht) (houtside t))
  cases call with
  | createContext alloc => exact onHeap_pays hl.wired (contextCreate_pays hs alloc)
  | createComponent context known alloc =>
    have hpos := hcount (.object .context context) List.mem_cons_self
    refine onHeap_pays hl.wired ?_
    cases known with
    | true =>
      exact componentCreate_pays hs hpos (hroom .context context List.mem_cons_self) build.fresh alloc
    | false =>
      show Pays _ [] [] (withLive .context context library.heap ({}, library.heap))
      rw [withLive_eq hpos]
      exact pays_unchanged hs
  | initDx11 context device env =>
    exact contextInitDx11_pays hl hshared hclient
      (hcount (.object .context context) List.mem_cons_self) env device
  | createBuffer context valid alloc contents =>
    refine onHeap_pays hl.wired ?_
    rw [withLive_eq (hcount (.object .context context) List.mem_cons_self)]
    cases valid with
    | true => exact bufferCreate_pays hs alloc contents
    | false => exact pays_unchanged hs
  | createSurface context texture alloc =>
    refine onHeap_pays hl.wired ?_
    rw [withLive_eq (hcount (.object .context context) List.mem_cons_self)]
    cases texture with
    | none => exact pays_unchanged hs
    | some texture => exact surfaceWrap_pays hs alloc texture
  | allocSurface context texture alloc =>
    obtain ⟨w, hread, -⟩ :=
      exists_read_of_count_pos (hcount (.object .context context) List.mem_cons_self)
    refine onHeap_pays hl.wired ?_
    rw [hread]
    cases texture with
    | none => exact pays_unchanged hs
    | some texture => exact contextAllocSurface_pays hs hout alloc texture
  | acquire k a =>
    exact onHeap_pays hl.wired (acquire_pays hs (hcount _ List.mem_cons_self)
      (hroom k a List.mem_cons_self))
  | release k a =>
    exact onHeap_pays hl.wired (releaseOf_pays hs hout (hcount _ List.mem_cons_self) build.clears)
  | query k a iid out =>
    exact onHeap_pays hl.wired (queryInterface_pays hs (hcount _ List.mem_cons_self)
      (hroom k a List.mem_cons_self) (answeredIids k) iid out)
  | planeAcquire surface =>
    exact onHeap_pays hl.wired (acquire_pays hs (hcount _ List.mem_cons_self)
      (hroom .surface surface List.mem_cons_self))
  | planeRelease surface =>
    exact onHeap_pays hl.wired
      (release_leaf_pays destroys_surface rfl hs hout (hcount _ List.mem_cons_self))
  | planeQuery surface iid out =>
    exact onHeap_pays hl.wired (queryInterface_pays hs (hcount _ List.mem_cons_self)
      (hroom .surface surface List.mem_cons_self) planeIids iid out)
  | component a call data =>
    exact onHeap_pays hl.wired (componentCall_pays build hs hout (hcount _ List.mem_cons_self)
      call data fun t ht => hcount t (List.mem_cons_of_mem _ ht))
  | queryD3d env out iid iface =>
    obtain ⟨outcome, hquery, hreaches⟩ := callQuery_wired hl.wired hshared env out iid 0 iface
    have hhold : runtimesHold outcome.state = runtimesHold library.dxva := by
      unfold runtimesHold
      rw [runtimeReferences_eq, runtimeReferences_eq, callQuery_interfaces hquery]
    refine ⟨{}, { library with dxva := outcome.state }, ?_, rfl, hs.congr fun t => ?_,
      hreaches.wired⟩
    · show (callQuery env out iid 2 _ iface library.dxva).map _ = _
      rw [hquery]
      rfl
    · simp only [hhold]
      simp [owed, Call.surrenders, Call.loses]
  | releaseD3d x =>
    exact onHeap_pays hl.wired (releaseD3d_pays hs (hcount _ List.mem_cons_self))
  | createDecoder device number accepted alloc =>
    exact onHeap_pays hl.wired
      (videoCreateDecoder_pays hs accepted alloc (.videoDevice device number))
  | createOutput device number resource accepted alloc =>
    exact onHeap_pays hl.wired
      (videoCreateOutput_pays hs accepted alloc (.videoDevice device number) resource)
  | decoderGetDevice a =>
    exact onHeap_pays hl.wired (decoderGetDevice_pays hs (hcount _ List.mem_cons_self))
  | viewGetDevice a =>
    exact onHeap_pays hl.wired (viewGetDevice_pays hs (hcount _ List.mem_cons_self))
  | viewGetResource a =>
    exact onHeap_pays hl.wired (viewGetResource_pays hs (hcount _ List.mem_cons_self))
  | beginFrame decoder view =>
    exact beginFrame_pays hl hclient build
      (fun t ht => huses t (List.mem_append_left _ ht))
      (fun t ht => huses t (List.mem_append_right _ ht))
      (fun k b hb => hroom k b (List.mem_append_right _ hb))
  | endFrame decoder frame texture =>
    show LibraryPays table client [] [] (if pointerLive decoder library.heap then _ else none)
    rw [if_pos (pointerLive_of_count hcount)]
    split
    next a =>
      exact onHeap_pays hl.wired
        (contextEndFrame_pays hs hout (hcount _ (List.mem_singleton.mpr rfl)) frame texture)
    next => exact library_unchanged hl

end Libraries

end Account

/-! ## Runs -/

/-- The references the client holds, and the packets that nobody holds any more. -/
structure Client where
  hands : Reference → Nat := fun _ => 0
  lost : List Reference := []

/-- The library and its client. -/
structure Usage (σ : Type) where
  library : Library σ
  client : Client := {}

section Runs

variable {σ κ β : Type}

/-- The client behind a call. -/
def Client.after (client : Client) (call : Call κ) (handed : Handed) : Client where
  hands t := client.hands t - call.surrenders.count t + handed.given.count t
  lost := client.lost ++ handed.lost

/-- The calls of a client.  There is no state behind a call that touches memory that has
been freed. -/
def libraryCalls (build : ObjectBuild σ κ β) :
    Machine (Option (Usage σ)) (Call κ) (Option Handed) where
  step state call :=
    match state with
    | none => (none, none)
    | some usage =>
        match usage.library.call build call with
        | none => (none, none)
        | some (handed, library) =>
            (some { library, client := usage.client.after call handed }, some handed)

/-- The library before the first call. -/
def newUsage (table : D3dInterface → Nat) : Usage σ where
  library := { heap := CountedHeap.empty, dxva := driverTables table }

/-- A client that follows the rules of COM: it holds a reference on what it uses, and no
counter is about to wrap. -/
def FollowsRules (state : Option (Usage σ)) (call : Call κ) : Prop :=
  ∀ usage, state = some usage →
    (∀ t ∈ call.uses, 0 < usage.client.hands t) ∧
    ∀ k a, .object k a ∈ call.uses →
      usage.library.heap.count (.object k a) + 1 < countLimit

/-- What somebody outside the heap holds. -/
def Usage.HeldOutside (usage : Usage σ) (t : Reference) : Prop :=
  0 < usage.client.hands t ∨ t ∈ usage.client.lost ∨
    t ∈ (runtimeReferences usage.library.dxva.runtimes).map .foreign

/-- The state behind every run of a client that follows the rules. -/
structure Usage.Kept (build : ObjectBuild σ κ β) (usage : Usage σ) : Prop where
  /-- A count is the number of the references there are. -/
  counts : ∀ t, usage.library.heap.count t =
    usage.client.hands t + usage.client.lost.count t +
      ((runtimeReferences usage.library.dxva.runtimes).map .foreign).count t +
        usage.library.heap.holders t
  /-- An object is alive exactly when it is reached from outside the heap. -/
  alive : ∀ k a, (usage.library.heap.read k a).isSome = true ↔
    usage.library.heap.Reaches usage.HeldOutside (.object k a)
  /-- What is lost are packets, and none when the array of outputs is cleared. -/
  lost_buffer : ∀ t ∈ usage.client.lost, ∃ a, t = .object .buffer a
  lost_of_clears : build.clears = true → usage.client.lost = []

/-- The account of the client: its hands, and what is lost. -/
def Client.holds (client : Client) (t : Reference) : ℤ :=
  (client.hands t : ℤ) + owed client.lost t

/-- The invariant of a run. -/
structure Usage.Invariant (table : D3dInterface → Nat) (build : ObjectBuild σ κ β)
    (usage : Usage σ) : Prop where
  accounted : Accounted table usage.client.holds usage.library
  lost_buffer : ∀ t ∈ usage.client.lost, ∃ a, t = .object .buffer a
  lost_of_clears : build.clears = true → usage.client.lost = []

/-- A count that is not zero is that of an object that is alive. -/
theorem count_pos_iff_read {h : ObjectHeap σ} {out : Reference → ℤ} (hs : h.Sound out [])
    {k : ObjectKind} {a : Nat} : 0 < h.count (.object k a) ↔ (h.read k a).isSome = true := by
  constructor
  · intro hpos
    obtain ⟨w, hread, -⟩ := exists_read_of_count_pos hpos
    rw [hread]
    rfl
  · intro hsome
    obtain ⟨w, hread⟩ := Option.isSome_iff_exists.mp hsome
    obtain ⟨hcell, rfl⟩ := read_eq_some.mp hread
    rw [count_object_self hcell]
    exact hs.settled a w hcell List.not_mem_nil

variable {table : D3dInterface → Nat} {build : ObjectBuild σ κ β} {usage : Usage σ}

theorem newUsage_invariant : (newUsage table : Usage σ).Invariant table build where
  accounted := ⟨sound_empty.congr fun t => rfl, driverTables_wired table⟩
  lost_buffer t ht := by cases ht
  lost_of_clears _ := rfl

/-- What a call loses are the packets of a component, in a build that does not clear them. -/
theorem loses_facts (clears : Bool) (library : Library σ) (call : Call κ) :
    (∀ t ∈ call.loses clears library, ∃ a, t = .object .buffer a) ∧
      (clears = true → call.loses clears library = []) := by
  cases call with
  | release k a =>
    show (∀ t ∈ lostBy clears k a library.heap, _) ∧ (_ → lostBy clears k a library.heap = [])
    unfold lostBy
    split
    next component hread =>
      split
      next hlast =>
        refine ⟨fun t ht => ?_, fun hclears => absurd (hlast.1.symm.trans hclears) (by decide)⟩
        obtain ⟨b, -, rfl⟩ := List.mem_map.mp ht
        exact ⟨b, rfl⟩
      next => exact ⟨fun t ht => absurd ht List.not_mem_nil, fun _ => rfl⟩
    next => exact ⟨fun t ht => absurd ht List.not_mem_nil, fun _ => rfl⟩
  | _ => exact ⟨fun t ht => absurd ht List.not_mem_nil, fun _ => rfl⟩

/-- The client gives up what it holds. -/
theorem surrenders_count_le {hands : Reference → Nat} (call : Call κ)
    (huses : ∀ t ∈ call.uses, 0 < hands t) (t : Reference) :
    call.surrenders.count t ≤ hands t := by
  have hone : ∀ r : Reference, 0 < hands r → [r].count t ≤ hands t := by
    intro r hr
    by_cases heq : r = t
    · subst heq
      rw [List.count_singleton_self]
      exact hr
    · rw [List.count_cons_of_ne heq]
      exact Nat.zero_le _
  cases call with
  | release k a => exact hone _ (huses _ List.mem_cons_self)
  | planeRelease surface => exact hone _ (huses _ List.mem_cons_self)
  | releaseD3d x => exact hone _ (huses _ List.mem_cons_self)
  | _ => exact Nat.zero_le _

/-- One call of a run. -/
theorem invariant_step (hshared : SharedTables table) (hinv : usage.Invariant table build)
    (call : Call κ) (hrules : FollowsRules (some usage) call) :
    ∃ next handed, (libraryCalls build).step (some usage) call = (some next, some handed) ∧
      next.Invariant table build := by
  obtain ⟨huses, hroom⟩ := hrules usage rfl
  have hclient : ∀ t, 0 ≤ usage.client.holds t := by
    intro t
    unfold Client.holds owed
    omega
  have hpos : ∀ t ∈ call.uses, 0 < usage.client.holds t := by
    intro t ht
    have hhands := huses t ht
    unfold Client.holds owed
    omega
  obtain ⟨handed, library, hcall, hlost, hl⟩ :=
    call_pays build hinv.accounted hshared hclient call hpos hroom
  obtain ⟨hbuffer, hclears⟩ := loses_facts build.clears usage.library call
  refine ⟨{ library, client := usage.client.after call handed }, handed, ?_, ?_, ?_, ?_⟩
  · simp only [libraryCalls, hcall]
  · refine ⟨hl.sound.congr fun t => ?_, hl.wired⟩
    have hgives := surrenders_count_le call huses t
    simp only [Client.holds, Client.after, owed, List.count_append, hlost]
    omega
  · intro t ht
    cases List.mem_append.mp ht with
    | inl hold => exact hinv.lost_buffer t hold
    | inr hnew => exact hbuffer t (hlost ▸ hnew)
  · intro htrue
    show usage.client.lost ++ handed.lost = []
    rw [hinv.lost_of_clears htrue, hlost, hclears htrue]
    rfl

/-- What the invariant says of the objects. -/
theorem Usage.Invariant.kept (hinv : usage.Invariant table build) : usage.Kept build := by
  have hs := hinv.accounted.sound
  have hnonneg : ∀ t, 0 ≤ usage.client.holds t + runtimesHold usage.library.dxva t := by
    intro t
    unfold Client.holds runtimesHold owed
    omega
  have hroots : (fun t => 0 < usage.client.holds t + runtimesHold usage.library.dxva t) =
      usage.HeldOutside := by
    funext t
    apply propext
    unfold Client.holds runtimesHold owed Usage.HeldOutside
    rw [← List.count_pos_iff, ← List.count_pos_iff]
    omega
  refine ⟨fun t => ?_, fun k a => ?_, hinv.lost_buffer, hinv.lost_of_clears⟩
  · have hcount := hs.count_eq t
    unfold Client.holds runtimesHold owed at hcount
    omega
  · rw [← count_pos_iff_read hs, hs.count_pos_iff_reaches layered_object hnonneg, hroots]

/-- The account of a run. -/
theorem run_invariant (hshared : SharedTables table) (calls : List (Call κ))
    (hrules : (libraryCalls build).Along (fun _ => FollowsRules) []
      (some (newUsage table)) calls) :
    ∃ usage, (libraryCalls build).run (some (newUsage table)) calls = some usage ∧
      usage.Invariant table build := by
  refine Machine.exec_invariant (m := libraryCalls build)
    (fun _ state => ∃ usage, state = some usage ∧ usage.Invariant table build) ?_
    ⟨newUsage table, rfl, newUsage_invariant⟩ hrules
  intro _ state call hstate hcall
  obtain ⟨usage, rfl, hinv⟩ := hstate
  obtain ⟨next, handed, hstep, hnext⟩ := invariant_step hshared hinv call hcall
  exact ⟨next, by rw [hstep], hnext⟩

/-- Along every run of a client that follows the rules, no call touches memory that has been
freed, and an object is alive exactly as long as somebody reaches it. -/
theorem objects_kept (build : ObjectBuild σ κ β) (table : D3dInterface → Nat)
    (hshared : SharedTables table) (calls : List (Call κ))
    (hrules : (libraryCalls build).Along (fun _ => FollowsRules) []
      (some (newUsage table)) calls) :
    ∃ usage, (libraryCalls build).run (some (newUsage table)) calls = some usage ∧
      usage.Kept build := by
  obtain ⟨usage, hrun, hinv⟩ := run_invariant hshared calls hrules
  exact ⟨usage, hrun, hinv.kept⟩

/-- A packet holds nothing. -/
theorem holds_of_kind_buffer {w : Object σ} {a b : Nat}
    (heq : (.object (kind w) a : Reference) = .object .buffer b) : holds w = [] := by
  cases w with
  | buffer buffer => rfl
  | context c => cases heq
  | component c => cases heq
  | surface s => cases heq
  | decoder d => cases heq
  | view v => cases heq

/-- What is reached when the client holds nothing. -/
theorem reaches_lost (hkept : usage.Kept build) (hnothing : ∀ t, usage.client.hands t = 0)
    {t : Reference} (hreach : usage.library.heap.Reaches usage.HeldOutside t) {k : ObjectKind}
    {a : Nat} (ht : t = .object k a) : t ∈ usage.client.lost := by
  induction hreach generalizing k a with
  | root hroot =>
    rcases hroot with hhands | hlost | hruntime
    · exact absurd hhands (by rw [hnothing]; exact Nat.lt_irrefl 0)
    · exact hlost
    · obtain ⟨x, -, rfl⟩ := List.mem_map.mp hruntime
      cases ht
  | field hcell _ hmem ih =>
    obtain ⟨b, hb⟩ := hkept.lost_buffer _ (ih rfl)
    rw [holds_of_kind_buffer hb] at hmem
    cases hmem

/-- When the client has given everything back, the objects that are alive are the packets
that were queued in a component when it was freed: none, where the array is cleared.  The
library holds no more of Direct3D than its runtimes do. -/
theorem objects_returned (build : ObjectBuild σ κ β) (table : D3dInterface → Nat)
    (hshared : SharedTables table) (calls : List (Call κ))
    (hrules : (libraryCalls build).Along (fun _ => FollowsRules) []
      (some (newUsage table)) calls) (usage : Usage σ)
    (hrun : (libraryCalls build).run (some (newUsage table)) calls = some usage)
    (hnothing : ∀ t, usage.client.hands t = 0) :
    (∀ k a, (usage.library.heap.read k a).isSome = true ↔ .object k a ∈ usage.client.lost) ∧
      (build.clears = true → ∀ a, usage.library.heap.cell a = none) ∧
      ∀ x, usage.library.heap.taken x =
        (runtimeReferences usage.library.dxva.runtimes).count x := by
  obtain ⟨usage', hrun', hinv⟩ := run_invariant hshared calls hrules
  obtain rfl := Option.some.inj (hrun.symm.trans hrun')
  have hkept := hinv.kept
  have halive : ∀ k a, (usage.library.heap.read k a).isSome = true ↔
      .object k a ∈ usage.client.lost := by
    intro k a
    rw [hkept.alive k a]
    constructor
    · intro hreach
      exact reaches_lost hkept hnothing hreach rfl
    · intro hlost
      exact .root (Or.inr (Or.inl hlost))
  refine ⟨halive, fun hclears a => ?_, fun x => ?_⟩
  · cases hcell : usage.library.heap.cell a with
    | none => rfl
    | some w =>
      have hlost := (halive (kind w) a).mp (by rw [read_of_cell hcell]; rfl)
      rw [hkept.lost_of_clears hclears] at hlost
      cases hlost
  · have hcounts := hkept.counts (.foreign x)
    have hlost : usage.client.lost.count (.foreign x) = 0 := by
      rw [List.count_eq_zero]
      intro hmem
      obtain ⟨a, ha⟩ := hkept.lost_buffer _ hmem
      cases ha
    have hholders : usage.library.heap.holders (.foreign x) = 0 := by
      by_contra hne
      obtain ⟨a, w, hcell, hmem⟩ := exists_holder (Nat.pos_of_ne_zero hne)
      have halive := (halive (kind w) a).mp (by rw [read_of_cell hcell]; rfl)
      obtain ⟨b, hb⟩ := hkept.lost_buffer _ halive
      rw [holds_of_kind_buffer hb] at hmem
      cases hmem
    have hruntimes : ((runtimeReferences usage.library.dxva.runtimes).map
        (Referent.foreign : D3dObject → Reference)).count (.foreign x) =
          (runtimeReferences usage.library.dxva.runtimes).count x := by
      refine List.count_map_of_injective _ _ ?_ x
      intro y z hyz
      cases hyz
      rfl
    rw [hnothing, hlost, hholders, hruntimes] at hcounts
    rw [← Nat.zero_add ((runtimeReferences usage.library.dxva.runtimes).count x)]
    exact hcounts

end Runs

theorem followsRules_some {σ κ : Type} {usage : Usage σ} {call : Call κ}
    (hrules : ∀ t ∈ call.uses, 0 < usage.client.hands t ∧
      usage.library.heap.count t + 1 < countLimit) : FollowsRules (some usage) call := by
  intro usage' heq
  cases heq
  exact ⟨fun t ht => (hrules t ht).1, fun k a hka => (hrules _ hka).2⟩

/-- A component that outlives the reference of the client on its context. -/
def contextReleasedFirst : List (Call (UInt64 × ComponentCall)) :=
  [.createContext true, .initDx11 0 (some 7) {}, .createComponent 0 true true,
    .release .context 0, .component 1 (0, .queryOutput true) none, .release .component 1]

theorem contextReleasedFirst_follows :
    (libraryCalls (helperObjects 1 [])).Along (fun _ => FollowsRules) []
      (some (newUsage oneClassEach)) contextReleasedFirst := by
  refine ⟨?_, ?_, ?_, ?_, ?_, ?_, trivial⟩
  · exact followsRules_some (by decide)
  · exact followsRules_some (by decide)
  · exact followsRules_some (by decide)
  · exact followsRules_some (by decide)
  · exact followsRules_some (by decide)
  · exact followsRules_some (by decide)

theorem objects_kept_contextReleasedFirst :
    ∃ usage, (libraryCalls (helperObjects 1 [])).run (some (newUsage oneClassEach))
      contextReleasedFirst = some usage ∧ usage.Kept (helperObjects 1 []) :=
  objects_kept (helperObjects 1 []) oneClassEach oneClassEach_shared contextReleasedFirst
    contextReleasedFirst_follows

theorem objects_returned_contextReleasedFirst :
    ∃ usage, (libraryCalls (helperObjects 1 [])).run (some (newUsage oneClassEach))
        contextReleasedFirst = some usage ∧
      (∀ k a, (usage.library.heap.read k a).isSome = true ↔ .object k a ∈ usage.client.lost) ∧
      ((helperObjects 1 []).clears = true → ∀ a, usage.library.heap.cell a = none) ∧
      ∀ x, usage.library.heap.taken x =
        (runtimeReferences usage.library.dxva.runtimes).count x := by
  refine ⟨_, rfl, objects_returned (helperObjects 1 []) oneClassEach oneClassEach_shared
    contextReleasedFirst contextReleasedFirst_follows _ rfl fun t => ?_⟩
  show 0 + [.object .context 0].count t + [.object .component 1].count t -
    [.object .context 0].count t - [.object .component 1].count t = 0
  omega

end Objects

end UuAmfBridge
