import WaybeamVenc.RingRefinement

namespace WaybeamVenc.RingSafety

open Runs RingGeometry RingModel RingSlots BoundedFifo RingRefinement

variable (g : Geometry)

def wholeSlot (n : UInt16) : Prop := g.slotDataSize.toNat ≤ n.toNat

theorem delivered_whole {rs : List (Nat × List UInt8)} {xs : List (List UInt8)}
    (hfits : ∀ x ∈ xs, x.length ≤ g.slotDataSize.toNat)
    (h : List.Forall₂ (Delivered (wholeSlot g)) rs xs) : rs = xs.map (fun x => (x.length, x)) := by
  induction h with
  | nil => rfl
  | cons hd _ ih =>
      obtain ⟨n, hn, rfl⟩ := hd
      have hx := hfits _ List.mem_cons_self
      rw [List.map_cons, ih (fun x hx => hfits x (List.mem_cons_of_mem _ hx)),
        List.take_of_length_le (le_trans hx hn)]

theorem received_front {s : State} (h : Inv g (wholeSlot g) s) :
    s.received <+: (published s).map (fun x => (x.length, x)) := by
  rw [delivered_whole g (fun x hx => h.fits x (List.mem_of_mem_take hx)) h.delivered]
  exact (List.take_prefix _ _).map _

theorem target_free {B : UInt16 → Prop} {s : State} (h : Inv g B s)
    (ho : Ordered g.slotCount.toNat (fifo s)) {j i : Nat}
    (hj : storeTarget g s.producer = some j) (hi : i < unread s) :
    slotIdx g (s.readIdx + UInt64.ofNat i) ≠ j := by
  have hsum := h.unread_eq g B (fifo_bound g h.taken_le ho)
  have hw := h.writer
  have hnext : (published s).length < s.received.length + g.slotCount.toNat ∧
      j = (published s).length % g.slotCount.toNat := by
    cases hp : s.producer with
    | storeLength p w =>
        rw [hp] at hw hj
        cases hj
        exact ⟨hw.2.2, by rw [hw.2.1, h.writeIdx, slotIdx_ofNat]⟩
    | storeData p w k =>
        rw [hp] at hw hj
        cases hj
        exact ⟨hw.2.2.1, by rw [hw.2.1, h.writeIdx, slotIdx_ofNat]⟩
    | idle | loadWriteIdx | loadReadIdx | storeWriteIdx | bumpSeq | loadWaiting | wake =>
        rw [hp] at hj; cases hj
  rw [h.readIdx, ← UInt64.ofNat_add, slotIdx_ofNat, hnext.2]
  exact mod_ne_of_lt (by omega) (by omega)

/-- Past the store of write_idx a call has no way left to fail. -/
theorem inFlight_returns {s t : State} {x : List UInt8} (hx : inFlight s.producer = [x])
    (hs : writerStep g s = some t) :
    inFlight t.producer = [x] ∨ t.producer = .idle ∧ t.written = s.written ++ [x] := by
  rw [writerStep] at hs
  split at hs <;> rename_i hp <;> rw [hp] at hx
  case h_7 => cases hs; exact .inl hx
  case h_8 =>
      split at hs <;> cases hs
      · exact .inl hx
      · cases hx; exact .inr ⟨rfl, rfl⟩
  case h_9 => cases hs; cases hx; exact .inr ⟨rfl, rfl⟩
  all_goals cases hx

/-- The transfer guarantee of venc_ring_write and venc_ring_read. The strings
whose write returned 0 are written; a call that has published its slot and has
still its futex steps to do is counted with them, as it can only return 0. -/
theorem ring_transfers_in_order {s : State} (h : Path (step g) (Brings (wholeSlot g)) fresh s) :
    (s.received.length + unread s = (published s).length ∧ unread s ≤ g.slotCount.toNat) ∧
      (∀ j, storeTarget g s.producer = some j →
        ∀ i, i < unread s → slotIdx g (s.readIdx + UInt64.ofNat i) ≠ j) ∧
      s.received <+: (s.written ++ inFlight s.producer).map (fun x => (x.length, x)) ∧
      (s.producer = .idle → s.received <+: s.written.map (fun x => (x.length, x))) := by
  obtain ⟨hinv, hreach⟩ := ring_refines_fifo g (wholeSlot g) h
  have ho := reaches_ordered hreach
  have hcap := fifo_bound g hinv.taken_le ho
  have hsum := hinv.unread_eq g (wholeSlot g) hcap
  have hrec := received_front g hinv
  refine ⟨⟨hsum, by omega⟩, fun j hj i hi => target_free g hinv ho hj hi, hrec, fun hidle => ?_⟩
  simpa [published, inFlight, hidle] using hrec

def twoSlots : Geometry := ⟨2, 3, by decide⟩

def twoBytes : Packet := ⟨[128], [7], by decide, by decide⟩

/-- The consumer reads the packet while the producer is at its futex steps. -/
def overlapped : List Act :=
  [.read 3, .write twoBytes] ++ List.replicate 6 .producer ++ List.replicate 6 .consumer

def bringsWhole (_ : State) : Act → Bool
  | .read n | .readWait n _ => decide (g.slotDataSize.toNat ≤ n.toNat)
  | _ => true

theorem bringsWhole_brings (s : State) (a : Act) (h : bringsWhole g s a = true) :
    Brings (wholeSlot g) s a := by
  cases a with
  | read n | readWait n t =>
      simp only [bringsWhole, decide_eq_true_eq] at h
      exact h
  | write | producer | consumer | timeout => trivial

theorem overlapped_runs : (runIf (step twoSlots) (bringsWhole twoSlots) fresh overlapped).isSome = true := by
  decide +kernel

theorem ring_transfers_in_order_overlapped :
    ∃ s, runIf (step twoSlots) (bringsWhole twoSlots) fresh overlapped = some s ∧
      s.received = [(2, [128, 7])] ∧
      s.received <+: (s.written ++ inFlight s.producer).map (fun x => (x.length, x)) := by
  have hget := (Option.some_get overlapped_runs).symm
  refine ⟨_, hget, by decide +kernel, ?_⟩
  exact (ring_transfers_in_order twoSlots
    (path_of_runIf overlapped (bringsWhole_brings twoSlots) hget)).2.2.1

end WaybeamVenc.RingSafety
