import WaybeamVenc.BoundedFifo
import WaybeamVenc.RingSlots

namespace WaybeamVenc.RingRefinement

open Runs RingGeometry RingModel RingSlots BoundedFifo

variable (g : Geometry) (B : UInt16 → Prop)

/-- The string of a call that has published its slot and not yet returned. -/
def inFlight : WritePc → List (List UInt8)
  | .bumpSeq p | .loadWaiting p | .wake p => [p.bytes]
  | _ => []

def published (s : State) : List (List UInt8) := s.written ++ inFlight s.producer

/-- The queue behind the ring: a string leaves it when its slot is released,
whatever part of it the consumer had room for. -/
def fifo (s : State) : Fifo (List UInt8) := ⟨published s, (published s).take s.received.length⟩

/-- The number of published packets the consumer has not released. -/
def unread (s : State) : Nat := (s.writeIdx - s.readIdx).toNat

def storeTarget : WritePc → Option Nat
  | .storeLength _ w | .storeData _ w _ => some (slotIdx g w)
  | _ => none

def Brings (_ : State) : Act → Prop
  | .read n | .readWait n _ => B n
  | _ => True

def Fits (p : Packet) : Prop := p.bytes.length ≤ g.slotDataSize.toNat

def WriterInv (mem : Nat → UInt8) (writeIdx : UInt64) (put taken : Nat) : WritePc → Prop
  | .idle | .bumpSeq _ | .loadWaiting _ | .wake _ => True
  | .loadWriteIdx p => Fits g p
  | .loadReadIdx p w => Fits g p ∧ w = writeIdx
  | .storeLength p w => Fits g p ∧ w = writeIdx ∧ put < taken + g.slotCount.toNat
  | .storeData p w k => Fits g p ∧ w = writeIdx ∧ put < taken + g.slotCount.toNat ∧
      k < p.bytes.length ∧ Stored g mem (put % g.slotCount.toNat) p.bytes k
  | .storeWriteIdx p w => Fits g p ∧ w = writeIdx ∧ put < taken + g.slotCount.toNat ∧
      Holds g mem (put % g.slotCount.toNat) p.bytes

def ReaderInv (readIdx : UInt64) (front : Option (List UInt8)) : ReadPc → Prop
  | .idle => True
  | .loadReadIdx _ n | .loadSeq _ n | .setWaiting _ n _ | .futexWait _ n _ | .blocked _ n
  | .clearWaiting _ n => B n
  | .loadWriteIdx _ n rd => B n ∧ rd = readIdx
  | .loadLength _ n rd => B n ∧ rd = readIdx ∧ ∃ x, front = some x
  | .loadData _ n rd len buf => B n ∧ rd = readIdx ∧
      ∃ x, front = some x ∧ len.toNat = min n.toNat x.length ∧ buf <+: x ∧ buf.length < len.toNat
  | .storeReadIdx _ n rd out => B n ∧ rd = readIdx ∧ ∃ x, front = some x ∧ out = some (x.take n.toNat)

/-- What a read returned of the string it took out of the queue. -/
def Delivered (r : Nat × List UInt8) (x : List UInt8) : Prop :=
  ∃ n, B n ∧ r = ((x.take n.toNat).length, x.take n.toNat)

/-- What ties the indices, the slots and both processes' loaded values to the
list of published strings. -/
structure InvAt (s : State) (xs : List (List UInt8)) : Prop where
  writeIdx : s.writeIdx = UInt64.ofNat xs.length
  readIdx : s.readIdx = UInt64.ofNat s.received.length
  taken_le : s.received.length ≤ xs.length
  delivered : List.Forall₂ (Delivered B) s.received (xs.take s.received.length)
  fits : ∀ x ∈ xs, x.length ≤ g.slotDataSize.toNat
  held : ∀ n x, s.received.length ≤ n → xs[n]? = some x → Holds g s.mem (n % g.slotCount.toNat) x
  writer : WriterInv g s.mem s.writeIdx xs.length s.received.length s.producer
  reader : ReaderInv B s.readIdx xs[s.received.length]? s.consumer

abbrev Inv (s : State) : Prop := InvAt g B s (published s)

/-- The queue stands still or makes one move of its own. -/
def Answers (s t : State) : Prop :=
  fifo t = fifo s ∨ ∃ op, BoundedFifo.move g.slotCount.toNat (fifo s) op = some (fifo t)

theorem sub_ofNat {m n : Nat} (hle : m ≤ n) (hlt : n - m < 2 ^ 64) :
    (UInt64.ofNat n - UInt64.ofNat m).toNat = n - m := by
  rw [UInt64.toNat_sub, UInt64.toNat_ofNat', UInt64.toNat_ofNat']
  have hn := Nat.div_add_mod n (2 ^ 64)
  have hm := Nat.div_add_mod m (2 ^ 64)
  omega

theorem slotAt_of_eq {w : UInt64} {n : Nat} (h : w = UInt64.ofNat n) :
    slotAt g w = n % g.slotCount.toNat * g.stride.toNat := by
  rw [slotAt, h, slotIdx_ofNat]

theorem total_toNat (p : Packet) : p.total.toNat = p.bytes.length := by
  have h1 := p.hdrFits
  have h2 := p.payloadFits
  simp only [Packet.total, Packet.bytes, UInt32.toNat_add, UInt32.toNat_ofNat', List.length_append]
  omega

theorem total_toUInt16 (p : Packet) : p.total.toUInt16 = UInt16.ofNat p.bytes.length := by
  apply UInt16.toNat_inj.mp
  rw [UInt32.toNat_toUInt16, total_toNat, UInt16.toNat_ofNat']

theorem fifo_bound {s : State} (hle : s.received.length ≤ (published s).length)
    (ho : Ordered g.slotCount.toNat (fifo s)) :
    (published s).length ≤ s.received.length + g.slotCount.toNat := by
  have hroom := ho.2
  simp only [fifo, List.length_take] at hroom
  omega

theorem held_poke {mem : Nat → UInt8} {xs : List (List UInt8)} {taken : Nat} (off : Nat) (b : UInt8)
    (hfits : ∀ x ∈ xs, x.length ≤ g.slotDataSize.toNat)
    (hheld : ∀ n x, taken ≤ n → xs[n]? = some x → Holds g mem (n % g.slotCount.toNat) x)
    (hroom : xs.length < taken + g.slotCount.toNat) (hoff : off < 2 + g.slotDataSize.toNat) :
    ∀ n x, taken ≤ n → xs[n]? = some x →
      Holds g (poke mem (xs.length % g.slotCount.toNat * g.stride.toNat + off) b)
        (n % g.slotCount.toNat) x := by
  intro n x hn hx
  have hlt : n < xs.length := (List.getElem?_eq_some_iff.mp hx).1
  exact (hheld n x hn hx).poke_other g b (hfits x (List.mem_of_getElem? hx))
    (mod_ne_of_lt hlt (by omega)) hoff

theorem WriterInv.afterStores {mem : Nat → UInt8} {writeIdx w : UInt64} {put taken k : Nat}
    {p : Packet} (hfit : Fits g p) (hw : w = writeIdx) (hroom : put < taken + g.slotCount.toNat)
    (hst : Stored g mem (put % g.slotCount.toNat) p.bytes k) :
    WriterInv g mem writeIdx put taken (afterStores p w k) := by
  rw [RingModel.afterStores]
  split
  · next hk => exact ⟨hfit, hw, hroom, hk, hst⟩
  · exact ⟨hfit, hw, hroom, hst.holds g (by omega)⟩

theorem inFlight_afterStores (p : Packet) (w : UInt64) (k : Nat) : inFlight (afterStores p w k) = [] := by
  unfold RingModel.afterStores; split <;> rfl

theorem ReaderInv.append {readIdx : UInt64} {xs : List (List UInt8)} {taken : Nat} {pc : ReadPc}
    (x : List UInt8) (h : ReaderInv B readIdx xs[taken]? pc) :
    ReaderInv B readIdx (xs ++ [x])[taken]? pc := by
  have hmono (y : List UInt8) (hy : xs[taken]? = some y) : (xs ++ [x])[taken]? = some y := by
    have hlt : taken < xs.length := (List.getElem?_eq_some_iff.mp hy).1
    rw [List.getElem?_append_left hlt, hy]
  cases pc with
  | loadLength c n rd =>
      obtain ⟨hn, hrd, y, hy⟩ := h
      exact ⟨hn, hrd, y, hmono y hy⟩
  | loadData c n rd len buf =>
      obtain ⟨hn, hrd, y, hy, hrest⟩ := h
      exact ⟨hn, hrd, y, hmono y hy, hrest⟩
  | storeReadIdx c n rd out =>
      obtain ⟨hn, hrd, y, hy, hrest⟩ := h
      exact ⟨hn, hrd, y, hmono y hy, hrest⟩
  | idle | loadReadIdx | loadWriteIdx | loadSeq | setWaiting | futexWait | blocked | clearWaiting => exact h

theorem InvAt.store_length {s : State} {xs : List (List UInt8)} {p : Packet} {w : UInt64}
    (h : InvAt g B s xs) (hp : s.producer = .storeLength p w) :
    InvAt g B { s with mem := storeU16 s.mem (slotAt g w) p.total.toUInt16, producer := afterStores p w 0 } xs := by
  have hw := h.writer
  rw [hp] at hw
  obtain ⟨hfit, hidx, hroom⟩ := hw
  have haddr := slotAt_of_eq g (hidx.trans h.writeIdx)
  rw [haddr, total_toUInt16]
  have hfirst := held_poke g 0 (UInt16.ofNat p.bytes.length).toUInt8 h.fits h.held hroom (by omega)
  have hd : 0 < g.slotDataSize.toNat := g.dataSize_pos
  exact ⟨h.writeIdx, h.readIdx, h.taken_le, h.delivered, h.fits,
    held_poke g 1 (UInt16.ofNat p.bytes.length >>> 8).toUInt8 h.fits hfirst hroom (by omega),
    .afterStores g hfit hidx hroom (.length g s.mem _ p.bytes), h.reader⟩

theorem InvAt.store_data {s : State} {xs : List (List UInt8)} {p : Packet} {w : UInt64} {k : Nat}
    (h : InvAt g B s xs) (hp : s.producer = .storeData p w k) :
    InvAt g B { s with
      mem := poke s.mem (slotAt g w + 2 + k) (p.bytes.getD k 0)
      producer := afterStores p w (k + 1) } xs := by
  have hw := h.writer
  rw [hp] at hw
  obtain ⟨hfit, hidx, hroom, hk, hst⟩ := hw
  have haddr := slotAt_of_eq g (hidx.trans h.writeIdx)
  rw [haddr]
  have hheld := held_poke g (2 + k) (p.bytes.getD k 0) h.fits h.held hroom
    (by have : p.bytes.length ≤ _ := hfit; omega)
  rw [← Nat.add_assoc] at hheld
  exact ⟨h.writeIdx, h.readIdx, h.taken_le, h.delivered, h.fits, hheld,
    .afterStores g hfit hidx hroom (hst.next g), h.reader⟩

theorem not_full {s : State} {xs : List (List UInt8)} {w : UInt64} (h : InvAt g B s xs)
    (hw : w = s.writeIdx) (hle : s.received.length ≤ xs.length)
    (hcap : xs.length ≤ s.received.length + g.slotCount.toNat)
    (hfree : ¬ g.slotCount.toUInt64 ≤ w - s.readIdx) :
    xs.length < s.received.length + g.slotCount.toNat := by
  have hsmall := g.count_small
  rw [hw, h.writeIdx, h.readIdx, UInt64.le_iff_toNat_le, sub_ofNat hle (by omega),
    UInt32.toNat_toUInt64] at hfree
  omega

/-- Storing write_idx hands the slot over: the queue receives the string. -/
theorem InvAt.publish {s : State} {xs : List (List UInt8)} {p : Packet} {w : UInt64} (st : Stats)
    (h : InvAt g B s xs) (hp : s.producer = .storeWriteIdx p w) :
    InvAt g B { s with writeIdx := w + 1, producerStats := st, producer := .bumpSeq p } (xs ++ [p.bytes]) := by
  have hw := h.writer
  rw [hp] at hw
  obtain ⟨hfit, hidx, _, hheld⟩ := hw
  refine ⟨?_, h.readIdx, ?_, ?_, ?_, ?_, trivial, h.reader.append B p.bytes⟩
  · change w + 1 = _
    rw [hidx, h.writeIdx, List.length_append, List.length_singleton, UInt64.ofNat_add]; rfl
  · exact h.taken_le.trans (by simp)
  · rw [List.take_append_of_le_length h.taken_le]
    exact h.delivered
  · intro x hx
    rcases List.mem_append.mp hx with hx | hx
    · exact h.fits x hx
    · rw [List.mem_singleton.mp hx]; exact hfit
  · intro n x hn hx
    rcases Nat.lt_trichotomy n xs.length with hlt | heq | hgt
    · rw [List.getElem?_append_left hlt] at hx
      exact h.held n x hn hx
    · subst heq
      rw [List.getElem?_concat_length] at hx
      cases hx
      exact hheld
    · rw [List.getElem?_eq_none (by rw [List.length_append, List.length_singleton]; omega)] at hx
      cases hx

theorem keeps {g : Geometry} {B : UInt16 → Prop} {s t : State} (hpub : published t = published s) (hrec : t.received = s.received)
    (h : InvAt g B t (published s)) : Inv g B t ∧ Answers g s t := by
  refine ⟨?_, .inl ?_⟩
  · rw [Inv, hpub]; exact h
  · rw [fifo, fifo, hpub, hrec]

theorem ReaderInv.woken {readIdx : UInt64} {front : Option (List UInt8)} {pc : ReadPc}
    (h : ReaderInv B readIdx front pc) : ReaderInv B readIdx front (woken pc) := by
  cases pc <;> exact h

theorem writer_refines {s t : State} (h : Inv g B s) (ho : Ordered g.slotCount.toNat (fifo s))
    (hs : writerStep g s = some t) : Inv g B t ∧ Answers g s t := by
  have hle := h.taken_le
  have hcap := fifo_bound g hle ho
  have hw := h.writer
  rw [writerStep] at hs
  split at hs <;> rename_i hp
  case h_1 => cases hs
  case h_2 p =>
      rw [hp] at hw
      cases hs
      exact keeps (by simp [published, inFlight, hp]) rfl
        ⟨h.writeIdx, h.readIdx, h.taken_le, h.delivered, h.fits, h.held, ⟨hw, rfl⟩, h.reader⟩
  case h_3 p w =>
      rw [hp] at hw
      split at hs
      · cases hs
        exact keeps (by simp [published, inFlight, hp]) rfl
          ⟨h.writeIdx, h.readIdx, h.taken_le, h.delivered, h.fits, h.held, trivial, h.reader⟩
      · next hfree =>
        have hroom := not_full g B h hw.2 hle hcap hfree
        cases hs
        exact keeps (by simp [published, inFlight, hp]) rfl
          ⟨h.writeIdx, h.readIdx, h.taken_le, h.delivered, h.fits, h.held, ⟨hw.1, hw.2, hroom⟩, h.reader⟩
  case h_4 p w =>
      cases hs
      exact keeps (by simp only [published, inFlight_afterStores, hp]; rfl) rfl (h.store_length g B hp)
  case h_5 p w k =>
      cases hs
      exact keeps (by simp only [published, inFlight_afterStores, hp]; rfl) rfl (h.store_data g B hp)
  case h_6 p w =>
      rw [hp] at hw
      have hroom := hw.2.2.1
      have hpub : published s ++ [p.bytes] = s.written ++ [p.bytes] := by simp [published, inFlight, hp]
      cases hs
      refine ⟨?_, .inr ⟨.push p.bytes, ?_⟩⟩
      · rw [Inv, published, inFlight, ← hpub]
        exact h.publish g B _ hp
      · have hroom' : (published s).length <
            ((published s).take s.received.length).length + g.slotCount.toNat := by
          rw [List.length_take, Nat.min_eq_left hle]; exact hroom
        have htake : (s.written ++ [p.bytes]).take s.received.length =
            (published s).take s.received.length := by
          rw [← hpub, List.take_append_of_le_length hle]
        simp only [BoundedFifo.move, fifo, hroom', if_true, hpub]
        change some (Fifo.mk _ _) =
          some (Fifo.mk (s.written ++ [p.bytes]) ((s.written ++ [p.bytes]).take s.received.length))
        rw [htake]
  case h_7 p =>
      cases hs
      exact keeps (by simp [published, inFlight, hp]) rfl
        ⟨h.writeIdx, h.readIdx, h.taken_le, h.delivered, h.fits, h.held, trivial, h.reader⟩
  case h_8 p =>
      split at hs
      · cases hs
        exact keeps (by simp [published, inFlight, hp]) rfl
          ⟨h.writeIdx, h.readIdx, h.taken_le, h.delivered, h.fits, h.held, trivial, h.reader⟩
      · cases hs
        exact keeps (by simp [published, inFlight, hp]) rfl
          ⟨h.writeIdx, h.readIdx, h.taken_le, h.delivered, h.fits, h.held, trivial, h.reader⟩
  case h_9 p =>
      cases hs
      exact keeps (by simp [published, inFlight, hp]) rfl
        ⟨h.writeIdx, h.readIdx, h.taken_le, h.delivered, h.fits, h.held, trivial, h.reader.woken B⟩

theorem ReaderInv.afterRead {readIdx : UInt64} {front : Option (List UInt8)} {n : UInt16} (c : Caller)
    (ok : Bool) (hn : B n) : ReaderInv B readIdx front (afterRead c n ok) := by
  cases c with
  | plain => trivial
  | first t => cases ok <;> [exact hn; trivial]
  | recheck t =>
      simp only [RingModel.afterRead]
      split
      · trivial
      · exact hn

theorem WriterInv.released {mem : Nat → UInt8} {writeIdx : UInt64} {put taken : Nat} {pc : WritePc}
    (h : WriterInv g mem writeIdx put taken pc) : WriterInv g mem writeIdx put (taken + 1) pc := by
  cases pc with
  | storeLength p w => exact ⟨h.1, h.2.1, by have := h.2.2; omega⟩
  | storeData p w k => exact ⟨h.1, h.2.1, by have := h.2.2.1; omega, h.2.2.2⟩
  | storeWriteIdx p w => exact ⟨h.1, h.2.1, by have := h.2.2.1; omega, h.2.2.2⟩
  | idle | loadWriteIdx | loadReadIdx | bumpSeq | loadWaiting | wake => exact h

/-- The front string leaves the queue when the consumer stores read_idx. -/
theorem InvAt.release {s : State} {xs : List (List UInt8)} {x : List UInt8} {c : Caller} {n : UInt16}
    (st : Stats) (h : InvAt g B s xs) (hn : B n) (hx : xs[s.received.length]? = some x) :
    InvAt g B { s with
      readIdx := s.readIdx + 1
      consumerStats := st
      received := s.received ++ [((x.take n.toNat).length, x.take n.toNat)]
      consumer := afterRead c n true } xs := by
  obtain ⟨hlt, hget⟩ := List.getElem?_eq_some_iff.mp hx
  have hlen : (s.received ++ [((x.take n.toNat).length, x.take n.toNat)]).length =
      s.received.length + 1 := by rw [List.length_append, List.length_singleton]
  refine ⟨h.writeIdx, ?_, ?_, ?_, h.fits, ?_, ?_, .afterRead B c true hn⟩
  · change s.readIdx + 1 = _
    rw [h.readIdx, hlen, UInt64.ofNat_add]; rfl
  · change (s.received ++ _).length ≤ _
    rw [hlen]; exact hlt
  · change List.Forall₂ _ (s.received ++ _) (xs.take (s.received ++ _).length)
    rw [hlen, List.take_succ_eq_append_getElem hlt, hget]
    exact List.rel_append h.delivered (.cons ⟨n, hn, rfl⟩ .nil)
  · intro m y hm hy
    change (s.received ++ _).length ≤ m at hm
    rw [hlen] at hm
    exact h.held m y (by omega) hy
  · change WriterInv g s.mem s.writeIdx xs.length (s.received ++ _).length s.producer
    rw [hlen]
    exact h.writer.released g

theorem front_of_lt {g : Geometry} {B : UInt16 → Prop} {s : State} {xs : List (List UInt8)} {rd : UInt64} (h : InvAt g B s xs)
    (hrd : rd = s.readIdx) (hle : s.received.length ≤ xs.length) (hlt : ¬ s.writeIdx ≤ rd) :
    ∃ x, xs[s.received.length]? = some x := by
  rcases Nat.lt_or_ge s.received.length xs.length with hlt' | hge
  · exact ⟨_, List.getElem?_eq_getElem hlt'⟩
  · have heq : s.received.length = xs.length := by omega
    rw [hrd, h.writeIdx, h.readIdx, heq] at hlt
    exact absurd (UInt64.le_refl _) hlt

theorem small_toUInt16 {x : List UInt8} (hx : x.length ≤ g.slotDataSize.toNat) :
    (UInt16.ofNat x.length).toNat = x.length := by
  have hd := g.dataSize_le
  rw [UInt16.toNat_ofNat']
  omega

theorem not_corrupt {x : List UInt8} {len : UInt16} (hx : x.length ≤ g.slotDataSize.toNat)
    (hlen : len = UInt16.ofNat x.length) : ¬ g.slotDataSize < len.toUInt32 := by
  rw [UInt32.lt_iff_toNat_lt, UInt16.toNat_toUInt32, hlen, small_toUInt16 g hx]
  omega

theorem copied_toNat {x : List UInt8} {len n : UInt16} (hx : x.length ≤ g.slotDataSize.toNat)
    (hlen : len = UInt16.ofNat x.length) : (if n < len then n else len).toNat = min n.toNat x.length := by
  have hnat : len.toNat = x.length := by rw [hlen, small_toUInt16 g hx]
  split
  · next hlt => rw [UInt16.lt_iff_toNat_lt, hnat] at hlt; omega
  · next hge => rw [UInt16.lt_iff_toNat_lt, hnat] at hge; omega

theorem ReaderInv.afterLoads {readIdx rd : UInt64} {x buf : List UInt8} {n len : UInt16} (c : Caller)
    (hn : B n) (hrd : rd = readIdx) (hlen : len.toNat = min n.toNat x.length) (hbuf : buf <+: x)
    (hle : buf.length ≤ len.toNat) : ReaderInv B readIdx (some x) (afterLoads c n rd len buf) := by
  rw [RingModel.afterLoads]
  split
  · next hlt => exact ⟨hn, hrd, x, rfl, hlen, hbuf, hlt⟩
  · next hge =>
    refine ⟨hn, hrd, x, rfl, congrArg some ?_⟩
    calc buf = x.take buf.length := List.prefix_iff_eq_take.mp hbuf
      _ = x.take (min n.toNat x.length) := by rw [← hlen, show buf.length = len.toNat by omega]
      _ = x.take n.toNat := by rw [List.take_eq_take_iff]; omega

theorem append_front {x buf : List UInt8} {b : UInt8} (hbuf : buf <+: x) (hlt : buf.length < x.length)
    (hb : b = x.getD buf.length 0) : buf ++ [b] <+: x := by
  obtain ⟨rest, rfl⟩ := hbuf
  cases rest with
  | nil => simp at hlt
  | cons c rest =>
      refine ⟨rest, ?_⟩
      rw [hb, List.getD_eq_getElem?_getD, List.getElem?_append_right (le_refl _)]
      simp

theorem reader_refines {s t : State} (h : Inv g B s)
    (hs : readerStep g s = some t) : Inv g B t ∧ Answers g s t := by
  have hr := h.reader
  have move (pc : ReadPc) (st : Stats) (wait : Bool)
      (hpc : ReaderInv B s.readIdx (published s)[s.received.length]? pc) :
      Inv g B { s with consumer := pc, consumerStats := st, consumerWaiting := wait } ∧
        Answers g s { s with consumer := pc, consumerStats := st, consumerWaiting := wait } :=
    keeps rfl rfl ⟨h.writeIdx, h.readIdx, h.taken_le, h.delivered, h.fits, h.held, h.writer, hpc⟩
  rw [readerStep] at hs
  split at hs <;> rename_i hp <;> rw [hp] at hr
  case h_1 => cases hs
  case h_2 c n =>
      cases hs
      exact move _ _ _ ⟨hr, rfl⟩
  case h_3 c n rd =>
      cases hs
      refine move _ _ _ ?_
      split
      · exact .afterRead B c false hr.1
      · next hlt => exact ⟨hr.1, hr.2, front_of_lt h hr.2 h.taken_le hlt⟩
  case h_4 c n rd =>
      obtain ⟨hn, hrd, x, hx⟩ := hr
      have hxle := h.fits x (List.mem_of_getElem? hx)
      have hheld := h.held _ x (le_refl _) hx
      have haddr := slotAt_of_eq g (hrd.trans h.readIdx)
      have hlen : loadU16 s.mem (slotAt g rd) = UInt16.ofNat x.length := by rw [haddr]; exact hheld.1
      simp only [hlen, not_corrupt g hxle rfl, if_false] at hs
      cases hs
      refine move _ _ _ ?_
      rw [hx]
      exact .afterLoads B c hn hrd (copied_toNat g hxle rfl) List.nil_prefix (Nat.zero_le _)
  case h_5 c n rd len buf =>
      obtain ⟨hn, hrd, x, hx, hlen, hbuf, hlt⟩ := hr
      have hheld := h.held _ x (le_refl _) hx
      have haddr := slotAt_of_eq g (hrd.trans h.readIdx)
      cases hs
      refine move _ _ _ ?_
      rw [hx]
      refine .afterLoads B c hn hrd hlen (append_front hbuf (by omega) ?_)
        (by rw [List.length_append, List.length_singleton]; omega)
      rw [haddr]
      exact hheld.2 _ (by omega)
  case h_6 c n rd =>
      obtain ⟨_, _, x, _, habs⟩ := hr
      cases habs
  case h_7 c n rd buf =>
      obtain ⟨hn, hrd, x, hx, hout⟩ := hr
      cases hout
      cases hs
      refine ⟨?_, .inr ⟨.pop, ?_⟩⟩
      · rw [hrd]
        exact h.release g B _ hn hx
      · obtain ⟨hlt, hget⟩ := List.getElem?_eq_some_iff.mp hx
        have hdrop : (published s).drop s.received.length = x :: (published s).drop (s.received.length + 1) := by
          rw [List.drop_eq_getElem_cons hlt, hget]
        simp only [BoundedFifo.move, fifo, List.length_take, Nat.min_eq_left h.taken_le, hdrop]
        change some _ = some (Fifo.mk (published s) ((published s).take (s.received ++ _).length))
        rw [List.length_append, List.length_singleton, List.take_succ_eq_append_getElem hlt, hget]
  case h_8 t n =>
      cases hs
      exact move _ _ _ hr
  case h_9 t n seq =>
      cases hs
      exact move _ _ _ hr
  case h_10 t n seq =>
      cases hs
      refine move _ _ _ ?_
      split
      · exact hr
      · exact hr
  case h_11 => cases hs
  case h_12 t n =>
      cases hs
      exact move _ _ _ hr

theorem step_refines {s t : State} (a : Act) (h : Inv g B s) (ho : Ordered g.slotCount.toNat (fifo s))
    (hok : Brings B s a) (hs : step g s a = some t) : Inv g B t ∧ Answers g s t := by
  have hw := h.writer
  have hr := h.reader
  cases a with
  | producer => exact writer_refines g B h ho hs
  | consumer => exact reader_refines g B h hs
  | write p =>
      simp only [step] at hs
      split at hs
      · next hp =>
        split at hs
        · cases hs
          exact keeps rfl rfl ⟨h.writeIdx, h.readIdx, h.taken_le, h.delivered, h.fits, h.held, hw, hr⟩
        · next hfit =>
          cases hs
          have hfits : Fits g p := by
            rw [UInt32.lt_iff_toNat_lt, total_toNat] at hfit
            exact Nat.not_lt.mp hfit
          exact keeps (by simp [published, inFlight, hp]) rfl
            ⟨h.writeIdx, h.readIdx, h.taken_le, h.delivered, h.fits, h.held, hfits, hr⟩
      · cases hs
  | read n =>
      simp only [step] at hs
      split at hs
      · cases hs
        exact keeps rfl rfl ⟨h.writeIdx, h.readIdx, h.taken_le, h.delivered, h.fits, h.held, hw, hok⟩
      · cases hs
  | readWait n timeoutMs =>
      simp only [step] at hs
      split at hs
      · cases hs
        exact keeps rfl rfl ⟨h.writeIdx, h.readIdx, h.taken_le, h.delivered, h.fits, h.held, hw, hok⟩
      · cases hs
  | timeout =>
      simp only [step] at hs
      split at hs
      · next hc =>
        rw [hc] at hr
        split at hs
        · cases hs
          exact keeps rfl rfl ⟨h.writeIdx, h.readIdx, h.taken_le, h.delivered, h.fits, h.held, hw, hr⟩
        · cases hs
      · cases hs

theorem fresh_inv : Inv g B fresh :=
  ⟨rfl, rfl, le_refl _, .nil, by simp [fresh, published, inFlight],
    by simp [fresh, published, inFlight], trivial, trivial⟩

/-- The shared-memory ring is a bounded queue: publishing a slot is its push,
releasing one its pop, and every other atomic step leaves the queue alone. -/
theorem ring_refines_fifo {s : State} (h : Path (step g) (Brings B) fresh s) :
    Inv g B s ∧ Reaches (BoundedFifo.move g.slotCount.toNat) BoundedFifo.empty (fifo s) := by
  obtain ⟨_, ⟨hinv, rfl, -⟩, hreach⟩ : ∃ q, (Inv g B s ∧ fifo s = q ∧ Ordered g.slotCount.toNat q) ∧
      Reaches (BoundedFifo.move g.slotCount.toNat) BoundedFifo.empty q := by
    refine Path.simulates (fun s q => Inv g B s ∧ fifo s = q ∧ Ordered g.slotCount.toNat q) ?_ ?_ h
    · exact ⟨fresh_inv g B, rfl, reaches_ordered .refl⟩
    · rintro t a u _ ⟨hinv, rfl, hordered⟩ hok hstep
      obtain ⟨hinv', hfifo | ⟨op, hop⟩⟩ := step_refines g B a hinv hordered hok hstep
      · exact ⟨fifo t, ⟨hinv', hfifo, hordered⟩, .refl⟩
      · exact ⟨fifo u, ⟨hinv', rfl, move_ordered op hordered hop⟩, .next op .refl trivial hop⟩
  exact ⟨hinv, hreach⟩

theorem InvAt.unread_eq {s : State} {xs : List (List UInt8)} (h : InvAt g B s xs)
    (hcap : xs.length ≤ s.received.length + g.slotCount.toNat) : s.received.length + unread s = xs.length := by
  have hsmall := g.count_small
  have hle := h.taken_le
  rw [unread, h.writeIdx, h.readIdx, sub_ofNat hle (by omega)]
  omega

end WaybeamVenc.RingRefinement
