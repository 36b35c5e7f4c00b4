import WaybeamVenc.OwnAudio
import WaybeamVenc.RotatingBuffer

namespace WaybeamVenc.AudioRing

open OwnAudio RotatingBuffer Runs

instance : NeZero audioRingCapacity := ⟨by decide⟩

/-- An AudioRingEntry as it lies in the array. -/
structure Entry where
  pcm : List UInt8
  length : UInt16
  timestampUs : UInt64

structure Ring where
  buf : Vector Entry audioRingCapacity
  head : Nat
  tail : Nat
  count : Nat
  dropped : UInt32

def audioRingInit : Ring := ⟨Vector.replicate _ ⟨List.replicate audioRingPcmMax 0, 0, 0⟩, 0, 0, 0, 0⟩

def memcpy (dst src : List UInt8) (n : Nat) : List UInt8 := src.take n ++ dst.drop n

/-- The bytes at a pointer, as many as its length says. -/
abbrev Frame := { pcm : List UInt8 // pcm.length < 2 ^ 16 }

def audioRingPush (r : Ring) (frame : Frame) (timestampUs : UInt64) : Ring :=
  let e := slot r.buf r.head
  let length := UInt16.ofNat frame.1.length
  let copyLen := if UInt16.ofNat audioRingPcmMax < length then UInt16.ofNat audioRingPcmMax else length
  let r := { r with
    buf := store r.buf r.head ⟨memcpy e.pcm frame.1 copyLen.toNat, copyLen, timestampUs⟩
    head := (r.head + 1) % audioRingCapacity }
  if r.count < audioRingCapacity then { r with count := r.count + 1 }
  else { r with tail := (r.tail + 1) % audioRingCapacity, dropped := r.dropped + 1 }

/-- The entry that is read and the ring behind it, none when there is none. -/
def audioRingPop (r : Ring) : Option (Entry × Ring) :=
  if r.count = 0 then none
  else some (slot r.buf r.tail, { r with tail := (r.tail + 1) % audioRingCapacity, count := r.count - 1 })

/-! What the ring is for. -/

structure Element where
  pcm : List UInt8
  length : Nat
  timestampUs : UInt64
deriving DecidableEq

def element (frame : Frame) (timestampUs : UInt64) : Element :=
  ⟨frame.1.take audioRingPcmMax, min frame.1.length audioRingPcmMax, timestampUs⟩

/-- A queue of bounded size that drops its oldest element. -/
structure Queue where
  elements : List Element
  dropped : Nat
  returned : List (Option Element)

/-- A pop_wait is one that was successful. -/
inductive Op
  | push (frame : Frame) (timestampUs : UInt64)
  | pop
  | popWait

def queueStep (q : Queue) : Op → Option Queue
  | .push frame timestampUs => some { q with
      elements := OwnAudio.audioRingPush q.elements (element frame timestampUs)
      dropped := if q.elements.length < audioRingCapacity then q.dropped else q.dropped + 1 }
  | .pop => some { q with elements := q.elements.tail, returned := q.returned ++ [q.elements.head?] }
  | .popWait =>
    match q.elements with
    | [] => none
    | e :: es => some { q with elements := es, returned := q.returned ++ [some e] }

def Entry.element (e : Entry) : Element := ⟨e.pcm.take e.length.toNat, e.length.toNat, e.timestampUs⟩

structure State where
  ring : Ring
  returned : List (Option Element)

def step (s : State) : Op → Option State
  | .push frame timestampUs => some { s with ring := audioRingPush s.ring frame timestampUs }
  | .pop =>
    match audioRingPop s.ring with
    | none => some { s with returned := s.returned ++ [none] }
    | some (e, ring) => some ⟨ring, s.returned ++ [some e.element]⟩
  | .popWait => (audioRingPop s.ring).map fun p => ⟨p.2, s.returned ++ [some p.1.element]⟩

def contents (r : Ring) : List Element := (List.range r.count).map fun i => (slot r.buf (r.tail + i)).element

/-! The ring and all that was ever pushed to it. -/

structure Holds (r : Ring) (pushed : List Element) : Prop where
  written : Written (r.buf.map Entry.element) pushed
  head : r.head = pushed.length % audioRingCapacity
  tail : r.tail = (pushed.length - r.count) % audioRingCapacity
  count : r.count ≤ min pushed.length audioRingCapacity

theorem slot_map {α β : Type} {n : Nat} [NeZero n] (f : α → β) (buf : Vector α n) (i : Nat) :
    slot (buf.map f) i = f (slot buf i) := Vector.getElem_map _ _

theorem store_map {α β : Type} {n : Nat} [NeZero n] (f : α → β) (buf : Vector α n) (i : Nat) (x : α) :
    (store buf i x).map f = store (buf.map f) i (f x) := Vector.map_set

theorem Holds.contents {r : Ring} {pushed : List Element} (h : Holds r pushed) :
    contents r = pushed.drop (pushed.length - r.count) := by
  have hcount := h.count
  rw [← h.written.newest (by omega) (by omega), AudioRing.contents]
  apply List.map_congr_left
  intro i _
  rw [slot_map, h.tail]
  congr 1
  exact slot_congr _ (Nat.mod_add_mod _ _ _)

theorem init_holds : Holds audioRingInit [] := ⟨written_nil _, rfl, rfl, Nat.zero_le _⟩

/-- What is written to a slot is what was to be queued. -/
theorem entry_element (pcm : List UInt8) (frame : Frame) (timestampUs : UInt64) :
    let copyLen := if UInt16.ofNat audioRingPcmMax < UInt16.ofNat frame.1.length then UInt16.ofNat audioRingPcmMax
      else UInt16.ofNat frame.1.length
    Entry.element ⟨memcpy pcm frame.1 copyLen.toNat, copyLen, timestampUs⟩ = element frame timestampUs := by
  intro copyLen
  have hlen : (UInt16.ofNat frame.1.length).toNat = frame.1.length := UInt16.toNat_ofNat_of_lt' frame.2
  have hmax : (UInt16.ofNat audioRingPcmMax).toNat = audioRingPcmMax := by decide
  have hcopy : copyLen.toNat = min frame.1.length audioRingPcmMax := by
    simp only [copyLen, UInt16.lt_iff_toNat_lt, hlen, hmax]
    split <;> omega
  have htake : (frame.1.take (min frame.1.length audioRingPcmMax)).length = min frame.1.length audioRingPcmMax := by
    rw [List.length_take]
    omega
  have hall : frame.1.take (min frame.1.length audioRingPcmMax) = frame.1.take audioRingPcmMax := by
    rcases Nat.le_total frame.1.length audioRingPcmMax with hle | hle
    · rw [Nat.min_eq_left hle, List.take_length, List.take_of_length_le hle]
    · rw [Nat.min_eq_right hle]
  rw [Entry.element, element, hcopy, memcpy, List.take_append_of_le_length (le_of_eq htake.symm), List.take_take,
    Nat.min_self, hall]

theorem push_holds {r : Ring} {pushed : List Element} (h : Holds r pushed) (frame : Frame) (timestampUs : UInt64) :
    Holds (audioRingPush r frame timestampUs) (pushed ++ [element frame timestampUs]) := by
  have hcount := h.count
  have hwritten : ∀ e : Entry, e.element = element frame timestampUs →
      Written ((store r.buf r.head e).map Entry.element) (pushed ++ [element frame timestampUs]) := by
    intro e he
    rw [store_map, h.head, store_mod, he]
    exact h.written.push _
  have hhead : (r.head + 1) % audioRingCapacity =
      (pushed ++ [element frame timestampUs]).length % audioRingCapacity := by
    rw [h.head, Nat.mod_add_mod, List.length_append, List.length_singleton]
  simp only [audioRingPush]
  split
  next hroom =>
    refine ⟨hwritten _ (entry_element _ frame timestampUs), hhead, ?_, ?_⟩
    · rw [List.length_append, List.length_singleton, Nat.add_sub_add_right]
      exact h.tail
    · rw [List.length_append, List.length_singleton]
      dsimp only
      omega
  next hfull =>
    refine ⟨hwritten _ (entry_element _ frame timestampUs), hhead, ?_, ?_⟩
    · rw [List.length_append, List.length_singleton]
      dsimp only
      rw [h.tail, Nat.mod_add_mod, show pushed.length - r.count + 1 = pushed.length + 1 - r.count by omega]
    · rw [List.length_append, List.length_singleton]
      dsimp only
      omega

theorem pop_holds {r r' : Ring} {e : Entry} {pushed : List Element} (h : Holds r pushed)
    (hpop : audioRingPop r = some (e, r')) : Holds r' pushed ∧ contents r = e.element :: contents r' := by
  have hcount := h.count
  rw [audioRingPop] at hpop
  split at hpop
  · cases hpop
  next hsome =>
    cases hpop
    have hafter : Holds { r with tail := (r.tail + 1) % audioRingCapacity, count := r.count - 1 } pushed := by
      refine ⟨h.written, h.head, ?_, ?_⟩
      · dsimp only
        rw [h.tail, Nat.mod_add_mod, show pushed.length - r.count + 1 = pushed.length - (r.count - 1) by omega]
      · dsimp only
        omega
    refine ⟨hafter, ?_⟩
    obtain ⟨k, hk⟩ : ∃ k, r.count = k + 1 := ⟨r.count - 1, by omega⟩
    rw [contents, contents, hk, List.range_succ_eq_map, List.map_cons, List.map_map]
    congr 1
    apply List.map_congr_left
    intro i _
    rw [Function.comp_apply]
    congr 1
    apply slot_congr
    dsimp only
    rw [Nat.mod_add_mod, Nat.add_assoc, Nat.succ_eq_one_add]

theorem pop_none_iff {r : Ring} : audioRingPop r = none ↔ r.count = 0 := by
  rw [audioRingPop]
  split <;> simp_all

/-! The queue and the ring, step by step. -/

structure Refines (s : State) (q : Queue) : Prop where
  holds : ∃ pushed, Holds s.ring pushed
  contents : contents s.ring = q.elements
  dropped : s.ring.dropped = UInt32.ofNat q.dropped
  returned : s.returned = q.returned

theorem length_contents (r : Ring) : (contents r).length = r.count := by
  rw [contents, List.length_map, List.length_range]

theorem Refines.count {s : State} {q : Queue} (h : Refines s q) : q.elements.length = s.ring.count := by
  rw [← h.contents, length_contents]

theorem push_refines {s : State} {q : Queue} (h : Refines s q) (frame : Frame) (timestampUs : UInt64) :
    ∃ q', queueStep q (.push frame timestampUs) = some q' ∧
      Refines { s with ring := audioRingPush s.ring frame timestampUs } q' := by
  obtain ⟨pushed, hholds⟩ := h.holds
  have hafter := push_holds hholds frame timestampUs
  have hcontents := hafter.contents
  have hbefore := h.contents
  rw [hholds.contents] at hbefore
  have hbound := hholds.count
  refine ⟨_, rfl, ⟨_, hafter⟩, ?_, ?_, h.returned⟩
  · dsimp only
    rw [hcontents, OwnAudio.audioRingPush, h.count]
    by_cases hroom : s.ring.count < audioRingCapacity
    · have hnew : (audioRingPush s.ring frame timestampUs).count = s.ring.count + 1 := by
        simp only [audioRingPush, if_pos hroom]
      rw [if_pos hroom, hnew, List.length_append, List.length_singleton, Nat.add_sub_add_right,
        List.drop_append_of_le_length (Nat.sub_le _ _), hbefore]
    · have hnew : (audioRingPush s.ring frame timestampUs).count = s.ring.count := by
        simp only [audioRingPush, if_neg hroom]
      have hback : pushed.length + 1 - s.ring.count = pushed.length - s.ring.count + 1 := by omega
      have hle : pushed.length - s.ring.count + 1 ≤ pushed.length := by
        have hpos : audioRingCapacity ≠ 0 := by decide
        omega
      rw [if_neg hroom, hnew, List.length_append, List.length_singleton, hback,
        List.drop_append_of_le_length hle, ← List.tail_drop, hbefore]
  · dsimp only
    rw [h.count]
    by_cases hroom : s.ring.count < audioRingCapacity
    · simp only [audioRingPush, if_pos hroom, h.dropped]
    · simp only [audioRingPush, if_neg hroom, h.dropped, UInt32.ofNat_add]
      rfl

/-- A pop of the ring is one of the queue. -/
theorem pop_refines {s : State} {q : Queue} (h : Refines s q) :
    (audioRingPop s.ring = none ∧ q.elements = []) ∨
      ∃ e r es, audioRingPop s.ring = some (e, r) ∧ q.elements = e.element :: es ∧
        ∀ returned, Refines ⟨r, returned⟩ { q with elements := es, returned := returned } := by
  obtain ⟨pushed, hholds⟩ := h.holds
  cases hpop : audioRingPop s.ring with
  | none =>
      refine .inl ⟨rfl, ?_⟩
      rw [← List.length_eq_zero_iff, h.count, pop_none_iff.mp hpop]
  | some p =>
      obtain ⟨e, r⟩ := p
      obtain ⟨hafter, hcontents⟩ := pop_holds hholds hpop
      have hdropped : r.dropped = s.ring.dropped := by
        rw [audioRingPop] at hpop
        split at hpop <;> cases hpop
        rfl
      exact .inr ⟨e, r, contents r, rfl, h.contents.symm.trans hcontents,
        fun returned => ⟨⟨pushed, hafter⟩, rfl, hdropped.trans h.dropped, rfl⟩⟩

theorem step_refines {s t : State} {q : Queue} (h : Refines s q) (op : Op) (hs : step s op = some t) :
    ∃ q', queueStep q op = some q' ∧ Refines t q' := by
  cases op with
  | push frame timestampUs =>
      obtain rfl := Option.some.inj hs
      exact push_refines h frame timestampUs
  | pop =>
      rcases pop_refines h with ⟨hpop, hempty⟩ | ⟨e, r, es, hpop, hes, hafter⟩
      · simp only [step, hpop] at hs
        obtain rfl := Option.some.inj hs
        refine ⟨_, rfl, h.holds, ?_, h.dropped, ?_⟩
        · simpa [hempty] using h.contents
        · simp [h.returned, hempty]
      · simp only [step, hpop] at hs
        obtain rfl := Option.some.inj hs
        refine ⟨_, rfl, ?_⟩
        rw [hes, h.returned]
        exact hafter _
  | popWait =>
      rcases pop_refines h with ⟨hpop, -⟩ | ⟨e, r, es, hpop, hes, hafter⟩
      · simp only [step, hpop] at hs
        cases hs
      · simp only [step, hpop] at hs
        obtain rfl := Option.some.inj hs
        rw [queueStep, hes]
        refine ⟨_, rfl, ?_⟩
        rw [h.returned]
        exact hafter _

def start : State := ⟨audioRingInit, []⟩

def empty : Queue := ⟨[], 0, []⟩

theorem start_refines : Refines start empty := ⟨⟨[], init_holds⟩, rfl, rfl, rfl⟩

/-! Whole runs. -/

def Op.isPush : Op → Bool
  | .push _ _ => true
  | _ => false

def pushes (ops : List Op) : Nat := ops.countP Op.isPush

/-- The pops that returned an element. -/
def popped (returned : List (Option Element)) : Nat := returned.countP Option.isSome

theorem popped_snoc (returned : List (Option Element)) (e : Option Element) :
    popped (returned ++ [e]) = popped returned + if e.isSome then 1 else 0 := by
  rw [popped, List.countP_append, List.countP_singleton, ← popped]

/-- Nothing that was pushed is unaccounted for. -/
theorem queueStep_count {q q' : Queue} {op : Op} (h : queueStep q op = some q') :
    popped q'.returned + q'.elements.length + q'.dropped =
      popped q.returned + q.elements.length + q.dropped + if op.isPush then 1 else 0 := by
  cases op with
  | push frame timestampUs =>
      obtain rfl := Option.some.inj h
      simp only [OwnAudio.audioRingPush, Op.isPush, if_true]
      split
      · simp only [List.length_append, List.length_singleton]
        omega
      next hfull =>
        have hpos : 0 < audioRingCapacity := by decide
        simp only [List.length_append, List.length_singleton, List.length_tail]
        omega
  | pop =>
      obtain rfl := Option.some.inj h
      rw [popped_snoc]
      cases hes : q.elements with
      | nil => simp [Op.isPush]
      | cons e es =>
          simp only [List.head?_cons, List.tail_cons, List.length_cons, Option.isSome_some, Op.isPush, if_true,
            Bool.false_eq_true, if_false]
          omega
  | popWait =>
      rw [queueStep] at h
      cases hes : q.elements with
      | nil =>
          rw [hes] at h
          cases h
      | cons e es =>
          rw [hes] at h
          obtain rfl := Option.some.inj h
          rw [popped_snoc]
          simp only [List.length_cons, Option.isSome_some, Op.isPush, if_true, Bool.false_eq_true, if_false]
          omega

theorem run_refines {ops : List Op} {s t : State} {q : Queue} (h : Refines s q) (hrun : run step s ops = some t) :
    ∃ q', run queueStep q ops = some q' ∧ Refines t q' ∧
      popped q'.returned + q'.elements.length + q'.dropped =
        popped q.returned + q.elements.length + q.dropped + pushes ops := by
  induction ops generalizing s q with
  | nil =>
      cases hrun
      exact ⟨q, rfl, h, rfl⟩
  | cons op ops ih =>
      obtain ⟨s₁, hs₁, hrest⟩ := Option.bind_eq_some_iff.mp hrun
      obtain ⟨q₁, hq₁, hrefines⟩ := step_refines h op hs₁
      obtain ⟨q', hq', hrefines', hcount⟩ := ih hrefines hrest
      refine ⟨q', ?_, hrefines', ?_⟩
      · rw [run, hq₁]
        exact hq'
      · rw [hcount, queueStep_count hq₁, pushes, pushes, List.countP_cons]
        omega

/-- The ring does what the queue does; head, tail and count agree, and the
pushes are those that were popped, are inside or were counted as dropped, up to
where the counter of the dropped ones starts again. -/
theorem ring_refines_queue {ops : List Op} {s : State} (h : run step start ops = some s) :
    (∃ q, run queueStep empty ops = some q ∧ s.returned = q.returned ∧ contents s.ring = q.elements ∧
      s.ring.dropped = UInt32.ofNat q.dropped ∧ pushes ops = popped s.returned + s.ring.count + q.dropped) ∧
    s.ring.head = (s.ring.tail + s.ring.count) % 64 ∧ s.ring.count ≤ 64 ∧
    pushes ops % 2 ^ 32 = (popped s.returned + s.ring.count + s.ring.dropped.toNat) % 2 ^ 32 := by
  obtain ⟨q, hq, hrefines, hsum⟩ := run_refines start_refines h
  obtain ⟨pushed, hholds⟩ := hrefines.holds
  have hbound := hholds.count
  have hcount : pushes ops = popped s.returned + s.ring.count + q.dropped := by
    rw [hrefines.returned, ← hrefines.count, hsum]
    simp [empty, popped]
  refine ⟨⟨q, hq, hrefines.returned, hrefines.contents, hrefines.dropped, hcount⟩, ?_, ?_, ?_⟩
  · rw [hholds.head, hholds.tail]
    change _ = _ % audioRingCapacity
    rw [Nat.mod_add_mod, Nat.sub_add_cancel (by omega)]
  · exact le_trans hbound (Nat.min_le_right _ _)
  · rw [hcount, hrefines.dropped, UInt32.toNat_ofNat', Nat.add_mod_mod]

def twoBytes : Frame := ⟨[1, 2], by decide⟩

/-- Six entries more than the ring holds, and two pops. -/
def overflowing : List Op := List.replicate 70 (.push twoBytes 7) ++ [.popWait, .pop]

theorem ring_refines_queue_overflowing :
    ∃ s, run step start overflowing = some s ∧ s.ring.dropped = 6 ∧ s.ring.count = 62 ∧
      ∃ q, run queueStep empty overflowing = some q ∧ s.returned = q.returned ∧ contents s.ring = q.elements ∧
        s.ring.dropped = UInt32.ofNat q.dropped ∧ pushes overflowing = popped s.returned + s.ring.count + q.dropped := by
  have hrun : ((run step start overflowing).map fun s => (s.ring.dropped, s.ring.count)) = some (6, 62) := by decide +kernel
  obtain ⟨s, hs, heq⟩ := Option.map_eq_some_iff.mp hrun
  obtain ⟨hdropped, hcount⟩ := Prod.mk.inj heq
  exact ⟨s, hs, hdropped, hcount, (ring_refines_queue hs).1⟩

theorem run_pushes (frame : Frame) (k : Nat) (s : State) :
    ∃ t, run step s (List.replicate k (.push frame 0)) = some t ∧ t.returned = s.returned := by
  induction k generalizing s with
  | zero => exact ⟨s, rfl, rfl⟩
  | succ k ih =>
      obtain ⟨t, ht, hreturned⟩ := ih { s with ring := audioRingPush s.ring frame 0 }
      exact ⟨t, ht, hreturned⟩

/-- After 2^32 entries that were dropped nothing is counted as dropped. -/
theorem dropped_wraps : ∃ ops s, run step start ops = some s ∧
    pushes ops ≠ popped s.returned + s.ring.count + s.ring.dropped.toNat := by
  obtain ⟨s, hs, hreturned⟩ := run_pushes twoBytes (2 ^ 32 + 64) start
  refine ⟨_, s, hs, ?_⟩
  obtain ⟨q, -, hrefines, -⟩ := run_refines start_refines hs
  obtain ⟨pushed, hholds⟩ := hrefines.holds
  have hall : pushes (List.replicate (2 ^ 32 + 64) (.push twoBytes 0)) = 2 ^ 32 + 64 := by
    rw [pushes, List.countP_replicate]
    rfl
  have hnone : popped s.returned = 0 := by
    rw [hreturned]
    rfl
  have hcount : s.ring.count ≤ 64 := le_trans hholds.count (Nat.min_le_right _ _)
  have hdropped := s.ring.dropped.toNat_lt
  rw [hall, hnone]
  omega

end WaybeamVenc.AudioRing
